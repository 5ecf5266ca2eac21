import CodeHealth.Proofs.Cache.History
import CodeHealth.Proofs.Json.Members
import CodeHealth.Proofs.Number.Successor
import CodeHealth.Proofs.Service.Body
import CodeHealth.Proofs.Session.Exchange
import CodeHealth.Proofs.Text.Order
import Mathlib

/-! Lists of findings over whole runs. The selection is a set, kept in ascending order: an id is in
it iff it has been added and not been dropped since, and triage sends just these ids in one request.
The page is always at least one. Turning to the next page fails on the last page number that there
is. -/

namespace CodeHealth

/-! ### Selections -/

namespace Selection

/-- Each id occurs once, in ascending order of the bytes. -/
def Ascending (s : Selection) : Prop := s.Pairwise fun a b => Text.bytes a < Text.bytes b

theorem mem_insert {id x : String} {s : Selection} : x ∈ insert id s ↔ x = id ∨ x ∈ s := by
  induction s with
  | nil => simp [insert]
  | cons y s ih =>
    unfold insert
    split
    · rw [List.mem_cons]
    · rename_i heq
      rw [Text.eq_of_order_eq heq, List.mem_cons, or_self_left]
    · rw [List.mem_cons, ih, List.mem_cons, or_left_comm]

theorem Ascending.insert {s : Selection} (h : s.Ascending) (id : String) :
    (insert id s).Ascending := by
  induction s with
  | nil => exact List.pairwise_singleton _ _
  | cons y s ih =>
    obtain ⟨hfirst, hrest⟩ := List.pairwise_cons.1 h
    unfold Selection.insert
    split
    · rename_i hlt
      have hlt := Text.order_eq_lt_iff.1 hlt
      refine List.pairwise_cons.2 ⟨fun x hx => ?_, h⟩
      rcases List.mem_cons.1 hx with rfl | hx
      · exact hlt
      · exact List.lt_trans hlt (hfirst x hx)
    · exact h
    · rename_i hgt
      refine List.pairwise_cons.2 ⟨fun x hx => ?_, ih hrest⟩
      rcases mem_insert.1 hx with rfl | hx
      · exact Text.order_eq_gt_iff.1 hgt
      · exact hfirst x hx

theorem mem_insertAll {ids : List String} {x : String} {s : Selection} :
    x ∈ insertAll s ids ↔ x ∈ ids ∨ x ∈ s := by
  induction ids generalizing s with
  | nil => simp [insertAll]
  | cons id ids ih =>
    have hstep : insertAll s (id :: ids) = insertAll (insert id s) ids := rfl
    rw [hstep, ih, mem_insert, List.mem_cons, or_left_comm, or_assoc]

theorem Ascending.insertAll {s : Selection} (h : s.Ascending) (ids : List String) :
    (insertAll s ids).Ascending := by
  induction ids generalizing s with
  | nil => exact h
  | cons id ids ih => exact ih (h.insert id)

end Selection

namespace FindingsList

/-! ### What is done with a list -/

inductive Act where
  | setFilters (filters : FindingFilters)
  | setParams (params : ListParams)
  | goToPage (page : UInt32)
  | nextPage
  | previousPage
  | select (id : String)
  | deselect (id : String)
  | toggle (id : String)
  | selectPage (page : Page Finding)
  | clearSelection
  | load
  | summary
  | bulkMark (status : TriageStatus) (reason : Option String)

/-- An act with the client and the world that it finds. Between two acts anything may have happened
to both. -/
structure Occasion (β : Type) where
  client : Client
  world : World β
  act : Act

/-- An act with the list on which it is done as well. -/
structure Moment (β : Type) extends Occasion β where
  list : FindingsList

namespace Moment

variable {β : Type} [Backend β] (m : Moment β)

/-- The act breaks off, since there is no number for the next page. -/
def Fails : Prop := m.act = .nextPage ∧ m.list.nextPage = none

/-- The list and the world after the act. An act that fails leaves them alone. -/
def next : FindingsList × World β :=
  match m.act with
  | .setFilters filters => (m.list.setFilters filters, m.world)
  | .setParams params => (m.list.setParams params, m.world)
  | .goToPage page => (m.list.goToPage page, m.world)
  | .nextPage => (m.list.nextPage.getD m.list, m.world)
  | .previousPage => (m.list.previousPage, m.world)
  | .select id => (m.list.select id, m.world)
  | .deselect id => (m.list.deselect id, m.world)
  | .toggle id => (m.list.toggle id, m.world)
  | .selectPage page => (m.list.selectPage page, m.world)
  | .clearSelection => (m.list.clearSelection, m.world)
  | .load => (m.list, (m.list.load m.client m.world).2)
  | .summary => (m.list, (m.list.summary m.client m.world).2)
  | .bulkMark status reason => (m.list.bulkMark status reason m.client m.world).2

/-- The act is a triage of the selection, and it succeeds. -/
def Triages : Prop :=
  match m.act with
  | .bulkMark status reason => ∃ r, (m.list.bulkMark status reason m.client m.world).1 = .ok r
  | _ => False

/-- Turning pages, looking, and triage that fails. -/
def KeepsSelection : Prop :=
  match m.act with
  | .setParams _ | .goToPage _ | .nextPage | .previousPage | .load | .summary => True
  | .bulkMark .. => ¬ m.Triages
  | _ => False

def Adds (id : String) : Prop :=
  match m.act with
  | .select x => x = id
  | .toggle x => x = id ∧ m.list.isSelected id = false
  | .selectPage page => id ∈ page.items.map (·.id)
  | _ => False

def Drops (id : String) : Prop :=
  match m.act with
  | .deselect x => x = id
  | .toggle x => x = id ∧ m.list.isSelected id
  | .clearSelection => True
  | .setFilters filters => filters ≠ m.list.filters
  | .bulkMark .. => m.Triages
  | _ => False

end Moment

variable {β : Type} [Backend β]

/-- The moments of a run that begins with the given list. -/
def moments (l : FindingsList) : List (Occasion β) → List (Moment β)
  | [] => []
  | x :: xs =>
    let m : Moment β := ⟨x, l⟩
    m :: moments m.next.1 xs

/-- The list after a run. -/
def after (l : FindingsList) (xs : List (Occasion β)) : FindingsList :=
  xs.foldl (fun l x => (Moment.next ⟨x, l⟩).1) l

theorem moments_concat (l : FindingsList) (xs : List (Occasion β)) (x : Occasion β) :
    moments l (xs ++ [x]) = moments l xs ++ [⟨x, l.after xs⟩] := by
  induction xs generalizing l with
  | nil => rfl
  | cons y ys ih => simp [moments, ih, after]

theorem after_concat (l : FindingsList) (xs : List (Occasion β)) (x : Occasion β) :
    l.after (xs ++ [x]) = (Moment.next ⟨x, l.after xs⟩).1 := by
  simp [after]

/-! ### The selection -/

theorem isSelected_iff {l : FindingsList} {id : String} : l.isSelected id ↔ id ∈ l.selection :=
  List.contains_iff_mem

theorem isSelected_select {l : FindingsList} {id x : String} :
    (l.select x).isSelected id ↔ id = x ∨ l.isSelected id := by
  rw [isSelected_iff, isSelected_iff, select, Selection.mem_insert]

theorem isSelected_deselect {l : FindingsList} {id x : String} :
    (l.deselect x).isSelected id ↔ id ≠ x ∧ l.isSelected id := by
  simp [isSelected_iff, deselect, and_comm]

theorem isSelected_selectPage {l : FindingsList} {id : String} {page : Page Finding} :
    (l.selectPage page).isSelected id ↔ id ∈ page.items.map (·.id) ∨ l.isSelected id := by
  rw [isSelected_iff, isSelected_iff, selectPage, Selection.mem_insertAll]

theorem not_isSelected_clearSelection {l : FindingsList} {id : String} :
    ¬ l.clearSelection.isSelected id := by
  simp [isSelected_iff, clearSelection]

theorem isSelected_toggle {l : FindingsList} {id x : String} :
    (l.toggle x).isSelected id ↔
      x = id ∧ l.isSelected id = false ∨ ¬ (x = id ∧ l.isSelected id) ∧ l.isSelected id := by
  by_cases hid : id = x
  · subst hid
    cases hselected : l.isSelected id with
    | true => simp [toggle, hselected, isSelected_deselect]
    | false => simp [toggle, hselected, isSelected_select]
  · -- other ids stay as they are, whichever way `x` goes
    have hother : (l.toggle x).isSelected id ↔ l.isSelected id := by
      unfold toggle
      split_ifs
      · rw [isSelected_deselect, and_iff_right hid]
      · rw [isSelected_select, or_iff_right hid]
    simp [hother, Ne.symm hid]

theorem setFilters_self (l : FindingsList) : l.setFilters l.filters = l := if_pos rfl

/-- New filters are those that were there, or they start a new list. -/
theorem setFilters_cases (l : FindingsList) (filters : FindingFilters) :
    l.setFilters filters = l ∨
      l.setFilters filters = { filters, params := { l.params with page := 1 }, selection := [] } := by
  by_cases hsame : filters = l.filters
  · exact .inl (if_pos hsame)
  · exact .inr (if_neg hsame)

theorem selection_nextPage (l : FindingsList) :
    (l.nextPage.getD l).selection = l.selection := by
  unfold nextPage
  cases Std.PRange.succ? l.params.page <;> rfl

theorem toggle_cases (l : FindingsList) (id : String) :
    l.toggle id = l.deselect id ∨ l.toggle id = l.select id := by
  by_cases hid : l.isSelected id
  · exact .inl (if_pos hid)
  · exact .inr (if_neg hid)

namespace Moment

variable {m : Moment β}

/-- Triage clears the selection if it succeeds, and leaves the list alone otherwise. -/
theorem triages_cases {status : TriageStatus} {reason : Option String}
    (hact : m.act = .bulkMark status reason) :
    (m.Triages ∧ m.next.1 = m.list.clearSelection) ∨ (¬ m.Triages ∧ m.next.1 = m.list) := by
  have htriages : m.Triages ↔
      ∃ r, (m.list.bulkMark status reason m.client m.world).1 = .ok r := by rw [Triages, hact]
  have hnext : m.next = (m.list.bulkMark status reason m.client m.world).2 := by rw [next, hact]
  rw [htriages, hnext]
  obtain ⟨-, hrun⟩ | ⟨-, w', ⟨e, -, hrun⟩ | ⟨r, -, hrun⟩⟩ :=
    m.list.bulkMark_cases status reason m.client m.world
  · exact .inr ⟨by simp [hrun], by rw [hrun]⟩
  · exact .inr ⟨by simp [hrun], by rw [hrun]⟩
  · exact .inl ⟨⟨r, by rw [hrun]⟩, by rw [hrun]⟩

/-- What one act does to the selection. -/
theorem isSelected_next (id : String) :
    m.next.1.isSelected id ↔ m.Adds id ∨ ¬ m.Drops id ∧ m.list.isSelected id := by
  cases hact : m.act with
  | select x => simp [next, Adds, Drops, hact, isSelected_select, @eq_comm _ x]
  | deselect x => simp [next, Adds, Drops, hact, isSelected_deselect, @eq_comm _ x]
  | toggle x => simp only [next, Adds, Drops, hact, isSelected_toggle]
  | selectPage page => simp [next, Adds, Drops, hact, isSelected_selectPage]
  | clearSelection => simp [next, Adds, Drops, hact, not_isSelected_clearSelection]
  | setFilters filters =>
    by_cases hsame : filters = m.list.filters
    · simp [next, Adds, Drops, hact, hsame, setFilters_self]
    · simp [next, Adds, Drops, hact, hsame, setFilters, isSelected]
  | bulkMark status reason =>
    obtain ⟨htriages, hnext⟩ | ⟨htriages, hnext⟩ := triages_cases hact
    · simp [hnext, Adds, Drops, hact, htriages, not_isSelected_clearSelection]
    · simp [hnext, Adds, Drops, hact, htriages]
  | nextPage => simp [next, Adds, Drops, hact, isSelected, selection_nextPage]
  | _ => simp [next, Adds, Drops, hact, isSelected, setParams, goToPage, previousPage, setPage]

theorem ascending_next (h : m.list.selection.Ascending) : m.next.1.selection.Ascending := by
  have hdeselect (x : String) : (m.list.deselect x).selection.Ascending := List.Pairwise.filter _ h
  cases hact : m.act with
  | select x =>
    rw [next, hact]
    exact h.insert x
  | deselect x =>
    rw [next, hact]
    exact hdeselect x
  | toggle x =>
    simp only [next, hact]
    rcases m.list.toggle_cases x with heq | heq
    · rw [heq]
      exact hdeselect x
    · rw [heq]
      exact h.insert x
  | selectPage page =>
    rw [next, hact]
    exact h.insertAll _
  | clearSelection =>
    rw [next, hact]
    exact List.Pairwise.nil
  | setFilters filters =>
    simp only [next, hact]
    rcases m.list.setFilters_cases filters with heq | heq
    · rwa [heq]
    · rw [heq]
      exact List.Pairwise.nil
  | bulkMark status reason =>
    obtain ⟨-, hnext⟩ | ⟨-, hnext⟩ := triages_cases hact
    · rw [hnext]
      exact List.Pairwise.nil
    · rwa [hnext]
  | nextPage =>
    rw [next, hact, selection_nextPage]
    exact h
  | _ =>
    rw [next, hact]
    exact h

theorem selection_next_of_keepsSelection (h : m.KeepsSelection) :
    m.next.1.selection = m.list.selection := by
  cases hact : m.act with
  | bulkMark status reason =>
    obtain ⟨htriages, -⟩ | ⟨-, hnext⟩ := triages_cases hact
    · rw [KeepsSelection, hact] at h
      exact absurd htriages h
    · rw [hnext]
  | load | summary => rw [next, hact]
  | nextPage => rw [next, hact, selection_nextPage]
  | setParams | goToPage | previousPage =>
    rw [next, hact]
    rfl
  | _ =>
    rw [KeepsSelection, hact] at h
    exact h.elim

end Moment

/-- An id is selected iff it has been added and not been dropped since. -/
theorem isSelected_after (xs : List (Occasion β)) (id : String) :
    (after {} xs).isSelected id ↔
      Since (fun m => ¬ m.Drops id) (fun m => m.Adds id) (moments {} xs) := by
  induction xs using List.reverseRecOn with
  | nil => simp [after, isSelected, moments, not_since_nil]
  | append_singleton xs x ih =>
    rw [after_concat, moments_concat, since_concat, Moment.isSelected_next, ih]

theorem ascending_after (xs : List (Occasion β)) : (after {} xs).selection.Ascending := by
  induction xs using List.reverseRecOn with
  | nil => exact List.Pairwise.nil
  | append_singleton xs x ih =>
    rw [after_concat]
    exact Moment.ascending_next ih

/-! ### Triage of the selection -/

/-- The request gives all selected findings that status, with the reason if there is one. -/
def Asks (l : FindingsList) (status : TriageStatus) (reason : Option String) (r : Request) : Prop :=
  r.method = .post ∧ r.path = "/api/v1/findings/batch-status" ∧
  r.jsonBody? = some (.record (("finding_ids", .list (l.selection.map .text)) ::
    (Change.reasonMember reason ++ [("status", .text (Label.name status))])))

theorem plain_body (ids : List String) (status : TriageStatus) (reason : Option String) :
    (Change.triageAll ids status reason).body?.map Json.plain =
      some (.record (("finding_ids", .list (ids.map .text)) ::
        (Change.reasonMember reason ++ [("status", .text (Label.name status))]))) := by
  have hids : (ids.map Json.text).map Json.plain = ids.map .text := by
    simp [Function.comp_def, Json.plain]
  have hstatus : Text.order "status" "finding_ids" = .gt := by decide
  have hreason : Text.order "reason" "finding_ids" = .gt := by decide
  have hbefore : Text.order "reason" "status" = .lt := by decide
  cases reason <;>
    simp [Change.body?, Change.reasonMember, Change.texts, Json.plain, Json.plainMembers,
      Json.plainAll_eq_map, hids, Json.ofMembers, Json.insert, hstatus, hreason, hbefore]

theorem asks_request (l : FindingsList) (status : TriageStatus) (reason : Option String)
    (c : Client) :
    l.Asks status reason (c.request (Change.triageAll l.selection status reason).call) :=
  ⟨rfl, rfl, (Change.jsonBody?_request _ _).trans (plain_body _ _ _)⟩

theorem bulkMark_of_empty {l : FindingsList} (h : l.selection = []) (status : TriageStatus)
    (reason : Option String) (c : Client) (w : World β) :
    l.bulkMark status reason c w = (.error nothingSelected, l, w) := by
  simp [bulkMark, h]

theorem sent_bulkMark {l : FindingsList} (h : l.selection ≠ []) (status : TriageStatus)
    (reason : Option String) {c : Client} (hready : c.ready) (w : World β) :
    ∃ r, l.Asks status reason r ∧
      (l.bulkMark status reason c w).2.2.sent = w.sent ++ [(r.url c.baseUrl, r)] := by
  have hsent : ((Change.triageAll l.selection status reason).mutation.run c w).2.sent =
      w.sent ++ [c.outgoing (Change.triageAll l.selection status reason).call] :=
    Mutation.sent_run _ c w hready
  refine ⟨_, l.asks_request status reason c, Eq.trans ?_ hsent⟩
  obtain ⟨hempty, -⟩ | ⟨-, w', ⟨e, hrun, hbulk⟩ | ⟨r, hrun, hbulk⟩⟩ :=
    l.bulkMark_cases status reason c w
  · exact absurd hempty h
  · rw [hbulk, hrun]
  · rw [hbulk, hrun]

/-! ### The page -/

/-- The last page number that there is. -/
def lastPage : UInt32 := 4294967295

theorem one_le_clamp (page : UInt32) : 1 ≤ ListParams.clamp page := by
  unfold ListParams.clamp
  split_ifs with hzero
  · exact UInt32.le_refl 1
  · rw [← UInt32.toNat_inj] at hzero
    rw [UInt32.le_iff_toNat_le]
    exact Nat.one_le_iff_ne_zero.2 hzero

theorem nextPage_eq_none_iff {l : FindingsList} : l.nextPage = none ↔ l.params.page = lastPage := by
  rw [nextPage, Option.map_eq_none_iff, Number.succ?_eq_none_iff, ← UInt32.toNat_inj]
  change l.params.page.toNat + 1 = 2 ^ 32 ↔ l.params.page.toNat = 4294967295
  omega

theorem one_le_page_of_nextPage {l l' : FindingsList} (h : l.nextPage = some l') :
    1 ≤ l'.params.page := by
  obtain ⟨page, hpage, rfl⟩ := Option.map_eq_some_iff.1 h
  rw [UInt32.le_iff_toNat_le, Number.succ?_eq_some_iff.1 hpage]
  exact Nat.le_add_left 1 _

namespace Moment

variable {m : Moment β}

/-- An act keeps the page, clamps it, goes back to the first, or turns to one that has one before
it. -/
theorem one_le_page_next (h : 1 ≤ m.list.params.page)
    (hparams : ∀ p, m.act = .setParams p → 1 ≤ p.page) : 1 ≤ m.next.1.params.page := by
  cases hact : m.act with
  | nextPage =>
    rw [next, hact]
    cases hturn : m.list.nextPage with
    | none => exact h
    | some l => exact one_le_page_of_nextPage hturn
  | setParams params =>
    rw [next, hact]
    exact hparams params hact
  | goToPage page =>
    rw [next, hact]
    exact one_le_clamp page
  | previousPage =>
    rw [next, hact]
    exact one_le_clamp _
  | setFilters filters =>
    simp only [next, hact]
    rcases m.list.setFilters_cases filters with heq | heq
    · rwa [heq]
    · rw [heq]
      exact UInt32.le_refl 1
  | toggle x =>
    simp only [next, hact]
    rcases m.list.toggle_cases x with heq | heq
    · rwa [heq]
    · rwa [heq]
  | bulkMark status reason =>
    obtain ⟨-, hnext⟩ | ⟨-, hnext⟩ := triages_cases hact
    · rwa [hnext]
    · rwa [hnext]
  | _ =>
    rw [next, hact]
    exact h

omit [Backend β] in
theorem fails_iff : m.Fails ↔ m.act = .nextPage ∧ m.list.params.page = lastPage :=
  and_congr_right fun _ => nextPage_eq_none_iff

theorem next_of_fails (h : m.Fails) : m.next = (m.list, m.world) := by
  obtain ⟨hact, hnone⟩ := h
  rw [next, hact]
  simp only [hnone, Option.getD_none]

end Moment

theorem one_le_page_after (xs : List (Occasion β))
    (hparams : ∀ x ∈ xs, ∀ p, x.act = .setParams p → 1 ≤ p.page) :
    1 ≤ (after {} xs).params.page := by
  induction xs using List.reverseRecOn with
  | nil => exact UInt32.le_refl 1
  | append_singleton xs x ih =>
    obtain ⟨hbefore, hlast⟩ := List.forall_mem_append.1 hparams
    rw [after_concat]
    exact Moment.one_le_page_next (ih hbefore) (hlast x (List.mem_singleton_self x))

/-- A list after any run. An id is selected iff it has been added and not been dropped since, and
the selection is in ascending order without repetition; turning pages, looking and failed triage
keep it, and filters that are there already change nothing. Triage of nothing sends nothing, and
otherwise it is one request for just the selected ids. As long as the pages that are set exist, so
does the page on which the list is. Just one act can fail: turning the last page, which leaves
everything as it was. -/
theorem run_orderly (xs : List (Occasion β)) :
    let l := after {} xs
    (∀ id, l.isSelected id ↔
      Since (fun m => ¬ m.Drops id) (fun m => m.Adds id) (moments {} xs)) ∧
    l.selection.Ascending ∧
    (∀ m : Moment β, m.list = l → m.KeepsSelection → m.next.1.selection = l.selection) ∧
    l.setFilters l.filters = l ∧
    (∀ status reason c (w : World β), l.selection = [] →
      l.bulkMark status reason c w = (.error nothingSelected, l, w)) ∧
    (∀ status reason c (w : World β), l.selection ≠ [] → c.ready → ∃ r, l.Asks status reason r ∧
      (l.bulkMark status reason c w).2.2.sent = w.sent ++ [(r.url c.baseUrl, r)]) ∧
    ((∀ x ∈ xs, ∀ p, x.act = .setParams p → 1 ≤ p.page) → 1 ≤ l.params.page) ∧
    ∀ m : Moment β, m.list = l →
      (m.Fails ↔ m.act = .nextPage ∧ l.params.page = lastPage) ∧
      (m.Fails → m.next = (l, m.world)) := by
  intro l
  refine ⟨isSelected_after xs, ascending_after xs, ?_, l.setFilters_self, ?_, ?_,
    one_le_page_after xs, ?_⟩
  · rintro m hlist hkeeps
    rw [← hlist]
    exact Moment.selection_next_of_keepsSelection hkeeps
  · intro status reason c w hempty
    exact bulkMark_of_empty hempty status reason c w
  · intro status reason c w hselected hready
    exact sent_bulkMark hselected status reason hready w
  · rintro m hlist
    rw [← hlist]
    exact ⟨Moment.fails_iff, Moment.next_of_fails⟩

/-- Not every run goes through, whatever the page is: the last page cannot be turned. -/
theorem fails_on_lastPage :
    ¬ ∀ xs : List (Occasion Script), (∀ x ∈ xs, ∀ p, x.act = .setParams p → 1 ≤ p.page) →
      ∀ m ∈ moments {} xs, ¬ m.Fails ∧ 1 ≤ m.next.1.params.page := by
  intro h
  let occasion (act : Act) : Occasion Script :=
    ⟨⟨"http://localhost", none, true⟩, .start Script.empty, act⟩
  let turn : Moment Script := ⟨occasion .nextPage, goToPage {} lastPage⟩
  have hrun := h [occasion (.goToPage lastPage), occasion .nextPage] (by simp [occasion])
  obtain ⟨hgoes, -⟩ := hrun turn (by simp [moments, Moment.next, occasion, turn])
  exact hgoes ⟨rfl, by decide⟩

end FindingsList

end CodeHealth
