import CodeHealth.Command.Checkup
import CodeHealth.Proofs.Command.Refused
import CodeHealth.Proofs.Service.Outcome
import CodeHealth.Proofs.Session.Stopping
import CodeHealth.Proofs.Session.Triage
import CodeHealth.Service.Interface
import Mathlib

/-! What commands send. Whatever a job does, it speaks to the service as its own client: reads,
changes and looks at a run add requests of that client to those that have been sent, and nothing
else does. An errand is refused before it sends anything, or it begins with a request; and then no
failure of it is about a word. -/

namespace CodeHealth

variable {β : Type}

namespace Client

variable {c : Client} {w w' w'' : World β}

/-- All that has been sent between two worlds are requests of the client. -/
def Talks (c : Client) (w w' : World β) : Prop :=
  ∃ as : List Asking, w'.sent = w.sent ++ as.map fun a => c.outgoing a.call

namespace Talks

theorem of_sent_eq (h : w'.sent = w.sent) : c.Talks w w' := ⟨[], by simp [h]⟩

theorem refl (w : World β) : c.Talks w w := of_sent_eq rfl

theorem of_asking (a : Asking) (h : w'.sent = w.sent ++ [c.outgoing a.call]) : c.Talks w w' :=
  ⟨[a], h⟩

theorem trans (h : c.Talks w w') (h' : c.Talks w' w'') : c.Talks w w'' := by
  obtain ⟨as, has⟩ := h
  obtain ⟨bs, hbs⟩ := h'
  exact ⟨as ++ bs, by rw [hbs, has, List.map_append, List.append_assoc]⟩

theorem length_le (h : c.Talks w w') : w.sent.length ≤ w'.sent.length := by
  obtain ⟨as, has⟩ := h
  rw [has, List.length_append]
  exact Nat.le_add_right _ _

/-- From the start nothing but requests of the client has been sent. -/
theorem leaves {backend : β} (h : c.Talks (.start backend) w) :
    ∀ p ∈ w.sent, c.Leaves p.1 p.2 := by
  obtain ⟨as, has⟩ := h
  intro p hp
  rw [has, World.start, List.nil_append] at hp
  obtain ⟨a, -, rfl⟩ := List.mem_map.1 hp
  exact a.leaves_request c

variable [Backend β]

theorem read (q : Query) (w : World β) : c.Talks w (q.handle.read c w).2 := by
  rcases q.handle.read_eq c w with heq | heq
  · rw [heq]
    exact refl w
  · rw [heq]
    exact of_asking (.query q) rfl

theorem revalidate (q : Query) (w : World β) : c.Talks w (q.handle.revalidate c w).2 := by
  rcases q.handle.revalidate_eq c w with heq | heq
  · rw [heq]
    exact refl w
  · rw [heq]
    exact of_asking (.query q) rfl

theorem change (x : Change) (w : World β) : c.Talks w (x.mutation.run c w).2 := by
  rcases x.mutation.run_cases c w with ⟨e, heq⟩ | ⟨e, heq⟩ | ⟨a, heq⟩
  · rw [heq]
    exact refl w
  · rw [heq]
    exact of_asking (.change x) rfl
  · rw [heq]
    exact of_asking (.change x) rfl

theorem poll (p : Poller) (w : World β) : c.Talks w (p.poll c w).2.2 := by
  have hlook := revalidate (c := c) (.runStatus p.runId) w
  rcases p.poll_cases c w with heq | ⟨p', -, heq⟩ | ⟨p', run, -, -, heq⟩
  · rw [heq]
    exact refl w
  · rw [heq]
    exact hlook
  · rw [heq]
    exact hlook.trans (of_sent_eq (Poller.sent_announce _ run))

theorem follow (p : Poller) (w : World β) (more : ℕ) : c.Talks w (p.follow c w more).2.2 := by
  induction more generalizing p w with
  | zero => exact poll p w
  | succ more ih =>
    have hpoll := poll (c := c) p w
    simp only [Poller.follow]
    rcases hlook : p.poll c w with ⟨_ | state, p', w'⟩
    · rwa [hlook] at hpoll
    · rw [hlook] at hpoll
      simp only
      split_ifs
      · exact hpoll
      · exact hpoll.trans (ih _ _)

theorem bulkMark (l : FindingsList) (status : TriageStatus) (reason : Option String)
    (w : World β) : c.Talks w (l.bulkMark status reason c w).2.2 := by
  have hchange := change (c := c) (.triageAll l.selection status reason) w
  rcases l.bulkMark_cases status reason c w with
    ⟨-, heq⟩ | ⟨-, w', ⟨e, hrun, heq⟩ | ⟨r, hrun, heq⟩⟩
  · rw [heq]
    exact refl w
  · rw [hrun] at hchange
    rw [heq]
    exact hchange
  · rw [hrun] at hchange
    rw [heq]
    exact hchange

end Talks

end Client

/-! ### Jobs -/

namespace Job

variable {α γ : Type} {c : Client} {j : Job β α} {k : α → Job β γ}

/-- A job that speaks to the service as the client, and whose failures have an explanation. -/
structure Talks (c : Client) (j : Job β α) : Prop where
  sent : ∀ w, c.Talks w (j w).2
  explained : ∀ w message, (j w).1 ≠ .error (.told message)

/-- Such a job that sends something while nothing is known yet. -/
structure Opens (c : Client) (j : Job β α) : Prop extends j.Talks c where
  opening : ∀ w, w.cache = .empty → w.sent.length < (j w).2.sent.length

theorem ofOutcome_ne_told (r : Except Explanation α × World β) (message : String) :
    (ofOutcome r).1 ≠ .error (.told message) := by
  obtain ⟨_ | _, w⟩ := r
  · exact fun h => by cases Except.error.inj h
  · exact nofun

theorem talks_pure (a : α) : (pure a : Job β α).Talks c :=
  ⟨fun w => .refl w, fun _ _ => nofun⟩

theorem bind_cases (j : Job β α) (k : α → Job β γ) (w : World β) :
    (∃ t w', j w = (.error t, w') ∧ (j >>= k) w = (.error t, w')) ∨
      ∃ a w', j w = (.ok a, w') ∧ (j >>= k) w = k a w' := by
  cases hj : j w with
  | mk r w' =>
    cases r with
    | error t => exact .inl ⟨t, w', rfl, bind_of_error hj⟩
    | ok a => exact .inr ⟨a, w', rfl, bind_of_ok hj⟩

theorem Talks.bind (hj : j.Talks c) (hk : ∀ a, (k a).Talks c) : (j >>= k).Talks c := by
  constructor
  · intro w
    have hsent := hj.sent w
    rcases bind_cases j k w with ⟨t, w', hrun, heq⟩ | ⟨a, w', hrun, heq⟩
    · rw [heq]
      rwa [hrun] at hsent
    · rw [heq]
      rw [hrun] at hsent
      exact hsent.trans ((hk a).sent w')
  · intro w message
    have hexplained := hj.explained w message
    rcases bind_cases j k w with ⟨t, w', hrun, heq⟩ | ⟨a, w', hrun, heq⟩
    · rw [heq]
      rw [hrun] at hexplained
      exact fun h => hexplained (congrArg _ (Except.error.inj h))
    · rw [heq]
      exact (hk a).explained w' message

theorem Opens.bind (hj : j.Opens c) (hk : ∀ a, (k a).Talks c) : (j >>= k).Opens c := by
  refine ⟨hj.toTalks.bind hk, fun w hempty => ?_⟩
  have hopening := hj.opening w hempty
  rcases bind_cases j k w with ⟨t, w', hrun, heq⟩ | ⟨a, w', hrun, heq⟩
  · rw [heq]
    rwa [hrun] at hopening
  · rw [heq]
    rw [hrun] at hopening
    exact hopening.trans_le ((hk a).sent w').length_le

/-- What is read is shown. -/
theorem Opens.map (hj : j.Opens c) (f : α → γ) : (do return f (← j)).Opens c :=
  hj.bind fun a => talks_pure (f a)

/-- A word is complained about, or the job goes on with what it stands for. -/
theorem word_bind_cases (α : Type) [Spelling α] (flag word : String) (k : α → Job β γ) :
    ((∀ a : α, ¬ Spelling.Stands word a) ∧ ∀ w, (Job.word flag word >>= k) w =
      (.error (.told (complaint α flag word)), w)) ∨
      ∃ a : α, Spelling.Stands word a ∧ (Job.word flag word >>= k) = k a := by
  rcases word_cases (β := β) α flag word with ⟨a, hstands, hread⟩ | ⟨hnone, hread⟩
  · exact .inr ⟨a, hstands, funext fun w => bind_of_ok (hread w)⟩
  · exact .inl ⟨hnone, fun w => bind_of_error (hread w)⟩

theorem word?_bind_cases (α : Type) [Spelling α] (flag : String) (word : Option String)
    (k : Option α → Job β γ) :
    (∃ s ∈ word, (∀ a : α, ¬ Spelling.Stands s a) ∧ ∀ w, (Job.word? flag word >>= k) w =
      (.error (.told (complaint α flag s)), w)) ∨
      ∃ a : Option α, (Job.word? flag word >>= k) = k a := by
  rcases word?_cases (β := β) α flag word with ⟨a, hread⟩ | ⟨s, hs, hnone, hread⟩
  · exact .inr ⟨a, funext fun w => bind_of_ok (hread w)⟩
  · exact .inl ⟨s, hs, hnone, fun w => bind_of_error (hread w)⟩

variable {f : World β → Except Explanation α × World β}

theorem opens_ofOutcome (hsent : ∀ w, c.Talks w (f w).2)
    (hopening : ∀ w, w.cache = .empty → w.sent.length < (f w).2.sent.length) :
    (show Job β α from fun w => ofOutcome (f w)).Opens c where
  sent := hsent
  explained w message := ofOutcome_ne_told (f w) message
  opening := hopening

variable [Backend β]

theorem opens_read (q : Query) (hready : c.ready) : (Job.read c q : Job β q.Answer).Opens c := by
  refine opens_ofOutcome (f := fun w => ((q.handle.read c w).1.result, (q.handle.read c w).2))
    (fun w => .read q w) fun w hempty => ?_
  have hfresh : q.handle.fresh? w.cache = none := by
    rw [hempty]
    rfl
  have hsent : (q.handle.read c w).2.sent = w.sent ++ [c.outgoing q.call] := by
    have h := q.handle.sent_read c w hready
    rwa [hfresh] at h
  simp [hsent]

/-- Two things are read before anything is shown. -/
theorem opens_both (q r : Query) (hready : c.ready) {k : q.Answer → r.Answer → Job β α}
    (hk : ∀ a b, (k a b).Talks c) :
    (do k (← Job.read c q) (← Job.read c r)).Opens c :=
  (opens_read q hready).bind fun a => (opens_read r hready).toTalks.bind fun b => hk a b

/-- The second one is read only for the terminal. -/
theorem opens_perhaps_both (q r : Query) (hready : c.ready) (json : Bool) (f : q.Answer → α)
    (g : q.Answer → r.Answer → α) : (do
      let a ← Job.read c q
      if json then return f a
      return g a (← Job.read c r) : Job β α).Opens c := by
  refine (opens_read q hready).bind fun a => ?_
  split_ifs
  · exact talks_pure _
  · exact ((opens_read r hready).map _).toTalks

theorem opens_change (x : Change) (hready : c.ready) :
    (Job.change c x : Job β x.Answer).Opens c := by
  refine opens_ofOutcome (fun w => .change x w) fun w _ => ?_
  rw [x.mutation.sent_run c w hready]
  simp

theorem length_lt_poll {p : Poller} (hphase : p.phase = .polling) (hready : c.ready)
    (w : World β) : w.sent.length < (p.poll c w).2.2.sent.length := by
  rw [p.sent_poll c w hphase hready, List.length_append]
  exact Nat.lt_succ_self _

theorem opens_poll {p : Poller} (hphase : p.phase = .polling) (hready : c.ready) :
    (show Job β Run from fun w =>
      ofOutcome (((p.poll c w).1.getD .pending).result, (p.poll c w).2.2)).Opens c := by
  refine opens_ofOutcome (f := fun w => (((p.poll c w).1.getD .pending).result, (p.poll c w).2.2))
    (fun w => .poll p w) fun w _ => ?_
  exact length_lt_poll hphase hready w

theorem opens_follow {p : Poller} (hphase : p.phase = .polling) (hready : c.ready) (more : ℕ) :
    (show Job β Run from fun w => ofOutcome
      ((((p.follow c w more).1.bind List.getLast?).getD .pending).result,
        (p.follow c w more).2.2)).Opens c := by
  refine opens_ofOutcome (f := fun w =>
    ((((p.follow c w more).1.bind List.getLast?).getD .pending).result, (p.follow c w more).2.2))
    (fun w => .follow p w more) fun w _ => ?_
  have hpoll := length_lt_poll hphase hready w
  cases more with
  | zero => exact hpoll
  | succ more =>
    simp only [Poller.follow]
    rcases hlook : p.poll c w with ⟨_ | state, p', w'⟩
    · rwa [hlook] at hpoll
    · rw [hlook] at hpoll
      simp only
      split_ifs
      · exact hpoll
      · exact hpoll.trans_le (Client.Talks.follow _ _ more).length_le

theorem opens_bulkMark {l : FindingsList} (h : l.selection ≠ []) (status : TriageStatus)
    (reason : Option String) (hready : c.ready) :
    (show Job β BulkUpdate from fun w => ofOutcome
      ((l.bulkMark status reason c w).1, (l.bulkMark status reason c w).2.2)).Opens c := by
  refine opens_ofOutcome (f := fun w =>
    ((l.bulkMark status reason c w).1, (l.bulkMark status reason c w).2.2))
    (fun w => .bulkMark l status reason w) fun w _ => ?_
  obtain ⟨r, -, hsent⟩ := FindingsList.sent_bulkMark h status reason hready w
  simp [hsent]

end Job

/-! ### Errands -/

namespace FindingsList

theorem selection_select_ne_nil (l : FindingsList) (id : String) : (l.select id).selection ≠ [] :=
  List.ne_nil_of_mem (Selection.mem_insert.2 (.inl rfl))

theorem selection_foldl_select_ne_nil {l : FindingsList} {ids : List String}
    (h : ids ≠ [] ∨ l.selection ≠ []) : (ids.foldl select l).selection ≠ [] := by
  induction ids generalizing l with
  | nil => exact h.resolve_left (fun hne => hne rfl)
  | cons id ids ih => exact ih (.inr (l.selection_select_ne_nil id))

end FindingsList

variable [Backend β] {x : Connection}

namespace Connection

open Job

theorem opens_look (q : Query) (display : q.Answer → List Terminal.Line) (hready : x.client.ready) :
    (x.look q display : Job β _).Opens x.client :=
  (opens_read q hready).map _

theorem opens_alter (change : Change) (display : change.Answer → List Terminal.Line)
    (hready : x.client.ready) : (x.alter change display : Job β _).Opens x.client :=
  (opens_change change hready).map _

theorem opens_fix (action : FixAction) (hready : x.client.ready) :
    (x.fix action : Job β _).Opens x.client := by
  unfold fix
  split
  · exact opens_look _ _ hready
  · exact opens_alter _ _ hready
  · exact opens_alter _ _ hready
  · exact opens_alter _ _ hready
  · exact opens_alter _ _ hready
  · exact opens_alter _ _ hready
  · exact opens_alter _ _ hready
  · exact opens_alter _ _ hready
  · exact opens_look _ _ hready

theorem opens_run (id : String) (wait : Bool) (hready : x.client.ready) :
    (x.run id wait : Job β _).Opens x.client := by
  let poller : Poller := { runId := id, intervalMs := x.settings.intervalMs }
  cases wait with
  | true => exact (opens_follow (p := poller) rfl hready _).map _
  | false => exact (opens_poll (p := poller) rfl hready).map _

theorem opens_analyze (repository : String) (wait : Bool) (hready : x.client.ready) :
    (x.analyze repository wait : Job β _).Opens x.client := by
  refine (opens_change _ hready).bind fun r => ?_
  split_ifs
  · exact (opens_run r.id true hready).toTalks
  · exact talks_pure _

theorem opens_repositories (action : RepositoryAction) (hready : x.client.ready) :
    (x.repositories action : Job β _).Opens x.client := by
  cases action with
  | list page => exact opens_look _ _ hready
  | connect fullName => exact opens_alter _ _ hready
  | remove id => exact (opens_change (.remove id) hready).map _
  | history id page => exact opens_look _ _ hready

theorem opens_summary (repository : Option String) (top : UInt32) (hready : x.client.ready) :
    (x.summary repository top : Job β _).Opens x.client := by
  refine opens_both _ _ hready fun _ _ => ?_
  split_ifs <;> exact talks_pure _

theorem opens_dashboard (repository : Option String) (hready : x.client.ready) :
    (x.dashboard repository : Job β _).Opens x.client := by
  refine opens_both _ _ hready fun _ _ => ?_
  split_ifs <;> exact talks_pure _

theorem opens_billing (hready : x.client.ready) :
    (x.billing .overview : Job β _).Opens x.client := by
  refine opens_both _ _ hready fun _ _ => ?_
  split_ifs <;> exact talks_pure _

end Connection

namespace Errand

open Job

/-- An errand is refused, or it begins with a request and speaks to the service as its client. -/
def Settled (x : Connection) (e : Errand) : Prop :=
  (∃ message, e.Refused message ∧ ∀ w : World β, e.perform x w = (.error (.told message), w)) ∨
    (e.perform x : Job β _).Opens x.client

theorem settled_findings (ws : FindingWords) (page pageSize : UInt32) (sort : Option String)
    (ascending : Bool) (hready : x.client.ready) :
    Settled (β := β) x (.findings ws page pageSize sort ascending) := by
  unfold Settled
  simp only [perform, Connection.findings, FindingWords.filters, bind_assoc, pure_bind]
  rcases word?_bind_cases (β := β) Severity "severity" ws.severity _ with
    ⟨s, hs, hnone, heq⟩ | ⟨severity, heq⟩
  · exact .inl ⟨_, .severity hs hnone, heq⟩
  rw [heq]
  rcases word?_bind_cases (β := β) TriageStatus "status" ws.status _ with
    ⟨s, hs, hnone, heq⟩ | ⟨status, heq⟩
  · exact .inl ⟨_, .status hs hnone, heq⟩
  rw [heq]
  exact .inr (opens_perhaps_both _ _ hready _ _ _)

theorem settled_fixes (status confidence repository finding : Option String)
    (page pageSize : UInt32) (hready : x.client.ready) :
    Settled (β := β) x (.fixes status confidence repository finding page pageSize) := by
  unfold Settled
  simp only [perform, Connection.fixes]
  rcases word?_bind_cases (β := β) FixStatus "status" status _ with
    ⟨s, hs, hnone, heq⟩ | ⟨status', heq⟩
  · exact .inl ⟨_, .fixStatus hs hnone, heq⟩
  rw [heq]
  rcases word?_bind_cases (β := β) Confidence "confidence" confidence _ with
    ⟨s, hs, hnone, heq⟩ | ⟨confidence', heq⟩
  · exact .inl ⟨_, .confidence hs hnone, heq⟩
  rw [heq]
  exact .inr (opens_perhaps_both _ _ hready _ _ _)

theorem settled_triage {ids : List String} (hids : ids ≠ []) (status : String)
    (reason : Option String) (hready : x.client.ready) :
    Settled (β := β) x (.triage ids status reason) := by
  rcases word_bind_cases (β := β) TriageStatus "status" status _ with
    ⟨hnone, heq⟩ | ⟨status', -, heq⟩
  · exact .inl ⟨_, .triage hnone, heq⟩
  right
  rw [perform, Connection.triage, heq]
  split
  · exact Connection.opens_alter _ _ hready
  · refine (opens_bulkMark ?_ status' reason hready).map _
    exact FindingsList.selection_foldl_select_ne_nil (.inl hids)

theorem settled_trends (period : String) (repository : Option String) (hready : x.client.ready) :
    Settled (β := β) x (.trends period repository) := by
  rcases word_bind_cases (β := β) Period "period" period _ with ⟨hnone, heq⟩ | ⟨period', -, heq⟩
  · exact .inl ⟨_, .period hnone, heq⟩
  · right
    rw [perform, Connection.trends, heq]
    exact Connection.opens_look _ _ hready

theorem settled_assets (kind search : Option String) (verified : Bool) (page : UInt32)
    (hready : x.client.ready) : Settled (β := β) x (.assets kind search verified page) := by
  rcases word?_bind_cases (β := β) AssetKind "type" kind _ with
    ⟨s, hs, hnone, heq⟩ | ⟨kind', heq⟩
  · exact .inl ⟨_, .kind hs hnone, heq⟩
  · right
    rw [perform, Connection.assets, heq]
    exact Connection.opens_look _ _ hready

theorem settled_upgrade (tier : String) (seats : UInt32) (hready : x.client.ready) :
    Settled (β := β) x (.billing (.upgrade tier seats)) := by
  rcases word_bind_cases (β := β) Plan "tier" tier _ with ⟨hnone, heq⟩ | ⟨plan, hstands, heq⟩
  · exact .inl ⟨_, .tier hnone, heq⟩
  by_cases hfree : plan = .free
  · subst hfree
    refine .inl ⟨_, .freeTier hstands, fun w => ?_⟩
    rw [perform, Connection.billing, heq]
    rfl
  · right
    rw [perform, Connection.billing, heq]
    simp only [if_neg hfree]
    exact Connection.opens_alter _ _ hready

/-- Every errand that the grammar lets through is settled so. -/
theorem settled {e : Errand} (hadmissible : (Command.errand e).Admissible) (hready : x.client.ready) :
    Settled (β := β) x e := by
  cases e with
  | findings ws page pageSize sort ascending => exact settled_findings _ _ _ _ _ hready
  | finding id => exact .inr (Connection.opens_look _ _ hready)
  | summary repository top => exact .inr (Connection.opens_summary _ _ hready)
  | triage ids status reason => exact settled_triage hadmissible _ _ hready
  | fixes status confidence repository finding page pageSize =>
    exact settled_fixes _ _ _ _ _ _ hready
  | fix action => exact .inr (Connection.opens_fix _ hready)
  | dashboard repository => exact .inr (Connection.opens_dashboard _ hready)
  | trends period repository => exact settled_trends _ _ hready
  | repositories action => exact .inr (Connection.opens_repositories _ hready)
  | analyze repository wait => exact .inr (Connection.opens_analyze _ _ hready)
  | run id wait => exact .inr (Connection.opens_run _ _ hready)
  | billing action =>
    cases action with
    | overview => exact .inr (Connection.opens_billing hready)
    | invoices page => exact .inr (Connection.opens_look _ _ hready)
    | upgrade tier seats => exact settled_upgrade _ _ hready
    | portal => exact .inr (Connection.opens_alter _ _ hready)
  | assets kind search verified page => exact settled_assets _ _ _ _ hready
  | installedAssets => exact .inr (Connection.opens_look _ _ hready)
  | install slug => exact .inr (Connection.opens_alter _ _ hready)
  | uninstall slug => exact .inr ((opens_change (.uninstall slug) hready).map _)

/-- An errand speaks to the service as its client, refused or not. -/
theorem talks_perform {e : Errand} (hadmissible : (Command.errand e).Admissible)
    (hready : x.client.ready) (w : World β) : x.client.Talks w (e.perform x w).2 := by
  rcases settled (β := β) hadmissible hready with ⟨message, -, hperform⟩ | hopens
  · rw [hperform]
    exact .refl w
  · exact hopens.sent w

/-- From the start it sends nothing just if it is refused. -/
theorem sent_perform_eq_nil_iff {e : Errand} (hadmissible : (Command.errand e).Admissible)
    (hready : x.client.ready) (backend : β) :
    (e.perform x (.start backend)).2.sent = [] ↔ ∃ message, e.Refused message := by
  constructor
  · intro hsent
    rcases settled (β := β) hadmissible hready with ⟨message, hrefused, -⟩ | hopens
    · exact ⟨message, hrefused⟩
    · have hopening := hopens.opening (.start backend) rfl
      rw [hsent] at hopening
      exact absurd hopening (Nat.not_lt_zero _)
  · rintro ⟨message, hrefused⟩
    obtain ⟨told, -, hperform⟩ := perform_of_refused (β := β) hrefused x
    rw [hperform]
    rfl

end Errand

end CodeHealth
