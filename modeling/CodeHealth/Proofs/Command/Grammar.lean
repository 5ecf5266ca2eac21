import CodeHealth.Command.Grammar
import CodeHealth.Proofs.Arguments.Reader
import Mathlib

/-! What the grammar lets through. Pages start at one, there are at most a hundred entries to a
page, an order is given with what is ordered, and what is done to several things is done to one at
least: a line that says otherwise stands for no command. -/

namespace CodeHealth

open Arguments

/-- A page with a number of entries that may be asked for. -/
def Paged (page size : UInt32) : Prop := page ≠ 0 ∧ size ≠ 0 ∧ size ≤ 100

/-- What a line has to be right about for the sake of a command. -/
def Command.Admissible : Command → Prop
  | .errand (.findings _ page size sort ascending) => Paged page size ∧ (ascending → sort.isSome)
  | .errand (.triage ids _ _) => ids ≠ []
  | .errand (.fixes _ _ _ _ page size) => Paged page size
  | .errand (.fix (.approve ids)) => ids ≠ []
  | .errand (.fix (.reject ids _)) => ids ≠ []
  | .errand (.repositories (.list page)) => page ≠ 0
  | .errand (.repositories (.history _ page)) => page ≠ 0
  | .errand (.billing (.invoices page)) => page ≠ 0
  | .errand (.assets _ _ _ page) => page ≠ 0
  | _ => True

namespace Arguments

variable {ps : List Parameter} {vs : Values} {name : String}

theorem Reading.counted_eq_ok {trouble : UInt32 → Option String} {s : String} {v : Given}
    (h : Reading.counted trouble s = .ok v) : ∃ n, v = .number n ∧ trouble n = none := by
  unfold counted at h
  split at h
  · contradiction
  · split at h
    · contradiction
    · rename_i n _ _ htrouble
      exact ⟨n, (Except.ok.inj h).symm, htrouble⟩

/-- A number is the one that stands for what is absent, or has been read. -/
theorem Values.number_cases (hvs : ∀ v ∈ vs, Answers ps v) (absent : UInt32) :
    vs.number name absent = absent ∨
      ∃ q ∈ ps, q.name = name ∧ ∃ s, q.read s = .ok (.number (vs.number name absent)) := by
  unfold Values.number
  split
  · rename_i n hn
    obtain ⟨before, after, heq, -⟩ := List.lookup_eq_some_iff.1 hn
    obtain ⟨q, hq, hname, ⟨-, hflag⟩ | hread⟩ := hvs (name, .number n) (by rw [heq]; simp)
    · contradiction
    · exact .inr ⟨q, hq, hname, hread⟩
  · exact .inl rfl

/-- A number that was counted is in order, if the one that stands for it is. -/
theorem Values.trouble_number {trouble : UInt32 → Option String} (absent : UInt32)
    (hvs : ∀ v ∈ vs, Answers ps v) (hps : ∀ q ∈ ps, q.name = name → q.read = .counted trouble)
    (habsent : trouble absent = none) : trouble (vs.number name absent) = none := by
  rcases number_cases hvs absent with heq | ⟨q, hq, hname, s, hread⟩
  · rw [heq, habsent]
  · rw [hps q hq hname] at hread
    obtain ⟨n, hn, htrouble⟩ := Reading.counted_eq_ok hread
    rwa [Given.number.inj hn]

theorem Values.has_of_truth (h : vs.truth name) : vs.has name := by
  obtain ⟨before, after, heq, -⟩ := List.lookup_eq_some_iff.1 (beq_iff_eq.1 h)
  rw [has, heq]
  simp

/-- What is given where any text will do is a text. -/
theorem Values.texts_ne_nil (hvs : ∀ v ∈ vs, Answers ps v)
    (hps : ∀ q ∈ ps, q.name = name → q.arity ≠ .none ∧ q.read = .any) (h : vs.has name) :
    vs.texts name ≠ [] := by
  obtain ⟨v, hv, hname⟩ := List.any_eq_true.1 h
  obtain rfl : v.1 = name := by simpa using hname
  obtain ⟨q, hq, hqname, hflag | ⟨s, hread⟩⟩ := hvs v hv
  · exact absurd hflag.1 (hps q hq hqname).1
  · rw [(hps q hq hqname).2] at hread
    refine List.ne_nil_of_mem (a := s) (List.mem_filterMap.2 ⟨v, hv, ?_⟩)
    obtain ⟨name, value⟩ := v
    obtain rfl : value = .text s := (Except.ok.inj hread).symm
    simp

end Arguments

namespace CommandLine

variable {ps : List Parameter} {p : Progress} {name : String}

theorem pageOf_ne_zero (hp : p.Sound ps)
    (hps : ∀ q ∈ ps, q.name = "page" → q.read = pageReading) : pageOf p.given ≠ 0 := by
  have h : (if pageOf p.given = 0 then some "pages start at 1" else none) = none :=
    Values.trouble_number 1 hp.given hps (by decide)
  split_ifs at h with hzero
  exact hzero

theorem paged (hp : p.Sound ps) (hpage : ∀ q ∈ ps, q.name = "page" → q.read = pageReading)
    (hsize : ∀ q ∈ ps, q.name = "per-page" → q.read = pageSizeReading) :
    Paged (pageOf p.given) (pageSizeOf p.given) := by
  have h : (if pageSizeOf p.given = 0 then some "per-page must be at least 1"
      else if 100 < pageSizeOf p.given then some "per-page cannot exceed 100" else none) = none :=
    Values.trouble_number 20 hp.given hsize (by decide)
  split_ifs at h with hzero hlarge
  exact ⟨pageOf_ne_zero hp hpage, hzero, UInt32.not_lt.1 hlarge⟩

/-- A command that is about several things is about one at least. -/
theorem ids_ne_nil {options : List Parameter} {make : Values → Command}
    (hp : p.Sound (options ++ [operands "ids"] ++ shared))
    (hcheck : p.check (leaf name options [operands "ids"] make) = .ok ())
    (hoptions : ∀ q ∈ options, q.name ≠ "ids") : p.given.texts "ids" ≠ [] := by
  have hids : operands "ids" ∈ (leaf name options [operands "ids"] make).parameters :=
    List.mem_append_right _ (List.mem_singleton_self _)
  refine Values.texts_ne_nil hp.given ?_ ((Progress.check_eq_ok_iff.1 hcheck _ hids).1 rfl)
  intro q hq hname
  rcases List.mem_append.1 hq with hq | hq
  · rcases List.mem_append.1 hq with hq | hq
    · exact absurd hname (hoptions q hq)
    · obtain rfl := List.mem_singleton.1 hq
      exact ⟨nofun, rfl⟩
  · have hshared : ∀ r ∈ shared, r.name ≠ "ids" := by simp [shared, option, flag]
    exact absurd hname (hshared q hq)

/-- Every line that ends in the command, or in one below it, stands for an admissible one. -/
def Careful (g : Grammar Command) : Prop :=
  ∀ g' make, ∀ p : Progress, g.Below g' → g'.make = some make →
    p.Sound (g'.parameters ++ shared) → p.check g' = .ok () → (make p.given).Admissible

theorem careful_leaf {options operands : List Parameter} {make : Values → Command}
    (h : ∀ p : Progress, p.Sound (options ++ operands ++ shared) →
      p.check (leaf name options operands make) = .ok () → (make p.given).Admissible) :
    Careful (leaf name options operands make) := by
  rintro g' make' p (_ | ⟨⟨⟩, -⟩) hmake hp hcheck
  obtain rfl := Option.some.inj hmake
  exact h p hp hcheck

theorem careful_branch {commands : List (Grammar Command)} {alone : Option Command}
    (hcommands : ∀ sub ∈ commands, Careful sub) (halone : ∀ c ∈ alone, c.Admissible) :
    Careful (branch name commands alone) := by
  rintro g' make' p (_ | ⟨hsub, hbelow⟩) hmake hp hcheck
  · obtain ⟨c, hc, rfl⟩ := Option.map_eq_some_iff.1 hmake
    exact halone c hc
  · exact hcommands _ hsub g' make' p hbelow hmake hp hcheck

theorem careful_findings : Careful findings := by
  refine careful_leaf fun p hp hcheck => ?_
  cases hid : p.given.text? "id" with
  | some id => simp only [Command.Admissible]
  | none =>
    simp only [Command.Admissible]
    refine ⟨paged hp (by simp [option, page, pageSize, shared, flag])
      (by simp [option, page, pageSize, shared, flag]), fun hasc => ?_⟩
    let asc : Parameter := { name := "asc", arity := .none, needs := ["sort"] }
    have hgiven : p.given.has "asc" := Values.has_of_truth hasc
    have hneeds := ((Progress.check_eq_ok_iff.1 hcheck asc (by simp [Grammar.parameters, leaf, asc])).2
      hgiven).1
    have hsort : p.given.texts "sort" ≠ [] :=
      Values.texts_ne_nil hp.given (by simp [option, page, pageSize, shared, flag])
        (hneeds "sort" (by simp [asc]))
    exact List.isSome_head?.2 hsort

theorem careful_triage : Careful triage :=
  careful_leaf fun _ hp hcheck => ids_ne_nil hp hcheck (by simp [option])

theorem careful_fixes : Careful fixes :=
  careful_leaf fun _ hp _ => paged hp (by simp [option, page, pageSize, shared, flag])
    (by simp [option, page, pageSize, shared, flag])

theorem careful_fix : Careful fix := by
  refine careful_branch ?_ (by simp)
  simp only [List.forall_mem_cons]
  exact ⟨careful_leaf fun _ _ _ => trivial,
    careful_leaf fun _ hp hcheck => ids_ne_nil hp hcheck (by simp),
    careful_leaf fun _ hp hcheck => ids_ne_nil hp hcheck (by simp [option]),
    careful_leaf fun _ _ _ => trivial, careful_leaf fun _ _ _ => trivial,
    careful_leaf fun _ _ _ => trivial, careful_leaf fun _ _ _ => trivial, nofun⟩

theorem careful_repositories : Careful repositories := by
  refine careful_branch ?_ (by simp [Command.Admissible])
  simp only [List.forall_mem_cons]
  exact ⟨careful_leaf fun _ hp _ => pageOf_ne_zero hp (by simp [option, page, shared, flag]),
    careful_leaf fun _ _ _ => trivial, careful_leaf fun _ _ _ => trivial,
    careful_leaf fun _ hp _ => pageOf_ne_zero hp (by simp [option, operand, page, shared, flag]),
    nofun⟩

theorem careful_billing : Careful billing := by
  refine careful_branch ?_ (by simp [Command.Admissible])
  simp only [List.forall_mem_cons]
  exact ⟨careful_leaf fun _ _ _ => trivial,
    careful_leaf fun _ hp _ => pageOf_ne_zero hp (by simp [option, page, shared, flag]),
    careful_leaf fun _ _ _ => trivial, careful_leaf fun _ _ _ => trivial, nofun⟩

theorem careful_marketplace : Careful marketplace := by
  refine careful_leaf fun p hp _ => ?_
  cases p.given.truth "installed" with
  | true => exact trivial
  | false => exact pageOf_ne_zero hp (by simp [option, page, shared, flag])

theorem careful_settings : Careful settings := by
  refine careful_branch ?_ (by simp)
  simp only [List.forall_mem_cons]
  exact ⟨careful_leaf fun _ _ _ => trivial, careful_leaf fun _ _ _ => trivial,
    careful_leaf fun _ _ _ => trivial, nofun⟩

theorem careful_preferences : Careful preferences := by
  refine careful_branch ?_ (by simp)
  simp only [List.forall_mem_cons]
  exact ⟨careful_leaf fun _ _ _ => trivial, careful_leaf fun _ _ _ => trivial,
    careful_leaf fun _ _ _ => trivial, nofun⟩

theorem careful_program : Careful program.top := by
  refine careful_branch ?_ (by simp)
  simp only [List.forall_mem_cons]
  exact ⟨careful_findings, careful_leaf fun _ _ _ => trivial, careful_triage, careful_fixes,
    careful_fix, careful_leaf fun _ _ _ => trivial, careful_leaf fun _ _ _ => trivial,
    careful_repositories, careful_leaf fun _ _ _ => trivial, careful_leaf fun _ _ _ => trivial,
    careful_billing, careful_marketplace, careful_leaf fun _ _ _ => trivial,
    careful_leaf fun _ _ _ => trivial, careful_settings, careful_preferences,
    careful_leaf fun _ _ _ => trivial, careful_leaf fun _ _ _ => trivial, nofun⟩

end CommandLine

/-- A line that stands for a command stands for an admissible one. -/
theorem Invocation.admissible_of_read {env : Settings.Environment} {line : List String}
    {i : Invocation} (h : Invocation.read env line = .ok i) : i.command.Admissible := by
  obtain ⟨⟨vs, command⟩, hread, h⟩ := Settings.bind_eq_ok.1 h
  obtain rfl := Except.ok.inj h
  obtain ⟨g, make, p, hbelow, hmake, hp, hcheck, rfl⟩ := exists_made_of_readFrom .start hread
  exact CommandLine.careful_program g make p hbelow hmake hp hcheck

end CodeHealth
