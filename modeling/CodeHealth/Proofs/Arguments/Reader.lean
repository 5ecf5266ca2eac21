import CodeHealth.Arguments.Reader
import CodeHealth.Proofs.Settings.Change
import Mathlib

/-! What a line that has been read is known to be. Every value in it was given for a parameter of its
command and read as that parameter says, and at the end the command was checked: what is required is
there, and nothing that excludes each other. -/

namespace CodeHealth.Arguments

open Settings (bind_eq_ok)

variable {γ : Type} {ps : List Parameter} {p p' : Progress}

/-- A value under the name of a parameter that has read it, or that takes none. -/
def Answers (ps : List Parameter) (v : String × Given) : Prop :=
  ∃ q ∈ ps, q.name = v.1 ∧ ((q.arity = .none ∧ v.2 = .truth true) ∨ ∃ s, q.read s = .ok v.2)

namespace Progress

/-- All that has come in belongs to the given parameters. -/
structure Sound (ps : List Parameter) (p : Progress) : Prop where
  given : ∀ v ∈ p.given, Answers ps v
  pending : ∀ q ∈ p.pending, q.1 ∈ ps

theorem Sound.start : Sound ps {} := ⟨nofun, by rintro _ ⟨⟩⟩

theorem exists_of_mem_mapM {α β ε : Type} {f : α → Except ε β} {xs : List α} {ys : List β} {y : β}
    (h : xs.mapM f = .ok ys) (hy : y ∈ ys) : ∃ x, f x = .ok y := by
  induction xs generalizing ys with
  | nil =>
    obtain rfl := Except.ok.inj h
    contradiction
  | cons x xs ih =>
    rw [List.mapM_cons, bind_eq_ok] at h
    obtain ⟨z, hz, h⟩ := h
    obtain ⟨zs, hzs, h⟩ := bind_eq_ok.1 h
    obtain rfl := Except.ok.inj h
    rcases List.mem_cons.1 hy with rfl | hy
    · exact ⟨x, hz⟩
    · exact ih hzs hy

theorem Sound.enter {q : Parameter} {vs : List String} (hp : p.Sound ps) (hq : q ∈ ps)
    (h : p.enter q vs = .ok p') : p'.Sound ps := by
  unfold Progress.enter at h
  split_ifs at h
  obtain ⟨read, hread, h⟩ := bind_eq_ok.1 h
  obtain rfl := Except.ok.inj h
  refine ⟨?_, hp.pending⟩
  intro v hv
  rcases List.mem_append.1 hv with hv | hv
  · exact hp.given v hv
  · obtain ⟨value, hvalue, rfl⟩ := List.mem_map.1 hv
    exact ⟨q, hq, rfl, .inr (exists_of_mem_mapM hread hvalue)⟩

theorem Sound.settle (hp : p.Sound ps) (h : p.settle = .ok p') : p'.Sound ps := by
  unfold Progress.settle at h
  split at h
  · obtain rfl := Except.ok.inj h
    exact hp
  · contradiction
  · rename_i q vs hfilled hpending
    have hrest : Sound ps { p with pending := none } := ⟨hp.given, by rintro _ ⟨⟩⟩
    exact hrest.enter (hp.pending _ hpending) h

theorem Sound.await {q : Parameter} {vs : List String} {position : ℕ} (hp : p.Sound ps) (hq : q ∈ ps) :
    Sound ps { p with pending := some (q, vs), position } :=
  ⟨hp.given, by rintro _ ⟨⟩; exact hq⟩

theorem Sound.takeLong {options : List Parameter} {version : Bool} {name : String}
    {value : Option String} (hp : p.Sound ps) (hoptions : options ⊆ ps)
    (h : p.takeLong options version name value = .ok p') : p'.Sound ps := by
  unfold Progress.takeLong at h
  split at h
  · rename_i q hfind
    have hq : q ∈ ps := hoptions (List.mem_of_find?_eq_some hfind)
    split at h
    · rename_i harity
      obtain ⟨p₁, hsettle, h⟩ := bind_eq_ok.1 h
      split_ifs at h
      obtain rfl := Except.ok.inj h
      have hp₁ := hp.settle hsettle
      refine ⟨fun v hv => ?_, hp₁.pending⟩
      rcases List.mem_append.1 hv with hv | hv
      · exact hp₁.given v hv
      · obtain rfl := List.mem_singleton.1 hv
        exact ⟨q, hq, rfl, .inl ⟨harity, rfl⟩⟩
    · contradiction
    · obtain ⟨p₁, hsettle, h⟩ := bind_eq_ok.1 h
      exact (hp.settle hsettle).enter hq h
    · obtain ⟨p₁, hsettle, h⟩ := bind_eq_ok.1 h
      obtain rfl := Except.ok.inj h
      exact (hp.settle hsettle).await hq
  · split_ifs at h
  · split_ifs at h
    · obtain ⟨-, -, h⟩ := bind_eq_ok.1 h
      contradiction
    · obtain ⟨-, -, h⟩ := bind_eq_ok.1 h
      contradiction

theorem Sound.takeOperand {g : Grammar γ} {a : String} (hp : p.Sound ps) (hoperands : g.operands ⊆ ps)
    (h : p.takeOperand g a = .ok p') : p'.Sound ps := by
  unfold Progress.takeOperand at h
  split at h
  · split_ifs at h
  · rename_i q hget
    have hq : q ∈ ps := hoperands (List.mem_of_getElem? hget)
    split at h
    · split_ifs at h
      · obtain rfl := Except.ok.inj h
        exact hp.await hq
      · obtain ⟨p₁, hsettle, h⟩ := bind_eq_ok.1 h
        obtain rfl := Except.ok.inj h
        exact (hp.settle hsettle).await hq
    · obtain rfl := Except.ok.inj h
      exact hp.await hq
    · obtain ⟨p₁, hsettle, h⟩ := bind_eq_ok.1 h
      obtain rfl := Except.ok.inj h
      exact (hp.settle hsettle).await hq

/-- One argument of a line keeps what is known of those before it. -/
theorem Sound.take {shared : List Parameter} {g : Grammar γ} {version : Bool} {a : String}
    (hp : p.Sound (g.parameters ++ shared)) (h : p.take shared g version a = .ok p') :
    p'.Sound (g.parameters ++ shared) := by
  have hoptions : g.options ++ shared ⊆ g.parameters ++ shared := by
    intro q hq
    simp only [Grammar.parameters, List.mem_append] at hq ⊢
    tauto
  have hoperands : g.operands ⊆ g.parameters ++ shared := by
    intro q hq
    simp only [Grammar.parameters, List.mem_append]
    tauto
  unfold Progress.take at h
  split_ifs at h
  · exact hp.takeOperand hoperands h
  · split at h
    · obtain rfl := Except.ok.inj h
      exact ⟨hp.given, hp.pending⟩
    · exact hp.takeLong hoptions h
    · unfold takeShort at h
      split_ifs at h
      · obtain ⟨-, -, h⟩ := bind_eq_ok.1 h
        contradiction
      · obtain ⟨-, -, h⟩ := bind_eq_ok.1 h
        contradiction
    · split at h
      · rename_i q hpending
        obtain rfl := Except.ok.inj h
        exact hp.await (hp.pending _ hpending)
      · exact hp.takeOperand hoperands h

/-- What a command asks of its values at the end: what is required is there, and with all that is
given is what it needs and nothing that it excludes. -/
theorem check_eq_ok_iff {g : Grammar γ} : p.check g = .ok () ↔ ∀ q ∈ g.parameters,
    (q.required → p.given.has q.name) ∧ (p.given.has q.name →
      (∀ name ∈ q.needs, p.given.has name) ∧ ∀ name ∈ q.excludes, ¬ p.given.has name) := by
  simp only [check]
  split_ifs with hexcluded hmissing
  · simp only [false_iff]
    intro h
    obtain ⟨q, hq, hany⟩ := List.any_eq_true.1 hexcluded
    obtain ⟨hq, hgiven⟩ := List.mem_filter.1 hq
    obtain ⟨name, hname, hhas⟩ := List.any_eq_true.1 hany
    exact ((h q hq).2 hgiven).2 name hname hhas
  · simp only [false_iff]
    intro h
    rcases Bool.or_eq_true_iff.1 hmissing with hrequired | hneeded
    · obtain ⟨q, hq, hnot⟩ := List.any_eq_true.1 hrequired
      obtain ⟨hrequired, hnot⟩ := Bool.and_eq_true_iff.1 hnot
      simp [(h q hq).1 hrequired] at hnot
    · obtain ⟨q, hq, hany⟩ := List.any_eq_true.1 hneeded
      obtain ⟨hq, hgiven⟩ := List.mem_filter.1 hq
      obtain ⟨name, hname, hnot⟩ := List.any_eq_true.1 hany
      simp [((h q hq).2 hgiven).1 name hname] at hnot
  · simp only [true_iff]
    intro q hq
    simp only [List.any_filter, List.any_eq_true, Bool.or_eq_true, Bool.and_eq_true,
      Bool.not_eq_true', not_or, not_exists, not_and] at hexcluded hmissing
    refine ⟨fun hrequired => ?_, fun hgiven => ⟨fun name hname => ?_, fun name hname => ?_⟩⟩
    · exact Bool.not_eq_false _ ▸ hmissing.1 q hq hrequired
    · exact Bool.not_eq_false _ ▸ hmissing.2 q hq hgiven name hname
    · exact hexcluded q hq hgiven name hname

end Progress

/-- A command, and the commands below it at any depth. -/
inductive Grammar.Below : Grammar γ → Grammar γ → Prop where
  | self (g : Grammar γ) : Below g g
  | command {g sub g' : Grammar γ} (hsub : sub ∈ g.commands) (h : Below sub g') : Below g g'

/-- A line that has been read means what one of the commands makes of values that belong to it and
that fit together. -/
theorem exists_made_of_readFrom {shared : List Parameter} {isPreset isTop : Bool} {g : Grammar γ}
    {line : List String} {vs : Values} {meaning : γ} (hp : p.Sound (g.parameters ++ shared))
    (h : readFrom shared isPreset g isTop p line = .ok (vs, meaning)) :
    ∃ g' make, ∃ p' : Progress, g.Below g' ∧ g'.make = some make ∧
      p'.Sound (g'.parameters ++ shared) ∧ p'.check g' = .ok () ∧ meaning = make p'.given := by
  induction line generalizing g isTop p vs meaning with
  | nil =>
    obtain ⟨p₁, hsettle, h⟩ := bind_eq_ok.1 h
    split at h
    · contradiction
    · rename_i make hmake
      obtain ⟨_, hcheck, h⟩ := bind_eq_ok.1 h
      obtain ⟨-, rfl⟩ := Prod.mk.inj (Except.ok.inj h)
      exact ⟨g, make, p₁, .self g, hmake, hp.settle hsettle, hcheck, rfl⟩
  | cons a rest ih =>
    unfold readFrom at h
    split_ifs at h
    · split at h
      · contradiction
      · rename_i sub hsub
        obtain ⟨⟨below, meaning'⟩, hread, h⟩ := bind_eq_ok.1 h
        obtain ⟨p₁, -, h⟩ := bind_eq_ok.1 h
        obtain ⟨_, -, h⟩ := bind_eq_ok.1 h
        obtain ⟨-, rfl⟩ := Prod.mk.inj (Except.ok.inj h)
        obtain ⟨g', make, p', hbelow, hrest⟩ := ih .start hread
        exact ⟨g', make, p', .command (List.mem_of_find?_eq_some hsub) hbelow, hrest⟩
    · obtain ⟨p₁, htake, h⟩ := bind_eq_ok.1 h
      exact ih (hp.take htake) h

end CodeHealth.Arguments
