import CodeHealth.Proofs.Payload
import CodeHealth.Settings.Preferences
import Mathlib

/-! The store of preferences over its whole life. Whatever the file holds at first and whichever
writes fail, the file is read as the preferences that the store has. So a change that changes
nothing needs no write, a failed one leaves nothing behind, and whoever listens is told only of what
has been written. -/

namespace CodeHealth

/-- Preferences come back from the file to which they are written. -/
theorem Preferences.read_write (p : Preferences) : shape.read p.write = some p := by
  have hback : shape.ReadsBack p := by simp [shape, Shape.ReadsBack, Shape.Fields.ReadsBack]
  exact (Shape.read_encode (Payload.isRegular_shape .preferences).2
    (Payload.fitsWord_shape .preferences) hback).2

theorem Preferences.ofFile_of_write {file file' : FileSlot} {p : Preferences}
    (h : file.write p.write = some file') : ofFile file' = p := by
  unfold FileSlot.write at h
  split_ifs at h
  obtain rfl := Option.some.inj h
  simp [ofFile, read_write]

namespace PreferenceStore

variable {ι : Type}

/-- What a store does to its surroundings. -/
inductive Deed (ι : Type) where
  | write (text : String)
  | tell (listener : ι) (value : Preferences)

/-- What comes of a call: what it gives back, the store afterwards, and the deeds in their order. -/
structure Turn (ι : Type) where
  result : Except SettingsError Preferences
  store : PreferenceStore ι
  deeds : List (Deed ι)

def Deed.told? : Deed ι → Option (ι × Preferences)
  | write _ => none
  | tell listener value => some (listener, value)

/-- The store after a call that ends well, and who has been told what. -/
def Turn.outcome (t : Turn ι) :
    Except SettingsError (PreferenceStore ι × List (ι × Preferences)) :=
  t.result.map fun _ => (t.store, t.deeds.filterMap Deed.told?)

/-- Takes over `next`, deed by deed. -/
def take (s : PreferenceStore ι) (next : Preferences) : Turn ι :=
  if next = s.current then ⟨.ok next, s, []⟩
  else
    match s.file.write next.write with
    | none => ⟨.error (.inaccessible s.path s.file.trouble), s, []⟩
    | some file =>
      let s := { s with file, current := next }
      ⟨.ok next, s, .write next.write :: s.listeners.map (.tell · next)⟩

/-- What can be done with a store. -/
inductive Act (ι : Type) where
  | update (change : Preferences → Preferences)
  | markOnboardingSeen
  | reset
  | subscribe (listener : ι)

namespace Act

/-- What is asked to change. -/
def change? : Act ι → Option (Preferences → Preferences)
  | update change => some change
  | markOnboardingSeen => some fun p => { p with onboardingSeen := true }
  | reset => some fun _ => {}
  | subscribe _ => none

def listener? : Act ι → Option ι
  | subscribe listener => some listener
  | _ => none

end Act

def step (s : PreferenceStore ι) : Act ι → Turn ι
  | .subscribe listener => ⟨.ok s.current, s.subscribe listener, []⟩
  | .update change => s.take (change s.current)
  | .markOnboardingSeen => s.take { s.current with onboardingSeen := true }
  | .reset => s.take {}

/-- The same store while writes succeed, or while they fail. -/
def allow (s : PreferenceStore ι) (writable : Bool) : PreferenceStore ι :=
  { s with file := { s.file with writable } }

/-- The store after several calls, each with whether a write succeeds in it. -/
def live (s : PreferenceStore ι) (past : List (Bool × Act ι)) : PreferenceStore ι :=
  past.foldl (fun s x => ((s.allow x.1).step x.2).store) s

/-! ### One call -/

theorem outcome_take (s : PreferenceStore ι) (next : Preferences) :
    (s.take next).outcome = s.replace next := by
  have htold (listeners : List ι) :
      (listeners.map fun l => Deed.tell l next).filterMap Deed.told? = listeners.map (·, next) := by
    rw [List.filterMap_map, ← List.filterMap_eq_map]
    rfl
  unfold take replace
  split_ifs
  · rfl
  · cases s.file.write next.write with
    | none => rfl
    | some file => exact congrArg (fun told => Except.ok (_, told)) (htold s.listeners)

/-- How a call that asks for `next` ends. An unchanged value needs no write, so it succeeds whether
or not one would; a failed write leaves everything as it was; and after a successful one the file is
read as the new value, and then all listeners are told of it in the order in which they came. -/
structure Settles (s : PreferenceStore ι) (next : Preferences) (t : Turn ι) : Prop where
  unchanged : next = s.current → t = ⟨.ok next, s, []⟩
  failed : next ≠ s.current → s.file.writable = false →
    t = ⟨.error (.inaccessible s.path s.file.trouble), s, []⟩
  changed : next ≠ s.current → s.file.writable = true →
    t.result = .ok next ∧ t.store.current = next ∧ Preferences.ofFile t.store.file = next ∧
      t.store.listeners = s.listeners ∧
      t.deeds = .write next.write :: s.listeners.map (.tell · next)

theorem settles_take (s : PreferenceStore ι) (next : Preferences) : s.Settles next (s.take next) := by
  refine ⟨fun h => if_pos h, fun h hfile => ?_, fun h hfile => ?_⟩
  · have hwrite : s.file.write next.write = none := if_neg (by simp [hfile])
    rw [take, if_neg h, hwrite]
  · obtain ⟨file, hwrite⟩ : ∃ file, s.file.write next.write = some file := ⟨_, if_pos hfile⟩
    rw [take, if_neg h, hwrite]
    exact ⟨rfl, rfl, Preferences.ofFile_of_write hwrite, rfl, rfl⟩

theorem Act.listener?_of_change {a : Act ι} {change : Preferences → Preferences}
    (h : a.change? = some change) : a.listener? = none := by
  cases a <;> first | rfl | contradiction

theorem step_of_change {a : Act ι} {change : Preferences → Preferences}
    (h : a.change? = some change) (s : PreferenceStore ι) : s.step a = s.take (change s.current) := by
  cases a <;> cases h <;> rfl

/-! ### All calls -/

/-- The file is read as the preferences that the store has, at the same path, and the listeners are
those who have subscribed. -/
structure Agrees (path : String) (listeners : List ι) (s : PreferenceStore ι) : Prop where
  current : (atPath s.path s.file : PreferenceStore ι).current = s.current
  path : s.path = path
  listeners : s.listeners = listeners

section

variable {path : String} {listeners : List ι} {s : PreferenceStore ι}

theorem Agrees.allow (h : s.Agrees path listeners) (writable : Bool) :
    (s.allow writable).Agrees path listeners :=
  ⟨h.current, h.path, h.listeners⟩

theorem Agrees.take (h : s.Agrees path listeners) (next : Preferences) :
    (s.take next).store.Agrees path listeners := by
  unfold PreferenceStore.take
  split_ifs
  · exact h
  · cases hwrite : s.file.write next.write with
    | none => exact h
    | some file => exact ⟨Preferences.ofFile_of_write hwrite, h.path, h.listeners⟩

theorem Agrees.step (h : s.Agrees path listeners) (a : Act ι) :
    (s.step a).store.Agrees path (listeners ++ a.listener?.toList) := by
  cases ha : a.change? with
  | some change =>
    rw [step_of_change ha, Act.listener?_of_change ha, Option.toList_none, List.append_nil]
    exact h.take _
  | none =>
    cases a with
    | subscribe listener => exact ⟨h.current, h.path, congrArg (· ++ [listener]) h.listeners⟩
    | _ => contradiction

end

/-- Those who have subscribed, in the order in which they came. -/
def subscribed (past : List (Bool × Act ι)) : List ι := past.filterMap fun x => x.2.listener?

theorem agrees_live (path : String) (file : FileSlot) (past : List (Bool × Act ι)) :
    ((atPath path file).live past).Agrees path (subscribed past) := by
  induction past using List.reverseRecOn with
  | nil => exact ⟨rfl, rfl, rfl⟩
  | append_singleton past x ih =>
    have hstep := (ih.allow x.1).step x.2
    rw [live, List.foldl_concat, ← live, subscribed, List.filterMap_append, ← subscribed]
    cases hx : x.2.listener? <;> simpa [hx] using hstep

/-- After any calls, with any writes failing in them, a new store at the same path would have just
the preferences of this one. Each further call that asks for a change settles it, and goes to those
who have subscribed so far. -/
theorem life_consistent (path : String) (file : FileSlot) (past : List (Bool × Act ι))
    (writable : Bool) :
    let s := ((atPath path file).live past).allow writable
    s.Agrees path (subscribed past) ∧
    (∀ a, (s.step a).store.Agrees path (subscribed past ++ a.listener?.toList)) ∧
    (∀ a change, a.change? = some change → s.Settles (change s.current) (s.step a)) ∧
    (∀ listener, s.step (.subscribe listener) = ⟨.ok s.current, s.subscribe listener, []⟩) ∧
    (∀ change, (s.step (.update change)).outcome = s.update change) ∧
    (s.step .markOnboardingSeen).outcome = s.markOnboardingSeen ∧
    (s.step .reset).outcome = s.reset := by
  intro s
  have hagrees : s.Agrees path (subscribed past) := (agrees_live path file past).allow writable
  refine ⟨hagrees, hagrees.step, fun a change ha => ?_, fun _ => rfl, fun _ => s.outcome_take _,
    s.outcome_take _, s.outcome_take _⟩
  rw [s.step_of_change ha]
  exact s.settles_take _

end PreferenceStore

end CodeHealth
