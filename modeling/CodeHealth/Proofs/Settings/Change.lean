import CodeHealth.Command.Run
import CodeHealth.Proofs.Settings.Reading
import Mathlib

/-! Setting one value in the file is a transaction: it fails and leaves everything as it was, or the
file holds the settings of before with just that value changed. It fails only for a reason: a file
that cannot be read, an unknown name, a value that does not parse or that no file can hold, or a
place that cannot be written to. -/

namespace CodeHealth

namespace Settings

/-! ### Single settings -/

/-- The settings that have a name. -/
inductive Item where
  | baseUrl
  | apiKey
  | timeoutSecs
  | intervalMs
  | maxPolls
  deriving DecidableEq

namespace Item

def key : Item → String
  | baseUrl => "api.base_url"
  | apiKey => "api.api_key"
  | timeoutSecs => "api.timeout_secs"
  | intervalMs => "polling.interval_ms"
  | maxPolls => "polling.max_polls"

abbrev Value : Item → Type
  | baseUrl => String
  | apiKey => String
  | timeoutSecs => UInt64
  | intervalMs => UInt64
  | maxPolls => UInt32

def get : (i : Item) → Settings → Option i.Value
  | baseUrl, s => s.api.baseUrl
  | apiKey, s => s.api.apiKey
  | timeoutSecs, s => s.api.timeoutSecs
  | intervalMs, s => s.polling.intervalMs
  | maxPolls, s => s.polling.maxPolls

def put : (i : Item) → i.Value → Settings → Settings
  | baseUrl, v, s => { s with api.baseUrl := some v }
  | apiKey, v, s => { s with api.apiKey := some v }
  | timeoutSecs, v, s => { s with api.timeoutSecs := some v }
  | intervalMs, v, s => { s with polling.intervalMs := some v }
  | maxPolls, v, s => { s with polling.maxPolls := some v }

/-- A text gives a value: as it stands, or as the number that it spells. -/
def Means : (i : Item) → String → i.Value → Prop
  | baseUrl, text, v => v = text
  | apiKey, text, v => v = text
  | timeoutSecs, text, n => Number.natural? text = some n.toNat
  | intervalMs, text, n => Number.natural? text = some n.toNat
  | maxPolls, text, n => Number.natural? text = some n.toNat

/-- A file can hold the value. -/
def Fits : (i : Item) → i.Value → Prop
  | timeoutSecs, n => n.toNat < 2 ^ 63
  | intervalMs, n => n.toNat < 2 ^ 63
  | _, _ => True

/-- The item has got the value, and the other settings are what they were. -/
def Changed (i : Item) (v : i.Value) (before after : Settings) : Prop :=
  i.get after = some v ∧ ∀ j, j ≠ i → j.get after = j.get before

theorem ext_get {s t : Settings} (h : ∀ i : Item, i.get s = i.get t) : s = t := by
  obtain ⟨⟨url, key, timeout⟩, ⟨interval, polls⟩⟩ := s
  have hurl := h baseUrl
  have hkey := h apiKey
  have htimeout := h timeoutSecs
  have hinterval := h intervalMs
  have hpolls := h maxPolls
  simp only [get] at *
  subst hurl hkey htimeout hinterval hpolls
  rfl

theorem changed_put (i : Item) (v : i.Value) (s : Settings) : i.Changed v s (i.put v s) := by
  cases i <;>
  · refine ⟨rfl, fun j hj => ?_⟩
    cases j <;> first | contradiction | rfl

theorem changed_iff {i : Item} {v : i.Value} {s t : Settings} :
    i.Changed v s t ↔ t = i.put v s := by
  constructor
  · intro h
    obtain ⟨hsame, hother⟩ := changed_put i v s
    refine ext_get fun j => ?_
    by_cases hj : j = i
    · subst hj
      rw [h.1, hsame]
    · rw [h.2 j hj, hother j hj]
  · rintro rfl
    exact changed_put i v s

theorem writable_put {i : Item} {v : i.Value} {s : Settings} (h : s.Writable) :
    (i.put v s).Writable ↔ i.Fits v := by
  cases i with
  | baseUrl => exact iff_of_true h trivial
  | apiKey => exact iff_of_true h trivial
  | timeoutSecs => exact ⟨fun hput => hput.1 v rfl, fun hv => ⟨by rintro n ⟨⟩; exact hv, h.2⟩⟩
  | intervalMs => exact ⟨fun hput => hput.2 v rfl, fun hv => ⟨h.1, by rintro n ⟨⟩; exact hv⟩⟩
  | maxPolls => exact iff_of_true h trivial

end Item

/-! ### Setting a value -/

theorem toNat_of_uint32 {i : ℤ} {n : UInt32} (h : WholeRange.uint32.ofInt? i = some n) :
    (n.toNat : ℤ) = i := by
  simp only [WholeRange.uint32] at h
  split_ifs at h with hself
  obtain rfl := Option.some.inj h
  exact hself

/-- Where a number is read only from itself, it is set by its own digits. -/
theorem parse_eq_ok_iff {α : Type} {range : WholeRange α} {k : α → ℕ}
    (hto : ∀ a, range.toInt a = k a) (hof : ∀ {i a}, range.ofInt? i = some a → (k a : ℤ) = i)
    {key value : String} {a : α} :
    parse range key value = .ok a ↔ Number.natural? value = some (k a) := by
  unfold parse
  cases hnumber : Number.natural? value with
  | none => simp
  | some n =>
    cases hn : range.ofInt? n with
    | none =>
      have hne : n ≠ k a := by
        rintro rfl
        rw [← hto, range.ofInt?_toInt] at hn
        contradiction
      simp [hn, hne]
    | some b =>
      have hb : k b = n := Int.ofNat.inj (hof hn)
      constructor
      · intro h
        have heq : b = a := by simpa [hn] using h
        rw [← heq, hb]
      · intro h
        have hself := range.ofInt?_toInt a
        rw [hto, ← Option.some.inj h, hn] at hself
        simpa [hn] using hself

theorem parse_uint64 {key value : String} {n : UInt64} :
    parse .uint64 key value = .ok n ↔ Number.natural? value = some n.toNat :=
  parse_eq_ok_iff (fun _ => rfl) toNat_of_uint64

theorem parse_uint32 {key value : String} {n : UInt32} :
    parse .uint32 key value = .ok n ↔ Number.natural? value = some n.toNat :=
  parse_eq_ok_iff (fun _ => rfl) toNat_of_uint32

theorem bind_eq_ok {ε α β : Type} {x : Except ε α} {f : α → Except ε β} {b : β} :
    (x >>= f) = .ok b ↔ ∃ a, x = .ok a ∧ f a = .ok b := by
  cases x with
  | error e => simp [bind, Except.bind]
  | ok a => simp [bind, Except.bind]

/-- A value is set iff the name is known and the text has a meaning for it. -/
theorem set_eq_ok_iff {s t : Settings} {key value : String} : s.set key value = .ok t ↔
    ∃ (i : Item) (v : i.Value), i.key = key ∧ i.Means value v ∧ t = i.put v s := by
  constructor
  · intro h
    unfold set at h
    split at h
    · exact ⟨.baseUrl, value, rfl, rfl, (Except.ok.inj h).symm⟩
    · exact ⟨.apiKey, value, rfl, rfl, (Except.ok.inj h).symm⟩
    · obtain ⟨n, hn, heq⟩ := bind_eq_ok.1 h
      exact ⟨.timeoutSecs, n, rfl, parse_uint64.1 hn, (Except.ok.inj heq).symm⟩
    · obtain ⟨n, hn, heq⟩ := bind_eq_ok.1 h
      exact ⟨.intervalMs, n, rfl, parse_uint64.1 hn, (Except.ok.inj heq).symm⟩
    · obtain ⟨n, hn, heq⟩ := bind_eq_ok.1 h
      exact ⟨.maxPolls, n, rfl, parse_uint32.1 hn, (Except.ok.inj heq).symm⟩
    · contradiction
  · rintro ⟨i, v, rfl, hmeans, rfl⟩
    cases i with
    | baseUrl =>
      obtain rfl : v = value := hmeans
      rfl
    | apiKey =>
      obtain rfl : v = value := hmeans
      rfl
    | timeoutSecs => exact bind_eq_ok.2 ⟨v, parse_uint64.2 hmeans, rfl⟩
    | intervalMs => exact bind_eq_ok.2 ⟨v, parse_uint64.2 hmeans, rfl⟩
    | maxPolls => exact bind_eq_ok.2 ⟨v, parse_uint32.2 hmeans, rfl⟩

/-! ### The file -/

/-- The settings of before: those of the file, or none where there is no file. -/
def Before (place : Place) (s : Settings) : Prop :=
  if place.file.isThere then loadFile place.path place.file = .ok s else s = {}

theorem Before.writable {place : Place} {s : Settings} (h : Before place s) : s.Writable := by
  unfold Before at h
  split_ifs at h
  · unfold loadFile at h
    split at h
    · contradiction
    · split at h
      · rename_i hread
        obtain rfl := Except.ok.inj h
        exact writable_of_read hread
      · contradiction
  · subst h
    exact ⟨by rintro n ⟨⟩, by rintro n ⟨⟩⟩

theorem loadFile_of_save {s : Settings} {path : String} {file file' : FileSlot}
    (h : s.save path file = .ok file') :
    file.writable ∧ s.Writable ∧ loadFile path file' = .ok s := by
  cases hfile : file.writable with
  | false =>
    rw [save_of_blocked s path hfile] at h
    contradiction
  | true =>
    by_cases hs : s.Writable
    · obtain ⟨file₁, hsave, hload⟩ := save_of_writable hs path hfile
      obtain rfl := Except.ok.inj (hsave.symm.trans h)
      exact ⟨rfl, hs, hload⟩
    · rw [save_of_not_writable hs path hfile] at h
      contradiction

end Settings

open Settings

theorem SettingsAction.change_eq_ok_iff {place place' : Place} {key value : String} :
    change place key value = .ok place' ↔ ∃ before after file, Before place before ∧
      before.set key value = .ok after ∧ after.save place.path place.file = .ok file ∧
      place' = { place with file } := by
  by_cases hthere : place.file.isThere
  · simp only [change, Before, if_pos hthere, bind_eq_ok]
    constructor
    · rintro ⟨before, hload, after, hset, file, hsave, heq⟩
      exact ⟨before, after, file, hload, hset, hsave, (Except.ok.inj heq).symm⟩
    · rintro ⟨before, after, file, hload, hset, hsave, rfl⟩
      exact ⟨before, hload, after, hset, file, hsave, rfl⟩
  · simp only [change, Before, if_neg hthere, bind_eq_ok]
    constructor
    · rintro ⟨before, hload, after, hset, file, hsave, heq⟩
      exact ⟨before, after, file, (Except.ok.inj hload).symm, hset, hsave,
        (Except.ok.inj heq).symm⟩
    · rintro ⟨before, after, file, rfl, hset, hsave, rfl⟩
      exact ⟨{}, rfl, after, hset, file, hsave, rfl⟩

/-- A successful change is one of a single value. -/
theorem SettingsAction.changed_of_change {place place' : Place} {key value : String}
    (h : change place key value = .ok place') :
    ∃ file before after, Before place before ∧ place' = { place with file } ∧
      loadFile place.path file = .ok after ∧
      ∃ (x : Item) (v : x.Value), x.key = key ∧ x.Means value v ∧ x.Changed v before after := by
  obtain ⟨before, after, file, hbefore, hset, hsave, rfl⟩ := change_eq_ok_iff.1 h
  obtain ⟨x, v, hkey, hmeans, hafter⟩ := set_eq_ok_iff.1 hset
  exact ⟨file, before, after, hbefore, rfl, (loadFile_of_save hsave).2.2, x, v, hkey, hmeans,
    Item.changed_iff.2 hafter⟩

/-- Since the settings of before can be written, all depends on the new value. -/
theorem SettingsAction.change_succeeds_iff {place : Place} {key value : String} :
    (∃ place', change place key value = .ok place') ↔
      place.file.writable ∧ (∃ before, Before place before) ∧
        ∃ (x : Item) (v : x.Value), x.key = key ∧ x.Means value v ∧ x.Fits v := by
  constructor
  · rintro ⟨place', h⟩
    obtain ⟨before, after, file, hbefore, hset, hsave, -⟩ := change_eq_ok_iff.1 h
    obtain ⟨x, v, hkey, hmeans, rfl⟩ := set_eq_ok_iff.1 hset
    obtain ⟨hfile, hwritable, -⟩ := loadFile_of_save hsave
    exact ⟨hfile, ⟨before, hbefore⟩, x, v, hkey, hmeans,
      (Item.writable_put hbefore.writable).1 hwritable⟩
  · rintro ⟨hfile, ⟨before, hbefore⟩, x, v, hkey, hmeans, hfits⟩
    have hwritable := (Item.writable_put hbefore.writable).2 hfits
    obtain ⟨file, hsave, -⟩ := save_of_writable hwritable place.path hfile
    have hset : before.set key value = .ok (x.put v before) :=
      set_eq_ok_iff.2 ⟨x, v, hkey, hmeans, rfl⟩
    exact ⟨_, change_eq_ok_iff.2 ⟨before, _, file, hbefore, hset, hsave, rfl⟩⟩

/-- The command changes the place of the settings, or fails. -/
theorem SettingsAction.perform_set_cases (home : Home) (env : Environment) (json : Bool)
    (key value : String) :
    (∃ e, (set key value).perform home env json = .error e ∧
      ∀ place ∈ home.settings, ¬ ∃ place', change place key value = .ok place') ∨
    ∃ lines, ∃ place ∈ home.settings, ∃ place', change place key value = .ok place' ∧
      (set key value).perform home env json =
        .ok (lines, { home with settings := some place' }) := by
  cases hplace : home.settings with
  | none =>
    refine .inl ⟨.noDirectory, ?_, by rintro place ⟨⟩⟩
    simp [perform, hplace]
  | some place =>
    cases hchange : change place key value with
    | error e =>
      refine .inl ⟨e, ?_, ?_⟩
      · simp only [perform, hplace, hchange]
        rfl
      · rintro place ⟨⟩ ⟨place', h⟩
        rw [hchange] at h
        contradiction
    | ok place' =>
      refine .inr ⟨Display.changed key place'.path, place, rfl, place', hchange, ?_⟩
      simp only [perform, hplace, hchange]
      rfl

variable {β : Type} [Backend β]

/-- Setting a value is a transaction. Whatever the file holds, the command fails and leaves the home
as it was, or it ends well and the file is read as the settings of before with just that value
changed. It ends well iff the place can be written to, the settings of before can be read, the name
is known, and the text has a meaning for it that a file can hold. -/
theorem set_transaction (env : Environment) (home : Home) (w : World β) {i : Invocation}
    {key value : String} (hi : i.command = .settings (.set key value)) :
    let o := i.run env home w
    (o.ending ≠ .done → (∃ t, o.ending = .failed t) ∧ o.home = home) ∧
    (o.ending = .done → ∃ place ∈ home.settings, ∃ file before after, Before place before ∧
      o.home = { home with settings := some { place with file } } ∧
      loadFile place.path file = .ok after ∧
      ∃ (x : Item) (v : x.Value), x.key = key ∧ x.Means value v ∧ x.Changed v before after) ∧
    (o.ending = .done ↔ ∃ place ∈ home.settings, place.file.writable ∧
      (∃ before, Before place before) ∧
      ∃ (x : Item) (v : x.Value), x.key = key ∧ x.Means value v ∧ x.Fits v) := by
  intro o
  have hrun : o = .ofLocal home w ((SettingsAction.set key value).perform home env i.json) := by
    simp only [o, Invocation.run, hi]
  rcases SettingsAction.perform_set_cases home env i.json key value with
    ⟨e, hperform, hnone⟩ | ⟨lines, place, hplace, place', hchange, hperform⟩
  · rw [hperform] at hrun
    have hending : o.ending = .failed (.told e.fullMessage) := by rw [hrun]; rfl
    have hnot : o.ending ≠ .done := by rw [hending]; exact nofun
    refine ⟨fun _ => ⟨⟨_, hending⟩, by rw [hrun]; rfl⟩, fun h => absurd h hnot,
      fun h => absurd h hnot, ?_⟩
    rintro ⟨place, hplace, hsucceeds⟩
    exact absurd (SettingsAction.change_succeeds_iff.2 hsucceeds) (hnone place hplace)
  · rw [hperform] at hrun
    have hending : o.ending = .done := by rw [hrun]; rfl
    refine ⟨fun h => absurd hending h, fun _ => ?_, fun _ => ?_, fun _ => hending⟩
    · obtain ⟨file, before, after, hbefore, rfl, hload, hitem⟩ :=
        SettingsAction.changed_of_change hchange
      exact ⟨place, hplace, file, before, after, hbefore, by rw [hrun]; rfl, hload, hitem⟩
    · exact ⟨place, hplace, SettingsAction.change_succeeds_iff.1 ⟨place', hchange⟩⟩

/-- One value is set, and the next one is refused because no file can hold it. -/
theorem set_transaction_interval :
    let place : Place := ⟨"cloud.toml", .holding "[api]\nbase_url = \"u\"\n"⟩
    let home : Home := ⟨some place, none⟩
    let set (value : String) : Invocation :=
      ⟨none, false, .settings (.set "polling.interval_ms" value)⟩
    let o (value : String) := (set value).run [] home (.start Script.empty)
    (o "250").ending = .done ∧ (o "9223372036854775808").home = home := by
  intro place home set o
  have hfirst := set_transaction [] home (.start Script.empty) (i := set "250") rfl
  have hsecond := set_transaction [] home (.start Script.empty) (i := set "9223372036854775808") rfl
  have hbefore : Before place { api.baseUrl := some "u" } := by
    have hload : loadFile place.path place.file = .ok { api.baseUrl := some "u" } := by
      decide +kernel
    simpa only [Before, if_pos (show place.file.isThere = true from rfl)] using hload
  constructor
  · have hmeans : Number.natural? "250" = some (250 : UInt64).toNat := by decide
    have hfits : (250 : UInt64).toNat < 2 ^ 63 := by decide
    exact hfirst.2.2.2 ⟨place, rfl, rfl, ⟨_, hbefore⟩, .intervalMs, 250, rfl, hmeans, hfits⟩
  · refine (hsecond.1 fun hdone => ?_).2
    obtain ⟨place', -, -, -, x, v, hkey, hmeans, hfits⟩ := hsecond.2.2.1 hdone
    have hx : x = .intervalMs := by cases x <;> first | rfl | exact absurd hkey (by decide)
    subst hx
    have hnumber : Number.natural? "9223372036854775808" = some (2 ^ 63) := by decide +kernel
    have hv : 2 ^ 63 = v.toNat := Option.some.inj (hnumber.symm.trans hmeans)
    exact absurd hfits (not_lt.2 hv.le)

end CodeHealth
