import CodeHealth.Command.Run
import CodeHealth.Proofs.Json.Flat
import CodeHealth.Proofs.Settings.InForce
import Mathlib

/-! What is shown of the settings in force. As a value they are shown item by item, with the key
replaced, and on the terminal as they take effect; both ways the key counts only as one that is set
or not. On the terminal the file is mentioned as well, with its path and whether it is there, so what
is shown there depends on the file too, even if the settings do not. -/

namespace CodeHealth

open Terminal (Line)

namespace Settings

variable {s t : Settings}

/-! ### Without the key -/

/-- The settings agree on all but the key. -/
def SameButKey (s t : Settings) : Prop := ∀ i : Item, i ≠ .apiKey → i.get s = i.get t

/-- The settings have the same effect, whoever talks to the service. -/
structure SameEffect (s t : Settings) : Prop where
  baseUrl : s.baseUrl = t.baseUrl
  timeoutSecs : s.timeoutSecs = t.timeoutSecs
  intervalMs : s.intervalMs = t.intervalMs
  maxPolls : s.maxPolls = t.maxPolls

theorem SameButKey.sameEffect (h : SameButKey s t) : SameEffect s t where
  baseUrl := congrArg (·.getD defaultUrl) (h .baseUrl nofun)
  timeoutSecs := congrArg (·.getD 30) (h .timeoutSecs nofun)
  intervalMs := congrArg (·.getD 2000) (h .intervalMs nofun)
  maxPolls := congrArg (·.getD 300) (h .maxPolls nofun)

theorem get_redacted_of_ne {i : Item} (h : i ≠ .apiKey) (s : Settings) :
    i.get s.redacted = i.get s := by
  cases i <;> first | rfl | contradiction

/-- Of the key it is left whether it is set. -/
theorem redacted_eq_iff :
    s.redacted = t.redacted ↔ s.hasApiKey = t.hasApiKey ∧ SameButKey s t := by
  have hkey : Item.apiKey.get s.redacted = Item.apiKey.get t.redacted ↔
      s.hasApiKey = t.hasApiKey := by
    simp only [Item.get, redacted, hasApiKey]
    cases s.api.apiKey <;> cases t.api.apiKey <;> simp
  constructor
  · intro h
    refine ⟨hkey.1 (by rw [h]), fun i hi => ?_⟩
    rw [← get_redacted_of_ne hi s, ← get_redacted_of_ne hi t, h]
  · rintro ⟨hset, hsame⟩
    refine Item.ext_get fun i => ?_
    by_cases hi : i = .apiKey
    · subst hi
      exact hkey.2 hset
    · rw [get_redacted_of_ne hi, get_redacted_of_ne hi, hsame i hi]

/-! ### As a value -/

namespace Item

/-- The section of an item, and its name there. -/
def place : Item → String × String
  | baseUrl => ("api", "base_url")
  | apiKey => ("api", "api_key")
  | timeoutSecs => ("api", "timeout_secs")
  | intervalMs => ("polling", "interval_ms")
  | maxPolls => ("polling", "max_polls")

/-- The value of an item in a record of all. -/
def json : (i : Item) → Option i.Value → Json
  | baseUrl, v => (v.map Json.text).getD .null
  | apiKey, v => (v.map Json.text).getD .null
  | timeoutSecs, v => (v.map fun n => Json.whole n.toNat).getD .null
  | intervalMs, v => (v.map fun n => Json.whole n.toNat).getD .null
  | maxPolls, v => (v.map fun n => Json.whole n.toNat).getD .null

theorem isFlat_json (i : Item) (v : Option i.Value) : (i.json v).IsFlat := by
  cases v with
  | none => cases i <;> exact Json.isFlat_null
  | some v =>
    cases i with
    | baseUrl => exact Json.isFlat_text v
    | apiKey => exact Json.isFlat_text v
    | timeoutSecs => exact Json.isFlat_uint64 v
    | intervalMs => exact Json.isFlat_uint64 v
    | maxPolls => exact Json.isFlat_uint32 v

theorem plain_json (i : Item) (v : Option i.Value) : (i.json v).plain = i.json v := by
  cases v <;> cases i <;> rfl

/-- Null stands for nothing else than a missing value. -/
theorem getD_null_injective {α : Type} {f : α → Json} (hf : Function.Injective f)
    (hnull : ∀ a, f a ≠ .null) : Function.Injective fun v : Option α => (v.map f).getD .null := by
  rintro (_ | a) (_ | b) h
  · rfl
  · exact absurd h.symm (hnull b)
  · exact absurd h (hnull a)
  · exact congrArg some (hf h)

theorem json_injective (i : Item) : Function.Injective i.json := by
  have htext : Function.Injective Json.text := fun _ _ => Json.text.inj
  have hwhole {n m : ℕ} (h : Json.whole n = Json.whole m) : n = m := Int.ofNat.inj (Json.whole.inj h)
  cases i with
  | baseUrl => exact getD_null_injective htext nofun
  | apiKey => exact getD_null_injective htext nofun
  | timeoutSecs => exact getD_null_injective (fun _ _ h => UInt64.toNat_inj.1 (hwhole h)) nofun
  | intervalMs => exact getD_null_injective (fun _ _ h => UInt64.toNat_inj.1 (hwhole h)) nofun
  | maxPolls => exact getD_null_injective (fun _ _ h => UInt32.toNat_inj.1 (hwhole h)) nofun

end Item

theorem json_redacted_apiKey (s : Settings) :
    Item.apiKey.json (Item.apiKey.get s.redacted) = if s.hasApiKey then .text "***" else .null := by
  obtain ⟨⟨url, key, timeout⟩, polling⟩ := s
  cases key <;> rfl

/-- The members of a section. -/
def members (s : Settings) (is : List Item) : List (String × Json) :=
  is.map fun i => (i.place.2, i.json (i.get s))

theorem json_eq (s : Settings) : s.json = .record [
    ("api", .record (s.members [.baseUrl, .apiKey, .timeoutSecs])),
    ("polling", .record (s.members [.intervalMs, .maxPolls]))] := by
  obtain ⟨⟨url, key, timeout⟩, ⟨interval, polls⟩⟩ := s
  cases timeout <;> cases interval <;> cases polls <;> rfl

theorem get?_members (s : Settings) {is : List Item} (his : (is.map (·.place.2)).Nodup) {i : Item}
    (hi : i ∈ is) :
    (Json.record (s.members is)).plain.get? i.place.2 = some (i.json (i.get s)) := by
  have hnames : (s.members is).map Prod.fst = is.map (·.place.2) := by
    rw [members, List.map_map]
    rfl
  obtain ⟨v, hv⟩ : ∃ v, (s.members is).lookup i.place.2 = some v :=
    Json.exists_lookup_of_mem (List.mem_map.2 ⟨i, hi, rfl⟩)
  obtain ⟨j, hj, heq⟩ := List.mem_map.1 (Json.mem_of_lookup hv)
  obtain ⟨hname, rfl⟩ := Prod.mk.inj heq
  obtain rfl : j = i := List.inj_on_of_nodup_map his hj hi hname
  rw [Json.get?_plain_record (hnames ▸ his), hv, Option.map_some, Item.plain_json]

theorem value?_members (s : Settings) (is : List Item) :
    (Json.record (s.members is)).Legible ∧
      (Json.record (s.members is)).spelled.value? = some (Json.record (s.members is)).plain ∧
      (Json.record (s.members is)).spelled.depth ≤ 2 := by
  refine Json.value?_record (d := 1) ?_
  simp only [members, List.forall_mem_map]
  intro i _
  exact ⟨(i.isFlat_json _).legible, (i.isFlat_json _).value, (i.isFlat_json _).depth⟩

/-- The text of the settings is read as their value, in which each item has its place. -/
theorem read_pretty_json (s : Settings) : ∃ v, Json.read s.json.pretty = some v ∧
    ∀ i : Item, (v.get? i.place.1).bind (·.get? i.place.2) = some (i.json (i.get s)) := by
  obtain ⟨hlegible, hvalue, hdepth⟩ : s.json.Legible ∧ s.json.spelled.value? = some s.json.plain ∧
      s.json.spelled.depth ≤ 3 := by
    rw [json_eq]
    refine Json.value?_record (d := 2) ?_
    simp only [List.forall_mem_cons]
    exact ⟨value?_members s _, value?_members s _, nofun⟩
  refine ⟨s.json.plain, ?_, fun i => ?_⟩
  · rw [Json.read_pretty_of_value hlegible (hdepth.trans (by decide)), hvalue]
  · rw [json_eq, Json.get?_plain_record (by simp)]
    cases i <;> exact get?_members s (by decide +kernel) (by decide)

/-- So different settings have different texts. -/
theorem pretty_json_inj : s.json.pretty = t.json.pretty ↔ s = t := by
  constructor
  · intro h
    obtain ⟨v, hv, hs⟩ := read_pretty_json s
    obtain ⟨v', hv', ht⟩ := read_pretty_json t
    obtain rfl : v = v' := Option.some.inj (hv.symm.trans (h ▸ hv'))
    exact Item.ext_get fun i => i.json_injective (Option.some.inj ((hs i).symm.trans (ht i)))
  · rintro rfl
    rfl

end Settings

/-! ### On the terminal -/

namespace Display

/-- The lines on the file. -/
def whereabouts : Option String → Bool → List Line
  | some path, isThere =>
    [["📁 Config path:"], ["  ", path, " ", if isThere then "✓" else "(not found)"]]
  | none, _ => [["📁 Config path:"]]

/-- The lines on the settings themselves. -/
def inForce (s : Settings) : List Line :=
  [[], ["🌐 API: ", s.baseUrl],
    ["  API key:  ", if s.hasApiKey then (Terminal.text "✓ configured").green
      else (Terminal.text "✗ not set").red],
    ["  Timeout:  ", Terminal.number s.timeoutSecs.toNat, "s"], [], ["⏱  Polling"],
    ["  Interval:  ", Terminal.number s.intervalMs.toNat, "ms"],
    ["  Max polls: ", Terminal.number s.maxPolls.toNat]]

theorem settings_eq (path : Option String) (isThere : Bool) (s : Settings) :
    settings path isThere s = whereabouts path isThere ++ inForce s := by
  cases path <;> rfl

theorem number_injective : Function.Injective Terminal.number := by
  intro n m h
  exact Nat.repr_inj.1 (congrArg (·.text) h)

/-- What is shown of the settings is their effect, and whether there is a key. -/
theorem inForce_eq_iff {s t : Settings} :
    inForce s = inForce t ↔ s.hasApiKey = t.hasApiKey ∧ s.SameEffect t := by
  constructor
  · intro h
    simp only [inForce, List.cons.injEq, Terminal.Span.mk.injEq, and_true, true_and] at h
    obtain ⟨hurl, hkey, htimeout, hinterval, hpolls⟩ := h
    have hstyles : (Terminal.text "✓ configured").green ≠ (Terminal.text "✗ not set").red := by
      decide
    refine ⟨?_, hurl, UInt64.toNat_inj.1 (number_injective htimeout),
      UInt64.toNat_inj.1 (number_injective hinterval), UInt32.toNat_inj.1 (number_injective hpolls)⟩
    cases hs : s.hasApiKey <;> cases ht : t.hasApiKey <;> simp_all [hstyles.symm]
  · rintro ⟨hset, heffect⟩
    simp only [inForce, hset, heffect.baseUrl, heffect.timeoutSecs, heffect.intervalMs,
      heffect.maxPolls]

end Display

/-- Where the settings are kept, and whether their file is there. -/
def Home.located (home : Home) : Option String × Bool :=
  (home.settings.map (·.path), home.settings.any (·.file.isThere))

/-- The lines on the file of a home. -/
def Home.whereabouts (home : Home) : List Line := Display.whereabouts home.located.1 home.located.2

theorem Home.whereabouts_eq_iff {home home' : Home} :
    home.whereabouts = home'.whereabouts ↔ home.located = home'.located := by
  unfold whereabouts located
  cases home.settings with
  | none => cases home'.settings <;> simp [Display.whereabouts]
  | some place =>
    cases home'.settings with
    | none => simp [Display.whereabouts]
    | some place' =>
      have hmarks : ("✓" : Terminal.Span) ≠ "(not found)" := by decide
      simp only [Display.whereabouts, Option.map_some, Option.any_some, List.cons.injEq,
        Prod.mk.injEq, Option.some.injEq, Terminal.Span.mk.injEq, and_true, true_and]
      refine and_congr_right fun _ => ?_
      cases place.file.isThere <;> cases place'.file.isThere <;> simp [hmarks, hmarks.symm]

/-! ### The command -/

namespace CommandLine

variable {β : Type} [Backend β] {env env' : Settings.Environment} {home home' : Home}
  {line line' : List String} {json : Bool} {s s' : Settings}

/-- A line that shows the settings in force, as a value or on the terminal. -/
structure Looks (env : Settings.Environment) (home : Home) (line : List String) (json : Bool)
    (s : Settings) : Prop where
  read : ∃ apiUrl, Invocation.read env line = .ok ⟨apiUrl, json, .settings .look⟩
  inForce : Settings.inForce home env = .ok s

/-- What such a line prints about the file. -/
def fileLines (json : Bool) (home : Home) : List Line := if json then [] else home.whereabouts

/-- What it prints about the settings. -/
def settingLines (json : Bool) (s : Settings) : List Line :=
  if json then [[s.redacted.json.pretty]] else Display.inForce s

theorem Looks.execute_eq (h : Looks env home line json s) (backend : β) :
    execute env home backend line =
      ⟨.done, fileLines json home ++ settingLines json s, home, .start backend⟩ := by
  obtain ⟨apiUrl, hread⟩ := h.read
  simp only [execute, hread, Invocation.run, SettingsAction.perform, h.inForce]
  cases json with
  | true => rfl
  | false =>
    simp only [Bool.false_eq_true, if_false, Display.settings_eq]
    rfl

theorem settingLines_eq_iff : settingLines json s = settingLines json s' ↔
    s.hasApiKey = s'.hasApiKey ∧ if json then s.SameButKey s' else s.SameEffect s' := by
  cases json with
  | true =>
    rw [if_pos rfl, ← Settings.redacted_eq_iff, ← Settings.pretty_json_inj]
    simp [settingLines]
  | false =>
    simp only [settingLines, Bool.false_eq_true, if_false]
    exact Display.inForce_eq_iff

theorem fileLines_eq_iff : fileLines json home = fileLines json home' ↔
    (json = false → home.located = home'.located) := by
  cases json with
  | true => simp [fileLines]
  | false => simp [fileLines, Home.whereabouts_eq_iff]

theorem length_settingLines (json : Bool) (s s' : Settings) :
    (settingLines json s).length = (settingLines json s').length := by
  cases json <;> rfl

/-- All settings but the key can be read off what is shown of them: as a value each item as it is in
force, and on the terminal as it takes effect. Of the key it is shown whether there is one. -/
def Tells (json : Bool) (shown : List Line) (s : Settings) : Prop :=
  if json then ∃ text v, shown = [[⟨text, {}⟩]] ∧ Json.read text = some v ∧
    ∀ i : Settings.Item, (v.get? i.place.1).bind (·.get? i.place.2) =
      some (if i = .apiKey then (if s.hasApiKey then .text "***" else .null)
        else i.json (i.get s))
  else shown = Display.inForce s

theorem tells_settingLines (json : Bool) (s : Settings) : Tells json (settingLines json s) s := by
  cases json with
  | false => rfl
  | true =>
    obtain ⟨v, hread, hitems⟩ := Settings.read_pretty_json s.redacted
    refine ⟨_, v, rfl, hread, fun i => ?_⟩
    rw [hitems]
    by_cases hkey : i = .apiKey
    · subst hkey
      rw [Settings.json_redacted_apiKey, if_pos rfl]
    · rw [Settings.get_redacted_of_ne hkey, if_neg hkey]

/-- A line that shows the settings in force prints what is known of their file, on the terminal only,
and then all of them but the key. Where two settings have a key and differ in its text alone, the
second part is the same; and so is the whole output, as a value, or if both files have the same path
and are both there or both missing. In general two outputs agree iff all that they show agrees. -/
theorem key_not_shown (backend : β) (h : Looks env home line json s)
    (h' : Looks env' home' line' json s') :
    let o := execute env home backend line
    let o' := execute env' home' backend line'
    ∃ shown shown', (o.printed = fileLines json home ++ shown ∧ Tells json shown s) ∧
      (o'.printed = fileLines json home' ++ shown' ∧ Tells json shown' s') ∧
      (s.SameButKey s' → s.hasApiKey → s'.hasApiKey → shown = shown' ∧
        (json ∨ home.located = home'.located → ∀ color, o.stdout color = o'.stdout color ∧
          o.stderr color = o'.stderr color ∧ o.exitCode = o'.exitCode)) ∧
      (o.printed = o'.printed ↔ (json = false → home.located = home'.located) ∧
        s.hasApiKey = s'.hasApiKey ∧ if json then s.SameButKey s' else s.SameEffect s') := by
  intro o o'
  have ho : o = ⟨.done, fileLines json home ++ settingLines json s, home, .start backend⟩ :=
    h.execute_eq backend
  have ho' : o' = ⟨.done, fileLines json home' ++ settingLines json s', home', .start backend⟩ :=
    h'.execute_eq backend
  have hprinted : o.printed = o'.printed ↔ (json = false → home.located = home'.located) ∧
      s.hasApiKey = s'.hasApiKey ∧ if json then s.SameButKey s' else s.SameEffect s' := by
    rw [ho, ho', ← settingLines_eq_iff, ← fileLines_eq_iff]
    constructor
    · intro heq
      exact List.append_inj' heq (length_settingLines json s s')
    · rintro ⟨hfile, hsettings⟩
      simp only [hfile, hsettings]
  refine ⟨settingLines json s, settingLines json s', ⟨by rw [ho], tells_settingLines json s⟩,
    ⟨by rw [ho'], tells_settingLines json s'⟩, fun hsame hkey hkey' => ?_, hprinted⟩
  have hshown : settingLines json s = settingLines json s' := by
    refine settingLines_eq_iff.2 ⟨hkey.trans hkey'.symm, ?_⟩
    split_ifs
    · exact hsame
    · exact hsame.sameEffect
  refine ⟨hshown, fun hfile color => ?_⟩
  have hlines : fileLines json home = fileLines json home' :=
    fileLines_eq_iff.2 fun hjson => hfile.resolve_left (by simp [hjson])
  rw [ho, ho', hshown, hlines]
  exact ⟨rfl, rfl, rfl⟩

/-- A key in the environment covers that in the file without a trace. -/
theorem key_not_shown_of_variable :
    let place : Place := ⟨"cloud.toml", .holding "[api]\napi_key = \"a\"\n"⟩
    let env : Settings.Environment := [(Settings.keyVariable, "b")]
    let o := execute [] ⟨some place, none⟩ Script.empty ["config", "show"]
    let o' := execute env ⟨some place, none⟩ Script.empty ["config", "show"]
    Looks [] ⟨some place, none⟩ ["config", "show"] false { api := { apiKey := some "a" } } ∧
    Looks env ⟨some place, none⟩ ["config", "show"] false { api := { apiKey := some "b" } } ∧
    ∀ color, o.stdout color = o'.stdout color := by
  intro place env o o'
  have h : Looks [] ⟨some place, none⟩ ["config", "show"] false { api := { apiKey := some "a" } } :=
    ⟨⟨none, by decide +kernel⟩, by decide +kernel⟩
  have h' : Looks env ⟨some place, none⟩ ["config", "show"] false { api := { apiKey := some "b" } } :=
    ⟨⟨none, by decide +kernel⟩, by decide +kernel⟩
  obtain ⟨_, _, -, -, hsame, -⟩ := key_not_shown Script.empty h h'
  have hbut : Settings.SameButKey { api := { apiKey := some "a" } } { api := { apiKey := some "b" } } := by
    intro i hi
    cases i <;> first | rfl | contradiction
  exact ⟨h, h', fun color => ((hsame hbut rfl rfl).2 (.inr rfl) color).1⟩

/-- On the terminal a key in the environment is told from one in the file if there is no file. -/
theorem file_shown_beside_key :
    let path := "cloud.toml"
    let home : Home := ⟨some ⟨path, .holding "[api]\napi_key = \"a\"\n"⟩, none⟩
    let home' : Home := ⟨some ⟨path, .absent⟩, none⟩
    let env' : Settings.Environment := [(Settings.keyVariable, "b")]
    let s : Settings := { api := { apiKey := some "a" } }
    let s' : Settings := { api := { apiKey := some "b" } }
    Settings.inForce home [] = .ok s ∧ Settings.inForce home' env' = .ok s' ∧ s.SameButKey s' ∧
    s.hasApiKey ∧ s'.hasApiKey ∧
    (execute [] home Script.empty ["config", "show"]).stdout false ≠
      (execute env' home' Script.empty ["config", "show"]).stdout false := by
  intro path home home' env' s s'
  refine ⟨by decide +kernel, by decide +kernel, ?_, rfl, rfl, by decide +kernel⟩
  intro i hi
  cases i <;> first | rfl | contradiction

end CommandLine

end CodeHealth
