import CodeHealth.Proofs.Command.Grammar
import CodeHealth.Proofs.Command.Job
import CodeHealth.Proofs.Settings.Change
import Mathlib

/-! Commands that are refused have no effect. A line may be refused by the grammar, or because a
word in it stands for nothing: for no value of an enumeration, for no setting, or for no value that
the setting can have. Whatever the files and the service are like, the program then fails before it
has sent a request or written a file. -/

namespace CodeHealth

variable {β : Type} [Backend β]

/-! ### Errands -/

namespace Errand

open Spelling (Stands)

/-- The complaints that an errand gives rise to: about words that stand for no value of the
enumeration they belong to, and about the plan that costs nothing, which nobody can buy. -/
inductive Refused : Errand → String → Prop where
  | severity {ws : FindingWords} {page size : UInt32} {sort : Option String} {ascending : Bool}
      {word : String} (hword : word ∈ ws.severity) (h : ∀ a : Severity, ¬ Stands word a) :
      Refused (.findings ws page size sort ascending) (complaint Severity "severity" word)
  | status {ws : FindingWords} {page size : UInt32} {sort : Option String} {ascending : Bool}
      {word : String} (hword : word ∈ ws.status) (h : ∀ a : TriageStatus, ¬ Stands word a) :
      Refused (.findings ws page size sort ascending) (complaint TriageStatus "status" word)
  | triage {ids : List String} {word : String} {reason : Option String}
      (h : ∀ a : TriageStatus, ¬ Stands word a) :
      Refused (.triage ids word reason) (complaint TriageStatus "status" word)
  | fixStatus {status confidence repository finding : Option String} {page size : UInt32}
      {word : String} (hword : word ∈ status) (h : ∀ a : FixStatus, ¬ Stands word a) :
      Refused (.fixes status confidence repository finding page size)
        (complaint FixStatus "status" word)
  | confidence {status confidence repository finding : Option String} {page size : UInt32}
      {word : String} (hword : word ∈ confidence) (h : ∀ a : Confidence, ¬ Stands word a) :
      Refused (.fixes status confidence repository finding page size)
        (complaint Confidence "confidence" word)
  | period {word : String} {repository : Option String} (h : ∀ a : Period, ¬ Stands word a) :
      Refused (.trends word repository) (complaint Period "period" word)
  | tier {word : String} {seats : UInt32} (h : ∀ a : Plan, ¬ Stands word a) :
      Refused (.billing (.upgrade word seats)) (complaint Plan "tier" word)
  | freeTier {word : String} {seats : UInt32} (h : Stands word Plan.free) :
      Refused (.billing (.upgrade word seats)) "--tier: choose a paid plan (pro, enterprise)"
  | kind {kind search : Option String} {verified : Bool} {page : UInt32} {word : String}
      (hword : word ∈ kind) (h : ∀ a : AssetKind, ¬ Stands word a) :
      Refused (.assets kind search verified page) (complaint AssetKind "type" word)

/-- An errand that is refused ends with one of its complaints, and the world is as before. -/
theorem perform_of_refused {e : Errand} {message : String} (h : e.Refused message)
    (x : Connection) : ∃ told, e.Refused told ∧
      ∀ w : World β, e.perform x w = (.error (.told told), w) := by
  cases h with
  | severity hword h =>
    refine ⟨_, .severity hword h, fun w => ?_⟩
    exact Job.bind_of_error (Job.bind_of_error (Job.word?_of_unknown hword h))
  | @status ws _ _ _ _ _ hword h =>
    rcases Job.word?_cases (β := β) Severity "severity" ws.severity with
      ⟨a, hread⟩ | ⟨s, hs, hnone, hread⟩
    · refine ⟨_, .status hword h, fun w => Job.bind_of_error ?_⟩
      exact (Job.bind_of_ok (hread w)).trans (Job.bind_of_error (Job.word?_of_unknown hword h))
    · exact ⟨_, .severity hs hnone, fun w => Job.bind_of_error (Job.bind_of_error (hread w))⟩
  | triage h => exact ⟨_, .triage h, fun w => Job.bind_of_error (Job.word_of_unknown h)⟩
  | fixStatus hword h =>
    exact ⟨_, .fixStatus hword h, fun w => Job.bind_of_error (Job.word?_of_unknown hword h)⟩
  | @confidence status _ _ _ _ _ _ hword h =>
    rcases Job.word?_cases (β := β) FixStatus "status" status with
      ⟨a, hread⟩ | ⟨s, hs, hnone, hread⟩
    · refine ⟨_, .confidence hword h, fun w => (Job.bind_of_ok (hread w)).trans ?_⟩
      exact Job.bind_of_error (Job.word?_of_unknown hword h)
    · exact ⟨_, .fixStatus hs hnone, fun w => Job.bind_of_error (hread w)⟩
  | period h => exact ⟨_, .period h, fun w => Job.bind_of_error (Job.word_of_unknown h)⟩
  | tier h => exact ⟨_, .tier h, fun w => Job.bind_of_error (Job.word_of_unknown h)⟩
  | freeTier h =>
    have hread := Spelling.read_of_name (h.resolve_right (by rintro ⟨⟩))
    exact ⟨_, .freeTier h, fun w => (Job.bind_of_ok (Job.word_of_read hread)).trans rfl⟩
  | kind hword h =>
    exact ⟨_, .kind hword h, fun w => Job.bind_of_error (Job.word?_of_unknown hword h)⟩

end Errand

/-! ### Settings and preferences -/

namespace Settings

variable {s : Settings} {key value : String}

theorem set_of_unknown (h : ∀ i : Item, i.key ≠ key) : s.set key value = .error (.unknownKey key) := by
  unfold set
  split
  · exact absurd rfl (h .baseUrl)
  · exact absurd rfl (h .apiKey)
  · exact absurd rfl (h .timeoutSecs)
  · exact absurd rfl (h .intervalMs)
  · exact absurd rfl (h .maxPolls)
  · rfl

/-- A text that spells no number in range is refused. -/
theorem parse_eq_error {α : Type} {range : WholeRange α} (h : ∀ a, parse range key value ≠ .ok a) :
    parse range key value = .error (.invalidValue key value) := by
  unfold parse at h ⊢
  split
  · rename_i a ha
    rw [ha] at h
    exact absurd rfl (h a)
  · rfl

theorem set_of_meaningless {i : Item} (hkey : i.key = key) (h : ∀ v, ¬ i.Means value v) :
    s.set key value = .error (.invalidValue key value) := by
  subst hkey
  cases i with
  | baseUrl => exact absurd rfl (h value)
  | apiKey => exact absurd rfl (h value)
  | timeoutSecs =>
    have herror : parse .uint64 "api.timeout_secs" value = .error (.invalidValue _ value) :=
      parse_eq_error fun n hn => h n (parse_uint64.1 hn)
    simp only [Item.key, set, herror]
    rfl
  | intervalMs =>
    have herror : parse .uint64 "polling.interval_ms" value = .error (.invalidValue _ value) :=
      parse_eq_error fun n hn => h n (parse_uint64.1 hn)
    simp only [Item.key, set, herror]
    rfl
  | maxPolls =>
    have herror : parse .uint32 "polling.max_polls" value = .error (.invalidValue _ value) :=
      parse_eq_error fun n hn => h n (parse_uint32.1 hn)
    simp only [Item.key, set, herror]
    rfl

end Settings

namespace Preferences

/-- The names of the flags. -/
def names : List String :=
  ["enable_3d_effects", "enable_glow", "animated_backgrounds", "onboarding_seen"]

theorem set_of_unknown (p : Preferences) {key : String} (value : Bool) (h : key ∉ names) :
    p.set key value = .error (.unknownKey key) := by
  unfold set
  split <;> first | rfl | exact absurd (by decide) h

end Preferences

/-! ### Commands -/

namespace Command

/-- The complaints that a command gives rise to, whatever the files and the service are like. -/
inductive Refused : Command → String → Prop where
  | errand {e : Errand} {message : String} (h : e.Refused message) : Refused (.errand e) message
  | settingKey {key value : String} (h : ∀ i : Settings.Item, i.key ≠ key) :
      Refused (.settings (.set key value)) (SettingsError.unknownKey key).message
  | settingValue {i : Settings.Item} {key value : String} (hkey : i.key = key)
      (h : ∀ v, ¬ i.Means value v) :
      Refused (.settings (.set key value)) (SettingsError.invalidValue key value).message
  | preferenceKey {key : String} {value : Bool} (h : key ∉ Preferences.names) :
      Refused (.preferences (.set key value)) (SettingsError.unknownKey key).message

/-- The home keeps a command from looking at its words: the settings that it begins with cannot be
read, or there is no place for what it is about. -/
def Hindered (env : Settings.Environment) (home : Home) : Command → Prop
  | .errand _ => ∃ e, Settings.inForce home env = .error e
  | .settings _ => ∀ place ∈ home.settings, ¬ ∃ s, Settings.Before place s
  | .preferences _ => home.preferences = none
  | _ => False

end Command

/-- A value that is refused is not written: the change ends there, or already when the file is
read. -/
theorem SettingsAction.change_of_set_error {place : Place} {key value : String} {e : SettingsError}
    (h : ∀ s : Settings, s.set key value = .error e) :
    change place key value = .error e ∨ ¬ ∃ s, Settings.Before place s := by
  by_cases hthere : place.file.isThere
  · cases hload : Settings.loadFile place.path place.file with
    | error e' =>
      refine .inr ?_
      rintro ⟨s, hs⟩
      rw [Settings.Before, if_pos hthere, hload] at hs
      contradiction
    | ok s =>
      left
      simp only [change, hthere, hload, h]
      rfl
  · left
    simp only [change, hthere, h]
    rfl

/-- Nothing is printed, and the home and the world are as before. -/
structure Outcome.Idle (o : Outcome β) (home : Home) (w : World β) : Prop where
  silent : o.printed = []
  home_eq : o.home = home
  world_eq : o.world = w

/-- How a refused command ends: nothing has happened, and what is said is one of its complaints,
unless the home hinders it already. -/
structure Outcome.Refuses (o : Outcome β) (env : Settings.Environment) (home : Home) (w : World β)
    (c : Command) : Prop extends o.Idle home w where
  ending : (∃ told, c.Refused told ∧ o.ending = .failed (.told told)) ∨
    c.Hindered env home ∧ ∃ t, o.ending = .failed t

omit [Backend β] in
theorem Outcome.refuses_ofLocal {env : Settings.Environment} {home : Home} {w : World β}
    {c : Command} {r : Except SettingsError (List Terminal.Line × Home)} {e : SettingsError}
    (hr : r = .error e) (h : c.Refused e.fullMessage ∨ c.Hindered env home) :
    (Outcome.ofLocal home w r).Refuses env home w c := by
  subst hr
  refine ⟨⟨rfl, rfl, rfl⟩, ?_⟩
  rcases h with h | h
  · exact .inl ⟨_, h, rfl⟩
  · exact .inr ⟨h, _, rfl⟩

namespace Invocation

variable {env : Settings.Environment} {home : Home} {w : World β} {apiUrl : Option String}
  {json : Bool}

theorem refuses_errand {e : Errand} {message : String} (h : e.Refused message) :
    (Invocation.run env home ⟨apiUrl, json, .errand e⟩ w).Refuses env home w (.errand e) := by
  simp only [Invocation.run, Errand.outcome]
  cases hforce : Settings.inForce home env with
  | error e' => exact ⟨⟨rfl, rfl, rfl⟩, .inr ⟨⟨e', hforce⟩, _, rfl⟩⟩
  | ok s =>
    obtain ⟨told, htold, hperform⟩ := Errand.perform_of_refused (β := β) h
      ⟨(s.withUrl apiUrl).client, s.withUrl apiUrl, json⟩
    simp only [hperform]
    exact ⟨⟨rfl, rfl, rfl⟩, .inl ⟨told, .errand htold, rfl⟩⟩

theorem refuses_setting {key value : String} {e : SettingsError}
    (hset : ∀ s : Settings, s.set key value = .error e)
    (h : (Command.settings (.set key value)).Refused e.fullMessage) :
    (Invocation.run env home ⟨apiUrl, json, .settings (.set key value)⟩ w).Refuses env home w
      (.settings (.set key value)) := by
  cases hplace : home.settings with
  | none =>
    refine Outcome.refuses_ofLocal (e := .noDirectory) ?_ (.inr ?_)
    · simp only [SettingsAction.perform, hplace]
    · simp [Command.Hindered, hplace]
  | some place =>
    cases hchange : SettingsAction.change place key value with
    | ok place' =>
      rcases SettingsAction.change_of_set_error hset with herror | hbefore
      · exact absurd (hchange.symm.trans herror) (by simp)
      · obtain ⟨s, -, -, hs, -⟩ := SettingsAction.change_eq_ok_iff.1 hchange
        exact absurd ⟨s, hs⟩ hbefore
    | error e' =>
      refine Outcome.refuses_ofLocal (e := e') ?_ ?_
      · simp only [SettingsAction.perform, hplace, hchange]
        rfl
      · rcases SettingsAction.change_of_set_error hset with herror | hbefore
        · obtain rfl := Except.error.inj (hchange.symm.trans herror)
          exact .inl h
        · refine .inr ?_
          rintro place' hplace'
          obtain rfl := Option.some.inj (hplace.symm.trans hplace')
          exact hbefore

theorem refuses_preference {key : String} {value : Bool} (h : key ∉ Preferences.names) :
    (Invocation.run env home ⟨apiUrl, json, .preferences (.set key value)⟩ w).Refuses env home w
      (.preferences (.set key value)) := by
  cases hplace : home.preferences with
  | none =>
    refine Outcome.refuses_ofLocal (e := .noDirectory) ?_ (.inr hplace)
    simp only [PreferencesAction.perform, hplace]
  | some place =>
    refine Outcome.refuses_ofLocal (e := .unknownKey key) ?_ (.inl (.preferenceKey h))
    simp only [PreferencesAction.perform, hplace, PreferencesAction.change,
      Preferences.set_of_unknown _ value h]
    rfl

/-- A refused command has no effect. -/
theorem refuses_run {i : Invocation} {message : String} (h : i.command.Refused message) :
    (i.run env home w).Refuses env home w i.command := by
  obtain ⟨apiUrl, json, command⟩ := i
  cases h with
  | errand h => exact refuses_errand h
  | settingKey h => exact refuses_setting (fun s => Settings.set_of_unknown h) (.settingKey h)
  | settingValue hkey h =>
    exact refuses_setting (fun s => Settings.set_of_meaningless hkey h) (.settingValue hkey h)
  | preferenceKey h => exact refuses_preference h

end Invocation

omit [Backend β] in
/-- A refused command fails. -/
theorem Outcome.Refuses.exitCode {o : Outcome β} {env : Settings.Environment} {home : Home}
    {w : World β} {c : Command} (h : o.Refuses env home w c) : o.exitCode = 1 := by
  obtain ⟨t, ht⟩ : ∃ t, o.ending = .failed t := by
    rcases h.ending with ⟨told, -, heq⟩ | ⟨-, t, heq⟩
    · exact ⟨_, heq⟩
    · exact ⟨t, heq⟩
  rw [Outcome.exitCode, ht]
  rfl

namespace CommandLine

/-- A line that is refused fails without any effect, whatever the files and the service are like:
nothing is sent and nothing is written. The grammar refuses what it cannot read and lets only
admissible commands through; of these, one with a word that stands for nothing is refused with a
complaint about such a word, if its files do not get in the way before. -/
theorem refused_without_effect (env : Settings.Environment) (home : Home) (backend : β)
    (line : List String) :
    let o := execute env home backend line
    (∀ u, Invocation.read env line = .error u → u ≠ .help → u ≠ .version →
      o.ending = .refused u ∧ o.exitCode = 2 ∧ o.world.sent = [] ∧ o.Idle home (.start backend)) ∧
    ∀ i, Invocation.read env line = .ok i → i.command.Admissible ∧
      ∀ message, i.command.Refused message → o.exitCode = 1 ∧ o.world.sent = [] ∧
        o.Refuses env home (.start backend) i.command := by
  intro o
  constructor
  · intro u hread hhelp hversion
    have ho : o = ⟨.refused u, [], home, .start backend⟩ := by simp only [o, execute, hread]
    rw [ho]
    refine ⟨rfl, ?_, rfl, rfl, rfl, rfl⟩
    cases u <;> first | rfl | contradiction
  · intro i hread
    refine ⟨Invocation.admissible_of_read hread, fun message hrefused => ?_⟩
    have ho : o = i.run env home (.start backend) := by simp only [o, execute, hread]
    have hrefuses : (i.run env home (.start backend)).Refuses env home (.start backend) i.command :=
      Invocation.refuses_run hrefused
    rw [ho]
    refine ⟨hrefuses.exitCode, ?_, hrefuses⟩
    rw [hrefuses.world_eq]
    rfl

/-- A page that there is not, the plan that costs nothing, and a setting that there is not. -/
theorem refused_without_effect_of_mistakes :
    let home : Home := ⟨some ⟨"cloud.toml", .holding "[api]"⟩, some ⟨"preferences.json", .absent⟩⟩
    let o (line : List String) := execute [] home Script.empty line
    (o ["findings", "--page", "0"]).exitCode = 2 ∧
    (o ["billing", "upgrade", "--tier", "Free"]).exitCode = 1 ∧
    (o ["billing", "upgrade", "--tier", "Free"]).world.sent = [] ∧
    (o ["config", "set", "ai.model", "x"]).exitCode = 1 ∧
    (o ["config", "set", "ai.model", "x"]).home = home := by
  intro home o
  have hpage := (refused_without_effect [] home Script.empty ["findings", "--page", "0"]).1
    (.refused (some "pages start at 1")) (by decide +kernel) nofun nofun
  have htier := (refused_without_effect [] home Script.empty ["billing", "upgrade", "--tier", "Free"]).2
    ⟨none, false, .errand (.billing (.upgrade "Free" 1))⟩ (by decide +kernel)
  have hkey := (refused_without_effect [] home Script.empty ["config", "set", "ai.model", "x"]).2
    ⟨none, false, .settings (.set "ai.model" "x")⟩ (by decide +kernel)
  have hfree := htier.2 _ (.errand (.freeTier (.inl (by decide +kernel))))
  have hunknown := hkey.2 _ (.settingKey fun i => by cases i <;> decide)
  exact ⟨hpage.2.1, hfree.1, hfree.2.1, hunknown.1, hunknown.2.2.home_eq⟩

end CommandLine

end CodeHealth
