import CodeHealth.Proofs.Command.Sending
import CodeHealth.Proofs.Settings.InForce
import Mathlib

/-! Where a command line leads. The address of the service is that of the argument, or else that of
the variable, or else that of the file, or else the default; the token is that of the variable or
else that of the file. An empty variable for the token counts as none, but for the address it counts
as given: the grammar of the line takes it for an argument. -/

namespace CodeHealth

open Settings (Filed keyVariable urlVariable)

/-- Commands that speak to the service. -/
def Command.IsServed : Command → Prop
  | .errand _ => True
  | .checkup => True
  | _ => False

namespace Settings

variable {env : Environment} {s : Settings}

/-- The address of the service where any variable counts that is set. -/
def servedAt (argument preset : Option String) (s : Settings) : String :=
  (argument <|> preset <|> s.api.baseUrl).getD defaultUrl

/-- The address where a variable counts that is set to something. -/
def meantAt (argument preset : Option String) (s : Settings) : String :=
  servedAt argument (preset.filter (· ≠ "")) s

/-- The two differ just where nothing else keeps the empty variable from being the address. -/
theorem servedAt_eq_meantAt_iff {argument preset : Option String} :
    servedAt argument preset s = meantAt argument preset s ↔
      (argument = none → preset = some "" → s.baseUrl = "") := by
  cases argument with
  | some url => simp [servedAt, meantAt]
  | none =>
    cases preset with
    | none => simp [servedAt, meantAt]
    | some v =>
      by_cases hv : v = ""
      · subst hv
        have hmeant : meantAt none (some "") s = s.baseUrl := rfl
        rw [hmeant]
        exact ⟨fun h _ _ => h.symm, fun h => (h rfl rfl).symm⟩
      · have hkept : (some v).filter (· ≠ "") = some v := by simp [Option.filter, hv]
        rw [meantAt, hkept]
        simp [hv]

/-- The client of a line has the address and the token in force. -/
theorem client_withUrl_overlay (argument : Option String) :
    ((s.overlay env).withUrl (argument <|> env.lookup urlVariable)).client =
      ⟨servedAt argument (env.lookup urlVariable) s,
        (env.lookup keyVariable).filter (· ≠ "") <|> s.api.apiKey, true⟩ := by
  cases argument with
  | some url => simp [withUrl, client, overlay, baseUrl, servedAt, given_eq]
  | none =>
    cases hvariable : env.lookup urlVariable with
    | some url => simp [withUrl, client, overlay, baseUrl, servedAt, given_eq]
    | none => simp [withUrl, client, overlay, baseUrl, servedAt, given_eq, hvariable]

end Settings

variable {β : Type} [Backend β]

/-- What is sent on behalf of a command: requests of the client only, and some if the command is
served and not refused. -/
structure Outcome.Serves (o : Outcome β) (c : Client) (backend : β) (command : Command) : Prop where
  talks : c.Talks (.start backend) o.world
  served : command.IsServed → o.world.sent = [] → ∃ message, command.Refused message

namespace Invocation

variable {env : Settings.Environment} {home : Home} {backend : β} {apiUrl : Option String}
  {json : Bool} {s : Settings}

theorem serves_errand {e : Errand} (hforce : Settings.inForce home env = .ok s)
    (hadmissible : (Command.errand e).Admissible) :
    (run env home ⟨apiUrl, json, .errand e⟩ (.start backend)).Serves (s.withUrl apiUrl).client backend
      (.errand e) := by
  let x : Connection := ⟨(s.withUrl apiUrl).client, s.withUrl apiUrl, json⟩
  have hworld : (run env home ⟨apiUrl, json, .errand e⟩ (.start backend)).world =
      (e.perform x (.start backend)).2 := by
    simp only [run, Errand.outcome, hforce, x]
    split <;> rename_i hperform <;> rw [hperform]
  refine ⟨?_, fun _ hsent => ?_⟩
  · rw [hworld]
    exact Errand.talks_perform hadmissible rfl _
  · rw [hworld] at hsent
    obtain ⟨message, hrefused⟩ := (Errand.sent_perform_eq_nil_iff hadmissible rfl backend).1 hsent
    exact ⟨message, .errand hrefused⟩

theorem serves_checkup (hforce : Settings.inForce home env = .ok s) :
    (run env home ⟨apiUrl, json, .checkup⟩ (.start backend)).Serves (s.withUrl apiUrl).client backend
      .checkup := by
  have hsent : (run env home ⟨apiUrl, json, .checkup⟩ (.start backend)).world.sent =
      [(s.withUrl apiUrl).client.outgoing Query.subscription.call] := by
    simp only [run, Outcome.ofCheckup, Checkup.entries, hforce]
    split <;> rfl
  refine ⟨.of_asking (.query .subscription) hsent, fun _ hnone => ?_⟩
  rw [hsent] at hnone
  contradiction

/-- Any command that is admissible is served as the client of the settings in force. -/
theorem serves_run {i : Invocation} (hforce : Settings.inForce home env = .ok s)
    (hadmissible : i.command.Admissible) :
    (i.run env home (.start backend)).Serves (s.withUrl i.apiUrl).client backend i.command := by
  obtain ⟨apiUrl, json, command⟩ := i
  cases command with
  | errand e => exact serves_errand hforce hadmissible
  | checkup => exact serves_checkup hforce
  | settings action =>
    refine ⟨.of_sent_eq ?_, False.elim⟩
    simp only [run, Outcome.ofLocal]
    split <;> rfl
  | preferences action =>
    refine ⟨.of_sent_eq ?_, False.elim⟩
    simp only [run, Outcome.ofLocal]
    split <;> rfl
  | version => exact ⟨.refl _, False.elim⟩

end Invocation

namespace CommandLine

/-- All requests of a command line go to the address of the argument, else of the variable, even an
empty one, else of the file, else to the default, with the token of the variable unless it is empty,
else of the file; and a command that speaks to the service sends some, unless it is refused. So the
address is the one that is meant, except where no argument is given, the variable is empty, and the
file and the default would give another address than the empty one. -/
theorem requests_lead_to_address (env : Settings.Environment) (home : Home) (backend : β)
    (line : List String) {vs : Arguments.Values} {command : Command} {file : Settings}
    (hread : program.read (env.lookup urlVariable).isSome line = .ok (vs, command))
    (hfile : Filed home file) :
    let argument := vs.text? "api-url"
    let preset := env.lookup urlVariable
    let client : Client := ⟨Settings.servedAt argument preset file,
      (env.lookup keyVariable).filter (· ≠ "") <|> file.api.apiKey, true⟩
    let o := execute env home backend line
    (∀ p ∈ o.world.sent, client.Leaves p.1 p.2) ∧
    (command.IsServed → o.world.sent = [] → ∃ message, command.Refused message) ∧
    (Settings.servedAt argument preset file = Settings.meantAt argument preset file ↔
      (argument = none → preset = some "" → file.baseUrl = "")) := by
  intro argument preset client o
  have hi : Invocation.read env line = .ok ⟨argument <|> preset, vs.truth "json", command⟩ := by
    simp only [Invocation.read, hread]
    rfl
  have ho : o = Invocation.run env home ⟨argument <|> preset, vs.truth "json", command⟩
      (.start backend) := by
    simp only [o, execute, hi]
  have hforce : Settings.inForce home env = .ok (file.overlay env) :=
    Settings.inForce_eq_ok_iff.2 ⟨file, hfile, rfl⟩
  have hserves : o.Serves ((file.overlay env).withUrl (argument <|> preset)).client backend command :=
    ho ▸ Invocation.serves_run hforce (Invocation.admissible_of_read hi)
  rw [Settings.client_withUrl_overlay] at hserves
  exact ⟨hserves.talks.leaves, hserves.served, Settings.servedAt_eq_meantAt_iff⟩

/-- An argument goes before the variable, and the token is that of the environment. -/
theorem requests_lead_to_argument :
    let env : Settings.Environment := [(urlVariable, "http://b"), (keyVariable, "k")]
    let home : Home := ⟨none, none⟩
    let line := ["--api-url", "http://a/", "analytics"]
    let o := execute env home Script.empty line
    program.read (env.lookup urlVariable).isSome line =
      .ok ([("api-url", .text "http://a/")], .errand (.dashboard none)) ∧ Filed home {} ∧
    o.world.sent ≠ [] ∧ ∀ p ∈ o.world.sent, Client.Leaves ⟨"http://a/", some "k", true⟩ p.1 p.2 := by
  intro env home line o
  have hread : program.read (env.lookup urlVariable).isSome line =
      .ok ([("api-url", .text "http://a/")], .errand (.dashboard none)) := by decide +kernel
  obtain ⟨hleaves, hserved, -⟩ := requests_lead_to_address env home Script.empty line hread rfl
  refine ⟨hread, rfl, fun hsent => ?_, hleaves⟩
  obtain ⟨message, _ | hrefused⟩ := hserved trivial hsent
  contradiction

/-- With an empty variable the checkup does not go to the address in the file. -/
theorem not_meant_of_empty_variable :
    let env : Settings.Environment := [(urlVariable, "")]
    let home : Home :=
      ⟨some ⟨"cloud.toml", .holding "[api]\nbase_url = \"http://127.0.0.1:1\"\n"⟩, none⟩
    let file : Settings := { api := { baseUrl := some "http://127.0.0.1:1" } }
    program.read (env.lookup urlVariable).isSome ["doctor"] = .ok ([], .checkup) ∧
    Filed home file ∧ Settings.meantAt none (some "") file = "http://127.0.0.1:1" ∧
    ∃ p ∈ (execute env home Script.empty ["doctor"]).world.sent,
      p.1 = "/api/v1/billing/subscription" ∧
      ∀ token, ¬ Client.Leaves ⟨"http://127.0.0.1:1", token, true⟩ p.1 p.2 := by
  intro env home file
  have hfile : Settings.loadFile "cloud.toml"
      (.holding "[api]\nbase_url = \"http://127.0.0.1:1\"\n") = .ok file := by decide +kernel
  have hsent : (execute env home Script.empty ["doctor"]).world.sent.map Prod.fst =
      ["/api/v1/billing/subscription"] := by decide +kernel
  obtain ⟨p, hp, haddress⟩ := List.mem_map.1 (hsent ▸ List.mem_singleton_self _)
  refine ⟨by decide +kernel, hfile, by decide +kernel, p, hp, haddress, fun token hleaves => ?_⟩
  obtain ⟨base, slashes, hsplit, hslashes, -, htarget⟩ := hleaves.address
  -- The address begins with the base, but not with its first letter.
  have hbase : (base ++ slashes).head? = some 'h' := by
    rw [← hsplit]
    change "http://127.0.0.1:1".toList.head? = some 'h'
    decide +kernel
  cases base with
  | nil => exact absurd (hslashes 'h' (List.mem_of_mem_head? hbase)) (by decide)
  | cons first rest =>
    have hfirst : p.1.toList.head? = some first := by rw [htarget]; rfl
    rw [haddress] at hfirst
    have hslash : some '/' = some first := Eq.trans (by decide +kernel) hfirst
    exact absurd (hslash.trans hbase) (by decide)

end CommandLine

end CodeHealth
