import CodeHealth.Failure.MessagePattern
import CodeHealth.Proofs.Text.Phrase
import Mathlib

/-! The codes that messages are recognised by, as a table of search patterns. The first row whose
pattern matches a stretch of the message decides, whatever the case of its letters. -/

namespace CodeHealth.MessagePattern

open Text (Pattern Phrase sameIgnoringAsciiCase)
open Text.Pattern (Mark SpeltIn read)

/-- The patterns in the order in which they are tried. -/
def patterns : List (String × FailureCode) := [
  ("timed? ?out|timeout|deadline exceeded", .networkTimeout),
  ("failed to fetch|network ?error|connection (refused|reset|closed)|dns|unreachable|offline",
    .networkOffline),
  ("(token|session|jwt) (has )?expired", .sessionExpired),
  ("unauthori[sz]ed|not authenticated|invalid (api )?key|invalid token", .unauthorized),
  ("forbidden|permission denied|not allowed", .forbidden),
  ("rate limit|too many requests", .rateLimited),
  ("quota", .quotaExceeded),
  ("plan limit|upgrade (your )?plan|limit reached", .planLimitReached),
  ("payment required|subscription required", .paymentRequired),
  ("merge conflict|conflicts? with", .fixMergeConflict),
  ("preview (is )?required|must be previewed", .fixPreviewRequired),
  ("\\bstale\\b|out of date|outdated", .fixStale),
  ("not connected|installation (not found|missing)", .repoNotConnected),
  ("analysis (failed|error)", .analysisFailed),
  ("already running|already in progress", .analysisInProgress),
  ("not found", .notFound),
  ("validation|invalid|field required", .validationFailed),
  ("maintenance", .maintenance),
  ("internal server error", .internalError)]

/-- The pattern that is written as `source` matches some stretch of the message. -/
def Hits (source message : String) : Prop := ∃ p, read source = some p ∧ p.OccursIn message

theorem patterns_read :
    patterns.map (fun row => ((read row.1).map Pattern.words, row.2)) =
      table.map fun row => (some (row.1.flatMap Phrase.words), row.2) := by
  -- Taking the literals apart is what would take the kernel long.
  simp only [patterns, table, List.map_cons, List.map_nil, Phrase.text, Phrase.optional,
    Phrase.choice, String.reduceToList]
  repeat rw [Pattern.read_ofList]
  decide +kernel

theorem table_isPlain : ∀ row ∈ table, ∀ ps ∈ row.1, ∀ p ∈ ps, p.isPlain := by
  decide +kernel

/-- One of the words is spelt in the message. -/
def Spells (words : Option (List (List Mark))) (message : String) : Prop :=
  ∃ ws ∈ words, ∃ word ∈ ws, SpeltIn word message

theorem hits_iff {source message : String} :
    Hits source message ↔ Spells ((read source).map Pattern.words) message := by
  constructor
  · rintro ⟨p, hp, hoccurs⟩
    exact ⟨p.words, Option.mem_map_of_mem _ hp, Pattern.occursIn_iff.1 hoccurs⟩
  · rintro ⟨ws, hws, hspelt⟩
    obtain ⟨p, hp, rfl⟩ := Option.mem_map.1 hws
    exact ⟨p, hp, Pattern.occursIn_iff.2 hspelt⟩

theorem any_occursIn_iff {row : List Phrase × FailureCode} (h : row ∈ table) {message : String} :
    row.1.any (Phrase.occursIn · message) ↔ Spells (some (row.1.flatMap Phrase.words)) message := by
  rw [List.any_eq_true]
  constructor
  · rintro ⟨ps, hps, hoccurs⟩
    obtain ⟨word, hword, hspelt⟩ := (Phrase.occursIn_iff (table_isPlain row h ps hps)).1 hoccurs
    exact ⟨_, rfl, word, List.mem_flatMap.2 ⟨ps, hps, hword⟩, hspelt⟩
  · rintro ⟨ws, hws, word, hword, hspelt⟩
    obtain rfl := Option.some.inj hws
    obtain ⟨ps, hps, hword⟩ := List.mem_flatMap.1 hword
    exact ⟨ps, hps, (Phrase.occursIn_iff (table_isPlain row h ps hps)).2 ⟨word, hword, hspelt⟩⟩

open Classical in
/-- Both tables are searched alike. -/
theorem find?_eq (message : String) :
    find? message = (patterns.find? fun row => Hits row.1 message).map (·.2) := by
  have hrows : (table.find? fun row => row.1.any (Phrase.occursIn · message)) =
      table.find? fun row => Spells (some (row.1.flatMap Phrase.words)) message :=
    List.find?_congr fun row hrow => by
      rw [Bool.eq_iff_iff, decide_eq_true_eq]
      exact any_occursIn_iff hrow
  calc find? message
      = ((table.map fun row => (some (row.1.flatMap Phrase.words), row.2)).find?
          fun row => Spells row.1 message).map (·.2) := by
        rw [find?, hrows, List.find?_map, Option.map_map]
        rfl
    _ = (patterns.find? fun row => Hits row.1 message).map (·.2) := by
        rw [← patterns_read, List.find?_map, Option.map_map]
        simp only [Function.comp_def, hits_iff]

theorem read_of_mem {row : String × FailureCode} (h : row ∈ patterns) :
    ∃ p, read row.1 = some p := by
  have hmem := List.mem_map_of_mem (f := fun row => ((read row.1).map Pattern.words, row.2)) h
  rw [patterns_read] at hmem
  obtain ⟨_, -, heq⟩ := List.mem_map.1 hmem
  obtain ⟨p, hp, -⟩ := Option.map_eq_some_iff.1 (Prod.mk.inj heq).1.symm
  exact ⟨p, hp⟩

theorem find?_congr {message other : String} (h : sameIgnoringAsciiCase message other) :
    find? message = find? other := by
  simp only [find?, Phrase.occursIn_congr _ h]

theorem find?_eq_some_iff_hits {message : String} {code : FailureCode} :
    find? message = some code ↔ ∃ earlier source later,
      patterns = earlier ++ (source, code) :: later ∧ Hits source message ∧
      ∀ row ∈ earlier, ¬ Hits row.1 message := by
  classical
  rw [find?_eq, Option.map_eq_some_iff]
  constructor
  · rintro ⟨⟨source, code⟩, hfind, rfl⟩
    obtain ⟨hhit, earlier, later, hsplit, hearlier⟩ := List.find?_eq_some_iff_append.1 hfind
    exact ⟨earlier, source, later, hsplit, of_decide_eq_true hhit, by simpa using hearlier⟩
  · rintro ⟨earlier, source, later, hsplit, hhit, hearlier⟩
    refine ⟨(source, code), List.find?_eq_some_iff_append.2 ?_, rfl⟩
    exact ⟨decide_eq_true hhit, earlier, later, hsplit, by simpa using hearlier⟩

theorem find?_eq_none_iff_hits {message : String} :
    find? message = none ↔ ∀ row ∈ patterns, ¬ Hits row.1 message := by
  rw [find?_eq, Option.map_eq_none_iff, List.find?_eq_none]
  simp

end CodeHealth.MessagePattern
