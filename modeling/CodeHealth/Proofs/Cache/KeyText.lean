import CodeHealth.Cache.Key
import CodeHealth.Json.Shape
import CodeHealth.Proofs.Json.Flat
import CodeHealth.Proofs.Number.Digits
import Mathlib

/-! Keys and their texts. The text of a key is a compact JSON list of its family and its parts, and the
key is read off it; so different keys have different texts, whatever is written in their parts. -/

namespace CodeHealth

open Json (quote)

namespace KeyPart

/-- The part that a JSON value stands for. -/
def ofJson? : Json → Option KeyPart
  | .null => some null
  | .bool b => some (flag b)
  | .whole i => (WholeRange.int64.ofInt? i).map number
  | .text s => some (text s)
  | _ => none

theorem ofJson?_json (p : KeyPart) : ofJson? p.json = some p := by
  cases p with
  | number i => exact congrArg (Option.map number) (WholeRange.int64.ofInt?_toInt i)
  | _ => rfl

theorem isFlat_json (p : KeyPart) : p.json.IsFlat := by
  cases p with
  | null => exact Json.isFlat_null
  | flag b => exact Json.isFlat_bool b
  | number i => exact Json.isFlat_int64 i
  | text s => exact Json.isFlat_text s

theorem plain_json (p : KeyPart) : p.json.plain = p.json := by
  cases p <;> rfl

/-- How a part is written: a word, decimal digits behind a minus sign if there is one, or a quoted
text. -/
def written : KeyPart → List Char
  | null => "null".toList
  | flag b => (if b then "true" else "false").toList
  | number i => (if i.toInt < 0 then ['-'] else []) ++ Nat.toDigits 10 i.toInt.natAbs
  | text s => quote s

theorem compactChars_json (p : KeyPart) : Json.compactChars p.json = p.written := by
  cases p with
  | null => rfl
  | flag b => cases b <;> rfl
  | number i => exact Number.toList_toString_int i.toInt
  | text s => rfl

end KeyPart

/-- The items of a compact list stand between commas. -/
theorem Json.compactItems_eq (x : Json) (xs : List Json) :
    compactItems (x :: xs) = [','].intercalate ((x :: xs).map compactChars) ++ [']'] := by
  induction xs generalizing x with
  | nil => simp [compactItems]
  | cons y xs ih => simp [compactItems, ih]

namespace Key

/-- The key that a JSON value stands for: a list of a family and parts. -/
def ofJson? : Json → Option Key
  | .list (.text tag :: parts) => do
    let family ← Label.find? tag
    let parts ← parts.mapM KeyPart.ofJson?
    some ⟨family, parts⟩
  | _ => none

/-- The key that a text stands for. -/
def parse (s : String) : Option Key := (Json.read s).bind ofJson?

theorem ofJson?_json (k : Key) : ofJson? k.json = some k := by
  have hparts : (k.parts.map KeyPart.json).mapM KeyPart.ofJson? = some k.parts := by
    induction k.parts with
    | nil => rfl
    | cons p ps ih => simp [KeyPart.ofJson?_json, ih]
  simp [json, ofJson?, Label.find?_name, hparts]

theorem read_text (k : Key) : Json.read k.text = some k.json := by
  have hflat : ∀ x ∈ Json.text (Label.name k.family) :: k.parts.map KeyPart.json, x.IsFlat := by
    refine List.forall_mem_cons.2 ⟨Json.isFlat_text _, ?_⟩
    rw [List.forall_mem_map]
    exact fun p _ => p.isFlat_json
  have hparts : (k.parts.map KeyPart.json).map Json.plain = k.parts.map KeyPart.json := by
    rw [List.map_map]
    exact List.map_congr_left fun p _ => p.plain_json
  rw [text, json, Json.read_list hflat, Json.plain, Json.plainAll_eq_map, List.map_cons, hparts,
    Json.plain]

theorem parse_text (k : Key) : parse k.text = some k := by
  rw [parse, read_text, Option.bind_some, ofJson?_json]

theorem text_injective : Function.Injective text := by
  intro k k' h
  have hparse := congrArg parse h
  rw [parse_text, parse_text] at hparse
  exact Option.some.inj hparse

theorem toList_text (k : Key) : k.text.toList =
    '[' :: [','].intercalate (quote (Label.name k.family) :: k.parts.map KeyPart.written) ++ [']'] := by
  have hparts : (k.parts.map KeyPart.json).map Json.compactChars = k.parts.map KeyPart.written := by
    rw [List.map_map]
    exact List.map_congr_left fun p _ => p.compactChars_json
  rw [text, Json.compact, String.toList_ofList, json, Json.compactChars, Json.compactItems_eq,
    List.map_cons, hparts]
  rfl

/-- The text of a key tells the key. It is the family and the parts in order, each as JSON writes it,
between commas and brackets and nothing else; as JSON it is the list of these; and the key can be read
off it, so that only the same key has the same text. -/
theorem text_tells_key (k : Key) :
    (∀ k' : Key, k.text = k'.text ↔ k = k') ∧
    k.text.toList = '[' ::
      [','].intercalate (quote (Label.name k.family) :: k.parts.map KeyPart.written) ++ [']'] ∧
    Json.read k.text = some (.list (.text (Label.name k.family) :: k.parts.map KeyPart.json)) ∧
    parse k.text = some k :=
  ⟨fun _ => text_injective.eq_iff, k.toList_text, k.read_text, k.parse_text⟩

end Key

end CodeHealth
