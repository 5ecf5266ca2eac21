import CodeHealth.Proofs.Toml.Line
import CodeHealth.Proofs.Toml.Section
import CodeHealth.Settings.Config
import Mathlib

/-! Settings come back from their file. Every text can be written, and so can every number below
2^63; a larger one is refused before the file is touched. -/

namespace CodeHealth

open Toml (Spells Written Statement Bare pairStatement sectionStatements)

namespace Settings

/-! ### Lines -/

/-- A member with this name, if there is a value. -/
def member (name : String) (v : Option Toml) : Toml.Members := v.toList.map (name, ·)

theorem spells_line {α : Type} {name : String} (hname : Bare name) {o : Option α}
    {f : α → List Char} {g : α → Toml} (h : ∀ a ∈ o, Written (f a) (g a)) {r : List Char}
    {ss : List Statement} (hr : Spells r ss) :
    Spells (line name (o.map f) ++ r) ((member name (o.map g)).map pairStatement ++ ss) := by
  cases o with
  | none => exact hr
  | some a =>
    have hpair := hr.pair hname (h a rfl)
    simpa [line, member, pairStatement] using hpair

theorem lookup_member_self (name : String) (v : Option Toml) : (member name v).lookup name = v := by
  cases v <;> simp [member]

theorem lookup_member_of_ne {name other : String} (h : other ≠ name) (v : Option Toml) :
    (member name v).lookup other = none := by
  cases v with
  | none => rfl
  | some v => rw [member, Option.toList_some, List.map_singleton, List.lookup_cons,
      beq_eq_false_iff_ne.2 h, List.lookup_nil]

theorem names_member (name : String) (v : Option Toml) :
    ((member name v).map Prod.fst).Sublist [name] := by
  cases v with
  | none => exact List.nil_sublist _
  | some v => exact List.Sublist.refl _

/-! ### The file -/

/-- All numbers that are set are below 2^63; that of the polls always is. -/
def Writable (s : Settings) : Prop :=
  (∀ n ∈ s.api.timeoutSecs, n.toNat < 2 ^ 63) ∧ ∀ n ∈ s.polling.intervalMs, n.toNat < 2 ^ 63

instance (s : Settings) : Decidable s.Writable := by
  unfold Writable
  infer_instance

theorem number_of_lt {o : Option UInt64} (h : ∀ n ∈ o, n.toNat < 2 ^ 63) :
    number o = some (o.map fun n => Nat.toDigits 10 n.toNat) := by
  cases o with
  | none => rfl
  | some n =>
    have hn : n.toNat < Nat.pow 2 63 := h n rfl
    simp [number, Toml.writeWhole, hn]

theorem number_of_not_lt {o : Option UInt64} (h : ¬ ∀ n ∈ o, n.toNat < 2 ^ 63) :
    number o = none := by
  cases o with
  | none => exact absurd (fun n hn => nomatch hn) h
  | some n =>
    have hn : ¬ n.toNat < Nat.pow 2 63 := fun hn => h (by rintro m ⟨⟩; exact hn)
    simp [number, Toml.writeWhole, hn]

def apiMembers (a : ApiSettings) : Toml.Members :=
  member "base_url" (a.baseUrl.map .text) ++ member "api_key" (a.apiKey.map .text) ++
    member "timeout_secs" (a.timeoutSecs.map fun n => .whole n.toNat)

def pollingMembers (p : PollingSettings) : Toml.Members :=
  member "interval_ms" (p.intervalMs.map fun n => .whole n.toNat) ++
    member "max_polls" (p.maxPolls.map fun n => .whole n.toNat)

/-- The sections that the settings are written as. -/
def sections (s : Settings) : List (String × Toml.Members) :=
  [("api", apiMembers s.api), ("polling", pollingMembers s.polling)]

/-- The lines of the file. -/
def lines (s : Settings) : List Char :=
  '[' :: ("api".toList ++ ']' :: '\n' :: (line "base_url" (s.api.baseUrl.map Toml.writeText) ++
    (line "api_key" (s.api.apiKey.map Toml.writeText) ++
    (line "timeout_secs" (s.api.timeoutSecs.map fun n => Nat.toDigits 10 n.toNat) ++
    '\n' :: '[' :: ("polling".toList ++ ']' :: '\n' ::
    (line "interval_ms" (s.polling.intervalMs.map fun n => Nat.toDigits 10 n.toNat) ++
    (line "max_polls" (s.polling.maxPolls.map fun n => Nat.toDigits 10 n.toNat) ++ [])))))))

theorem number_polls (o : Option UInt32) : number (o.map UInt32.toUInt64) =
    some (o.map fun n => Nat.toDigits 10 n.toNat) := by
  have h : ∀ n ∈ o.map UInt32.toUInt64, n.toNat < 2 ^ 63 := by
    intro n hn
    obtain ⟨m, -, rfl⟩ := Option.map_eq_some_iff.1 hn
    have := m.toNat_lt
    rw [UInt32.toNat_toUInt64]
    omega
  rw [number_of_lt h, Option.map_map]
  rfl

theorem write_of_writable {s : Settings} (h : s.Writable) :
    s.write = some (String.ofList s.lines) := by
  simp only [write, number_of_lt h.1, number_of_lt h.2, number_polls, Option.bind_eq_bind,
    Option.bind_some]
  simp [lines]

theorem write_of_not_writable {s : Settings} (h : ¬ s.Writable) : s.write = none := by
  by_cases htimeout : ∀ n ∈ s.api.timeoutSecs, n.toNat < 2 ^ 63
  · have hinterval := number_of_not_lt fun hinterval => h ⟨htimeout, hinterval⟩
    simp [write, number_of_lt htimeout, hinterval]
  · simp [write, number_of_not_lt htimeout]

theorem bare_names : ∀ name ∈ ["api", "polling", "base_url", "api_key", "timeout_secs",
    "interval_ms", "max_polls"], Bare name := by
  simp [Bare, Toml.isBare]

theorem spells_lines {s : Settings} (h : s.Writable) :
    Spells s.lines (s.sections.flatMap sectionStatements) := by
  have hbare := bare_names
  simp only [List.forall_mem_cons] at hbare
  obtain ⟨hapi, hpolling, hurl, hkey, htimeout, hinterval, hpolls, -⟩ := hbare
  have hlimit : ∀ n ∈ s.polling.maxPolls, n.toNat < 2 ^ 63 := by
    intro n _
    have := n.toNat_lt
    omega
  have hfile := spells_line hpolls (fun n hn => Toml.written_whole (hlimit n hn)) .nil
  have hfile := spells_line hinterval (fun n hn => Toml.written_whole (h.2 n hn)) hfile
  have hfile := (hfile.header hpolling).blank
  have hfile := spells_line htimeout (fun n hn => Toml.written_whole (h.1 n hn)) hfile
  have hfile := spells_line (o := s.api.apiKey) hkey (fun a _ => Toml.written_text a) hfile
  have hfile := spells_line (o := s.api.baseUrl) hurl (fun a _ => Toml.written_text a) hfile
  have hfile := hfile.header hapi
  simpa [lines, sections, apiMembers, pollingMembers, sectionStatements] using hfile

theorem ofStatements_sections (s : Settings) :
    Toml.ofStatements (s.sections.flatMap sectionStatements) =
      some (s.sections.map Toml.sectionTable) := by
  have hapi : ["base_url", "api_key", "timeout_secs"].Nodup := by decide
  have hpolling : ["interval_ms", "max_polls"].Nodup := by decide
  apply Toml.ofStatements_sections
  · simp [sections]
  · simp only [sections, apiMembers, pollingMembers, List.forall_mem_cons, List.map_append]
    refine ⟨hapi.sublist ?_, hpolling.sublist ?_, by simp⟩
    · exact ((names_member _ _).append (names_member _ _)).append (names_member _ _)
    · exact (names_member _ _).append (names_member _ _)

theorem optional_of_lookup {α : Type} {ms : Toml.Members} {name : String} {o : Option α}
    {f : α → Toml} {read : Toml → Option α} (hlookup : ms.lookup name = o.map f)
    (hread : ∀ a, read (f a) = some a) : optional ms name read = some o := by
  rw [optional, hlookup]
  cases o with
  | none => rfl
  | some a => exact congrArg (Option.map some) (hread a)

theorem optional_text {ms : Toml.Members} {name : String} {o : Option String}
    (h : ms.lookup name = o.map .text) : optional ms name textOf = some o :=
  optional_of_lookup h fun _ => rfl

theorem optional_whole {α : Type} (range : WholeRange α) {ms : Toml.Members} {name : String}
    {o : Option α} (h : ms.lookup name = o.map fun a => .whole (range.toInt a)) :
    optional ms name (wholeOf range) = some o :=
  optional_of_lookup h range.ofInt?_toInt

theorem readApi_members (a : ApiSettings) : readApi (.named (apiMembers a)) = some a := by
  have hurl : optional (apiMembers a) "base_url" textOf = some a.baseUrl := by
    apply optional_text
    simp [apiMembers, List.lookup_append, lookup_member_self, lookup_member_of_ne]
  have hkey : optional (apiMembers a) "api_key" textOf = some a.apiKey := by
    apply optional_text
    simp [apiMembers, List.lookup_append, lookup_member_self, lookup_member_of_ne]
  have htimeout : optional (apiMembers a) "timeout_secs" (wholeOf .uint64) =
      some a.timeoutSecs := by
    apply optional_whole
    simp [apiMembers, List.lookup_append, lookup_member_self, lookup_member_of_ne,
      WholeRange.uint64]
  rw [readApi, hurl, hkey, htimeout]
  rfl

theorem readPolling_members (p : PollingSettings) :
    readPolling (.named (pollingMembers p)) = some p := by
  have hinterval : optional (pollingMembers p) "interval_ms" (wholeOf .uint64) =
      some p.intervalMs := by
    apply optional_whole
    simp [pollingMembers, List.lookup_append, lookup_member_self, lookup_member_of_ne,
      WholeRange.uint64]
  have hpolls : optional (pollingMembers p) "max_polls" (wholeOf .uint32) = some p.maxPolls := by
    apply optional_whole
    simp [pollingMembers, List.lookup_append, lookup_member_self, lookup_member_of_ne,
      WholeRange.uint32]
  rw [readPolling, hinterval, hpolls]
  rfl

theorem ofTable_sections (s : Settings) : ofTable (s.sections.map Toml.sectionTable) = some s := by
  have hapi : readSection (s.sections.map Toml.sectionTable) "api" {} readApi = some s.api :=
    readApi_members s.api
  have hpolling : readSection (s.sections.map Toml.sectionTable) "polling" {} readPolling =
      some s.polling := readPolling_members s.polling
  rw [ofTable, hapi, hpolling]
  rfl

/-- What is written is read as the same settings. -/
theorem read_write {s : Settings} (h : s.Writable) :
    ∃ text, s.write = some text ∧ read text = some s := by
  refine ⟨_, write_of_writable h, ?_⟩
  have hmark : Toml.dropMark s.lines = s.lines := rfl
  have hstatements := Toml.statements_of_spells (spells_lines h)
  simp only [read, Toml.read, String.toList_ofList, hmark, hstatements, ofStatements_sections,
    ofTable_sections, Option.bind_eq_bind, Option.bind_some]

/-! ### Saving -/

theorem save_of_writable {s : Settings} (h : s.Writable) (path : String) {file : FileSlot}
    (hfile : file.writable) :
    ∃ file', s.save path file = .ok file' ∧ loadFile path file' = .ok s := by
  obtain ⟨text, htext, hread⟩ := read_write h
  refine ⟨{ file with text? := some text, garbled := false }, ?_, ?_⟩
  · simp [save, htext, FileSlot.write, hfile]
  · simp [loadFile, hread]

theorem save_of_not_writable {s : Settings} (h : ¬ s.Writable) (path : String) {file : FileSlot}
    (hfile : file.writable) :
    s.save path file = .error (.unreadable path "out-of-range value for u64 type") := by
  simp [save, write_of_not_writable h, hfile]

theorem save_of_blocked (s : Settings) (path : String) {file : FileSlot}
    (hfile : file.writable = false) :
    s.save path file = .error (.inaccessible path file.trouble) := by
  cases hwrite : s.write <;> simp [save, hwrite, FileSlot.write, hfile]

/-- What is at the place after an attempt to save the settings in it. -/
def afterSave (s : Settings) (path : String) (file : FileSlot) : FileSlot :=
  (s.save path file).toOption.getD file

/-- Saving succeeds if the numbers can be written, and then the same settings are read from the
file; else it fails with a report, and the file is what it was. -/
theorem loadFile_afterSave (s : Settings) (path : String) {file : FileSlot}
    (hfile : file.writable) :
    (s.Writable → s.save path file = .ok (s.afterSave path file) ∧
      loadFile path (s.afterSave path file) = .ok s) ∧
    (¬ s.Writable → s.afterSave path file = file ∧
      s.save path file = .error (.unreadable path "out-of-range value for u64 type")) := by
  constructor
  · intro h
    obtain ⟨file', hsave, hload⟩ := save_of_writable h path hfile
    rw [afterSave, hsave]
    exact ⟨rfl, hload⟩
  · intro h
    have hsave := save_of_not_writable h path hfile
    rw [afterSave, hsave]
    exact ⟨rfl, rfl⟩

/-- Texts of every form come back, beside the largest number that can be written; the next one is
refused. -/
theorem loadFile_afterSave_limit :
    let s : Settings :=
      { api := ⟨some "''\"\\\n\r", some "it's \"\\\"", some 0x7fffffffffffffff⟩
        polling := ⟨none, some 0xffffffff⟩ }
    let t : Settings := { polling := ⟨some 0x8000000000000000, none⟩ }
    let file := FileSlot.holding "# empty"
    file.writable ∧ Settings.loadFile "cloud.toml" (s.afterSave "cloud.toml" file) = .ok s ∧
      t.afterSave "cloud.toml" file = file := by
  intro s t file
  have hfile : file.writable := rfl
  have hs : s.Writable := by simp [s, Writable]
  have ht : ¬ t.Writable := by simp [t, Writable]
  exact ⟨hfile, ((loadFile_afterSave s "cloud.toml" hfile).1 hs).2,
    ((loadFile_afterSave t "cloud.toml" hfile).2 ht).1⟩

end Settings

end CodeHealth
