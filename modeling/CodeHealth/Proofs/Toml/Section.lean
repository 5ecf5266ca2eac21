import CodeHealth.Toml.Value
import Mathlib

/-! Sections of a TOML file. If the headers have distinct names, and so have the pairs under each of
them, the statements make up one table for each section, with its pairs in order. -/

namespace CodeHealth.Toml

namespace Members

variable {ms : Members} {name : String} {v : Toml}

theorem alter_of_new (h : name ∉ ms.map Prod.fst) (f : Option Toml → Option Toml) :
    ms.alter name f = (f none).map fun v => ms ++ [(name, v)] := by
  induction ms with
  | nil => rfl
  | cons m ms ih =>
    obtain ⟨hne, hms⟩ := not_or.1 (List.mem_cons.not.1 h)
    rw [alter, if_neg (Ne.symm hne), ih hms, Option.map_map]
    rfl

theorem alter_append_self (h : name ∉ ms.map Prod.fst) (f : Option Toml → Option Toml) :
    alter (ms ++ [(name, v)]) name f = (f (some v)).map fun v => ms ++ [(name, v)] := by
  induction ms with
  | nil =>
    rw [List.nil_append, alter, if_pos rfl]
    rfl
  | cons m ms ih =>
    obtain ⟨hne, hms⟩ := not_or.1 (List.mem_cons.not.1 h)
    rw [List.cons_append, alter, if_neg (Ne.symm hne), ih hms, Option.map_map]
    rfl

theorem add_of_new (h : name ∉ ms.map Prod.fst) : ms.add name v = some (ms ++ [(name, v)]) :=
  alter_of_new h _

theorem open_of_new (h : name ∉ ms.map Prod.fst) :
    ms.open name = some (ms ++ [(name, .table .header [])]) := alter_of_new h _

end Members

theorem apply_header {root : Members} {name : String} (h : name ∉ root.map Prod.fst)
    (current : List String) : Draft.apply ⟨root, current⟩ (.header ⟨[], name⟩) =
      some ⟨root ++ [(name, .table .header [])], [name]⟩ := by
  simp [Draft.apply, Members.within, Members.open_of_new h, Name.all]

/-- A pair goes into the section that was opened last. -/
theorem apply_pair {root inner : Members} {title name : String} (htitle : title ∉ root.map Prod.fst)
    (hname : name ∉ inner.map Prod.fst) (v : Toml) :
    Draft.apply ⟨root ++ [(title, .table .header inner)], [title]⟩ (.pair ⟨[], name⟩ v) =
      some ⟨root ++ [(title, .table .header (inner ++ [(name, v)]))], [title]⟩ := by
  simp [Draft.apply, Members.within, Members.alter_append_self htitle, Members.addDotted,
    Members.add_of_new hname]

def pairStatement (m : String × Toml) : Statement := .pair ⟨[], m.1⟩ m.2

theorem foldlM_pairs {root inner : Members} {title : String} (htitle : title ∉ root.map Prod.fst)
    {ms : Members} (hms : ((inner ++ ms).map Prod.fst).Nodup) :
    (ms.map pairStatement).foldlM Draft.apply ⟨root ++ [(title, .table .header inner)], [title]⟩ =
      some ⟨root ++ [(title, .table .header (inner ++ ms))], [title]⟩ := by
  induction ms generalizing inner with
  | nil => simp
  | cons m ms ih =>
    have hname : m.1 ∉ inner.map Prod.fst := by
      rw [List.map_append, List.nodup_append] at hms
      intro hmem
      exact hms.2.2 _ hmem _ List.mem_cons_self rfl
    have hrest : ((inner ++ [m] ++ ms).map Prod.fst).Nodup := by simpa using hms
    rw [List.map_cons, List.foldlM_cons, pairStatement, apply_pair htitle hname]
    simpa using ih hrest

/-- The statements of a section. -/
def sectionStatements (t : String × Members) : List Statement :=
  .header ⟨[], t.1⟩ :: t.2.map pairStatement

def sectionTable (t : String × Members) : String × Toml := (t.1, .table .header t.2)

theorem foldlM_sections {ts : List (String × Members)} {root : Members} {current : List String}
    (htitles : (root.map Prod.fst ++ ts.map Prod.fst).Nodup)
    (hms : ∀ t ∈ ts, (t.2.map Prod.fst).Nodup) :
    ((ts.flatMap sectionStatements).foldlM Draft.apply ⟨root, current⟩).map (·.root) =
      some (root ++ ts.map sectionTable) := by
  induction ts generalizing root current with
  | nil => simp
  | cons t ts ih =>
    obtain ⟨ht, hts⟩ := List.forall_mem_cons.1 hms
    have htitle : t.1 ∉ root.map Prod.fst := by
      rw [List.nodup_append] at htitles
      intro hmem
      exact htitles.2.2 _ hmem _ List.mem_cons_self rfl
    have hrest : (((root ++ [sectionTable t]).map Prod.fst) ++ ts.map Prod.fst).Nodup := by
      simpa [sectionTable] using htitles
    rw [List.flatMap_cons, List.foldlM_append, sectionStatements, List.foldlM_cons,
      apply_header htitle]
    simp only [Option.bind_eq_bind, Option.bind_some]
    rw [foldlM_pairs htitle (by simpa using ht), Option.bind_some, List.nil_append]
    simpa [sectionTable] using ih hrest hts

/-- The table that sections make up. -/
theorem ofStatements_sections {ts : List (String × Members)} (htitles : (ts.map Prod.fst).Nodup)
    (hms : ∀ t ∈ ts, (t.2.map Prod.fst).Nodup) :
    ofStatements (ts.flatMap sectionStatements) = some (ts.map sectionTable) :=
  foldlM_sections htitles hms

end CodeHealth.Toml
