import CodeHealth.Json.Shape
import CodeHealth.Proofs.Calendar.Timestamp
import CodeHealth.Proofs.Json.Finite
import CodeHealth.Proofs.Json.Members
import Mathlib

/-! What comes back of a value that is kept as plain JSON. Everything does, except for binary
numbers that are not finite: JSON has no words for them, so an optional one comes back as nothing,
and a record with any other does not come back at all. Numbers in a text are finite, and only the
32-bit ones can leave their range when they are read, so what has been read from a text always
comes back, and comes back the same if its numbers are finite. -/

namespace CodeHealth

open Json (Tree)

def Json.isNull : Json → Bool
  | .null => true
  | _ => false

namespace Shape

/-- Shapes of 32-bit numbers, the only ones that may be infinite when they are read. -/
def isReal32 {α : Type} : Shape α → Bool
  | .real32 => true
  | _ => false

/-- Shapes with finite values that are written as null. -/
def hasNull {α : Type} : Shape α → Bool
  | .unit => true
  | .any _ => true
  | .option _ => true
  | _ => false

mutual
/-- The value can be kept at all: numbers that are not finite are in optional places only. -/
def storable {α : Type} : Shape α → α → Bool
  | .real, x => x.isFinite
  | .real32, x => x.isFinite
  | .any _, _ => false
  | .option s, v => v.all fun a => (s.toPlain a).isNull || s.storable a
  | .list s, xs => xs.all s.storable
  | .record fields view, a => Fields.storable fields (view.fields a)
  | _, _ => true
def Fields.storable {β : Type} : Fields β → β → Bool
  | .nil, _ => true
  | .cons _ s _ rest, v => s.storable v.1 && Fields.storable rest v.2
end

mutual
/-- All binary numbers in the value are finite. -/
def Finite {α : Type} : Shape α → α → Prop
  | .real, x => x.isFinite
  | .real32, x => x.isFinite
  | .option s, v => ∀ a ∈ v, s.Finite a
  | .list s, xs => ∀ a ∈ xs, s.Finite a
  | .record fields view, a => Fields.Finite fields (view.fields a)
  | _, _ => True
def Fields.Finite {β : Type} : Fields β → β → Prop
  | .nil, _ => True
  | .cons _ s _ rest, v => s.Finite v.1 ∧ Fields.Finite rest v.2
end

mutual
/-- The value without the optional numbers that are not finite. -/
def kept {α : Type} : Shape α → α → α
  | .option s, v => v.bind fun a => if (s.toPlain a).isNull then none else some (s.kept a)
  | .list s, xs => xs.map s.kept
  | .record fields view, a => view.make (Fields.kept fields (view.fields a))
  | _, a => a
def Fields.kept {β : Type} : Fields β → β → β
  | .nil, v => v
  | .cons _ s _ rest, v => (s.kept v.1, Fields.kept rest v.2)
end

def Fields.names {β : Type} : Fields β → List String
  | .nil => []
  | .cons name _ _ rest => name :: Fields.names rest

mutual
/-- Shapes of payloads: fields have distinct names, nothing is optional twice, and 32-bit numbers
are in optional places only. -/
def isRegular {α : Type} : Shape α → Bool
  | .any _ => false
  | .option s => !s.hasNull && s.isRegular
  | .list s => !s.isReal32 && s.isRegular
  | .record fields _ => (Fields.names fields).Nodup && Fields.isRegular fields
  | _ => true
def Fields.isRegular {β : Type} : Fields β → Bool
  | .nil => true
  | .cons _ s absent rest =>
    !s.isReal32 && s.isRegular && absent.all s.storable && Fields.isRegular rest
end

theorem isRegular_option {α : Type} (s : Shape α) :
    (Shape.option s).isRegular ↔ s.hasNull = false ∧ s.isRegular := by
  simp [isRegular]

theorem isRegular_list {α : Type} (s : Shape α) :
    (Shape.list s).isRegular ↔ s.isReal32 = false ∧ s.isRegular := by
  simp [isRegular]

theorem isRegular_record {α β : Type} (fields : Fields β) (view : View α β) :
    (Shape.record fields view).isRegular ↔
      (Fields.names fields).Nodup ∧ Fields.isRegular fields := by
  simp [isRegular]

theorem Fields.isRegular_cons {α β : Type} (name : String) (s : Shape α)
    (absent : Option α) (rest : Fields β) :
    Fields.isRegular (.cons name s absent rest) ↔ (s.isReal32 = false ∧ s.isRegular) ∧
      (∀ a ∈ absent, s.storable a) ∧ Fields.isRegular rest := by
  cases absent <;> simp [Fields.isRegular, and_assoc]

theorem storable_option {α : Type} (s : Shape α) (v : Option α) :
    (Shape.option s).storable v ↔ ∀ a ∈ v, (s.toPlain a).isNull ∨ s.storable a := by
  cases v <;> simp [storable]

theorem storable_list {α : Type} (s : Shape α) (xs : List α) :
    (Shape.list s).storable xs ↔ ∀ a ∈ xs, s.storable a := by
  simp [storable]

theorem Fields.storable_cons {α β : Type} (name : String) (s : Shape α)
    (absent : Option α) (rest : Fields β) (v : α × β) :
    Fields.storable (.cons name s absent rest) v ↔
      s.storable v.1 ∧ Fields.storable rest v.2 := by
  simp [Fields.storable]

/-! ### Coming back -/

theorem names_encode {β : Type} : (fields : Fields β) → (v : β) →
    (Json.plainMembers (Fields.encode fields v)).map Prod.fst = Fields.names fields
  | .nil, _ => rfl
  | .cons name s absent rest, v => by
    rw [Fields.encode, Json.plainMembers, List.map_cons, names_encode rest v.2, Fields.names]

theorem ofJson_option {α : Type} (s : Shape α) {v : Json} (h : v.isNull = false) :
    (Shape.option s).ofJson v = (s.ofJson v).map some := by
  cases v <;> first | rfl | contradiction

theorem ofJson_option_null {α : Type} (s : Shape α) {v : Json} (h : v.isNull) :
    (Shape.option s).ofJson v = some none := by
  cases v <;> first | rfl | contradiction

theorem toPlain_list {α : Type} (s : Shape α) (xs : List α) :
    (Shape.list s).toPlain xs = .list (xs.map s.toPlain) := by
  simp only [toPlain, encode, Json.plain, Json.plainAll_eq_map, List.map_map]
  rfl

theorem mapM_map_of_forall {α β γ : Type} {f : β → Option γ} {g : α → β} {k : α → γ} {xs : List α}
    (h : ∀ a ∈ xs, f (g a) = some (k a)) : (xs.map g).mapM f = some (xs.map k) := by
  induction xs with
  | nil => rfl
  | cons a xs ih =>
    obtain ⟨ha, hxs⟩ := List.forall_mem_cons.1 h
    simp [ha, ih hxs]

theorem ofJson_list {α : Type} (s : Shape α) (vs : List Json) :
    (Shape.list s).ofJson (.list vs) = vs.mapM s.ofJson := by
  simp only [ofJson, Json.tree, decode, Json.treeAll_eq_map, List.mapM_map]
  rfl

mutual
/-- A storable value comes back. -/
theorem ofJson_toPlain {α : Type} : (s : Shape α) → s.isRegular → (a : α) → s.storable a →
    s.ofJson (s.toPlain a) = some (s.kept a)
  | .unit, _, _, _ => rfl
  | .flag, _, _, _ => rfl
  | .text, _, _, _ => rfl
  | .whole range, _, a, _ => range.ofInt?_toInt a
  | .real, _, x, h => by
    have h : x.isFinite = true := h
    simp [ofJson, toPlain, encode, h, Json.plain, Json.tree, decode, scalar?, kept]
  | .real32, _, x, h => by
    have h : x.isFinite = true := h
    simp [ofJson, toPlain, encode, h, Json.plain, Json.tree, decode, scalar?, kept,
      Binary32.ofBinary64_widen h]
  | .instant, _, t, _ => by
    simp [ofJson, toPlain, encode, Json.plain, Json.tree, decode, kept, Instant.read_write t]
  | .choice label, _, a, _ => label.find?_name a
  | .option s, hs, none, _ => rfl
  | .option s, hs, some a, h => by
    obtain ⟨-, hs⟩ := (isRegular_option s).1 hs
    have h := (storable_option s _).1 h a rfl
    have hplain : (Shape.option s).toPlain (some a) = s.toPlain a := rfl
    rw [hplain, kept, Option.bind_some]
    cases hnull : (s.toPlain a).isNull with
    | true => rw [ofJson_option_null s hnull, if_pos rfl]
    | false =>
      have hstorable := h.resolve_left (by simp [hnull])
      rw [ofJson_option s hnull, ofJson_toPlain s hs a hstorable, Option.map_some,
        if_neg Bool.false_ne_true]
  | .list s, hs, xs, h => by
    obtain ⟨-, hs⟩ := (isRegular_list s).1 hs
    rw [toPlain_list, ofJson_list, kept]
    exact mapM_map_of_forall fun a ha => ofJson_toPlain s hs a ((storable_list s xs).1 h a ha)
  | .record fields view, hs, a, h => by
    obtain ⟨hnames, hfields⟩ := (isRegular_record fields view).1 hs
    have hnodup := names_encode fields (view.fields a) ▸ hnames
    have hback := Fields.decode_encode fields hfields (view.fields a) h _
      fun m hm => Json.filter_treeMembers_ofMembers hnodup hm
    change decode (.record fields view) (.record (Json.treeMembers (Json.ofMembers
      (Json.plainMembers (Fields.encode fields (view.fields a)))))) = _
    rw [decode, Json.all_isSome_treeMembers, if_pos rfl, hback]
    rfl
theorem Fields.decode_encode {β : Type} : (fields : Fields β) → Fields.isRegular fields → (v : β) →
    Fields.storable fields v → (ms : List (Option String × Tree)) →
    (∀ m ∈ Json.plainMembers (Fields.encode fields v),
      ms.filter (·.1 == some m.1) = [(some m.1, m.2.tree)]) →
    Fields.decode fields ms = some (Fields.kept fields v)
  | .nil, _, _, _, _, _ => rfl
  | .cons name s absent rest, hs, v, h, ms, hms => by
    obtain ⟨⟨-, hs⟩, -, hregular⟩ := (Fields.isRegular_cons name s absent rest).1 hs
    obtain ⟨ha, hstorable⟩ := (Fields.storable_cons name s absent rest v).1 h
    have hfirst : ms.filter (·.1 == some name) = [(some name, (s.toPlain v.1).tree)] :=
      hms (name, s.toPlain v.1) List.mem_cons_self
    have hrest := Fields.decode_encode rest hregular v.2 hstorable ms fun m hm =>
      hms m (List.mem_cons_of_mem _ hm)
    have hvalue : s.decode (s.toPlain v.1).tree = some (s.kept v.1) :=
      ofJson_toPlain s hs v.1 ha
    simp only [Fields.decode, hfirst, hvalue, hrest, Option.bind_eq_bind, Option.bind_some]
    rfl
end

/-! ### Coming back the same -/

theorem isNull_toPlain {α : Type} {s : Shape α} (hs : s.hasNull = false) {a : α}
    (h : s.Finite a) : (s.toPlain a).isNull = false := by
  cases s <;> first | contradiction | rfl | skip
  all_goals
    have h : a.isFinite = true := h
    simp [toPlain, encode, Json.plain, h, Json.isNull]

mutual
/-- Values with finite numbers come back the same. -/
theorem kept_of_finite {α : Type} : (s : Shape α) → s.isRegular → (a : α) → s.Finite a →
    s.kept a = a
  | .unit, _, _, _ => rfl
  | .flag, _, _, _ => rfl
  | .text, _, _, _ => rfl
  | .whole _, _, _, _ => rfl
  | .real, _, _, _ => rfl
  | .real32, _, _, _ => rfl
  | .instant, _, _, _ => rfl
  | .choice _, _, _, _ => rfl
  | .option s, hs, none, _ => rfl
  | .option s, hs, some a, h => by
    obtain ⟨hnull, hs⟩ := (isRegular_option s).1 hs
    have h : s.Finite a := h a rfl
    rw [kept, Option.bind_some, isNull_toPlain hnull h, if_neg Bool.false_ne_true,
      kept_of_finite s hs a h]
  | .list s, hs, xs, h => by
    obtain ⟨-, hs⟩ := (isRegular_list s).1 hs
    rw [kept]
    exact (List.map_congr_left fun a ha => kept_of_finite s hs a (h a ha)).trans xs.map_id
  | .record fields view, hs, a, h => by
    obtain ⟨-, hfields⟩ := (isRegular_record fields view).1 hs
    rw [kept, Fields.kept_of_finite fields hfields _ h, view.make_fields]
theorem Fields.kept_of_finite {β : Type} : (fields : Fields β) → Fields.isRegular fields → (v : β) →
    Fields.Finite fields v → Fields.kept fields v = v
  | .nil, _, _, _ => rfl
  | .cons name s absent rest, hs, v, h => by
    obtain ⟨⟨-, hs⟩, -, hrest⟩ := (Fields.isRegular_cons name s absent rest).1 hs
    rw [Fields.kept, kept_of_finite s hs v.1 h.1, Fields.kept_of_finite rest hrest v.2 h.2]
end

mutual
theorem storable_of_finite {α : Type} : (s : Shape α) → s.isRegular → (a : α) → s.Finite a →
    s.storable a
  | .unit, _, _, _ => rfl
  | .flag, _, _, _ => rfl
  | .text, _, _, _ => rfl
  | .whole _, _, _, _ => rfl
  | .real, _, _, h => h
  | .real32, _, _, h => h
  | .instant, _, _, _ => rfl
  | .choice _, _, _, _ => rfl
  | .option s, hs, v, h => by
    obtain ⟨-, hs⟩ := (isRegular_option s).1 hs
    exact (storable_option s v).2 fun a ha => .inr (storable_of_finite s hs a (h a ha))
  | .list s, hs, xs, h => by
    obtain ⟨-, hs⟩ := (isRegular_list s).1 hs
    exact (storable_list s xs).2 fun a ha => storable_of_finite s hs a (h a ha)
  | .record fields view, hs, a, h => by
    obtain ⟨-, hfields⟩ := (isRegular_record fields view).1 hs
    exact Fields.storable_of_finite fields hfields _ h
theorem Fields.storable_of_finite {β : Type} : (fields : Fields β) → Fields.isRegular fields →
    (v : β) → Fields.Finite fields v → Fields.storable fields v
  | .nil, _, _, _ => rfl
  | .cons name s absent rest, hs, v, h => by
    obtain ⟨⟨-, hs⟩, -, hrest⟩ := (Fields.isRegular_cons name s absent rest).1 hs
    exact (Fields.storable_cons name s absent rest v).2
      ⟨storable_of_finite s hs v.1 h.1, Fields.storable_of_finite rest hrest v.2 h.2⟩
end

/-- A value with finite numbers survives being kept. -/
theorem ofJson_toPlain_of_finite {α : Type} {s : Shape α} (hs : s.isRegular) {a : α}
    (h : s.Finite a) : s.ofJson (s.toPlain a) = some a := by
  rw [ofJson_toPlain s hs a (storable_of_finite s hs a h), kept_of_finite s hs a h]

/-! ### What is read is storable -/

theorem finite_scalar {t : Tree} {n : Number.Scalar} (ht : t.Finite) (h : scalar? t = some n) :
    n.Finite := by
  cases t with
  | number x =>
    subst h
    exact ht
  | _ => contradiction

theorem isFinite_ofInt {i : ℤ} (h : i.natAbs < 2 ^ 64) : (Binary64.ofInt i).isFinite :=
  Binary64.isFinite_ofRatio_nat _ h

theorem pair_eq_some {α β : Type} {x : Option α} {y : Option β} {v : α × β}
    (h : (do some (← x, ← y)) = some v) : x = some v.1 ∧ y = some v.2 := by
  obtain ⟨a, ha, h⟩ := Option.bind_eq_some_iff.1 h
  obtain ⟨b, hb, h⟩ := Option.bind_eq_some_iff.1 h
  cases h
  exact ⟨ha, hb⟩

theorem mem_mapM {α β : Type} {f : α → Option β} {xs : List α} {ys : List β}
    (h : xs.mapM f = some ys) {y : β} (hy : y ∈ ys) : ∃ x ∈ xs, f x = some y := by
  induction xs generalizing ys with
  | nil =>
    cases h
    simp at hy
  | cons x xs ih =>
    rw [List.mapM_cons] at h
    obtain ⟨z, hz, h⟩ := Option.bind_eq_some_iff.1 h
    obtain ⟨zs, hzs, h⟩ := Option.bind_eq_some_iff.1 h
    cases h
    rcases List.mem_cons.1 hy with rfl | hy
    · exact ⟨x, List.mem_cons_self, hz⟩
    · obtain ⟨w, hw, hfw⟩ := ih hzs hy
      exact ⟨w, List.mem_cons_of_mem _ hw, hfw⟩

mutual
/-- What is read from a tree with finite numbers can be kept, but for a single 32-bit number. -/
theorem storable_decode {α : Type} : (s : Shape α) → s.isRegular → (t : Tree) → t.Finite → (a : α) →
    s.decode t = some a → s.storable a ∨ s.isReal32 ∧ (s.toPlain a).isNull
  | .unit, _, _, _, _, _ => .inl rfl
  | .flag, _, _, _, _, _ => .inl rfl
  | .text, _, _, _, _, _ => .inl rfl
  | .whole _, _, _, _, _, _ => .inl rfl
  | .real, _, t, ht, x, h => by
    obtain ⟨n, hn, rfl⟩ := Option.map_eq_some_iff.1 h
    have hfinite := finite_scalar ht hn
    cases n with
    | whole i => exact .inl (isFinite_ofInt hfinite)
    | real x => exact .inl hfinite
  | .real32, _, t, ht, x, h => by
    by_cases hx : x.isFinite
    · exact .inl hx
    · exact .inr ⟨rfl, by simp [toPlain, encode, hx, Json.plain, Json.isNull]⟩
  | .instant, _, _, _, _, _ => .inl rfl
  | .choice _, _, _, _, _, _ => .inl rfl
  | .option s, hs, t, ht, v, h => by
    obtain ⟨-, hs⟩ := (isRegular_option s).1 hs
    refine .inl ((storable_option s v).2 ?_)
    unfold decode at h
    split at h
    · cases h
      rintro a ⟨⟩
    · obtain ⟨a, ha, rfl⟩ := Option.map_eq_some_iff.1 h
      rintro b ⟨⟩
      rcases storable_decode s hs t ht a ha with h | ⟨-, h⟩
      · exact .inr h
      · exact .inl h
  | .list s, hs, t, ht, xs, h => by
    obtain ⟨hreal, hs⟩ := (isRegular_list s).1 hs
    refine .inl ((storable_list s xs).2 ?_)
    unfold decode at h
    split at h
    · rename_i ts
      intro a ha
      obtain ⟨t, hmem, hdecode⟩ := mem_mapM h ha
      have hfinite := (Tree.finiteItems_iff ts).1 ht t hmem
      exact (storable_decode s hs t hfinite a hdecode).resolve_right (by simp [hreal])
    · contradiction
  | .record fields view, hs, t, ht, a, h => by
    obtain ⟨-, hfields⟩ := (isRegular_record fields view).1 hs
    left
    unfold decode at h
    split at h
    · rename_i ms
      split at h
      · obtain ⟨b, hb, rfl⟩ := Option.map_eq_some_iff.1 h
        have := Fields.storable_decode fields hfields ms ((Tree.finiteMembers_iff ms).1 ht) b hb
        rwa [storable, view.fields_make]
      · contradiction
    · rename_i ts
      obtain ⟨b, hb, rfl⟩ := Option.map_eq_some_iff.1 h
      have := Fields.storable_decodeList fields hfields ts ((Tree.finiteItems_iff ts).1 ht) b hb
      rwa [storable, view.fields_make]
    · contradiction
theorem Fields.storable_decode {β : Type} : (fields : Fields β) → Fields.isRegular fields →
    (ms : List (Option String × Tree)) → (∀ m ∈ ms, m.2.Finite) → (v : β) →
    Fields.decode fields ms = some v → Fields.storable fields v
  | .nil, _, _, _, _, _ => rfl
  | .cons name s absent rest, hs, ms, hms, v, h => by
    obtain ⟨⟨hreal, hs⟩, habsent, hrest⟩ := (Fields.isRegular_cons name s absent rest).1 hs
    refine (Fields.storable_cons name s absent rest v).2 ?_
    unfold Fields.decode at h
    split at h
    · obtain ⟨ha, hb⟩ := pair_eq_some h
      exact ⟨habsent v.1 ha, Fields.storable_decode rest hrest ms hms v.2 hb⟩
    · rename_i m hfilter
      obtain ⟨ha, hb⟩ := pair_eq_some h
      have hmem : m ∈ ms := List.mem_of_mem_filter (hfilter ▸ List.mem_singleton_self m)
      have hfirst := storable_decode s hs m.2 (hms m hmem) v.1 ha
      exact ⟨hfirst.resolve_right (by simp [hreal]),
        Fields.storable_decode rest hrest ms hms v.2 hb⟩
    · contradiction
theorem Fields.storable_decodeList {β : Type} : (fields : Fields β) → Fields.isRegular fields →
    (ts : List Tree) → (∀ t ∈ ts, t.Finite) → (v : β) →
    Fields.decodeList fields ts = some v → Fields.storable fields v
  | .nil, _, _, _, _, _ => rfl
  | .cons name s absent rest, hs, ts, hts, v, h => by
    obtain ⟨⟨hreal, hs⟩, habsent, hrest⟩ := (Fields.isRegular_cons name s absent rest).1 hs
    refine (Fields.storable_cons name s absent rest v).2 ?_
    unfold Fields.decodeList at h
    split at h
    · obtain ⟨ha, hb⟩ := pair_eq_some h
      exact ⟨habsent v.1 ha, Fields.storable_decodeList rest hrest [] (by simp) v.2 hb⟩
    · rename_i t ts
      obtain ⟨ha, hb⟩ := pair_eq_some h
      obtain ⟨ht, hts⟩ := List.forall_mem_cons.1 hts
      have hfirst := storable_decode s hs t ht v.1 ha
      exact ⟨hfirst.resolve_right (by simp [hreal]),
        Fields.storable_decodeList rest hrest ts hts v.2 hb⟩
end

/-- What has been read from a text comes back after it has been kept. -/
theorem ofJson_toPlain_of_read {α : Type} {s : Shape α} (hs : s.isRegular)
    (hreal : s.isReal32 = false) {text : String} {a : α} (h : s.read text = some a) :
    s.ofJson (s.toPlain a) = some (s.kept a) := by
  obtain ⟨t, ht, ha⟩ := Option.bind_eq_some_iff.1 h
  have hstorable := storable_decode s hs t (Tree.finite_read ht) a ha
  exact ofJson_toPlain s hs a (hstorable.resolve_right (by simp [hreal]))

end Shape

end CodeHealth
