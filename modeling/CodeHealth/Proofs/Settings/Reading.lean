import CodeHealth.Proofs.Settings.RoundTrip
import CodeHealth.Proofs.Toml.Range
import Mathlib

/-! Settings that have been read from a file can be written again: the numbers in a file are below
2^63, and so are those that are taken from it. -/

namespace CodeHealth

open Toml (FitMembers FitItems)

namespace Settings

theorem fit_lookup {ms : Toml.Members} {name : String} {v : Toml} (hms : FitMembers ms)
    (h : ms.lookup name = some v) : v.Fits := by
  induction ms with
  | nil => contradiction
  | cons m ms ih =>
    obtain ⟨hm, hms⟩ := hms
    rw [List.lookup_cons] at h
    split at h
    · obtain rfl := Option.some.inj h
      exact hm
    · exact ih hms h

def Section.Fits : Section → Prop
  | .named ms => FitMembers ms
  | .listed xs => FitItems xs

theorem fit_sectionOf {v : Toml} {x : Section} (hv : v.Fits) (h : sectionOf v = some x) :
    x.Fits := by
  cases v with
  | table origin ms =>
    obtain rfl := Option.some.inj h
    exact hv
  | list xs =>
    obtain rfl := Option.some.inj h
    exact hv
  | tables ts =>
    obtain rfl := Option.some.inj h
    rw [Section.Fits, Toml.fitItems_iff, List.forall_mem_map]
    exact (Toml.fitTables_iff ts).1 hv
  | _ => contradiction

/-- A number of 64 bits is read only from itself. -/
theorem toNat_of_uint64 {i : ℤ} {n : UInt64} (h : WholeRange.uint64.ofInt? i = some n) :
    (n.toNat : ℤ) = i := by
  simp only [WholeRange.uint64] at h
  split_ifs at h with hself
  obtain rfl := Option.some.inj h
  exact hself

theorem lt_of_wholeOf {v : Toml} {n : UInt64} (hv : v.Fits) (h : wholeOf .uint64 v = some n) :
    n.toNat < 2 ^ 63 := by
  cases v with
  | whole i =>
    have hi : i < 2 ^ 63 := hv
    have hn : (n.toNat : ℤ) = i := toNat_of_uint64 h
    omega
  | _ => contradiction

theorem lt_of_optional {ms : Toml.Members} {name : String} {o : Option UInt64}
    (hms : FitMembers ms) (h : optional ms name (wholeOf .uint64) = some o) :
    ∀ n ∈ o, n.toNat < 2 ^ 63 := by
  unfold optional at h
  split at h
  · obtain rfl := Option.some.inj h
    rintro n ⟨⟩
  · rename_i v hlookup
    obtain ⟨m, hm, rfl⟩ := Option.map_eq_some_iff.1 h
    rintro n ⟨⟩
    exact lt_of_wholeOf (fit_lookup hms hlookup) hm

theorem timeout_of_readApi {x : Section} {a : ApiSettings} (hx : x.Fits) (h : readApi x = some a) :
    ∀ n ∈ a.timeoutSecs, n.toNat < 2 ^ 63 := by
  unfold readApi at h
  split at h
  · simp only [Option.bind_eq_bind, Option.bind_eq_some_iff] at h
    obtain ⟨url, -, key, -, timeout, htimeout, heq⟩ := h
    obtain rfl := Option.some.inj heq
    exact lt_of_optional hx htimeout
  · simp only [Option.bind_eq_bind, Option.bind_eq_some_iff] at h
    obtain ⟨url, -, key, -, timeout, htimeout, heq⟩ := h
    obtain rfl := Option.some.inj heq
    rintro n ⟨⟩
    exact lt_of_wholeOf hx.2.2.1 htimeout
  · contradiction

theorem interval_of_readPolling {x : Section} {p : PollingSettings} (hx : x.Fits)
    (h : readPolling x = some p) : ∀ n ∈ p.intervalMs, n.toNat < 2 ^ 63 := by
  unfold readPolling at h
  split at h
  · simp only [Option.bind_eq_bind, Option.bind_eq_some_iff] at h
    obtain ⟨interval, hinterval, polls, -, heq⟩ := h
    obtain rfl := Option.some.inj heq
    exact lt_of_optional hx hinterval
  · simp only [Option.bind_eq_bind, Option.bind_eq_some_iff] at h
    obtain ⟨interval, hinterval, polls, -, heq⟩ := h
    obtain rfl := Option.some.inj heq
    rintro n ⟨⟩
    exact lt_of_wholeOf hx.1 hinterval
  · contradiction

/-- A section is absent, or read from members that fit. -/
theorem readSection_cases {α : Type} {ms : Toml.Members} (hms : FitMembers ms) {name : String}
    {absent a : α} {read : Section → Option α} (h : readSection ms name absent read = some a) :
    a = absent ∨ ∃ x : Section, x.Fits ∧ read x = some a := by
  unfold readSection at h
  split at h
  · exact .inl (Option.some.inj h).symm
  · rename_i v hlookup
    obtain ⟨x, hx, hread⟩ := Option.bind_eq_some_iff.1 h
    exact .inr ⟨x, fit_sectionOf (fit_lookup hms hlookup) hx, hread⟩

/-- Settings that have been read from a file can be written again. -/
theorem writable_of_read {text : String} {s : Settings} (h : read text = some s) : s.Writable := by
  obtain ⟨ms, hms, h⟩ := Option.bind_eq_some_iff.1 h
  have hfit := Toml.fit_read hms
  simp only [ofTable, Option.bind_eq_bind, Option.bind_eq_some_iff] at h
  obtain ⟨api, hapi, polling, hpolling, heq⟩ := h
  obtain rfl := Option.some.inj heq
  constructor
  · rcases readSection_cases hfit hapi with rfl | ⟨x, hx, hread⟩
    · rintro n ⟨⟩
    · exact timeout_of_readApi hx hread
  · rcases readSection_cases hfit hpolling with rfl | ⟨x, hx, hread⟩
    · rintro n ⟨⟩
    · exact interval_of_readPolling hx hread

end Settings

end CodeHealth
