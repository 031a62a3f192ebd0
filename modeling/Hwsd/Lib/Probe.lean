import Mathlib.Data.List.Nodup
import Mathlib.Data.Nat.Find

/-!
# Hwsd.Lib.Probe

Enumerating by asking for one thing after the other until one of them does not exist.

* `probe query fuel j`: the answers from `j` on, up to the first that is missing.
* `mem_probe`: every answer belongs to a question. `probe_eq`: where the first `n` questions have an
  answer and the next one has not, these are all of them, for any fuel of at least `n`.
* `probeAll`: the same as a loop that appends to a list and has no result when its fuel runs out.
  `exists_probeAll_iff`: it finds all answers below `m` exactly if no missing one hides another.
  The induction is on the fuel, and `FirstMissing` says where the loop stops.
* `cells rows count`: the places of a table with `count i` columns in row `i`, in the order in which
  rows are probed.
* `front o l`: the list `l` with `o` moved to its front, or put there.
-/

namespace Probe

variable {α β : Type*}

def probe (query : Nat → Option α) : Nat → Nat → List α
  | 0, _ => []
  | fuel + 1, j =>
    match query j with
    | none => []
    | some a => a :: probe query fuel (j + 1)

theorem mem_probe {query : Nat → Option α} {fuel j : Nat} {a : α} (h : a ∈ probe query fuel j) :
    ∃ i, query i = some a := by
  induction fuel generalizing j with
  | zero => simp [probe] at h
  | succ fuel ih =>
    rw [probe] at h
    cases hq : query j with
    | none => simp [hq] at h
    | some b =>
      rw [hq] at h
      rcases List.mem_cons.mp h with rfl | h
      · exact ⟨j, hq⟩
      · exact ih h

theorem probe_from {query : Nat → Option α} {f : Nat → α} {n : Nat}
    (hsome : ∀ j, j < n → query j = some (f j)) (hnone : query n = none) (k fuel j : Nat)
    (hj : j + k = n) (hfuel : k < fuel) : probe query fuel j = (List.range' j k).map f := by
  induction k generalizing fuel j with
  | zero =>
    cases fuel with
    | zero => omega
    | succ fuel =>
      have hjn : j = n := by omega
      simp [probe, hjn, hnone]
  | succ k ih =>
    cases fuel with
    | zero => omega
    | succ fuel =>
      rw [probe, hsome j (by omega)]
      simp only
      rw [ih fuel (j + 1) (by omega) (by omega), List.range'_succ, List.map_cons]

theorem probe_eq {query : Nat → Option α} {f : Nat → α} {n fuel : Nat}
    (hsome : ∀ j, j < n → query j = some (f j)) (hnone : query n = none) (hfuel : n < fuel) :
    probe query fuel 0 = (List.range n).map f := by
  rw [probe_from hsome hnone n fuel 0 (by omega) hfuel, List.range_eq_range']

/-! ## The loop -/

def probeAll (query : Nat → Option α) : Nat → Nat → List α → Option (List α)
  | 0, _, _ => none
  | fuel + 1, j, result =>
    match query j with
    | none => some result
    | some a => probeAll query fuel (j + 1) (result ++ [a])

/-- The first missing answer from `j` on is `k` places further. -/
def FirstMissing (query : Nat → Option α) (j k : Nat) : Prop :=
  (∀ i, i < k → query (j + i) ≠ none) ∧ query (j + k) = none

section

variable {query : Nat → Option α}

theorem firstMissing_zero {j : Nat} : FirstMissing query j 0 ↔ query j = none := by
  simp [FirstMissing]

theorem firstMissing_succ {j k : Nat} :
    FirstMissing query j (k + 1) ↔ query j ≠ none ∧ FirstMissing query (j + 1) k := by
  have hshift : ∀ i, j + 1 + i = j + (i + 1) := by omega
  simp only [FirstMissing, hshift]
  constructor
  · intro ⟨hsome, hnone⟩
    exact ⟨hsome 0 (by omega), fun i hi => hsome (i + 1) (by omega), hnone⟩
  · intro ⟨hj, hsome, hnone⟩
    refine ⟨fun i hi => ?_, hnone⟩
    cases i with
    | zero => exact hj
    | succ i => exact hsome i (by omega)

theorem exists_firstMissing (h : ∃ k, query k = none) : ∃ k, FirstMissing query 0 k := by
  classical
  refine ⟨Nat.find h, fun i hi => ?_, ?_⟩
  · rw [Nat.zero_add]
    exact Nat.find_min h hi
  · rw [Nat.zero_add]
    exact Nat.find_spec h

theorem FirstMissing.le {k i : Nat} (h : FirstMissing query 0 k) (hi : query i = none) : k ≤ i := by
  by_contra hlt
  have hsome := h.1 i (by omega)
  rw [Nat.zero_add] at hsome
  exact hsome hi

/-- The loop stops at the first missing answer. -/
theorem probeAll_eq_some {fuel j : Nat} {result r : List α} :
    probeAll query fuel j result = some r ↔ ∃ k, k < fuel ∧ FirstMissing query j k ∧
      r = result ++ (List.range' j k).filterMap query := by
  induction fuel generalizing j result with
  | zero => simp [probeAll]
  | succ fuel ih =>
    rw [probeAll]
    cases hq : query j with
    | none =>
      constructor
      · intro h
        exact ⟨0, by omega, firstMissing_zero.mpr hq, by simpa using h.symm⟩
      · rintro ⟨k, _, hk, rfl⟩
        cases k with
        | zero => simp
        | succ k => exact absurd hq (firstMissing_succ.mp hk).1
    | some a =>
      have hj : query j ≠ none := by simp [hq]
      rw [ih]
      constructor
      · rintro ⟨k, hlt, hk, rfl⟩
        refine ⟨k + 1, by omega, firstMissing_succ.mpr ⟨hj, hk⟩, ?_⟩
        rw [List.range'_succ, List.filterMap_cons_some hq, List.append_assoc]
        rfl
      · rintro ⟨k, hlt, hk, rfl⟩
        cases k with
        | zero => exact absurd (firstMissing_zero.mp hk) hj
        | succ k =>
          refine ⟨k, by omega, (firstMissing_succ.mp hk).2, ?_⟩
          rw [List.range'_succ, List.filterMap_cons_some hq, List.append_assoc]
          rfl

/-- Up to `k` and from `k` on. -/
theorem filterMap_range_split {k m : Nat} (h : k ≤ m) : (List.range m).filterMap query =
    (List.range' 0 k).filterMap query ++ (List.range' k (m - k)).filterMap query := by
  have hrange : List.range' 0 k ++ List.range' (0 + k) (m - k) = List.range' 0 (k + (m - k)) :=
    List.range'_append_1
  rw [Nat.zero_add, Nat.add_sub_cancel' h] at hrange
  rw [← List.filterMap_append, hrange, List.range_eq_range']

/-- If an answer is missing, the first one that is decides what the loop returns: it must not hide
a later one. -/
theorem exists_probeAll_iff {m : Nat}
    (hm : ∀ k, query k = none → ∃ i, i ≤ m ∧ query i = none) (result : List α) :
    (∃ fuel, probeAll query fuel 0 result = some (result ++ (List.range m).filterMap query)) ↔
      (∃ k, query k = none) ∧ ∀ i j, i < j → j < m → query i = none → query j = none := by
  have hle : ∀ k, FirstMissing query 0 k → k ≤ m := by
    intro k hk
    obtain ⟨i, hi, hnone⟩ := hm (0 + k) hk.2
    exact Nat.le_trans (hk.le hnone) hi
  constructor
  · rintro ⟨fuel, h⟩
    obtain ⟨k, _, hk, heq⟩ := probeAll_eq_some.mp h
    rw [filterMap_range_split (hle k hk)] at heq
    have hrest : (List.range' k (m - k)).filterMap query = [] := by simpa using heq
    refine ⟨⟨0 + k, hk.2⟩, fun i j hij hj hi => ?_⟩
    have hki := hk.le hi
    exact List.filterMap_eq_nil_iff.mp hrest j (List.mem_range'_1.mpr ⟨by omega, by omega⟩)
  · rintro ⟨hex, hlater⟩
    obtain ⟨k, hk⟩ := exists_firstMissing hex
    have hnone := hk.2
    rw [Nat.zero_add] at hnone
    have hrest : (List.range' k (m - k)).filterMap query = [] := by
      rw [List.filterMap_eq_nil_iff]
      intro j hj
      obtain ⟨hkj, hjm⟩ := List.mem_range'_1.mp hj
      rcases Nat.eq_or_lt_of_le hkj with rfl | hlt
      · exact hnone
      · exact hlater k j hlt (by omega) hnone
    refine ⟨k + 1, probeAll_eq_some.mpr ⟨k, by omega, hk, ?_⟩⟩
    rw [filterMap_range_split (hle k hk), hrest, List.append_nil]

end

/-! ## Tables -/

def cells (rows : Nat) (count : Nat → Nat) : List (Nat × Nat) :=
  (List.range rows).flatMap fun i => (List.range (count i)).map (i, ·)

theorem mem_cells {rows : Nat} {count : Nat → Nat} {p : Nat × Nat} :
    p ∈ cells rows count ↔ p.1 < rows ∧ p.2 < count p.1 := by
  simp only [cells, List.mem_flatMap, List.mem_map, List.mem_range]
  constructor
  · rintro ⟨i, hi, j, hj, rfl⟩
    exact ⟨hi, hj⟩
  · rintro ⟨hi, hj⟩
    exact ⟨p.1, hi, p.2, hj, rfl⟩

theorem nodup_cells (rows : Nat) (count : Nat → Nat) : (cells rows count).Nodup := by
  rw [cells, List.nodup_flatMap]
  refine ⟨fun i _ => ?_, ?_⟩
  · exact List.Nodup.map (fun j j' h => (Prod.mk.inj h).2) List.nodup_range
  · refine List.Pairwise.imp ?_ (List.nodup_range (n := rows))
    intro i i' hne p hp hp'
    obtain ⟨_, _, rfl⟩ := List.mem_map.mp hp
    obtain ⟨_, _, h⟩ := List.mem_map.mp hp'
    exact hne (Prod.mk.inj h).1.symm

/-! ## One entry first -/

def front [DecidableEq α] (o : Option α) (l : List α) : List α :=
  o.toList ++ l.filter fun b => o ≠ some b

section

variable [DecidableEq α] {o : Option α} {l : List α}

theorem mem_front {a : α} : a ∈ front o l ↔ o = some a ∨ a ∈ l := by
  rw [front, List.mem_append, Option.mem_toList, List.mem_filter]
  by_cases h : o = some a
  · simp [h]
  · simp [h]

theorem nodup_front (h : l.Nodup) : (front o l).Nodup := by
  cases o with
  | none => simpa [front] using h
  | some a =>
    rw [front, Option.toList_some, List.singleton_append, List.nodup_cons]
    exact ⟨by simp, h.filter _⟩

theorem length_front_le (o : Option α) (l : List α) : (front o l).length ≤ l.length + 1 := by
  have hfilter := List.length_filter_le (fun b => decide (o ≠ some b)) l
  have ho : o.toList.length ≤ 1 := by cases o <;> simp
  rw [front, List.length_append]
  omega

end

end Probe
