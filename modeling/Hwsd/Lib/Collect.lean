import Mathlib.Data.List.Basic

/-!
# Hwsd.Lib.Collect

Grouping entries by a key: one pass over a list scatters the entries into an ordered map, where each
updates the value of its key, which starts from `init`. Entries without a key are skipped.

* `ofKey key k xs`: the entries of one key, in order.
* `getElem?_collect`: what the pass leaves in a key is the fold over the entries of that key. The
  induction is on the list, for any map to start with.
* `mem_toList_collect`, `toList_collect_congr`: the same for the listing of the map.
* `field_foldl`: a field that every entry overwrites or keeps comes from the last one that writes it.
-/

namespace Collect

open Std

variable {κ ε ν φ : Type*} [Ord κ]

section

variable (key : ε → Option κ) (init : ν) (step : ν → ε → ν)

/-- One entry of the pass. -/
def visit (m : TreeMap κ ν) (x : ε) : TreeMap κ ν :=
  match key x with
  | none => m
  | some k => m.alter k fun v => some (step (v.getD init) x)

def collect (xs : List ε) : TreeMap κ ν := xs.foldl (visit key init step) ∅

variable [DecidableEq κ]

def ofKey (k : κ) (xs : List ε) : List ε := xs.filter fun x => key x = some k

/-- The value of a key after its entries. -/
def gather (v : Option ν) (xs : List ε) : Option ν :=
  xs.foldl (fun v x => some (step (v.getD init) x)) v

variable [TransOrd κ] [LawfulEqOrd κ]

theorem getElem?_visit (m : TreeMap κ ν) (x : ε) (k : κ) :
    (visit key init step m x)[k]? =
      if key x = some k then some (step (m[k]?.getD init) x) else m[k]? := by
  rw [visit]
  cases hx : key x with
  | none => simp
  | some k' =>
    by_cases hk : k' = k
    · subst hk
      simp
    · simp [TreeMap.getElem?_alter, LawfulEqCmp.compare_eq_iff_eq, hk]

theorem getElem?_foldl_visit (m : TreeMap κ ν) (xs : List ε) (k : κ) :
    (xs.foldl (visit key init step) m)[k]? = gather init step m[k]? (ofKey key k xs) := by
  induction xs generalizing m with
  | nil => rfl
  | cons x xs ih =>
    rw [List.foldl_cons, ih, getElem?_visit, ofKey, ofKey, List.filter_cons]
    by_cases hx : key x = some k
    · simp [hx, gather]
    · simp [hx]

theorem getElem?_collect (xs : List ε) (k : κ) :
    (collect key init step xs)[k]? = gather init step none (ofKey key k xs) := by
  rw [collect, getElem?_foldl_visit]
  simp

end

section

variable {key : ε → Option κ} {init : ν} {step : ν → ε → ν}

omit [Ord κ] in
theorem gather_some (v : ν) (xs : List ε) :
    gather init step (some v) xs = some (xs.foldl step v) := by
  induction xs generalizing v with
  | nil => rfl
  | cons x xs ih => exact ih (step v x)

omit [Ord κ] in
theorem gather_none {xs : List ε} {v : ν} :
    gather init step none xs = some v ↔ xs ≠ [] ∧ xs.foldl step init = v := by
  cases xs with
  | nil => simp [gather]
  | cons x xs =>
    show gather init step (some (step init x)) xs = some v ↔ _
    rw [gather_some]
    simp

variable [DecidableEq κ] [TransOrd κ] [LawfulEqOrd κ]

/-- The map lists the keys that some entry has, each with the fold over its entries. -/
theorem mem_toList_collect {xs : List ε} {k : κ} {v : ν} :
    (k, v) ∈ (collect key init step xs).toList ↔
      ofKey key k xs ≠ [] ∧ (ofKey key k xs).foldl step init = v := by
  rw [TreeMap.mem_toList_iff_getElem?_eq_some, getElem?_collect, gather_none]

/-- The listing depends on the entries of each key only. -/
theorem toList_collect_congr {xs ys : List ε} (h : ∀ k, ofKey key k xs = ofKey key k ys) :
    (collect key init step xs).toList = (collect key init step ys).toList := by
  refine (TreeMap.Equiv.of_forall_constGet?_eq fun k => ?_).toList_eq
  rw [getElem?_collect, getElem?_collect, h k]

end

omit [Ord κ] in
/-- A field that each entry overwrites or keeps. -/
theorem field_foldl {step : ν → ε → ν} {field : ν → φ} {write : ε → Option φ}
    (h : ∀ v x, field (step v x) = (write x).getD (field v)) (xs : List ε) (v : ν) :
    field (xs.foldl step v) = (xs.filterMap write).getLast?.getD (field v) := by
  induction xs generalizing v with
  | nil => rfl
  | cons x xs ih =>
    rw [List.foldl_cons, ih, h]
    cases hx : write x with
    | none => rw [List.filterMap_cons_none hx, Option.getD_none]
    | some a => rw [List.filterMap_cons_some hx, List.getLast?_cons, Option.getD_some, Option.getD_some]

end Collect
