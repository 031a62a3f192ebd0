import Mathlib.Data.List.AList

/-!
# Hwsd.Lib.Store

Key/value stores that only grow, seen through the log of writes made to them.

* `setAll ws s` makes the writes `ws` one after the other.
* `lastWrite ws k` is the value a log leaves in `k`; `lookup_setAll` says that a store holds the
  last write of its log, or what it held before. `lastWrite_flatMap`: the log of a series of steps.
* `cells` is the log of a table: entry `i` of a list writes its fields into the keys
  `slot i f`. `lastWrite_cells` reads one cell back, `filterMap_range` all rows.
-/

namespace KvStore

variable {κ ν : Type*} [DecidableEq κ]

abbrev Store (κ ν : Type*) := AList fun _ : κ => ν

def setAll (ws : List (κ × ν)) (s : Store κ ν) : Store κ ν :=
  ws.foldl (fun s w => s.insert w.1 w.2) s

def lastWrite (ws : List (κ × ν)) (k : κ) : Option ν := ws.reverse.lookup k

@[simp] theorem setAll_nil (s : Store κ ν) : setAll [] s = s := rfl

@[simp] theorem setAll_cons (w : κ × ν) (ws : List (κ × ν)) (s : Store κ ν) :
    setAll (w :: ws) s = setAll ws (s.insert w.1 w.2) := rfl

theorem setAll_append (ws ws' : List (κ × ν)) (s : Store κ ν) :
    setAll (ws ++ ws') s = setAll ws' (setAll ws s) := by
  simp [setAll]

@[simp] theorem lastWrite_nil (k : κ) : lastWrite ([] : List (κ × ν)) k = none := rfl

theorem lastWrite_append (ws ws' : List (κ × ν)) (k : κ) :
    lastWrite (ws ++ ws') k = (lastWrite ws' k).or (lastWrite ws k) := by
  simp [lastWrite, List.lookup_append]

theorem lastWrite_cons (w : κ × ν) (ws : List (κ × ν)) (k : κ) :
    lastWrite (w :: ws) k = (lastWrite ws k).or (if k = w.1 then some w.2 else none) := by
  obtain ⟨a, v⟩ := w
  rw [← List.singleton_append, lastWrite_append]
  have hw : lastWrite [(a, v)] k = if k = a then some v else none := by
    by_cases h : k = a
    · subst h; simp [lastWrite]
    · have hb : (k == a) = false := beq_eq_false_iff_ne.mpr h
      simp [lastWrite, List.lookup_cons, hb, h]
  rw [hw]

theorem lookup_setAll (ws : List (κ × ν)) (s : Store κ ν) (k : κ) :
    (setAll ws s).lookup k = (lastWrite ws k).or (s.lookup k) := by
  induction ws generalizing s with
  | nil => simp
  | cons w ws ih =>
    rw [setAll_cons, ih, lastWrite_cons, Option.or_assoc]
    by_cases h : k = w.1
    · subst h; simp
    · rw [if_neg h, AList.lookup_insert_ne h, Option.none_or]

theorem lastWrite_eq_none {ws : List (κ × ν)} {k : κ} :
    lastWrite ws k = none ↔ ∀ w ∈ ws, w.1 ≠ k := by
  induction ws with
  | nil => simp
  | cons w ws ih =>
    rw [lastWrite_cons]
    by_cases h : k = w.1
    · simp [h]
    · simp [h, ih, eq_comm (a := w.1)]

section FlatMap

variable {β : Type*} {f : β → List (κ × ν)} {cs : List β} {k : κ}

theorem lastWrite_flatMap (f : β → List (κ × ν)) (cs : List β) (k : κ) :
    lastWrite (cs.flatMap f) k = (cs.filterMap fun c => lastWrite (f c) k).getLast? := by
  induction cs with
  | nil => rfl
  | cons c cs ih =>
    rw [List.flatMap_cons, lastWrite_append, ih, List.filterMap_cons]
    cases lastWrite (f c) k with
    | none => exact Option.or_none
    | some v =>
      rw [List.getLast?_cons]
      cases (cs.filterMap fun c => lastWrite (f c) k).getLast? <;> rfl

theorem lastWrite_flatMap_eq_none :
    lastWrite (cs.flatMap f) k = none ↔ ∀ c ∈ cs, lastWrite (f c) k = none := by
  rw [lastWrite_flatMap, List.getLast?_eq_none_iff, List.filterMap_eq_nil_iff]

theorem exists_of_lastWrite_flatMap {v : ν} (h : lastWrite (cs.flatMap f) k = some v) :
    ∃ c ∈ cs, lastWrite (f c) k = some v := by
  rw [lastWrite_flatMap] at h
  exact List.mem_filterMap.mp (List.mem_of_getLast? h)

end FlatMap

/-- Spelling the keys of a log differently moves no value. -/
theorem lastWrite_map_key {κ' : Type*} [DecidableEq κ'] {ws : List (κ × ν)} (f : κ → κ') {k : κ}
    (hf : ∀ w ∈ ws, f w.1 = f k → w.1 = k) :
    lastWrite (ws.map fun w => (f w.1, w.2)) (f k) = lastWrite ws k := by
  induction ws with
  | nil => rfl
  | cons w ws ih =>
    rw [List.map_cons, lastWrite_cons, lastWrite_cons, ih fun x hx => hf x (by simp [hx])]
    by_cases h : k = w.1
    · simp [h]
    · have : ¬ f k = f w.1 := fun hk => h (hf w (by simp) hk.symm).symm
      rw [if_neg h, if_neg this]

section Cells

variable {α φ : Type*} (slot : Nat → φ → κ) (fields : α → List (φ × ν))

/-- The log of a table whose rows are numbered from `n`. -/
def cells : Nat → List α → List (κ × ν)
  | _, [] => []
  | n, a :: l => (fields a).map (fun w => (slot n w.1, w.2)) ++ cells (n + 1) l

omit [DecidableEq κ] in
theorem cells_eq_flatMap (n : Nat) (l : List α) : cells slot fields n l =
    (l.zipIdx n).flatMap fun w => (fields w.1).map fun x => (slot w.2 x.1, x.2) := by
  induction l generalizing n with
  | nil => rfl
  | cons a l ih => rw [cells, ih, List.zipIdx_cons, List.flatMap_cons]

omit [DecidableEq κ] in
theorem exists_of_mem_cells {n : Nat} {l : List α} {w : κ × ν} (h : w ∈ cells slot fields n l) :
    ∃ i f, n ≤ i ∧ w.1 = slot i f := by
  induction l generalizing n with
  | nil => simp [cells] at h
  | cons a l ih =>
    rw [cells, List.mem_append, List.mem_map] at h
    rcases h with ⟨x, _, rfl⟩ | h
    · exact ⟨n, x.1, Nat.le_refl n, rfl⟩
    · obtain ⟨i, f, hi, hw⟩ := ih h
      exact ⟨i, f, by omega, hw⟩

theorem lastWrite_cells_of_ne {n : Nat} {l : List α} {k : κ}
    (h : ∀ i f, n ≤ i → slot i f ≠ k) : lastWrite (cells slot fields n l) k = none := by
  rw [lastWrite_eq_none]
  intro w hw
  obtain ⟨i, f, hi, hwi⟩ := exists_of_mem_cells slot fields hw
  rw [hwi]
  exact h i f hi

variable {slot} [DecidableEq φ]

theorem lastWrite_cells (hs : Function.Injective2 slot) (n i : Nat) (l : List α) (f : φ) :
    lastWrite (cells slot fields n l) (slot (n + i) f) =
      l[i]?.bind fun a => lastWrite (fields a) f := by
  induction l generalizing n i with
  | nil => simp [cells]
  | cons a l ih =>
    rw [cells, lastWrite_append]
    cases i with
    | zero =>
      rw [lastWrite_cells_of_ne slot fields fun i g hi heq => by
        have := (hs heq).1; omega]
      simp only [Nat.add_zero, Option.none_or, List.getElem?_cons_zero, Option.bind_some]
      exact lastWrite_map_key (slot n) fun w _ hw => (hs hw).2
    | succ i =>
      have hrow : lastWrite ((fields a).map fun w => (slot n w.1, w.2)) (slot (n + (i + 1)) f) =
          none := by
        rw [lastWrite_eq_none]
        intro w hw heq
        obtain ⟨x, _, rfl⟩ := List.mem_map.mp hw
        have := (hs heq).1
        omega
      rw [hrow, Option.or_none, show n + (i + 1) = n + 1 + i by omega, ih]
      simp

end Cells

/-- Rows that are decoded by their number, one after the other, come back in order. -/
theorem filterMap_range {α β : Type*} {f : Nat → Option β} {g : Nat → α → β} {l : List α}
    (h : ∀ k a, l[k]? = some a → f k = some (g k a)) :
    (List.range l.length).filterMap f = l.mapIdx g := by
  induction l generalizing f g with
  | nil => rfl
  | cons a l ih =>
    have hrest : (List.range l.length).filterMap (f ∘ Nat.succ) = l.mapIdx fun k => g (k + 1) :=
      ih fun k b hb => h (k + 1) b (by simpa using hb)
    rw [List.length_cons, List.range_succ_eq_map, List.filterMap_cons, h 0 a rfl,
      List.filterMap_map, hrest, List.mapIdx_cons]

end KvStore
