import Mathlib.Data.List.Nodup

/-!
# Hwsd.Lib.Lines

Texts that are made of lines, and records that are printed as labelled lines of which some may be
left out.

* `terminate c ls`: the entries of `ls` one after the other, each ended by `c`. `terminate_inj`: they
  are told apart if none of them holds `c` itself.
* `terminate_blocks_inj`: the same for blocks of lines, each block ended by an empty line.
* `fieldLines fields r`: a line for each field of `r` that has a value. `fieldLines_eq_iff`: with
  different labels of one length the lines tell every field, those that are left out included.
-/

namespace Lines

variable {α : Type*}

/-- Two texts with a separator are cut apart at the first one. -/
theorem append_cons_inj_first {c : α} {l l' r r' : List α} (hl : c ∉ l) (hl' : c ∉ l') :
    l ++ c :: r = l' ++ c :: r' ↔ l = l' ∧ r = r' := by
  constructor
  · intro h
    induction l generalizing l' with
    | nil =>
      cases l' with
      | nil => simpa using h
      | cons a l' =>
        have ha : c = a := (List.cons.inj h).1
        simp [ha] at hl'
    | cons a l ih =>
      cases l' with
      | nil =>
        have ha : a = c := (List.cons.inj h).1
        simp [ha] at hl
      | cons a' l' =>
        obtain ⟨rfl, htail⟩ := List.cons.inj h
        rw [List.mem_cons, not_or] at hl hl'
        obtain ⟨rfl, rfl⟩ := ih hl.2 hl'.2 htail
        exact ⟨rfl, rfl⟩
  · rintro ⟨rfl, rfl⟩
    rfl

def terminate (c : α) (ls : List (List α)) : List α := ls.flatMap (· ++ [c])

@[simp] theorem terminate_nil (c : α) : terminate c [] = [] := rfl

@[simp] theorem terminate_cons (c : α) (l : List α) (ls : List (List α)) :
    terminate c (l :: ls) = l ++ c :: terminate c ls := by
  simp [terminate]

@[simp] theorem terminate_append (c : α) (ls ls' : List (List α)) :
    terminate c (ls ++ ls') = terminate c ls ++ terminate c ls' :=
  List.flatMap_append

theorem terminate_flatMap {β : Type*} (c : α) (f : β → List (List α)) (bs : List β) :
    terminate c (bs.flatMap f) = bs.flatMap fun b => terminate c (f b) := by
  induction bs with
  | nil => rfl
  | cons b bs ih => rw [List.flatMap_cons, terminate_append, ih, List.flatMap_cons]

theorem terminate_inj {c : α} {ls ls' : List (List α)} (h : ∀ l ∈ ls, c ∉ l)
    (h' : ∀ l ∈ ls', c ∉ l) : terminate c ls = terminate c ls' ↔ ls = ls' := by
  induction ls generalizing ls' with
  | nil =>
    cases ls' with
    | nil => simp
    | cons l' ls' => simp
  | cons l ls ih =>
    cases ls' with
    | nil => simp
    | cons l' ls' =>
      rw [List.forall_mem_cons] at h h'
      rw [terminate_cons, terminate_cons, append_cons_inj_first h.1 h'.1, ih h.2 h'.2,
        List.cons.injEq]

theorem terminate_blocks (c : α) (bs : List (List (List α))) :
    terminate c (terminate [] bs) = bs.flatMap fun b => terminate c b ++ [c] := by
  induction bs with
  | nil => rfl
  | cons b bs ih => simp [ih]

/-- What holds of all lines of blocks. -/
theorem forall_mem_terminate {c : List α} {bs : List (List (List α))} {p : List α → Prop}
    (hc : p c) (h : ∀ b ∈ bs, ∀ l ∈ b, p l) : ∀ l ∈ terminate c bs, p l := by
  intro l hl
  obtain ⟨b, hb, hl⟩ := List.mem_flatMap.mp hl
  rcases List.mem_append.mp hl with hl | hl
  · exact h b hb l hl
  · rwa [List.mem_singleton.mp hl]

theorem terminate_blocks_inj {c : α} {bs bs' : List (List (List α))}
    (h : ∀ b ∈ bs, ∀ l ∈ b, l ≠ [] ∧ c ∉ l) (h' : ∀ b ∈ bs', ∀ l ∈ b, l ≠ [] ∧ c ∉ l) :
    terminate c (terminate [] bs) = terminate c (terminate [] bs') ↔ bs = bs' := by
  have hlines : ∀ {xs : List (List (List α))}, (∀ b ∈ xs, ∀ l ∈ b, l ≠ [] ∧ c ∉ l) →
      (∀ l ∈ terminate [] xs, c ∉ l) ∧ ∀ b ∈ xs, [] ∉ b := by
    intro xs hxs
    refine ⟨forall_mem_terminate List.not_mem_nil fun b hb l hl => (hxs b hb l hl).2, ?_⟩
    intro b hb hnil
    exact (hxs b hb [] hnil).1 rfl
  rw [terminate_inj (hlines h).1 (hlines h').1, terminate_inj (hlines h).2 (hlines h').2]

/-! ## Labelled lines -/

section Fields

variable {ρ : Type*}

/-- A line for each field that has a value: its label, and the value behind it. -/
def fieldLines (fields : List (List α × (ρ → Option (List α)))) (r : ρ) : List (List α) :=
  fields.flatMap fun f => ((f.2 r).map (f.1 ++ ·)).toList

variable {fields : List (List α × (ρ → Option (List α)))} {r r' : ρ}

theorem exists_of_mem_fieldLines {l : List α} (h : l ∈ fieldLines fields r) :
    ∃ f ∈ fields, ∃ v, f.2 r = some v ∧ l = f.1 ++ v := by
  obtain ⟨f, hf, hl⟩ := List.mem_flatMap.mp h
  obtain ⟨v, hv, rfl⟩ := Option.map_eq_some_iff.mp (Option.mem_toList.mp hl)
  exact ⟨f, hf, v, hv, rfl⟩

theorem fieldLines_cons (f : List α × (ρ → Option (List α))) :
    fieldLines (f :: fields) r = ((f.2 r).map (f.1 ++ ·)).toList ++ fieldLines fields r :=
  List.flatMap_cons

/-- The label at the front of a line says which field it is. -/
theorem fieldLines_eq_iff {width : Nat} (hwidth : ∀ f ∈ fields, f.1.length = width)
    (hlabels : (fields.map Prod.fst).Nodup) :
    fieldLines fields r = fieldLines fields r' ↔ ∀ f ∈ fields, f.2 r = f.2 r' := by
  induction fields with
  | nil => simp [fieldLines]
  | cons f fields ih =>
    obtain ⟨hf, hfields⟩ := List.forall_mem_cons.mp hwidth
    rw [List.map_cons, List.nodup_cons] at hlabels
    -- no line of the other fields starts with the label of `f`
    have hother : ∀ (s : ρ) (v : List α), f.1 ++ v ∉ fieldLines fields s := by
      intro s v hmem
      obtain ⟨g, hg, w, _, heq⟩ := exists_of_mem_fieldLines hmem
      have hlabel : f.1 = g.1 := List.append_inj_left heq (by rw [hf, hfields g hg])
      exact hlabels.1 (List.mem_map.mpr ⟨g, hg, hlabel.symm⟩)
    rw [fieldLines_cons, fieldLines_cons, List.forall_mem_cons, ← ih hfields hlabels.2]
    cases hv : f.2 r with
    | none =>
      cases hv' : f.2 r' with
      | none => simp
      | some v' =>
        have hne : fieldLines fields r ≠ (f.1 ++ v') :: fieldLines fields r' := by
          intro heq
          exact hother r v' (by simp [heq])
        simpa using hne
    | some v =>
      cases hv' : f.2 r' with
      | none =>
        have hne : (f.1 ++ v) :: fieldLines fields r ≠ fieldLines fields r' := by
          intro heq
          exact hother r' v (by simp [← heq])
        simpa using hne
      | some v' => simp

end Fields

/-! ## Lists of two kinds -/

/-- Where two lists meet is told by a property of their entries. -/
theorem append_inj_of_forall {p : α → Prop} {l l' m m' : List α} (hl : ∀ a ∈ l, p a)
    (hl' : ∀ a ∈ l', p a) (hm : ∀ a ∈ m, ¬ p a) (hm' : ∀ a ∈ m', ¬ p a) :
    l ++ m = l' ++ m' ↔ l = l' ∧ m = m' := by
  constructor
  · intro h
    induction l generalizing l' with
    | nil =>
      cases l' with
      | nil => exact ⟨rfl, h⟩
      | cons a l' =>
        rw [List.nil_append] at h
        exact absurd (hl' a (by simp)) (hm a (by simp [h]))
    | cons a l ih =>
      cases l' with
      | nil =>
        rw [List.nil_append] at h
        exact absurd (hl a (by simp)) (hm' a (by simp [← h]))
      | cons a' l' =>
        obtain ⟨rfl, htail⟩ := List.cons.inj h
        rw [List.forall_mem_cons] at hl hl'
        obtain ⟨rfl, rfl⟩ := ih hl.2 hl'.2 htail
        exact ⟨rfl, rfl⟩
  · rintro ⟨rfl, rfl⟩
    rfl

/-- Two views that tell the same entries apart tell the same lists apart. -/
theorem map_eq_map_congr {β γ : Type*} {f : α → β} {g : α → γ} {l l' : List α}
    (h : ∀ a ∈ l, ∀ a' ∈ l', f a = f a' ↔ g a = g a') :
    l.map f = l'.map f ↔ l.map g = l'.map g := by
  induction l generalizing l' with
  | nil => cases l' <;> simp
  | cons a l ih =>
    cases l' with
    | nil => simp
    | cons a' l' =>
      have hhead := h a (by simp) a' (by simp)
      have htail : l.map f = l'.map f ↔ l.map g = l'.map g :=
        ih fun b hb b' hb' => h b (by simp [hb]) b' (by simp [hb'])
      rw [List.map_cons, List.map_cons, List.map_cons, List.map_cons, List.cons.injEq,
        List.cons.injEq, hhead, htail]

end Lines
