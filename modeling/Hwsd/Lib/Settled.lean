import Mathlib.Data.List.Pairwise
import Hwsd.Lib.Sieve

/-!
# Hwsd.Lib.Settled

What a selection loop leaves behind, for selectors that may rewrite the accepted list.

* `Blind k`: the verdict is one on what `k` shows of the entries, and nothing else is rewritten.
* `Settled f`: every entry of the list is let through by the ones in front of it. `settled_run`: the
  loop builds such lists; the induction is on the candidates. `run_of_settled`: the loop returns
  such lists as they are, so that `run_run` selecting twice is selecting once.
* `Grows G`: an accepted entry is only ever replaced by one that it is related to.
-/

namespace Greedy

variable {α β : Type*}

/-- The selector judges by what `k` shows and rewrites what it does not show, and that only of a
list that the candidate does not join. -/
structure Blind (k : α → β) (f : Selector α) : Prop where
  verdict_congr : ∀ r r' x x', r.map k = r'.map k → k x = k x' → (f r x).1 = (f r' x').1
  map_eq : ∀ r x, (f r x).2.map k = r.map k
  keep : ∀ r x, (f r x).1 = true → (f r x).2 = r

variable {k : α → β} {f g : Selector α}

theorem blind_pass {p : α → Bool} (hp : ∀ a b, k a = k b → p a = p b) : Blind k (pass p) where
  verdict_congr _ _ x x' _ hx := hp x x' hx
  map_eq _ _ := rfl
  keep _ _ _ := rfl

theorem both_of_fst (hf : ∀ r x, (f r x).1 = true → (f r x).2 = r) {r : List α} {x : α}
    (h : (f r x).1 = true) : both f g r x = g r x := by
  have hr := hf r x h
  cases hfx : f r x with
  | mk verdict r' =>
    rw [hfx] at h hr
    obtain rfl : verdict = true := h
    obtain rfl : r' = r := hr
    rw [both, hfx]

theorem both_of_not_fst {r : List α} {x : α} (h : (f r x).1 = false) :
    both f g r x = (false, (f r x).2) := by
  cases hfx : f r x with
  | mk verdict r' =>
    rw [hfx] at h
    obtain rfl : verdict = false := h
    rw [both, hfx]

theorem Blind.both (hf : Blind k f) (hg : Blind k g) : Blind k (both f g) where
  verdict_congr r r' x x' hr hx := by
    have hverdict := hf.verdict_congr r r' x x' hr hx
    cases hv : (f r x).1 with
    | true =>
      rw [both_of_fst hf.keep hv, both_of_fst hf.keep (hverdict ▸ hv)]
      exact hg.verdict_congr r r' x x' hr hx
    | false => rw [both_of_not_fst hv, both_of_not_fst (hverdict ▸ hv)]
  map_eq r x := by
    cases hv : (f r x).1 with
    | true =>
      rw [both_of_fst hf.keep hv]
      exact hg.map_eq r x
    | false =>
      rw [both_of_not_fst hv]
      exact hf.map_eq r x
  keep r x h := by
    cases hv : (f r x).1 with
    | true =>
      rw [both_of_fst hf.keep hv] at h ⊢
      exact hg.keep r x h
    | false =>
      rw [both_of_not_fst hv] at h
      cases h

theorem blind_seq {fs : List (Selector α)} (h : ∀ f ∈ fs, Blind k f) : Blind k (seq fs) := by
  induction fs with
  | nil => exact blind_pass fun _ _ _ => rfl
  | cons f fs ih =>
    rw [List.forall_mem_cons] at h
    exact h.1.both (ih h.2)

/-- The verdict of a sequence is that of all its selectors on the same list. -/
theorem fst_seq {fs : List (Selector α)} (h : ∀ f ∈ fs, Blind k f) (r : List α) (x : α) :
    (seq fs r x).1 = true ↔ ∀ f ∈ fs, (f r x).1 = true := by
  induction fs with
  | nil => simp [seq, pass]
  | cons f fs ih =>
    rw [List.forall_mem_cons] at h
    rw [seq, List.forall_mem_cons]
    cases hv : (f r x).1 with
    | true => rw [both_of_fst h.1.keep hv, ih h.2, and_iff_right rfl]
    | false => simp [both_of_not_fst hv]

/-- The first selector that does not let the candidate through has the say. -/
theorem seq_first_failing {fs gs : List (Selector α)} (h : ∀ g ∈ fs, Blind k g) {r : List α} {x : α}
    (hfs : ∀ g ∈ fs, (g r x).1 = true) (hf : (f r x).1 = false) :
    seq (fs ++ f :: gs) r x = (false, (f r x).2) := by
  rw [seq_append, both_of_fst (blind_seq h).keep ((fst_seq h r x).mpr hfs), seq,
    both_of_not_fst hf]

/-! ## Settled lists -/

/-- Every entry is let through by the ones in front of it. -/
inductive Settled (f : Selector α) : List α → Prop
  | nil : Settled f []
  | snoc {r : List α} {x : α} : Settled f r → (f r x).1 = true → Settled f (r ++ [x])

theorem Settled.congr (hf : Blind k f) {r r' : List α} (h : Settled f r)
    (hr : r.map k = r'.map k) : Settled f r' := by
  induction h generalizing r' with
  | nil =>
    rw [List.map_nil, eq_comm, List.map_eq_nil_iff] at hr
    rw [hr]
    exact .nil
  | snoc _ hx ih =>
    rw [List.map_append, List.map_singleton, List.append_eq_map_iff] at hr
    obtain ⟨r', t, rfl, hr', ht⟩ := hr
    obtain ⟨x', rfl, hx'⟩ := List.map_eq_singleton_iff.mp ht
    exact .snoc (ih hr'.symm) (hf.verdict_congr _ _ _ _ hr'.symm hx'.symm ▸ hx)

theorem Settled.accept (hf : Blind k f) {r : List α} (h : Settled f r) (x : α) :
    Settled f (accept f r x) := by
  have hkeep := hf.keep r x
  have hmap := hf.map_eq r x
  rw [Greedy.accept]
  cases hv : f r x with
  | mk verdict r' =>
    rw [hv] at hkeep hmap
    cases verdict with
    | true =>
      obtain rfl : r' = r := hkeep rfl
      exact h.snoc (by rw [hv])
    | false => exact h.congr hf hmap.symm

theorem settled_run (hf : Blind k f) (xs : List α) : Settled f (run f [] xs) := by
  induction xs using List.reverseRecOn with
  | nil => exact .nil
  | append_singleton xs x ih =>
    rw [run_snoc]
    exact ih.accept hf x

theorem run_of_settled (hkeep : ∀ r x, (f r x).1 = true → (f r x).2 = r) {xs : List α}
    (h : Settled f xs) : run f [] xs = xs := by
  induction h with
  | nil => rfl
  | @snoc r x _ hx ih =>
    have hr := hkeep r x hx
    rw [run_snoc, ih, Greedy.accept]
    cases hv : f r x with
    | mk verdict r' =>
      rw [hv] at hx hr
      obtain rfl : verdict = true := hx
      obtain rfl : r' = r := hr
      rfl

/-- Selecting from what has been selected changes nothing. -/
theorem run_run (hf : Blind k f) (xs : List α) : run f [] (run f [] xs) = run f [] xs :=
  run_of_settled hf.keep (settled_run hf xs)

theorem Settled.mono {r : List α} (h : Settled f r)
    (hfg : ∀ r x, (f r x).1 = true → (g r x).1 = true) : Settled g r := by
  induction h with
  | nil => exact .nil
  | snoc _ hx ih => exact .snoc ih (hfg _ _ hx)

theorem Settled.of_mem {fs : List (Selector α)} (h : ∀ f ∈ fs, Blind k f) {r : List α}
    (hr : Settled (seq fs) r) (hf : f ∈ fs) : Settled f r :=
  hr.mono fun r x hx => (fst_seq h r x).mp hx f hf

theorem Settled.forall_pass {p : α → Bool} {r : List α} (h : Settled (pass p) r) :
    ∀ a ∈ r, p a = true := by
  induction h with
  | nil => simp
  | snoc _ hx ih =>
    intro a ha
    rcases List.mem_append.mp ha with ha | ha
    · exact ih a ha
    · rw [List.mem_singleton.mp ha]
      exact hx

/-- A selector that lets a candidate through only if no accepted entry is related to it. -/
theorem Settled.pairwise {R : α → α → Prop} {r : List α} (h : Settled f r)
    (hR : ∀ r x, (f r x).1 = true → ∀ a ∈ r, R a x) : r.Pairwise R := by
  induction h with
  | nil => exact .nil
  | @snoc r x _ hx ih =>
    refine List.pairwise_append.mpr ⟨ih, List.pairwise_singleton R x, fun a ha b hb => ?_⟩
    rw [List.mem_singleton.mp hb]
    exact hR r x hx a ha

/-! ## Growing entries -/

/-- At the place of every entry there is one that it is related to. -/
def Grown (G : α → α → Prop) (r r' : List α) : Prop :=
  ∀ (i : Nat) (a : α), r[i]? = some a → ∃ a', r'[i]? = some a' ∧ G a a'

/-- The selector lets the entries grow. -/
def Grows (G : α → α → Prop) (f : Selector α) : Prop := ∀ r x, Grown G r (f r x).2

section Grown

variable {G : α → α → Prop}

theorem Grown.refl [Std.Refl G] (r : List α) : Grown G r r := fun _ a ha => ⟨a, ha, Std.Refl.refl a⟩

theorem Grown.trans [IsTrans α G] {r r' r'' : List α} (h : Grown G r r') (h' : Grown G r' r'') :
    Grown G r r'' := by
  intro i a ha
  obtain ⟨a', ha', hG⟩ := h i a ha
  obtain ⟨a'', ha'', hG'⟩ := h' i a' ha'
  exact ⟨a'', ha'', IsTrans.trans _ _ _ hG hG'⟩

theorem Grown.append {r r' : List α} (h : Grown G r r') (t : List α) : Grown G r (r' ++ t) := by
  intro i a ha
  obtain ⟨a', ha', hG⟩ := h i a ha
  have hi : i < r'.length := (List.getElem?_eq_some_iff.mp ha').1
  exact ⟨a', by rw [List.getElem?_append_left hi, ha'], hG⟩

theorem Grown.exists_mem {r r' : List α} (h : Grown G r r') {a : α} (ha : a ∈ r) :
    ∃ a' ∈ r', G a a' := by
  obtain ⟨i, hi⟩ := List.mem_iff_getElem?.mp ha
  obtain ⟨a', ha', hG⟩ := h i a hi
  exact ⟨a', List.mem_of_getElem? ha', hG⟩

theorem grows_pass [Std.Refl G] (p : α → Bool) : Grows G (pass p) := fun r _ => Grown.refl r

theorem Grows.both [IsTrans α G] (hf : Grows G f) (hg : Grows G g) : Grows G (both f g) := by
  intro r x
  have hfr := hf r x
  rw [Greedy.both]
  cases hv : f r x with
  | mk verdict r' =>
    rw [hv] at hfr
    cases verdict with
    | true => exact hfr.trans (hg r' x)
    | false => exact hfr

theorem grows_seq [Std.Refl G] [IsTrans α G] {fs : List (Selector α)} (h : ∀ f ∈ fs, Grows G f) :
    Grows G (seq fs) := by
  induction fs with
  | nil => exact grows_pass _
  | cons f fs ih =>
    rw [List.forall_mem_cons] at h
    exact h.1.both (ih h.2)

theorem Grows.accept (hf : Grows G f) (r : List α) (x : α) : Grown G r (accept f r x) := by
  have hfr := hf r x
  rw [Greedy.accept]
  cases hv : f r x with
  | mk verdict r' =>
    rw [hv] at hfr
    cases verdict with
    | true => exact hfr.append [x]
    | false => exact hfr

theorem grown_run [Std.Refl G] [IsTrans α G] (hf : Grows G f) (r xs : List α) :
    Grown G r (run f r xs) := by
  induction xs generalizing r with
  | nil => exact Grown.refl r
  | cons x xs ih => exact (hf.accept r x).trans (ih _)

end Grown

/-! ## Relations -/

theorem any_congr_of_map {p p' : α → Bool} (hp : ∀ a a', k a = k a' → p a = p' a') {r r' : List α}
    (hr : r.map k = r'.map k) : r.any p = r'.any p' := by
  induction r generalizing r' with
  | nil =>
    rw [List.map_nil, eq_comm, List.map_eq_nil_iff] at hr
    rw [hr]
    rfl
  | cons a r ih =>
    rw [List.map_cons, eq_comm, List.map_eq_cons_iff] at hr
    obtain ⟨a', r', rfl, ha, hr⟩ := hr
    rw [List.any_cons, List.any_cons, hp a a' ha.symm, ih hr.symm]

theorem fst_thin {R : α → α → Bool} {r : List α} {x : α} :
    (thin R r x).1 = true ↔ ∀ a ∈ r, R a x = false := by
  simp [thin]

theorem blind_thin {R : α → α → Bool}
    (hR : ∀ a a' b b', k a = k a' → k b = k b' → R a b = R a' b') : Blind k (thin R) where
  verdict_congr r r' x x' hr hx := by
    rw [thin, thin, any_congr_of_map (fun a a' ha => hR a a' x x' ha hx) hr]
  map_eq _ _ := rfl
  keep _ _ _ := rfl

variable [BEq α] {merge : α → α → α}

theorem fst_dedup (r : List α) (x : α) :
    (dedup merge r x).1 = (thin (fun a b => a == b) r x).1 := by
  have hnone : mergeFirst merge x r = none ↔ ∀ a ∈ r, (a == x) = false := mergeFirst_eq_none
  rw [Bool.eq_iff_iff, fst_thin, ← hnone, dedup]
  cases mergeFirst merge x r <;> simp

theorem keep_dedup (r : List α) (x : α) (h : (dedup merge r x).1 = true) :
    (dedup merge r x).2 = r := by
  rw [dedup] at h ⊢
  cases hm : mergeFirst merge x r with
  | none => rfl
  | some r' =>
    rw [hm] at h
    cases h

theorem blind_dedup (hmerge : ∀ a b, k (merge a b) = k a)
    (hbeq : ∀ a a' b b', k a = k a' → k b = k b' → (a == b) = (a' == b')) :
    Blind k (dedup merge) where
  verdict_congr r r' x x' hr hx := by
    rw [fst_dedup, fst_dedup]
    exact (blind_thin hbeq).verdict_congr r r' x x' hr hx
  map_eq r x := by
    rw [dedup]
    cases hm : mergeFirst merge x r with
    | none => rfl
    | some r' => exact map_mergeFirst hmerge hm
  keep := keep_dedup

theorem settled_dedup {l : List α} (h : Distinct l) : Settled (dedup merge) l := by
  induction l using List.reverseRecOn with
  | nil => exact .nil
  | append_singleton l x ih =>
    obtain ⟨hl, _, hx⟩ := List.pairwise_append.mp h
    refine (ih hl).snoc ?_
    rw [fst_dedup, fst_thin]
    exact fun a ha => hx a ha x (List.mem_singleton_self x)

/-- Different candidates all pass, unchanged. -/
theorem run_dedup_eq_self {xs : List α} (h : Distinct xs) : run (dedup merge) [] xs = xs :=
  run_of_settled keep_dedup (settled_dedup h)

theorem Distinct.eq_of_beq [EquivBEq α] {l : List α} (hl : Distinct l) {a b : α} (ha : a ∈ l)
    (hb : b ∈ l) (h : (a == b) = true) : a = b := by
  by_contra hne
  have hsymm : Std.Symm fun a b : α => (a == b) = false := ⟨fun a b hab => by rw [BEq.comm, hab]⟩
  rw [hl.forall ha hb hne] at h
  cases h

theorem exists_of_mergeFirst {x : α} {l r : List α} (h : mergeFirst merge x l = some r) :
    ∃ a, (a == x) = true ∧ merge a x ∈ r := by
  induction l generalizing r with
  | nil => cases h
  | cons a l ih =>
    rw [mergeFirst] at h
    split at h
    · rename_i hax
      cases h
      exact ⟨a, hax, List.mem_cons_self⟩
    · obtain ⟨r', hr', rfl⟩ := Option.map_eq_some_iff.mp h
      obtain ⟨b, hb, hmem⟩ := ih hr'
      exact ⟨b, hb, List.mem_cons_of_mem a hmem⟩

/-- A candidate that is dropped as a duplicate has been merged into an accepted entry. -/
theorem exists_of_dedup {r : List α} {x : α} (h : (dedup merge r x).1 = false) :
    ∃ a, (a == x) = true ∧ merge a x ∈ (dedup merge r x).2 := by
  rw [dedup] at h ⊢
  cases hm : mergeFirst merge x r with
  | none =>
    rw [hm] at h
    cases h
  | some r' => exact exists_of_mergeFirst hm

theorem grown_mergeFirst {G : α → α → Prop} [Std.Refl G] (hG : ∀ a b, G a (merge a b)) {x : α} {l r : List α}
    (h : mergeFirst merge x l = some r) : Grown G l r := by
  induction l generalizing r with
  | nil => cases h
  | cons a l ih =>
    rw [mergeFirst] at h
    split at h
    · cases h
      intro i b hb
      cases i with
      | zero =>
        obtain rfl : a = b := Option.some.inj hb
        exact ⟨merge a x, rfl, hG a x⟩
      | succ i => exact ⟨b, hb, Std.Refl.refl b⟩
    · obtain ⟨r', hr', rfl⟩ := Option.map_eq_some_iff.mp h
      intro i b hb
      cases i with
      | zero => exact ⟨b, hb, Std.Refl.refl b⟩
      | succ i => exact ih hr' i b hb

theorem grows_dedup {G : α → α → Prop} [Std.Refl G] (hG : ∀ a b, G a (merge a b)) :
    Grows G (dedup merge) := by
  intro r x
  rw [dedup]
  cases hm : mergeFirst merge x r with
  | none => exact Grown.refl r
  | some r' => exact grown_mergeFirst hG hm

end Greedy
