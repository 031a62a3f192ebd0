import Mathlib.Data.List.Induction
import Hwsd.Lib.Greedy

/-!
# Hwsd.Lib.Sieve

Greedy selection with several selectors in a row, and with a relation.

* `seq fs`: the selectors `fs` are asked in turn until one rejects the candidate.
* `run_congr`: selectors that agree on the lists with an invariant select the same. `map_run`: a
  selector that a function of the entries simulates by another one selects what that one selects.
* `IsCheck`: a deduplication, or a test of whole classes of equal entries. `run_seq_perm`: the order
  of such selectors does not matter, although a deduplication rewrites the accepted list and hides
  the candidate from the selectors behind it.
* `thin R`: a candidate is rejected when an accepted entry is related to it. `exists_run_thin` says
  which candidates are kept, `run_thin_pairwise` that no two of them are related.
-/

namespace Greedy

variable {α β : Type*}

theorem both_assoc (f g h : Selector α) : both (both f g) h = both f (both g h) := by
  funext result x
  simp only [both]
  split
  · rename_i r heq
    split at heq
    · rename_i r' hf
      simp [heq]
    · cases heq
  · rename_i r heq
    split at heq
    · rename_i r' hf
      simp [heq]
    · cases heq
      rfl

def seq : List (Selector α) → Selector α
  | [] => pass fun _ => true
  | f :: fs => both f (seq fs)

theorem seq_append (fs gs : List (Selector α)) : seq (fs ++ gs) = both (seq fs) (seq gs) := by
  induction fs with
  | nil => rfl
  | cons f fs ih => rw [List.cons_append, seq, ih, seq, both_assoc]

/-- Two selectors that agree wherever the loop gets to. -/
theorem run_congr {f g : Selector α} {I : List α → Prop}
    (hI : ∀ r x, I r → I (accept g r x)) (hfg : ∀ r x, I r → f r x = g r x) {r : List α} (hr : I r)
    (xs : List α) : run f r xs = run g r xs := by
  induction xs generalizing r with
  | nil => rfl
  | cons x xs ih =>
    have hx : accept f r x = accept g r x := by
      simp only [accept]
      rw [hfg r x hr]
    rw [run_cons, run_cons, hx]
    exact ih (hI r x hr)

/-- A selector that is simulated by another one through what `k` shows of the entries. -/
theorem map_run {f : Selector α} {g : Selector β} {k : α → β}
    (h : ∀ r x, g (r.map k) (k x) = ((f r x).1, (f r x).2.map k)) (r xs : List α) :
    (run f r xs).map k = run g (r.map k) (xs.map k) := by
  induction xs generalizing r with
  | nil => rfl
  | cons x xs ih =>
    have hx : (accept f r x).map k = accept g (r.map k) (k x) := by
      simp only [accept]
      rw [h]
      cases hf : f r x with
      | mk verdict r' => cases verdict <;> simp
    rw [run_cons, ih, hx, List.map_cons, run_cons]

theorem run_pass (p : α → Bool) (r xs : List α) : run (pass p) r xs = r ++ xs.filter p := by
  induction xs generalizing r with
  | nil => simp
  | cons x xs ih =>
    rw [run_cons, ih]
    cases hx : p x <;> simp [accept, pass, hx]

/-! ## Checks -/

section Checks

variable [BEq α] {merge : α → α → α}

/-- What a selector says about a candidate when nothing has been accepted yet. -/
def verdict (f : Selector α) (x : α) : Bool := (f [] x).1

/-- Deduplication, or a test on which equal entries agree. -/
def IsCheck (merge : α → α → α) (f : Selector α) : Prop :=
  f = dedup merge ∨ f = pass (verdict f) ∧ ∀ a b, (a == b) = true → verdict f a = verdict f b

/-- The candidate passes the tests among `fs`. -/
def passes (fs : List (Selector α)) (x : α) : Bool := fs.all fun f => verdict f x

theorem isCheck_pass {p : α → Bool} (hp : ∀ a b, (a == b) = true → p a = p b) :
    IsCheck merge (pass p) := .inr ⟨rfl, hp⟩

theorem IsCheck.verdict_congr {f : Selector α} (hf : IsCheck merge f) {a b : α}
    (h : (a == b) = true) : verdict f a = verdict f b := by
  rcases hf with rfl | ⟨_, hf⟩
  · rfl
  · exact hf a b h

variable {fs : List (Selector α)}

theorem passes_congr (h : ∀ f ∈ fs, IsCheck merge f) {a b : α} (hab : (a == b) = true) :
    passes fs a = passes fs b := by
  rw [passes, passes, Bool.eq_iff_iff, List.all_eq_true, List.all_eq_true]
  exact forall₂_congr fun f hf => by rw [(h f hf).verdict_congr hab]

theorem dedup_of_forall {r : List α} {x : α} (h : ∀ a ∈ r, (a == x) = false) :
    dedup merge r x = (true, r) := by
  rw [dedup, mergeFirst_eq_none.mpr h]

/-- Merging shows nowhere where it does not show in the merged entry. -/
theorem map_mergeFirst {γ : Type*} {k : α → γ} (hk : ∀ a b, k (merge a b) = k a) {x : α}
    {l r : List α} (h : mergeFirst merge x l = some r) : r.map k = l.map k := by
  induction l generalizing r with
  | nil => cases h
  | cons a l ih =>
    rw [mergeFirst] at h
    split at h
    · cases h
      rw [List.map_cons, List.map_cons, hk]
    · obtain ⟨r', hr', rfl⟩ := Option.map_eq_some_iff.mp h
      rw [List.map_cons, List.map_cons, ih hr']

/-- A candidate without an equal that fails one of the tests leaves no trace. -/
theorem seq_reject (h : ∀ f ∈ fs, IsCheck merge f) {r : List α} {x : α}
    (hr : ∀ a ∈ r, (a == x) = false) (hx : passes fs x = false) : seq fs r x = (false, r) := by
  induction fs with
  | nil => simp [passes] at hx
  | cons f fs ih =>
    rw [List.forall_mem_cons] at h
    rcases h.1 with rfl | ⟨hf, _⟩
    · have hx' : passes fs x = false := by simpa [passes, verdict, dedup, mergeFirst] using hx
      rw [seq, both, dedup_of_forall hr]
      exact ih h.2 hx'
    · rw [seq, both, hf, pass]
      cases hv : verdict f x with
      | false => rfl
      | true =>
        have hx' : passes fs x = false := by simpa [passes, hv] using hx
        exact ih h.2 hx'

theorem seq_accept (h : ∀ f ∈ fs, IsCheck merge f) (hd : dedup merge ∉ fs) {r : List α} {x : α}
    (hx : passes fs x = true) : seq fs r x = (true, r) := by
  induction fs with
  | nil => rfl
  | cons f fs ih =>
    rw [List.forall_mem_cons] at h
    rw [List.mem_cons, not_or] at hd
    rw [passes, List.all_cons, Bool.and_eq_true] at hx
    rcases h.1 with hf | ⟨hf, _⟩
    · exact absurd hf.symm hd.1
    · rw [seq, both, hf, pass, hx.1]
      exact ih h.2 hd.2 hx.2

/-- Of several deduplications the first one decides. -/
theorem seq_dedup (h : ∀ f ∈ fs, IsCheck merge f) (hd : dedup merge ∈ fs) {r : List α} {x : α}
    (hx : passes fs x = true) : seq fs r x = dedup merge r x := by
  induction fs with
  | nil => simp at hd
  | cons f fs ih =>
    rw [List.forall_mem_cons] at h
    rw [passes, List.all_cons, Bool.and_eq_true] at hx
    by_cases hf : f = dedup merge
    · subst hf
      rw [seq, both]
      cases hm : mergeFirst merge x r with
      | some r' => simp [dedup, hm]
      | none =>
        have hdx : dedup merge r x = (true, r) := by rw [dedup, hm]
        simp only [hdx]
        by_cases hd' : dedup merge ∈ fs
        · rw [ih h.2 hd' hx.2, hdx]
        · exact seq_accept h.2 hd' hx.2
    · have hd' : dedup merge ∈ fs := (List.mem_cons.mp hd).resolve_left (Ne.symm hf)
      rw [seq, both, (h.1.resolve_left hf).1, pass, hx.1]
      exact ih h.2 hd' hx.2

/-- No accepted entry equals a candidate that fails a test. -/
theorem forall_beq_of_passes (h : ∀ f ∈ fs, IsCheck merge f) {r : List α} {x : α}
    (hr : ∀ a ∈ r, passes fs a = true) (hx : passes fs x = false) : ∀ a ∈ r, (a == x) = false := by
  intro a ha
  by_contra hax
  rw [Bool.not_eq_false] at hax
  rw [← passes_congr h hax, hr a ha] at hx
  cases hx

/-- With a deduplication among them, the selectors deduplicate what passes the tests. -/
theorem run_seq_of_mem (hm : IsMerge merge) (h : ∀ f ∈ fs, IsCheck merge f) (hd : dedup merge ∈ fs)
    (xs : List α) : run (seq fs) [] xs = run (dedup merge) [] (xs.filter (passes fs)) := by
  rw [← run_both_dedup_pass hm (fun a b => passes_congr h) xs [] (by simp)]
  refine run_congr (I := fun r => ∀ a ∈ r, passes fs a = true) ?_ ?_ (by simp) xs
  · intro r x hr a ha
    simp only [accept, both] at ha
    cases hmf : mergeFirst merge x r with
    | some r' =>
      rw [dedup, hmf] at ha
      exact forall_mergeFirst hm (fun a b => passes_congr h) hmf hr a ha
    | none =>
      rw [dedup, hmf] at ha
      cases hx : passes fs x with
      | false =>
        simp only [pass, hx] at ha
        exact hr a ha
      | true =>
        simp only [pass, hx, List.mem_append, List.mem_singleton] at ha
        rcases ha with ha | rfl
        · exact hr a ha
        · exact hx
  · intro r x hr
    cases hx : passes fs x with
    | false =>
      have hne := forall_beq_of_passes h hr hx
      rw [seq_reject h hne hx, both, dedup_of_forall hne]
      simp [pass, hx]
    | true =>
      rw [seq_dedup h hd hx, both]
      cases hdx : dedup merge r x with
      | mk verdict r' => cases verdict <;> simp [pass, hx]

theorem run_seq_of_not_mem (h : ∀ f ∈ fs, IsCheck merge f) (hd : dedup merge ∉ fs) (xs : List α) :
    run (seq fs) [] xs = xs.filter (passes fs) := by
  rw [← List.nil_append (xs.filter _), ← run_pass]
  refine run_congr (I := fun r => ∀ a ∈ r, passes fs a = true) ?_ ?_ (by simp) xs
  · intro r x hr a ha
    cases hx : passes fs x with
    | false =>
      simp only [accept, pass, hx] at ha
      exact hr a ha
    | true =>
      simp only [accept, pass, hx, List.mem_append, List.mem_singleton] at ha
      rcases ha with ha | rfl
      · exact hr a ha
      · exact hx
  · intro r x hr
    cases hx : passes fs x with
    | false => rw [seq_reject h (forall_beq_of_passes h hr hx) hx, pass, hx]
    | true => rw [seq_accept h hd hx, pass, hx]

/-- The order of checks does not matter. -/
theorem run_seq_perm (hm : IsMerge merge) (h : ∀ f ∈ fs, IsCheck merge f) {gs : List (Selector α)}
    (hp : fs.Perm gs) (xs : List α) : run (seq fs) [] xs = run (seq gs) [] xs := by
  have h' : ∀ f ∈ gs, IsCheck merge f := fun f hf => h f (hp.mem_iff.mpr hf)
  have hpasses : passes fs = passes gs := funext fun x => hp.all_eq
  by_cases hd : dedup merge ∈ fs
  · rw [run_seq_of_mem hm h hd, run_seq_of_mem hm h' (hp.mem_iff.mp hd), hpasses]
  · rw [run_seq_of_not_mem h hd, run_seq_of_not_mem h' (mt hp.mem_iff.mpr hd), hpasses]

end Checks

/-! ## Thinning -/

section Thin

variable (R : β → β → Bool)

/-- Reject what an accepted entry is related to. -/
def thin : Selector β := fun result x => (!result.any fun a => R a x, result)

theorem run_snoc (f : Selector α) (r xs : List α) (x : α) :
    run f r (xs ++ [x]) = accept f (run f r xs) x := by
  rw [run, List.foldl_append]
  rfl

/-- No entry of the result is related to a later one. -/
theorem run_thin_pairwise (xs : List β) :
    (run (thin R) [] xs).Pairwise fun a b => R a b = false := by
  induction xs using List.reverseRecOn with
  | nil => exact List.Pairwise.nil
  | append_singleton xs x ih =>
    rw [run_snoc, accept, thin]
    cases hany : (run (thin R) [] xs).any fun a => R a x with
    | true => exact ih
    | false =>
      rw [List.any_eq_false] at hany
      refine List.pairwise_append.mpr ⟨ih, List.pairwise_singleton _ x, fun a ha b hb => ?_⟩
      rw [List.mem_singleton.mp hb]
      simpa using hany a ha

/-- The positions that are kept; every other candidate is related to an earlier one of them. -/
theorem exists_run_thin (xs : List β) : ∃ kept : List (β × Nat), kept.Sublist xs.zipIdx ∧
    run (thin R) [] xs = kept.map Prod.fst ∧
    ∀ p ∈ xs.zipIdx, p ∉ kept → ∃ q ∈ kept, q.2 < p.2 ∧ R q.1 p.1 = true := by
  induction xs using List.reverseRecOn with
  | nil => exact ⟨[], by simp, rfl, by simp⟩
  | append_singleton xs x ih =>
    obtain ⟨kept, hsub, hrun, hcover⟩ := ih
    have hzip : (xs ++ [x]).zipIdx = xs.zipIdx ++ [(x, xs.length)] := by
      simp [List.zipIdx_append]
    rw [run_snoc, accept, thin, hrun, hzip]
    cases hany : (kept.map Prod.fst).any fun a => R a x with
    | true =>
      refine ⟨kept, hsub.trans (List.sublist_append_left _ _), rfl, fun p hp hno => ?_⟩
      rcases List.mem_append.mp hp with hp | hp
      · exact hcover p hp hno
      · obtain rfl := List.mem_singleton.mp hp
        obtain ⟨a, ha, hax⟩ := List.any_eq_true.mp hany
        obtain ⟨q, hq, rfl⟩ := List.mem_map.mp ha
        refine ⟨q, hq, ?_, hax⟩
        have hlt := List.snd_lt_add_of_mem_zipIdx (hsub.subset hq)
        simpa using hlt
    | false =>
      refine ⟨kept ++ [(x, xs.length)], hsub.append (List.Sublist.refl _), by simp, ?_⟩
      intro p hp hno
      rw [List.mem_append, not_or] at hno
      rcases List.mem_append.mp hp with hp | hp
      · obtain ⟨q, hq, hR⟩ := hcover p hp hno.1
        exact ⟨q, List.mem_append_left _ hq, hR⟩
      · exact absurd hp hno.2

end Thin

end Greedy
