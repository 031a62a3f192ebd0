import Hwsd.Duplicates

/-!
# Hwsd.Mirror

The duplicate and the mirror filter together. Two GPUs are the same display for the one filter when
they are equal, for the other when they agree on node id, session, port, device and origin; neither
relation implies the other.

* `thin_duplicate_mirror`, `thin_mirror_duplicate`: up to flags, either chain keeps a GPU exactly if
  no kept GPU is related to it in one of the two ways.
* `discoverGPUInfos_mirror`: what discovery with both filters returns.
-/

namespace Hwsd
namespace Gpu

open CxxStream Greedy DnsSd

/-- Related for one of the two filters. -/
def Same (a b : GPUInfo) : Bool := a == b || decide (Mirrors a b)

theorem same_iff {a b : GPUInfo} : Same a b = true ↔ (a == b) = true ∨ Mirrors a b := by
  rw [Same, Bool.or_eq_true, decide_eq_true_eq]

theorem any_same_clearFlags (r : List GPUInfo) (x : GPUInfo) :
    ((r.map clearFlags).any fun a => Same a (clearFlags x)) =
      (r.any (· == x) || r.any fun a => Mirrors a x) := by
  have hsame : ∀ a, Same (clearFlags a) (clearFlags x) = true ↔ (a == x) = true ∨ Mirrors a x := by
    intro a
    rw [same_iff, GPUInfo.beq_iff, GPUInfo.beq_iff]
    exact Iff.rfl
  rw [Bool.eq_iff_iff, Bool.or_eq_true, List.any_map, List.any_eq_true, List.any_eq_true,
    List.any_eq_true]
  simp only [Function.comp, hsame, decide_eq_true_eq]
  constructor
  · rintro ⟨a, ha, hax | hax⟩
    · exact .inl ⟨a, ha, hax⟩
    · exact .inr ⟨a, ha, hax⟩
  · rintro (⟨a, ha, hax⟩ | ⟨a, ha, hax⟩)
    · exact ⟨a, ha, .inl hax⟩
    · exact ⟨a, ha, .inr hax⟩

/-- What the duplicate filter does to the accepted list does not show without the flags. -/
theorem dedup_cases (r : List GPUInfo) (x : GPUInfo) :
    (dedup mergeFlags r x = (true, r) ∧ r.any (· == x) = false) ∨
      ∃ r', dedup mergeFlags r x = (false, r') ∧ r.any (· == x) = true ∧
        r'.map clearFlags = r.map clearFlags := by
  cases hm : mergeFirst mergeFlags x r with
  | none =>
    refine .inl ⟨by rw [dedup, hm], ?_⟩
    rw [List.any_eq_false]
    intro a ha
    simp [mergeFirst_eq_none.mp hm a ha]
  | some r' =>
    have hclear : ∀ a b, clearFlags (mergeFlags a b) = clearFlags a := fun _ _ => rfl
    refine .inr ⟨r', by rw [dedup, hm], ?_, map_mergeFirst hclear hm⟩
    by_contra hany
    rw [Bool.not_eq_true, List.any_eq_false] at hany
    have hnone : mergeFirst mergeFlags x r = none := by
      rw [mergeFirst_eq_none]
      intro a ha
      simpa using hany a ha
    rw [hnone] at hm
    cases hm

theorem thin_duplicate_mirror (M : Matchers) (r : List GPUInfo) (x : GPUInfo) :
    thin Same (r.map clearFlags) (clearFlags x) =
      ((both (test M .duplicate) (test M .mirror) r x).1,
        (both (test M .duplicate) (test M .mirror) r x).2.map clearFlags) := by
  rw [thin, any_same_clearFlags]
  rcases dedup_cases r x with ⟨hd, hany⟩ | ⟨r', hd, hany, hr'⟩
  · simp [both, test, hd, hany]
  · simp [both, test, hd, hany, hr']

theorem thin_mirror_duplicate (M : Matchers) (r : List GPUInfo) (x : GPUInfo) :
    thin Same (r.map clearFlags) (clearFlags x) =
      ((both (test M .mirror) (test M .duplicate) r x).1,
        (both (test M .mirror) (test M .duplicate) r x).2.map clearFlags) := by
  rw [thin, any_same_clearFlags]
  cases hmirror : r.any fun a => Mirrors a x with
  | true => simp [both, test, hmirror]
  | false =>
    rcases dedup_cases r x with ⟨hd, hany⟩ | ⟨r', hd, hany, hr'⟩
    · simp [both, test, hmirror, hd, hany]
    · simp [both, test, hmirror, hd, hany, hr']

/-- What a chain returns that keeps a GPU exactly if no kept one is related to it. -/
theorem run_of_thin {f : Selector GPUInfo}
    (hf : ∀ r x, thin Same (r.map clearFlags) (clearFlags x) =
      ((f r x).1, (f r x).2.map clearFlags)) (xs : List GPUInfo) :
    (run f [] xs).map clearFlags = run (thin Same) [] (xs.map clearFlags) ∧
      (run f [] xs).Pairwise fun a b => (a == b) = false ∧ ¬ Mirrors a b := by
  have hrun : (run f [] xs).map clearFlags = run (thin Same) [] (xs.map clearFlags) :=
    map_run hf [] xs
  refine ⟨hrun, ?_⟩
  have hpair := run_thin_pairwise Same (xs.map clearFlags)
  rw [← hrun, List.pairwise_map] at hpair
  refine hpair.imp fun {a b} hab => ?_
  have hno : ¬ ((clearFlags a == clearFlags b) = true ∨ Mirrors (clearFlags a) (clearFlags b)) := by
    rw [← same_iff, hab]
    simp
  rw [not_or, GPUInfo.beq_iff] at hno
  exact ⟨by rw [← Bool.not_eq_true, GPUInfo.beq_iff]; exact hno.1, hno.2⟩

/-- With a duplicate and a mirror filter, in either order, discovery keeps the same candidates up to
flags. No two of them are equal or mirror each other, and every other candidate is equal to, or a
mirror of, an earlier one that is kept. -/
theorem discoverGPUInfos_mirror {ι : Type} (M : Matchers) (U : Uint128Ops)
    (localNodeID : UInt128) (w : World ι GPUInfo) (stack : List (Registered ι)) (s : Impl) :
    let discovered := stack.flatMap ((gpuResource M U localNodeID).discover w s)
    let result := discoverGPUInfos M U localNodeID w stack s
      (some (Filter.duplicate ||| Filter.mirror))
    let result' := discoverGPUInfos M U localNodeID w stack s
      (some (Filter.mirror ||| Filter.duplicate))
    (∃ kept : List (GPUInfo × Nat), kept.Sublist discovered.zipIdx ∧
      result.map clearFlags = kept.map (fun p => clearFlags p.1) ∧
      result'.map clearFlags = kept.map (fun p => clearFlags p.1) ∧
      ∀ p ∈ discovered.zipIdx, p ∉ kept →
        ∃ q ∈ kept, q.2 < p.2 ∧ ((q.1 == p.1) = true ∨ Mirrors q.1 p.1)) ∧
    (result.Pairwise fun a b => (a == b) = false ∧ ¬ Mirrors a b) ∧
    result'.Pairwise fun a b => (a == b) = false ∧ ¬ Mirrors a b := by
  intro discovered result result'
  have hrun : ∀ leaf leaf', discoverGPUInfos M U localNodeID w stack s
      (some ((⟨leaf, []⟩ : Filter) ||| ⟨leaf', []⟩)) =
        run (both (test M leaf) (test M leaf')) [] discovered := by
    intro leaf leaf'
    rw [discoverGPUInfos, Resource.discoverInfos_eq, selector, Filter.call_or]
    rfl
  have hres : result = run (both (test M .duplicate) (test M .mirror)) [] discovered :=
    hrun .duplicate .mirror
  have hres' : result' = run (both (test M .mirror) (test M .duplicate)) [] discovered :=
    hrun .mirror .duplicate
  obtain ⟨hmap, hpair⟩ := run_of_thin (thin_duplicate_mirror M) discovered
  obtain ⟨hmap', hpair'⟩ := run_of_thin (thin_mirror_duplicate M) discovered
  rw [hres, hres']
  refine ⟨?_, hpair, hpair'⟩
  obtain ⟨kept, hsub, hkept, hcover⟩ := exists_run_thin Same (discovered.map clearFlags)
  rw [List.zipIdx_map] at hsub hcover
  obtain ⟨kept, hsub', rfl⟩ := List.sublist_map_iff.mp hsub
  rw [List.map_map] at hkept
  refine ⟨kept, hsub', hmap.trans hkept, hmap'.trans hkept, fun p hp hno => ?_⟩
  have hno' : Prod.map clearFlags id p ∉ kept.map (Prod.map clearFlags id) := by
    intro hmem
    obtain ⟨k, hk, heq⟩ := List.mem_map.mp hmem
    -- both are the candidate at one position
    have hki := List.mk_mem_zipIdx_iff_getElem?.mp (hsub'.subset hk)
    have hpi := List.mk_mem_zipIdx_iff_getElem?.mp hp
    have hindex : k.2 = p.2 := (Prod.mk.inj heq).2
    rw [hindex, hpi] at hki
    have hkp : k = p := Prod.ext (Option.some.inj hki).symm hindex
    exact hno (hkp ▸ hk)
  obtain ⟨q', hq', hlt, hsame⟩ := hcover _ (List.mem_map_of_mem hp) hno'
  obtain ⟨q, hq, rfl⟩ := List.mem_map.mp hq'
  refine ⟨q, hq, hlt, ?_⟩
  rw [same_iff, GPUInfo.beq_iff] at hsame
  rw [GPUInfo.beq_iff]
  exact hsame

end Gpu
end Hwsd
