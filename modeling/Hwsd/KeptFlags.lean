import Hwsd.Idempotent

/-!
# Hwsd.KeptFlags

Whether the flags of a dropped GPU are kept in its equal. A duplicate filter merges them, a mirror
filter does not, and the first filter that drops a GPU keeps it from the ones behind.

* `droppedBy`: the filter of the chain that drops a candidate.
* `flags_of_droppedBy`: the flags are kept if this is not a mirror filter.
* `droppedBy_ne_mirror`: a mirror filter behind a duplicate filter drops only GPUs that differ in
  the id from their equal. Any earlier entry that the dropped one mirrors is mirrored by an equal
  with the same id as well, which comes later.
* `flags_kept`: both for what discovery returns.
-/

namespace Hwsd
namespace Gpu

open CxxStream Greedy DnsSd

/-- The filter of a chain that drops the candidate. -/
def droppedBy (M : Matchers) (f : Filter) (current : List GPUInfo) (candidate : GPUInfo) :
    Option Leaf :=
  f.leaves.find? fun leaf => !(test M leaf current candidate).1

/-- Every bit of the flags of a discovered GPU is set in its equals in the result. -/
def FlagsKept (discovered result : List GPUInfo) : Prop :=
  ∀ c ∈ discovered, ∀ info ∈ result, (c == info) = true → c.flags &&& info.flags = c.flags

instance (discovered result : List GPUInfo) : Decidable (FlagsKept discovered result) :=
  inferInstanceAs (Decidable (∀ _ ∈ _, _))

/-- The GPU with more flags. -/
def MoreFlags (a a' : GPUInfo) : Prop := ∃ flags, a' = { a with flags := a.flags ||| flags }

instance : Std.Refl MoreFlags where
  refl a := ⟨0, by simp⟩

instance : IsTrans GPUInfo MoreFlags where
  trans := by
    rintro a _ _ ⟨flags, rfl⟩ ⟨flags', rfl⟩
    exact ⟨flags ||| flags', by simp only [UInt32.or_assoc]⟩

theorem and_or_left (a b : UInt32) : a &&& (a ||| b) = a := by
  apply UInt32.toBitVec_inj.mp
  ext i
  simpa using Or.inl

section

variable {M : Matchers} {f : Filter} {r xs pre post : List GPUInfo} {a c info : GPUInfo}

theorem MoreFlags.beq (h : MoreFlags a info) : (info == a) = true := by
  obtain ⟨flags, rfl⟩ := h
  exact beq_setFlags a _

theorem MoreFlags.and_eq (h : MoreFlags a info) {flags : UInt32}
    (ha : flags &&& a.flags = flags) : flags &&& info.flags = flags := by
  obtain ⟨flags', rfl⟩ := h
  show flags &&& (a.flags ||| flags') = flags
  rw [← ha, UInt32.and_assoc, and_or_left]

theorem grows_test (leaf : Leaf) : Grows MoreFlags (test M leaf) := by
  cases leaf with
  | duplicate => exact grows_dedup fun a b => ⟨b.flags, rfl⟩
  | gpu regex =>
    rw [test]
    split <;> exact grows_pass _
  | base | session _ | net _ _ => exact grows_pass _
  | mirror => exact fun r _ => Grown.refl r

theorem blind_tests (leaves : List Leaf) :
    ∀ test' ∈ leaves.map (test M), Blind clearFlags test' := by
  intro test' h
  obtain ⟨leaf, _, rfl⟩ := List.mem_map.mp h
  exact blind_test M leaf

theorem grows_call : Grows MoreFlags (f.call (test M)) := by
  rw [Filter.call_eq_seq]
  refine grows_seq fun test' h => ?_
  obtain ⟨leaf, _, rfl⟩ := List.mem_map.mp h
  exact grows_test leaf

theorem settled_test {leaf : Leaf} (h : leaf ∈ f.leaves) :
    Settled (test M leaf) (run (f.call (test M)) [] xs) := by
  have hrun := settled_run (blind_call (blind_test M) f) xs
  rw [Filter.call_eq_seq] at hrun ⊢
  exact hrun.of_mem (blind_tests _) (List.mem_map_of_mem h)

theorem distinct_run (h : .duplicate ∈ f.leaves) : Distinct (run (f.call (test M)) [] xs) := by
  refine (settled_test h).pairwise fun r x hx => ?_
  rw [test, fst_dedup, fst_thin] at hx
  exact hx

/-- What is accepted up to a candidate grows into the first entries of the result. -/
theorem grown_append (M : Matchers) (f : Filter) (pre : List GPUInfo) (c : GPUInfo)
    (post : List GPUInfo) : Grown MoreFlags
    (accept (f.call (test M)) (run (f.call (test M)) [] pre) c)
    (run (f.call (test M)) [] (pre ++ c :: post)) := by
  have happend : run (f.call (test M)) [] (pre ++ c :: post) =
      run (f.call (test M)) (accept (f.call (test M)) (run (f.call (test M)) [] pre) c) post := by
    rw [run, List.foldl_append]
    rfl
  rw [happend]
  exact grown_run grows_call _ post

/-- A candidate that no filter of the chain drops is accepted. -/
theorem accept_of_droppedBy_none (h : droppedBy M f r c = none) :
    accept (f.call (test M)) r c = r ++ [c] := by
  have hall : (seq (f.leaves.map (test M)) r c).1 = true := by
    rw [fst_seq (blind_tests _), List.forall_mem_map]
    intro leaf hleaf
    simpa using List.find?_eq_none.mp h leaf hleaf
  have hkeep := (blind_seq (blind_tests _)).keep r c hall
  rw [accept, Filter.call_eq_seq]
  cases hv : seq (f.leaves.map (test M)) r c with
  | mk verdict r' =>
    rw [hv] at hall hkeep
    obtain rfl : verdict = true := hall
    obtain rfl : r' = r := hkeep
    rfl

/-- The filter that drops a candidate is called with the list as it was, and what it makes of the
list remains. -/
theorem accept_of_droppedBy {leaf : Leaf} (h : droppedBy M f r c = some leaf) :
    (test M leaf r c).1 = false ∧ accept (f.call (test M)) r c = (test M leaf r c).2 ∧
      ∃ leaves leaves', f.leaves = leaves ++ leaf :: leaves' ∧
        ∀ leaf' ∈ leaves, (test M leaf' r c).1 = true := by
  obtain ⟨hleaf, leaves, leaves', heq, hpass⟩ := List.find?_eq_some_iff_append.mp h
  rw [Bool.not_eq_true'] at hleaf
  replace hpass : ∀ leaf' ∈ leaves, (test M leaf' r c).1 = true := by simpa using hpass
  refine ⟨hleaf, ?_, leaves, leaves', heq, hpass⟩
  rw [accept, Filter.call_eq_seq, heq, List.map_append, List.map_cons,
    seq_first_failing (blind_tests leaves) (List.forall_mem_map.mpr hpass) hleaf]

/-- An accepted equal with the flags of a candidate grows into the one that is returned. -/
theorem flags_of_accepted (hdup : .duplicate ∈ f.leaves)
    (hinfo : info ∈ run (f.call (test M)) [] (pre ++ c :: post)) (hc : (c == info) = true)
    (ha : a ∈ accept (f.call (test M)) (run (f.call (test M)) [] pre) c)
    (hac : (a == c) = true) (hflags : c.flags &&& a.flags = c.flags) :
    c.flags &&& info.flags = c.flags := by
  have hdistinct : Distinct (run (f.call (test M)) [] (pre ++ c :: post)) := distinct_run hdup
  obtain ⟨a', ha', hmore⟩ := (grown_append M f pre c post).exists_mem ha
  have heq : a' = info := hdistinct.eq_of_beq ha' hinfo (BEq.trans hmore.beq (BEq.trans hac hc))
  exact heq ▸ hmore.and_eq hflags

/-- The flags of a GPU are kept in its equal if no mirror filter drops it. -/
theorem flags_of_droppedBy (hdup : .duplicate ∈ f.leaves)
    (hmirror : droppedBy M f (run (f.call (test M)) [] pre) c ≠ some .mirror)
    (hinfo : info ∈ run (f.call (test M)) [] (pre ++ c :: post)) (hc : (c == info) = true) :
    c.flags &&& info.flags = c.flags := by
  cases hdrop : droppedBy M f (run (f.call (test M)) [] pre) c with
  | none =>
    refine flags_of_accepted hdup hinfo hc ?_ (BEq.refl c) UInt32.and_self
    rw [accept_of_droppedBy_none hdrop]
    exact List.mem_append_right _ (List.mem_singleton_self c)
  | some leaf =>
    obtain ⟨hleaf, haccept, leaves, leaves', heq, _⟩ := accept_of_droppedBy hdrop
    have hmem : leaf ∈ f.leaves := by simp [heq]
    have hne : leaf ≠ .mirror := by
      rintro rfl
      exact hmirror hdrop
    rcases isCheck_test M hne with hdedup | ⟨hpass, hcongr⟩
    · rw [hdedup] at hleaf haccept
      obtain ⟨a, hac, hmerged⟩ := exists_of_dedup hleaf
      refine flags_of_accepted hdup hinfo hc (haccept ▸ hmerged)
        (BEq.trans (beq_setFlags a _) hac) ?_
      show c.flags &&& (a.flags ||| c.flags) = c.flags
      rw [UInt32.or_comm, and_or_left]
    · -- the returned equal has passed the test that `c` failed
      have hsettled : Settled (test M leaf) (run (f.call (test M)) [] (pre ++ c :: post)) :=
        settled_test hmem
      rw [hpass] at hsettled hleaf
      have htrue := hsettled.forall_pass info hinfo
      rw [← hcongr c info hc] at htrue
      rw [Greedy.pass, htrue] at hleaf
      cases hleaf

theorem pairwise_not_mirrors (h : .mirror ∈ f.leaves) :
    (run (f.call (test M)) [] xs).Pairwise fun a b => ¬ Mirrors a b := by
  refine (settled_test h).pairwise fun r x hx => ?_
  simpa [test] using hx

/-- An equal of a GPU that none of the accepted ones equals was not among them. -/
theorem length_le_of_beq {result : List GPUInfo} {j : Nat} (hgrown : Grown MoreFlags r result)
    (hno : ∀ a ∈ r, (a == c) = false) (hj : result[j]? = some info) (hc : (c == info) = true) :
    r.length ≤ j := by
  by_contra hlt
  obtain ⟨a, ha⟩ : ∃ a, r[j]? = some a := ⟨_, List.getElem?_eq_getElem (by omega)⟩
  obtain ⟨a', ha', hmore⟩ := hgrown j a ha
  have hinfo : info = a' := Option.some.inj (hj.symm.trans ha')
  have hac : (a == c) = true := BEq.symm (BEq.trans hc (hinfo ▸ hmore.beq))
  rw [hno a (List.mem_of_getElem? ha)] at hac
  cases hac

/-- Behind a duplicate filter, a mirror filter drops no GPU that has an equal with its id. -/
theorem droppedBy_ne_mirror
    (hfirst : ∀ leaves leaves', f.leaves = leaves ++ .mirror :: leaves' → .duplicate ∈ leaves)
    (hinfo : info ∈ run (f.call (test M)) [] (pre ++ c :: post)) (hc : (c == info) = true)
    (hid : c.id = info.id) : droppedBy M f (run (f.call (test M)) [] pre) c ≠ some .mirror := by
  intro hdrop
  obtain ⟨hleaf, haccept, leaves, leaves', heq, hpass⟩ := accept_of_droppedBy hdrop
  have hmem : Leaf.mirror ∈ f.leaves := by simp [heq]
  have hgrown := grown_append M f pre c post
  rw [haccept] at hgrown
  have hno := hpass .duplicate (hfirst _ _ heq)
  rw [test, fst_dedup, fst_thin] at hno
  obtain ⟨m, hm, hmirrors⟩ : ∃ m ∈ run (f.call (test M)) [] pre, Mirrors m c := by
    simpa [test] using hleaf
  -- what `c` mirrors stays in front of the equal of `c`
  obtain ⟨i, hi⟩ := List.mem_iff_getElem?.mp hm
  obtain ⟨j, hj⟩ := List.mem_iff_getElem?.mp hinfo
  obtain ⟨m', hm', flags, rfl⟩ := hgrown i m hi
  have hij : i < j := by
    have hlt := (List.getElem?_eq_some_iff.mp hi).1
    have hle := length_le_of_beq hgrown hno hj hc
    exact Nat.lt_of_lt_of_le hlt hle
  obtain ⟨hilt, higet⟩ := List.getElem?_eq_some_iff.mp hm'
  obtain ⟨hjlt, hjget⟩ := List.getElem?_eq_some_iff.mp hj
  refine List.pairwise_iff_getElem.mp (pairwise_not_mirrors hmem) i j hilt hjlt hij ?_
  rw [higet, hjget]
  obtain ⟨hmid, hsession, hport, hdevice, hx, hy⟩ := hmirrors
  obtain ⟨_, hsession', _, hport', hdevice', hpvp⟩ := GPUInfo.beq_iff.mp hc
  exact ⟨hmid.trans hid, hsession.trans hsession', hport.trans hport', hdevice.trans hdevice',
    hx.trans (by rw [hpvp]), hy.trans (by rw [hpvp])⟩

end

/-- With a duplicate filter in the chain, the flags of a discovered GPU are kept in its equals in the
result unless it is a mirror filter that drops the GPU. If every mirror filter is called behind a
duplicate filter, they are kept in all equals with the id of the GPU. -/
theorem flags_kept {ι : Type} (M : Matchers) (U : Uint128Ops) (localNodeID : UInt128) (f : Filter)
    (hdup : .duplicate ∈ f.leaves) (w : World ι GPUInfo) (stack : List (Registered ι)) (s : Impl) :
    let discovered := stack.flatMap ((gpuResource M U localNodeID).discover w s)
    let result := discoverGPUInfos M U localNodeID w stack s (some f)
    (.mirror ∉ f.leaves → FlagsKept discovered result) ∧
    (∀ pre c post, discovered = pre ++ c :: post →
      droppedBy M f (run (f.call (test M)) [] pre) c ≠ some .mirror →
        ∀ info ∈ result, (c == info) = true → c.flags &&& info.flags = c.flags) ∧
    ((∀ leaves leaves', f.leaves = leaves ++ .mirror :: leaves' → .duplicate ∈ leaves) →
      ∀ c ∈ discovered, ∀ info ∈ result, (c == info) = true → c.id = info.id →
        c.flags &&& info.flags = c.flags) := by
  intro discovered result
  have hres : result = run (f.call (test M)) [] discovered := Resource.discoverInfos_eq _ w stack s _
  have hkept : ∀ pre c post, discovered = pre ++ c :: post →
      droppedBy M f (run (f.call (test M)) [] pre) c ≠ some .mirror →
        ∀ info ∈ result, (c == info) = true → c.flags &&& info.flags = c.flags := by
    intro pre c post hsplit hmirror info hinfo hc
    rw [hres, hsplit] at hinfo
    exact flags_of_droppedBy hdup hmirror hinfo hc
  refine ⟨?_, hkept, ?_⟩
  · intro hno c hcand info hinfo hc
    obtain ⟨pre, post, hsplit⟩ := List.append_of_mem hcand
    refine hkept pre c post hsplit (fun hdrop => hno ?_) info hinfo hc
    exact List.mem_of_find?_eq_some hdrop
  · intro hfirst c hcand info hinfo hc hid
    obtain ⟨pre, post, hsplit⟩ := List.append_of_mem hcand
    refine hkept pre c post hsplit ?_ info hinfo hc
    rw [hres, hsplit] at hinfo
    exact droppedBy_ne_mirror hfirst hinfo hc hid

/-- Two equal GPUs, with a session filter and with a mirror filter behind the duplicate filter. -/
theorem flags_kept_equal :
    let gpu := GPUInfo.ofName 7 (lit "GLX")
    let gpus := [{ gpu with flags := 1 }, { gpu with flags := 4 }]
    let result filter := discoverGPUInfos ⟨none, none⟩ hexUint128 7 (.native gpus) [.native ()]
      ⟨⟨∅, GPU⟩, false⟩ (some filter)
    FlagsKept gpus (result (Filter.duplicate ||| Filter.session [])) ∧
      ∀ c ∈ gpus, ∀ info ∈ result (Filter.duplicate ||| Filter.mirror), (c == info) = true →
        c.id = info.id → c.flags &&& info.flags = c.flags := by
  intro gpu gpus result
  have hsession := flags_kept ⟨none, none⟩ hexUint128 7 (Filter.duplicate ||| Filter.session [])
    (by decide) (.native gpus) [.native ()] ⟨⟨∅, GPU⟩, false⟩
  have hmirror := flags_kept ⟨none, none⟩ hexUint128 7 (Filter.duplicate ||| Filter.mirror)
    (by decide) (.native gpus) [.native ()] ⟨⟨∅, GPU⟩, false⟩
  refine ⟨hsession.1 (by decide), hmirror.2.2 ?_⟩
  intro leaves leaves' h
  cases leaves with
  | nil => cases h
  | cons leaf leaves =>
    obtain ⟨rfl, _⟩ := List.cons.inj h
    exact List.mem_cons_self

/-- A mirror filter in front of the duplicate filter takes the flags of an equal GPU away. Behind it,
it takes those of a GPU that mirrors another one and has an equal with another id. -/
theorem not_flagsKept_mirror :
    let result gpus filter := discoverGPUInfos ⟨none, none⟩ hexUint128 7 (.native gpus) [.native ()]
      ⟨⟨∅, GPU⟩, false⟩ (some filter)
    let glx := GPUInfo.ofName 7 (lit "GLX")
    let wgl := GPUInfo.ofName 7 (lit "WGLn")
    let gpus := [glx, { glx with flags := 4 }]
    let gpus' := [glx, { wgl with flags := 4 }, { wgl with id := 8 }]
    ¬ FlagsKept gpus (result gpus (Filter.mirror ||| Filter.duplicate)) ∧
      ¬ FlagsKept gpus' (result gpus' (Filter.duplicate ||| Filter.mirror)) := by
  decide

end Gpu
end Hwsd
