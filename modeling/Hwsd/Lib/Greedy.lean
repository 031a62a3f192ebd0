import Mathlib.Data.List.Basic

/-!
# Hwsd.Lib.Greedy

Greedy selection: candidates arrive one by one, and a selector decides each against the list
accepted so far, which it may also rewrite.

* `run f result xs` is the selection loop.
* `both f g` asks `g` when `f` lets the candidate through; `pass p` looks at the candidate alone.
* `dedup merge` rejects a candidate that an accepted entry equals under `==`, and merges it into
  that entry.
* `run_dedup`: the loop with `dedup merge` keeps the first entry of each class, in order, with
  every later entry of the class merged into it. The induction is on the candidates, for any
  accepted list of pairwise different entries.
* `run_both_dedup_pass`: a test of whole classes after `dedup` may as well be made first.
-/

namespace Greedy

variable {α : Type*}

/-- The verdict on a candidate, and the accepted list as the filter leaves it. -/
abbrev Selector (α : Type*) := List α → α → Bool × List α

def accept (f : Selector α) (result : List α) (x : α) : List α :=
  match f result x with
  | (true, r) => r ++ [x]
  | (false, r) => r

def run (f : Selector α) (result xs : List α) : List α := xs.foldl (accept f) result

def pass (p : α → Bool) : Selector α := fun result x => (p x, result)

/-- `f`, and then `g` if `f` lets the candidate through. -/
def both (f g : Selector α) : Selector α := fun result x =>
  match f result x with
  | (true, r) => g r x
  | (false, r) => (false, r)

@[simp] theorem run_nil (f : Selector α) (result : List α) : run f result [] = result := rfl

@[simp] theorem run_cons (f : Selector α) (result : List α) (x : α) (xs : List α) :
    run f result (x :: xs) = run f (accept f result x) xs := rfl

@[simp] theorem both_pass_true (f : Selector α) : both f (pass fun _ => true) = f := by
  funext result x
  unfold both
  split
  · rename_i r h
    rw [h]
    rfl
  · rename_i r h
    rw [h]

theorem foldl_run (f : Selector α) (result : List α) (ls : List (List α)) :
    ls.foldl (run f) result = run f result ls.flatten := by
  induction ls generalizing result with
  | nil => rfl
  | cons l ls ih => rw [List.foldl_cons, ih, List.flatten_cons, run, run, run, List.foldl_append]

theorem run_append (f : Selector α) (result xs ys : List α) :
    run f result (xs ++ ys) = run f (run f result xs) ys :=
  List.foldl_append

section Dedup

variable [BEq α] (merge : α → α → α)

/-- Merge `x` into the first entry it equals. -/
def mergeFirst (x : α) : List α → Option (List α)
  | [] => none
  | a :: l => if a == x then some (merge a x :: l) else (mergeFirst x l).map (a :: ·)

def dedup : Selector α := fun result x =>
  match mergeFirst merge x result with
  | some r => (false, r)
  | none => (true, result)

/-- `a` with every entry of `xs` that it equals merged into it, in order. -/
def gather (xs : List α) (a : α) : α := (xs.filter (· == a)).foldl merge a

/-- Merging keeps the class of the first argument, and merging an entry into itself does
nothing. -/
structure IsMerge : Prop where
  merge_beq : ∀ a b, (merge a b == a) = true
  merge_self : ∀ a, merge a a = a

/-- No two entries are equal. -/
def Distinct (l : List α) : Prop := l.Pairwise fun a b => (a == b) = false

variable {merge}

/-- A map that tells apart what differs. -/
theorem Distinct.map {β : Type*} [BEq β] {l : List α} (h : Distinct l) {f : α → β}
    (hf : ∀ a ∈ l, ∀ b ∈ l, (f a == f b) = true → (a == b) = true) : Distinct (l.map f) := by
  rw [Distinct, List.pairwise_map]
  refine h.imp_of_mem fun {a b} ha hb hab => ?_
  by_contra heq
  rw [Bool.not_eq_false] at heq
  rw [hf a ha b hb heq] at hab
  cases hab

theorem mergeFirst_eq_none {x : α} {l : List α} :
    mergeFirst merge x l = none ↔ ∀ a ∈ l, (a == x) = false := by
  induction l with
  | nil => simp [mergeFirst]
  | cons a l ih =>
    rw [mergeFirst]
    by_cases h : (a == x) = true
    · simp [h]
    · simp [h, ih]

theorem forall_mergeFirst (hm : IsMerge merge) {p : α → Bool}
    (hp : ∀ a b, (a == b) = true → p a = p b) {x : α} {l r : List α}
    (h : mergeFirst merge x l = some r) (hl : ∀ a ∈ l, p a = true) : ∀ a ∈ r, p a = true := by
  induction l generalizing r with
  | nil => simp [mergeFirst] at h
  | cons a l ih =>
    rw [List.forall_mem_cons] at hl
    rw [mergeFirst] at h
    split at h
    · cases h
      rw [List.forall_mem_cons, hp _ _ (hm.merge_beq a x)]
      exact hl
    · obtain ⟨r', hr', rfl⟩ := Option.map_eq_some_iff.mp h
      rw [List.forall_mem_cons]
      exact ⟨hl.1, ih hr' hl.2⟩

/-- A candidate that fails the test equals no accepted entry, so it is dropped without a trace. -/
theorem run_both_dedup_pass (hm : IsMerge merge) {p : α → Bool}
    (hp : ∀ a b, (a == b) = true → p a = p b) (xs result : List α)
    (hres : ∀ a ∈ result, p a = true) :
    run (both (dedup merge) (pass p)) result xs = run (dedup merge) result (xs.filter p) := by
  induction xs generalizing result with
  | nil => rfl
  | cons x xs ih =>
    rw [run_cons]
    cases hmf : mergeFirst merge x result with
    | some r =>
      have hx : p x = true := by
        by_contra hx
        have hnone : mergeFirst merge x result = none := by
          rw [mergeFirst_eq_none]
          intro a ha
          by_contra hax
          rw [Bool.not_eq_false] at hax
          exact hx (hp a x hax ▸ hres a ha)
        rw [hnone] at hmf
        cases hmf
      have hb : accept (both (dedup merge) (pass p)) result x = r := by
        simp [accept, both, dedup, hmf]
      have hd : accept (dedup merge) result x = r := by
        simp [accept, dedup, hmf]
      rw [List.filter_cons, if_pos hx, run_cons, hb, hd]
      exact ih r (forall_mergeFirst hm hp hmf hres)
    | none =>
      have hb : accept (both (dedup merge) (pass p)) result x =
          if p x then result ++ [x] else result := by
        cases hx : p x <;> simp [accept, both, dedup, pass, hmf, hx]
      have hd : accept (dedup merge) result x = result ++ [x] := by
        simp [accept, dedup, hmf]
      rw [List.filter_cons, hb]
      split
      · rename_i hx
        rw [run_cons, hd]
        refine ih _ fun a ha => ?_
        rcases List.mem_append.mp ha with ha | ha
        · exact hres a ha
        · rw [List.mem_singleton.mp ha, hx]
      · exact ih result hres

/-- Candidates without an equal are all accepted. -/
theorem run_dedup_of_new {result ys : List α} (hys : Distinct ys)
    (h : ∀ a ∈ result, ∀ y ∈ ys, (a == y) = false) :
    run (dedup merge) result ys = result ++ ys := by
  induction ys generalizing result with
  | nil => simp
  | cons y ys ih =>
    obtain ⟨hy, hys⟩ := List.pairwise_cons.mp hys
    have haccept : accept (dedup merge) result y = result ++ [y] := by
      have hnone : mergeFirst merge y result = none :=
        mergeFirst_eq_none.mpr fun a ha => h a ha y (by simp)
      simp [accept, dedup, hnone]
    rw [run_cons, haccept, ih hys, List.append_assoc, List.singleton_append]
    intro a ha b hb
    rcases List.mem_append.mp ha with ha | ha
    · exact h a ha b (by simp [hb])
    · rw [List.mem_singleton.mp ha]
      exact hy b hb

theorem eraseDups_subset (l : List α) : ∀ a ∈ l.eraseDups, a ∈ l := by
  match l with
  | [] => simp
  | b :: l =>
    intro a ha
    rw [List.eraseDups_cons, List.mem_cons] at ha
    rcases ha with rfl | ha
    · simp
    · have := eraseDups_subset (l.filter fun c => !c == b) a ha
      exact List.mem_cons_of_mem _ (List.mem_of_mem_filter this)
termination_by l.length
decreasing_by exact Nat.lt_succ_of_le (List.length_filter_le _ _)

theorem length_eraseDups_le (l : List α) : l.eraseDups.length ≤ l.length := by
  match l with
  | [] => simp
  | b :: l =>
    have hrest := length_eraseDups_le (l.filter fun c => !c == b)
    have hfilter := List.length_filter_le (fun c => !c == b) l
    rw [List.eraseDups_cons, List.length_cons, List.length_cons]
    omega
termination_by l.length
decreasing_by exact Nat.lt_succ_of_le (List.length_filter_le _ _)

theorem gather_cons_of_ne {x a : α} (h : (x == a) = false) (xs : List α) :
    gather merge (x :: xs) a = gather merge xs a := by
  rw [gather, List.filter_cons, h]
  rfl

variable [EquivBEq α]

theorem beq_congr_right {a b : α} (h : (a == b) = true) (c : α) : (c == a) = (c == b) := by
  rw [Bool.eq_iff_iff]
  exact ⟨fun hc => BEq.trans hc h, fun hc => BEq.trans hc (BEq.symm h)⟩

theorem beq_congr_left {a b : α} (h : (a == b) = true) (c : α) : (a == c) = (b == c) := by
  rw [BEq.comm (a := a), BEq.comm (a := b)]
  exact beq_congr_right h c

theorem foldl_merge_beq (hm : IsMerge merge) (l : List α) (a : α) :
    (l.foldl merge a == a) = true := by
  induction l generalizing a with
  | nil => exact BEq.refl a
  | cons b l ih => exact BEq.trans (ih (merge a b)) (hm.merge_beq a b)

theorem gather_beq (hm : IsMerge merge) (xs : List α) (a : α) : (gather merge xs a == a) = true :=
  foldl_merge_beq hm _ a

theorem gather_cons_of_beq (hm : IsMerge merge) {x a : α} (h : (x == a) = true) (xs : List α) :
    gather merge (x :: xs) a = gather merge xs (merge a x) := by
  have hf : xs.filter (· == merge a x) = xs.filter (· == a) :=
    List.filter_congr fun y _ => beq_congr_right (hm.merge_beq a x) y
  rw [gather, gather, List.filter_cons, h, hf]
  rfl

theorem eraseDups_distinct (l : List α) : Distinct l.eraseDups := by
  match l with
  | [] => exact List.Pairwise.nil
  | b :: l =>
    rw [List.eraseDups_cons]
    refine List.Pairwise.cons ?_ (eraseDups_distinct (l.filter fun c => !c == b))
    intro a ha
    have := List.of_mem_filter (eraseDups_subset _ a ha)
    rw [BEq.comm]
    simpa using this
termination_by l.length
decreasing_by exact Nat.lt_succ_of_le (List.length_filter_le _ _)

/-- Every entry has a representative among the first entries. -/
theorem exists_eraseDups_beq (l : List α) : ∀ a ∈ l, ∃ b ∈ l.eraseDups, (b == a) = true := by
  match l with
  | [] => simp
  | b :: l =>
    intro a ha
    rw [List.eraseDups_cons]
    by_cases h : (b == a) = true
    · exact ⟨b, by simp, h⟩
    · have hmem : a ∈ l.filter fun c => !c == b := by
        rcases List.mem_cons.mp ha with rfl | ha
        · exact absurd (BEq.refl a) h
        · rw [List.mem_filter, BEq.comm]
          simp [ha, h]
      obtain ⟨c, hc, hca⟩ := exists_eraseDups_beq (l.filter fun c => !c == b) a hmem
      exact ⟨c, List.mem_cons_of_mem _ hc, hca⟩
termination_by l.length
decreasing_by exact Nat.lt_succ_of_le (List.length_filter_le _ _)

/-- Merging into the first match changes that entry only; no later entry matches. -/
theorem mergeFirst_some (hm : IsMerge merge) {x : α} {l r : List α}
    (hd : Distinct l) (h : mergeFirst merge x l = some r) (xs : List α) :
    Distinct r ∧ (∀ y, r.any (· == y) = l.any (· == y)) ∧ l.any (· == x) = true ∧
      r.map (gather merge xs) = l.map (gather merge (x :: xs)) := by
  induction l generalizing r with
  | nil => simp [mergeFirst] at h
  | cons a l ih =>
    obtain ⟨ha, hl⟩ := List.pairwise_cons.mp hd
    rw [mergeFirst] at h
    split at h
    · rename_i hax
      cases h
      refine ⟨?_, ?_, by simp [hax], ?_⟩
      · refine List.Pairwise.cons (fun b hb => ?_) hl
        rw [beq_congr_left (hm.merge_beq a x)]
        exact ha b hb
      · intro y
        rw [List.any_cons, List.any_cons, beq_congr_left (hm.merge_beq a x)]
      · rw [List.map_cons, List.map_cons, gather_cons_of_beq hm (BEq.symm hax)]
        congr 1
        refine List.map_congr_left fun b hb => ?_
        rw [gather_cons_of_ne]
        rw [beq_congr_left (BEq.symm hax)]
        exact ha b hb
    · rename_i hax
      obtain ⟨r', hr', rfl⟩ := Option.map_eq_some_iff.mp h
      obtain ⟨h1, h2, h3, h4⟩ := ih hl hr'
      refine ⟨?_, ?_, by simp [h3], ?_⟩
      · refine List.Pairwise.cons (fun b hb => ?_) h1
        by_contra hab
        rw [Bool.not_eq_false] at hab
        have hlb : l.any (· == a) = true := by
          rw [← h2 a, List.any_eq_true]
          exact ⟨b, hb, BEq.symm hab⟩
        obtain ⟨c, hc, hca⟩ := List.any_eq_true.mp hlb
        rw [BEq.comm, ha c hc] at hca
        cases hca
      · intro y
        rw [List.any_cons, List.any_cons, h2]
      · rw [List.map_cons, List.map_cons, h4, gather_cons_of_ne]
        rw [BEq.comm]
        simpa using hax

/-- What the loop with `dedup` makes of `xs` when it has accepted `result`. -/
def dedupSpec (merge : α → α → α) (result xs : List α) : List α :=
  result.map (gather merge xs) ++
    (xs.filter fun x => !result.any (· == x)).eraseDups.map (gather merge xs)

omit [EquivBEq α] in
theorem dedupSpec_nil (result : List α) : dedupSpec merge result [] = result := by
  have : result.map (gather merge []) = result := by
    conv_rhs => rw [← List.map_id result]
    exact List.map_congr_left fun _ _ => rfl
  simp [dedupSpec, this]

/-- A candidate that is merged into an accepted entry. -/
theorem dedupSpec_duplicate (hm : IsMerge merge) {x : α} {result r : List α} (hd : Distinct result)
    (h : mergeFirst merge x result = some r) (xs : List α) :
    dedupSpec merge r xs = dedupSpec merge result (x :: xs) := by
  obtain ⟨_, h2, h3, h4⟩ := mergeFirst_some hm hd h xs
  have hf : (x :: xs).filter (fun y => !result.any (· == y)) =
      xs.filter fun y => !r.any (· == y) := by
    rw [List.filter_cons, h3]
    exact List.filter_congr fun y _ => by rw [h2]
  rw [dedupSpec, dedupSpec, h4, hf]
  congr 1
  -- the entries that are still to be accepted are not in the class of `x`
  refine List.map_congr_left fun y hy => (gather_cons_of_ne ?_ xs).symm
  have hy' := List.of_mem_filter (eraseDups_subset _ y hy)
  obtain ⟨a, ha, hax⟩ := List.any_eq_true.mp h3
  by_contra hxy
  rw [Bool.not_eq_false] at hxy
  have : r.any (· == y) = true := by
    rw [h2, List.any_eq_true]
    exact ⟨a, ha, BEq.trans hax hxy⟩
  rw [this] at hy'
  cases hy'

/-- A candidate that becomes the first entry of its class. -/
theorem dedupSpec_new (hm : IsMerge merge) {x : α} {result : List α}
    (hne : ∀ a ∈ result, (a == x) = false) (xs : List α) :
    dedupSpec merge (result ++ [x]) xs = dedupSpec merge result (x :: xs) := by
  have hany : result.any (· == x) = false := by
    rw [List.any_eq_false]
    intro a ha
    simp [hne a ha]
  have hf : (x :: xs).filter (fun y => !result.any (· == y)) =
      x :: xs.filter fun y => !result.any (· == y) := by
    rw [List.filter_cons, hany]
    rfl
  have hff : (xs.filter fun y => !result.any (· == y)).filter (fun y => !y == x) =
      xs.filter fun y => !(result ++ [x]).any (· == y) := by
    rw [List.filter_filter]
    refine List.filter_congr fun y _ => ?_
    rw [List.any_append, Bool.not_or, Bool.and_comm, BEq.comm (a := y)]
    simp
  have hx : gather merge (x :: xs) x = gather merge xs x := by
    rw [gather_cons_of_beq hm (BEq.refl x), hm.merge_self]
  rw [dedupSpec, dedupSpec, hf, List.eraseDups_cons, hff, List.map_append, List.map_cons,
    List.map_cons, List.append_assoc, hx]
  congr 1
  · refine List.map_congr_left fun a ha => (gather_cons_of_ne ?_ xs).symm
    rw [BEq.comm]
    exact hne a ha
  · rw [List.map_nil, List.singleton_append]
    congr 1
    refine List.map_congr_left fun y hy => (gather_cons_of_ne ?_ xs).symm
    have hy' := List.of_mem_filter (eraseDups_subset _ y hy)
    by_contra hxy
    rw [Bool.not_eq_false] at hxy
    simp [hxy] at hy'

theorem run_dedup_of_distinct (hm : IsMerge merge) (xs result : List α) (hd : Distinct result) :
    run (dedup merge) result xs = dedupSpec merge result xs := by
  induction xs generalizing result with
  | nil => rw [dedupSpec_nil, run_nil]
  | cons x xs ih =>
    rw [run_cons, accept, dedup]
    cases hmf : mergeFirst merge x result with
    | some r =>
      rw [← dedupSpec_duplicate hm hd hmf]
      exact ih r (mergeFirst_some hm hd hmf xs).1
    | none =>
      have hne := mergeFirst_eq_none.mp hmf
      rw [← dedupSpec_new hm hne]
      refine ih (result ++ [x]) (List.pairwise_append.mpr ⟨hd, by simp, fun a ha b hb => ?_⟩)
      rw [List.mem_singleton.mp hb]
      exact hne a ha

/-- The loop with `dedup`: the first entry of each class, with the whole class merged into it. -/
theorem run_dedup (hm : IsMerge merge) (xs : List α) :
    run (dedup merge) [] xs = xs.eraseDups.map (gather merge xs) := by
  rw [run_dedup_of_distinct hm xs [] List.Pairwise.nil, dedupSpec]
  simp

theorem run_dedup_distinct (hm : IsMerge merge) (xs : List α) :
    Distinct (run (dedup merge) [] xs) := by
  rw [run_dedup hm, Distinct, List.pairwise_map]
  refine (eraseDups_distinct xs).imp fun {a b} h => ?_
  rw [beq_congr_left (gather_beq hm xs a), beq_congr_right (gather_beq hm xs b)]
  exact h

/-- Every candidate has an equal in the result, and every entry of the result is an equal of a
candidate. -/
theorem exists_run_dedup_beq (hm : IsMerge merge) {xs : List α} {a : α} (h : a ∈ xs) :
    ∃ b ∈ run (dedup merge) [] xs, (b == a) = true := by
  obtain ⟨c, hc, hca⟩ := exists_eraseDups_beq xs a h
  refine ⟨gather merge xs c, ?_, BEq.trans (gather_beq hm xs c) hca⟩
  rw [run_dedup hm]
  exact List.mem_map_of_mem hc

theorem exists_beq_of_run_dedup (hm : IsMerge merge) {xs : List α} {b : α}
    (h : b ∈ run (dedup merge) [] xs) : ∃ a ∈ xs, (b == a) = true := by
  rw [run_dedup hm, List.mem_map] at h
  obtain ⟨a, ha, rfl⟩ := h
  exact ⟨a, eraseDups_subset xs a ha, gather_beq hm xs a⟩

theorem length_run_dedup_le (hm : IsMerge merge) (xs : List α) :
    (run (dedup merge) [] xs).length ≤ xs.length := by
  rw [run_dedup hm, List.length_map]
  exact length_eraseDups_le xs

/-- What equal entries have in common is kept. -/
theorem mem_map_run_dedup {β : Type*} (hm : IsMerge merge) {f : α → β}
    (hf : ∀ a b, (a == b) = true → f a = f b) {xs : List α} {y : β} :
    y ∈ (run (dedup merge) [] xs).map f ↔ y ∈ xs.map f := by
  rw [List.mem_map, List.mem_map]
  constructor
  · rintro ⟨b, hb, rfl⟩
    obtain ⟨a, ha, hab⟩ := exists_beq_of_run_dedup hm hb
    exact ⟨a, ha, (hf b a hab).symm⟩
  · rintro ⟨a, ha, rfl⟩
    obtain ⟨b, hb, hab⟩ := exists_run_dedup_beq hm ha
    exact ⟨b, hb, hf b a hab⟩

/-- And what tells apart the entries of the list is not repeated. -/
theorem nodup_map_run_dedup {β : Type*} (hm : IsMerge merge) {f : α → β}
    (hf : ∀ a b, (a == b) = true → f a = f b) {xs : List α}
    (hxs : ∀ a ∈ xs, ∀ b ∈ xs, f a = f b → (a == b) = true) :
    ((run (dedup merge) [] xs).map f).Nodup := by
  refine List.pairwise_map.mpr ((run_dedup_distinct hm xs).imp_of_mem ?_)
  intro b c hb hc hbc heq
  obtain ⟨b', hb', hbb⟩ := exists_beq_of_run_dedup hm hb
  obtain ⟨c', hc', hcc⟩ := exists_beq_of_run_dedup hm hc
  have hsame := hxs b' hb' c' hc' (by rw [← hf b b' hbb, ← hf c c' hcc, heq])
  rw [beq_congr_left hbb, beq_congr_right hcc] at hbc
  rw [hsame] at hbc
  cases hbc

omit [EquivBEq α] in
theorem filter_eraseDups {p : α → Bool} (hp : ∀ a b, (a == b) = true → p a = p b) (l : List α) :
    l.eraseDups.filter p = (l.filter p).eraseDups := by
  match l with
  | [] => rfl
  | b :: l =>
    have ih := filter_eraseDups hp (l.filter fun c => !c == b)
    rw [List.filter_filter] at ih
    rw [List.eraseDups_cons]
    cases hb : p b with
    | true =>
      rw [List.filter_cons_of_pos hb, List.filter_cons_of_pos hb, List.eraseDups_cons, ih,
        List.filter_filter]
      congr 2
      exact List.filter_congr fun c _ => Bool.and_comm _ _
    | false =>
      rw [List.filter_cons_of_neg (by simp [hb]), List.filter_cons_of_neg (by simp [hb]), ih]
      congr 1
      refine List.filter_congr fun c _ => ?_
      cases hc : p c with
      | false => rfl
      | true =>
        have hne : (c == b) = false := by
          by_contra hcb
          rw [Bool.not_eq_false] at hcb
          rw [hp c b hcb, hb] at hc
          cases hc
        simp [hne]
termination_by l.length
decreasing_by exact Nat.lt_succ_of_le (List.length_filter_le _ _)

/-- Entries that no test of whole classes tells apart may be tested before or behind the loop. -/
theorem filter_run_dedup (hm : IsMerge merge) {p : α → Bool}
    (hp : ∀ a b, (a == b) = true → p a = p b) (xs : List α) :
    (run (dedup merge) [] xs).filter p = run (dedup merge) [] (xs.filter p) := by
  have hgather : ∀ a ∈ xs.filter p, gather merge xs a = gather merge (xs.filter p) a := by
    intro a ha
    have hpa : p a = true := List.of_mem_filter ha
    rw [gather, gather, List.filter_filter]
    congr 1
    refine List.filter_congr fun c _ => ?_
    cases hca : c == a with
    | false => rfl
    | true => rw [hp c a hca, hpa]; rfl
  rw [run_dedup hm, run_dedup hm, List.filter_map]
  have hkeep : xs.eraseDups.filter (p ∘ gather merge xs) = (xs.filter p).eraseDups := by
    rw [← filter_eraseDups hp]
    exact List.filter_congr fun a _ => hp _ _ (gather_beq hm xs a)
  rw [hkeep]
  exact List.map_congr_left fun a ha => hgather a (eraseDups_subset _ a ha)

/-- What equal entries share is shared by all that are selected. -/
theorem forall_run_dedup (hm : IsMerge merge) {p : α → Prop}
    (hp : ∀ a b, (a == b) = true → p b → p a) {xs : List α} (h : ∀ a ∈ xs, p a) :
    ∀ a ∈ run (dedup merge) [] xs, p a := by
  intro a ha
  obtain ⟨b, hb, hab⟩ := exists_beq_of_run_dedup hm ha
  exact hp a b hab (h b hb)

/-- A second list without equals in it, or with the first one, stays as it is. -/
theorem run_dedup_append (hm : IsMerge merge) {xs ys : List α} (hys : Distinct ys)
    (h : ∀ x ∈ xs, ∀ y ∈ ys, (x == y) = false) :
    run (dedup merge) [] (xs ++ ys) = run (dedup merge) [] xs ++ ys := by
  rw [run_append]
  refine run_dedup_of_new hys fun a ha y hy => ?_
  obtain ⟨x, hx, hax⟩ := exists_beq_of_run_dedup hm ha
  rw [beq_congr_left hax]
  exact h x hx y hy

end Dedup

end Greedy
