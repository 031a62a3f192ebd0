import Mathlib.Logic.Function.Basic
import Hwsd.Lib.Forest
import Hwsd.Filter

/-!
# Hwsd.FilterObjects

Filters as the objects they are: `operator|` pushes a pointer into `next_` of its left operand and
returns that operand, so that expressions with other brackets build other graphs of objects; a call
goes over these pointers and calls in turn.

* `holds_eval`: an expression over distinct unchained objects builds a tree. It does not matter in
  which order the operands are evaluated.
* `callAt_eq_call`: on the objects of a tree, calls end and do what the tree of `Filter` does. The
  induction is on the tree, with its size as fuel.
* `chain_conjunction`: the call of an expression asks the filters from left to right.
-/

namespace Hwsd

open CxxStream Greedy Forest Forest.PtrTree

abbrev FilterPtr := Nat

/-- A filter object with its `detail::Filter`. -/
structure FilterObject where
  leaf : Leaf
  next_ : List FilterPtr

abbrev Objects := FilterPtr → Option FilterObject

namespace Objects

def cell (objs : Objects) (p : FilterPtr) : Option (Leaf × List FilterPtr) :=
  (objs p).map fun o => (o.leaf, o.next_)

/-- `Filter::operator|` and `operator|=`: push the pointer and return `this`. -/
def chain (objs : Objects) (this rhs : FilterPtr) : Option (FilterPtr × Objects) :=
  (objs this).map fun o =>
    (this, Function.update objs this (some { o with next_ := o.next_ ++ [rhs] }))

/-- `Filter::operator()`: the loop over `next_`, where `call` is the virtual call. -/
def callNext {α : Type} (call : FilterPtr → List α → α → Option (Bool × List α)) :
    List FilterPtr → List α → α → Option (Bool × List α)
  | [], current, _ => some (true, current)
  | filter :: next, current, candidate =>
    match call filter current candidate with
    | none => none
    | some (false, current) => some (false, current)
    | some (true, current) => callNext call next current candidate

/-- The virtual `operator()` of the object at `p`: its own test, then the base class. There is no
result when the calls are nested deeper than `fuel`. -/
def callAt {α : Type} (objs : Objects) (test : Leaf → Selector α) :
    Nat → FilterPtr → List α → α → Option (Bool × List α)
  | 0, _, _, _ => none
  | fuel + 1, p, current, candidate =>
    match objs p with
    | none => none
    | some o =>
      match test o.leaf current candidate with
      | (false, current) => some (false, current)
      | (true, current) => callNext (callAt objs test fuel) o.next_ current candidate

end Objects

/-- An expression of `operator|` or `operator|=`, with the order in which the operands are
evaluated. -/
inductive FilterExpr where
  | ptr (p : FilterPtr)
  | or (leftFirst : Bool) (a b : FilterExpr)

namespace FilterExpr

/-- The leaves from left to right. -/
def ptrs : FilterExpr → List FilterPtr
  | ptr p => [p]
  | or _ a b => a.ptrs ++ b.ptrs

/-- The filter that the expression leads to, and the objects afterwards. -/
def eval : FilterExpr → Objects → Option (FilterPtr × Objects)
  | ptr p, objs => some (p, objs)
  | or true a b, objs => do
    let (p, objs) ← a.eval objs
    let (q, objs) ← b.eval objs
    objs.chain p q
  | or false a b, objs => do
    let (q, objs) ← b.eval objs
    let (p, objs) ← a.eval objs
    objs.chain p q

/-- The expression over filters as values. -/
def toFilter (leafOf : FilterPtr → Leaf) : FilterExpr → Filter
  | ptr p => ⟨leafOf p, []⟩
  | or _ a b => a.toFilter leafOf ||| b.toFilter leafOf

theorem leaves_toFilter (leafOf : FilterPtr → Leaf) (e : FilterExpr) :
    (e.toFilter leafOf).leaves = e.ptrs.map leafOf := by
  induction e with
  | ptr p => rfl
  | or leftFirst a b iha ihb => rw [toFilter, Filter.leaves_or, iha, ihb, ptrs, List.map_append]

end FilterExpr

/-! ## Trees of objects -/

namespace Filter

mutual

/-- The filter without the addresses. -/
def ofTree : PtrTree FilterPtr Leaf → Filter
  | .node _ leaf ts => ⟨leaf, ofTrees ts⟩

def ofTrees : List (PtrTree FilterPtr Leaf) → List Filter
  | [] => []
  | t :: ts => ofTree t :: ofTrees ts

end

theorem ofTrees_append (ts ts' : List (PtrTree FilterPtr Leaf)) :
    ofTrees (ts ++ ts') = ofTrees ts ++ ofTrees ts' := by
  induction ts with
  | nil => rfl
  | cons t ts ih => rw [List.cons_append, ofTrees, ofTrees, ih, List.cons_append]

theorem ofTree_push (t t' : PtrTree FilterPtr Leaf) : ofTree (t.push t') = ofTree t ||| ofTree t' := by
  cases t with
  | node p leaf ts =>
    rw [PtrTree.push, ofTree, ofTrees_append, ofTree]
    rfl

end Filter

mutual

theorem callAt_eq_call {α : Type} (test : Leaf → Selector α) {objs : Objects}
    {t : PtrTree FilterPtr Leaf} (h : Holds objs.cell t) {fuel : Nat} (hf : t.ptrs.length ≤ fuel)
    (current : List α) (candidate : α) :
    objs.callAt test fuel t.root current candidate =
      some ((Filter.ofTree t).call test current candidate) := by
  match t, fuel with
  | .node p leaf ts, 0 => simp [ptrs] at hf
  | .node p leaf ts, fuel + 1 =>
    rw [ptrs, List.length_cons] at hf
    rw [Holds, Objects.cell] at h
    obtain ⟨o, ho, heq⟩ := Option.map_eq_some_iff.mp h.1
    obtain ⟨rfl, hnext⟩ := Prod.mk.inj heq
    rw [root, Objects.callAt, ho, Filter.ofTree, Filter.call, both]
    simp only []
    cases hv : test o.leaf current candidate with
    | mk verdict current =>
      cases verdict with
      | false => rfl
      | true =>
        rw [hnext]
        exact callNext_eq_callNext test h.2 (by omega) current candidate

theorem callNext_eq_callNext {α : Type} (test : Leaf → Selector α) {objs : Objects}
    {ts : List (PtrTree FilterPtr Leaf)} (h : HoldsAll objs.cell ts) {fuel : Nat}
    (hf : (ptrsAll ts).length ≤ fuel) (current : List α) (candidate : α) :
    Objects.callNext (objs.callAt test fuel) (ts.map root) current candidate =
      some (Filter.callNext test (Filter.ofTrees ts) current candidate) := by
  match ts with
  | [] => rfl
  | t :: ts =>
    rw [ptrsAll, List.length_append] at hf
    rw [HoldsAll] at h
    rw [List.map_cons, Objects.callNext, callAt_eq_call test h.1 (by omega), Filter.ofTrees,
      Filter.callNext, both]
    cases hv : (Filter.ofTree t).call test current candidate with
    | mk verdict current =>
      cases verdict with
      | false => rfl
      | true => exact callNext_eq_callNext test h.2 (by omega) current candidate

end

/-! ## Expressions -/

theorem cell_eq {objs : Objects} {p : FilterPtr} {leaf : Leaf} {next : List FilterPtr}
    (h : objs.cell p = some (leaf, next)) : objs p = some ⟨leaf, next⟩ := by
  rw [Objects.cell] at h
  obtain ⟨o, ho, heq⟩ := Option.map_eq_some_iff.mp h
  obtain ⟨rfl, rfl⟩ := Prod.mk.inj heq
  exact ho

/-- Chaining the tree `t'` to the tree `t` writes to the root of `t` only. -/
theorem holds_chain {objs : Objects} {t t' : PtrTree FilterPtr Leaf} (h : Holds objs.cell t)
    (h' : Holds objs.cell t') (hd : (t.ptrs ++ t'.ptrs).Nodup) : ∃ objs' : Objects,
      objs.chain t.root t'.root = some (t.root, objs') ∧ Holds objs'.cell (t.push t') ∧
        ∀ a, a ≠ t.root → objs' a = objs a := by
  obtain ⟨leaf, next, hroot⟩ := h.exists_root
  have ho := cell_eq hroot
  refine ⟨_, by rw [Objects.chain, ho]; rfl, ?_, fun a ha => Function.update_of_ne ha _ _⟩
  refine h.push h' hd hroot ?_ fun a ha => ?_
  · simp [Objects.cell]
  · rw [Objects.cell, Objects.cell, Function.update_of_ne ha]

/-- The objects at `ptrs` are of the classes that `leafOf` tells, and nothing is chained to them. -/
def Unchained (objs : Objects) (leafOf : FilterPtr → Leaf) (ptrs : List FilterPtr) : Prop :=
  ∀ p ∈ ptrs, objs p = some ⟨leafOf p, []⟩

/-- What an expression does: it leads to the root of a tree of its leaves, and writes to no other
object. -/
structure Evaluates (leafOf : FilterPtr → Leaf) (e : FilterExpr) (objs : Objects)
    (t : PtrTree FilterPtr Leaf) (objs' : Objects) : Prop where
  eval_eq : e.eval objs = some (t.root, objs')
  holds : Holds objs'.cell t
  ptrs_eq : t.ptrs = e.ptrs
  filter_eq : Filter.ofTree t = e.toFilter leafOf
  frame : ∀ a, a ∉ e.ptrs → objs' a = objs a

/-- Two expressions over different objects, evaluated one after the other, leave each other's trees
alone. -/
theorem Evaluates.frame_holds {leafOf : FilterPtr → Leaf} {e e' : FilterExpr}
    {objs objs' objs'' : Objects} {t t' : PtrTree FilterPtr Leaf}
    (h : Evaluates leafOf e objs t objs') (h' : Evaluates leafOf e' objs' t' objs'')
    (hd : e.ptrs.Disjoint e'.ptrs) : Holds objs''.cell t := by
  refine h.holds.frame fun a ha => ?_
  rw [h.ptrs_eq] at ha
  rw [Objects.cell, Objects.cell, h'.frame a (hd ha)]

theorem Evaluates.unchained {leafOf : FilterPtr → Leaf} {e e' : FilterExpr} {objs objs' : Objects}
    {t : PtrTree FilterPtr Leaf} (h : Evaluates leafOf e objs t objs')
    (hd : e.ptrs.Disjoint e'.ptrs) (h' : Unchained objs leafOf e'.ptrs) :
    Unchained objs' leafOf e'.ptrs := by
  intro p hp
  rw [h.frame p fun hp' => hd hp' hp]
  exact h' p hp

/-- Chaining the trees of both operands, `objs'` being the objects when both have been evaluated. -/
theorem Evaluates.or {leafOf : FilterPtr → Leaf} {leftFirst : Bool} {a b : FilterExpr}
    {objs objs₁ objs₂ objs₃ objs₄ objs' : Objects} {t t' : PtrTree FilterPtr Leaf}
    (ha : Evaluates leafOf a objs₁ t objs₂) (hb : Evaluates leafOf b objs₃ t' objs₄)
    (hd : (a.ptrs ++ b.ptrs).Nodup) (ht : Holds objs'.cell t) (ht' : Holds objs'.cell t')
    (heval : (FilterExpr.or leftFirst a b).eval objs = objs'.chain t.root t'.root)
    (hframe : ∀ p, p ∉ a.ptrs ++ b.ptrs → objs' p = objs p) :
    ∃ t objs', Evaluates leafOf (.or leftFirst a b) objs t objs' := by
  have hd' : (t.ptrs ++ t'.ptrs).Nodup := by rwa [ha.ptrs_eq, hb.ptrs_eq]
  obtain ⟨objs'', hchain, hholds, hwrite⟩ := holds_chain ht ht' hd'
  refine ⟨t.push t', objs'', ?_, hholds, ?_, ?_, fun p hp => ?_⟩
  · rw [heval, hchain, root_push]
  · rw [ptrs_push, ha.ptrs_eq, hb.ptrs_eq]
    rfl
  · rw [Filter.ofTree_push, ha.filter_eq, hb.filter_eq]
    rfl
  · have hroot : t.root ∈ a.ptrs ++ b.ptrs :=
      List.mem_append_left _ (ha.ptrs_eq ▸ t.root_mem_ptrs)
    rw [hwrite p (fun heq => hp (heq ▸ hroot)), hframe p hp]

theorem holds_eval {leafOf : FilterPtr → Leaf} {objs : Objects} (e : FilterExpr)
    (hd : e.ptrs.Nodup) (h : Unchained objs leafOf e.ptrs) :
    ∃ t objs', Evaluates leafOf e objs t objs' := by
  induction e generalizing objs with
  | ptr p =>
    have hp : objs p = some ⟨leafOf p, []⟩ := h p (by simp [FilterExpr.ptrs])
    refine ⟨.node p (leafOf p) [], objs, rfl, holds_single ?_, rfl, rfl, fun _ _ => rfl⟩
    rw [Objects.cell, hp]
    rfl
  | or leftFirst a b iha ihb =>
    have hnodup := hd
    rw [FilterExpr.ptrs, List.nodup_append'] at hnodup
    obtain ⟨hda, hdb, hdisj⟩ := hnodup
    have hdisj' : b.ptrs.Disjoint a.ptrs := List.disjoint_comm.mp hdisj
    have ha : Unchained objs leafOf a.ptrs := fun p hp => h p (List.mem_append_left _ hp)
    have hb : Unchained objs leafOf b.ptrs := fun p hp => h p (List.mem_append_right _ hp)
    cases leftFirst with
    | true =>
      obtain ⟨t, objs₁, ht⟩ := iha hda ha
      obtain ⟨t', objs₂, ht'⟩ := ihb hdb (ht.unchained hdisj hb)
      refine ht.or ht' hd (ht.frame_holds ht' hdisj) ht'.holds ?_ fun p hp => ?_
      · simp [FilterExpr.eval, ht.eval_eq, ht'.eval_eq]
      · rw [List.mem_append, not_or] at hp
        rw [ht'.frame p hp.2, ht.frame p hp.1]
    | false =>
      obtain ⟨t', objs₁, ht'⟩ := ihb hdb hb
      obtain ⟨t, objs₂, ht⟩ := iha hda (ht'.unchained hdisj' ha)
      refine ht.or ht' hd ht.holds (ht'.frame_holds ht hdisj') ?_ fun p hp => ?_
      · simp [FilterExpr.eval, ht.eval_eq, ht'.eval_eq]
      · rw [List.mem_append, not_or] at hp
        rw [ht.frame p hp.1, ht'.frame p hp.2]

/-- The call of what an expression leads to is that of the expression over filters as values. -/
theorem Evaluates.callAt_eq {α : Type} {leafOf : FilterPtr → Leaf} {e : FilterExpr}
    {objs objs' : Objects} {t : PtrTree FilterPtr Leaf} (h : Evaluates leafOf e objs t objs')
    (test : Leaf → Selector α) {fuel : Nat} (hf : e.ptrs.length ≤ fuel) (current : List α)
    (candidate : α) : objs'.callAt test fuel t.root current candidate =
      some ((e.toFilter leafOf).call test current candidate) := by
  rw [← h.ptrs_eq] at hf
  rw [callAt_eq_call test h.holds hf, h.filter_eq]

/-- Calls of the filter at `p` end, and ask the tests of `leaves` in turn until one fails. -/
def Asks {α : Type} (objs : Objects) (test : Leaf → Selector α) (p : FilterPtr)
    (leaves : List Leaf) : Prop :=
  ∀ fuel, leaves.length ≤ fuel → ∀ current candidate,
    objs.callAt test fuel p current candidate = some (seq (leaves.map test) current candidate)

theorem Evaluates.asks {α : Type} {leafOf : FilterPtr → Leaf} {e : FilterExpr}
    {objs objs' : Objects} {t : PtrTree FilterPtr Leaf} (h : Evaluates leafOf e objs t objs')
    (test : Leaf → Selector α) : Asks objs' test t.root (e.ptrs.map leafOf) := by
  intro fuel hf current candidate
  rw [List.length_map] at hf
  rw [h.callAt_eq test hf, Filter.call_eq_seq, FilterExpr.leaves_toFilter]

/-- Chaining distinct, unchained filters in any way gives a filter that asks them from left to right,
for GPUs and for network interfaces, whatever the brackets are. A filter without a test for one of
the two passes the candidate on. -/
theorem chain_conjunction (M : Matchers) (leafOf : FilterPtr → Leaf) (objs : Objects)
    (e : FilterExpr) (hd : e.ptrs.Nodup) (h : Unchained objs leafOf e.ptrs) :
    (∃ p objs', e.eval objs = some (p, objs') ∧
      Asks objs' (Gpu.test M) p (e.ptrs.map leafOf) ∧
      Asks objs' (Net.test M) p (e.ptrs.map leafOf) ∧
      ∀ e' : FilterExpr, e'.ptrs = e.ptrs → ∃ p' objs'', e'.eval objs = some (p', objs'') ∧
        ∀ fuel, e.ptrs.length ≤ fuel →
          objs''.callAt (Gpu.test M) fuel p' = objs'.callAt (Gpu.test M) fuel p ∧
          objs''.callAt (Net.test M) fuel p' = objs'.callAt (Net.test M) fuel p) ∧
    (∀ prefixes type, Gpu.test M (.net prefixes type) = pass fun _ => true) ∧
    Net.test M .mirror = (pass fun _ => true) ∧
    ∀ regex, Net.test M (.gpu regex) = pass fun _ => true := by
  refine ⟨?_, fun _ _ => rfl, rfl, fun _ => rfl⟩
  obtain ⟨t, objs', ht⟩ := holds_eval e hd h
  refine ⟨t.root, objs', ht.eval_eq, ht.asks _, ht.asks _, fun e' he' => ?_⟩
  rw [← he'] at hd h
  obtain ⟨t', objs'', ht'⟩ := holds_eval e' hd h
  refine ⟨t'.root, objs'', ht'.eval_eq, fun fuel hf => ?_⟩
  have hcall : ∀ {α : Type} (test : Leaf → Selector α),
      objs''.callAt test fuel t'.root = objs'.callAt test fuel t.root := by
    intro α test
    funext current candidate
    rw [ht.asks test fuel (by rw [List.length_map]; exact hf),
      ht'.asks test fuel (by rw [List.length_map, he']; exact hf), he']
  exact ⟨hcall _, hcall _⟩

/-- A mirror filter, and a session filter chained to a duplicate filter, with brackets to the right. -/
theorem chain_conjunction_right :
    let leafOf : FilterPtr → Leaf := fun p =>
      if p = 0 then .mirror else if p = 1 then .duplicate else .session (lit "default")
    let objs : Objects := fun p => some ⟨leafOf p, []⟩
    let e : FilterExpr := .or true (.ptr 0) (.or true (.ptr 1) (.ptr 2))
    ∃ p objs', e.eval objs = some (p, objs') ∧
      Asks objs' (Gpu.test ⟨none, none⟩) p [.mirror, .duplicate, .session (lit "default")] := by
  intro leafOf objs e
  obtain ⟨⟨p, objs', heval, hgpu, _⟩, _⟩ :=
    chain_conjunction ⟨none, none⟩ leafOf objs e (by decide) fun p _ => rfl
  exact ⟨p, objs', heval, hgpu⟩

end Hwsd
