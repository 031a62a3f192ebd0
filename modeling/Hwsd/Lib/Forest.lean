import Mathlib.Data.List.Nodup

/-!
# Hwsd.Lib.Forest

Trees in a memory whose cells hold a label and a list of pointers: `cell a` is what is stored at `a`,
and `none` says that nothing is.

* `Holds cell t`: the tree `t`, with the addresses of its nodes, is stored.
* `Holds.frame`: cells elsewhere do not matter. The induction is on the tree and on the list of the
  subtrees of a node, as in all mutual blocks here.
* `Holds.push`: a pointer to a second tree, written behind the pointers of the root of the first one,
  makes it the last subtree of that root.
-/

namespace Forest

inductive PtrTree (ν κ : Type*) where
  | node (ptr : ν) (label : κ) (children : List (PtrTree ν κ))

variable {ν κ : Type*}

namespace PtrTree

def root : PtrTree ν κ → ν
  | node p _ _ => p

/-- Append a subtree to those of the root. -/
def push : PtrTree ν κ → PtrTree ν κ → PtrTree ν κ
  | node p l ts, t => node p l (ts ++ [t])

mutual

/-- The addresses of the nodes, every node in front of its subtrees. -/
def ptrs : PtrTree ν κ → List ν
  | node p _ ts => p :: ptrsAll ts

def ptrsAll : List (PtrTree ν κ) → List ν
  | [] => []
  | t :: ts => ptrs t ++ ptrsAll ts

end

theorem ptrsAll_append (ts ts' : List (PtrTree ν κ)) :
    ptrsAll (ts ++ ts') = ptrsAll ts ++ ptrsAll ts' := by
  induction ts with
  | nil => rfl
  | cons t ts ih => rw [List.cons_append, ptrsAll, ptrsAll, ih, List.append_assoc]

theorem root_mem_ptrs (t : PtrTree ν κ) : t.root ∈ t.ptrs := by
  cases t with
  | node p l ts =>
    rw [ptrs]
    exact List.mem_cons_self

theorem root_push (t t' : PtrTree ν κ) : (t.push t').root = t.root := by
  cases t with
  | node p l ts => rfl

theorem ptrs_push (t t' : PtrTree ν κ) : (t.push t').ptrs = t.ptrs ++ t'.ptrs := by
  cases t with
  | node p l ts =>
    rw [push, ptrs, ptrs, ptrsAll_append, ptrsAll, ptrsAll, List.append_nil, List.cons_append]

mutual

/-- The tree is stored in the memory. -/
def Holds (cell : ν → Option (κ × List ν)) : PtrTree ν κ → Prop
  | .node p l ts => cell p = some (l, ts.map root) ∧ HoldsAll cell ts

def HoldsAll (cell : ν → Option (κ × List ν)) : List (PtrTree ν κ) → Prop
  | [] => True
  | t :: ts => Holds cell t ∧ HoldsAll cell ts

end

section

variable {cell cell' : ν → Option (κ × List ν)}

theorem holds_single {p : ν} {l : κ} (h : cell p = some (l, [])) : Holds cell (.node p l []) := by
  rw [Holds]
  exact ⟨h, by rw [HoldsAll]; trivial⟩

theorem Holds.exists_root {t : PtrTree ν κ} (h : Holds cell t) :
    ∃ l next, cell t.root = some (l, next) := by
  cases t with
  | node p l ts =>
    rw [Holds] at h
    exact ⟨l, _, h.1⟩

theorem holdsAll_append {ts ts' : List (PtrTree ν κ)} :
    HoldsAll cell (ts ++ ts') ↔ HoldsAll cell ts ∧ HoldsAll cell ts' := by
  induction ts with
  | nil => simp [HoldsAll]
  | cons t ts ih => rw [List.cons_append, HoldsAll, HoldsAll, ih, and_assoc]

mutual

/-- Writes elsewhere leave the tree alone. -/
theorem Holds.frame {t : PtrTree ν κ} (h : Holds cell t) (hn : ∀ a ∈ t.ptrs, cell' a = cell a) :
    Holds cell' t := by
  match t with
  | .node p l ts =>
    rw [ptrs, List.forall_mem_cons] at hn
    rw [Holds] at h ⊢
    exact ⟨by rw [hn.1, h.1], HoldsAll.frame h.2 hn.2⟩

theorem HoldsAll.frame {ts : List (PtrTree ν κ)} (h : HoldsAll cell ts)
    (hn : ∀ a ∈ ptrsAll ts, cell' a = cell a) : HoldsAll cell' ts := by
  match ts with
  | [] =>
    rw [HoldsAll]
    trivial
  | t :: ts =>
    rw [ptrsAll, List.forall_mem_append] at hn
    rw [HoldsAll] at h ⊢
    exact ⟨Holds.frame h.1 hn.1, HoldsAll.frame h.2 hn.2⟩

end

theorem Holds.push {t t' : PtrTree ν κ} (h : Holds cell t) (h' : Holds cell t')
    (hd : (t.ptrs ++ t'.ptrs).Nodup) {l : κ} {next : List ν} (hroot : cell t.root = some (l, next))
    (hwrite : cell' t.root = some (l, next ++ [t'.root])) (hn : ∀ a, a ≠ t.root → cell' a = cell a) :
    Holds cell' (t.push t') := by
  cases t with
  | node p k ts =>
    rw [ptrs, List.cons_append, List.nodup_cons, List.mem_append, not_or] at hd
    obtain ⟨⟨hts, ht'⟩, _⟩ := hd
    have hframe : ∀ l : List ν, p ∉ l → ∀ a ∈ l, cell' a = cell a := by
      intro l hp a ha
      refine hn a ?_
      rintro rfl
      exact hp ha
    rw [Holds] at h
    obtain ⟨hcell, hall⟩ := h
    obtain ⟨rfl, rfl⟩ := Prod.mk.inj (Option.some.inj (hcell.symm.trans hroot))
    rw [PtrTree.push, Holds, holdsAll_append, HoldsAll, HoldsAll]
    refine ⟨?_, hall.frame (hframe _ hts), h'.frame (hframe _ ht'), trivial⟩
    rw [List.map_append]
    exact hwrite

end

end PtrTree

end Forest
