import Mathlib.Logic.Function.Basic
import Hwsd.Lib.Chain
import Hwsd.Functions

/-!
# Hwsd.Registry

The module registry (`module.h`, `module.ipp`): every module object links itself behind the last
one when it is constructed and takes itself out of the chain when it is destroyed. `use` and
`dispose` of a module class keep one object of the class in a static `instance`.

* `construct_ok`, `destroy_ok`: what the constructor and the destructor make of a registry whose
  chain is the list of live modules.
* `step_ok`, `run_ok`: the invariant `Registers` over one call and over a sequence of calls, for
  any storage that `new` may return, reused storage included.
* `stack_live`: the chain is the list of live modules, in the order of construction.
* `discoverLoop_eq`: a discovery that loops over the chain is the one over the list of `Functions`.
-/

namespace Hwsd
namespace Registry

open Chain Greedy

abbrev Addr := Nat

/-- `Module<T>`, with the class that was derived from it. -/
structure Object (κ : Type) where
  cls : κ
  next_ : Option Addr
deriving DecidableEq

abbrev Heap (κ : Type) := Addr → Option (Object κ)

/-- `Module<T>::stack()`, the module objects, and the `instance` of each class. -/
structure Modules (κ : Type) where
  stack_ : Option Addr
  heap : Heap κ
  instance_ : κ → Option Addr

variable {κ : Type}

def Heap.next (heap : Heap κ) (a : Addr) : Option (Option Addr) := (heap a).map Object.next_

/-- `module->next_ = p`. -/
def Heap.setNext (heap : Heap κ) (module : Addr) (p : Option Addr) : Option (Heap κ) :=
  (heap module).map fun o => Function.update heap module (some { o with next_ := p })

namespace Modules

def empty : Modules κ := ⟨none, fun _ => none, fun _ => none⟩

/-- The loop of the constructor. -/
def appendLoop (heap : Heap κ) (this : Addr) : Nat → Option Addr → Option (Heap κ)
  | 0, _ => none
  | _ + 1, none => some heap
  | fuel + 1, some module =>
    match heap.next module with
    | none => none
    | some none => heap.setNext module (some this)
    | some (some next) => appendLoop heap this fuel (some next)

/-- `Module<T>::Module()`. -/
def construct (fuel : Nat) (s : Modules κ) (this : Addr) (cls : κ) : Option (Modules κ) :=
  let heap := Function.update s.heap this (some ⟨cls, none⟩)
  match s.stack_ with
  | none => some { s with stack_ := some this, heap := heap }
  | some module =>
    (appendLoop heap this fuel (some module)).map fun heap => { s with heap := heap }

/-- The loop of the destructor, with what it leaves of `stack()` and of the objects. -/
def unlinkLoop (s : Modules κ) (this : Addr) :
    Nat → Option Addr → Option Addr → Option (Option Addr × Heap κ)
  | 0, _, _ => none
  | _ + 1, _, none => some (s.stack_, s.heap)
  | fuel + 1, previous, some module =>
    match s.heap.next module with
    | none => none
    | some next =>
      if module = this then
        match previous with
        | some previous => (s.heap.setNext previous next).map (s.stack_, ·)
        | none => some (next, s.heap)
      else unlinkLoop s this fuel (some module) next

/-- `delete this`. -/
def destroy (fuel : Nat) (s : Modules κ) (this : Addr) : Option (Modules κ) :=
  (unlinkLoop s this fuel none s.stack_).map fun r =>
    { s with stack_ := r.1, heap := Function.update r.2 this none }

variable [DecidableEq κ]

/-- `use()` of a class; `storage` is what `new` returns if it is called. -/
def use (fuel : Nat) (s : Modules κ) (cls : κ) (storage : Addr) : Option (Modules κ) :=
  match s.instance_ cls with
  | some _ => some s
  | none => (s.construct fuel storage cls).map fun s =>
    { s with instance_ := Function.update s.instance_ cls (some storage) }

/-- `dispose()` of a class. -/
def dispose (fuel : Nat) (s : Modules κ) (cls : κ) : Option (Modules κ) :=
  let deleted :=
    match s.instance_ cls with
    | some module => s.destroy fuel module
    | none => some s
  deleted.map fun s => { s with instance_ := Function.update s.instance_ cls none }

end Modules

/-- What a program can do to the registry. -/
inductive Op (κ : Type) where
  | construct (storage : Addr) (cls : κ)
  | destroy (module : Addr)
  | use (cls : κ) (storage : Addr)
  | dispose (cls : κ)

namespace Modules

variable [DecidableEq κ]

def step (fuel : Nat) (s : Modules κ) : Op κ → Option (Modules κ)
  | .construct storage cls => s.construct fuel storage cls
  | .destroy module => s.destroy fuel module
  | .use cls storage => s.use fuel cls storage
  | .dispose cls => s.dispose fuel cls

def run (fuel : Nat) (s : Modules κ) (ops : List (Op κ)) : Option (Modules κ) :=
  ops.foldlM (step fuel) s

/-- The modules that a loop over the registry visits. -/
def visited (fuel : Nat) (s : Modules κ) : Option (List Addr) := walk s.heap.next fuel s.stack_

end Modules

/-! ## Live modules -/

section Live

variable [DecidableEq κ]

/-- The modules that have been constructed and not destroyed, oldest first. -/
def liveStep (live : List (Addr × κ)) : Op κ → List (Addr × κ)
  | .construct storage cls => live ++ [(storage, cls)]
  | .destroy module => live.filter fun m => m.1 ≠ module
  | .use cls storage => if cls ∈ live.map Prod.snd then live else live ++ [(storage, cls)]
  | .dispose cls => live.filter fun m => m.2 ≠ cls

def liveAfter (live : List (Addr × κ)) (ops : List (Op κ)) : List (Addr × κ) :=
  ops.foldl liveStep live

/-- What C++ asks of a call, and promises of it: a class with an `instance` has no other public
constructor and destructor than `use` and `dispose`, what is destroyed is alive, and new storage is
not that of a live module. -/
def Legal (isSingleton : κ → Bool) (live : List (Addr × κ)) : Op κ → Prop
  | .construct storage cls => isSingleton cls = false ∧ storage ∉ live.map Prod.fst
  | .destroy module => ∃ cls, isSingleton cls = false ∧ (module, cls) ∈ live
  | .use cls storage =>
    isSingleton cls = true ∧ (cls ∉ live.map Prod.snd → storage ∉ live.map Prod.fst)
  | .dispose cls => isSingleton cls = true

def LegalRun (isSingleton : κ → Bool) : List (Addr × κ) → List (Op κ) → Prop
  | _, [] => True
  | live, op :: ops => Legal isSingleton live op ∧ LegalRun isSingleton (liveStep live op) ops

/-- The chain goes over the live modules in order, and they are the objects in the heap. -/
structure Linked (s : Modules κ) (live : List (Addr × κ)) : Prop where
  chain : Seg s.heap.next s.stack_ (live.map Prod.fst) none
  nodup : (live.map Prod.fst).Nodup
  object : ∀ a cls, (s.heap a).map Object.cls = some cls ↔ (a, cls) ∈ live

/-- The `instance` of a class is the live module of the class. -/
structure Registers (isSingleton : κ → Bool) (s : Modules κ) (live : List (Addr × κ)) : Prop
    extends Linked s live where
  single : ∀ cls a, s.instance_ cls = some a ↔ isSingleton cls = true ∧ (a, cls) ∈ live

end Live

/-! ## Pointer writes -/

namespace Heap

variable {heap : Heap κ} {a : Addr}

theorem next_update_self (o : Object κ) :
    Heap.next (Function.update heap a (some o)) a = some o.next_ := by
  simp [Heap.next]

theorem next_update_of_ne {b : Addr} (h : b ≠ a) (o : Option (Object κ)) :
    Heap.next (Function.update heap a o) b = heap.next b := by
  simp [Heap.next, h]

theorem cls_update (o : Option (Object κ)) (b : Addr) :
    (Function.update heap a o b).map Object.cls =
      if b = a then o.map Object.cls else (heap b).map Object.cls := by
  by_cases h : b = a
  · subst h
    simp
  · simp [h]

/-- A pointer write changes that pointer, and no class. -/
theorem setNext_ok {r : Option Addr} (h : heap.next a = some r) (p : Option Addr) :
    ∃ heap', heap.setNext a p = some heap' ∧ heap'.next a = some p ∧
      (∀ b, b ≠ a → heap'.next b = heap.next b) ∧
      ∀ b, (heap' b).map Object.cls = (heap b).map Object.cls := by
  obtain ⟨o, ho, _⟩ := Option.map_eq_some_iff.mp h
  refine ⟨Function.update heap a (some { o with next_ := p }), ?_, next_update_self _, ?_, ?_⟩
  · rw [Heap.setNext, ho]
    rfl
  · intro b hb
    exact next_update_of_ne hb _
  · intro b
    rw [cls_update]
    split
    · rename_i hb
      rw [hb, ho]
      rfl
    · rfl

end Heap

/-! ## Constructor and destructor -/

namespace Modules

theorem appendLoop_eq {heap : Heap κ} {this z : Addr} {l : List Addr} {p : Option Addr}
    (h : Seg heap.next p (l ++ [z]) none) {fuel : Nat} (hf : l.length < fuel) :
    appendLoop heap this fuel p = heap.setNext z (some this) := by
  induction l generalizing p fuel with
  | nil =>
    obtain ⟨rfl, r, hr, rfl⟩ := h
    cases fuel with
    | zero => simp at hf
    | succ fuel => simp [appendLoop, hr]
  | cons a l ih =>
    obtain ⟨rfl, r, hr, hseg⟩ := h
    cases fuel with
    | zero => simp at hf
    | succ fuel =>
      have hlt : l.length < fuel := by simpa using hf
      -- the rest of the chain is not empty, so `a` is not the last module
      cases r with
      | none =>
        cases l with
        | nil => cases hseg.1
        | cons b l => cases hseg.1
      | some b =>
        simp only [appendLoop, hr]
        exact ih hseg hlt

/-- The new module comes last. -/
theorem construct_ok {s : Modules κ} {l : List Addr} {this : Addr}
    (h : Seg s.heap.next s.stack_ l none) (hnodup : l.Nodup) (hthis : this ∉ l)
    {fuel : Nat} (hf : l.length ≤ fuel) (cls : κ) :
    ∃ s', s.construct fuel this cls = some s' ∧ Seg s'.heap.next s'.stack_ (l ++ [this]) none ∧
      s'.instance_ = s.instance_ ∧
      ∀ b, (s'.heap b).map Object.cls =
        if b = this then some cls else (s.heap b).map Object.cls := by
  have hthis' : Heap.next (Function.update s.heap this (some ⟨cls, none⟩)) this = some none :=
    Heap.next_update_self _
  rcases List.eq_nil_or_concat' l with rfl | ⟨l, z, rfl⟩
  · have hstack : s.stack_ = none := h
    refine ⟨{ s with
      stack_ := some this, heap := Function.update s.heap this (some ⟨cls, none⟩) }, ?_,
      ⟨rfl, none, hthis', rfl⟩, rfl, Heap.cls_update _⟩
    rw [construct, hstack]
  · have hne : ∀ b ∈ l ++ [z], b ≠ this := by
      rintro b hb rfl
      exact hthis hb
    have hseg : Seg (Heap.next (Function.update s.heap this (some ⟨cls, none⟩))) s.stack_
        (l ++ [z]) none :=
      h.frame fun b hb => Heap.next_update_of_ne (hne b hb) _
    have hlt : l.length < fuel := by
      rw [List.length_append, List.length_singleton] at hf
      omega
    obtain ⟨heap, hset, hz, hother, hcls⟩ := Heap.setNext_ok hseg.next_last (some this)
    obtain ⟨module, hmodule⟩ : ∃ module, s.stack_ = some module := by
      cases l with
      | nil => exact ⟨_, h.1⟩
      | cons a l => exact ⟨_, h.1⟩
    refine ⟨{ s with heap := heap }, ?_, ?_, rfl, ?_⟩
    · rw [hmodule] at hseg
      simp only [construct, hmodule]
      rw [appendLoop_eq hseg hlt, hset]
      rfl
    · refine hseg.extend (fun c hc => hother c ?_) hz ?_
      · rintro rfl
        exact (List.nodup_append.mp hnodup).2.2 c hc c (by simp) rfl
      · rw [hother this (hne z (by simp)).symm]
        exact hthis'
    · intro b
      rw [hcls b]
      exact Heap.cls_update _ b

/-- The loop stops at `this`, with the module before it as `previous`. -/
theorem unlinkLoop_eq {s : Modules κ} {this : Addr} {l₁ l₂ : List Addr} {p r : Option Addr}
    (h : Seg s.heap.next p (l₁ ++ this :: l₂) none) (hr : s.heap.next this = some r)
    (hthis : this ∉ l₁) {fuel : Nat} (hf : l₁.length < fuel) (previous : Option Addr) :
    unlinkLoop s this fuel previous p =
      match l₁.getLast?.or previous with
      | some previous => (s.heap.setNext previous r).map (s.stack_, ·)
      | none => some (r, s.heap) := by
  induction l₁ generalizing p fuel previous with
  | nil =>
    obtain ⟨rfl, _⟩ := h
    cases fuel with
    | zero => simp at hf
    | succ fuel =>
      simp only [unlinkLoop, hr, if_true, List.getLast?_nil, Option.none_or]
  | cons a l₁ ih =>
    obtain ⟨rfl, q, hq, hseg⟩ := h
    cases fuel with
    | zero => simp at hf
    | succ fuel =>
      have hlt : l₁.length < fuel := by simpa using hf
      have hne : a ≠ this := by
        rintro rfl
        exact hthis (by simp)
      have hmem : this ∉ l₁ := fun hm => hthis (List.mem_cons_of_mem a hm)
      have hlast : (a :: l₁).getLast?.or previous = l₁.getLast?.or (some a) := by
        rw [List.getLast?_cons]
        cases l₁.getLast? <;> rfl
      simp only [unlinkLoop, hq, if_neg hne]
      rw [ih hseg hmem hlt, hlast]

/-- Destroying the first module. -/
theorem destroy_head_ok {s : Modules κ} {l : List Addr} {this : Addr}
    (h : Seg s.heap.next s.stack_ (this :: l) none) (hthis : this ∉ l)
    {fuel : Nat} (hf : 0 < fuel) :
    ∃ s', s.destroy fuel this = some s' ∧ Seg s'.heap.next s'.stack_ l none ∧
      s'.instance_ = s.instance_ ∧
      ∀ b, (s'.heap b).map Object.cls = if b = this then none else (s.heap b).map Object.cls := by
  obtain ⟨_, r, hr, hseg⟩ := id h
  refine ⟨{ s with stack_ := r, heap := Function.update s.heap this none }, ?_, ?_, rfl,
    Heap.cls_update none⟩
  · have hunlink : unlinkLoop s this fuel none s.stack_ = some (r, s.heap) :=
      unlinkLoop_eq (show Seg s.heap.next s.stack_ ([] ++ this :: l) none from h) hr
        List.not_mem_nil hf none
    rw [destroy, hunlink]
    rfl
  · refine hseg.frame fun b hb => Heap.next_update_of_ne ?_ _
    rintro rfl
    exact hthis hb

/-- Destroying a module behind another one. -/
theorem destroy_behind_ok {s : Modules κ} {l₁ l₂ : List Addr} {previous this : Addr}
    (h : Seg s.heap.next s.stack_ (l₁ ++ [previous] ++ this :: l₂) none)
    (hnodup : (l₁ ++ [previous] ++ this :: l₂).Nodup) {fuel : Nat} (hf : l₁.length + 1 < fuel) :
    ∃ s', s.destroy fuel this = some s' ∧
      Seg s'.heap.next s'.stack_ (l₁ ++ [previous] ++ l₂) none ∧ s'.instance_ = s.instance_ ∧
      ∀ b, (s'.heap b).map Object.cls = if b = this then none else (s.heap b).map Object.cls := by
  obtain ⟨r, hr⟩ := Option.isSome_iff_exists.mp (h.next_isSome this (by simp))
  obtain ⟨q, hq⟩ := Option.isSome_iff_exists.mp (h.next_isSome previous (by simp))
  obtain ⟨heap, hset, hprevious, hother, hcls⟩ := Heap.setNext_ok hq r
  simp only [List.append_assoc, List.singleton_append, List.nodup_append, List.nodup_cons,
    List.mem_cons, not_or, ne_eq] at hnodup
  obtain ⟨_, ⟨⟨hpt, hp₂⟩, ht₂, _⟩, hdisj⟩ := hnodup
  have hp₁ : previous ∉ l₁ := fun hm => hdisj previous hm previous (.inl rfl) rfl
  have ht₁ : this ∉ l₁ := fun hm => hdisj this hm this (.inr (.inl rfl)) rfl
  have hsame : ∀ b, b ≠ this → b ≠ previous →
      Heap.next (Function.update heap this none) b = s.heap.next b := by
    intro b hb hbp
    rw [Heap.next_update_of_ne hb, hother b hbp]
  have hthis : this ∉ l₁ ++ [previous] := by
    rw [List.mem_append, List.mem_singleton, not_or]
    exact ⟨ht₁, fun heq => hpt heq.symm⟩
  refine ⟨{ s with heap := Function.update heap this none }, ?_, ?_, rfl, ?_⟩
  · rw [destroy, unlinkLoop_eq h hr hthis (by simpa using hf)]
    simp [hset]
  · refine h.unlink hr (fun c hc => hsame c ?_ ?_) ?_ (fun c hc => hsame c ?_ ?_)
    · rintro rfl
      exact ht₁ hc
    · rintro rfl
      exact hp₁ hc
    · rw [Heap.next_update_of_ne hpt, hprevious]
    · rintro rfl
      exact ht₂ hc
    · rintro rfl
      exact hp₂ hc
  · intro b
    rw [Heap.cls_update, hcls]
    rfl

/-- The modules before and behind the destroyed one stay, in order. -/
theorem destroy_ok {s : Modules κ} {l₁ l₂ : List Addr} {this : Addr}
    (h : Seg s.heap.next s.stack_ (l₁ ++ this :: l₂) none) (hnodup : (l₁ ++ this :: l₂).Nodup)
    {fuel : Nat} (hf : l₁.length < fuel) :
    ∃ s', s.destroy fuel this = some s' ∧ Seg s'.heap.next s'.stack_ (l₁ ++ l₂) none ∧
      s'.instance_ = s.instance_ ∧
      ∀ b, (s'.heap b).map Object.cls = if b = this then none else (s.heap b).map Object.cls := by
  rcases List.eq_nil_or_concat' l₁ with rfl | ⟨l₁, previous, rfl⟩
  · exact destroy_head_ok h (List.nodup_cons.mp hnodup).1 hf
  · exact destroy_behind_ok h hnodup (by simpa using hf)

end Modules

/-! ## Runs -/

section Run

variable {s : Modules κ} {live : List (Addr × κ)} {fuel : Nat}

theorem Linked.cls_unique (h : Linked s live) {a : Addr} {cls cls' : κ} (hm : (a, cls) ∈ live)
    (hm' : (a, cls') ∈ live) : cls = cls' := by
  rw [← h.object] at hm hm'
  rw [hm] at hm'
  exact Option.some.inj hm'

theorem Linked.construct (h : Linked s live) {this : Addr} (hthis : this ∉ live.map Prod.fst)
    (hf : live.length ≤ fuel) (cls : κ) :
    ∃ s', s.construct fuel this cls = some s' ∧ s'.instance_ = s.instance_ ∧
      Linked s' (live ++ [(this, cls)]) := by
  have hlen : (live.map Prod.fst).length ≤ fuel := by rwa [List.length_map]
  obtain ⟨s', hs', hchain, hinst, hcls⟩ :=
    Modules.construct_ok h.chain h.nodup hthis hlen cls
  refine ⟨s', hs', hinst, ?_, ?_, ?_⟩
  · rw [List.map_append]
    exact hchain
  · rw [List.map_append]
    refine h.nodup.append (List.nodup_singleton this) ?_
    intro a ha ha'
    obtain rfl := List.mem_singleton.mp ha'
    exact hthis ha
  · intro a cls'
    rw [hcls, List.mem_append, List.mem_singleton, Prod.mk.injEq, ← h.object]
    by_cases ha : a = this
    · subst ha
      have hnone : (s.heap a).map Object.cls ≠ some cls' := by
        intro hsome
        exact hthis (List.mem_map_of_mem ((h.object a cls').mp hsome))
      simp [hnone, eq_comm]
    · simp [ha]

theorem Linked.destroy [DecidableEq κ] (h : Linked s live) {this : Addr} {cls : κ}
    (hm : (this, cls) ∈ live) (hf : live.length < fuel) :
    ∃ s', s.destroy fuel this = some s' ∧ s'.instance_ = s.instance_ ∧
      Linked s' (live.filter fun m => m.1 ≠ this) := by
  obtain ⟨l₁, l₂, rfl⟩ := List.append_of_mem hm
  have hchain := h.chain
  have hnodup := h.nodup
  rw [List.map_append, List.map_cons] at hchain hnodup
  have hlen : (l₁.map Prod.fst).length < fuel := by
    simp only [List.length_append, List.length_cons] at hf
    rw [List.length_map]
    omega
  obtain ⟨s', hs', hchain', hinst, hcls⟩ := Modules.destroy_ok hchain hnodup hlen
  obtain ⟨hthis, hrest⟩ := List.nodup_cons.mp (List.nodup_middle.mp hnodup)
  have hfilter : ((l₁ ++ (this, cls) :: l₂).filter fun m => m.1 ≠ this) = l₁ ++ l₂ := by
    have hl : ∀ m ∈ l₁ ++ l₂, decide (m.1 ≠ this) = true := by
      intro m hmem
      have hfst : m.1 ∈ (l₁ ++ l₂).map Prod.fst := List.mem_map_of_mem hmem
      rw [decide_eq_true_eq]
      intro heq
      rw [← List.map_append, ← heq] at hthis
      exact hthis hfst
    rw [List.filter_append, List.filter_cons, if_neg (by simp), ← List.filter_append]
    exact List.filter_eq_self.mpr hl
  refine ⟨s', hs', hinst, ?_, ?_, ?_⟩
  · rw [hfilter, List.map_append]
    exact hchain'
  · rw [hfilter, List.map_append]
    exact hrest
  · intro a cls'
    rw [hcls, List.mem_filter, ← h.object]
    by_cases ha : a = this <;> simp [ha]

variable {isSingleton : κ → Bool}

theorem registers_empty : Registers isSingleton (Modules.empty : Modules κ) [] where
  chain := rfl
  nodup := List.nodup_nil
  object a cls := by simp [Modules.empty]
  single cls a := by simp [Modules.empty]

theorem construct_registers (h : Registers isSingleton s live) (hf : live.length < fuel)
    {storage : Addr} {cls : κ} (hl : Legal isSingleton live (.construct storage cls)) :
    ∃ s', s.construct fuel storage cls = some s' ∧
      Registers isSingleton s' (live ++ [(storage, cls)]) := by
  obtain ⟨s', hs', hinst, hlinked⟩ := h.toLinked.construct hl.2 hf.le cls
  refine ⟨s', hs', hlinked, fun c a => ?_⟩
  rw [hinst, h.single, List.mem_append, List.mem_singleton, Prod.mk.injEq]
  constructor
  · rintro ⟨hc, hm⟩
    exact ⟨hc, .inl hm⟩
  · rintro ⟨hc, hm | ⟨rfl, rfl⟩⟩
    · exact ⟨hc, hm⟩
    · rw [hl.1] at hc
      cases hc

variable [DecidableEq κ]

theorem destroy_registers (h : Registers isSingleton s live) (hf : live.length < fuel)
    {module : Addr} (hl : Legal isSingleton live (.destroy module)) :
    ∃ s', s.destroy fuel module = some s' ∧
      Registers isSingleton s' (live.filter fun m => m.1 ≠ module) := by
  obtain ⟨cls, hcls, hm⟩ := hl
  obtain ⟨s', hs', hinst, hlinked⟩ := h.toLinked.destroy hm hf
  refine ⟨s', hs', hlinked, fun c a => ?_⟩
  rw [hinst, h.single, List.mem_filter]
  constructor
  · rintro ⟨hc, ha⟩
    refine ⟨hc, ha, ?_⟩
    rw [decide_eq_true_eq]
    rintro rfl
    rw [h.cls_unique ha hm, hcls] at hc
    cases hc
  · rintro ⟨hc, ha, _⟩
    exact ⟨hc, ha⟩

theorem use_registers (h : Registers isSingleton s live) (hf : live.length < fuel) {cls : κ}
    {storage : Addr} (hl : Legal isSingleton live (.use cls storage)) :
    ∃ s', s.use fuel cls storage = some s' ∧
      Registers isSingleton s' (liveStep live (.use cls storage)) := by
  cases hinst : s.instance_ cls with
  | some a =>
    have hm : cls ∈ live.map Prod.snd := List.mem_map_of_mem ((h.single cls a).mp hinst).2
    refine ⟨s, by simp [Modules.use, hinst], ?_⟩
    rw [liveStep, if_pos hm]
    exact h
  | none =>
    have hm : cls ∉ live.map Prod.snd := by
      intro hm
      obtain ⟨⟨a, _⟩, ha, rfl⟩ := List.mem_map.mp hm
      have hsome := (h.single _ a).mpr ⟨hl.1, ha⟩
      rw [hinst] at hsome
      cases hsome
    obtain ⟨s', hs', hinst', hlinked⟩ := h.toLinked.construct (hl.2 hm) hf.le cls
    refine ⟨{ s' with instance_ := Function.update s'.instance_ cls (some storage) },
      by simp [Modules.use, hinst, hs'], ?_⟩
    rw [liveStep, if_neg hm]
    refine ⟨⟨hlinked.chain, hlinked.nodup, hlinked.object⟩, fun c a => ?_⟩
    by_cases hc : c = cls
    · subst hc
      have hno : (a, c) ∉ live := fun ha => hm (List.mem_map_of_mem ha)
      simp [hl.1, hno, eq_comm]
    · simp [hc, hinst', h.single]

/-- Forgetting the instance of a class is right once its module is gone. -/
theorem Registers.forget (h : Registers isSingleton s live) {cls : κ} {s' : Modules κ}
    (hinst : s'.instance_ = s.instance_) (hlinked : Linked s' (live.filter fun m => m.2 ≠ cls)) :
    Registers isSingleton { s' with instance_ := Function.update s'.instance_ cls none }
      (live.filter fun m => m.2 ≠ cls) := by
  refine ⟨⟨hlinked.chain, hlinked.nodup, hlinked.object⟩, fun c a => ?_⟩
  rw [List.mem_filter]
  by_cases hc : c = cls
  · subst hc
    simp
  · simp [hc, hinst, h.single]

/-- The instance of a class is the only module of the class. -/
theorem Registers.filter_instance (h : Registers isSingleton s live) {cls : κ}
    (hl : Legal isSingleton live (.dispose cls)) {a : Addr} (hinst : s.instance_ cls = some a) :
    (live.filter fun m => m.1 ≠ a) = live.filter fun m => m.2 ≠ cls := by
  have ha := ((h.single cls a).mp hinst).2
  refine List.filter_congr fun m hm => ?_
  obtain ⟨b, c⟩ := m
  have hiff : b = a ↔ c = cls := by
    constructor
    · rintro rfl
      exact h.cls_unique hm ha
    · rintro rfl
      have hb := (h.single c b).mpr ⟨hl, hm⟩
      rw [hinst] at hb
      exact (Option.some.inj hb).symm
  simp [hiff]

theorem dispose_registers (h : Registers isSingleton s live) (hf : live.length < fuel) {cls : κ}
    (hl : Legal isSingleton live (.dispose cls)) :
    ∃ s', s.dispose fuel cls = some s' ∧
      Registers isSingleton s' (live.filter fun m => m.2 ≠ cls) := by
  cases hinst : s.instance_ cls with
  | some a =>
    have ha := ((h.single cls a).mp hinst).2
    obtain ⟨s', hs', hinst', hlinked⟩ := h.toLinked.destroy ha hf
    rw [h.filter_instance hl hinst] at hlinked
    exact ⟨_, by simp [Modules.dispose, hinst, hs'], h.forget hinst' hlinked⟩
  | none =>
    have hfilter : (live.filter fun m => m.2 ≠ cls) = live := by
      refine List.filter_eq_self.mpr fun m hm => ?_
      rw [decide_eq_true_eq]
      rintro rfl
      have hsome := (h.single _ m.1).mpr ⟨hl, hm⟩
      rw [hinst] at hsome
      cases hsome
    refine ⟨_, by simp [Modules.dispose, hinst], h.forget rfl ?_⟩
    rw [hfilter]
    exact h.toLinked

theorem step_ok (h : Registers isSingleton s live) (hf : live.length < fuel) {op : Op κ}
    (hl : Legal isSingleton live op) :
    ∃ s', s.step fuel op = some s' ∧ Registers isSingleton s' (liveStep live op) := by
  cases op with
  | construct storage cls => exact construct_registers h hf hl
  | destroy module => exact destroy_registers h hf hl
  | use cls storage => exact use_registers h hf hl
  | dispose cls => exact dispose_registers h hf hl

theorem length_liveStep_le (live : List (Addr × κ)) (op : Op κ) :
    (liveStep live op).length ≤ live.length + 1 := by
  cases op with
  | construct storage cls => simp [liveStep]
  | destroy module => exact (List.length_filter_le _ _).trans (Nat.le_succ _)
  | use cls storage =>
    rw [liveStep]
    split
    · omega
    · simp
  | dispose cls => exact (List.length_filter_le _ _).trans (Nat.le_succ _)

/-- No sequence of calls runs out of fuel that exceeds the number of modules it constructs. -/
theorem run_ok (h : Registers isSingleton s live) {ops : List (Op κ)}
    (hf : live.length + ops.length < fuel) (hl : LegalRun isSingleton live ops) :
    ∃ s', s.run fuel ops = some s' ∧ Registers isSingleton s' (liveAfter live ops) ∧
      (liveAfter live ops).length < fuel := by
  induction ops generalizing s live with
  | nil => exact ⟨s, rfl, h, by simpa [liveAfter] using hf⟩
  | cons op ops ih =>
    rw [List.length_cons] at hf
    have hf₁ : live.length < fuel := by omega
    obtain ⟨s₁, hs₁, h₁⟩ := step_ok h hf₁ hl.1
    have hlt : (liveStep live op).length + ops.length < fuel := by
      have hle := length_liveStep_le live op
      omega
    obtain ⟨s', hs', h', hlen⟩ := ih h₁ hlt hl.2
    refine ⟨s', ?_, h', hlen⟩
    rw [Modules.run, List.foldlM_cons, hs₁]
    exact hs'

end Run

/-- After any legal sequence of calls the registry can be walked to its end, and the walk visits the
live modules, each once and in the order of their construction; a class with an `instance` has at
most one module among them. -/
theorem stack_live [DecidableEq κ] (isSingleton : κ → Bool) (ops : List (Op κ)) (fuel : Nat)
    (hf : ops.length < fuel) (h : LegalRun isSingleton [] ops) :
    ∃ s, Modules.empty.run fuel ops = some s ∧
      s.visited fuel = some ((liveAfter [] ops).map Prod.fst) ∧
      ((liveAfter [] ops).map Prod.fst).Nodup ∧
      (∀ a cls, (s.heap a).map Object.cls = some cls ↔ (a, cls) ∈ liveAfter [] ops) ∧
      ∀ cls, isSingleton cls = true → ∀ a b, (a, cls) ∈ liveAfter [] ops →
        (b, cls) ∈ liveAfter [] ops → a = b := by
  obtain ⟨s, hs, hreg, hlen⟩ := run_ok registers_empty (by simpa using hf) h
  refine ⟨s, hs, walk_of_seg hreg.chain (by rwa [List.length_map]), hreg.nodup, hreg.object, ?_⟩
  intro cls hcls a b ha hb
  have ha' := (hreg.single cls a).mpr ⟨hcls, ha⟩
  have hb' := (hreg.single cls b).mpr ⟨hcls, hb⟩
  rw [ha'] at hb'
  exact Option.some.inj hb'

/-- A module of a class without `instance` between two that have one; the head is destroyed, and
the class is used again in its storage. -/
theorem stack_live_reuse :
    let ops : List (Op Nat) := [.use 0 16, .construct 32 2, .use 1 48, .use 0 64, .dispose 0,
      .dispose 0, .destroy 32, .use 0 16]
    ∃ s, Modules.empty.run 9 ops = some s ∧
      s.visited 9 = some ((liveAfter [] ops).map Prod.fst) ∧
      ((liveAfter [] ops).map Prod.fst).Nodup ∧
      (∀ a cls, (s.heap a).map Object.cls = some cls ↔ (a, cls) ∈ liveAfter [] ops) ∧
      ∀ cls, (fun cls => decide (cls < 2)) cls = true → ∀ a b, (a, cls) ∈ liveAfter [] ops →
        (b, cls) ∈ liveAfter [] ops → a = b :=
  stack_live (fun cls => decide (cls < 2)) _ 9 (by decide) (by simp [LegalRun, Legal, liveStep])

/-! ## Discovery over the registry -/

section Discover

variable {ι α : Type} (R : Resource α) (w : World ι α) (impl : Impl) (filter : Option Filter)

/-- The loop of `discoverInfos` over the registered modules. -/
def discoverLoop (s : Modules (Registered ι)) (fuel : Nat) : Option (List α) :=
  foldWalk s.heap.next
    (fun result module =>
      match s.heap module with
      | some o => Greedy.run (selector R.test filter) result (R.discover w impl o.cls)
      | none => result)
    fuel s.stack_ []

/-- What the stack of `Resource.discoverInfos` stands for: the classes of the live modules. -/
theorem discoverLoop_eq {isSingleton : Registered ι → Bool} {s : Modules (Registered ι)}
    {live : List (Addr × Registered ι)} (h : Registers isSingleton s live) {fuel : Nat}
    (hf : live.length < fuel) :
    discoverLoop R w impl filter s fuel =
      some (R.discoverInfos w (live.map Prod.snd) impl filter) := by
  rw [discoverLoop, foldWalk_of_seg _ h.chain (by rwa [List.length_map]), Resource.discoverInfos,
    List.foldl_map, List.foldl_map]
  congr 1
  refine List.foldl_ext _ _ _ fun result m hm => ?_
  obtain ⟨o, ho, hcls⟩ := Option.map_eq_some_iff.mp ((h.object m.1 m.2).mpr hm)
  simp only [ho, hcls]

end Discover

end Registry
end Hwsd
