import Mathlib.Data.List.Nodup

/-!
# Hwsd.Lib.Chain

Singly linked chains in a memory, where `next a` is the pointer stored at `a` and `none` says that
nothing is stored there.

* `Seg next p l q`: following the pointers from `p` goes over the addresses `l` and arrives at `q`.
* `walk next fuel p`: the loop that follows the pointers from `p` to a null pointer. It gives no
  result when it reads where nothing is stored, or when its fuel runs out.
* `walk_of_seg`: a chain with fewer addresses than fuel is walked to its end.
* `Seg.extend`, `Seg.unlink`: the two ways of changing a chain through one pointer write.
-/

namespace Chain

variable {ν : Type*}

/-- The pointers from `p` lead over `l` to `q`. -/
def Seg (next : ν → Option (Option ν)) : Option ν → List ν → Option ν → Prop
  | p, [], q => p = q
  | p, a :: l, q => p = some a ∧ ∃ r, next a = some r ∧ Seg next r l q

/-- Follow the pointers from `p` and list the addresses. -/
def walk (next : ν → Option (Option ν)) : Nat → Option ν → Option (List ν)
  | 0, _ => none
  | _ + 1, none => some []
  | fuel + 1, some a =>
    match next a with
    | none => none
    | some r => (walk next fuel r).map (a :: ·)

/-- The same loop with a body that changes `b`. -/
def foldWalk {β : Type*} (next : ν → Option (Option ν)) (f : β → ν → β) :
    Nat → Option ν → β → Option β
  | 0, _, _ => none
  | _ + 1, none, b => some b
  | fuel + 1, some a, b =>
    match next a with
    | none => none
    | some r => foldWalk next f fuel r (f b a)

section

variable {next next' : ν → Option (Option ν)} {p q : Option ν} {l : List ν}

theorem walk_of_seg (h : Seg next p l none) {fuel : Nat} (hf : l.length < fuel) :
    walk next fuel p = some l := by
  induction l generalizing p fuel with
  | nil =>
    cases fuel with
    | zero => simp at hf
    | succ fuel =>
      cases h
      rfl
  | cons a l ih =>
    obtain ⟨rfl, r, hr, hseg⟩ := h
    cases fuel with
    | zero => simp at hf
    | succ fuel =>
      have hlt : l.length < fuel := by simpa using hf
      simp [walk, hr, ih hseg hlt]

theorem foldWalk_of_seg {β : Type*} (f : β → ν → β) (h : Seg next p l none) {fuel : Nat}
    (hf : l.length < fuel) (b : β) : foldWalk next f fuel p b = some (l.foldl f b) := by
  induction l generalizing p fuel b with
  | nil =>
    cases fuel with
    | zero => simp at hf
    | succ fuel =>
      cases h
      rfl
  | cons a l ih =>
    obtain ⟨rfl, r, hr, hseg⟩ := h
    cases fuel with
    | zero => simp at hf
    | succ fuel =>
      have hlt : l.length < fuel := by simpa using hf
      simp only [foldWalk, hr, List.foldl_cons]
      exact ih hseg hlt (f b a)

theorem seg_append {l₁ l₂ : List ν} :
    Seg next p (l₁ ++ l₂) q ↔ ∃ r, Seg next p l₁ r ∧ Seg next r l₂ q := by
  induction l₁ generalizing p with
  | nil => simp [Seg]
  | cons a l₁ ih =>
    simp only [List.cons_append, Seg, ih]
    constructor
    · rintro ⟨hp, s, hs, r, h₁, h₂⟩
      exact ⟨r, ⟨hp, s, hs, h₁⟩, h₂⟩
    · rintro ⟨r, ⟨hp, s, hs, h₁⟩, h₂⟩
      exact ⟨hp, s, hs, r, h₁, h₂⟩

/-- Writes elsewhere leave the chain alone. -/
theorem Seg.frame (h : Seg next p l q) (hn : ∀ a ∈ l, next' a = next a) : Seg next' p l q := by
  induction l generalizing p with
  | nil => exact h
  | cons a l ih =>
    obtain ⟨rfl, r, hr, hseg⟩ := h
    rw [List.forall_mem_cons] at hn
    exact ⟨rfl, r, by rw [hn.1, hr], ih hseg hn.2⟩

/-- The cell at the end of a chain holds the pointer to where the chain leads. -/
theorem Seg.next_last {a : ν} (h : Seg next p (l ++ [a]) q) : next a = some q := by
  obtain ⟨r, _, _, s, hs, rfl⟩ := seg_append.mp h
  exact hs

theorem Seg.next_isSome (h : Seg next p l q) : ∀ a ∈ l, (next a).isSome := by
  induction l generalizing p with
  | nil => simp
  | cons a l ih =>
    obtain ⟨_, r, hr, hseg⟩ := h
    rw [List.forall_mem_cons, hr]
    exact ⟨rfl, ih hseg⟩

/-- Let the last cell of a chain point elsewhere. -/
theorem Seg.redirect {a : ν} {q' : Option ν} (h : Seg next p (l ++ [a]) q)
    (hn : ∀ b ∈ l, next' b = next b) (ha : next' a = some q') : Seg next' p (l ++ [a]) q' := by
  obtain ⟨r, hl, hr, _⟩ := seg_append.mp h
  exact seg_append.mpr ⟨r, hl.frame hn, hr, q', ha, rfl⟩

/-- Append the cell `b` to a chain that ends with `a`. -/
theorem Seg.extend {a b : ν} (h : Seg next p (l ++ [a]) q) (hn : ∀ c ∈ l, next' c = next c)
    (ha : next' a = some (some b)) (hb : next' b = some none) :
    Seg next' p (l ++ [a] ++ [b]) none :=
  seg_append.mpr ⟨some b, h.redirect hn ha, rfl, none, hb, rfl⟩

/-- Let the cell before `a` point to where `a` points. -/
theorem Seg.unlink {a b : ν} {r : Option ν} {l₁ l₂ : List ν}
    (h : Seg next p (l₁ ++ [b] ++ a :: l₂) q) (hr : next a = some r)
    (hn : ∀ c ∈ l₁, next' c = next c) (hb : next' b = some r)
    (hn' : ∀ c ∈ l₂, next' c = next c) : Seg next' p (l₁ ++ [b] ++ l₂) q := by
  obtain ⟨s, h₁, hs, t, ht, h₂⟩ := seg_append.mp h
  rw [hr] at ht
  cases ht
  exact seg_append.mpr ⟨r, h₁.redirect hn hb, h₂.frame hn'⟩

end

end Chain
