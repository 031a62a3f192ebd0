import Mathlib.Data.List.Basic

/-!
# Hwsd.Lib.Handles

What a program opens and closes, as a list of events, and what it holds meanwhile.

* `hold`: what is held after some events; there is nothing to hold once something is closed that is
  not held.
* `Leaves`: events that leave something behind, whatever is held around them. They compose:
  `Leaves.append`, `Leaves.around`, `leaves_flatMap`.
* `Nested`: events of which each closes the last one that is open, with a bound on how many are open
  at a time.
* `Brackets`: such events with a list of what may be open at a time, each of the list once.
  `Brackets.within` is what that means for every moment.
-/

namespace Handles

inductive Event (ρ : Type) where
  | opened (r : ρ)
  | closed (r : ρ)
deriving DecidableEq

variable {ρ : Type}

section Hold

variable [DecidableEq ρ]

/-- What is held after the events, the last one opened first. -/
def hold : List ρ → List (Event ρ) → Option (List ρ)
  | held, [] => some held
  | held, .opened r :: es => hold (r :: held) es
  | held, .closed r :: es => if r ∈ held then hold (held.erase r) es else none

theorem hold_append (held : List ρ) (es es' : List (Event ρ)) :
    hold held (es ++ es') = (hold held es).bind fun held => hold held es' := by
  induction es generalizing held with
  | nil => rfl
  | cons e es ih =>
    cases e with
    | opened r => exact ih (r :: held)
    | closed r =>
      rw [List.cons_append, hold, hold]
      split
      · exact ih (held.erase r)
      · rfl

/-- The events close nothing that was held before, and leave `left`. -/
def Leaves (es : List (Event ρ)) (left : List ρ) : Prop :=
  ∀ held, hold held es = some (left ++ held)

theorem leaves_nil : Leaves ([] : List (Event ρ)) [] := fun _ => rfl

variable {es es' : List (Event ρ)} {left left' : List ρ}

theorem Leaves.append (h : Leaves es left) (h' : Leaves es' left') :
    Leaves (es ++ es') (left' ++ left) := by
  intro held
  rw [hold_append, h held, Option.bind_some, h' (left ++ held), List.append_assoc]

/-- What is opened around the events is closed again, also if they leave something. -/
theorem Leaves.around (h : Leaves es left) {r : ρ} (hr : r ∉ left) :
    Leaves (.opened r :: (es ++ [.closed r])) left := by
  intro held
  have hmem : r ∈ left ++ r :: held := by simp
  have herase : (left ++ r :: held).erase r = left ++ held := by
    rw [List.erase_append_right _ hr, List.erase_cons_head]
  rw [hold, hold_append, h (r :: held), Option.bind_some, hold, if_pos hmem, herase, hold]

theorem leaves_flatMap {ι : Type} {f : ι → List (Event ρ)} {g : ι → List ρ}
    (h : ∀ c, Leaves (f c) (g c)) (cs : List ι) :
    Leaves (cs.flatMap f) (cs.reverse.flatMap g) := by
  induction cs with
  | nil => exact leaves_nil
  | cons c cs ih =>
    rw [List.flatMap_cons, List.reverse_cons, List.flatMap_append, List.flatMap_singleton]
    exact (h c).append ih

/-- Calls of which some leave one `r` each. -/
theorem leaves_flatMap_count {ι : Type} {f : ι → List (Event ρ)} {p : ι → Bool} {r : ρ}
    (h : ∀ c, Leaves (f c) (if p c then [r] else [])) (cs : List ι) :
    Leaves (cs.flatMap f) (List.replicate (cs.countP p) r) := by
  have hcount : cs.reverse.flatMap (fun c => if p c then [r] else []) =
      List.replicate (cs.countP p) r := by
    rw [← List.countP_reverse]
    induction cs.reverse with
    | nil => rfl
    | cons c cs ih =>
      rw [List.flatMap_cons, ih, List.countP_cons]
      cases p c with
      | false => rfl
      | true => rfl
  rw [← hcount]
  exact leaves_flatMap h cs

end Hold

/-- Everything is closed, the last one opened first, and at most `n` are open at a time. -/
inductive Nested : Nat → List (Event ρ) → Prop where
  | nil (n : Nat) : Nested n []
  | bracket {n : Nat} (r : ρ) {es es' : List (Event ρ)} (h : Nested n es) (h' : Nested (n + 1) es') :
    Nested (n + 1) (.opened r :: (es ++ .closed r :: es'))

section Nested

variable {n : Nat} {es es' : List (Event ρ)}

/-- The beginning of a concatenation. -/
theorem prefix_append_cases {α : Type} {pre l l' : List α} (h : pre <+: l ++ l') :
    pre <+: l ∨ ∃ rest, pre = l ++ rest ∧ rest <+: l' := by
  rcases List.prefix_or_prefix_of_prefix h (List.prefix_append l l') with hpre | ⟨rest, rfl⟩
  · exact .inl hpre
  · exact .inr ⟨rest, rfl, (List.prefix_append_right_inj l).mp h⟩

theorem Nested.append (h : Nested n es) (h' : Nested n es') : Nested n (es ++ es') := by
  induction h with
  | nil n => exact h'
  | bracket r h _ _ ih =>
    rw [List.cons_append, List.append_assoc, List.cons_append]
    exact .bracket r h (ih h')

theorem Nested.mono (h : Nested n es) {m : Nat} (hm : n ≤ m) : Nested m es := by
  induction h generalizing m with
  | nil n => exact .nil m
  | @bracket n r _ _ _ _ ih ih' =>
    obtain ⟨k, rfl⟩ : ∃ k, m = k + 1 := ⟨m - 1, by omega⟩
    exact .bracket r (ih (by omega)) (ih' hm)

theorem Nested.around (h : Nested n es) (r : ρ) :
    Nested (n + 1) (.opened r :: (es ++ [.closed r])) :=
  .bracket r h (.nil _)

theorem nested_flatMap {ι : Type} {f : ι → List (Event ρ)} {cs : List ι}
    (h : ∀ c ∈ cs, Nested n (f c)) : Nested n (cs.flatMap f) := by
  induction cs with
  | nil => exact .nil n
  | cons c cs ih =>
    rw [List.flatMap_cons]
    exact (h c (List.mem_cons_self ..)).append (ih fun c' hc => h c' (List.mem_cons_of_mem c hc))

variable [DecidableEq ρ]

theorem Nested.leaves (h : Nested n es) : Leaves es [] := by
  induction h with
  | nil n => exact leaves_nil
  | @bracket n r es es' _ _ ih ih' =>
    have hinner : Leaves (.opened r :: (es ++ [.closed r])) [] := ih.around List.not_mem_nil
    have hall := hinner.append ih'
    rwa [List.cons_append, List.append_assoc, List.singleton_append] at hall

/-- Calls that close everything but one `r` each, where they are not `Nested`. -/
theorem nested_flatMap_iff {ι : Type} {f : ι → List (Event ρ)} {p : ι → Bool} {r : ρ}
    (hleaves : ∀ c, Leaves (f c) (if p c then [r] else []))
    (hnested : ∀ c, p c = false → Nested n (f c)) (cs : List ι) :
    Nested n (cs.flatMap f) ↔ ∀ c ∈ cs, p c = false := by
  constructor
  · intro h
    have hnone : List.replicate (cs.countP p) r ++ [] = [] :=
      Option.some.inj ((leaves_flatMap_count hleaves cs []).symm.trans (h.leaves []))
    have hcount : cs.countP p = 0 := by simpa using hnone
    simpa [List.countP_eq_zero] using hcount
  · intro h
    exact nested_flatMap fun c hc => hnested c (h c hc)

end Nested

/-- Everything is closed, the last one opened first, and what is open at a time is opened in the order
of `rs`. -/
inductive Brackets : List ρ → List (Event ρ) → Prop where
  | nil (rs : List ρ) : Brackets rs []
  | bracket {rs inner : List ρ} {r : ρ} {es es' : List (Event ρ)} (hr : (r :: inner).Sublist rs)
      (h : Brackets inner es) (h' : Brackets rs es') :
      Brackets rs (.opened r :: (es ++ .closed r :: es'))

section Brackets

variable {rs rs' : List ρ} {es es' : List (Event ρ)}

theorem Brackets.append (h : Brackets rs es) (h' : Brackets rs es') : Brackets rs (es ++ es') := by
  induction h with
  | nil rs => exact h'
  | bracket hr h _ _ ih =>
    rw [List.cons_append, List.append_assoc, List.cons_append]
    exact .bracket hr h (ih h')

theorem Brackets.mono (h : Brackets rs es) (hrs : rs.Sublist rs') : Brackets rs' es := by
  induction h with
  | nil rs => exact .nil rs'
  | bracket hr h _ _ ih => exact .bracket (hr.trans hrs) h (ih hrs)

theorem Brackets.around (h : Brackets rs es) (r : ρ) :
    Brackets (r :: rs) (.opened r :: (es ++ [.closed r])) :=
  .bracket (List.Sublist.refl _) h (.nil _)

theorem brackets_flatMap {ι : Type} {f : ι → List (Event ρ)} {cs : List ι}
    (h : ∀ c ∈ cs, Brackets rs (f c)) : Brackets rs (cs.flatMap f) := by
  induction cs with
  | nil => exact .nil rs
  | cons c cs ih =>
    rw [List.flatMap_cons]
    exact (h c (List.mem_cons_self ..)).append (ih fun c' hc => h c' (List.mem_cons_of_mem c hc))

theorem Brackets.nested (h : Brackets rs es) : Nested rs.length es := by
  induction h with
  | nil rs => exact .nil _
  | @bracket rs inner r _ _ hr _ _ ih ih' =>
    have hlen := hr.length_le
    rw [List.length_cons] at hlen
    obtain ⟨n, hn⟩ : ∃ n, rs.length = n + 1 := ⟨rs.length - 1, by omega⟩
    rw [hn] at ih' ⊢
    exact .bracket r (ih.mono (by omega)) ih'

variable [DecidableEq ρ]

/-- At every moment what is open is a part of `rs`, and nothing else has been closed. -/
theorem Brackets.within (h : Brackets rs es) (held : List ρ) {pre : List (Event ρ)}
    (hpre : pre <+: es) :
    ∃ open', hold held pre = some (open' ++ held) ∧ open'.reverse.Sublist rs := by
  induction h generalizing held pre with
  | nil rs =>
    rw [List.prefix_nil.mp hpre]
    exact ⟨[], rfl, List.nil_sublist rs⟩
  | @bracket rs inner r es es' hr h h' ih ih' =>
    rcases List.prefix_cons_iff.mp hpre with rfl | ⟨pre, rfl, htail⟩
    · exact ⟨[], rfl, List.nil_sublist rs⟩
    · rw [hold]
      -- the moment is inside the bracket, just before its end, or behind it
      rcases prefix_append_cases htail with hinside | ⟨rest, rfl, hrest⟩
      · obtain ⟨open', hhold, hsub⟩ := ih (r :: held) hinside
        refine ⟨open' ++ [r], by rw [hhold, List.append_assoc]; rfl, ?_⟩
        rw [List.reverse_append]
        exact (hsub.cons_cons r).trans hr
      · rw [hold_append, h.nested.leaves (r :: held), Option.bind_some, List.nil_append]
        rcases List.prefix_cons_iff.mp hrest with rfl | ⟨rest, rfl, hbehind⟩
        · exact ⟨[r], rfl, ((List.nil_sublist inner).cons_cons r).trans hr⟩
        · rw [hold, if_pos (List.mem_cons_self ..), List.erase_cons_head]
          exact ih' held hbehind

end Brackets

end Handles
