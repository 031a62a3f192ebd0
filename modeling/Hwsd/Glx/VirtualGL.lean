import Mathlib.Data.List.Basic
import Hwsd.Glx.Name

/-!
# Hwsd.Glx.VirtualGL

The test for the display to which VirtualGL redirects. It compares two names as texts, after adding
a screen to one of them; whether a name has a screen is taken from its last but one character, where
a dot stands only before a screen of one digit.

* `accesses_inRange_iff`: the test reads inside its texts exactly if both have two characters.
* `redirected_of_short`, `redirected_of_not_short`: which names are taken for the same, by the screen
  of `VGL_DISPLAY`.
* `redirect_iff`: the flag is right for all names but a display without screen, other than `:0`, and
  its screen 0.
-/

namespace Hwsd
namespace Glx

open CxxStream

/-! ## Bounds -/

/-- The name of the display, with the screen that the test may add. -/
def xDisplayStr (env : Env) (display : XDisplay) : Text :=
  if display.displayString = lit ":0" ∧
      env.read (beforeLast (env.vglDisplay.getD (lit ":0"))) = 46 then
    display.displayString ++ lit "." ++ putInt display.defaultScreen
  else display.displayString

theorem isVirtualGLDisplay_snd (env : Env) (display : XDisplay) :
    (isVirtualGLDisplay env display).2 =
      [beforeLast (env.vglDisplay.getD (lit ":0")), beforeLast (xDisplayStr env display)] := by
  simp only [isVirtualGLDisplay, xDisplayStr, beq_iff_eq]

theorem two_le_length_xDisplayStr (env : Env) (display : XDisplay) :
    2 ≤ (xDisplayStr env display).length ↔ 2 ≤ display.displayString.length := by
  rw [xDisplayStr]
  split
  · rename_i h
    have hlen : display.displayString.length = 2 := by
      rw [h.1]
      decide
    simp only [List.length_append, hlen]
    omega
  · rfl

/-- All characters that are read to detect VirtualGL lie inside their texts exactly if, under
VirtualGL, the two names have at least two characters each. -/
theorem accesses_inRange_iff (env : Env) (display : XDisplay) (info : GPUInfo) :
    (∀ a ∈ (getGPUInfo env (some display) info).accesses, a.InRange) ↔
      (display.queryExtension (lit "GLX") = true → display.vendor = some (lit "VirtualGL") →
        2 ≤ (env.vglDisplay.getD (lit ":0")).length ∧ 2 ≤ display.displayString.length) := by
  cases hglx : display.queryExtension (lit "GLX") with
  | false => simp [getGPUInfo, hglx]
  | true =>
    rw [getGPUInfo_eq info hglx]
    by_cases hv : display.vendor = some (lit "VirtualGL")
    · simp only [hv, if_true, isVirtualGLDisplay_snd, List.forall_mem_cons, beforeLast_inRange,
        two_le_length_xDisplayStr]
      simp
    · simp [hv]

/-- An empty `VGL_DISPLAY`. -/
theorem accesses_empty :
    let display := { plainDisplay (lit ":0") with vendor := some (lit "VirtualGL") }
    let env := { emptyEnv with vglDisplay := some [] }
    ¬ ∀ a ∈ (getGPUInfo env (some display) (GPUInfo.ofName 7 (lit "GLX"))).accesses,
      a.InRange := by
  decide

/-! ## Names -/

/-- The parts of a name, with numbers of any length. -/
structure Name where
  host : Text
  number : Nat
  screen : Option Nat
deriving DecidableEq

namespace Name

def text (n : Name) : Text := displayName n.host (putNat n.number) (n.screen.map putNat)

/-- `:0`, which `VGL_DISPLAY` means when it is not set. -/
def default : Name := ⟨[], 0, none⟩

/-- The same screen of the same display; a name without screen means screen 0. -/
def Same (a b : Name) : Prop :=
  a.host = b.host ∧ a.number = b.number ∧ a.screen.getD 0 = b.screen.getD 0

/-- A screen that is written with one digit. -/
def Short (n : Name) : Prop := ∃ s, n.screen = some s ∧ (putNat s).length = 1

theorem text_eq (n : Name) :
    n.text = n.host ++ 58 :: (putNat n.number ++ (n.screen.map fun s => 46 :: putNat s).getD []) := by
  rw [text, displayName_eq, Option.map_map]
  rfl

theorem putNat_ne_append (m : Nat) (l r : Text) : putNat m ≠ l ++ 46 :: r := by
  intro h
  have hdot : isDigit 46 = true := isDigit_putNat (n := m) (by rw [h]; simp)
  simp [isDigit] at hdot

/-- Two texts with a colon are cut apart at the first one. -/
theorem colon_inj {h h' r r' : Text} (hh : 58 ∉ h) (hh' : 58 ∉ h')
    (heq : h ++ 58 :: r = h' ++ 58 :: r') : h = h' ∧ r = r' := by
  have hr : (58 :: r : Text) = 58 :: r' := by rw [← dropWhile_colon hh, heq, dropWhile_colon hh']
  rw [hr] at heq
  exact ⟨List.append_cancel_right heq, (List.cons.inj hr).2⟩

theorem text_inj {a b : Name} (ha : 58 ∉ a.host) (hb : 58 ∉ b.host) : a.text = b.text ↔ a = b := by
  refine ⟨fun h => ?_, congrArg text⟩
  rw [text_eq, text_eq] at h
  obtain ⟨hhost, hrest⟩ := colon_inj ha hb h
  obtain ⟨host, m, s⟩ := a
  obtain ⟨host', m', s'⟩ := b
  cases s with
  | none =>
    cases s' with
    | none =>
      have hm : m = m' := putNat_injective (by simpa using hrest)
      simp only at hhost
      rw [hhost, hm]
    | some t' => exact absurd (by simpa using hrest) (putNat_ne_append m _ _)
  | some t =>
    cases s' with
    | none => exact absurd (by simpa using hrest.symm) (putNat_ne_append m' _ _)
    | some t' =>
      obtain ⟨hm, ht⟩ := putNat_append_inj (c := 46) (by decide) hrest
      simp only at hhost hm
      rw [hhost, hm, putNat_injective ht]

/-- A second screen makes no name. -/
theorem text_append_ne {a b : Name} (ha : 58 ∉ a.host) (hb : 58 ∉ b.host) {s : Nat}
    (hs : b.screen = some s) : b.text ++ lit ".0" ≠ a.text := by
  have hlit : lit ".0" = [46, 48] := by decide
  rw [text_eq, text_eq, hs, hlit, List.append_assoc, List.cons_append]
  intro h
  obtain ⟨_, hrest⟩ := colon_inj hb ha h
  cases hscreen : a.screen with
  | none =>
    rw [hscreen] at hrest
    exact putNat_ne_append a.number _ _ (by simpa using hrest.symm)
  | some t =>
    rw [hscreen] at hrest
    simp only [Option.map_some, Option.getD_some, List.append_assoc, List.cons_append] at hrest
    obtain ⟨_, ht⟩ := putNat_append_inj (c := 46) (by decide) hrest
    exact putNat_ne_append t _ _ ht.symm

theorem text_append_zero {n : Name} (h : n.screen = none) :
    n.text ++ lit ".0" = { n with screen := some 0 }.text := by
  have hlit : lit ".0" = 46 :: putNat 0 := by decide
  rw [text_eq, text_eq, h, hlit]
  simp

theorem text_eq_default {n : Name} (hn : 58 ∉ n.host) : n.text = lit ":0" ↔ n = default := by
  have hdefault : default.text = lit ":0" := by decide
  rw [← hdefault, text_inj hn (by decide)]

/-! ### The same screen -/

theorem short_zero {n : Name} (h : n.screen = some 0) : n.Short := ⟨0, h, by decide⟩

theorem same_of_screen {x vgl : Name} {s t : Nat} (hx : x.screen = some s)
    (hvgl : vgl.screen = some t) : x.Same vgl ↔ vgl = x := by
  obtain ⟨host, m, _⟩ := x
  obtain ⟨host', m', _⟩ := vgl
  simp only at hx hvgl
  subst hx hvgl
  simp only [Same, Option.getD_some, mk.injEq, Option.some.injEq]
  constructor
  · rintro ⟨rfl, rfl, rfl⟩
    simp
  · rintro ⟨rfl, rfl, rfl⟩
    simp

theorem same_zero {x vgl : Name} (hx : x.screen = none) :
    x.Same vgl ↔ vgl = x ∨ vgl = { x with screen := some 0 } := by
  obtain ⟨host, m, _⟩ := x
  obtain ⟨host', m', t⟩ := vgl
  simp only at hx
  subst hx
  simp only [Same, Option.getD_none, mk.injEq]
  constructor
  · rintro ⟨rfl, rfl, ht⟩
    cases t with
    | none => simp
    | some t => exact .inr ⟨rfl, rfl, by rw [ht]; rfl⟩
  · rintro (⟨rfl, rfl, rfl⟩ | ⟨rfl, rfl, rfl⟩)
    · simp
    · simp

theorem Same.symm {a b : Name} (h : a.Same b) : b.Same a := ⟨h.1.symm, h.2.1.symm, h.2.2.symm⟩

end Name

/-! ## The screen test -/

section Test

variable (env : Env)

theorem read_beforeLast (l : Text) (a b : Byte) : env.read (beforeLast (l ++ [a, b])) = a := by
  have hindex : sizeMinus2 (l ++ [a, b]).length = l.length := by
    rw [sizeMinus2, List.length_append, if_pos (by simp)]
    simp
  rw [Env.read, beforeLast, hindex]
  simp

/-- Before the last digit of a number stands what precedes the number, or another digit. -/
theorem read_number (l : Text) {c : Byte} {t : Text} (ht : IsNumber t) :
    env.read (beforeLast (l ++ c :: t)) = 46 ↔ c = 46 ∧ t.length = 1 := by
  obtain ⟨hne, hdigit⟩ := ht
  rcases List.eq_nil_or_concat' t with rfl | ⟨t, b, rfl⟩
  · exact absurd rfl hne
  · rcases List.eq_nil_or_concat' t with rfl | ⟨t, a, rfl⟩
    · rw [List.nil_append, read_beforeLast]
      simp
    · have ha : isDigit a = true := hdigit a (by simp)
      have hsplit : l ++ c :: (t ++ [a] ++ [b]) = (l ++ c :: t) ++ [a, b] := by simp
      rw [hsplit, read_beforeLast]
      constructor
      · rintro rfl
        simp [isDigit] at ha
      · rintro ⟨_, hlen⟩
        simp at hlen

theorem read_text (n : Name) : env.read (beforeLast n.text) = 46 ↔ n.Short := by
  rw [Name.text_eq, Name.Short]
  cases hs : n.screen with
  | none =>
    rw [Option.map_none, Option.getD_none, List.append_nil, read_number env _ (isNumber_putNat _)]
    simp
  | some s =>
    rw [Option.map_some, Option.getD_some, ← List.cons_append, ← List.append_assoc,
      read_number env _ (isNumber_putNat s)]
    simp

end Test

/-! ## The comparison -/

section Redirect

variable {env : Env} {display : XDisplay} {x vgl : Name}

theorem putInt_zero {z : Int32} (h : z.toInt = 0) : putInt z = lit "0" := by
  rw [putInt, h]
  decide

theorem flag_iff {info : GPUInfo} (hglx : display.queryExtension (lit "GLX") = true)
    (hvendor : display.vendor = some (lit "VirtualGL"))
    (hflags : info.flags &&& FLAG_VIRTUALGL_DISPLAY = 0) :
    (getGPUInfo env (some display) info).info.flags &&& FLAG_VIRTUALGL_DISPLAY ≠ 0 ↔
      (isVirtualGLDisplay env display).1 = true := by
  rw [getGPUInfo_eq info hglx]
  simp only
  rw [or_and_mask hflags, (queriedFlags_spec env display).2.1]
  simp [hvendor]

variable (hx : 58 ∉ x.host) (hvgl : 58 ∉ vgl.host) (hname : display.displayString = x.text)
  (hscreen : x.screen = none → display.defaultScreen.toInt = 0)
  (henv : env.vglDisplay.getD (lit ":0") = vgl.text)

include henv

theorem isVirtualGLDisplay_fst : (isVirtualGLDisplay env display).1 = true ↔
    (if env.read (beforeLast (xDisplayStr env display)) = 46 ∧ env.read (beforeLast vgl.text) ≠ 46
      then vgl.text ++ lit ".0" else vgl.text) = xDisplayStr env display := by
  simp only [isVirtualGLDisplay, xDisplayStr, henv, beq_iff_eq, Bool.and_eq_true, Bool.not_eq_true',
    beq_eq_false_iff_ne]

include hname

theorem xDisplayStr_of_not_short (hshort : ¬ vgl.Short) : xDisplayStr env display = x.text := by
  have hread : env.read (beforeLast vgl.text) ≠ 46 := mt (read_text env vgl).mp hshort
  rw [xDisplayStr, henv, if_neg fun h => hread h.2, hname]

include hx hscreen

/-- A screen is added to `:0` only. -/
theorem xDisplayStr_of_short (hshort : vgl.Short) : xDisplayStr env display =
    (if x = Name.default then { x with screen := some 0 } else x : Name).text := by
  have hread : env.read (beforeLast vgl.text) = 46 := (read_text env vgl).mpr hshort
  by_cases hd : x = Name.default
  · have hnone : x.screen = none := by rw [hd]; rfl
    have hzero : putInt display.defaultScreen = lit "0" := putInt_zero (hscreen hnone)
    rw [xDisplayStr, henv, hname, if_pos ⟨(Name.text_eq_default hx).mpr hd, hread⟩, if_pos hd, hzero,
      ← Name.text_append_zero hnone, List.append_assoc]
    rfl
  · rw [xDisplayStr, henv, hname, if_neg fun h => hd ((Name.text_eq_default hx).mp h.1), if_neg hd]

include hvgl

theorem redirected_of_short (hshort : vgl.Short) : (isVirtualGLDisplay env display).1 = true ↔
    vgl = if x = Name.default then { x with screen := some 0 } else x := by
  have hread : env.read (beforeLast vgl.text) = 46 := (read_text env vgl).mpr hshort
  have hhost : 58 ∉ (if x = Name.default then { x with screen := some 0 } else x : Name).host := by
    split <;> exact hx
  rw [isVirtualGLDisplay_fst henv, if_neg fun h => h.2 hread,
    xDisplayStr_of_short hx hname hscreen henv hshort, Name.text_inj hvgl hhost]

omit hscreen

theorem redirected_of_not_short (hshort : ¬ vgl.Short) :
    (isVirtualGLDisplay env display).1 = true ↔
      x.Short ∧ vgl.screen = none ∧ { vgl with screen := some 0 } = x ∨ ¬ x.Short ∧ vgl = x := by
  have hread : env.read (beforeLast vgl.text) ≠ 46 := mt (read_text env vgl).mp hshort
  rw [isVirtualGLDisplay_fst henv, xDisplayStr_of_not_short hname henv hshort]
  by_cases hxs : x.Short
  · rw [if_pos ⟨(read_text env x).mpr hxs, hread⟩]
    cases hs : vgl.screen with
    | none =>
      rw [Name.text_append_zero hs, Name.text_inj (by exact hvgl) hx]
      simp [hxs]
    | some s => simp [hxs, Name.text_append_ne hx hvgl hs]
  · rw [if_neg fun h => hxs ((read_text env x).mp h.1), Name.text_inj hvgl hx]
    simp [hxs]

end Redirect

/-- A name without screen other than `:0`, and the name of its screen 0. -/
def Missed (x vgl : Name) : Prop :=
  x.screen = none ∧ x ≠ Name.default ∧ vgl = { x with screen := some 0 }

section Missed

variable {x vgl : Name}

theorem missed_iff_of_short (hshort : vgl.Short) :
    ((vgl = if x = Name.default then { x with screen := some 0 } else x) ↔ x.Same vgl) ↔
      ¬ Missed x vgl := by
  obtain ⟨t, ht, _⟩ := hshort
  cases hs : x.screen with
  | some s =>
    have hd : x ≠ Name.default := by rintro rfl; cases hs
    rw [if_neg hd, Name.same_of_screen hs ht]
    simp [Missed, hs]
  | none =>
    -- the name in `VGL_DISPLAY` has a screen
    have hne : vgl ≠ x := by rintro rfl; rw [hs] at ht; cases ht
    rw [Name.same_zero hs]
    by_cases hd : x = Name.default
    · rw [if_pos hd]
      simp [Missed, hd, hd ▸ hne]
    · rw [if_neg hd]
      simp [Missed, hd, hs, hne]

theorem same_iff_of_not_short (hshort : ¬ vgl.Short) :
    (x.Short ∧ vgl.screen = none ∧ { vgl with screen := some 0 } = x ∨ ¬ x.Short ∧ vgl = x) ↔
      x.Same vgl := by
  cases ht : vgl.screen with
  | none =>
    rw [show x.Same vgl ↔ vgl.Same x from ⟨Name.Same.symm, Name.Same.symm⟩, Name.same_zero ht]
    constructor
    · rintro (⟨_, _, h⟩ | ⟨_, h⟩)
      · exact .inr h.symm
      · exact .inl h.symm
    · rintro (rfl | h)
      · exact .inr ⟨hshort, rfl⟩
      · exact .inl ⟨Name.short_zero (by rw [h]), rfl, h.symm⟩
  | some t =>
    cases hs : x.screen with
    | some s =>
      rw [Name.same_of_screen hs ht]
      constructor
      · rintro (⟨_, h, _⟩ | ⟨_, h⟩)
        · cases h
        · exact h
      · intro h
        exact .inr ⟨h ▸ hshort, h⟩
    | none =>
      have hne : vgl ≠ x := by rintro rfl; rw [hs] at ht; cases ht
      have hzero : vgl ≠ { x with screen := some 0 } := by
        intro h
        exact hshort (Name.short_zero (by rw [h]))
      rw [Name.same_zero hs]
      simp [hne, hzero]

end Missed

/-- The flag of the display that VirtualGL redirects to is right unless the display has a name
without screen, other than `:0`, and `VGL_DISPLAY` is that name with screen 0. The default screen is
that of the name. -/
theorem redirect_iff (env : Env) (display : XDisplay) (info : GPUInfo) (x vgl : Name)
    (hx : 58 ∉ x.host) (hvgl : 58 ∉ vgl.host) (hname : display.displayString = x.text)
    (hscreen : x.screen = none → display.defaultScreen.toInt = 0)
    (henv : env.vglDisplay = none ∧ vgl = Name.default ∨ env.vglDisplay = some vgl.text)
    (hglx : display.queryExtension (lit "GLX") = true)
    (hvendor : display.vendor = some (lit "VirtualGL"))
    (hflags : info.flags &&& FLAG_VIRTUALGL_DISPLAY = 0) :
    ((getGPUInfo env (some display) info).info.flags &&& FLAG_VIRTUALGL_DISPLAY ≠ 0 ↔
        x.Same vgl) ↔
      ¬ Missed x vgl := by
  have htext : env.vglDisplay.getD (lit ":0") = vgl.text := by
    rcases henv with ⟨h, rfl⟩ | h
    · rw [h]
      decide
    · rw [h, Option.getD_some]
  rw [flag_iff hglx hvendor hflags]
  by_cases hshort : vgl.Short
  · rw [redirected_of_short hx hvgl hname hscreen htext hshort]
    exact missed_iff_of_short hshort
  · rw [redirected_of_not_short hx hvgl hname htext hshort, same_iff_of_not_short hshort]
    have hmissed : ¬ Missed x vgl := by
      rintro ⟨_, _, h⟩
      exact hshort (Name.short_zero (by rw [h]))
    simp [hmissed]

/-- The screen 0 of a server on another machine. -/
theorem redirect_iff_remote :
    let display := { plainDisplay (lit "node1:0.0") with vendor := some (lit "VirtualGL") }
    let env := { emptyEnv with vglDisplay := some (lit "node1:0") }
    ((getGPUInfo env (some display) (GPUInfo.ofName 7 (lit "GLX"))).info.flags &&&
          FLAG_VIRTUALGL_DISPLAY ≠ 0 ↔
        (⟨lit "node1", 0, some 0⟩ : Name).Same ⟨lit "node1", 0, none⟩) ↔
      ¬ Missed ⟨lit "node1", 0, some 0⟩ ⟨lit "node1", 0, none⟩ :=
  redirect_iff { emptyEnv with vglDisplay := some (lit "node1:0") }
    { plainDisplay (lit "node1:0.0") with vendor := some (lit "VirtualGL") }
    (GPUInfo.ofName 7 (lit "GLX")) ⟨lit "node1", 0, some 0⟩ ⟨lit "node1", 0, none⟩
    (by decide) (by decide) (by decide) (by decide) (.inr (by decide)) (by decide) rfl (by decide)

/-- `:1` and `:1.0` are the same screen. -/
theorem redirect_missed :
    let display := { plainDisplay (⟨[], 1, none⟩ : Name).text with
      vendor := some (lit "VirtualGL") }
    let env := { emptyEnv with vglDisplay := some (⟨[], 1, some 0⟩ : Name).text }
    (⟨[], 1, none⟩ : Name).Same ⟨[], 1, some 0⟩ ∧
      (getGPUInfo env (some display) (GPUInfo.ofName 7 (lit "GLX"))).info.flags &&&
        FLAG_VIRTUALGL_DISPLAY = 0 := by
  exact ⟨⟨rfl, rfl, rfl⟩, by decide⟩

end Glx
end Hwsd
