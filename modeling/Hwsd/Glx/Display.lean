import Hwsd.Info.Gpu

/-!
# Hwsd.Glx.Display

Querying one X display (`gpu/glx/module.cpp`: `getGPUInfo_`, `queryDisplay_`). Xlib and the process
environment are what their calls say: `XOpenDisplay` gives a display or none for a name, and an
open display answers the queries of `XDisplay`.

`getGPUInfo_` reads the last but one character of two texts without looking at their length. A read
outside its text gives an arbitrary character (`Env.outside`), and every read is recorded
(`Access`), so that the bounds can be stated.

* `getGPUInfo_eq`: a query as one update of the record; `queriedFlags_spec`: which flags it sets.
* `beforeLast_inRange`: when the last but one character exists.
-/

namespace Hwsd
namespace Glx

open CxxStream

def FLAG_VIRTUALGL : UInt32 := 0x1
def FLAG_VIRTUALGL_DISPLAY : UInt32 := 0x2
def FLAG_VNC : UInt32 := 0x4
def FLAG_DEFAULT : UInt32 := 0x8

/-- An open `Display*`: `DisplayString`, `DefaultScreen`, `DisplayWidth`, `DisplayHeight`,
`XQueryExtension` and the `GLX_VENDOR` of the client, which may be null. -/
structure XDisplay where
  displayString : Text
  defaultScreen : Int32
  displayWidth : Int32 → Int32
  displayHeight : Int32 → Int32
  queryExtension : Text → Bool
  vendor : Option Text

/-- The character of `text` at `index`. -/
structure Access where
  text : Text
  index : Nat
deriving DecidableEq

def Access.InRange (a : Access) : Prop := a.index < a.text.length

instance (a : Access) : Decidable a.InRange := inferInstanceAs (Decidable (_ < _))

/-- What the module finds: the environment variables `DISPLAY` and `VGL_DISPLAY`, `XOpenDisplay`,
and what lies outside of texts. -/
structure Env where
  display : Option Text
  vglDisplay : Option Text
  openDisplay : Text → Option XDisplay
  outside : Access → Byte

def Env.read (env : Env) (a : Access) : Byte := (a.text[a.index]?).getD (env.outside a)

/-- `size - 2` for a `size_t`, which wraps around. -/
def sizeMinus2 (size : Nat) : Nat := if 2 ≤ size then size - 2 else UInt64.size - 2 + size

/-- `s[s.size() - 2]`. -/
def beforeLast (s : Text) : Access := ⟨s, sizeMinus2 s.length⟩

/-- Whether VirtualGL redirects to the display, and the characters that were read to tell. -/
def isVirtualGLDisplay (env : Env) (display : XDisplay) : Bool × List Access :=
  let vglDisplay := env.vglDisplay.getD (lit ":0")
  let vglAccess := beforeLast vglDisplay
  let vglHasScreen := env.read vglAccess == 46
  let xDisplay := display.displayString
  let xDisplayStr :=
    if xDisplay = lit ":0" ∧ vglHasScreen = true then
      xDisplay ++ lit "." ++ putInt display.defaultScreen
    else xDisplay
  let xAccess := beforeLast xDisplayStr
  let xHasScreen := env.read xAccess == 46
  let vglDisplay := if xHasScreen && !vglHasScreen then vglDisplay ++ lit ".0" else vglDisplay
  (vglDisplay == xDisplayStr, [vglAccess, xAccess])

structure Queried where
  ok : Bool
  info : GPUInfo
  accesses : List Access

/-- `getGPUInfo_`. -/
def getGPUInfo (env : Env) (display : Option XDisplay) (info : GPUInfo) : Queried :=
  match display with
  | none => ⟨false, info, []⟩
  | some display =>
    if !display.queryExtension (lit "GLX") then ⟨false, info, []⟩
    else
      let info :=
        match display.displayString.dropWhile (· != 58) with
        | [] => info
        | _ :: displayNumber =>
          { info with
            port := (atoi displayNumber).toUInt32, device := display.defaultScreen.toUInt32 }
      let info := { info with
        pvp := ⟨0, 0, display.displayWidth display.defaultScreen,
          display.displayHeight display.defaultScreen⟩ }
      let (info, accesses) :=
        if display.vendor = some (lit "VirtualGL") then
          let info := { info with flags := info.flags ||| FLAG_VIRTUALGL }
          let (redirected, accesses) := isVirtualGLDisplay env display
          if redirected then
            ({ info with flags := info.flags ||| FLAG_VIRTUALGL_DISPLAY }, accesses)
          else (info, accesses)
        else (info, [])
      let info :=
        if display.queryExtension (lit "VNC-EXTENSION") then
          { info with flags := info.flags ||| FLAG_VNC }
        else info
      ⟨true, info, accesses⟩

/-- `queryDisplay_`. -/
def queryDisplay (env : Env) (display : Text) (info : GPUInfo) : Bool × GPUInfo :=
  match env.openDisplay display with
  | none => (false, info)
  | some xDisplay =>
    if !xDisplay.queryExtension (lit "GLX") then (false, info)
    else (true, (getGPUInfo env (some xDisplay) info).info)

/-- The subtraction of a 64-bit `size_t`. -/
theorem sizeMinus2_eq {size : Nat} (h : size < UInt64.size) :
    sizeMinus2 size = (UInt64.ofNat size - 2).toNat := by
  rw [UInt64.toNat_sub, UInt64.toNat_ofNat_of_lt' h]
  simp only [sizeMinus2, UInt64.size, UInt64.toNat_ofNat] at h ⊢
  split <;> omega

theorem beforeLast_inRange {s : Text} : (beforeLast s).InRange ↔ 2 ≤ s.length := by
  rw [Access.InRange, beforeLast]
  simp only [sizeMinus2, UInt64.size]
  split <;> omega

/-! ## What a query does -/

section

variable {env : Env} {display : XDisplay} (info : GPUInfo)

/-- The flags that a query sets. -/
def queriedFlags (env : Env) (display : XDisplay) : UInt32 :=
  (if display.vendor = some (lit "VirtualGL") then
    FLAG_VIRTUALGL |||
      (if (isVirtualGLDisplay env display).1 then FLAG_VIRTUALGL_DISPLAY else 0)
  else 0) |||
  (if display.queryExtension (lit "VNC-EXTENSION") then FLAG_VNC else 0)

theorem queriedFlags_spec (env : Env) (display : XDisplay) :
    (queriedFlags env display &&& FLAG_VIRTUALGL ≠ 0 ↔
        display.vendor = some (lit "VirtualGL")) ∧
      (queriedFlags env display &&& FLAG_VIRTUALGL_DISPLAY ≠ 0 ↔
        display.vendor = some (lit "VirtualGL") ∧ (isVirtualGLDisplay env display).1 = true) ∧
      (queriedFlags env display &&& FLAG_VNC ≠ 0 ↔
        display.queryExtension (lit "VNC-EXTENSION") = true) ∧
      queriedFlags env display &&& FLAG_DEFAULT = 0 := by
  rw [queriedFlags]
  by_cases hv : display.vendor = some (lit "VirtualGL") <;>
    cases (isVirtualGLDisplay env display).1 <;>
    cases display.queryExtension (lit "VNC-EXTENSION") <;>
    simp [hv] <;> decide

/-- Of a flag that was clear before a query, the query decides. -/
theorem or_and_mask {flags queried mask : UInt32} (h : flags &&& mask = 0) :
    (flags ||| queried) &&& mask = queried &&& mask := by
  rw [← UInt32.toNat_inj] at h ⊢
  simp only [UInt32.toNat_and, UInt32.toNat_or, UInt32.toNat_zero] at h ⊢
  rw [Nat.and_or_distrib_right, h, Nat.zero_or]

/-- The port that a query reads from the name of the display. -/
def queriedPort (display : XDisplay) (port : UInt32) : UInt32 :=
  match display.displayString.dropWhile (· != 58) with
  | [] => port
  | _ :: displayNumber => (atoi displayNumber).toUInt32

theorem getGPUInfo_eq (h : display.queryExtension (lit "GLX") = true) :
    getGPUInfo env (some display) info =
      { ok := true
        info := { info with
          port := queriedPort display info.port
          device :=
            if display.displayString.dropWhile (· != 58) = [] then info.device
            else display.defaultScreen.toUInt32
          pvp := ⟨0, 0, display.displayWidth display.defaultScreen,
            display.displayHeight display.defaultScreen⟩
          flags := info.flags ||| queriedFlags env display }
        accesses :=
          if display.vendor = some (lit "VirtualGL") then (isVirtualGLDisplay env display).2
          else [] } := by
  simp only [getGPUInfo, h, Bool.not_true, Bool.false_eq_true, if_false, queriedPort, queriedFlags]
  cases display.displayString.dropWhile (· != 58) <;>
    by_cases hv : display.vendor = some (lit "VirtualGL") <;>
    cases (isVirtualGLDisplay env display).1 <;>
    cases display.queryExtension (lit "VNC-EXTENSION") <;>
    simp [hv, UInt32.or_assoc]

theorem queryDisplay_eq (env : Env) (name : Text) :
    queryDisplay env name info =
      match (env.openDisplay name).filter fun x => x.queryExtension (lit "GLX") with
      | some x => (true, (getGPUInfo env (some x) info).info)
      | none => (false, info) := by
  rw [queryDisplay]
  cases env.openDisplay name with
  | none => rfl
  | some x => cases hx : x.queryExtension (lit "GLX") <;> simp [Option.filter, hx]

end

end Glx
end Hwsd
