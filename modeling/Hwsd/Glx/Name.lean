import Hwsd.Glx.Display

/-!
# Hwsd.Glx.Name

Names of X displays, `[host]:D` or `[host]:D.S`, and the port that `getGPUInfo_` reads from one. It
looks for the first colon, so a host that holds a colon itself, as an IPv6 address does, is cut.

* `port_iff`: the port is the display number exactly for the hosts without a colon and those whose
  text behind their first colon happens to begin with that number.
-/

namespace Hwsd
namespace Glx

open CxxStream

/-- `host:number` or `host:number.screen`. -/
def displayName (host number : Text) (screen : Option Text) : Text :=
  host ++ lit ":" ++ number ++
    match screen with
    | none => []
    | some screen => lit "." ++ screen

/-- A decimal number that an `int` can hold. -/
def IsInt (t : Text) : Prop := IsNumber t ∧ readNat t < 2147483648

instance (t : Text) : Decidable (IsInt t) := inferInstanceAs (Decidable (_ ∧ _))

/-- What stands behind the first colon. -/
def afterColon (t : Text) : Text := (t.dropWhile (· != 58)).tail

theorem dropWhile_colon {h r : Text} (hh : 58 ∉ h) :
    (h ++ 58 :: r).dropWhile (· != 58) = 58 :: r := by
  rw [List.dropWhile_append_of_pos]
  · simp
  · intro c hc
    rw [bne_iff_ne]
    rintro rfl
    exact hh hc

theorem displayName_eq (host number : Text) (screen : Option Text) :
    displayName host number screen =
      host ++ 58 :: (number ++ (screen.map (46 :: ·)).getD []) := by
  have hcolon : lit ":" = [58] := by decide
  have hdot : lit "." = [46] := by decide
  cases screen <;> simp [displayName, hcolon, hdot]

/-- What stands behind the number does not begin with a digit. -/
theorem screen_head (screen : Option Text) :
    ∀ c ∈ ((screen.map (46 :: ·)).getD [] : Text).head?, isDigit c = false := by
  cases screen with
  | none => simp
  | some t => simp [isDigit]

section Port

variable {display : XDisplay} {host number : Text} {screen : Option Text}
  (h : display.displayString = displayName host number screen)

include h

theorem queriedPort_eq (port : UInt32) :
    queriedPort display port =
      if 58 ∈ host then (atoi (afterColon host)).toUInt32
      else (atoi (number ++ (screen.map (46 :: ·)).getD [])).toUInt32 := by
  rw [queriedPort, h, displayName_eq]
  by_cases hmem : 58 ∈ host
  · obtain ⟨h₁, h₂, rfl, hh⟩ := List.eq_append_cons_of_mem hmem
    rw [if_pos hmem, afterColon, dropWhile_colon hh, List.append_assoc, List.cons_append,
      dropWhile_colon hh]
    simp only [List.tail_cons]
    rw [atoi_append (by decide) (by decide) (by decide) (by decide)]
  · rw [if_neg hmem, dropWhile_colon hmem]

theorem toNat_queriedPort_iff (hn : IsInt number) (port : UInt32) :
    (queriedPort display port).toNat = readNat number ↔
      58 ∉ host ∨ (atoi (afterColon host)).toInt = readNat number := by
  rw [queriedPort_eq h]
  split
  · rename_i hmem
    rw [toNat_toUInt32_eq_iff hn.2]
    simp [hmem]
  · rename_i hmem
    rw [toNat_toUInt32_eq_iff hn.2, atoi_number hn.1 (screen_head screen) hn.2]
    simp [hmem]

end Port

/-- The port of a queried GPU is the display number exactly if the host has no colon, or what
follows its first colon is read as the same number. -/
theorem port_iff (env : Env) (display : XDisplay) (info : GPUInfo) (host number : Text)
    (screen : Option Text) (hname : display.displayString = displayName host number screen)
    (hn : IsInt number) (hglx : display.queryExtension (lit "GLX") = true) :
    (getGPUInfo env (some display) info).info.port.toNat = readNat number ↔
      58 ∉ host ∨ (atoi (afterColon host)).toInt = readNat number := by
  rw [getGPUInfo_eq info hglx]
  exact toNat_queriedPort_iff hname hn info.port

/-- A display of a server that offers GLX only, for the name `name`. -/
def plainDisplay (name : Text) : XDisplay where
  displayString := name
  defaultScreen := 0
  displayWidth := fun _ => 1920
  displayHeight := fun _ => 1200
  queryExtension := fun extension => extension = lit "GLX"
  vendor := some (lit "SGI")

/-- An environment without variables and servers. -/
def emptyEnv : Env := ⟨none, none, fun _ => none, fun _ => 0⟩

theorem port_iff_remote :
    let queried := getGPUInfo emptyEnv (some (plainDisplay (lit "node1:2.1")))
      (GPUInfo.ofName 7 (lit "GLX"))
    queried.info.port.toNat = readNat (lit "2") ↔
      58 ∉ lit "node1" ∨ (atoi (afterColon (lit "node1"))).toInt = readNat (lit "2") :=
  port_iff emptyEnv (plainDisplay (lit "node1:2.1")) (GPUInfo.ofName 7 (lit "GLX")) (lit "node1")
    (lit "2") (some (lit "1")) (by decide) (by decide) (by decide)

/-- Display 1 of the IPv6 host `::1` is reported with port 0. -/
theorem port_ipv6 :
    let queried := getGPUInfo emptyEnv
      (some (plainDisplay (displayName (lit "::1") (lit "1") none))) (GPUInfo.ofName 7 (lit "GLX"))
    queried.info.port.toNat ≠ readNat (lit "1") := by
  decide

end Glx
end Hwsd
