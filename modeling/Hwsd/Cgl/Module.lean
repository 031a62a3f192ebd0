import Mathlib.Data.List.Basic
import Hwsd.Info.Gpu

/-!
# Hwsd.Cgl.Module

The discovery of the local GPUs on an Apple system without an X server (`gpu/cgl/module.cpp`): one
record for the main display, with its place among the online displays.

* `discover_eq`: there is a record exactly if the main display is among the first online displays.
-/

namespace Hwsd
namespace Cgl

open CxxStream

def MAX_GPUS : Nat := 32

/-- What the system answers: the online displays, if it lists them, the main display, and the bounds
of a display as integers. -/
structure Env where
  onlineDisplays : Option (List UInt32)
  mainDisplayID : UInt32
  displayBounds : UInt32 → Pvp

section

variable (localNodeID : UInt128) (env : Env)

def displayInfo (i : Nat) (display : UInt32) : GPUInfo :=
  { GPUInfo.ofName localNodeID (lit "CGL") with
    device := UInt32.ofNat i, pvp := env.displayBounds display }

/-- The loop over the displays from `i` on. -/
def scan : Nat → List UInt32 → List GPUInfo
  | _, [] => []
  | i, display :: displays =>
    if display ≠ env.mainDisplayID then scan (i + 1) displays
    else [displayInfo localNodeID env i display]

/-- `Module::discover`; the array holds `MAX_GPUS` displays. -/
def discover : List GPUInfo :=
  match env.onlineDisplays with
  | none => []
  | some displayIDs => scan localNodeID env 0 (displayIDs.take MAX_GPUS)

variable {localNodeID env}

theorem scan_eq (displays : List UInt32) (i : Nat) : scan localNodeID env i displays =
    if env.mainDisplayID ∈ displays then
      [displayInfo localNodeID env (i + displays.idxOf env.mainDisplayID) env.mainDisplayID]
    else [] := by
  induction displays generalizing i with
  | nil => rfl
  | cons display displays ih =>
    rw [scan]
    by_cases hmain : display = env.mainDisplayID
    · simp [hmain]
    · have hother : env.mainDisplayID ≠ display := Ne.symm hmain
      rw [if_pos hmain, ih, List.idxOf_cons_ne _ hmain]
      simp [hother, Nat.add_assoc, Nat.add_comm 1]

theorem discover_eq : discover localNodeID env =
    let displays := (env.onlineDisplays.getD []).take MAX_GPUS
    if env.mainDisplayID ∈ displays then
      [displayInfo localNodeID env (displays.idxOf env.mainDisplayID) env.mainDisplayID]
    else [] := by
  unfold discover
  cases env.onlineDisplays with
  | none => simp
  | some displays => simp only [scan_eq, Option.getD_some, Nat.zero_add]

end

end Cgl
end Hwsd
