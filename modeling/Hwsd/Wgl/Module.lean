import Mathlib.Data.List.Induction
import Hwsd.Lib.Probe
import Hwsd.Info.Gpu

/-!
# Hwsd.Wgl.Module

The discovery of the local GPUs on Windows (`gpu/wgl/module.cpp`). With `WGL_NV_gpu_affinity` the
driver is asked for one GPU after the other, and each GPU for its first display device; otherwise
there are the monitors, and with `WGL_AMD_gpu_association` the GPUs that are known by an id.

* `affinityDiscover`: the first loop. It stops at the end of the GPUs, and also at a GPU without a
  device.
* `affinityDiscover_iff`: all GPUs with a device are found exactly if no GPU without one comes before
  one of them. `usable` says what is to be found.
* `associationDiscover_eq`: the last loop returns if the driver knows no more GPUs than the array of
  ids holds.
* `displayDiscover_eq`: a monitor without information hides no other one.
-/

namespace Hwsd
namespace Wgl

open CxxStream Probe

structure Rect where
  left : Int32
  top : Int32
  right : Int32
  bottom : Int32

/-- What the loop reads of a `GPU_DEVICE`. -/
structure GpuDevice where
  Flags : UInt32
  rcVirtualScreen : Rect

def DISPLAY_DEVICE_ATTACHED_TO_DESKTOP : UInt32 := 0x1

/-- `wglEnumGpusNV` and `wglEnumGpuDevicesNV`, with the handles in between. -/
structure Affinity (γ : Type) where
  wglEnumGpusNV : UInt32 → Option γ
  wglEnumGpuDevicesNV : γ → UInt32 → Option GpuDevice

/-- The length of the array `gpuIDs`. -/
def maxGPUs : Nat := 32

/-- What the system answers during one call: a monitor without information is `none`, and the second
component of `wglGetGPUIDsAMD` is the array after the function has returned the first one. -/
structure Env (γ : Type) where
  initGLFuncs : Bool
  affinity : Option (Affinity γ)
  monitors : List (Option Rect)
  wglGetGPUIDsAMD : Option (UInt32 × (Fin maxGPUs → UInt32))

/-- The viewport of a rectangle. -/
def Rect.pvp (rect : Rect) : Pvp :=
  ⟨rect.left, rect.top, rect.right - rect.left, rect.bottom - rect.top⟩

/-- The viewport of a GPU without a desktop. -/
def noDesktop : Pvp := ⟨0, 0, 8192, 8192⟩

section

variable {γ : Type} (localNodeID : UInt128)

def affinityInfo (device : UInt32) (gpuDevice : GpuDevice) : GPUInfo :=
  { GPUInfo.ofName localNodeID (lit "WGLn") with
    device := device
    pvp :=
      if gpuDevice.Flags &&& DISPLAY_DEVICE_ATTACHED_TO_DESKTOP ≠ 0 then
        gpuDevice.rcVirtualScreen.pvp
      else noDesktop }

/-- The loop of `_affinityDiscover` from a device on. -/
def affinityLoop (driver : Affinity γ) : Nat → UInt32 → List GPUInfo → Option (List GPUInfo)
  | 0, _, _ => none
  | fuel + 1, device, result =>
    match driver.wglEnumGpusNV device with
    | none => some result
    | some hGPU =>
      match driver.wglEnumGpuDevicesNV hGPU 0 with
      | none => some result
      | some gpuDevice =>
        affinityLoop driver fuel (device + 1) (result ++ [affinityInfo localNodeID device gpuDevice])

def affinityDiscover (driver : Affinity γ) (fuel : Nat) (result : List GPUInfo) :
    Option (List GPUInfo) :=
  affinityLoop localNodeID driver fuel 0 result

/-- `gpuIDs[device]`; behind the end of the array there is nothing to be read. -/
def readID (gpuIDs : Fin maxGPUs → UInt32) (device : Nat) : Option UInt32 :=
  if h : device < maxGPUs then some (gpuIDs ⟨device, h⟩) else none

/-- `_associationDiscover`; it has no result if the loop reads behind the end of the array. -/
def associationDiscover (numGPUs : UInt32) (gpuIDs : Fin maxGPUs → UInt32)
    (result : List GPUInfo) : Option (List GPUInfo) :=
  (List.range numGPUs.toNat).foldlM (fun result device =>
    (readID gpuIDs device).map fun id =>
      result ++ [{ GPUInfo.ofName localNodeID (lit "WGLa") with device := id, pvp := noDesktop }])
    result

/-- `EnumDispProc`. -/
def enumDispProc (result : List GPUInfo) : Option Rect → List GPUInfo
  | none => result
  | some rcMonitor =>
    result ++ [{ GPUInfo.ofName localNodeID (lit "WGL") with
      device := UInt32.ofNat result.length, pvp := rcMonitor.pvp }]

def displayDiscover (monitors : List (Option Rect)) (result : List GPUInfo) : List GPUInfo :=
  monitors.foldl (enumDispProc localNodeID) result

/-- `Module::discover`; a loop that goes on for ever or reads behind the end of `gpuIDs` has no
result. -/
def discover (env : Env γ) (fuel : Nat) : Option (List GPUInfo) :=
  if !env.initGLFuncs then some []
  else
    match env.affinity with
    | some driver => affinityDiscover localNodeID driver fuel []
    | none =>
      let result := displayDiscover localNodeID env.monitors []
      match env.wglGetGPUIDsAMD with
      | some (numGPUs, gpuIDs) => associationDiscover localNodeID numGPUs gpuIDs result
      | none => some result

/-! ## The GPUs with a device -/

/-- The display device at index 0 of a GPU, if there are such a GPU and such a device. -/
def Affinity.firstDevice (driver : Affinity γ) (device : UInt32) : Option GpuDevice :=
  (driver.wglEnumGpusNV device).bind fun hGPU => driver.wglEnumGpuDevicesNV hGPU 0

/-- The record of a GPU with a device: its index, and the rectangle of the desktop if it drives one. -/
def deviceInfo (device : UInt32) (gpuDevice : GpuDevice) : GPUInfo where
  id := localNodeID
  nodeName := []
  session := lit "local"
  type := typeCode (lit "WGLn")
  port := 0
  device := device
  pvp :=
    let rect := gpuDevice.rcVirtualScreen
    if gpuDevice.Flags &&& DISPLAY_DEVICE_ATTACHED_TO_DESKTOP = 0 then ⟨0, 0, 8192, 8192⟩
    else ⟨rect.left, rect.top, rect.right - rect.left, rect.bottom - rect.top⟩
  flags := 0

/-- The records of the GPUs below `n` that have a device; a `UINT` tells no more GPUs apart. -/
def usable (driver : Affinity γ) (n : Nat) : List GPUInfo :=
  (List.range (min n UInt32.size)).filterMap fun d =>
    (driver.firstDevice (UInt32.ofNat d)).map (deviceInfo localNodeID (UInt32.ofNat d))

def answer (driver : Affinity γ) (device : UInt32) : Option GPUInfo :=
  (driver.firstDevice device).map (affinityInfo localNodeID device)

theorem affinityInfo_eq (device : UInt32) (gpuDevice : GpuDevice) :
    affinityInfo localNodeID device gpuDevice = deviceInfo localNodeID device gpuDevice := by
  unfold affinityInfo deviceInfo
  by_cases h : gpuDevice.Flags &&& DISPLAY_DEVICE_ATTACHED_TO_DESKTOP = 0
  · rw [if_neg (not_not.mpr h), if_pos h]
    rfl
  · rw [if_pos h, if_neg h]
    rfl

theorem usable_eq (driver : Affinity γ) (n : Nat) : usable localNodeID driver n =
    (List.range (min n UInt32.size)).filterMap fun d =>
      answer localNodeID driver (UInt32.ofNat d) := by
  refine List.filterMap_congr fun d _ => ?_
  rw [answer, ← funext (affinityInfo_eq localNodeID (UInt32.ofNat d))]

variable {localNodeID} {driver : Affinity γ}

/-- Both exits of the loop are a missing answer. -/
theorem affinityLoop_succ (fuel : Nat) (device : UInt32) (result : List GPUInfo) :
    affinityLoop localNodeID driver (fuel + 1) device result =
      match answer localNodeID driver device with
      | none => some result
      | some info => affinityLoop localNodeID driver fuel (device + 1) (result ++ [info]) := by
  rw [affinityLoop, answer, Affinity.firstDevice]
  cases driver.wglEnumGpusNV device with
  | none => rfl
  | some hGPU =>
    simp only [Option.bind_some]
    cases driver.wglEnumGpuDevicesNV hGPU 0 with
    | none => rfl
    | some gpuDevice => rfl

theorem affinityLoop_eq (fuel j : Nat) (result : List GPUInfo) :
    affinityLoop localNodeID driver fuel (UInt32.ofNat j) result =
      probeAll (fun d => answer localNodeID driver (UInt32.ofNat d)) fuel j result := by
  induction fuel generalizing j result with
  | zero => rfl
  | succ fuel ih =>
    have hnext : UInt32.ofNat j + 1 = UInt32.ofNat (j + 1) := by
      rw [UInt32.ofNat_add]
      rfl
    rw [affinityLoop_succ, probeAll, hnext]
    cases answer localNodeID driver (UInt32.ofNat j) with
    | none => rfl
    | some info => exact ih (j + 1) (result ++ [info])

theorem answer_eq_none {device : UInt32} :
    answer localNodeID driver device = none ↔ driver.firstDevice device = none := by
  rw [answer, Option.map_eq_none_iff]

/-- There is no GPU behind the last one. -/
theorem firstDevice_end {n : Nat}
    (hn : ∀ d, (driver.wglEnumGpusNV d).isSome = true ↔ d.toNat < n) (hlt : n < UInt32.size) :
    driver.firstDevice (UInt32.ofNat n) = none := by
  have hnone : driver.wglEnumGpusNV (UInt32.ofNat n) = none := by
    rw [← Option.not_isSome_iff_eq_none, hn, UInt32.toNat_ofNat_of_lt' hlt]
    omega
  rw [Affinity.firstDevice, hnone, Option.bind_none]

/-- If an answer is missing, one is missing up to the end of the GPUs. -/
theorem exists_answer_eq_none {n : Nat}
    (hn : ∀ d, (driver.wglEnumGpusNV d).isSome = true ↔ d.toNat < n) (k : Nat)
    (hk : answer localNodeID driver (UInt32.ofNat k) = none) :
    ∃ i, i ≤ min n UInt32.size ∧ answer localNodeID driver (UInt32.ofNat i) = none := by
  by_cases hlt : n < UInt32.size
  · exact ⟨n, by omega, answer_eq_none.mpr (firstDevice_end hn hlt)⟩
  · have hmod : UInt32.ofNat (k % UInt32.size) = UInt32.ofNat k := UInt32.ofNat_mod_size
    have hbound : k % UInt32.size < UInt32.size := Nat.mod_lt _ (by decide)
    exact ⟨k % UInt32.size, by omega, by rw [hmod, hk]⟩

/-- Positions below `n` are indices below `n`. -/
theorem firstDevice_later_iff {n : Nat} :
    (∀ i j, i < j → j < min n UInt32.size → driver.firstDevice (UInt32.ofNat i) = none →
      driver.firstDevice (UInt32.ofNat j) = none) ↔
    ∀ d e : UInt32, d < e → e.toNat < n → driver.firstDevice d = none →
      driver.firstDevice e = none := by
  constructor
  · intro hlater d e hde he hd
    have hsize : e.toNat < UInt32.size := e.toNat_lt
    have hlt : d.toNat < e.toNat := UInt32.lt_iff_toNat_lt.mp hde
    have hnone := hlater d.toNat e.toNat hlt (by omega) (by rw [UInt32.ofNat_toNat, hd])
    rwa [UInt32.ofNat_toNat] at hnone
  · intro hlater i j hij hj hi
    have hjs : j < UInt32.size := by omega
    have his : i < UInt32.size := by omega
    have hjn : (UInt32.ofNat j).toNat = j := UInt32.toNat_ofNat_of_lt' hjs
    have hin : (UInt32.ofNat i).toNat = i := UInt32.toNat_ofNat_of_lt' his
    refine hlater (UInt32.ofNat i) (UInt32.ofNat j) ?_ (by omega) hi
    rw [UInt32.lt_iff_toNat_lt, hin, hjn]
    exact hij

end

/-- The affinity discovery appends a record for each GPU with a device, in order, exactly if no GPU
without a device comes before one with a device; with as many GPUs as a `UINT` has values, the loop
ends only at one without a device. -/
theorem affinityDiscover_iff {γ : Type} (localNodeID : UInt128) (driver : Affinity γ) (n : Nat)
    (hn : ∀ d, (driver.wglEnumGpusNV d).isSome = true ↔ d.toNat < n) (result : List GPUInfo) :
    (∃ fuel, affinityDiscover localNodeID driver fuel result =
      some (result ++ usable localNodeID driver n)) ↔
    (∀ d e : UInt32, d < e → e.toNat < n → driver.firstDevice d = none →
      driver.firstDevice e = none) ∧ (n < UInt32.size ∨ ∃ d, driver.firstDevice d = none) := by
  have hloop : ∀ fuel, affinityDiscover localNodeID driver fuel result =
      probeAll (fun d => answer localNodeID driver (UInt32.ofNat d)) fuel 0 result :=
    fun fuel => affinityLoop_eq fuel 0 result
  simp only [hloop, usable_eq]
  rw [exists_probeAll_iff (exists_answer_eq_none hn), and_comm]
  simp only [answer_eq_none]
  refine and_congr firstDevice_later_iff ⟨?_, ?_⟩
  · rintro ⟨k, hk⟩
    exact .inr ⟨UInt32.ofNat k, hk⟩
  · rintro (hlt | ⟨d, hd⟩)
    · exact ⟨n, firstDevice_end hn hlt⟩
    · exact ⟨d.toNat, by rw [UInt32.ofNat_toNat, hd]⟩

/-- Two GPUs with a device each. -/
theorem affinityDiscover_iff_two :
    let driver : Affinity UInt32 :=
      ⟨fun d => if d < 2 then some d else none, fun _ _ => some ⟨0, ⟨0, 0, 0, 0⟩⟩⟩
    (∃ fuel, affinityDiscover 7 driver fuel [] = some ([] ++ usable 7 driver 2)) ↔
      (∀ d e : UInt32, d < e → e.toNat < 2 → driver.firstDevice d = none →
        driver.firstDevice e = none) ∧ (2 < UInt32.size ∨ ∃ d, driver.firstDevice d = none) := by
  intro driver
  refine affinityDiscover_iff 7 driver 2 (fun d => ?_) []
  show (if d < 2 then some d else none).isSome = true ↔ d.toNat < 2
  have hd : d < 2 ↔ d.toNat < 2 := UInt32.lt_iff_toNat_lt
  by_cases h : d < 2
  · simp [h, hd.mp h]
  · simp [h, mt hd.mpr h]

/-- A GPU without a device hides the next one, which drives the desktop. -/
theorem affinityDiscover_hidden :
    let driver : Affinity UInt32 :=
      ⟨fun d => if d < 2 then some d else none, fun hGPU _ =>
        if hGPU = 1 then some ⟨DISPLAY_DEVICE_ATTACHED_TO_DESKTOP, ⟨0, 0, 1920, 1080⟩⟩ else none⟩
    ∀ fuel, affinityDiscover 7 driver fuel [] ≠ some ([] ++ usable 7 driver 2) := by
  intro driver fuel
  have hone : usable 7 driver 2 ≠ [] := by decide
  cases fuel with
  | zero =>
    intro h
    cases h
  | succ fuel =>
    intro h
    exact hone (Option.some.inj h).symm

/-! ## Monitors and ids -/

/-- The monitors with information are numbered in order. -/
theorem displayDiscover_eq (localNodeID : UInt128) (monitors : List (Option Rect)) :
    displayDiscover localNodeID monitors [] =
      (monitors.filterMap id).mapIdx fun i rcMonitor =>
        { GPUInfo.ofName localNodeID (lit "WGL") with
          device := UInt32.ofNat i, pvp := rcMonitor.pvp } := by
  rw [displayDiscover]
  induction monitors using List.reverseRecOn with
  | nil => rfl
  | append_singleton monitors monitor ih =>
    rw [List.foldl_append, ih, List.filterMap_append, List.foldl_cons, List.foldl_nil]
    cases monitor with
    | none => simp [enumDispProc]
    | some rcMonitor => simp [enumDispProc]

theorem readID_val (gpuIDs : Fin maxGPUs → UInt32) (i : Fin maxGPUs) :
    readID gpuIDs i = some (gpuIDs i) :=
  dif_pos i.isLt

/-- The ids up to `numGPUs` are appended in order, if the array holds as many. -/
theorem associationDiscover_eq (localNodeID : UInt128) (numGPUs : UInt32)
    (gpuIDs : Fin maxGPUs → UInt32) (result : List GPUInfo) :
    associationDiscover localNodeID numGPUs gpuIDs result =
      if numGPUs.toNat ≤ maxGPUs then
        some (result ++ ((List.range numGPUs.toNat).filterMap (readID gpuIDs)).map fun id =>
          { GPUInfo.ofName localNodeID (lit "WGLa") with device := id, pvp := noDesktop })
      else none := by
  rw [associationDiscover]
  -- the loop up to `n`, by induction on `n`: from the first missing entry on it has no result
  induction numGPUs.toNat with
  | zero => simp
  | succ n ih =>
    rw [List.range_succ, List.foldlM_append, ih]
    by_cases hn : n < maxGPUs
    · have hread : readID gpuIDs n = some (gpuIDs ⟨n, hn⟩) := readID_val gpuIDs ⟨n, hn⟩
      rw [if_pos (Nat.le_of_lt hn), if_pos (Nat.succ_le_of_lt hn)]
      simp [hread]
    · have hread : readID gpuIDs n = none := dif_neg hn
      rw [if_neg (by omega : ¬ n + 1 ≤ maxGPUs)]
      split <;> simp [hread]

end Wgl
end Hwsd
