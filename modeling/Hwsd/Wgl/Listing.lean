import Hwsd.Wgl.Module

/-!
# Hwsd.Wgl.Listing

What the discovery on Windows finds, whichever of its ways it takes.

* `mem_discover`: the records, one by one. `eq_of_mem_discover`: none of them has the type and the
  device of another one, unless it is the same.
* `discover_shown`: what there is to find is `Listed`, and all of it is found.
-/

namespace Hwsd

open CxxStream Probe

namespace Wgl

/-- The type, the device and the viewport of a record. -/
def shown (info : GPUInfo) : UInt32 × UInt32 × Pvp := (info.type, info.device, info.pvp)

/-- The viewport of a GPU with a device. -/
def GpuDevice.pvp (gpuDevice : GpuDevice) : Pvp :=
  if gpuDevice.Flags &&& DISPLAY_DEVICE_ATTACHED_TO_DESKTOP ≠ 0 then gpuDevice.rcVirtualScreen.pvp
  else noDesktop

/-- What there is to find: the GPUs of the driver up to the first without a device, or else the
monitors, in order, and the GPUs that are known by an id. -/
def Listed {γ : Type} (env : Env γ) (type device : UInt32) (pvp : Pvp) : Prop :=
  env.initGLFuncs = true ∧
    match env.affinity with
    | some driver => type = typeCode (lit "WGLn") ∧ (∀ d < device, driver.firstDevice d ≠ none) ∧
        ∃ gpuDevice, driver.firstDevice device = some gpuDevice ∧ pvp = gpuDevice.pvp
    | none =>
      (type = typeCode (lit "WGL") ∧ ∃ rcMonitor,
        (env.monitors.filterMap id)[device.toNat]? = some rcMonitor ∧ pvp = rcMonitor.pvp) ∨
      type = typeCode (lit "WGLa") ∧ pvp = noDesktop ∧ ∃ numGPUs gpuIDs,
        env.wglGetGPUIDsAMD = some (numGPUs, gpuIDs) ∧ ∃ i, i.val < numGPUs.toNat ∧ gpuIDs i = device

section

variable {γ : Type} {localNodeID : UInt128} {driver : Affinity γ} {env : Env γ} {fuel : Nat}
  {infos : List GPUInfo}

/-- The loop over the GPUs ends before the index wraps around. -/
theorem affinityDiscover_eq_some (h : affinityDiscover localNodeID driver fuel [] = some infos) :
    ∃ k, k < UInt32.size ∧
      FirstMissing (fun d => answer localNodeID driver (UInt32.ofNat d)) 0 k ∧
      infos = (List.range k).filterMap fun d => answer localNodeID driver (UInt32.ofNat d) := by
  have hloop : affinityDiscover localNodeID driver fuel [] =
      probeAll (fun d => answer localNodeID driver (UInt32.ofNat d)) fuel 0 [] :=
    affinityLoop_eq fuel 0 []
  rw [hloop] at h
  obtain ⟨k, _, hk, rfl⟩ := probeAll_eq_some.mp h
  refine ⟨k, ?_, hk, by rw [List.nil_append, List.range_eq_range']⟩
  by_contra hsize
  have hnone : answer localNodeID driver (UInt32.ofNat k) = none := by simpa using hk.2
  have hmod : UInt32.ofNat (k % UInt32.size) = UInt32.ofNat k := UInt32.ofNat_mod_size
  have hlt : k % UInt32.size < UInt32.size := Nat.mod_lt _ (by decide)
  rw [← hmod] at hnone
  refine hk.1 (k % UInt32.size) (by omega) ?_
  rwa [Nat.zero_add]

theorem mem_affinityDiscover (h : affinityDiscover localNodeID driver fuel [] = some infos)
    {info : GPUInfo} : info ∈ infos ↔ ∃ device gpuDevice, (∀ d < device, driver.firstDevice d ≠ none) ∧
      driver.firstDevice device = some gpuDevice ∧ info = affinityInfo localNodeID device gpuDevice := by
  obtain ⟨k, hsize, ⟨hsome, hnone⟩, rfl⟩ := affinityDiscover_eq_some h
  simp only [Nat.zero_add] at hsome hnone
  have hsome' : ∀ i, i < k → driver.firstDevice (UInt32.ofNat i) ≠ none := fun i hi hi' =>
    hsome i hi (answer_eq_none.mpr hi')
  rw [List.mem_filterMap]
  constructor
  · rintro ⟨i, hi, hanswer⟩
    obtain ⟨gpuDevice, hdevice, rfl⟩ := Option.map_eq_some_iff.mp hanswer
    have hik := List.mem_range.mp hi
    refine ⟨UInt32.ofNat i, gpuDevice, fun d hd => ?_, hdevice, rfl⟩
    have hlt := UInt32.lt_iff_toNat_lt.mp hd
    rw [UInt32.toNat_ofNat_of_lt' (by omega)] at hlt
    have hd' := hsome' d.toNat (by omega)
    rwa [UInt32.ofNat_toNat] at hd'
  · rintro ⟨device, gpuDevice, hbefore, hdevice, rfl⟩
    have hlt : device.toNat < k := by
      by_contra hle
      rcases Nat.lt_or_eq_of_le (Nat.not_lt.mp hle) with hlt | heq
      · refine hbefore (UInt32.ofNat k) ?_ (answer_eq_none.mp hnone)
        rwa [UInt32.lt_iff_toNat_lt, UInt32.toNat_ofNat_of_lt' hsize]
      · rw [heq, UInt32.ofNat_toNat, answer_eq_none, hdevice] at hnone
        cases hnone
    refine ⟨device.toNat, List.mem_range.mpr hlt, ?_⟩
    rw [UInt32.ofNat_toNat, answer, hdevice]
    rfl

/-- The record of a monitor. -/
def monitorInfo (localNodeID : UInt128) (device : UInt32) (rcMonitor : Rect) : GPUInfo :=
  { GPUInfo.ofName localNodeID (lit "WGL") with device := device, pvp := rcMonitor.pvp }

/-- The record of a GPU that is known by an id. -/
def idInfo (localNodeID : UInt128) (device : UInt32) : GPUInfo :=
  { GPUInfo.ofName localNodeID (lit "WGLa") with device := device, pvp := noDesktop }

theorem mem_displayDiscover (monitors : List (Option Rect))
    (hfew : (displayDiscover localNodeID monitors []).length < UInt32.size) {info : GPUInfo} :
    info ∈ displayDiscover localNodeID monitors [] ↔ ∃ device rcMonitor,
      (monitors.filterMap id)[device.toNat]? = some rcMonitor ∧
        info = monitorInfo localNodeID device rcMonitor := by
  rw [displayDiscover_eq, List.length_mapIdx] at hfew
  rw [displayDiscover_eq, List.mem_mapIdx]
  constructor
  · rintro ⟨i, hi, rfl⟩
    refine ⟨UInt32.ofNat i, (monitors.filterMap id)[i], ?_, rfl⟩
    rw [UInt32.toNat_ofNat_of_lt' (by omega)]
    exact List.getElem?_eq_getElem hi
  · rintro ⟨device, rcMonitor, hmonitor, rfl⟩
    obtain ⟨hi, rfl⟩ := List.getElem?_eq_some_iff.mp hmonitor
    exact ⟨device.toNat, hi, by rw [UInt32.ofNat_toNat]; rfl⟩

theorem mem_associationDiscover {numGPUs : UInt32} {gpuIDs : Fin maxGPUs → UInt32}
    {result : List GPUInfo} (h : associationDiscover localNodeID numGPUs gpuIDs result = some infos)
    {info : GPUInfo} : info ∈ infos ↔
      info ∈ result ∨ ∃ i, i.val < numGPUs.toNat ∧ info = idInfo localNodeID (gpuIDs i) := by
  rw [associationDiscover_eq] at h
  split at h
  · rename_i hmax
    obtain rfl := Option.some.inj h
    rw [List.mem_append, List.mem_map]
    refine or_congr_right ⟨?_, ?_⟩
    · rintro ⟨device, hdevice, rfl⟩
      obtain ⟨i, hi, hread⟩ := List.mem_filterMap.mp hdevice
      have hlt : i < numGPUs.toNat := List.mem_range.mp hi
      have hid : readID gpuIDs i = some (gpuIDs ⟨i, by omega⟩) :=
        readID_val gpuIDs ⟨i, by omega⟩
      rw [hid, Option.some.injEq] at hread
      exact ⟨⟨i, by omega⟩, hlt, by rw [← hread]; rfl⟩
    · rintro ⟨i, hi, rfl⟩
      exact ⟨gpuIDs i, List.mem_filterMap.mpr ⟨i, List.mem_range.mpr hi, readID_val gpuIDs i⟩, rfl⟩
  · cases h

theorem length_of_associationDiscover {numGPUs : UInt32} {gpuIDs : Fin maxGPUs → UInt32}
    {result : List GPUInfo}
    (h : associationDiscover localNodeID numGPUs gpuIDs result = some infos) :
    result.length ≤ infos.length := by
  rw [associationDiscover_eq] at h
  split at h
  · obtain rfl := Option.some.inj h
    rw [List.length_append]
    omega
  · cases h

/-- The records, one by one. -/
theorem mem_discover (h : discover localNodeID env fuel = some infos)
    (hfew : infos.length < UInt32.size) {info : GPUInfo} :
    info ∈ infos ↔ env.initGLFuncs = true ∧
      match env.affinity with
      | some driver => ∃ device gpuDevice, (∀ d < device, driver.firstDevice d ≠ none) ∧
          driver.firstDevice device = some gpuDevice ∧
            info = affinityInfo localNodeID device gpuDevice
      | none => (∃ device rcMonitor, (env.monitors.filterMap id)[device.toNat]? = some rcMonitor ∧
          info = monitorInfo localNodeID device rcMonitor) ∨
          ∃ numGPUs gpuIDs, env.wglGetGPUIDsAMD = some (numGPUs, gpuIDs) ∧
            ∃ i, i.val < numGPUs.toNat ∧ info = idInfo localNodeID (gpuIDs i) := by
  unfold discover at h
  cases hinit : env.initGLFuncs with
  | false =>
    obtain rfl : [] = infos := by simpa [hinit] using h
    simp
  | true =>
    simp only [hinit, Bool.not_true, Bool.false_eq_true, if_false] at h
    cases haffinity : env.affinity with
    | some driver =>
      simp only [haffinity] at h
      simpa using mem_affinityDiscover h
    | none =>
      simp only [haffinity] at h
      cases hids : env.wglGetGPUIDsAMD with
      | none =>
        simp only [hids, Option.some.injEq] at h
        subst h
        simpa using mem_displayDiscover env.monitors hfew
      | some ids =>
        obtain ⟨numGPUs, gpuIDs⟩ := ids
        simp only [hids] at h
        have hmonitors : (displayDiscover localNodeID env.monitors []).length < UInt32.size :=
          Nat.lt_of_le_of_lt (length_of_associationDiscover h) hfew
        rw [mem_associationDiscover h, mem_displayDiscover env.monitors hmonitors]
        simp

/-- The type and the device of a record tell it. -/
theorem eq_of_mem_discover (h : discover localNodeID env fuel = some infos)
    (hfew : infos.length < UInt32.size) {a b : GPUInfo} (ha : a ∈ infos) (hb : b ∈ infos)
    (htype : a.type = b.type) (hdevice : a.device = b.device) : a = b := by
  rw [mem_discover h hfew] at ha hb
  have hne : typeCode (lit "WGL") ≠ typeCode (lit "WGLa") := by decide
  cases haffinity : env.affinity with
  | some driver =>
    rw [haffinity] at ha hb
    obtain ⟨_, d, gpuDevice, _, hd, rfl⟩ := ha
    obtain ⟨_, e, gpuDevice', _, he, rfl⟩ := hb
    obtain rfl : d = e := hdevice
    rw [hd] at he
    rw [Option.some.inj he]
  | none =>
    rw [haffinity] at ha hb
    rcases ha with ⟨_, ⟨d, rc, hd, rfl⟩ | ⟨_, _, _, i, _, rfl⟩⟩
    · rcases hb with ⟨_, ⟨e, rc', he, rfl⟩ | ⟨_, _, _, j, _, rfl⟩⟩
      · obtain rfl : d = e := hdevice
        rw [hd] at he
        rw [Option.some.inj he]
      · exact absurd htype hne
    · rcases hb with ⟨_, ⟨e, rc', he, rfl⟩ | ⟨_, _, _, j, _, rfl⟩⟩
      · exact absurd htype.symm hne
      · exact congrArg (idInfo localNodeID) hdevice

theorem discover_shown (h : discover localNodeID env fuel = some infos)
    (hfew : infos.length < UInt32.size) (type device : UInt32) (pvp : Pvp) :
    (type, device, pvp) ∈ infos.map shown ↔ Listed env type device pvp := by
  rw [List.mem_map, Listed]
  simp only [mem_discover h hfew, shown, Prod.mk.injEq]
  cases haffinity : env.affinity with
  | some driver =>
    constructor
    · rintro ⟨_, ⟨hinit, d, gpuDevice, hbefore, hd, rfl⟩, rfl, rfl, rfl⟩
      exact ⟨hinit, rfl, hbefore, gpuDevice, hd, rfl⟩
    · rintro ⟨hinit, rfl, hbefore, gpuDevice, hd, rfl⟩
      exact ⟨_, ⟨hinit, device, gpuDevice, hbefore, hd, rfl⟩, rfl, rfl, rfl⟩
  | none =>
    constructor
    · rintro ⟨_, ⟨hinit, ⟨d, rc, hd, rfl⟩ | ⟨n, ids, hids, i, hi, rfl⟩⟩, rfl, rfl, rfl⟩
      · exact ⟨hinit, .inl ⟨rfl, rc, hd, rfl⟩⟩
      · exact ⟨hinit, .inr ⟨rfl, rfl, n, ids, hids, i, hi, rfl⟩⟩
    · rintro ⟨hinit, ⟨rfl, rc, hd, rfl⟩ | ⟨rfl, rfl, n, ids, hids, i, hi, rfl⟩⟩
      · exact ⟨_, ⟨hinit, .inl ⟨device, rc, hd, rfl⟩⟩, rfl, rfl, rfl⟩
      · exact ⟨_, ⟨hinit, .inr ⟨n, ids, hids, i, hi, rfl⟩⟩, rfl, rfl, rfl⟩

end

end Wgl

end Hwsd
