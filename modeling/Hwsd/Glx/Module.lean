import Hwsd.Lib.Probe
import Hwsd.Glx.Name

/-!
# Hwsd.Glx.Module

The discovery of the local GPUs (`Module::discover`, `gpu/glx/module.cpp`, not on an Apple system):
first the display of the environment variable `DISPLAY`, then all screens of the servers `:0` to
`:9`. A record that equals the one of `DISPLAY` is not added again, and records are equal whatever
their flags are.

`discoverFrom` keeps with each record the name of the display it was queried from.

* `flags_iff`: the VirtualGL and VNC flags of all records are those of their servers exactly if the
  server of `DISPLAY` has neither, since the flags of its record are overwritten.
-/

namespace Hwsd
namespace Glx

open CxxStream Probe

def TRY_PORTS : Nat := 10

def screenName (i j : Nat) : Text := lit ":" ++ putNat i ++ lit "." ++ putNat j

/-- The screens of one server, from screen `j` on. -/
def scanScreens (env : Env) (localNodeID : UInt128) (defaultInfo : GPUInfo) (i : Nat) :
    Nat → Nat → List (Text × GPUInfo)
  | 0, _ => []
  | fuel + 1, j =>
    let (found, info) :=
      queryDisplay env (screenName i j) (GPUInfo.ofName localNodeID (lit "GLX"))
    if found then
      let rest := scanScreens env localNodeID defaultInfo i fuel (j + 1)
      if info != defaultInfo then (screenName i j, info) :: rest else rest
    else []

/-- The record of `DISPLAY`, and the default record to which those of the screens are compared. -/
def discoverDefault (env : Env) (localNodeID : UInt128) : List (Text × GPUInfo) × GPUInfo :=
  let defaultInfo := GPUInfo.ofName localNodeID (lit "GLX")
  match env.display with
  | none => ([], defaultInfo)
  | some display =>
    if display = [] then ([], defaultInfo)
    else
      let (found, defaultInfo) := queryDisplay env display defaultInfo
      if found then
        let defaultInfo := { defaultInfo with flags := FLAG_DEFAULT }
        ([(display, defaultInfo)], defaultInfo)
      else ([], defaultInfo)

/-- The number of a screen is below the largest `unsigned`. -/
def discoverFrom (env : Env) (localNodeID : UInt128) : List (Text × GPUInfo) :=
  let (result, defaultInfo) := discoverDefault env localNodeID
  result ++ (List.range TRY_PORTS).flatMap fun i =>
    scanScreens env localNodeID defaultInfo i (UInt32.size - 1) 0

def discover (env : Env) (localNodeID : UInt128) : List GPUInfo :=
  (discoverFrom env localNodeID).map Prod.snd

section

variable {env : Env} {localNodeID : UInt128}

/-- A display that can be opened and has GLX. -/
def Env.openGlx (env : Env) (name : Text) : Option XDisplay :=
  (env.openDisplay name).filter fun x => x.queryExtension (lit "GLX")

theorem openGlx_eq_some {name : Text} {x : XDisplay} : env.openGlx name = some x ↔
    env.openDisplay name = some x ∧ x.queryExtension (lit "GLX") = true := by
  rw [Env.openGlx, Option.filter_eq_some_iff]

/-- The record that a query of `x` makes. -/
def recordOf (env : Env) (localNodeID : UInt128) (x : XDisplay) : GPUInfo :=
  (getGPUInfo env (some x) (GPUInfo.ofName localNodeID (lit "GLX"))).info

theorem queryDisplay_openGlx (name : Text) :
    queryDisplay env name (GPUInfo.ofName localNodeID (lit "GLX")) =
      match env.openGlx name with
      | some x => (true, recordOf env localNodeID x)
      | none => (false, GPUInfo.ofName localNodeID (lit "GLX")) :=
  queryDisplay_eq (GPUInfo.ofName localNodeID (lit "GLX")) env name

/-- The answer of screen `j` of server `i`. -/
def screenAnswer (env : Env) (localNodeID : UInt128) (i j : Nat) : Option (Text × GPUInfo) :=
  (env.openGlx (screenName i j)).map fun x => (screenName i j, recordOf env localNodeID x)

theorem scanScreens_eq (defaultInfo : GPUInfo) (i fuel j : Nat) :
    scanScreens env localNodeID defaultInfo i fuel j =
      (probe (screenAnswer env localNodeID i) fuel j).filter fun p => p.2 != defaultInfo := by
  induction fuel generalizing j with
  | zero => rfl
  | succ fuel ih =>
    rw [scanScreens, probe, queryDisplay_openGlx, screenAnswer]
    cases env.openGlx (screenName i j) with
    | none => rfl
    | some x =>
      simp only [Option.map_some, if_true]
      rw [ih, List.filter_cons]

/-- The display that `DISPLAY` names, if it can be opened. -/
def Env.defaultDisplay (env : Env) : Option (Text × XDisplay) :=
  env.display.bind fun name => if name = [] then none else (env.openGlx name).map (name, ·)

theorem defaultDisplay_eq_some {name : Text} {x : XDisplay} :
    env.defaultDisplay = some (name, x) ↔
      env.display = some name ∧ name ≠ [] ∧ env.openDisplay name = some x ∧
        x.queryExtension (lit "GLX") = true := by
  rw [Env.defaultDisplay, Option.bind_eq_some_iff, ← openGlx_eq_some]
  constructor
  · rintro ⟨n, hd, h⟩
    split at h
    · cases h
    · rename_i hne
      obtain ⟨_, hx, heq⟩ := Option.map_eq_some_iff.mp h
      obtain ⟨rfl, rfl⟩ := Prod.mk.inj heq
      exact ⟨hd, hne, hx⟩
  · rintro ⟨hd, hne, hx⟩
    exact ⟨name, hd, by rw [if_neg hne, hx, Option.map_some]⟩

theorem discoverDefault_eq : discoverDefault env localNodeID =
    match env.defaultDisplay with
    | some (name, x) =>
      let info := { recordOf env localNodeID x with flags := FLAG_DEFAULT }
      ([(name, info)], info)
    | none => ([], GPUInfo.ofName localNodeID (lit "GLX")) := by
  rw [discoverDefault, Env.defaultDisplay]
  cases env.display with
  | none => rfl
  | some name =>
    by_cases hname : name = []
    · simp [hname]
    · simp only [hname, if_false, queryDisplay_openGlx, Option.bind_some]
      cases env.openGlx name with
      | none => rfl
      | some x => rfl

theorem mem_discoverFrom_default {name : Text} {x : XDisplay}
    (h : env.defaultDisplay = some (name, x)) :
    (name, { recordOf env localNodeID x with flags := FLAG_DEFAULT }) ∈
      discoverFrom env localNodeID := by
  rw [discoverFrom, discoverDefault_eq, h]
  simp

theorem mem_scanScreens {defaultInfo : GPUInfo} {i fuel j : Nat} {p : Text × GPUInfo}
    (h : p ∈ scanScreens env localNodeID defaultInfo i fuel j) :
    ∃ x, env.openDisplay p.1 = some x ∧ x.queryExtension (lit "GLX") = true ∧
      p.2 = recordOf env localNodeID x := by
  rw [scanScreens_eq] at h
  obtain ⟨k, hk⟩ := mem_probe (List.mem_of_mem_filter h)
  obtain ⟨x, hx, rfl⟩ := Option.map_eq_some_iff.mp hk
  exact ⟨x, (openGlx_eq_some.mp hx).1, (openGlx_eq_some.mp hx).2, rfl⟩

/-! ## Flags -/

theorem flags_recordOf {x : XDisplay} (h : x.queryExtension (lit "GLX") = true) :
    (recordOf env localNodeID x).flags = queriedFlags env x := by
  rw [recordOf, getGPUInfo_eq _ h]
  exact UInt32.zero_or

end

/-- The record tells whether its server is one of VirtualGL or VNC. -/
def FlagsReported (env : Env) (p : Text × GPUInfo) : Prop :=
  ∃ x, env.openDisplay p.1 = some x ∧
    (p.2.flags &&& FLAG_VIRTUALGL ≠ 0 ↔ x.vendor = some (lit "VirtualGL")) ∧
    (p.2.flags &&& FLAG_VNC ≠ 0 ↔ x.queryExtension (lit "VNC-EXTENSION") = true)

section

variable {env : Env} {localNodeID : UInt128}

theorem flagsReported_scan {defaultInfo : GPUInfo} {i fuel j : Nat} {p : Text × GPUInfo}
    (h : p ∈ scanScreens env localNodeID defaultInfo i fuel j) : FlagsReported env p := by
  obtain ⟨x, hx, hglx, hp⟩ := mem_scanScreens h
  obtain ⟨hvgl, _, hvnc, _⟩ := queriedFlags_spec env x
  refine ⟨x, hx, ?_, ?_⟩
  · rw [hp, flags_recordOf hglx, hvgl]
  · rw [hp, flags_recordOf hglx, hvnc]

theorem flagsReported_default {name : Text} {info : GPUInfo} {x : XDisplay}
    (hflags : info.flags = FLAG_DEFAULT) (hx : env.openDisplay name = some x) :
    FlagsReported env (name, info) ↔
      x.vendor ≠ some (lit "VirtualGL") ∧ x.queryExtension (lit "VNC-EXTENSION") = false := by
  have hvgl : ¬ FLAG_DEFAULT &&& FLAG_VIRTUALGL ≠ 0 := by decide
  have hvnc : ¬ FLAG_DEFAULT &&& FLAG_VNC ≠ 0 := by decide
  rw [FlagsReported]
  simp only [hx, hflags, hvgl, hvnc, false_iff, Option.some.injEq, exists_eq_left',
    Bool.not_eq_true, ne_eq]

end

/-- All records report VirtualGL and VNC exactly if the server of `DISPLAY`, where it can be opened,
is neither: the flags of its record are lost, and the record hides the scanned one. -/
theorem flags_iff (env : Env) (localNodeID : UInt128) :
    (∀ p ∈ discoverFrom env localNodeID, FlagsReported env p) ↔
      ∀ name x, env.display = some name → name ≠ [] → env.openDisplay name = some x →
        x.queryExtension (lit "GLX") = true →
        x.vendor ≠ some (lit "VirtualGL") ∧ x.queryExtension (lit "VNC-EXTENSION") = false := by
  constructor
  · intro h name x hd hne hx hglx
    have hdisplay := defaultDisplay_eq_some.mpr ⟨hd, hne, hx, hglx⟩
    exact (flagsReported_default rfl hx).mp (h _ (mem_discoverFrom_default hdisplay))
  · intro h p hp
    rw [discoverFrom, discoverDefault_eq] at hp
    rcases List.mem_append.mp hp with hp | hp
    · cases hdisplay : env.defaultDisplay with
      | none => simp [hdisplay] at hp
      | some d =>
        obtain ⟨name, x⟩ := d
        obtain ⟨hd, hne, hx, hglx⟩ := defaultDisplay_eq_some.mp hdisplay
        rw [hdisplay] at hp
        rw [List.mem_singleton.mp hp]
        exact (flagsReported_default rfl hx).mpr (h name x hd hne hx hglx)
    · obtain ⟨i, _, hp⟩ := List.mem_flatMap.mp hp
      exact flagsReported_scan hp

/-- With `DISPLAY` set to `:0` on a VirtualGL server, its record does not say VirtualGL. -/
theorem flags_lost :
    let server := { plainDisplay (lit ":0") with vendor := some (lit "VirtualGL") }
    let env := { emptyEnv with
      display := some (lit ":0")
      openDisplay := fun name =>
        if name = lit ":0" ∨ name = lit ":0.0" then some { server with displayString := name }
        else none }
    ∃ p ∈ discoverFrom env 7, p.1 = lit ":0" ∧ ¬ FlagsReported env p := by
  intro server env
  have hdisplay : env.defaultDisplay = some (lit ":0", server) :=
    defaultDisplay_eq_some.mpr ⟨rfl, by decide, rfl, rfl⟩
  refine ⟨_, mem_discoverFrom_default hdisplay, rfl, fun h => ?_⟩
  exact ((flagsReported_default rfl rfl).mp h).1 rfl

end Glx
end Hwsd
