import Hwsd.DnsSd.Gpu
import Hwsd.DnsSd.Net
import Hwsd.Filter

/-!
# Hwsd.Functions

The global announce and discover functions (`functions.cpp`) with the modules they loop over: the
default `Module<T>::announce` (`module.ipp`) and the two dns_sd modules, whose `announce` calls the
global discovery loop again and switches its own `discover` off meanwhile.

The GPU and the network half of the code are the same up to a `Resource`. The modules that query
this machine are arbitrary; what they find during a call, and what browsing finds, is the `World`
of that call.

* `discoverInfos_eq`: the nested loops select from the concatenation of the modules' lists.
* `announce_dnsSd`: what the dns_sd announcement publishes, from any state.
* `runCalls_announcing`: the guard is off between calls, by induction on the calls.
-/

namespace Hwsd

open CxxStream Greedy DnsSd

/-- What the GPU and the network half of the code differ in: the filter tests, the session of a
record, what the dns_sd module publishes of a list, and what it makes of a browse. -/
structure Resource (α : Type) where
  test : Leaf → Selector α
  setSession : Text → α → α
  publish : Text → List α → Module → Module
  browse : Snapshot → Snapshot → List α

/-- An entry of `Module<T>::stack()`. -/
inductive Registered (ι : Type) where
  | dnsSd
  | native (i : ι)
deriving DecidableEq

/-- What the outside answers during one call: the lists of the native modules, the browses
`IF_ALL` and `IF_LOCAL`, and whether Servus could announce. -/
structure World (ι α : Type) where
  infos : ι → List α
  all : Snapshot
  loc : Snapshot
  announced : Bool

/-- The `detail::Module` of a dns_sd module. -/
structure Impl extends Module where
  announcing : Bool

inductive Event (α : Type) where
  /-- A line of the default announcement. -/
  | printed (info : α)
  /-- The list that a dns_sd announcement works on. -/
  | collected (infos : List α)
  /-- The result of a discover call. -/
  | returned (infos : List α)

structure Outcome (α : Type) where
  ok : Bool
  impl : Impl
  events : List (Event α)

/-- The calls that a program can make. -/
inductive Call (ι : Type) where
  | announceInfos (session : Text)
  | discoverInfos (filter : Option Filter)
  | announce (module : Registered ι) (session : Text)
  | discover (module : Registered ι)

/-- `!filter || (*filter)(result, info)`. -/
def selector {α : Type} (test : Leaf → Selector α) : Option Filter → Selector α
  | none => pass fun _ => true
  | some filter => filter.call test

namespace Resource

variable {ι α : Type} (R : Resource α) (w : World ι α) (stack : List (Registered ι))

def discover (s : Impl) : Registered ι → List α
  | .dnsSd => if s.announcing then [] else R.browse w.all w.loc
  | .native i => w.infos i

def discoverInfos (s : Impl) (filter : Option Filter) : List α :=
  stack.foldl (fun result module => run (selector R.test filter) result (R.discover w s module)) []

def announce (session : Text) (s : Impl) : Registered ι → Outcome α
  | .dnsSd =>
    let s := { s with announcing := true }
    let infos := R.discoverInfos w stack s (some Filter.duplicate)
    let s := { s with announcing := false }
    { ok := infos.isEmpty || w.announced
      impl := { s with toModule := R.publish session infos s.toModule }
      events := [.collected infos] }
  | .native i => ⟨true, s, (w.infos i).map fun info => .printed (R.setSession session info)⟩

/-- The loop of `announceInfos` over the rest of the stack. -/
def announceFrom (session : Text) : List (Registered ι) → Impl → Outcome α
  | [], s => ⟨true, s, []⟩
  | module :: modules, s =>
    let r := R.announce w stack session s module
    if !r.ok then r else
      let r' := announceFrom session modules r.impl
      ⟨r'.ok, r'.impl, r.events ++ r'.events⟩

def announceInfos (session : Text) (s : Impl) : Outcome α :=
  R.announceFrom w stack session stack s

def step (s : Impl) : Call ι → Impl × List (Event α)
  | .announceInfos session =>
    let r := R.announceInfos w stack session s
    (r.impl, r.events)
  | .discoverInfos filter => (s, [.returned (R.discoverInfos w stack s filter)])
  | .announce module session =>
    let r := R.announce w stack session s module
    (r.impl, r.events)
  | .discover module => (s, [.returned (R.discover w s module)])

/-- The state after a sequence of calls. -/
def runCalls (s : Impl) (calls : List (World ι α × Call ι)) : Impl :=
  calls.foldl (fun s c => (R.step c.1 stack s c.2).1) s

end Resource

/-! ## The two resources -/

section

variable {ι : Type} (M : Matchers) (U : Uint128Ops) (localNodeID : UInt128)

def gpuResource : Resource GPUInfo where
  test := Gpu.test M
  setSession session info := { info with session := session }
  publish := Gpu.announceInfos U localNodeID
  browse := Gpu.discover U localNodeID

def netResource : Resource NetInfo where
  test := Net.test M
  setSession session info := { info with session := session }
  publish := Net.announceInfos U localNodeID
  browse := Net.discover U localNodeID

def announceGPUInfos (w : World ι GPUInfo) (stack : List (Registered ι)) (session : Text)
    (s : Impl) : Outcome GPUInfo :=
  (gpuResource M U localNodeID).announceInfos w stack session s

def discoverGPUInfos (w : World ι GPUInfo) (stack : List (Registered ι)) (s : Impl)
    (filter : Option Filter) : List GPUInfo :=
  (gpuResource M U localNodeID).discoverInfos w stack s filter

def announceNetInfos (w : World ι NetInfo) (stack : List (Registered ι)) (session : Text)
    (s : Impl) : Outcome NetInfo :=
  (netResource M U localNodeID).announceInfos w stack session s

def discoverNetInfos (w : World ι NetInfo) (stack : List (Registered ι)) (s : Impl)
    (filter : Option Filter) : List NetInfo :=
  (netResource M U localNodeID).discoverInfos w stack s filter

end

/-! ## Calls from any state -/

namespace Resource

variable {ι α : Type} (R : Resource α) (w : World ι α) (stack : List (Registered ι))

theorem discoverInfos_eq (s : Impl) (filter : Option Filter) :
    R.discoverInfos w stack s filter =
      run (selector R.test filter) [] (stack.flatMap (R.discover w s)) := by
  rw [discoverInfos, ← List.foldl_map (f := R.discover w s)
    (g := fun result infos => run (selector R.test filter) result infos)]
  rw [foldl_run, List.flatMap]

/-- The lists of the native modules, in stack order. -/
def localInfos : List α :=
  stack.flatMap fun module =>
    match module with
    | .dnsSd => []
    | .native i => w.infos i

/-- The list that a dns_sd announcement works on, whatever the state and the browses are. -/
def announcedInfos : List α := run (R.test .duplicate) [] (localInfos w stack)

theorem discoverInfos_announcing {s : Impl} (h : s.announcing = true) :
    R.discoverInfos w stack s (some Filter.duplicate) = R.announcedInfos w stack := by
  rw [discoverInfos_eq, announcedInfos, selector, Filter.call_duplicate, localInfos]
  congr 2
  funext module
  cases module with
  | dnsSd => rw [discover, if_pos h]
  | native i => rfl

theorem announce_dnsSd (session : Text) (s : Impl) :
    R.announce w stack session s .dnsSd =
      { ok := (R.announcedInfos w stack).isEmpty || w.announced
        impl := { toModule := R.publish session (R.announcedInfos w stack) s.toModule
                  announcing := false }
        events := [.collected (R.announcedInfos w stack)] } := by
  simp only [announce]
  rw [discoverInfos_announcing R w stack rfl]

theorem announce_announcing {s : Impl} (h : s.announcing = false) (session : Text)
    (module : Registered ι) : (R.announce w stack session s module).impl.announcing = false := by
  cases module with
  | dnsSd => rw [announce_dnsSd]
  | native i => exact h

theorem announceFrom_announcing {s : Impl} (h : s.announcing = false) (session : Text)
    (modules : List (Registered ι)) :
    (R.announceFrom w stack session modules s).impl.announcing = false := by
  induction modules generalizing s with
  | nil => exact h
  | cons module modules ih =>
    have hm := R.announce_announcing w stack h session module
    rw [announceFrom]
    split
    · exact hm
    · exact ih hm

theorem step_announcing {s : Impl} (h : s.announcing = false) (call : Call ι) :
    (R.step w stack s call).1.announcing = false := by
  cases call with
  | announceInfos session => exact R.announceFrom_announcing w stack h session stack
  | discoverInfos filter => exact h
  | announce module session => exact R.announce_announcing w stack h session module
  | discover module => exact h

/-- The guard is off between calls. -/
theorem runCalls_announcing {s : Impl} (h : s.announcing = false)
    (calls : List (World ι α × Call ι)) : (R.runCalls stack s calls).announcing = false := by
  induction calls generalizing s with
  | nil => exact h
  | cons c calls ih => exact ih (R.step_announcing c.1 stack h c.2)

/-- No announcement collects anything else. -/
theorem announce_collected {session : Text} {s : Impl} {module : Registered ι} {infos : List α}
    (h : Event.collected infos ∈ (R.announce w stack session s module).events) :
    infos = R.announcedInfos w stack := by
  cases module with
  | dnsSd =>
    rw [announce_dnsSd] at h
    simpa using h
  | native i => simp [announce] at h

theorem announceFrom_collected {session : Text} {s : Impl} {modules : List (Registered ι)}
    {infos : List α}
    (h : Event.collected infos ∈ (R.announceFrom w stack session modules s).events) :
    infos = R.announcedInfos w stack := by
  induction modules generalizing s with
  | nil => simp [announceFrom] at h
  | cons module modules ih =>
    rw [announceFrom] at h
    split at h
    · exact R.announce_collected w stack h
    · rcases List.mem_append.mp h with h | h
      · exact R.announce_collected w stack h
      · exact ih h

theorem step_collected {s : Impl} {call : Call ι} {infos : List α}
    (h : Event.collected infos ∈ (R.step w stack s call).2) :
    infos = R.announcedInfos w stack := by
  cases call with
  | announceInfos session => exact R.announceFrom_collected w stack h
  | discoverInfos filter => simp [step] at h
  | announce module session => exact R.announce_collected w stack h
  | discover module => simp [step] at h

/-- The native modules in front of the dns_sd module do not keep it from announcing. -/
theorem collected_announceFrom (session : Text) (s : Impl) {modules : List (Registered ι)}
    (h : Registered.dnsSd ∈ modules) :
    Event.collected (R.announcedInfos w stack) ∈
      (R.announceFrom w stack session modules s).events := by
  induction modules generalizing s with
  | nil => simp at h
  | cons module modules ih =>
    cases module with
    | dnsSd =>
      rw [announceFrom, announce_dnsSd]
      split <;> simp
    | native i =>
      have hm : Registered.dnsSd ∈ modules := by simpa using h
      exact List.mem_append_right _ (ih s hm)

/-- What a module discovers when nothing is being announced. -/
def discovered : Registered ι → List α
  | .dnsSd => R.browse w.all w.loc
  | .native i => w.infos i

theorem discover_idle {s : Impl} (h : s.announcing = false) :
    R.discover w s = R.discovered w := by
  funext module
  cases module with
  | dnsSd => simp [discover, discovered, h]
  | native i => rfl

end Resource

end Hwsd
