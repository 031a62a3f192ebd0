import Hwsd.Apps.Machines
import Hwsd.Cgl.Module

/-!
# Hwsd.Apps.Apple

Apple machines without an X server, from what the system says of its displays to what other machines
get to know: `AppleDaemon.daemon` is the daemon of such a machine, whose GPU module is that of `Cgl`.

* `main_display_delivered`: another machine gets to know the main display and no other one.
-/

namespace Hwsd

open CxxStream Greedy KvStore DnsSd Publish

/-- An Apple machine, and the `hw_sd` that is started there. -/
structure AppleDaemon where
  nodeID : UInt128
  env : Cgl.Env
  /-- Whether Servus announces the GPU, and what there is of the network. -/
  announced : Bool
  nets : World NetModule NetInfo
  executable : Text
  options : Option DaemonOptions

namespace AppleDaemon

variable (l : AppleDaemon)

def machine : Machine where
  nodeID := l.nodeID
  gpus :=
    { infos := fun
        | .cgl => Cgl.discover l.nodeID l.env
        | _ => []
      all := ∅, loc := ∅, announced := l.announced }
  nets := l.nets

def daemon : Daemon := ⟨⟨true, false, false⟩, l.machine, l.executable, l.options⟩

/-- The online displays that are looked at. -/
def displays : List UInt32 := (l.env.onlineDisplays.getD []).take Cgl.MAX_GPUS

theorem foundGPUs_eq : l.daemon.foundGPUs = Cgl.discover l.nodeID l.env := by
  simp [Daemon.foundGPUs, daemon, Build.modules, machine]

theorem discover_eq : Cgl.discover l.nodeID l.env =
    if l.env.mainDisplayID ∈ l.displays then
      [Cgl.displayInfo l.nodeID l.env (l.displays.idxOf l.env.mainDisplayID) l.env.mainDisplayID]
    else [] :=
  Cgl.discover_eq

variable (M : Matchers) (U : Uint128Ops)

/-- There is never more than one record, so none is a duplicate. -/
theorem gpus_eq : l.daemon.gpus M U = Cgl.discover l.nodeID l.env := by
  rw [Hwsd.gpus_eq, foundGPUs_eq, discover_eq]
  split <;> rfl

theorem received_displayInfo (localNodeID : UInt128) (host session : Text) (i : Nat)
    (display : UInt32) :
    Gpu.received localNodeID host session (Cgl.displayInfo l.nodeID l.env i display) =
      ⟨⟨localNodeID, host, session⟩, typeCode (lit "CGL"), 0, UInt32.ofNat i,
        (l.env.displayBounds display).arrived, 0⟩ := by
  have hnamed : Gpu.TypeNamed (Cgl.displayInfo l.nodeID l.env i display) :=
    ⟨lit "CGL", by decide, rfl⟩
  rw [Gpu.received, Gpu.received_type hnamed]
  rfl

end AppleDaemon

/-! ## A machine -/

/-- A machine with two displays, of which the second one is the main display. -/
def oneApple : AppleDaemon where
  nodeID := 6
  env := ⟨some [41, 42], 42, fun _ => ⟨0, 0, 2560, 1440⟩⟩
  announced := true
  nets := ⟨fun _ => [], ∅, ∅, true⟩
  executable := lit "hw_sd"
  options := some ⟨⟨false, false, lit "wall"⟩, true⟩

theorem oneApple_serving :
    Serving (upCluster ⟨none, none⟩ hexUint128 (lit "node3") oneApple.daemon) .gpu (lit "node3")
      oneApple.daemon :=
  up_serving _ _ (by decide) (by decide) (by decide)

/-! ## Results -/

/-- In every network that is reachable, another machine decodes the announcement of an Apple machine to
one GPU: the main display, with its place among the online displays and its bounds, if they have an
area. -/
theorem main_display_delivered (M : Matchers) (U : Uint128Ops) (localNodeID : UInt128)
    (l : AppleDaemon) (n : Cluster) (h : Reachable (Daemon.program M U) n) (host : Text)
    (hserving : Serving n .gpu host l.daemon) (sn : Snapshot)
    (hsn : sn.lookup host = visible n .gpu host) :
    ∃ i, l.displays[i]? = some l.env.mainDisplayID ∧
      (∀ j, j < i → l.displays[j]? ≠ some l.env.mainDisplayID) ∧
      Gpu.discoverHost U localNodeID sn host =
        [⟨⟨receivedID U l.nodeID localNodeID host, host, sessionWord l.daemon.session⟩,
          typeCode (lit "CGL"), 0, UInt32.ofNat i,
          (l.env.displayBounds l.env.mainDisplayID).arrived, 0⟩] := by
  have hgpus : Gpu.discoverHost U localNodeID sn host =
      deliveredGPUs M U localNodeID host l.daemon :=
    (gpuDelivery M U localNodeID).decode_serving h hserving hsn
  have hsome : l.daemon.hasSome M U .gpu = true :=
    (Daemon.writes_of_announced (announce_mem_of_serving h hserving)).1
  -- what is announced has been found, and there is nothing else to be found than the main display
  have hmain : l.env.mainDisplayID ∈ l.displays := by
    by_contra hnone
    rw [Daemon.hasSome, l.gpus_eq, l.discover_eq, if_neg hnone] at hsome
    cases hsome
  have hfew : l.daemon.foundGPUs.length < UInt32.size := by
    rw [l.foundGPUs_eq, l.discover_eq, if_pos hmain, List.length_singleton]
    decide
  refine ⟨l.displays.idxOf l.env.mainDisplayID, ?_, fun j hj heq => ?_, ?_⟩
  · rw [List.getElem?_eq_getElem (List.idxOf_lt_length_of_mem hmain), List.getElem_idxOf]
  · obtain ⟨hlt, hget⟩ := List.getElem?_eq_some_iff.mp heq
    have hother : (l.displays[j] == l.env.mainDisplayID) = false := List.not_of_lt_findIdx hj
    rw [hget, beq_self_eq_true] at hother
    cases hother
  · rw [hgpus, deliveredGPUs, take_gpus M U hfew, l.gpus_eq, l.discover_eq, if_pos hmain,
      List.map_singleton, l.received_displayInfo]
    rfl

theorem main_display_delivered_one :
    ∃ i, oneApple.displays[i]? = some oneApple.env.mainDisplayID ∧
      (∀ j, j < i → oneApple.displays[j]? ≠ some oneApple.env.mainDisplayID) ∧
      Gpu.discoverHost hexUint128 9
        (upSnapshot ⟨none, none⟩ hexUint128 (lit "node3") oneApple.daemon .gpu) (lit "node3") =
        [⟨⟨receivedID hexUint128 oneApple.nodeID 9 (lit "node3"), lit "node3",
          sessionWord oneApple.daemon.session⟩, typeCode (lit "CGL"), 0, UInt32.ofNat i,
          (oneApple.env.displayBounds oneApple.env.mainDisplayID).arrived, 0⟩] :=
  main_display_delivered ⟨none, none⟩ hexUint128 9 oneApple _ (up_reachable _ _ _ _) _
    oneApple_serving _ (upSnapshot_lookup _ _ oneApple_serving)

end Hwsd
