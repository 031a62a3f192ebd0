import Hwsd.DnsSd.Module
import Hwsd.Info.Gpu

/-!
# Hwsd.DnsSd.Gpu

`hwsd::gpu::dns_sd::Module` (`gpu/dns_sd/module.cpp`): how a list of GPUs is published, and how
the records of a browse are decoded. The call of `hwsd::discoverGPUInfos` that starts `announce`
and the guard around it are in `Hwsd.Functions`.

* `announceInfos_eq_write`: one announcement writes a sheet whose entries are `fields`.
* `discoverInfo_eq`: entry `k` of a host in terms of the texts of its record.
-/

namespace Hwsd
namespace Gpu

open CxxStream KvStore DnsSd

def GPU : Text := lit "GPU"
def GPUCOUNT : Text := lit "Count"
def GPUTYPE : Text := lit "Type"
def GPUPORT : Text := lit "Port"
def GPUDEVICE : Text := lit "Device"
def GPUX : Text := lit "X"
def GPUY : Text := lit "Y"
def GPUWIDTH : Text := lit "Width"
def GPUHEIGHT : Text := lit "Height"
def GPUFLAGS : Text := lit "Flags"

/-! ## Announcing -/

/-- The body of the loop of `announce`. -/
def announceInfo (m : Module) (index : Nat) (info : GPUInfo) : Module :=
  let m := m.setValue putText (.indexed index GPUTYPE) info.getName
  let m := m.setValue putUnsigned (.indexed index GPUPORT) info.port
  let m := m.setValue putUnsigned (.indexed index GPUDEVICE) info.device
  let m :=
    if info.pvp.HasArea then
      let m := m.setValue putInt (.indexed index GPUX) info.pvp.x
      let m := m.setValue putInt (.indexed index GPUY) info.pvp.y
      let m := m.setValue putInt (.indexed index GPUWIDTH) info.pvp.w
      m.setValue putInt (.indexed index GPUHEIGHT) info.pvp.h
    else m
  if info.flags ≠ 0 then m.setValue putUnsigned (.indexed index GPUFLAGS) info.flags else m

/-- `announce`, once the GPUs to publish are known. -/
def announceInfos (U : Uint128Ops) (localNodeID : UInt128) (session : Text) (gpus : List GPUInfo)
    (m : Module) : Module :=
  if gpus = [] then m else
    let nodeInfo := { NodeInfo.new localNodeID with session := session }
    let m := m.announce U nodeInfo
    let m := m.setValue putNat (.plain GPUCOUNT) gpus.length
    gpus.zipIdx.foldl (fun m w => announceInfo m w.2 w.1) m

/-! ## Discovering -/

/-- The body of the innermost loop of `discover`; `none` where it continues. -/
def discoverInfo (U : Uint128Ops) (localNodeID : UInt128) (sn : Snapshot) (host : Text)
    (k : Nat) : Option GPUInfo :=
  let (found, type) := getValue extractText GPU sn host (.indexed k GPUTYPE) []
  if !found then none else
    let info := GPUInfo.ofName localNodeID type
    let node := discoverNode U GPU sn host info.toNodeInfo
    let port := (getValue extractUnsigned GPU sn host (.indexed k GPUPORT) info.port).2
    let device := (getValue extractUnsigned GPU sn host (.indexed k GPUDEVICE) info.device).2
    let x := (getValue extractInt GPU sn host (.indexed k GPUX) info.pvp.x).2
    let y := (getValue extractInt GPU sn host (.indexed k GPUY) info.pvp.y).2
    let w := (getValue extractInt GPU sn host (.indexed k GPUWIDTH) info.pvp.w).2
    let h := (getValue extractInt GPU sn host (.indexed k GPUHEIGHT) info.pvp.h).2
    let flags := (getValue extractUnsigned GPU sn host (.indexed k GPUFLAGS) info.flags).2
    some { node with
      type := info.type, port := port, device := device, pvp := ⟨x, y, w, h⟩, flags := flags }

/-- The number of entries that the record of a host claims. -/
def nGPUs (sn : Snapshot) (host : Text) : Nat :=
  (getValue extractUnsigned GPU sn host (.plain GPUCOUNT) 0).2.toNat

/-- What the inner loops decode for one host. -/
def discoverHost (U : Uint128Ops) (localNodeID : UInt128) (sn : Snapshot) (host : Text) :
    List GPUInfo :=
  (List.range (nGPUs sn host)).filterMap (discoverInfo U localNodeID sn host)

/-- The list that `discover` builds from one browse. -/
def discoverHosts (U : Uint128Ops) (localNodeID : UInt128) (sn : Snapshot) : List GPUInfo :=
  sn.keys.flatMap (discoverHost U localNodeID sn)

/-- `discover` when no announcement is being made: `all` and `loc` are what browsing `IF_ALL` and
`IF_LOCAL` finds. -/
def discover (U : Uint128Ops) (localNodeID : UInt128) (all loc : Snapshot) : List GPUInfo :=
  markLocal (fun info => { info with nodeName := [] }) (discoverHosts U localNodeID all)
    (discoverHosts U localNodeID loc)

/-- The part of the result of `discover` that was decoded for one host. -/
def discoveredHost (U : Uint128Ops) (localNodeID : UInt128) (all loc : Snapshot) (host : Text) :
    List GPUInfo :=
  markLocal (fun info => { info with nodeName := [] }) (discoverHost U localNodeID all host)
    (discoverHosts U localNodeID loc)

theorem discover_eq_flatMap (U : Uint128Ops) (localNodeID : UInt128) (all loc : Snapshot) :
    discover U localNodeID all loc =
      all.keys.flatMap (discoveredHost U localNodeID all loc) := by
  rw [discover, discoverHosts, markLocal, List.map_flatMap]
  rfl

theorem discover_single (U : Uint128Ops) (localNodeID : UInt128) (host : Text) (r : Record) :
    discover U localNodeID ((∅ : Snapshot).insert host r) ∅ =
      discoverHost U localNodeID ((∅ : Snapshot).insert host r) host := by
  have hkeys : ((∅ : Snapshot).insert host r).keys = [host] := by
    rw [AList.keys_insert]
    rfl
  rw [discover, discoverHosts, hkeys, List.flatMap_singleton, markLocal]
  exact List.map_id _

/-! ## Announcements as sheets -/

theorem reserved : ∀ key ∈ [NODEID, NODENAME, SESSION], ¬ GPU <+: key := by decide

/-- The entry that one GPU writes. -/
def fields (info : GPUInfo) : List (Text × Text) :=
  [(GPUTYPE, info.getName), (GPUPORT, putUnsigned info.port),
    (GPUDEVICE, putUnsigned info.device)] ++
  (if info.pvp.HasArea then
    [(GPUX, putInt info.pvp.x), (GPUY, putInt info.pvp.y), (GPUWIDTH, putInt info.pvp.w),
      (GPUHEIGHT, putInt info.pvp.h)]
  else []) ++
  (if info.flags ≠ 0 then [(GPUFLAGS, putUnsigned info.flags)] else [])

/-- What one announcement writes: nothing at all for an empty list. -/
def log (U : Uint128Ops) (localNodeID : UInt128) (session : Text) (gpus : List GPUInfo) :
    List (Slot × Text) :=
  if gpus = [] then []
  else sheet U { NodeInfo.new localNodeID with session := session } GPUCOUNT fields gpus

theorem announceInfo_eq_write (m : Module) (k : Nat) (info : GPUInfo) :
    announceInfo m k info = m.write ((fields info).map fun w => (Slot.indexed k w.1, w.2)) := by
  unfold announceInfo fields
  by_cases hp : info.pvp.HasArea <;> by_cases hf : info.flags = 0 <;>
    simp only [hp, hf, ne_eq, not_true_eq_false, not_false_eq_true, if_true, if_false] <;> rfl

theorem announceInfos_eq_write (U : Uint128Ops) (localNodeID : UInt128) (session : Text)
    (gpus : List GPUInfo) (m : Module) :
    announceInfos U localNodeID session gpus m = m.write (log U localNodeID session gpus) := by
  unfold announceInfos log
  split
  · rfl
  · rw [Module.foldl_write_cells announceInfo_eq_write, Module.announce_eq_write,
      Module.setValue_eq_write, ← Module.write_append, ← Module.write_append, sheet]
    rfl

section Fields

variable (info : GPUInfo)

@[simp] theorem lastWrite_fields_type :
    lastWrite (fields info) GPUTYPE = some info.getName := by
  unfold fields
  split <;> split <;> rfl

@[simp] theorem lastWrite_fields_port :
    lastWrite (fields info) GPUPORT = some (putUnsigned info.port) := by
  unfold fields
  split <;> split <;> rfl

@[simp] theorem lastWrite_fields_device :
    lastWrite (fields info) GPUDEVICE = some (putUnsigned info.device) := by
  unfold fields
  split <;> split <;> rfl

@[simp] theorem lastWrite_fields_x :
    lastWrite (fields info) GPUX = if info.pvp.HasArea then some (putInt info.pvp.x) else none := by
  unfold fields
  split <;> split <;> rfl

@[simp] theorem lastWrite_fields_y :
    lastWrite (fields info) GPUY = if info.pvp.HasArea then some (putInt info.pvp.y) else none := by
  unfold fields
  split <;> split <;> rfl

@[simp] theorem lastWrite_fields_width : lastWrite (fields info) GPUWIDTH =
    if info.pvp.HasArea then some (putInt info.pvp.w) else none := by
  unfold fields
  split <;> split <;> rfl

@[simp] theorem lastWrite_fields_height : lastWrite (fields info) GPUHEIGHT =
    if info.pvp.HasArea then some (putInt info.pvp.h) else none := by
  unfold fields
  split <;> split <;> rfl

@[simp] theorem lastWrite_fields_flags : lastWrite (fields info) GPUFLAGS =
    if info.flags ≠ 0 then some (putUnsigned info.flags) else none := by
  unfold fields
  split <;> split <;> rfl

end Fields

/-! ## Decoding -/

/-- The text of a key of entry `k`. -/
def cell (sn : Snapshot) (host : Text) (k : Nat) (key : Text) : Text :=
  get sn host ((Slot.indexed k key).text GPU)

theorem nGPUs_eq (sn : Snapshot) (host : Text) :
    nGPUs sn host = (extractUnsigned (get sn host ((Slot.plain GPUCOUNT).text GPU)) 0).toNat := by
  rw [nGPUs, getValue_unsigned_snd]

theorem discoverInfo_eq (U : Uint128Ops) (localNodeID : UInt128) (sn : Snapshot) (host : Text)
    (k : Nat) : discoverInfo U localNodeID sn host k =
      if cell sn host k GPUTYPE = [] then none else
        some { discoverNode U GPU sn host (NodeInfo.new localNodeID) with
          type := typeCode (extractText (cell sn host k GPUTYPE) [])
          port := extractUnsigned (cell sn host k GPUPORT) 0
          device := extractUnsigned (cell sn host k GPUDEVICE) 0
          pvp := ⟨extractInt (cell sn host k GPUX) 0, extractInt (cell sn host k GPUY) 0,
            extractInt (cell sn host k GPUWIDTH) (-1), extractInt (cell sn host k GPUHEIGHT) (-1)⟩
          flags := extractUnsigned (cell sn host k GPUFLAGS) 0 } := by
  simp only [discoverInfo, getValue_fst, getValue_text_snd, getValue_unsigned_snd,
    getValue_int_snd, cell]
  by_cases h : get sn host ((Slot.indexed k GPUTYPE).text GPU) = []
  · simp [h]
  · simp only [h, ne_eq, not_false_eq_true, decide_true, Bool.not_true, if_false,
      Bool.false_eq_true]
    rfl

end Gpu
end Hwsd
