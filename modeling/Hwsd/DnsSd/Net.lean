import Hwsd.DnsSd.Module
import Hwsd.Info.Net

/-!
# Hwsd.DnsSd.Net

`hwsd::net::dns_sd::Module` (`net/dns_sd/module.cpp`): how a list of network interfaces is
published, and how the records of a browse are decoded. Unlike the GPU module it removes a
loopback interface before it publishes, and decodes an entry whose type is missing.

* `announceInfos_eq_write`: one announcement writes a sheet whose entries are `fields`.
* `discoverInfo_eq`: entry `k` of a host in terms of the texts of its record.
-/

namespace Hwsd
namespace Net

open CxxStream KvStore DnsSd

def NET : Text := lit "Net"
def NETCOUNT : Text := lit "Count"
def NETTYPE : Text := lit "Type"
def NETNAME : Text := lit "Name"
def NETHOSTNAME : Text := lit "Hostname"
def NETHWADDR : Text := lit "MAC"
def NETINETADDR : Text := lit "IPv4"
def NETINET6ADDR : Text := lit "IPv6"
def NETLINKSPEED : Text := lit "Linkspeed"
def NETUP : Text := lit "Up"

/-! ## Announcing -/

/-- The loop that erases a loopback interface and breaks. -/
def eraseLoopback : List NetInfo → List NetInfo
  | [] => []
  | info :: nets => if info.type = .loopback then nets else info :: eraseLoopback nets

/-- The body of the loop of `announce`. -/
def announceInfo (m : Module) (index : Nat) (info : NetInfo) : Module :=
  let m := m.setValue putText (.indexed index NETTYPE) info.getType
  let m := if info.name ≠ [] then m.setValue putText (.indexed index NETNAME) info.name else m
  let m :=
    if info.hostname ≠ [] then m.setValue putText (.indexed index NETHOSTNAME) info.hostname else m
  let m :=
    if info.hwAddress ≠ [] then m.setValue putText (.indexed index NETHWADDR) info.hwAddress else m
  let m :=
    if info.inetAddress ≠ [] then m.setValue putText (.indexed index NETINETADDR) info.inetAddress
    else m
  let m :=
    if info.inet6Address ≠ [] then
      m.setValue putText (.indexed index NETINET6ADDR) info.inet6Address
    else m
  let m :=
    if info.linkspeed ≠ NetInfo.defaultValue then
      m.setValue putUnsigned (.indexed index NETLINKSPEED) info.linkspeed
    else m
  m.setValue putBool (.indexed index NETUP) info.up

/-- `announce`, once the interfaces are known. -/
def announceInfos (U : Uint128Ops) (localNodeID : UInt128) (session : Text) (nets : List NetInfo)
    (m : Module) : Module :=
  if nets = [] then m else
    let nets := eraseLoopback nets
    let nodeInfo := { NodeInfo.new localNodeID with session := session }
    let m := m.announce U nodeInfo
    let m := m.setValue putNat (.plain NETCOUNT) nets.length
    nets.zipIdx.foldl (fun m w => announceInfo m w.2 w.1) m

/-! ## Discovering -/

/-- The body of the innermost loop of `discover`. -/
def discoverInfo (U : Uint128Ops) (localNodeID : UInt128) (sn : Snapshot) (host : Text)
    (k : Nat) : NetInfo :=
  let info := NetInfo.new localNodeID
  let info := { info with toNodeInfo := discoverNode U NET sn host info.toNodeInfo }
  let info := info.setType (getValue extractText NET sn host (.indexed k NETTYPE) []).2
  { info with
    name := (getValue extractText NET sn host (.indexed k NETNAME) info.name).2
    hostname := (getValue extractText NET sn host (.indexed k NETHOSTNAME) info.hostname).2
    hwAddress := (getValue extractText NET sn host (.indexed k NETHWADDR) info.hwAddress).2
    inetAddress := (getValue extractText NET sn host (.indexed k NETINETADDR) info.inetAddress).2
    inet6Address :=
      (getValue extractText NET sn host (.indexed k NETINET6ADDR) info.inet6Address).2
    linkspeed := (getValue extractUnsigned NET sn host (.indexed k NETLINKSPEED) info.linkspeed).2
    up := (getValue extractBool NET sn host (.indexed k NETUP) info.up).2 }

/-- The number of entries that the record of a host claims. -/
def nNets (sn : Snapshot) (host : Text) : Nat :=
  (getValue extractUnsigned NET sn host (.plain NETCOUNT) 0).2.toNat

/-- What the inner loops decode for one host. -/
def discoverHost (U : Uint128Ops) (localNodeID : UInt128) (sn : Snapshot) (host : Text) :
    List NetInfo :=
  (List.range (nNets sn host)).map (discoverInfo U localNodeID sn host)

/-- The list that `discover` builds from one browse. -/
def discoverHosts (U : Uint128Ops) (localNodeID : UInt128) (sn : Snapshot) : List NetInfo :=
  sn.keys.flatMap (discoverHost U localNodeID sn)

/-- `discover` when no announcement is being made: `all` and `loc` are what browsing `IF_ALL` and
`IF_LOCAL` finds. -/
def discover (U : Uint128Ops) (localNodeID : UInt128) (all loc : Snapshot) : List NetInfo :=
  markLocal (fun info => { info with nodeName := [] }) (discoverHosts U localNodeID all)
    (discoverHosts U localNodeID loc)

/-- The part of the result of `discover` that was decoded for one host. -/
def discoveredHost (U : Uint128Ops) (localNodeID : UInt128) (all loc : Snapshot) (host : Text) :
    List NetInfo :=
  markLocal (fun info => { info with nodeName := [] }) (discoverHost U localNodeID all host)
    (discoverHosts U localNodeID loc)

theorem discover_eq_flatMap (U : Uint128Ops) (localNodeID : UInt128) (all loc : Snapshot) :
    discover U localNodeID all loc =
      all.keys.flatMap (discoveredHost U localNodeID all loc) := by
  rw [discover, discoverHosts, markLocal, List.map_flatMap]
  rfl

theorem discover_single (U : Uint128Ops) (localNodeID : UInt128) (host : Text) (r : Record) :
    discover U localNodeID ((∅ : Snapshot).insert host r) ∅ =
      discoverHost U localNodeID ((∅ : Snapshot).insert host r) host := by
  have hkeys : ((∅ : Snapshot).insert host r).keys = [host] := by
    rw [AList.keys_insert]
    rfl
  rw [discover, discoverHosts, hkeys, List.flatMap_singleton, markLocal]
  exact List.map_id _

/-! ## Announcements as sheets -/

theorem reserved : ∀ key ∈ [NODEID, NODENAME, SESSION], ¬ NET <+: key := by decide

/-- A text is published when there is one. -/
def textField (key value : Text) : List (Text × Text) := if value ≠ [] then [(key, value)] else []

/-- The entry that one interface writes. -/
def fields (info : NetInfo) : List (Text × Text) :=
  (NETTYPE, info.getType) :: textField NETNAME info.name ++ textField NETHOSTNAME info.hostname ++
    textField NETHWADDR info.hwAddress ++ textField NETINETADDR info.inetAddress ++
    textField NETINET6ADDR info.inet6Address ++
    (if info.linkspeed ≠ NetInfo.defaultValue then [(NETLINKSPEED, putUnsigned info.linkspeed)]
    else []) ++ [(NETUP, putBool info.up)]

/-- What one announcement writes: nothing at all for an empty list. -/
def log (U : Uint128Ops) (localNodeID : UInt128) (session : Text) (nets : List NetInfo) :
    List (Slot × Text) :=
  if nets = [] then []
  else sheet U { NodeInfo.new localNodeID with session := session } NETCOUNT fields
    (eraseLoopback nets)

theorem announceInfo_eq_write (m : Module) (k : Nat) (info : NetInfo) :
    announceInfo m k info = m.write ((fields info).map fun w => (Slot.indexed k w.1, w.2)) := by
  have htext : ∀ (m : Module) (key value : Text),
      (if value ≠ [] then m.setValue putText (.indexed k key) value else m) =
        m.write ((textField key value).map fun w => (Slot.indexed k w.1, w.2)) := by
    intro m key value
    unfold textField
    split <;> rfl
  have hspeed : ∀ m : Module, (if info.linkspeed ≠ NetInfo.defaultValue then
        m.setValue putUnsigned (.indexed k NETLINKSPEED) info.linkspeed else m) =
      m.write ((if info.linkspeed ≠ NetInfo.defaultValue then
        [(NETLINKSPEED, putUnsigned info.linkspeed)] else []).map
          fun w => (Slot.indexed k w.1, w.2)) := by
    intro m
    split <;> rfl
  simp only [announceInfo, htext, hspeed]
  simp only [Module.setValue_eq_write, fields, ← Module.write_append, List.map_append,
    List.map_cons, List.cons_append, List.map_nil, List.append_assoc, List.nil_append]
  rfl

theorem announceInfos_eq_write (U : Uint128Ops) (localNodeID : UInt128) (session : Text)
    (nets : List NetInfo) (m : Module) :
    announceInfos U localNodeID session nets m = m.write (log U localNodeID session nets) := by
  unfold announceInfos log
  split
  · rfl
  · simp only
    rw [Module.foldl_write_cells announceInfo_eq_write, Module.announce_eq_write,
      Module.setValue_eq_write, ← Module.write_append, ← Module.write_append, sheet]
    rfl

section Fields

variable (info : NetInfo)

theorem lastWrite_textField (key key' value : Text) : lastWrite (textField key value) key' =
    if key' = key ∧ value ≠ [] then some value else none := by
  unfold textField
  by_cases hv : value = [] <;> by_cases hk : key' = key <;> simp [hv, hk, lastWrite_cons]

/-- The text fields with their keys. -/
def textFields : List (Text × (NetInfo → Text)) :=
  [(NETNAME, NetInfo.name), (NETHOSTNAME, NetInfo.hostname), (NETHWADDR, NetInfo.hwAddress),
    (NETINETADDR, NetInfo.inetAddress), (NETINET6ADDR, NetInfo.inet6Address)]

theorem lastWrite_fields_text {key : Text} {f : NetInfo → Text} (h : (key, f) ∈ textFields) :
    lastWrite (fields info) key = if f info ≠ [] then some (f info) else none := by
  simp only [textFields, List.mem_cons, List.not_mem_nil, or_false, Prod.mk.injEq] at h
  rcases h with ⟨rfl, rfl⟩ | ⟨rfl, rfl⟩ | ⟨rfl, rfl⟩ | ⟨rfl, rfl⟩ | ⟨rfl, rfl⟩ <;>
    by_cases hs : info.linkspeed = NetInfo.defaultValue <;>
    simp +decide [fields, hs, lastWrite_append, lastWrite_cons, lastWrite_textField]

@[simp] theorem lastWrite_fields_type : lastWrite (fields info) NETTYPE = some info.getType := by
  by_cases hs : info.linkspeed = NetInfo.defaultValue <;>
    simp +decide [fields, hs, lastWrite_append, lastWrite_cons, lastWrite_textField]

@[simp] theorem lastWrite_fields_linkspeed : lastWrite (fields info) NETLINKSPEED =
    if info.linkspeed ≠ NetInfo.defaultValue then some (putUnsigned info.linkspeed) else none := by
  by_cases hs : info.linkspeed = NetInfo.defaultValue <;>
    simp +decide [fields, hs, lastWrite_append, lastWrite_cons, lastWrite_textField]

@[simp] theorem lastWrite_fields_up : lastWrite (fields info) NETUP = some (putBool info.up) := by
  simp [fields, lastWrite_append, lastWrite_cons]

end Fields

/-! ## Decoding -/

/-- The text of a key of entry `k`. -/
def cell (sn : Snapshot) (host : Text) (k : Nat) (key : Text) : Text :=
  get sn host ((Slot.indexed k key).text NET)

theorem nNets_eq (sn : Snapshot) (host : Text) :
    nNets sn host = (extractUnsigned (get sn host ((Slot.plain NETCOUNT).text NET)) 0).toNat := by
  rw [nNets, getValue_unsigned_snd]

theorem discoverInfo_eq (U : Uint128Ops) (localNodeID : UInt128) (sn : Snapshot) (host : Text)
    (k : Nat) : discoverInfo U localNodeID sn host k =
      { discoverNode U NET sn host (NodeInfo.new localNodeID) with
        type := ((NetInfo.new localNodeID).setType (extractText (cell sn host k NETTYPE) [])).type
        name := extractText (cell sn host k NETNAME) []
        hostname := extractText (cell sn host k NETHOSTNAME) []
        hwAddress := extractText (cell sn host k NETHWADDR) []
        inetAddress := extractText (cell sn host k NETINETADDR) []
        inet6Address := extractText (cell sn host k NETINET6ADDR) []
        linkspeed := extractUnsigned (cell sn host k NETLINKSPEED) NetInfo.defaultValue
        up := extractBool (cell sn host k NETUP) false } := by
  simp only [discoverInfo, getValue_text_snd, getValue_unsigned_snd, getValue_bool_snd, cell]
  unfold NetInfo.setType
  split
  · rfl
  · split
    · rfl
    · split <;> rfl

end Net
end Hwsd
