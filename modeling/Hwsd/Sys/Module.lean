import Hwsd.Lib.Collect
import Hwsd.Info.Net

/-!
# Hwsd.Sys.Module

The local network module (`net/sys/module.cpp`) where it asks `getifaddrs`. The system lists one entry
for each address of an interface; the loop collects them by interface name.

* `discover`: the loop over the entries and the list made of the map.
* `field_record`: each field of a record comes from the last entry that writes it.
* `discover_interfaces`: which interfaces are returned, in which order, and what their records say.
-/

namespace Hwsd
namespace Sys

open CxxStream Collect

def IFF_UP : UInt32 := 0x1

def ARPHRD_ETHER : UInt16 := 1

def ARPHRD_INFINIBAND : UInt16 := 32

def ARPHRD_LOOPBACK : UInt16 := 772

/-- A socket address by its family (`AF_INET`, `AF_INET6`, `AF_PACKET` and others), with the host that
`getnameinfo` finds for it, if it does, with `NI_NUMERICHOST` and with `NI_NAMEREQD`. -/
inductive SockAddr where
  | inet (numericHost nameReqd : Option Text)
  | inet6 (numericHost : Option Text)
  | packet (sll_addr : Fin 8 → UInt8) (sll_hatype : UInt16)
  | other (sa_family : UInt16)

structure IfAddrs where
  ifa_name : Text
  ifa_flags : UInt32
  ifa_addr : Option SockAddr

def hexDigit (n : Nat) : Byte := UInt8.ofNat (if n < 10 then 48 + n else 87 + n)

/-- The bytes of a hardware address, each `std::setw(2)` with `std::setfill('0')` and `std::hex`. -/
def mac (sll_addr : Fin 8 → UInt8) : Text :=
  (List.finRange 6).flatMap fun i =>
    let byte := (sll_addr (i.castLE (by decide))).toNat
    [hexDigit (byte / 16), hexDigit (byte % 16)] ++ if i < 5 then lit ":" else []

def packetType (sll_hatype : UInt16) : NetType :=
  if sll_hatype = ARPHRD_ETHER then .ethernet
  else if sll_hatype = ARPHRD_LOOPBACK then .loopback
  else if sll_hatype = ARPHRD_INFINIBAND then .infiniband
  else .unknown

/-- The body of the loop for an entry with an address. -/
def update (ifa : IfAddrs) (ifa_addr : SockAddr) (info : NetInfo) : NetInfo :=
  let info := { info with name := ifa.ifa_name, up := ifa.ifa_flags &&& IFF_UP ≠ 0 }
  match ifa_addr with
  | .inet numericHost nameReqd =>
    { info with
      inetAddress := numericHost.getD info.inetAddress
      hostname := nameReqd.getD info.hostname }
  | .inet6 numericHost => { info with inet6Address := numericHost.getD info.inet6Address }
  | .packet sll_addr sll_hatype =>
    { info with type := packetType sll_hatype, hwAddress := mac sll_addr }
  | .other _ => info

section

variable (localNodeID : UInt128)

/-- `infos[ifa->ifa_name]` constructs the record of a new name. -/
def scan (infos : Std.TreeMap Text NetInfo) (ifa : IfAddrs) : Std.TreeMap Text NetInfo :=
  match ifa.ifa_addr with
  | none => infos
  | some ifa_addr => infos.alter ifa.ifa_name fun info =>
    some (update ifa ifa_addr (info.getD (NetInfo.new localNodeID)))

/-- `Module::discover`; there are no entries if `getifaddrs` fails. -/
def discover : Option (List IfAddrs) → List NetInfo
  | none => []
  | some ifaddr => (ifaddr.foldl (scan localNodeID) ∅).toList.map Prod.snd

end

/-! ## The entries of an interface -/

namespace SockAddr

def inetAddress : SockAddr → Option Text
  | inet numericHost _ => numericHost
  | _ => none

def hostname : SockAddr → Option Text
  | inet _ nameReqd => nameReqd
  | _ => none

def inet6Address : SockAddr → Option Text
  | inet6 numericHost => numericHost
  | _ => none

def type : SockAddr → Option NetType
  | packet _ sll_hatype => some (packetType sll_hatype)
  | _ => none

def hwAddress : SockAddr → Option Text
  | packet sll_addr _ => some (mac sll_addr)
  | _ => none

end SockAddr

def isUp (ifa : IfAddrs) : Bool := ifa.ifa_flags &&& IFF_UP ≠ 0

/-- What the last entry says whose address says something. -/
def lastOf {φ : Type} (write : IfAddrs → SockAddr → Option φ) (entries : List IfAddrs) :
    Option φ :=
  (entries.filterMap fun ifa => ifa.ifa_addr.bind (write ifa)).getLast?

def ofInterface (n : Text) (entries : List IfAddrs) : List IfAddrs :=
  entries.filter fun ifa => ifa.ifa_name = n

/-- The record of an interface with these entries. -/
structure Describes (localNodeID : UInt128) (entries : List IfAddrs) (info : NetInfo) : Prop where
  node : info.toNodeInfo = NodeInfo.new localNodeID
  linkspeed : info.linkspeed = NetInfo.defaultValue
  inetAddress : info.inetAddress = (lastOf (fun _ => SockAddr.inetAddress) entries).getD []
  inet6Address : info.inet6Address = (lastOf (fun _ => SockAddr.inet6Address) entries).getD []
  hostname : info.hostname = (lastOf (fun _ => SockAddr.hostname) entries).getD []
  type : info.type = (lastOf (fun _ => SockAddr.type) entries).getD .unknown
  hwAddress : info.hwAddress = (lastOf (fun _ => SockAddr.hwAddress) entries).getD []
  up : lastOf (fun ifa _ => some (isUp ifa)) entries = some info.up

/-- The name under which an entry is collected. -/
def key (ifa : IfAddrs) : Option Text := ifa.ifa_addr.map fun _ => ifa.ifa_name

def step (info : NetInfo) (ifa : IfAddrs) : NetInfo :=
  match ifa.ifa_addr with
  | none => info
  | some ifa_addr => update ifa ifa_addr info

section

variable {localNodeID : UInt128} {entries : List IfAddrs}

theorem scan_eq_visit : scan localNodeID = visit key (NetInfo.new localNodeID) step := by
  funext infos ifa
  rw [scan, visit, key]
  unfold step
  cases ifa.ifa_addr with
  | none => rfl
  | some ifa_addr => rfl

theorem ofKey_eq (n : Text) : ofKey key n entries =
    (ofInterface n entries).filter fun ifa => ifa.ifa_addr.isSome := by
  rw [ofKey, ofInterface, List.filter_filter]
  refine List.filter_congr fun ifa _ => ?_
  rw [key]
  cases ifa.ifa_addr <;> simp

theorem ofKey_ne_nil {n : Text} :
    ofKey key n entries ≠ [] ↔ ∃ ifa ∈ entries, ifa.ifa_name = n ∧ ifa.ifa_addr ≠ none := by
  have hkey : ∀ ifa : IfAddrs, key ifa = some n ↔ ifa.ifa_name = n ∧ ifa.ifa_addr ≠ none := by
    intro ifa
    rw [key]
    cases ifa.ifa_addr <;> simp
  simp [ofKey, List.filter_eq_nil_iff, hkey]

/-- The record of the interface `n` when the loop has ended. -/
def record (localNodeID : UInt128) (entries : List IfAddrs) (n : Text) : NetInfo :=
  (ofKey key n entries).foldl step (NetInfo.new localNodeID)

theorem mem_discover {info : NetInfo} : info ∈ discover localNodeID (some entries) ↔
    ∃ n, ofKey key n entries ≠ [] ∧ record localNodeID entries n = info := by
  rw [discover, scan_eq_visit, List.mem_map]
  simp only [Prod.exists, exists_eq_right]
  exact exists_congr fun n => mem_toList_collect

/-- A field that an entry with an address overwrites or keeps. -/
theorem field_record {φ : Type} (field : NetInfo → φ) (write : IfAddrs → SockAddr → Option φ)
    (h : ∀ info ifa ifa_addr, field (update ifa ifa_addr info) =
      (write ifa ifa_addr).getD (field info)) (n : Text) :
    field (record localNodeID entries n) =
      (lastOf write (ofInterface n entries)).getD (field (NetInfo.new localNodeID)) := by
  have hstep : ∀ info ifa, field (step info ifa) =
      (ifa.ifa_addr.bind (write ifa)).getD (field info) := by
    intro info ifa
    rw [step]
    cases ifa.ifa_addr with
    | none => rfl
    | some ifa_addr => exact h info ifa ifa_addr
  rw [record, field_foldl hstep, ofKey_eq, List.filterMap_filter, lastOf]
  congr 3
  funext ifa
  cases ifa.ifa_addr <;> rfl

/-- A field that no entry writes. -/
theorem field_record_const {φ : Type} (field : NetInfo → φ)
    (h : ∀ info ifa ifa_addr, field (update ifa ifa_addr info) = field info) (n : Text) :
    field (record localNodeID entries n) = field (NetInfo.new localNodeID) := by
  have hnone : lastOf (fun _ _ => (none : Option φ)) (ofInterface n entries) = none := by
    simp [lastOf]
  rw [field_record field (fun _ _ => none) h, hnone, Option.getD_none]

/-- Something that every address says has a last value. -/
theorem lastOf_total {φ : Type} (write : IfAddrs → φ) {n : Text} (h : ofKey key n entries ≠ []) :
    ∃ ifa ∈ ofInterface n entries,
      lastOf (fun ifa _ => some (write ifa)) (ofInterface n entries) = some (write ifa) := by
  rw [lastOf]
  cases hlast : ((ofInterface n entries).filterMap fun ifa =>
      ifa.ifa_addr.bind fun _ => some (write ifa)).getLast? with
  | none =>
    rw [List.getLast?_eq_none_iff, List.filterMap_eq_nil_iff] at hlast
    obtain ⟨ifa, hifa, hname, haddr⟩ := ofKey_ne_nil.mp h
    have hmem : ifa ∈ ofInterface n entries := List.mem_filter.mpr ⟨hifa, by simpa using hname⟩
    have hnone := hlast ifa hmem
    cases hifa_addr : ifa.ifa_addr with
    | none => exact absurd hifa_addr haddr
    | some ifa_addr =>
      rw [hifa_addr] at hnone
      cases hnone
  | some a =>
    obtain ⟨ifa, hifa, heq⟩ := List.mem_filterMap.mp (List.mem_of_getLast? hlast)
    obtain ⟨_, _, hwrite⟩ := Option.bind_eq_some_iff.mp heq
    exact ⟨ifa, hifa, hwrite.symm⟩

theorem name_record {n : Text} (h : ofKey key n entries ≠ []) :
    (record localNodeID entries n).name = n := by
  obtain ⟨ifa, hifa, hlast⟩ := lastOf_total IfAddrs.ifa_name h
  rw [field_record NetInfo.name (fun ifa _ => some ifa.ifa_name), hlast]
  · simpa using List.of_mem_filter hifa
  · intro info ifa ifa_addr
    cases ifa_addr <;> rfl

theorem up_record {n : Text} (h : ofKey key n entries ≠ []) :
    lastOf (fun ifa _ => some (isUp ifa)) (ofInterface n entries) =
      some (record localNodeID entries n).up := by
  obtain ⟨ifa, _, hlast⟩ := lastOf_total isUp h
  rw [field_record NetInfo.up (fun ifa _ => some (isUp ifa)), hlast]
  · rfl
  · intro info ifa ifa_addr
    cases ifa_addr <;> rfl

theorem describes_record {n : Text} (h : ofKey key n entries ≠ []) :
    Describes localNodeID (ofInterface n entries) (record localNodeID entries n) := by
  constructor
  · refine field_record_const NetInfo.toNodeInfo (fun info ifa ifa_addr => ?_) n
    cases ifa_addr <;> rfl
  · refine field_record_const NetInfo.linkspeed (fun info ifa ifa_addr => ?_) n
    cases ifa_addr <;> rfl
  · refine field_record NetInfo.inetAddress _ (fun info ifa ifa_addr => ?_) n
    cases ifa_addr <;> rfl
  · refine field_record NetInfo.inet6Address _ (fun info ifa ifa_addr => ?_) n
    cases ifa_addr <;> rfl
  · refine field_record NetInfo.hostname _ (fun info ifa ifa_addr => ?_) n
    cases ifa_addr <;> rfl
  · refine field_record NetInfo.type _ (fun info ifa ifa_addr => ?_) n
    cases ifa_addr <;> rfl
  · refine field_record NetInfo.hwAddress _ (fun info ifa ifa_addr => ?_) n
    cases ifa_addr <;> rfl
  · exact up_record h

theorem mem_discover_iff {info : NetInfo} : info ∈ discover localNodeID (some entries) ↔
    ofKey key info.name entries ≠ [] ∧ record localNodeID entries info.name = info := by
  rw [mem_discover]
  constructor
  · rintro ⟨n, hn, rfl⟩
    rw [name_record hn]
    exact ⟨hn, rfl⟩
  · rintro ⟨hn, hinfo⟩
    exact ⟨info.name, hn, hinfo⟩

/-- The records are in the order of the map. -/
theorem sorted_discover : ((discover localNodeID (some entries)).map NetInfo.name).Pairwise
    fun a b => compare a b = .lt := by
  rw [discover, scan_eq_visit, List.map_map]
  have hname : ∀ p ∈ (collect key (NetInfo.new localNodeID) step entries).toList,
      (NetInfo.name ∘ Prod.snd) p = p.1 := by
    intro p hp
    obtain ⟨hn, hrecord⟩ := mem_toList_collect.mp hp
    rw [Function.comp, ← hrecord]
    exact name_record hn
  show (List.map _ (collect key (NetInfo.new localNodeID) step entries).toList).Pairwise _
  rw [List.map_congr_left hname, List.pairwise_map]
  exact Std.TreeMap.ordered_keys_toList

theorem discover_congr {entries' : List IfAddrs}
    (h : ∀ n, ofInterface n entries' = ofInterface n entries) :
    discover localNodeID (some entries') = discover localNodeID (some entries) := by
  rw [discover, discover, scan_eq_visit]
  refine congrArg (List.map Prod.snd) (toList_collect_congr fun n => ?_)
  rw [ofKey_eq, ofKey_eq, h n]

/-- An entry plays no part in the records of other interfaces. -/
theorem mem_discover_congr {pre post : List IfAddrs} {ifa : IfAddrs} {info : NetInfo}
    (h : info.name ≠ ifa.ifa_name) : info ∈ discover localNodeID (some (pre ++ ifa :: post)) ↔
      info ∈ discover localNodeID (some (pre ++ post)) := by
  have hkey : key ifa ≠ some info.name := by
    rw [key]
    cases ifa.ifa_addr <;> simp [h.symm]
  have hof : ofKey key info.name (pre ++ ifa :: post) = ofKey key info.name (pre ++ post) := by
    simp [ofKey, hkey]
  rw [mem_discover_iff, mem_discover_iff, record, record, hof]

end

/-- The local network module returns one record for each interface that has an address, in the order
of the names. A record is made of what the entries of its interface say last, so only the order of
these entries counts, and entries of other interfaces do not. -/
theorem discover_interfaces (localNodeID : UInt128) (entries : List IfAddrs) :
    let result := discover localNodeID (some entries)
    (result.map NetInfo.name).Pairwise (fun a b => compare a b = .lt) ∧
    (∀ n, n ∈ result.map NetInfo.name ↔
      ∃ ifa ∈ entries, ifa.ifa_name = n ∧ ifa.ifa_addr ≠ none) ∧
    (∀ info ∈ result, Describes localNodeID (ofInterface info.name entries) info) ∧
    (∀ entries', (∀ n, ofInterface n entries' = ofInterface n entries) →
      discover localNodeID (some entries') = result) ∧
    ∀ pre ifa post, entries = pre ++ ifa :: post → ∀ info, info.name ≠ ifa.ifa_name →
      (info ∈ result ↔ info ∈ discover localNodeID (some (pre ++ post))) := by
  intro result
  refine ⟨sorted_discover, fun n => ?_, ?_, fun _ => discover_congr, ?_⟩
  · rw [List.mem_map, ← ofKey_ne_nil]
    constructor
    · rintro ⟨info, hinfo, rfl⟩
      exact (mem_discover_iff.mp hinfo).1
    · intro hn
      exact ⟨record localNodeID entries n, mem_discover.mpr ⟨n, hn, rfl⟩, name_record hn⟩
  · intro info hinfo
    obtain ⟨hn, hrecord⟩ := mem_discover_iff.mp hinfo
    have hdescribes : Describes localNodeID (ofInterface info.name entries)
        (record localNodeID entries info.name) := describes_record hn
    rwa [hrecord] at hdescribes
  · rintro pre ifa post rfl info hname
    exact mem_discover_congr hname

/-- An entry without an address is skipped, also as the last one of its interface. -/
theorem up_of_skipped :
    let eth0 : IfAddrs := ⟨lit "eth0", IFF_UP, some (.packet (fun _ => 0) ARPHRD_ETHER)⟩
    let entries := [eth0, { eth0 with ifa_flags := 0, ifa_addr := none }]
    ¬ ∀ info ∈ discover 7 (some entries),
      (ofInterface info.name entries).getLast?.map isUp = some info.up := by
  decide

end Sys
end Hwsd
