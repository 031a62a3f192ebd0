import Mathlib.Data.List.Forall2
import Mathlib.Data.List.Induction
import Hwsd.Lib.Handles
import Hwsd.Sys.Module

/-!
# Hwsd.Sys.Adapters

The local network module on Windows (`net/sys/module.cpp`), where `GetAdaptersAddresses` lists the
adapters, each with its addresses. WinSock is started for the lookup of the addresses.

* `physicalText_inj`: a hardware address of any length is told by its text. `mac_eq`: the text is
  the one of the other systems, which write the first six bytes.
* `discoverAdapters_exact`: a record for each adapter.
* `discoverAdapters_handles`: a call that does not get the list leaves WinSock started.
-/

namespace Hwsd
namespace Sys

open CxxStream Handles

def AF_INET : UInt16 := 2

def IF_TYPE_ETHERNET_CSMACD : UInt32 := 6

def IF_TYPE_SOFTWARE_LOOPBACK : UInt32 := 24

def IfOperStatusUp : UInt32 := 1

/-- A unicast address, with the host that `getnameinfo` finds for it, if it does. -/
structure UnicastAddress where
  sa_family : UInt16
  numericHost : Option Text

/-- What the loop reads of an `IP_ADAPTER_ADDRESSES`; the name is the one in the buffer. -/
structure Adapter where
  IfType : UInt32
  OperStatus : UInt32
  TransmitLinkSpeed : UInt64
  FriendlyName : Text
  FirstUnicastAddress : List UnicastAddress
  PhysicalAddress : List UInt8

/-- A byte with `std::setw(2)`, `std::setfill('0')` and `std::hex`. -/
def hexByte (byte : UInt8) : Text := [hexDigit (byte.toNat / 16), hexDigit (byte.toNat % 16)]

/-- The bytes of a hardware address: all but the last one with a colon behind them. -/
def physicalText (physicalAddress : List UInt8) : Text :=
  (physicalAddress.dropLast.flatMap fun byte => hexByte byte ++ lit ":") ++
    physicalAddress.getLast?.elim [] hexByte

/-- The body of the loop over the addresses; the buffer is empty if there is no host. -/
def addUnicast (info : NetInfo) (addr : UnicastAddress) : NetInfo :=
  let buf := addr.numericHost.getD []
  if addr.sa_family = AF_INET then { info with inetAddress := buf }
  else { info with inet6Address := buf }

/-- What a call of the module opens. -/
inductive Handle where
  | winsock
  | memory
deriving DecidableEq

/-- What Windows answers during one call: whether WinSock starts, whether the size of the list is
told, and the list. -/
structure AdapterAnswers where
  wsaStartup : Bool
  bufferOverflow : Bool
  addresses : Option (List Adapter)

section

variable (localNodeID : UInt128)

/-- The body of the loop over the adapters. -/
def adapterInfo (current : Adapter) : NetInfo :=
  let info := NetInfo.new localNodeID
  let info :=
    if current.IfType = IF_TYPE_ETHERNET_CSMACD then { info with type := .ethernet }
    else if current.IfType = IF_TYPE_SOFTWARE_LOOPBACK then { info with type := .loopback }
    else info
  let info := { info with
    up := current.OperStatus = IfOperStatusUp
    linkspeed := (current.TransmitLinkSpeed / 1000000).toUInt32
    name := current.FriendlyName }
  let info := current.FirstUnicastAddress.foldl addUnicast info
  if current.PhysicalAddress.length ≠ 0 then
    { info with hwAddress := physicalText current.PhysicalAddress }
  else info

/-- `Module::discover` on Windows, with what it opens and closes. -/
def discoverAdapters (answers : AdapterAnswers) : List NetInfo × List (Handles.Event Handle) :=
  if !answers.wsaStartup then ([], []) else
  let es : List (Handles.Event Handle) := [.opened .winsock]
  if !answers.bufferOverflow then ([], es) else
  let es : List (Handles.Event Handle) := es ++ [.opened .memory]
  match answers.addresses with
  | none => ([], es ++ [.closed .memory])
  | some addresses =>
    (addresses.map (adapterInfo localNodeID), es ++ [.closed .memory] ++ [.closed .winsock])

end

/-! ## Hardware addresses -/

theorem hexDigit_inj {m n : Nat} (hm : m < 16) (hn : n < 16) (h : hexDigit m = hexDigit n) :
    m = n := by
  have heq := congrArg UInt8.toNat h
  simp only [hexDigit, UInt8.toNat_ofNat'] at heq
  split at heq
  · split at heq <;> omega
  · split at heq <;> omega

theorem hexByte_inj {a b : UInt8} (h : hexByte a = hexByte b) : a = b := by
  simp only [hexByte, List.cons.injEq, and_true] at h
  have ha := a.toNat_lt
  have hb := b.toNat_lt
  have hhigh := hexDigit_inj (by omega) (by omega) h.1
  have hlow := hexDigit_inj (by omega) (by omega) h.2
  apply UInt8.toNat_inj.mp
  omega

theorem noSpace_hexDigit : ∀ n, n < 16 → isSpace (hexDigit n) = false := by decide

theorem noSpace_hexByte (byte : UInt8) : NoSpace (hexByte byte) := by
  have hbyte := byte.toNat_lt
  intro c hc
  simp only [hexByte, List.mem_cons, List.not_mem_nil, or_false] at hc
  rcases hc with rfl | rfl
  · exact noSpace_hexDigit _ (by omega)
  · exact noSpace_hexDigit _ (by omega)

theorem physicalText_cons_cons (a b : UInt8) (bytes : List UInt8) :
    physicalText (a :: b :: bytes) = hexByte a ++ 58 :: physicalText (b :: bytes) := by
  simp [physicalText, lit]

theorem physicalText_ne_nil {bytes : List UInt8} (h : bytes ≠ []) : physicalText bytes ≠ [] := by
  obtain ⟨byte, hlast⟩ := Option.ne_none_iff_exists'.mp (mt List.getLast?_eq_none_iff.mp h)
  simp [physicalText, hlast, hexByte]

/-- No two hardware addresses have one text. -/
theorem physicalText_inj {a b : List UInt8} (h : physicalText a = physicalText b) : a = b := by
  induction a generalizing b with
  | nil =>
    by_contra hne
    exact physicalText_ne_nil (Ne.symm hne) h.symm
  | cons x a ih =>
    cases b with
    | nil => exact absurd h (physicalText_ne_nil (List.cons_ne_nil x a))
    | cons y b =>
      -- the first bytes have two digits each, and a colon follows if there are more bytes
      cases a with
      | nil =>
        cases b with
        | nil =>
          have hbyte : hexByte x = hexByte y := by simpa [physicalText] using h
          rw [hexByte_inj hbyte]
        | cons z b =>
          rw [physicalText_cons_cons] at h
          have hlen := congrArg List.length h
          simp [physicalText, hexByte] at hlen
      | cons w a =>
        cases b with
        | nil =>
          rw [physicalText_cons_cons] at h
          have hlen := congrArg List.length h
          simp [physicalText, hexByte] at hlen
        | cons z b =>
          rw [physicalText_cons_cons, physicalText_cons_cons] at h
          obtain ⟨hbyte, hrest⟩ := List.append_inj h rfl
          rw [hexByte_inj hbyte, ih (List.cons.inj hrest).2]

theorem noSpace_physicalText (bytes : List UInt8) : NoSpace (physicalText bytes) := by
  intro c hc
  rw [physicalText, List.mem_append, List.mem_flatMap] at hc
  rcases hc with ⟨byte, _, hc⟩ | hc
  · rcases List.mem_append.mp hc with hc | hc
    · exact noSpace_hexByte byte c hc
    · rw [List.mem_singleton.mp hc]
      rfl
  · cases hlast : bytes.getLast? with
    | none => simp [hlast] at hc
    | some byte =>
      rw [hlast] at hc
      exact noSpace_hexByte byte c hc

theorem six_le : 6 ≤ 8 := by decide

/-- The bytes of a link-layer address that are written. -/
def sixBytes (sll_addr : Fin 8 → UInt8) : List UInt8 :=
  (List.finRange 6).map fun i => sll_addr (i.castLE six_le)

theorem mac_eq (sll_addr : Fin 8 → UInt8) : mac sll_addr = physicalText (sixBytes sll_addr) := by
  simp [mac, sixBytes, physicalText, hexByte, List.finRange_succ]

/-- The text of a hardware address tells it: on Windows all its bytes, on the other systems the six
that are written, and as the same text. -/
theorem hwAddress_iff :
    (∀ bytes bytes' : List UInt8, physicalText bytes = physicalText bytes' ↔ bytes = bytes') ∧
    (∀ sll_addr : Fin 8 → UInt8, mac sll_addr = physicalText (sixBytes sll_addr)) ∧
    ∀ sll_addr sll_addr' : Fin 8 → UInt8, mac sll_addr = mac sll_addr' ↔
      ∀ i : Fin 8, i.val < 6 → sll_addr i = sll_addr' i := by
  refine ⟨fun bytes bytes' => ⟨physicalText_inj, congrArg physicalText⟩, mac_eq, ?_⟩
  intro sll_addr sll_addr'
  rw [mac_eq, mac_eq]
  constructor
  · intro h i hi
    have hmap := List.map_inj_left.mp (physicalText_inj h) ⟨i.val, hi⟩ (List.mem_finRange _)
    exact hmap
  · intro h
    exact congrArg physicalText (List.map_congr_left fun i _ => h _ i.isLt)

/-! ## Adapters -/

/-- What the last address of a kind says. -/
def lastHost (p : UnicastAddress → Bool) (addresses : List UnicastAddress) : Text :=
  ((addresses.filter p).getLast?.bind UnicastAddress.numericHost).getD []

/-- The record of an adapter. -/
structure DescribesAdapter (localNodeID : UInt128) (adapter : Adapter) (info : NetInfo) : Prop where
  node : info.toNodeInfo = NodeInfo.new localNodeID
  name : info.name = adapter.FriendlyName
  hostname : info.hostname = []
  type : info.type = if adapter.IfType = IF_TYPE_ETHERNET_CSMACD then .ethernet
    else if adapter.IfType = IF_TYPE_SOFTWARE_LOOPBACK then .loopback else .unknown
  up : info.up = decide (adapter.OperStatus = IfOperStatusUp)
  /-- In Mbit/s, cut to 32 bits. -/
  linkspeed : info.linkspeed.toNat = adapter.TransmitLinkSpeed.toNat / 1000000 % UInt32.size
  inetAddress : info.inetAddress =
    lastHost (fun addr => addr.sa_family = AF_INET) adapter.FirstUnicastAddress
  inet6Address : info.inet6Address =
    lastHost (fun addr => addr.sa_family ≠ AF_INET) adapter.FirstUnicastAddress
  hwAddress : info.hwAddress = physicalText adapter.PhysicalAddress

/-- The adapters that a call gets to see. -/
def AdapterAnswers.listed (answers : AdapterAnswers) : List Adapter :=
  if answers.wsaStartup && answers.bufferOverflow then answers.addresses.getD [] else []

/-- WinSock is started, and the list of the adapters is not had. -/
def AdapterAnswers.leavesStarted (answers : AdapterAnswers) : Bool :=
  answers.wsaStartup && !(answers.bufferOverflow && answers.addresses.isSome)

section

variable {localNodeID : UInt128}

/-- The addresses overwrite each other, family by family. -/
theorem foldl_addUnicast (info : NetInfo) (addresses : List UnicastAddress)
    (hinet : info.inetAddress = []) (hinet6 : info.inet6Address = []) :
    addresses.foldl addUnicast info =
      { info with
        inetAddress := lastHost (fun addr => addr.sa_family = AF_INET) addresses
        inet6Address := lastHost (fun addr => addr.sa_family ≠ AF_INET) addresses } := by
  induction addresses using List.reverseRecOn with
  | nil =>
    obtain ⟨_, _, _, _, _, _, _, _, _⟩ := info
    simp_all [lastHost]
  | append_singleton addresses addr ih =>
    rw [List.foldl_append, ih, List.foldl_cons, List.foldl_nil, addUnicast]
    by_cases haddr : addr.sa_family = AF_INET
    · simp [lastHost, haddr]
    · simp [lastHost, haddr]

theorem describesAdapter (localNodeID : UInt128) (adapter : Adapter) :
    DescribesAdapter localNodeID adapter (adapterInfo localNodeID adapter) := by
  have hinfo : adapterInfo localNodeID adapter =
      { NetInfo.new localNodeID with
        type := if adapter.IfType = IF_TYPE_ETHERNET_CSMACD then .ethernet
          else if adapter.IfType = IF_TYPE_SOFTWARE_LOOPBACK then .loopback else .unknown
        name := adapter.FriendlyName
        hwAddress := physicalText adapter.PhysicalAddress
        inetAddress := lastHost (fun addr => addr.sa_family = AF_INET) adapter.FirstUnicastAddress
        inet6Address := lastHost (fun addr => addr.sa_family ≠ AF_INET) adapter.FirstUnicastAddress
        linkspeed := (adapter.TransmitLinkSpeed / 1000000).toUInt32
        up := adapter.OperStatus = IfOperStatusUp } := by
    have haddress : ∀ info : NetInfo, info.hwAddress = [] →
        (if adapter.PhysicalAddress.length ≠ 0 then
          { info with hwAddress := physicalText adapter.PhysicalAddress } else info) =
          { info with hwAddress := physicalText adapter.PhysicalAddress } := by
      intro info hinfo
      split
      · rfl
      · rename_i hempty
        rw [List.length_eq_zero_iff.mp (not_not.mp hempty)]
        exact congrArg (fun t => { info with hwAddress := t }) hinfo
    unfold adapterInfo
    simp only
    rw [foldl_addUnicast _ _ (by split_ifs <;> rfl) (by split_ifs <;> rfl),
      haddress _ (by simp only; split_ifs <;> rfl)]
    split_ifs <;> rfl
  have hspeed : ((adapter.TransmitLinkSpeed / 1000000).toUInt32).toNat =
      adapter.TransmitLinkSpeed.toNat / 1000000 % UInt32.size := by
    rw [UInt64.toNat_toUInt32, UInt64.toNat_div]
    rfl
  rw [hinfo]
  exact ⟨rfl, rfl, rfl, rfl, rfl, hspeed, rfl, rfl, rfl⟩

theorem discoverAdapters_eq (answers : AdapterAnswers) : (discoverAdapters localNodeID answers).1 =
    answers.listed.map (adapterInfo localNodeID) := by
  unfold discoverAdapters AdapterAnswers.listed
  cases answers.wsaStartup with
  | false => rfl
  | true =>
    cases answers.bufferOverflow with
    | false => rfl
    | true => cases answers.addresses <;> rfl

theorem discoverAdapters_nested (answers : AdapterAnswers) (h : answers.leavesStarted = false) :
    Nested 2 (discoverAdapters localNodeID answers).2 := by
  unfold discoverAdapters
  unfold AdapterAnswers.leavesStarted at h
  cases hstart : answers.wsaStartup with
  | false => exact .nil 2
  | true =>
    rw [hstart, Bool.true_and, Bool.not_eq_false', Bool.and_eq_true] at h
    obtain ⟨addresses, haddresses⟩ := Option.isSome_iff_exists.mp h.2
    rw [h.1, haddresses]
    exact ((Nested.nil 0).around Handle.memory).around Handle.winsock

/-- A call leaves nothing open, or WinSock started. -/
theorem discoverAdapters_leaves (answers : AdapterAnswers) :
    Leaves (discoverAdapters localNodeID answers).2
      (if answers.leavesStarted then [.winsock] else []) := by
  cases hleaves : answers.leavesStarted with
  | false => exact (discoverAdapters_nested answers hleaves).leaves
  | true =>
    unfold AdapterAnswers.leavesStarted at hleaves
    unfold discoverAdapters
    cases hstart : answers.wsaStartup with
    | false => simp [hstart] at hleaves
    | true =>
      cases hsize : answers.bufferOverflow with
      | false => exact fun _ => rfl
      | true =>
        cases haddresses : answers.addresses with
        | none => exact fun _ => rfl
        | some addresses => simp [hsize, haddresses] at hleaves

end

/-- A call returns one record for each adapter, in order, and none if it does not get the list. -/
theorem discoverAdapters_exact (localNodeID : UInt128) (answers : AdapterAnswers) :
    List.Forall₂ (DescribesAdapter localNodeID) answers.listed
      (discoverAdapters localNodeID answers).1 := by
  rw [discoverAdapters_eq]
  refine List.forall₂_map_right_iff.mpr (List.forall₂_same.mpr fun adapter _ => ?_)
  exact describesAdapter localNodeID adapter

/-- Over any sequence of calls, the memory of the list is always given back, and WinSock stays
started once for each call that has started it and did not get the list; with no such call
everything is closed in turn. -/
theorem discoverAdapters_handles (localNodeID : UInt128) (calls : List AdapterAnswers) :
    let es := calls.flatMap fun answers => (discoverAdapters localNodeID answers).2
    Leaves es (List.replicate (calls.countP AdapterAnswers.leavesStarted) .winsock) ∧
      (Nested 2 es ↔ ∀ answers ∈ calls, answers.leavesStarted = false) :=
  ⟨leaves_flatMap_count discoverAdapters_leaves _,
    nested_flatMap_iff discoverAdapters_leaves discoverAdapters_nested _⟩

end Sys
end Hwsd
