import Hwsd.DnsSd.Net

/-!
# Hwsd.Codec.Net

What a browser decodes from an announcement of network interfaces.

* `discoverHost_over`: the decoded list when the record already holds other writes. Keys that the
  announcement leaves out are read from them (`receivedOver`).
* `discoverHost_announced`: the list decoded from a fresh service. Every text passes through
  formatted extraction and the type through `setType` (`received`); the link speed and the state
  arrive unchanged.
* `codec_round_trip_iff`: with texts that no white space cuts, the round trip holds exactly for
  lists without tunnel interfaces.
* `texts_survive_iff`: the texts arrive unchanged exactly when none of them holds white space.
-/

namespace Hwsd
namespace Net

open CxxStream KvStore DnsSd

/-- The module before its first announcement. -/
def fresh : Module := ⟨∅, NET⟩

/-- What a browser makes of an announced interface. -/
def received (nodeID : UInt128) (host session : Text) (info : NetInfo) : NetInfo :=
  { info with
    id := nodeID, nodeName := host, session := session,
    type := (info.setType info.getType).type
    name := extractText info.name []
    hostname := extractText info.hostname []
    hwAddress := extractText info.hwAddress []
    inetAddress := extractText info.inetAddress []
    inet6Address := extractText info.inet6Address [] }

/-- What it makes of it as entry `k` of a record on which the writes `E` had been made before: where
the announcement leaves keys out, theirs are read. -/
def receivedOver (E : List (Slot × Text)) (nodeID : UInt128) (host session : Text) (k : Nat)
    (info : NetInfo) : NetInfo :=
  let text key value := extractText (if value ≠ [] then value else residue E k key) []
  { received nodeID host session info with
    name := text NETNAME info.name
    hostname := text NETHOSTNAME info.hostname
    hwAddress := text NETHWADDR info.hwAddress
    inetAddress := text NETINETADDR info.inetAddress
    inet6Address := text NETINET6ADDR info.inet6Address
    linkspeed :=
      if info.linkspeed ≠ NetInfo.defaultValue then info.linkspeed
      else extractUnsigned (residue E k NETLINKSPEED) NetInfo.defaultValue }

theorem receivedOver_nil (nodeID : UInt128) (host session : Text) (k : Nat) :
    receivedOver [] nodeID host session k = received nodeID host session := by
  have htext : ∀ t key : Text, (if t ≠ [] then t else residue [] k key) = t := by
    intro t key
    by_cases ht : t = []
    · rw [ht]
      rfl
    · rw [if_pos ht]
  funext info
  have hspeed : (if info.linkspeed ≠ NetInfo.defaultValue then info.linkspeed
      else extractUnsigned (residue [] k NETLINKSPEED) NetInfo.defaultValue) = info.linkspeed := by
    by_cases hs : info.linkspeed = NetInfo.defaultValue
    · rw [hs]
      rfl
    · rw [if_pos hs]
  simp only [receivedOver, htext, hspeed]
  rfl

theorem log_apart {U : Uint128Ops} {nodeID : UInt128} {session : Text} {nets : List NetInfo} :
    ∀ w ∈ log U nodeID session nets, w.1.Apart NET := by
  unfold log
  split
  · simp
  · exact sheet_apart _ _ _ _ _ reserved

section Announced

variable {U : Uint128Ops} {nodeID localNodeID : UInt128} {session host : Text}
  {nets : List NetInfo} {sn : Snapshot}

theorem lastWrite_log_indexed (k : Nat) (key : Text) :
    lastWrite (log U nodeID session nets) (.indexed k key) =
      (eraseLoopback nets)[k]?.bind fun info => lastWrite (fields info) key := by
  unfold log
  split
  · rename_i h; subst h; simp [eraseLoopback]
  · exact lastWrite_sheet_indexed _ _ _ _ _ k key

theorem lastWrite_log_count : lastWrite (log U nodeID session nets) (.plain NETCOUNT) =
    if nets = [] then none else some (putNat (eraseLoopback nets).length) := by
  unfold log
  split
  · rfl
  · exact lastWrite_sheet_count _ _ _ _ _

section Over

variable {E : List (Slot × Text)} (hE : ∀ w ∈ E, w.1.Apart NET)
  (h : sn.lookup host = some (setAll (spell NET (E ++ log U nodeID session nets)) ∅))

include hE h

/-- A count that no `unsigned` can hold is read as the largest one. -/
theorem nNets_over (hne : nets ≠ []) :
    nNets sn host = min (eraseLoopback nets).length (UInt32.size - 1) := by
  rw [nNets_eq, get_spell_append hE log_apart (Slot.apart_plain _ _) h, lastWrite_log_count,
    if_neg hne, Option.some_or, Option.getD_some, toNat_extractUnsigned_putNat]

theorem discoverInfo_over {k : Nat} {info : NetInfo} (hk : (eraseLoopback nets)[k]? = some info) :
    discoverInfo U localNodeID sn host k =
      receivedOver E (receivedID U nodeID localNodeID host) host
        (extractText session getLocalSession) k info := by
  have hne : nets ≠ [] := by rintro rfl; simp [eraseLoopback] at hk
  have hnode : discoverNode U NET sn host (NodeInfo.new localNodeID) =
      { id := receivedID U nodeID localNodeID host, nodeName := host,
        session := extractText session getLocalSession } := by
    rw [log, if_neg hne] at h
    exact discoverNode_sheet _ _ _ _ rfl hE reserved h _
  have hcell : ∀ key, cell sn host k key =
      ((lastWrite (fields info) key).or (lastWrite E (.indexed k key))).getD [] := by
    intro key
    rw [cell, get_spell_append hE log_apart (Slot.apart_indexed _ _ _) h, lastWrite_log_indexed, hk,
      Option.bind_some]
  have htext : ∀ key f, (key, f) ∈ textFields →
      cell sn host k key = if f info ≠ [] then f info else residue E k key := by
    intro key f hf
    rw [hcell, lastWrite_fields_text info hf]
    split <;> rfl
  have htype : extractText (cell sn host k NETTYPE) [] = info.getType := by
    rw [hcell, lastWrite_fields_type, Option.some_or, Option.getD_some,
      extractText_eq_self info.getType_ne_nil info.noSpace_getType]
  have hspeed : extractUnsigned (cell sn host k NETLINKSPEED) NetInfo.defaultValue =
      if info.linkspeed ≠ NetInfo.defaultValue then info.linkspeed
      else extractUnsigned (residue E k NETLINKSPEED) NetInfo.defaultValue := by
    rw [hcell, lastWrite_fields_linkspeed]
    split
    · exact (unsigned_roundTrips info.linkspeed).2 _
    · rfl
  have hup : extractBool (cell sn host k NETUP) false = info.up := by
    rw [hcell, lastWrite_fields_up, Option.some_or, Option.getD_some]
    exact (bool_roundTrips info.up).2 false
  rw [discoverInfo_eq, hnode, htype, hspeed, hup, htext NETNAME NetInfo.name (by simp [textFields]),
    htext NETHOSTNAME NetInfo.hostname (by simp [textFields]),
    htext NETHWADDR NetInfo.hwAddress (by simp [textFields]),
    htext NETINETADDR NetInfo.inetAddress (by simp [textFields]),
    htext NETINET6ADDR NetInfo.inet6Address (by simp [textFields])]
  rw [receivedOver, received, NetInfo.type_setType_eq info (NetInfo.new localNodeID)]

/-- The list decoded from an announcement on a record that already holds some writes. -/
theorem discoverHost_over (hne : nets ≠ []) : discoverHost U localNodeID sn host =
    ((eraseLoopback nets).take (UInt32.size - 1)).mapIdx
      (receivedOver E (receivedID U nodeID localNodeID host) host
        (extractText session getLocalSession)) := by
  have hlen : nNets sn host = ((eraseLoopback nets).take (UInt32.size - 1)).length := by
    rw [nNets_over hE h hne, List.length_take]
    omega
  rw [discoverHost, hlen, ← List.filterMap_eq_map]
  refine filterMap_range fun k info hk => ?_
  rw [List.getElem?_take] at hk
  split at hk
  · exact congrArg some (discoverInfo_over hE h hk)
  · cases hk

end Over

theorem service_announceInfos (U : Uint128Ops) (nodeID : UInt128) (session : Text)
    (nets : List NetInfo) : (announceInfos U nodeID session nets fresh).service =
      setAll (spell NET (log U nodeID session nets)) ∅ := by
  rw [announceInfos_eq_write]
  rfl

/-- The list decoded from an announcement on a fresh service. -/
theorem discoverHost_announced
    (h : sn.lookup host = some (announceInfos U nodeID session nets fresh).service) :
    discoverHost U localNodeID sn host = ((eraseLoopback nets).take (UInt32.size - 1)).map
      (received (receivedID U nodeID localNodeID host) host
        (extractText session getLocalSession)) := by
  rw [service_announceInfos, ← List.nil_append (log U nodeID session nets)] at h
  by_cases hne : nets = []
  · have hcount := get_spell_append (by simp) log_apart (Slot.apart_plain NET NETCOUNT) h
    rw [lastWrite_log_count, if_pos hne] at hcount
    rw [discoverHost, nNets_eq, hcount, hne]
    rfl
  · rw [discoverHost_over (by simp) h hne, List.mapIdx_eq_zipIdx_map]
    simp only [receivedOver_nil]
    conv_rhs =>
      rw [← List.zipIdx_map_fst 0 ((eraseLoopback nets).take (UInt32.size - 1)), List.map_map]
    rfl

end Announced

/-! ## Round trips -/

theorem received_texts_iff (nodeID : UInt128) (host session : Text) (info : NetInfo) :
    (received nodeID host session info).texts = info.texts ↔ ∀ t ∈ info.texts, NoSpace t := by
  simp [received, NetInfo.texts, extractText_nil_eq_self]

theorem received_eq_iff {info : NetInfo} (htype : info.type ≠ .all)
    (htext : ∀ t ∈ info.texts, NoSpace t) (nodeID : UInt128) (host session : Text) :
    received nodeID host session info =
        { info with id := nodeID, nodeName := host, session := session } ↔
      info.type ≠ .tunnelEthernet ∧ info.type ≠ .tunnel6to4 := by
  have ht : (info.setType info.getType).type = info.type ↔
      info.type ≠ .tunnelEthernet ∧ info.type ≠ .tunnel6to4 := by
    rw [NetInfo.type_setType_getType]
    exact ⟨fun h => ⟨h.1, h.2.1⟩, fun h => ⟨h.1, h.2, htype⟩⟩
  rw [← ht, received]
  simp only [NetInfo.texts, List.mem_cons, List.not_mem_nil, or_false, forall_eq_or_imp,
    forall_eq] at htext
  obtain ⟨h1, h2, h3, h4, h5⟩ := htext
  rw [extractText_nil_eq_self.mpr h1, extractText_nil_eq_self.mpr h2,
    extractText_nil_eq_self.mpr h3, extractText_nil_eq_self.mpr h4,
    extractText_nil_eq_self.mpr h5]
  simp

/-- A published list of interfaces is decoded unchanged, in order, for the announcing host and
session, exactly when it holds no tunnel interface: `setType` does not know their names. -/
theorem codec_round_trip_iff (U : Uint128Ops) (nodeID localNodeID : UInt128) (sn : Snapshot)
    (host session : Text) (nets : List NetInfo) (hlen : (eraseLoopback nets).length < UInt32.size)
    (htype : ∀ info ∈ eraseLoopback nets, info.type ≠ .all)
    (htext : ∀ info ∈ eraseLoopback nets, ∀ t ∈ info.texts, NoSpace t)
    (hsession : session ≠ []) (hspace : NoSpace session)
    (h : sn.lookup host = some (announceInfos U nodeID session nets fresh).service) :
    (∃ id, discoverHost U localNodeID sn host = (eraseLoopback nets).map fun info =>
        { info with id := id, nodeName := host, session := session }) ↔
      ∀ info ∈ eraseLoopback nets, info.type ≠ .tunnelEthernet ∧ info.type ≠ .tunnel6to4 := by
  rw [discoverHost_announced h, List.take_of_length_le (by omega),
    extractText_eq_self hsession hspace]
  constructor
  · rintro ⟨id, heq⟩ info hinfo
    have hi := List.map_inj_left.mp heq info hinfo
    have hid : id = receivedID U nodeID localNodeID host := (congrArg (·.id) hi).symm
    rw [hid] at hi
    exact (received_eq_iff (htype info hinfo) (htext info hinfo) _ _ _).mp hi
  · intro hall
    refine ⟨receivedID U nodeID localNodeID host, List.map_congr_left fun info hinfo => ?_⟩
    exact (received_eq_iff (htype info hinfo) (htext info hinfo) _ _ _).mpr (hall info hinfo)

theorem codec_round_trip_iff_eth0 :
    let nets : List NetInfo :=
      [{ NetInfo.new 7 with type := .loopback, name := lit "lo" },
        { NetInfo.new 7 with type := .ethernet, name := lit "eth0", up := true }]
    let sn : Snapshot := (∅ : Snapshot).insert (lit "node1")
      (announceInfos hexUint128 7 (lit "default") nets fresh).service
    (∃ id, discoverHost hexUint128 9 sn (lit "node1") = (eraseLoopback nets).map fun info =>
        { info with id := id, nodeName := lit "node1", session := lit "default" }) ↔
      ∀ info ∈ eraseLoopback nets, info.type ≠ .tunnelEthernet ∧ info.type ≠ .tunnel6to4 :=
  codec_round_trip_iff hexUint128 7 9 _ (lit "node1") (lit "default") _ (by decide) (by decide)
    (by decide) (by decide) (by decide) (AList.lookup_insert _)

/-- A tunnel interface comes back with the type `UNKNOWN`. -/
theorem codec_round_trip_gif0 :
    let nets : List NetInfo := [{ NetInfo.new 7 with type := .tunnelEthernet, name := lit "gif0" }]
    let sn : Snapshot := (∅ : Snapshot).insert (lit "node1")
      (announceInfos hexUint128 7 (lit "default") nets fresh).service
    ¬ ∃ id, discoverHost hexUint128 9 sn (lit "node1") = (eraseLoopback nets).map fun info =>
        { info with id := id, nodeName := lit "node1", session := lit "default" } := by
  rintro nets sn ⟨id, h⟩
  have hne : (discoverHost hexUint128 9 sn (lit "node1")).map (·.type) ≠
      (eraseLoopback nets).map (·.type) := by decide
  apply hne
  rw [h, List.map_map]
  rfl

theorem eraseLoopback_of_forall {nets : List NetInfo} (h : ∀ info ∈ nets, info.type ≠ .loopback) :
    eraseLoopback nets = nets := by
  induction nets with
  | nil => rfl
  | cons info nets ih =>
    rw [eraseLoopback, if_neg (h info (by simp)), ih fun i hi => h i (by simp [hi])]

/-- The name, hostname and addresses of announced interfaces arrive as they were announced exactly
when none of them holds white space, at which the extraction stops, and the entries can be
counted. -/
theorem texts_survive_iff (U : Uint128Ops) (nodeID localNodeID : UInt128) (sn : Snapshot)
    (host session : Text) (nets : List NetInfo)
    (htype : ∀ info ∈ nets, info.type = .ethernet ∨ info.type = .infiniband ∨ info.type = .unknown)
    (h : sn.lookup host = some (announceInfos U nodeID session nets fresh).service) :
    (∀ (k : Nat) (info : NetInfo), nets[k]? = some info → ∃ info' : NetInfo,
        (discoverHost U localNodeID sn host)[k]? = some info' ∧ info'.name = info.name ∧
          info'.hostname = info.hostname ∧ info'.hwAddress = info.hwAddress ∧
          info'.inetAddress = info.inetAddress ∧ info'.inet6Address = info.inet6Address) ↔
      nets.length < UInt32.size ∧ ∀ info ∈ nets, ∀ t ∈ info.texts, NoSpace t := by
  have hloop : eraseLoopback nets = nets := by
    refine eraseLoopback_of_forall fun info hinfo => ?_
    rcases htype info hinfo with ht | ht | ht <;> simp [ht]
  have htexts : ∀ a b : NetInfo, a.texts = b.texts ↔ a.name = b.name ∧ a.hostname = b.hostname ∧
      a.hwAddress = b.hwAddress ∧ a.inetAddress = b.inetAddress ∧
      a.inet6Address = b.inet6Address := by
    intro a b
    simp [NetInfo.texts]
  simp only [discoverHost_announced h, hloop, ← htexts]
  constructor
  · intro hall
    have hlen : nets.length < UInt32.size := by
      by_contra hge
      have hlast : UInt32.size - 1 < nets.length := by
        simp only [UInt32.size] at hge ⊢
        omega
      obtain ⟨info', hi, _⟩ := hall (UInt32.size - 1) nets[UInt32.size - 1]
        (List.getElem?_eq_getElem hlast)
      rw [List.getElem?_eq_none (by rw [List.length_map, List.length_take]; omega)] at hi
      cases hi
    refine ⟨hlen, fun info hinfo => ?_⟩
    obtain ⟨k, hk⟩ := List.mem_iff_getElem?.mp hinfo
    obtain ⟨info', hi, ht⟩ := hall k info hk
    rw [List.take_of_length_le (by omega), List.getElem?_map, hk, Option.map_some,
      Option.some.injEq] at hi
    rw [← hi] at ht
    exact (received_texts_iff _ _ _ _).mp ht
  · rintro ⟨hlen, hspace⟩ k info hk
    refine ⟨received (receivedID U nodeID localNodeID host) host
      (extractText session getLocalSession) info, ?_, ?_⟩
    · rw [List.take_of_length_le (by omega), List.getElem?_map, hk, Option.map_some]
    · exact (received_texts_iff _ _ _ _).mpr (hspace info (List.mem_of_getElem? hk))

theorem texts_survive_iff_eth0 :
    let nets : List NetInfo :=
      [{ NetInfo.new 7 with type := .ethernet, name := lit "eth0", hostname := lit "node1" }]
    let sn : Snapshot := (∅ : Snapshot).insert (lit "node1")
      (announceInfos hexUint128 7 (lit "default") nets fresh).service
    (∀ (k : Nat) (info : NetInfo), nets[k]? = some info → ∃ info' : NetInfo,
        (discoverHost hexUint128 9 sn (lit "node1"))[k]? = some info' ∧ info'.name = info.name ∧
          info'.hostname = info.hostname ∧ info'.hwAddress = info.hwAddress ∧
          info'.inetAddress = info.inetAddress ∧ info'.inet6Address = info.inet6Address) ↔
      nets.length < UInt32.size ∧ ∀ info ∈ nets, ∀ t ∈ info.texts, NoSpace t :=
  texts_survive_iff hexUint128 7 9 _ (lit "node1") (lit "default") _ (by decide)
    (AList.lookup_insert _)

/-- A friendly name is cut at its first blank, and two of them become one. -/
theorem texts_cut_at_blank :
    let nets : List NetInfo :=
      [{ NetInfo.new 7 with type := .ethernet, name := lit "Local Area Connection" },
        { NetInfo.new 7 with type := .ethernet, name := lit "Local Area Connection 2" }]
    let sn : Snapshot := (∅ : Snapshot).insert (lit "node1")
      (announceInfos hexUint128 7 (lit "default") nets fresh).service
    (discoverHost hexUint128 9 sn (lit "node1")).map (·.name) = [lit "Local", lit "Local"] ∧
      ¬ ∀ (k : Nat) (info : NetInfo), nets[k]? = some info → ∃ info' : NetInfo,
        (discoverHost hexUint128 9 sn (lit "node1"))[k]? = some info' ∧ info'.name = info.name ∧
          info'.hostname = info.hostname ∧ info'.hwAddress = info.hwAddress ∧
          info'.inetAddress = info.inetAddress ∧ info'.inet6Address = info.inet6Address := by
  intro nets sn
  have hcut : (discoverHost hexUint128 9 sn (lit "node1")).map (·.name) =
      [lit "Local", lit "Local"] := by decide
  refine ⟨hcut, fun hall => ?_⟩
  obtain ⟨info', hi, hname, _⟩ := hall 0 _ rfl
  have h0 : ((discoverHost hexUint128 9 sn (lit "node1")).map (·.name))[0]? = some info'.name := by
    rw [List.getElem?_map, hi, Option.map_some]
  rw [hcut, hname] at h0
  revert h0
  decide

end Net
end Hwsd
