import Hwsd.DnsSd.Gpu

/-!
# Hwsd.Codec.Gpu

What a browser decodes from a GPU announcement.

* `discoverHost_over`: the decoded list when the record already holds other writes. Keys that the
  announcement leaves out are read from them (`receivedOver`).
* `discoverHost_announced`: the list decoded from a fresh service: the records are in order, and
  only the session, the type and the viewport pass through a lossy step (`received`).
* `codec_round_trip`: for a session and type names that no white space cuts, the round trip.
-/

namespace Hwsd
namespace Gpu

open CxxStream KvStore DnsSd

/-- The module before its first announcement. -/
def fresh : Module := ⟨∅, GPU⟩

/-- What a browser makes of an announced GPU. -/
def received (nodeID : UInt128) (host session : Text) (info : GPUInfo) : GPUInfo :=
  { info with
    id := nodeID, nodeName := host, session := session,
    type := typeCode (extractText info.getName []),
    pvp := if info.pvp.HasArea then info.pvp else invalidPVP }

/-- What it makes of it as entry `k` of a record on which the writes `E` had been made before: where
the announcement leaves keys out, theirs are read. -/
def receivedOver (E : List (Slot × Text)) (nodeID : UInt128) (host session : Text) (k : Nat)
    (info : GPUInfo) : GPUInfo :=
  { received nodeID host session info with
    pvp := if info.pvp.HasArea then info.pvp else
      ⟨extractInt (residue E k GPUX) 0, extractInt (residue E k GPUY) 0,
        extractInt (residue E k GPUWIDTH) (-1), extractInt (residue E k GPUHEIGHT) (-1)⟩
    flags := if info.flags ≠ 0 then info.flags else extractUnsigned (residue E k GPUFLAGS) 0 }

theorem receivedOver_nil (nodeID : UInt128) (host session : Text) (k : Nat) :
    receivedOver [] nodeID host session k = received nodeID host session := by
  funext info
  rw [receivedOver, received]
  by_cases hf : info.flags = 0
  · rw [hf]
    rfl
  · rw [if_pos hf]
    rfl

theorem log_apart {U : Uint128Ops} {nodeID : UInt128} {session : Text} {gpus : List GPUInfo} :
    ∀ w ∈ log U nodeID session gpus, w.1.Apart GPU := by
  unfold log
  split
  · simp
  · exact sheet_apart _ _ _ _ _ reserved

section Announced

variable {U : Uint128Ops} {nodeID localNodeID : UInt128} {session host : Text}
  {gpus : List GPUInfo} {sn : Snapshot}

theorem lastWrite_log_indexed (k : Nat) (key : Text) :
    lastWrite (log U nodeID session gpus) (.indexed k key) =
      gpus[k]?.bind fun info => lastWrite (fields info) key := by
  unfold log
  split
  · rename_i h; subst h; simp
  · exact lastWrite_sheet_indexed _ _ _ _ _ k key

theorem lastWrite_log_count : lastWrite (log U nodeID session gpus) (.plain GPUCOUNT) =
    if gpus = [] then none else some (putNat gpus.length) := by
  unfold log
  split
  · rfl
  · exact lastWrite_sheet_count _ _ _ _ _

section Over

variable {E : List (Slot × Text)} (hE : ∀ w ∈ E, w.1.Apart GPU)
  (h : sn.lookup host = some (setAll (spell GPU (E ++ log U nodeID session gpus)) ∅))

include hE h

/-- A count that no `unsigned` can hold is read as the largest one. -/
theorem nGPUs_over (hne : gpus ≠ []) : nGPUs sn host = min gpus.length (UInt32.size - 1) := by
  rw [nGPUs_eq, get_spell_append hE log_apart (Slot.apart_plain _ _) h, lastWrite_log_count,
    if_neg hne, Option.some_or, Option.getD_some, toNat_extractUnsigned_putNat]

theorem discoverInfo_over {k : Nat} {info : GPUInfo} (hk : gpus[k]? = some info) :
    discoverInfo U localNodeID sn host k =
      some (receivedOver E (receivedID U nodeID localNodeID host) host
        (extractText session getLocalSession) k info) := by
  have hne : gpus ≠ [] := by rintro rfl; simp at hk
  have hnode : discoverNode U GPU sn host (NodeInfo.new localNodeID) =
      { id := receivedID U nodeID localNodeID host, nodeName := host,
        session := extractText session getLocalSession } := by
    rw [log, if_neg hne] at h
    exact discoverNode_sheet _ _ _ _ rfl hE reserved h _
  have hcell : ∀ key, cell sn host k key =
      ((lastWrite (fields info) key).or (lastWrite E (.indexed k key))).getD [] := by
    intro key
    rw [cell, get_spell_append hE log_apart (Slot.apart_indexed _ _ _) h, lastWrite_log_indexed, hk,
      Option.bind_some]
  have hport := (unsigned_roundTrips info.port).2
  have hdevice := (unsigned_roundTrips info.device).2
  have hflags : extractUnsigned (cell sn host k GPUFLAGS) 0 =
      if info.flags ≠ 0 then info.flags else extractUnsigned (residue E k GPUFLAGS) 0 := by
    rw [hcell, lastWrite_fields_flags]
    split
    · exact (unsigned_roundTrips info.flags).2 0
    · rfl
  have hpvp : (⟨extractInt (cell sn host k GPUX) 0, extractInt (cell sn host k GPUY) 0,
      extractInt (cell sn host k GPUWIDTH) (-1),
      extractInt (cell sn host k GPUHEIGHT) (-1)⟩ : Pvp) =
      if info.pvp.HasArea then info.pvp else
        ⟨extractInt (residue E k GPUX) 0, extractInt (residue E k GPUY) 0,
          extractInt (residue E k GPUWIDTH) (-1), extractInt (residue E k GPUHEIGHT) (-1)⟩ := by
    rw [hcell, hcell, hcell, hcell, lastWrite_fields_x, lastWrite_fields_y, lastWrite_fields_width,
      lastWrite_fields_height]
    split
    · simp only [Option.some_or, Option.getD_some, (int_roundTrips _).2]
    · rfl
  have htype : cell sn host k GPUTYPE = info.getName := by
    rw [hcell, lastWrite_fields_type, Option.some_or, Option.getD_some]
  rw [discoverInfo_eq, hnode, hpvp, hflags, htype, if_neg info.getName_ne_nil, hcell, hcell]
  simp only [lastWrite_fields_port, lastWrite_fields_device, Option.some_or, Option.getD_some,
    hport, hdevice]
  rfl

/-- The list decoded from an announcement on a record that already holds some writes. -/
theorem discoverHost_over (hne : gpus ≠ []) : discoverHost U localNodeID sn host =
    (gpus.take (UInt32.size - 1)).mapIdx (receivedOver E (receivedID U nodeID localNodeID host) host
      (extractText session getLocalSession)) := by
  have hlen : nGPUs sn host = (gpus.take (UInt32.size - 1)).length := by
    rw [nGPUs_over hE h hne, List.length_take]
    omega
  rw [discoverHost, hlen]
  refine filterMap_range fun k info hk => ?_
  rw [List.getElem?_take] at hk
  split at hk
  · exact discoverInfo_over hE h hk
  · cases hk

end Over

theorem service_announceInfos (U : Uint128Ops) (nodeID : UInt128) (session : Text)
    (gpus : List GPUInfo) : (announceInfos U nodeID session gpus fresh).service =
      setAll (spell GPU (log U nodeID session gpus)) ∅ := by
  rw [announceInfos_eq_write]
  rfl

/-- The list decoded from an announcement on a fresh service. -/
theorem discoverHost_announced
    (h : sn.lookup host = some (announceInfos U nodeID session gpus fresh).service) :
    discoverHost U localNodeID sn host = (gpus.take (UInt32.size - 1)).map
      (received (receivedID U nodeID localNodeID host) host
        (extractText session getLocalSession)) := by
  rw [service_announceInfos, ← List.nil_append (log U nodeID session gpus)] at h
  by_cases hne : gpus = []
  · have hcount := get_spell_append (by simp) log_apart (Slot.apart_plain GPU GPUCOUNT) h
    rw [lastWrite_log_count, if_pos hne] at hcount
    rw [discoverHost, nGPUs_eq, hcount, hne]
    rfl
  · rw [discoverHost_over (by simp) h hne, List.mapIdx_eq_zipIdx_map]
    simp only [receivedOver_nil]
    conv_rhs => rw [← List.zipIdx_map_fst 0 (gpus.take (UInt32.size - 1)), List.map_map]
    rfl

end Announced

/-- A GPU whose type code was built from a name without white space. -/
def TypeNamed (info : GPUInfo) : Prop := ∃ name, NoSpace name ∧ info.type = typeCode name

theorem received_type {info : GPUInfo} (h : TypeNamed info) :
    typeCode (extractText info.getName []) = info.type := by
  obtain ⟨name, hname, htype⟩ := h
  have hspace : NoSpace info.getName := by
    rw [GPUInfo.getName, htype]
    exact noSpace_typeName hname
  rw [extractText_eq_self info.getName_ne_nil hspace, GPUInfo.getName, htype, typeCode_typeName]

/-- A GPU list that is published on a fresh service is decoded, in index order, with its types,
ports, devices and flags, for the announcing node, host and session. A viewport without area is
not published and decodes to the invalid one. -/
theorem codec_round_trip (U : Uint128Ops) (nodeID localNodeID : UInt128) (sn : Snapshot)
    (host session : Text) (gpus : List GPUInfo) (hid : RoundTrips U.put U.extract nodeID)
    (hlen : gpus.length < UInt32.size) (htype : ∀ info ∈ gpus, TypeNamed info)
    (hsession : session ≠ []) (hspace : NoSpace session)
    (h : sn.lookup host = some (announceInfos U nodeID session gpus fresh).service) :
    discoverHost U localNodeID sn host = gpus.map fun info =>
      { info with
        id := nodeID, nodeName := host, session := session,
        pvp := if 0 < info.pvp.w ∧ 0 < info.pvp.h then info.pvp else ⟨0, 0, -1, -1⟩ } := by
  rw [discoverHost_announced h, List.take_of_length_le (by omega), receivedID_eq U hid,
    extractText_eq_self hsession hspace]
  refine List.map_congr_left fun info hinfo => ?_
  rw [received, received_type (htype info hinfo)]
  rfl

theorem codec_round_trip_two_gpus :
    let gpus : List GPUInfo :=
      [{ GPUInfo.ofName 7 (lit "GLX") with port := 1, pvp := ⟨-5, 0, 1920, 1080⟩, flags := 9 },
        { GPUInfo.ofName 7 (lit "WGLn") with device := 1, pvp := ⟨3, 4, 0, -2⟩ }]
    let sn : Snapshot := (∅ : Snapshot).insert (lit "node1")
      (announceInfos hexUint128 0x400000000000000005 (lit "default") gpus fresh).service
    discoverHost hexUint128 9 sn (lit "node1") = gpus.map fun info =>
      { info with
        id := 0x400000000000000005, nodeName := lit "node1", session := lit "default",
        pvp := if 0 < info.pvp.w ∧ 0 < info.pvp.h then info.pvp else ⟨0, 0, -1, -1⟩ } :=
  codec_round_trip hexUint128 0x400000000000000005 9 _ (lit "node1") (lit "default") _
    (hexUint128_roundTrips (by decide) (by decide)) (by decide)
    (by
      intro info hinfo
      simp only [List.mem_cons, List.not_mem_nil, or_false] at hinfo
      rcases hinfo with rfl | rfl
      · exact ⟨lit "GLX", by decide, rfl⟩
      · exact ⟨lit "WGLn", by decide, rfl⟩)
    (by decide) (by decide) (AList.lookup_insert _)

end Gpu
end Hwsd
