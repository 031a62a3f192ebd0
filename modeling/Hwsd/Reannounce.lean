import Hwsd.Codec.Gpu
import Hwsd.Codec.Net

/-!
# Hwsd.Reannounce

Announcing again on the same module. The service is never cleared and some keys are written only
when there is something to say, so a key that the last call leaves out keeps the text of an earlier
one.

* `receivedOver_eq_iff`: one entry of the last list is decoded as if there had been no earlier call,
  exactly if no earlier call has left anything in the keys that it omits.
* `reannounce_iff`: for any sequence of calls, what remains of the earlier ones (`NoResidue`).
-/

namespace Hwsd

open CxxStream KvStore DnsSd

theorem mapIdx_eq_iff {α β : Type} {f g : Nat → α → β} {l : List α} :
    l.mapIdx f = l.mapIdx g ↔ ∀ k a, l[k]? = some a → f k a = g k a := by
  rw [List.mapIdx_eq_mapIdx_iff]
  constructor
  · intro h k a hk
    obtain ⟨hlt, rfl⟩ := List.getElem?_eq_some_iff.mp hk
    exact h k hlt
  · intro h k hlt
    exact h k l[k] (List.getElem?_eq_getElem hlt)

theorem getElem?_take_eq_some {α : Type} {l : List α} {n k : Nat} {a : α} :
    (l.take n)[k]? = some a ↔ k < n ∧ l[k]? = some a := by
  rw [List.getElem?_take]
  split
  · rename_i h
    simp [h]
  · rename_i h
    simp [h]

/-- A number that is published when it is not the default one: the default is decoded exactly if no
call has published another one. -/
theorem residue_unsigned_iff {β α : Type} {ws : β → List (Slot × Text)} {entry : β → Option α}
    {value : α → UInt32} {default : UInt32} {k : Nat} {key : Text}
    (hws : ∀ c, lastWrite (ws c) (.indexed k key) = (entry c).bind fun a =>
      if value a ≠ default then some (putUnsigned (value a)) else none) (calls : List β) :
    extractUnsigned (residue (calls.flatMap ws) k key) default = default ↔
      ∀ c ∈ calls, ∀ a, entry c = some a → value a = default := by
  have hnone : ∀ c, lastWrite (ws c) (.indexed k key) = none ↔
      ∀ a, entry c = some a → value a = default := by
    intro c
    rw [hws, Option.bind_eq_none_iff]
    simp
  cases hl : lastWrite (calls.flatMap ws) (.indexed k key) with
  | none =>
    rw [residue, hl]
    have hall := lastWrite_flatMap_eq_none.mp hl
    exact ⟨fun _ c hc => (hnone c).mp (hall c hc), fun _ => rfl⟩
  | some v =>
    -- the last number that was published is no default
    obtain ⟨c, hc, hv⟩ := exists_of_lastWrite_flatMap hl
    rw [hws] at hv
    obtain ⟨a, ha, hva⟩ := Option.bind_eq_some_iff.mp hv
    split at hva
    · rename_i hne
      cases hva
      rw [residue, hl, Option.getD_some, (unsigned_roundTrips _).2]
      exact ⟨fun h => absurd h hne, fun h => h c hc a ha⟩
    · cases hva

namespace Gpu

/-- The module after a sequence of announcements, each of a session and the list to publish. -/
def published (U : Uint128Ops) (nodeID : UInt128) (calls : List (Text × List GPUInfo)) : Module :=
  calls.foldl (fun m c => announceInfos U nodeID c.1 c.2 m) fresh

/-- What a machine discovers that browses the record of `m` for a remote host. -/
def decoded (U : Uint128Ops) (localNodeID : UInt128) (host : Text) (m : Module) : List GPUInfo :=
  discover U localNodeID ((∅ : Snapshot).insert host m.service) ∅

/-- The last of the calls leaves out no key that one of the earlier ones has set. -/
def NoResidue (earlier : List (List GPUInfo)) (gpus : List GPUInfo) : Prop :=
  (gpus = [] → ∀ l ∈ earlier, l = []) ∧
  ∀ k info, k < UInt32.size - 1 → gpus[k]? = some info →
    ∀ l ∈ earlier, ∀ info', l[k]? = some info' →
      (info'.pvp.HasArea → info.pvp.HasArea) ∧ (info'.flags ≠ 0 → info.flags ≠ 0)

/-- The writes of a sequence of calls. -/
def logs (U : Uint128Ops) (nodeID : UInt128) (calls : List (Text × List GPUInfo)) :
    List (Slot × Text) :=
  calls.flatMap fun c => log U nodeID c.1 c.2

section

variable {U : Uint128Ops} {nodeID localNodeID : UInt128} {host session : Text}
  {earlier : List (Text × List GPUInfo)}

theorem published_eq_write (calls : List (Text × List GPUInfo)) :
    published U nodeID calls = fresh.write (logs U nodeID calls) :=
  Module.foldl_write (fun m c => announceInfos_eq_write U nodeID c.1 c.2 m) fresh calls

theorem logs_apart : ∀ w ∈ logs U nodeID earlier, w.1.Apart GPU := by
  intro w hw
  obtain ⟨c, _, hc⟩ := List.mem_flatMap.mp hw
  exact log_apart w hc

theorem lastWrite_logs_eq_none {k : Nat} {key : Text} :
    lastWrite (logs U nodeID earlier) (.indexed k key) = none ↔
      ∀ c ∈ earlier, ∀ info, c.2[k]? = some info → lastWrite (fields info) key = none := by
  rw [logs, lastWrite_flatMap_eq_none]
  simp only [lastWrite_log_indexed, Option.bind_eq_none_iff]

theorem exists_of_lastWrite_logs {k : Nat} {key v : Text}
    (h : lastWrite (logs U nodeID earlier) (.indexed k key) = some v) :
    ∃ c ∈ earlier, ∃ info, c.2[k]? = some info ∧ lastWrite (fields info) key = some v := by
  obtain ⟨c, hc, hv⟩ := exists_of_lastWrite_flatMap h
  rw [lastWrite_log_indexed] at hv
  obtain ⟨info, hk, hinfo⟩ := Option.bind_eq_some_iff.mp hv
  exact ⟨c, hc, info, hk, hinfo⟩

/-- The width of the last viewport that was published for entry `k`. -/
theorem residue_width {k : Nat} {c : Text × List GPUInfo} {info : GPUInfo} (hc : c ∈ earlier)
    (hk : c.2[k]? = some info) (harea : info.pvp.HasArea) :
    0 < extractInt (residue (logs U nodeID earlier) k GPUWIDTH) (-1) := by
  cases hl : lastWrite (logs U nodeID earlier) (.indexed k GPUWIDTH) with
  | none =>
    have hnone := lastWrite_logs_eq_none.mp hl c hc info hk
    rw [lastWrite_fields_width, if_pos harea] at hnone
    cases hnone
  | some v =>
    obtain ⟨c', _, info', _, hv⟩ := exists_of_lastWrite_logs hl
    rw [lastWrite_fields_width] at hv
    split at hv
    · rename_i harea'
      cases hv
      rw [residue, hl, Option.getD_some, (int_roundTrips _).2]
      exact harea'.1
    · cases hv

theorem residue_viewport_nil {k : Nat}
    (h : ∀ c ∈ earlier, ∀ info, c.2[k]? = some info → ¬ info.pvp.HasArea) :
    ∀ key ∈ [GPUX, GPUY, GPUWIDTH, GPUHEIGHT], residue (logs U nodeID earlier) k key = [] := by
  intro key hkey
  have hnone : lastWrite (logs U nodeID earlier) (.indexed k key) = none := by
    rw [lastWrite_logs_eq_none]
    intro c hc info hk
    simp only [List.mem_cons, List.not_mem_nil, or_false] at hkey
    rcases hkey with rfl | rfl | rfl | rfl <;> simp [h c hc info hk]
  rw [residue, hnone]
  rfl

/-- A viewport that was once published for entry `k` is read for a GPU without one. -/
theorem residue_pvp {k : Nat} :
    (⟨extractInt (residue (logs U nodeID earlier) k GPUX) 0,
      extractInt (residue (logs U nodeID earlier) k GPUY) 0,
      extractInt (residue (logs U nodeID earlier) k GPUWIDTH) (-1),
      extractInt (residue (logs U nodeID earlier) k GPUHEIGHT) (-1)⟩ : Pvp) = invalidPVP ↔
      ∀ c ∈ earlier, ∀ info', c.2[k]? = some info' → ¬ info'.pvp.HasArea := by
  constructor
  · intro h c hc info' hk harea
    have hpos : (0 : Int32) < extractInt (residue (logs U nodeID earlier) k GPUWIDTH) (-1) :=
      residue_width hc hk harea
    rw [show extractInt (residue (logs U nodeID earlier) k GPUWIDTH) (-1) = -1 from
      congrArg Pvp.w h] at hpos
    revert hpos
    decide
  · intro h
    have hnil : ∀ key ∈ [GPUX, GPUY, GPUWIDTH, GPUHEIGHT],
        residue (logs U nodeID earlier) k key = [] := residue_viewport_nil h
    rw [hnil GPUX (by simp), hnil GPUY (by simp), hnil GPUWIDTH (by simp),
      hnil GPUHEIGHT (by simp)]
    rfl

theorem residue_flags {k : Nat} :
    extractUnsigned (residue (logs U nodeID earlier) k GPUFLAGS) 0 = 0 ↔
      ∀ c ∈ earlier, ∀ info', c.2[k]? = some info' → info'.flags = 0 := by
  refine residue_unsigned_iff (fun c => ?_) earlier
  rw [lastWrite_log_indexed]
  simp only [lastWrite_fields_flags]

/-- Entry `k` is decoded as from a fresh service exactly if every optional key that some earlier
entry `k` has set is set again. -/
theorem receivedOver_eq_iff {id : UInt128} {k : Nat} {info : GPUInfo} :
    receivedOver (logs U nodeID earlier) id host session k info = received id host session info ↔
      ∀ c ∈ earlier, ∀ info', c.2[k]? = some info' →
        (info'.pvp.HasArea → info.pvp.HasArea) ∧ (info'.flags ≠ 0 → info.flags ≠ 0) := by
  have hpvp : (receivedOver (logs U nodeID earlier) id host session k info).pvp =
      (received id host session info).pvp ↔ ∀ c ∈ earlier, ∀ info', c.2[k]? = some info' →
        info'.pvp.HasArea → info.pvp.HasArea := by
    simp only [receivedOver, received]
    split
    · rename_i h; simp [h]
    · rename_i h; rw [residue_pvp]; simp [h]
  have hflags : (receivedOver (logs U nodeID earlier) id host session k info).flags =
      (received id host session info).flags ↔ ∀ c ∈ earlier, ∀ info', c.2[k]? = some info' →
        info'.flags ≠ 0 → info.flags ≠ 0 := by
    simp only [receivedOver, received]
    by_cases h : info.flags = 0
    · rw [if_neg (by simp [h]), h, residue_flags]; simp
    · rw [if_pos h]; simp [h]
  have hparts : receivedOver (logs U nodeID earlier) id host session k info =
      received id host session info ↔
      (receivedOver (logs U nodeID earlier) id host session k info).pvp =
        (received id host session info).pvp ∧
      (receivedOver (logs U nodeID earlier) id host session k info).flags =
        (received id host session info).flags := by
    constructor
    · intro h
      rw [h]
      exact ⟨rfl, rfl⟩
    · rintro ⟨hp, hf⟩
      simp only [receivedOver] at hp hf ⊢
      rw [hp, hf]
  rw [hparts, hpvp, hflags]
  simp only [forall_and]

theorem lookup_published (calls : List (Text × List GPUInfo)) :
    ((∅ : Snapshot).insert host (published U nodeID calls).service).lookup host =
      some (setAll (spell GPU (logs U nodeID calls)) ∅) := by
  rw [AList.lookup_insert, published_eq_write]
  rfl

/-- Once a list has been published the count is not 0. -/
theorem nGPUs_published_pos {c : Text × List GPUInfo} (hc : c ∈ earlier) (hne : c.2 ≠ []) :
    0 < nGPUs ((∅ : Snapshot).insert host (published U nodeID earlier).service) host := by
  rw [nGPUs_eq, get_spell logs_apart (Slot.apart_plain _ _) (lookup_published earlier)]
  cases hl : lastWrite (logs U nodeID earlier) (.plain GPUCOUNT) with
  | none =>
    have hnone := lastWrite_flatMap_eq_none.mp hl c hc
    rw [lastWrite_log_count, if_neg hne] at hnone
    cases hnone
  | some v =>
    obtain ⟨c', _, hv⟩ := exists_of_lastWrite_flatMap hl
    rw [lastWrite_log_count] at hv
    split at hv
    · cases hv
    · rename_i hne'
      cases hv
      have hlen := List.length_pos_of_ne_nil hne'
      rw [Option.getD_some, toNat_extractUnsigned_putNat]
      simp only [UInt32.size]
      omega

/-- Once a list has been published entry 0 has a type. -/
theorem type_published_ne_nil {c : Text × List GPUInfo} (hc : c ∈ earlier) (hne : c.2 ≠ []) :
    cell ((∅ : Snapshot).insert host (published U nodeID earlier).service) host 0 GPUTYPE ≠ [] := by
  rw [cell, get_spell logs_apart (Slot.apart_indexed _ _ _) (lookup_published earlier)]
  cases hl : lastWrite (logs U nodeID earlier) (.indexed 0 GPUTYPE) with
  | none =>
    obtain ⟨info, l, hcl⟩ := List.exists_cons_of_ne_nil hne
    have hnone := lastWrite_logs_eq_none.mp hl c hc info (by rw [hcl]; rfl)
    rw [lastWrite_fields_type] at hnone
    cases hnone
  | some v =>
    obtain ⟨_, _, info, _, hv⟩ := exists_of_lastWrite_logs hl
    rw [lastWrite_fields_type] at hv
    cases hv
    exact info.getName_ne_nil

/-- A decoded list is empty exactly if no call has published anything. -/
theorem decoded_published_eq_nil :
    decoded U localNodeID host (published U nodeID earlier) = [] ↔ ∀ c ∈ earlier, c.2 = [] := by
  rw [decoded, discover_single]
  constructor
  · intro hnil
    by_contra hnot
    simp only [not_forall] at hnot
    obtain ⟨c, hc, hne⟩ := hnot
    rw [discoverHost, List.filterMap_eq_nil_iff] at hnil
    have hfirst := hnil 0 (List.mem_range.mpr (nGPUs_published_pos hc hne))
    rw [discoverInfo_eq, if_neg (type_published_ne_nil hc hne)] at hfirst
    cases hfirst
  · intro hall
    have hl : lastWrite (logs U nodeID earlier) (.plain GPUCOUNT) = none := by
      rw [logs, lastWrite_flatMap_eq_none]
      intro c hc
      rw [lastWrite_log_count, if_pos (hall c hc)]
    rw [discoverHost, nGPUs_eq,
      get_spell logs_apart (Slot.apart_plain _ _) (lookup_published earlier), hl]
    rfl

/-- What is decoded after a last call that publishes something. -/
theorem decoded_published (earlier : List (Text × List GPUInfo)) (session : Text)
    {gpus : List GPUInfo} (hne : gpus ≠ []) :
    decoded U localNodeID host (published U nodeID (earlier ++ [(session, gpus)])) =
      (gpus.take (UInt32.size - 1)).mapIdx (receivedOver (logs U nodeID earlier)
        (receivedID U nodeID localNodeID host) host (extractText session getLocalSession)) := by
  rw [decoded, discover_single]
  have hlookup : ((∅ : Snapshot).insert host
      (published U nodeID (earlier ++ [(session, gpus)])).service).lookup host = _ :=
    lookup_published _
  rw [logs, List.flatMap_append, List.flatMap_singleton] at hlookup
  exact discoverHost_over logs_apart hlookup hne

theorem reannounce_iff_noResidue (earlier : List (Text × List GPUInfo))
    (last : Text × List GPUInfo) :
    decoded U localNodeID host (published U nodeID (earlier ++ [last])) =
        decoded U localNodeID host (published U nodeID [last]) ↔
      NoResidue (earlier.map Prod.snd) last.2 := by
  obtain ⟨session, gpus⟩ := last
  by_cases hne : gpus = []
  · subst hne
    have hlast : decoded U localNodeID host (published U nodeID [(session, [])]) = [] :=
      decoded_published_eq_nil.mpr (by simp)
    rw [hlast, decoded_published_eq_nil]
    constructor
    · intro h
      refine ⟨fun _ => ?_, by simp⟩
      rw [List.forall_mem_map]
      exact fun c hc => h c (List.mem_append_left _ hc)
    · intro h c hc
      rcases List.mem_append.mp hc with hc | hc
      · exact h.1 rfl _ (List.mem_map_of_mem hc)
      · rw [List.mem_singleton.mp hc]
  · have hlast : decoded U localNodeID host (published U nodeID [(session, gpus)]) =
        (gpus.take (UInt32.size - 1)).mapIdx (receivedOver (logs U nodeID [])
          (receivedID U nodeID localNodeID host) host (extractText session getLocalSession)) :=
      decoded_published [] session hne
    rw [hlast, decoded_published earlier session hne, mapIdx_eq_iff]
    simp only [getElem?_take_eq_some, logs, List.flatMap_nil, receivedOver_nil]
    simp only [NoResidue, List.forall_mem_map]
    constructor
    · intro h
      refine ⟨fun hnil => absurd hnil hne, fun k info hk hinfo => ?_⟩
      exact receivedOver_eq_iff.mp (h k info ⟨hk, hinfo⟩)
    · intro h k info hk
      exact receivedOver_eq_iff.mpr (h.2 k info hk.1 hk.2)

end

end Gpu

namespace Net

/-- The module after a sequence of announcements, each of a session and the list to publish. -/
def published (U : Uint128Ops) (nodeID : UInt128) (calls : List (Text × List NetInfo)) : Module :=
  calls.foldl (fun m c => announceInfos U nodeID c.1 c.2 m) fresh

/-- What a machine discovers that browses the record of `m` for a remote host. -/
def decoded (U : Uint128Ops) (localNodeID : UInt128) (host : Text) (m : Module) : List NetInfo :=
  discover U localNodeID ((∅ : Snapshot).insert host m.service) ∅

/-- The last text of a kind that the calls have published for entry `k`. -/
def lastText (f : NetInfo → Text) (k : Nat) (calls : List (List NetInfo)) : Option Text :=
  (calls.filterMap fun nets => ((eraseLoopback nets)[k]?.map f).filter (· ≠ [])).getLast?

/-- The last of the calls leaves out no key in which the earlier ones have left something to read;
when it finds no interface at all, the last list before that was a loopback alone. -/
def NoResidue (earlier : List (List NetInfo)) (nets : List NetInfo) : Prop :=
  (nets = [] → ∀ l, (earlier.filter (· ≠ [])).getLast? = some l → eraseLoopback l = []) ∧
  ∀ k info, k < UInt32.size - 1 → (eraseLoopback nets)[k]? = some info →
    (info.linkspeed = NetInfo.defaultValue → ∀ l ∈ earlier, ∀ info',
      (eraseLoopback l)[k]? = some info' → info'.linkspeed = NetInfo.defaultValue) ∧
    ∀ f ∈ textFields.map Prod.snd, f info = [] → ∀ t, lastText f k earlier = some t → Blank t

/-- The writes of a sequence of calls. -/
def logs (U : Uint128Ops) (nodeID : UInt128) (calls : List (Text × List NetInfo)) :
    List (Slot × Text) :=
  calls.flatMap fun c => log U nodeID c.1 c.2

section

variable {U : Uint128Ops} {nodeID localNodeID : UInt128} {host session : Text}
  {earlier : List (Text × List NetInfo)}

theorem published_eq_write (calls : List (Text × List NetInfo)) :
    published U nodeID calls = fresh.write (logs U nodeID calls) :=
  Module.foldl_write (fun m c => announceInfos_eq_write U nodeID c.1 c.2 m) fresh calls

theorem logs_apart : ∀ w ∈ logs U nodeID earlier, w.1.Apart NET := by
  intro w hw
  obtain ⟨c, _, hc⟩ := List.mem_flatMap.mp hw
  exact log_apart w hc

theorem residue_linkspeed {k : Nat} :
    extractUnsigned (residue (logs U nodeID earlier) k NETLINKSPEED) NetInfo.defaultValue =
        NetInfo.defaultValue ↔
      ∀ c ∈ earlier, ∀ info', (eraseLoopback c.2)[k]? = some info' →
        info'.linkspeed = NetInfo.defaultValue := by
  refine residue_unsigned_iff (fun c => ?_) earlier
  rw [lastWrite_log_indexed]
  simp only [lastWrite_fields_linkspeed]

theorem residue_text {key : Text} {f : NetInfo → Text} (h : (key, f) ∈ textFields) (k : Nat) :
    residue (logs U nodeID earlier) k key = (lastText f k (earlier.map Prod.snd)).getD [] := by
  rw [residue, logs, lastWrite_flatMap, lastText, List.filterMap_map]
  congr 2
  refine List.filterMap_congr fun c _ => ?_
  rw [lastWrite_log_indexed, Function.comp]
  cases (eraseLoopback c.2)[k]? with
  | none => rfl
  | some info =>
    rw [Option.bind_some, lastWrite_fields_text info h, Option.map_some]
    by_cases hf : f info = [] <;> simp [hf, Option.filter]

/-- A text that the last call leaves out is read as empty exactly if what was published before is
blank. -/
theorem over_text_iff {key : Text} {f : NetInfo → Text} (h : (key, f) ∈ textFields) (k : Nat)
    (info : NetInfo) :
    extractText (if f info ≠ [] then f info else residue (logs U nodeID earlier) k key) [] =
        extractText (f info) [] ↔
      (f info = [] → ∀ t, lastText f k (earlier.map Prod.snd) = some t → Blank t) := by
  by_cases hf : f info = []
  · rw [if_neg (by simp [hf]), residue_text h, hf]
    cases lastText f k (earlier.map Prod.snd) with
    | none => simp
    | some t =>
      have hnil : extractText ([] : Text) [] = [] := rfl
      rw [Option.getD_some, hnil, extractText_nil_eq_nil]
      simp
  · rw [if_pos hf]
    simp [hf]

/-- Entry `k` is decoded as from a fresh service exactly if every optional key that some earlier
entry `k` has set is set again, or holds nothing but white space. -/
theorem receivedOver_eq_iff {id : UInt128} {k : Nat} {info : NetInfo} :
    receivedOver (logs U nodeID earlier) id host session k info = received id host session info ↔
      (info.linkspeed = NetInfo.defaultValue → ∀ c ∈ earlier, ∀ info',
        (eraseLoopback c.2)[k]? = some info' → info'.linkspeed = NetInfo.defaultValue) ∧
      ∀ f ∈ textFields.map Prod.snd, f info = [] →
        ∀ t, lastText f k (earlier.map Prod.snd) = some t → Blank t := by
  have hspeed : (if info.linkspeed ≠ NetInfo.defaultValue then info.linkspeed
      else extractUnsigned (residue (logs U nodeID earlier) k NETLINKSPEED) NetInfo.defaultValue) =
        info.linkspeed ↔
      (info.linkspeed = NetInfo.defaultValue → ∀ c ∈ earlier, ∀ info',
        (eraseLoopback c.2)[k]? = some info' → info'.linkspeed = NetInfo.defaultValue) := by
    by_cases h : info.linkspeed = NetInfo.defaultValue
    · rw [if_neg (by simp [h]), h, residue_linkspeed]
      simp
    · rw [if_pos h]
      simp [h]
  have htexts : (∀ f ∈ textFields.map Prod.snd, f info = [] →
        ∀ t, lastText f k (earlier.map Prod.snd) = some t → Blank t) ↔
      ∀ w ∈ textFields,
        extractText (if w.2 info ≠ [] then w.2 info
          else residue (logs U nodeID earlier) k w.1) [] = extractText (w.2 info) [] := by
    rw [List.forall_mem_map]
    exact forall₂_congr fun w hw => (over_text_iff hw k info).symm
  rw [← hspeed, htexts]
  simp only [receivedOver, received, textFields, List.forall_mem_cons, NetInfo.mk.injEq, true_and,
    List.not_mem_nil, false_implies, implies_true, and_true]
  tauto

theorem lastWrite_logs_count : lastWrite (logs U nodeID earlier) (.plain NETCOUNT) =
    ((earlier.map Prod.snd).filter (· ≠ [])).getLast?.map fun l =>
      putNat (eraseLoopback l).length := by
  rw [logs, lastWrite_flatMap, ← List.getLast?_map]
  congr 1
  induction earlier with
  | nil => rfl
  | cons c earlier ih =>
    rw [List.filterMap_cons, lastWrite_log_count, List.map_cons, List.filter_cons]
    by_cases hc : c.2 = []
    · simpa [hc] using ih
    · simpa [hc] using ih

theorem lookup_published (calls : List (Text × List NetInfo)) :
    ((∅ : Snapshot).insert host (published U nodeID calls).service).lookup host =
      some (setAll (spell NET (logs U nodeID calls)) ∅) := by
  rw [AList.lookup_insert, published_eq_write]
  rfl

/-- A decoded list is empty exactly if the last list that was found was a loopback alone, or there
was none. -/
theorem decoded_published_eq_nil : decoded U localNodeID host (published U nodeID earlier) = [] ↔
    ∀ l, ((earlier.map Prod.snd).filter (· ≠ [])).getLast? = some l → eraseLoopback l = [] := by
  rw [decoded, discover_single, discoverHost, List.map_eq_nil_iff, List.range_eq_nil, nNets_eq,
    get_spell logs_apart (Slot.apart_plain _ _) (lookup_published earlier), lastWrite_logs_count]
  cases ((earlier.map Prod.snd).filter (· ≠ [])).getLast? with
  | none =>
    constructor
    · intro _ l hl
      cases hl
    · intro _
      rfl
  | some l =>
    rw [Option.map_some, Option.getD_some, toNat_extractUnsigned_putNat]
    simp only [Option.some.injEq, forall_eq', ← List.length_eq_zero_iff, UInt32.size]
    omega

/-- What is decoded after a last call that publishes something. -/
theorem decoded_published (earlier : List (Text × List NetInfo)) (session : Text)
    {nets : List NetInfo} (hne : nets ≠ []) :
    decoded U localNodeID host (published U nodeID (earlier ++ [(session, nets)])) =
      ((eraseLoopback nets).take (UInt32.size - 1)).mapIdx (receivedOver (logs U nodeID earlier)
        (receivedID U nodeID localNodeID host) host (extractText session getLocalSession)) := by
  rw [decoded, discover_single]
  have hlookup : ((∅ : Snapshot).insert host
      (published U nodeID (earlier ++ [(session, nets)])).service).lookup host = _ :=
    lookup_published _
  rw [logs, List.flatMap_append, List.flatMap_singleton] at hlookup
  exact discoverHost_over logs_apart hlookup hne

theorem reannounce_iff_noResidue (earlier : List (Text × List NetInfo))
    (last : Text × List NetInfo) :
    decoded U localNodeID host (published U nodeID (earlier ++ [last])) =
        decoded U localNodeID host (published U nodeID [last]) ↔
      NoResidue (earlier.map Prod.snd) last.2 := by
  obtain ⟨session, nets⟩ := last
  by_cases hne : nets = []
  · subst hne
    have hlast : decoded U localNodeID host (published U nodeID [(session, [])]) = [] :=
      decoded_published_eq_nil.mpr (by simp)
    have hfilter : ((earlier ++ [(session, [])]).map Prod.snd).filter (· ≠ []) =
        (earlier.map Prod.snd).filter (· ≠ []) := by
      simp
    rw [hlast, decoded_published_eq_nil, hfilter]
    exact ⟨fun h => ⟨fun _ => h, by simp [eraseLoopback]⟩, fun h => h.1 rfl⟩
  · have hlast : decoded U localNodeID host (published U nodeID [(session, nets)]) =
        ((eraseLoopback nets).take (UInt32.size - 1)).mapIdx (receivedOver (logs U nodeID [])
          (receivedID U nodeID localNodeID host) host (extractText session getLocalSession)) :=
      decoded_published [] session hne
    rw [hlast, decoded_published earlier session hne, mapIdx_eq_iff]
    simp only [getElem?_take_eq_some, logs, List.flatMap_nil, receivedOver_nil]
    simp only [NoResidue, List.forall_mem_map]
    constructor
    · intro h
      refine ⟨fun hnil => absurd hnil hne, fun k info hk hinfo => ?_⟩
      simpa only [List.forall_mem_map] using receivedOver_eq_iff.mp (h k info ⟨hk, hinfo⟩)
    · intro h k info hk
      refine receivedOver_eq_iff.mpr ?_
      simpa only [List.forall_mem_map] using h.2 k info hk.1 hk.2

end

end Net

/-- After any sequence of announcements on one module, a browser decodes what the last call alone
would have published on a fresh service, exactly if no residue of the earlier calls shows through
it. -/
theorem reannounce_iff (U : Uint128Ops) (nodeID localNodeID : UInt128) (host : Text) :
    (∀ (earlier : List (Text × List GPUInfo)) (last : Text × List GPUInfo),
      Gpu.decoded U localNodeID host (Gpu.published U nodeID (earlier ++ [last])) =
          Gpu.decoded U localNodeID host (Gpu.published U nodeID [last]) ↔
        Gpu.NoResidue (earlier.map Prod.snd) last.2) ∧
    ∀ (earlier : List (Text × List NetInfo)) (last : Text × List NetInfo),
      Net.decoded U localNodeID host (Net.published U nodeID (earlier ++ [last])) =
          Net.decoded U localNodeID host (Net.published U nodeID [last]) ↔
        Net.NoResidue (earlier.map Prod.snd) last.2 :=
  ⟨Gpu.reannounce_iff_noResidue, Net.reannounce_iff_noResidue⟩

/-- A GPU that is gone at the second call is still discovered, and so is the link speed of an
interface that has none any more. -/
theorem reannounce_stale :
    let gpu := GPUInfo.ofName 7 (lit "GLX")
    let eth0 : NetInfo := { NetInfo.new 7 with type := .ethernet, name := lit "eth0" }
    Gpu.decoded hexUint128 9 (lit "node1")
        (Gpu.published hexUint128 7 [(lit "default", [gpu]), (lit "default", [])]) ≠
      Gpu.decoded hexUint128 9 (lit "node1")
        (Gpu.published hexUint128 7 [(lit "default", [])]) ∧
    Net.decoded hexUint128 9 (lit "node1")
        (Net.published hexUint128 7
          [(lit "default", [{ eth0 with linkspeed := 1000 }]), (lit "default", [eth0])]) ≠
      Net.decoded hexUint128 9 (lit "node1")
        (Net.published hexUint128 7 [(lit "default", [eth0])]) := by
  intro gpu eth0
  constructor
  · intro h
    have hres := (Gpu.reannounce_iff_noResidue [(lit "default", [gpu])] (lit "default", [])).mp h
    have hnil := hres.1 rfl [gpu] (List.mem_singleton_self _)
    cases hnil
  · intro h
    have hres := (Net.reannounce_iff_noResidue
      [(lit "default", [{ eth0 with linkspeed := 1000 }])] (lit "default", [eth0])).mp h
    have hspeed := (hres.2 0 eth0 (by decide) rfl).1 rfl [{ eth0 with linkspeed := 1000 }]
      (List.mem_singleton_self _) _ rfl
    revert hspeed
    decide

end Hwsd
