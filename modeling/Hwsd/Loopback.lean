import Hwsd.Codec.Net
import Hwsd.Functions

/-!
# Hwsd.Loopback

Loopback interfaces in an announcement. The loop of `announce` that removes them stops at the first
one it erases.

* `eraseLoopback_eq_filter`: for a list with at most one loopback interface that is all of them.
* `Publishes`: what a record says of a list of interfaces, key by key, and what it does not say.
* `publishes_filter_iff`: the record after the first announcement.
* `announce_loopback_iff`: the same for what the net modules of a machine discover.
-/

namespace Hwsd

open CxxStream Greedy KvStore DnsSd

namespace Net

def IsLoopback (info : NetInfo) : Prop := info.type = .loopback

instance (info : NetInfo) : Decidable (IsLoopback info) := inferInstanceAs (Decidable (_ = _))

/-- What a record says of an interface under a key: nothing of an empty text, of the default link speed
or under a key that is not known. -/
def entry (info : NetInfo) (key : Text) : Option Text :=
  let given value := if value = [] then none else some value
  if key = lit "Type" then some info.getType
  else if key = lit "Name" then given info.name
  else if key = lit "Hostname" then given info.hostname
  else if key = lit "MAC" then given info.hwAddress
  else if key = lit "IPv4" then given info.inetAddress
  else if key = lit "IPv6" then given info.inet6Address
  else if key = lit "Linkspeed" then
    if info.linkspeed = NetInfo.defaultValue then none else some (putUnsigned info.linkspeed)
  else if key = lit "Up" then some (putBool info.up)
  else none

/-- The record publishes the interfaces `nets` and no others, one entry each, in order. -/
structure Publishes (record : Record) (nets : List NetInfo) : Prop where
  count : record.lookup (lit "Net Count") = some (putNat nets.length)
  /-- The keys of an entry are those of its interface, and behind the last one there are none. -/
  entries : ∀ k key, record.lookup (lit "Net" ++ putNat k ++ lit " " ++ key) =
    nets[k]?.bind fun info => entry info key

/-- None of the entries that the record counts has the type of a loopback interface. -/
def NoLoopback (record : Record) : Prop :=
  ∀ n, record.lookup (lit "Net Count") = some (putNat n) → ∀ k, k < n →
    record.lookup (lit "Net" ++ putNat k ++ lit " Type") ≠ some (lit "LOOPBACK")

theorem length_eraseLoopback (nets : List NetInfo) :
    (eraseLoopback nets).length = nets.length - min 1 (nets.countP fun info => IsLoopback info) := by
  induction nets with
  | nil => rfl
  | cons info nets ih =>
    rw [eraseLoopback]
    by_cases h : info.type = .loopback
    · rw [if_pos h, List.countP_cons_of_pos (by simp [IsLoopback, h]), List.length_cons]
      omega
    · rw [if_neg h, List.countP_cons_of_neg (by simp [IsLoopback, h]), List.length_cons,
        List.length_cons, ih]
      have hle := List.countP_le_length (p := fun info => decide (IsLoopback info)) (l := nets)
      omega

theorem length_filter_not (nets : List NetInfo) :
    (nets.filter fun info => ¬ IsLoopback info).length =
      nets.length - nets.countP fun info => IsLoopback info := by
  have h := List.length_eq_countP_add_countP (p := fun info => decide (IsLoopback info)) (l := nets)
  rw [← List.countP_eq_length_filter]
  have hnot : (nets.countP fun info => decide (¬ IsLoopback info)) =
      nets.countP fun info => ¬ decide (IsLoopback info) = true := by
    refine List.countP_congr fun info _ => ?_
    simp
  omega

theorem eraseLoopback_eq_filter {nets : List NetInfo}
    (h : (nets.countP fun info => IsLoopback info) ≤ 1) :
    eraseLoopback nets = nets.filter fun info => ¬ IsLoopback info := by
  induction nets with
  | nil => rfl
  | cons info nets ih =>
    rw [eraseLoopback, List.filter_cons]
    by_cases hi : info.type = .loopback
    · rw [List.countP_cons_of_pos (by simp [IsLoopback, hi])] at h
      have hzero : (nets.countP fun info => IsLoopback info) = 0 := by omega
      rw [List.countP_eq_zero] at hzero
      rw [if_pos hi, if_neg (by simp [IsLoopback, hi])]
      symm
      rw [List.filter_eq_self]
      intro a ha
      simpa using hzero a ha
    · rw [List.countP_cons_of_neg (by simp [IsLoopback, hi])] at h
      rw [if_neg hi, if_pos (by simp [IsLoopback, hi]), ih h]

theorem getType_eq_loopback {info : NetInfo} :
    info.getType = lit "LOOPBACK" ↔ IsLoopback info := by
  unfold NetInfo.getType IsLoopback
  cases info.type <;> decide

/-- Nothing else is written than the fields of an interface. -/
theorem key_of_mem_fields {info : NetInfo} {w : Text × Text} (h : w ∈ fields info) : w.1 ∈
    [NETTYPE, NETNAME, NETHOSTNAME, NETHWADDR, NETINETADDR, NETINET6ADDR, NETLINKSPEED, NETUP] := by
  have htext : ∀ {key value : Text}, w ∈ textField key value → w.1 = key := by
    intro key value hw
    unfold textField at hw
    split at hw
    · rw [List.mem_singleton.mp hw]
    · cases hw
  simp only [fields, List.cons_append, List.mem_cons, List.mem_append] at h
  simp only [List.mem_cons, List.not_mem_nil, or_false]
  rcases h with rfl | (((((h | h) | h) | h) | h) | h) | rfl | h
  · exact .inl rfl
  · simp [htext h]
  · simp [htext h]
  · simp [htext h]
  · simp [htext h]
  · simp [htext h]
  · split at h
    · simp [List.mem_singleton.mp h]
    · cases h
  · simp
  · cases h

/-- The fields that are written, key by key. -/
theorem lastWrite_fields (info : NetInfo) (key : Text) :
    lastWrite (fields info) key = entry info key := by
  have htext : ∀ key f, (key, f) ∈ textFields →
      lastWrite (fields info) key = if f info = [] then none else some (f info) := by
    intro key f hf
    rw [lastWrite_fields_text info hf]
    exact ite_not ..
  unfold entry
  split_ifs with htype hname hhostname hmac hinet hinet6 hspeed hdefault hup
  · subst htype
    exact lastWrite_fields_type info
  · subst hname
    exact htext NETNAME NetInfo.name (by simp [textFields])
  · subst hhostname
    exact htext NETHOSTNAME NetInfo.hostname (by simp [textFields])
  · subst hmac
    exact htext NETHWADDR NetInfo.hwAddress (by simp [textFields])
  · subst hinet
    exact htext NETINETADDR NetInfo.inetAddress (by simp [textFields])
  · subst hinet6
    exact htext NETINET6ADDR NetInfo.inet6Address (by simp [textFields])
  · subst hspeed
    exact (lastWrite_fields_linkspeed info).trans (if_neg (not_not.mpr hdefault))
  · subst hspeed
    exact (lastWrite_fields_linkspeed info).trans (if_pos hdefault)
  · subst hup
    exact lastWrite_fields_up info
  · refine lastWrite_eq_none.mpr fun w hw heq => ?_
    have hkey := key_of_mem_fields hw
    simp only [heq, List.mem_cons, List.not_mem_nil, or_false] at hkey
    rcases hkey with h | h | h | h | h | h | h | h
    · exact htype h
    · exact hname h
    · exact hhostname h
    · exact hmac h
    · exact hinet h
    · exact hinet6 h
    · exact hspeed h
    · exact hup h

theorem noLoopback_of_publishes {record : Record} {nets : List NetInfo}
    (h : Publishes record nets) (hno : ∀ info ∈ nets, ¬ IsLoopback info) : NoLoopback record := by
  intro n hn k hk htype
  rw [h.count] at hn
  obtain rfl := putNat_injective (Option.some.inj hn)
  have hentry := h.entries k (lit "Type")
  have hkey : lit " " ++ lit "Type" = lit " Type" := by decide
  have hpublished : entry nets[k] (lit "Type") = some nets[k].getType := by
    unfold entry
    exact if_pos rfl
  rw [List.append_assoc, hkey, htype, List.getElem?_eq_getElem hk, Option.bind_some,
    hpublished] at hentry
  exact hno _ (List.getElem_mem hk) (getType_eq_loopback.mp (Option.some.inj hentry).symm)

section Published

variable {U : Uint128Ops} {nodeID : UInt128} {session : Text} {nets : List NetInfo}

theorem lookup_announceInfos {slot : Slot} (hslot : slot.Apart NET) :
    (announceInfos U nodeID session nets fresh).service.lookup (slot.text NET) =
      lastWrite (log U nodeID session nets) slot := by
  rw [service_announceInfos, lookup_spell log_apart hslot, AList.lookup_empty, Option.or_none]

/-- What an announcement on a fresh service publishes: the list without its first loopback
interface. -/
theorem publishes_announceInfos (hne : nets ≠ []) :
    Publishes (announceInfos U nodeID session nets fresh).service (eraseLoopback nets) where
  count := by
    have hkey : lit "Net Count" = (Slot.plain NETCOUNT).text NET := by decide
    rw [hkey, lookup_announceInfos (Slot.apart_plain _ _), lastWrite_log_count, if_neg hne]
  entries k key := by
    have hkey : lit "Net" ++ putNat k ++ lit " " ++ key = (Slot.indexed k key).text NET := rfl
    rw [hkey, lookup_announceInfos (Slot.apart_indexed _ _ _), lastWrite_log_indexed]
    simp only [lastWrite_fields]

/-- It is the list without all loopback interfaces exactly if there is at most one of them. -/
theorem publishes_filter_iff (hne : nets ≠ []) :
    (NoLoopback (announceInfos U nodeID session nets fresh).service ∧
      Publishes (announceInfos U nodeID session nets fresh).service
        (nets.filter fun info => ¬ IsLoopback info)) ↔
      (nets.countP fun info => IsLoopback info) ≤ 1 := by
  have hpublishes : Publishes (announceInfos U nodeID session nets fresh).service
      (eraseLoopback nets) := publishes_announceInfos hne
  constructor
  · rintro ⟨_, hfilter⟩
    have hcount := hfilter.count
    rw [hpublishes.count] at hcount
    have hlen := putNat_injective (Option.some.inj hcount)
    have hle := List.countP_le_length (p := fun info => decide (IsLoopback info)) (l := nets)
    rw [length_eraseLoopback, length_filter_not] at hlen
    omega
  · intro h
    rw [eraseLoopback_eq_filter h] at hpublishes
    refine ⟨noLoopback_of_publishes hpublishes fun info hinfo => ?_, hpublishes⟩
    simpa using List.of_mem_filter hinfo

end Published

end Net

section Announce

variable {ι : Type} (M : Matchers) (U : Uint128Ops) (nodeID : UInt128) (w : World ι NetInfo)
  (stack : List (Registered ι)) (session : Text) (announcing : Bool)

/-- Nothing is merged into an interface, so its first occurrence is announced. -/
theorem announcedInfos_net : (netResource M U nodeID).announcedInfos w stack =
    (Resource.localInfos w stack).eraseDups := by
  have hkeep : ∀ (l : List NetInfo) (a : NetInfo), l.foldl (fun info _ => info) a = a := by
    intro l a
    induction l with
    | nil => rfl
    | cons _ l ih => exact ih
  have hrun : (netResource M U nodeID).announcedInfos w stack =
      run (dedup fun info _ => info) [] (Resource.localInfos w stack) := rfl
  rw [hrun, run_dedup Net.keepFirst_isMerge]
  conv_rhs => rw [← List.map_id (Resource.localInfos w stack).eraseDups]
  exact List.map_congr_left fun a _ => hkeep _ a

theorem service_announce_net :
    ((netResource M U nodeID).announce w stack session ⟨Net.fresh, announcing⟩
      .dnsSd).impl.service =
        (Net.announceInfos U nodeID session (Resource.localInfos w stack).eraseDups
          Net.fresh).service := by
  rw [Resource.announce_dnsSd, announcedInfos_net]
  rfl

/-- Of the interfaces that the other modules discover, without duplicates, the first announcement of
the module publishes exactly those that are no loopback interface if there is at most one that is;
otherwise a loopback interface is published. -/
theorem announce_loopback_iff (h : Resource.localInfos w stack ≠ []) :
    let infos := (Resource.localInfos w stack).eraseDups
    let published := ((netResource M U nodeID).announce w stack session ⟨Net.fresh, announcing⟩
      .dnsSd).impl.service
    (Net.NoLoopback published ∧
      Net.Publishes published (infos.filter fun info => ¬ Net.IsLoopback info)) ↔
      (infos.countP fun info => Net.IsLoopback info) ≤ 1 := by
  intro infos published
  have hne : infos ≠ [] := by
    obtain ⟨info, hinfo⟩ := List.exists_mem_of_ne_nil _ h
    obtain ⟨info', hinfo', _⟩ := exists_eraseDups_beq _ info hinfo
    exact List.ne_nil_of_mem hinfo'
  show (Net.NoLoopback published ∧ _) ↔ _
  rw [show published = _ from service_announce_net M U nodeID w stack session announcing]
  exact Net.publishes_filter_iff hne

end Announce

/-- What a machine with loopback interfaces `names` and an Ethernet interface discovers. -/
def loopbackWorld (names : List Text) : World Unit NetInfo where
  infos := fun _ =>
    names.map (fun name => { NetInfo.new 7 with type := .loopback, name := name, up := true }) ++
      [{ NetInfo.new 7 with type := .ethernet, name := lit "eth0", up := true }]
  all := ∅
  loc := ∅
  announced := true

theorem announce_loopback_iff_lo :
    let w := loopbackWorld [lit "lo"]
    let stack := [Registered.native (), Registered.dnsSd]
    let infos := (Resource.localInfos w stack).eraseDups
    let published := ((netResource ⟨none, none⟩ hexUint128 7).announce w stack (lit "default")
      ⟨Net.fresh, false⟩ .dnsSd).impl.service
    (Net.NoLoopback published ∧
      Net.Publishes published (infos.filter fun info => ¬ Net.IsLoopback info)) ↔
      (infos.countP fun info => Net.IsLoopback info) ≤ 1 :=
  announce_loopback_iff ⟨none, none⟩ hexUint128 7 (loopbackWorld [lit "lo"])
    [.native (), .dnsSd] (lit "default") false (by decide)

/-- A second loopback interface is published. -/
theorem announce_two_loopbacks :
    let w := loopbackWorld [lit "lo0", lit "lo1"]
    let stack := [Registered.native (), Registered.dnsSd]
    let infos := (Resource.localInfos w stack).eraseDups
    let published := ((netResource ⟨none, none⟩ hexUint128 7).announce w stack (lit "default")
      ⟨Net.fresh, false⟩ .dnsSd).impl.service
    ¬ (Net.NoLoopback published ∧
      Net.Publishes published (infos.filter fun info => ¬ Net.IsLoopback info)) := by
  intro w stack infos published
  have hcount : ¬ (infos.countP fun info => Net.IsLoopback info) ≤ 1 := by decide
  rw [show published = _ from service_announce_net ⟨none, none⟩ hexUint128 7 w stack _ false,
    Net.publishes_filter_iff (by decide)]
  exact hcount

end Hwsd
