import Hwsd.Codec.Gpu
import Hwsd.Functions

/-!
# Hwsd.Session

Sessions across the network. A session is published as a whole text and read back with a stream,
which takes its first word and leaves the preset `local` when there is none (`sessionWord`).

* `session_isolation_iff`: an announcing and a browsing side that name sessions `s` and `t` find
  each other exactly if `s = t`, for every `s` without white space, and for the others exactly if
  `t` is not the word that is read for `s`.
* `isLocal_discover_iff`: a discovered record is taken for a local one exactly if `local` is read
  for the session of its host.
-/

namespace Hwsd

open CxxStream Greedy KvStore DnsSd

/-- What a browser reads for a published session. -/
def sessionWord (text : Text) : Text := if Blank text then getLocalSession else word (skipws text)

theorem extractText_session (text : Text) :
    extractText text getLocalSession = sessionWord text := by
  unfold sessionWord
  split
  · rename_i h
    exact extractText_of_blank h _
  · rename_i h
    exact extractText_of_not_blank h _

theorem sessionWord_eq_self {s : Text} (hs : s ≠ []) : sessionWord s = s ↔ NoSpace s := by
  constructor
  · intro h
    rw [← h, sessionWord]
    split
    · decide
    · exact noSpace_word _
  · intro h
    rw [← extractText_session, extractText_eq_self hs h]

namespace Gpu

section Isolation

variable {U : Uint128Ops} {nodeID localNodeID : UInt128} {all loc : Snapshot} {host s : Text}
  {gpus : List GPUInfo}

theorem session_discoveredHost
    (h : all.lookup host = some (announceInfos U nodeID s gpus fresh).service) :
    ∀ info ∈ discoveredHost U localNodeID all loc host, info.session = sessionWord s := by
  intro info hinfo
  rw [discoveredHost, markLocal, List.mem_map] at hinfo
  obtain ⟨info', hinfo', rfl⟩ := hinfo
  rw [discoverHost_announced h, List.mem_map] at hinfo'
  obtain ⟨gpu, _, rfl⟩ := hinfo'
  rw [← extractText_session]
  split <;> rfl

theorem discoveredHost_ne_nil (hg : gpus ≠ [])
    (h : all.lookup host = some (announceInfos U nodeID s gpus fresh).service) :
    discoveredHost U localNodeID all loc host ≠ [] := by
  have hlen : 0 < gpus.length := List.length_pos_of_ne_nil hg
  rw [discoveredHost, markLocal, discoverHost_announced h, ← List.length_pos_iff, List.length_map,
    List.length_map, List.length_take]
  simp only [UInt32.size]
  omega

/-- A session filter lets some record of an announcing host through if and only if it names the
word that is read for the session of the host. -/
theorem exists_ofHost_iff (M : Matchers) {ι : Type} {w : World ι GPUInfo} {st : Impl}
    (hst : st.announcing = false) {t : Text} (ht : t ≠ []) (hg : gpus ≠ [])
    (h : w.all.lookup host = some (announceInfos U nodeID s gpus fresh).service) :
    (∃ info ∈ discoverGPUInfos M U localNodeID w [.dnsSd] st
        (some (Filter.duplicate ||| Filter.session t)),
      ∃ info' ∈ discoveredHost U localNodeID w.all w.loc host, (info == info') = true) ↔
      sessionWord s = t := by
  have hrun : discoverGPUInfos M U localNodeID w [.dnsSd] st
      (some (Filter.duplicate ||| Filter.session t)) =
      run (dedup mergeFlags) [] ((discover U localNodeID w.all w.loc).filter
        fun info => decide (info.session = t)) := by
    rw [discoverGPUInfos, Resource.discoverInfos_eq, Resource.discover_idle _ _ hst, selector,
      ← run_duplicate_or_session M ht]
    simp [Resource.discovered, gpuResource]
  rw [hrun]
  constructor
  · rintro ⟨info, hinfo, info', hinfo', hbeq⟩
    obtain ⟨a, ha, hia⟩ := exists_beq_of_run_dedup mergeFlags_isMerge hinfo
    have hsess : a.session = t := by simpa using List.of_mem_filter ha
    rw [← session_discoveredHost h info' hinfo', ← hsess, ← (GPUInfo.beq_iff.mp hia).2.1,
      (GPUInfo.beq_iff.mp hbeq).2.1]
  · intro hst'
    have hne : discoveredHost U localNodeID w.all w.loc host ≠ [] := discoveredHost_ne_nil hg h
    obtain ⟨a, ha⟩ := List.exists_mem_of_ne_nil _ hne
    have hhost : host ∈ w.all.keys := mem_keys_of_lookup h
    have hmem : a ∈ (discover U localNodeID w.all w.loc).filter
        fun info => decide (info.session = t) := by
      rw [List.mem_filter, discover_eq_flatMap, List.mem_flatMap]
      refine ⟨⟨host, hhost, ha⟩, ?_⟩
      rw [session_discoveredHost h a ha, hst']
      simp
    obtain ⟨b, hb, hba⟩ := exists_run_dedup_beq mergeFlags_isMerge hmem
    exact ⟨b, hb, a, ha, hba⟩

end Isolation

/-- Session isolation of an announcement with session `s` and a discovery that filters for session
`t`. It holds for every `t` when no white space cuts `s`, and otherwise for the `t` that are
neither `s` nor the word that is read for it. -/
theorem session_isolation_iff {ι : Type} (M : Matchers) (U : Uint128Ops)
    (nodeID localNodeID : UInt128) (w : World ι GPUInfo) (st : Impl) (host s t : Text)
    (gpus : List GPUInfo) (hst : st.announcing = false) (hg : gpus ≠ []) (hs : s ≠ []) (ht : t ≠ [])
    (h : w.all.lookup host = some (announceInfos U nodeID s gpus fresh).service) :
    let result := discoverGPUInfos M U localNodeID w [.dnsSd] st
      (some (Filter.duplicate ||| Filter.session t))
    let OfHost info := ∃ info' ∈ discoveredHost U localNodeID w.all w.loc host,
      (info == info') = true
    (s = t → ∃ info ∈ result, OfHost info) ∧ (s ≠ t → ∀ info ∈ result, ¬ OfHost info) ↔
      NoSpace s ∨ s ≠ t ∧ sessionWord s ≠ t := by
  intro result OfHost
  have hiff : (∃ info ∈ result, OfHost info) ↔ sessionWord s = t := exists_ofHost_iff M hst ht hg h
  have hnone : (∀ info ∈ result, ¬ OfHost info) ↔ sessionWord s ≠ t := by
    rw [ne_eq, ← hiff]
    exact ⟨fun hall ⟨info, hi, ho⟩ => hall info hi ho, fun hn info hi ho => hn ⟨info, hi, ho⟩⟩
  rw [hiff, hnone, ← sessionWord_eq_self hs]
  by_cases hst' : s = t
  · subst hst'
    simp
  · by_cases hw : sessionWord s = s
    · simp [hst', hw]
    · simp [hst', hw]

/-- What Servus finds when one host has announced a GPU for the session `s`. -/
def oneHost (s : Text) : World Empty GPUInfo where
  infos := fun _ => []
  all := (∅ : Snapshot).insert (lit "node1")
    (announceInfos hexUint128 7 s [GPUInfo.ofName 7 (lit "GLX")] fresh).service
  loc := ∅
  announced := true

theorem session_isolation_iff_default :
    let result := discoverGPUInfos ⟨none, none⟩ hexUint128 9 (oneHost (lit "default")) [.dnsSd]
      ⟨fresh, false⟩ (some (Filter.duplicate ||| Filter.session (lit "default")))
    let OfHost info := ∃ info' ∈ discoveredHost hexUint128 9 (oneHost (lit "default")).all
      (oneHost (lit "default")).loc (lit "node1"), (info == info') = true
    (lit "default" = lit "default" → ∃ info ∈ result, OfHost info) ∧
        (lit "default" ≠ lit "default" → ∀ info ∈ result, ¬ OfHost info) ↔
      NoSpace (lit "default") ∨
        lit "default" ≠ lit "default" ∧ sessionWord (lit "default") ≠ lit "default" :=
  session_isolation_iff ⟨none, none⟩ hexUint128 7 9 (oneHost (lit "default")) ⟨fresh, false⟩
    (lit "node1") (lit "default") (lit "default") [GPUInfo.ofName 7 (lit "GLX")] rfl (by decide)
    (by decide) (by decide) (AList.lookup_insert _)

/-- A browser that asks for the session under which a host has announced does not find the host when
there is a blank in the name. -/
theorem session_isolation_blank :
    let result := discoverGPUInfos ⟨none, none⟩ hexUint128 9 (oneHost (lit "my session")) [.dnsSd]
      ⟨fresh, false⟩ (some (Filter.duplicate ||| Filter.session (lit "my session")))
    let OfHost info := ∃ info' ∈ discoveredHost hexUint128 9 (oneHost (lit "my session")).all
      (oneHost (lit "my session")).loc (lit "node1"), (info == info') = true
    ¬ ((lit "my session" = lit "my session" → ∃ info ∈ result, OfHost info) ∧
        (lit "my session" ≠ lit "my session" → ∀ info ∈ result, ¬ OfHost info)) := by
  intro result OfHost hiso
  have hiff : (∃ info ∈ result, OfHost info) ↔ sessionWord (lit "my session") = lit "my session" :=
    exists_ofHost_iff ⟨none, none⟩ rfl (by decide) (List.cons_ne_nil _ _) (AList.lookup_insert _)
  have hword : sessionWord (lit "my session") ≠ lit "my session" := by decide
  exact hword (hiff.mp (hiso.1 rfl))

theorem session_discoverInfo {U : Uint128Ops} {localNodeID : UInt128} {sn : Snapshot} {host : Text}
    {k : Nat} {info : GPUInfo} (h : discoverInfo U localNodeID sn host k = some info) :
    info.session = sessionWord (get sn host SESSION) := by
  rw [discoverInfo_eq] at h
  split at h
  · cases h
  · cases h
    rw [← extractText_session, discoverNode_eq]
    rfl

/-- A GPU is discovered as a local one exactly if `local` is read for the session of a host that has
an entry with a type. -/
theorem isLocal_discover (U : Uint128Ops) (localNodeID : UInt128) (all loc : Snapshot) :
    (∀ info ∈ discover U localNodeID all loc, info.isLocal = false) ↔
      ∀ host ∈ all.keys, ∀ k, k < nGPUs all host → cell all host k GPUTYPE ≠ [] →
        sessionWord (get all host SESSION) ≠ getLocalSession := by
  have hlocal : ∀ info : GPUInfo, info.isLocal = false ↔ info.session ≠ getLocalSession := by
    intro info
    simp [NodeInfo.isLocal]
  rw [discover]
  refine (forall_markLocal ?_ _ _).trans ?_
  · intro info
    rfl
  simp only [hlocal, discoverHosts, List.mem_flatMap, discoverHost, List.mem_filterMap,
    List.mem_range]
  constructor
  · intro hall host hhost k hk hcell
    have hsome : (discoverInfo U localNodeID all host k).isSome := by
      rw [discoverInfo_eq, if_neg hcell]
      rfl
    obtain ⟨info, hinfo⟩ := Option.isSome_iff_exists.mp hsome
    rw [← session_discoverInfo hinfo]
    exact hall info ⟨host, hhost, k, hk, hinfo⟩
  · rintro hall info ⟨host, hhost, k, hk, hinfo⟩
    rw [session_discoverInfo hinfo]
    refine hall host hhost k hk fun hcell => ?_
    rw [discoverInfo_eq, if_pos hcell] at hinfo
    cases hinfo

end Gpu

namespace Net

/-- A network interface is discovered as a local one exactly if `local` is read for the session of
a host that has an entry. -/
theorem isLocal_discover (U : Uint128Ops) (localNodeID : UInt128) (all loc : Snapshot) :
    (∀ info ∈ discover U localNodeID all loc, info.isLocal = false) ↔
      ∀ host ∈ all.keys, 0 < nNets all host →
        sessionWord (get all host SESSION) ≠ getLocalSession := by
  have hlocal : ∀ info : NetInfo, info.isLocal = false ↔ info.session ≠ getLocalSession := by
    intro info
    simp [NodeInfo.isLocal]
  have hsession : ∀ host k, (discoverInfo U localNodeID all host k).session =
      sessionWord (get all host SESSION) := by
    intro host k
    rw [discoverInfo_eq, ← extractText_session, discoverNode_eq]
    rfl
  rw [discover]
  refine (forall_markLocal ?_ _ _).trans ?_
  · intro info
    rfl
  simp only [hlocal, discoverHosts, List.mem_flatMap, discoverHost, List.mem_map, List.mem_range]
  constructor
  · intro hall host hhost hpos
    rw [← hsession host 0]
    exact hall _ ⟨host, hhost, 0, hpos, rfl⟩
  · rintro hall info ⟨host, hhost, k, hk, rfl⟩
    rw [hsession]
    exact hall host hhost (by omega)

end Net

/-- No discovered resource is taken for a local one exactly if no host with entries has a session
for which `local` is read: none at all, a blank one, or one that begins with that word. -/
theorem isLocal_discover_iff (U : Uint128Ops) (localNodeID : UInt128) (all loc : Snapshot) :
    ((∀ info ∈ Gpu.discover U localNodeID all loc, info.isLocal = false) ↔
      ∀ host ∈ all.keys, ∀ k,
        k < (extractUnsigned (get all host (lit "GPU Count")) 0).toNat →
        get all host (lit "GPU" ++ putNat k ++ lit " Type") ≠ [] →
          sessionWord (get all host (lit "Session")) ≠ lit "local") ∧
    ((∀ info ∈ Net.discover U localNodeID all loc, info.isLocal = false) ↔
      ∀ host ∈ all.keys,
        0 < (extractUnsigned (get all host (lit "Net Count")) 0).toNat →
          sessionWord (get all host (lit "Session")) ≠ lit "local") := by
  constructor
  · rw [Gpu.isLocal_discover]
    simp only [Gpu.nGPUs_eq, Gpu.cell, Slot.text, Gpu.GPU, Gpu.GPUCOUNT, Gpu.GPUTYPE, SESSION,
      getLocalSession]
    simp only [List.append_assoc]
    rfl
  · rw [Net.isLocal_discover]
    simp only [Net.nNets_eq]
    rfl

/-- A GPU and a network interface of a host that publishes no session. -/
theorem isLocal_discover_no_session :
    let node : Record := (∅ : Record).insert (lit "NodeID") (lit "7")
    let gpus : Record := (node.insert (lit "GPU Count") (lit "1")).insert (lit "GPU0 Type")
      (lit "GLX")
    let nets : Record := node.insert (lit "Net Count") (lit "1")
    (¬ ∀ info ∈ Gpu.discover hexUint128 9 ((∅ : Snapshot).insert (lit "node1") gpus) ∅,
        info.isLocal = false) ∧
      ¬ ∀ info ∈ Net.discover hexUint128 9 ((∅ : Snapshot).insert (lit "node1") nets) ∅,
        info.isLocal = false := by
  decide

end Hwsd
