import Hwsd.Apps.Browser

/-!
# Hwsd.Apps.Listing

What the output of `hw_sd_list` says. A record is printed with a line for each field, and what is
decoded of an announcement is read word by word, so no value of it can hold a line break and pass for
a line of its own, or for another record. The name of the announcing host is not read from its record,
so it is another matter (`HostsUnbroken`), and so are the records of the own machine
(`NativesPrintable`).

* `printable_discoverHost`: what is decoded of any record can be printed.
* `Records.forall_discoverInfos`: so can the list of the browser.
* `main_readable`: outputs are the same exactly if the same is listed.
-/

namespace Hwsd

open CxxStream Greedy KvStore DnsSd

/-! ## What is decoded -/

section

variable {resource : Text} {sn : Snapshot} {host : Text}

theorem noSpace_nil : NoSpace ([] : Text) := fun _ hc => absurd hc List.not_mem_nil

theorem noSpace_extractText {data value : Text} (h : NoSpace value) :
    NoSpace (extractText data value) := by
  by_cases hb : Blank data
  · rwa [extractText_of_blank hb]
  · rw [extractText_of_not_blank hb]
    exact noSpace_word _

theorem newline_extractText {data value : Text} (h : (10 : Byte) ∉ value) :
    (10 : Byte) ∉ extractText data value := by
  by_cases hb : Blank data
  · rwa [extractText_of_blank hb]
  · rw [extractText_of_not_blank hb]
    exact newline_of_noSpace (noSpace_word _)

variable {U : Uint128Ops} (hput : ∀ id, (10 : Byte) ∉ U.put id) (hhost : (10 : Byte) ∉ host)

include hput hhost

theorem printable_discoverNode (info : NodeInfo) (hsession : (10 : Byte) ∉ info.session) :
    (discoverNode U resource sn host info).Printable U := by
  rw [discoverNode_eq]
  exact ⟨hput _, newline_extractText hhost, newline_extractText hsession⟩

theorem Gpu.printable_discoverHost (localNodeID : UInt128) :
    ∀ info ∈ Gpu.discoverHost U localNodeID sn host, info.Printable U := by
  intro info hinfo
  obtain ⟨k, _, hk⟩ := List.mem_filterMap.mp hinfo
  rw [Gpu.discoverInfo_eq] at hk
  split at hk
  · cases hk
  · obtain rfl := Option.some.inj hk
    have hlocal : (10 : Byte) ∉ getLocalSession := by decide
    refine ⟨printable_discoverNode hput hhost (NodeInfo.new localNodeID) hlocal, ?_⟩
    exact newline_of_noSpace (noSpace_typeName (noSpace_extractText noSpace_nil))

theorem Net.printable_discoverHost (localNodeID : UInt128) :
    ∀ info ∈ Net.discoverHost U localNodeID sn host, info.Printable U := by
  intro info hinfo
  obtain ⟨k, _, rfl⟩ := List.mem_map.mp hinfo
  rw [Net.discoverInfo_eq]
  have hlocal : (10 : Byte) ∉ getLocalSession := by decide
  refine ⟨printable_discoverNode hput hhost (NodeInfo.new localNodeID) hlocal, fun t ht => ?_⟩
  simp only [NetInfo.texts, List.mem_cons, List.not_mem_nil, or_false] at ht
  rcases ht with rfl | rfl | rfl | rfl | rfl <;> exact newline_extractText List.not_mem_nil

end

/-! ## What is listed -/

namespace Records

variable {α ι : Type} [BEq α] [EquivBEq α] {R : Resource α} (N : Records R)

/-- What equal records share, and no node name decides, is true of the list if it is true of the
records of this machine and of those that are decoded. -/
theorem forall_discoverInfos (w : World ι α) {s : Impl} (hs : s.announcing = false) (t : Text)
    (natives : List ι) {p : α → Prop} (hbeq : ∀ a b, (a == b) = true → p b → p a)
    (hclear : ∀ a, p a → p (N.clear a)) (hnative : ∀ a ∈ natives.flatMap w.infos, p a)
    (hhosts : ∀ a ∈ N.hosts w.all, p a) :
    ∀ a ∈ R.discoverInfos w (natives.map .native ++ [.dnsSd]) s (some (browserFilter t)), p a := by
  rw [N.discoverInfos_run w hs]
  refine forall_run_dedup N.isMerge hbeq fun a ha => ?_
  rcases List.mem_append.mp (List.mem_of_mem_filter ha) with ha | ha
  · exact hnative a ha
  · obtain ⟨b, hb, rfl⟩ := List.mem_map.mp ha
    split
    · exact hclear b (hhosts b hb)
    · exact hhosts b hb

end Records

namespace Browser

/-- What a run of the browser lists, under its name. -/
def listedGPUs (M : Matchers) (U : Uint128Ops) (localNodeID : UInt128) (b : Browser)
    (session : Text) (w : World GPUModule GPUInfo) : List GPUInfo :=
  if b.executable ≠ lit "net_sd_list" then b.gpus M U localNodeID session w else []

def listedNets (M : Matchers) (U : Uint128Ops) (localNodeID : UInt128) (b : Browser)
    (session : Text) (w : World NetModule NetInfo) : List NetInfo :=
  if b.executable ≠ lit "gpu_sd_list" then b.nets M U localNodeID session w else []

/-- A run of the browser that lists something. -/
structure Run where
  browser : Browser
  options : Options
  parsed : browser.options = some options
  lists : (options.help || options.version) = false
  gpus : World GPUModule GPUInfo
  nets : World NetModule NetInfo

namespace Run

section

variable (r : Run)

/-- No host that a browse finds has a line break in its name. -/
structure HostsUnbroken : Prop where
  gpu_hosts : ∀ host ∈ r.gpus.all.keys, (10 : Byte) ∉ host
  net_hosts : ∀ host ∈ r.nets.all.keys, (10 : Byte) ∉ host

/-- And no record of the own modules has one in a text that is printed. -/
structure NativesPrintable (U : Uint128Ops) : Prop where
  gpu_natives : ∀ info ∈ r.browser.gpuModules.flatMap r.gpus.infos, info.Printable U
  net_natives : ∀ info ∈ r.browser.netModules.flatMap r.nets.infos, info.Printable U

end

variable (M : Matchers) (U : Uint128Ops) (localNodeID : UInt128) (r : Run)

def output : Text := (r.browser.main M U localNodeID r.gpus r.nets).2

def shownGPUs : List GPUInfo := r.browser.listedGPUs M U localNodeID r.options.session r.gpus

def shownNets : List NetInfo := r.browser.listedNets M U localNodeID r.options.session r.nets

theorem output_eq : r.output M U localNodeID =
    printGPUs U (r.shownGPUs M U localNodeID) ++ printNets U (r.shownNets M U localNodeID) := by
  have hmain : r.output M U localNodeID =
      (if r.browser.executable ≠ lit "net_sd_list" then
        printGPUs U (r.browser.gpus M U localNodeID r.options.session r.gpus) else []) ++
      if r.browser.executable ≠ lit "gpu_sd_list" then
        printNets U (r.browser.nets M U localNodeID r.options.session r.nets) else [] := by
    rw [output, main, r.parsed]
    simp only [r.lists, Bool.false_eq_true, if_false]
  rw [hmain, shownGPUs, listedGPUs, shownNets, listedNets]
  congr 1
  · split <;> rfl
  · split <;> rfl

variable {U r} (hput : ∀ id, (10 : Byte) ∉ U.put id) (hhosts : r.HostsUnbroken)
  (hnatives : r.NativesPrintable U)

include hput hhosts hnatives

theorem printable_shownGPUs : ∀ info ∈ r.shownGPUs M U localNodeID, info.Printable U := by
  unfold shownGPUs listedGPUs
  split
  · refine (gpuRecords M U localNodeID).forall_discoverInfos r.gpus rfl r.options.session _ ?_ ?_
      hnatives.gpu_natives ?_
    · intro a b hab hb
      obtain ⟨hname, hsession, htype, _⟩ := GPUInfo.beq_iff.mp hab
      refine ⟨⟨hput _, hname ▸ hb.1.2.1, hsession ▸ hb.1.2.2⟩, ?_⟩
      rw [GPUInfo.getName, htype]
      exact hb.2
    · exact fun a ha => ⟨⟨ha.1.1, List.not_mem_nil, ha.1.2.2⟩, ha.2⟩
    · intro a ha
      obtain ⟨host, hhost, ha⟩ := List.mem_flatMap.mp ha
      exact Gpu.printable_discoverHost hput (hhosts.gpu_hosts host hhost) localNodeID a ha
  · simp

theorem printable_shownNets : ∀ info ∈ r.shownNets M U localNodeID, info.Printable U := by
  unfold shownNets listedNets
  split
  · refine (netRecords M U localNodeID).forall_discoverInfos r.nets rfl r.options.session _ ?_ ?_
      hnatives.net_natives ?_
    · intro a b hab hb
      rw [← NetInfo.beq_iff.mp hab] at hb
      exact ⟨⟨hput _, hb.1.2⟩, hb.2⟩
    · exact fun a ha => ⟨⟨ha.1.1, List.not_mem_nil, ha.1.2.2⟩, ha.2⟩
    · intro a ha
      obtain ⟨host, hhost, ha⟩ := List.mem_flatMap.mp ha
      exact Net.printable_discoverHost hput (hhosts.net_hosts host hhost) localNodeID a ha
  · simp

end Run

end Browser

/-- The output of the browser tells what is printed of each record that it lists, and which records
these are, as long as no host name and no record of its own machine breaks a line: whatever the
records of other machines hold, nothing of them does. -/
theorem main_readable (M M' : Matchers) (U : Uint128Ops) (localNodeID localNodeID' : UInt128)
    (hput : ∀ id, (10 : Byte) ∉ U.put id) (r r' : Browser.Run) (hhosts : r.HostsUnbroken)
    (hhosts' : r'.HostsUnbroken) (hnatives : r.NativesPrintable U)
    (hnatives' : r'.NativesPrintable U) :
    r.output M U localNodeID = r'.output M' U localNodeID' ↔
      (r.shownGPUs M U localNodeID).map (GPUInfo.shown U) =
        (r'.shownGPUs M' U localNodeID').map (GPUInfo.shown U) ∧
      (r.shownNets M U localNodeID).map (NetInfo.shown U) =
        (r'.shownNets M' U localNodeID').map (NetInfo.shown U) := by
  rw [r.output_eq, r'.output_eq]
  exact listing_eq_iff U _ _ _ _
    (Browser.Run.printable_shownGPUs M localNodeID hput hhosts hnatives)
    (Browser.Run.printable_shownGPUs M' localNodeID' hput hhosts' hnatives')
    (Browser.Run.printable_shownNets M localNodeID hput hhosts hnatives)
    (Browser.Run.printable_shownNets M' localNodeID' hput hhosts' hnatives')

/-- Neither the digits nor the colon of an id is a line break. -/
theorem newline_hexUint128 (id : UInt128) : (10 : Byte) ∉ hexUint128.put id := by
  have hdigit : ∀ d, d < 16 → UInt8.ofNat (Nat.digitChar d).toNat ≠ 10 := by decide
  have hhex : ∀ n, (10 : Byte) ∉ (Nat.toDigits 16 n).map fun c => UInt8.ofNat c.toNat := by
    intro n
    induction n using Nat.strong_induction_on with
    | h n ih =>
      rw [Nat.toDigits_eq_if (by omega)]
      split
      · rename_i hlt
        simpa using (hdigit n hlt).symm
      · have hlast := hdigit (n % 16) (Nat.mod_lt n (by omega))
        have hrest := ih (n / 16) (by omega)
        rw [List.map_append, List.mem_append, not_or]
        exact ⟨hrest, by simpa using hlast.symm⟩
  have hcolon : (10 : Byte) ∉ lit ":" := by decide
  unfold hexUint128
  simp only
  split
  · exact hhex _
  · simp only [List.mem_append, not_or]
    exact ⟨⟨hhex _, hcolon⟩, hhex _⟩

/-- A host that announces a type with a line break, and goes on as if it were another record. -/
def hostileRecord : Record :=
  setAll [(lit "GPU Count", lit "1"), (lit "GPU0 Type", lit "GLX\nGPUInfo\n  Type     Fake")] ∅

/-- A browser finds it, beside the GPU of its own machine. -/
def hostileRun : Browser.Run where
  browser := ⟨⟨false, true, false⟩, lit "hw_sd_list", some ⟨false, false, []⟩⟩
  options := ⟨false, false, []⟩
  parsed := rfl
  lists := rfl
  gpus := ⟨fun _ => [GPUInfo.ofName 9 (lit "GLX")], (∅ : Snapshot).insert (lit "host") hostileRecord,
    ∅, true⟩
  nets := ⟨fun _ => [], ∅, ∅, true⟩

/-- The run of the same browser while that host is not there. -/
def quietRun : Browser.Run where
  browser := hostileRun.browser
  options := ⟨false, false, []⟩
  parsed := rfl
  lists := rfl
  gpus := { hostileRun.gpus with all := ∅ }
  nets := hostileRun.nets

theorem hostileRun_natives : hostileRun.NativesPrintable hexUint128 where
  gpu_natives := by
    intro info h
    obtain rfl := List.mem_singleton.mp h
    exact ⟨⟨newline_hexUint128 9, by decide⟩, by decide⟩
  net_natives := by simp [hostileRun]

theorem main_readable_hostile :
    hostileRun.output ⟨none, none⟩ hexUint128 9 = quietRun.output ⟨none, none⟩ hexUint128 9 ↔
      (hostileRun.shownGPUs ⟨none, none⟩ hexUint128 9).map (GPUInfo.shown hexUint128) =
        (quietRun.shownGPUs ⟨none, none⟩ hexUint128 9).map (GPUInfo.shown hexUint128) ∧
      (hostileRun.shownNets ⟨none, none⟩ hexUint128 9).map (NetInfo.shown hexUint128) =
        (quietRun.shownNets ⟨none, none⟩ hexUint128 9).map (NetInfo.shown hexUint128) :=
  main_readable ⟨none, none⟩ ⟨none, none⟩ hexUint128 9 9 newline_hexUint128 hostileRun quietRun
    ⟨by decide, by decide⟩ ⟨by decide, by decide⟩ hostileRun_natives
    ⟨hostileRun_natives.gpu_natives, hostileRun_natives.net_natives⟩

end Hwsd
