import Hwsd.Lib.Lines
import Hwsd.Glx.Display
import Hwsd.Info.Net

/-!
# Hwsd.Info.Print

The stream operators of the resource records (`nodeInfo.cpp`, `gpuInfo.h`, `netInfo.h`), which the
discovery browser and the default announcement print with.

* `NodeInfo.put`, `GPUInfo.put`, `NetInfo.put`: the text of a record.
* `GPUInfo.put_eq`, `NetInfo.put_eq`: it is a header with labelled lines behind it.
* `listing_eq_iff`: what the printed list of GPUs and interfaces tells of them, and what it does not:
  the session of a local record, a viewport without area, and all flags but those of VirtualGL.
-/

namespace Hwsd

open CxxStream Lines

/-- `std::endl`. -/
def endl : Text := lit "\n"

section

variable (U : Uint128Ops)

def NodeInfo.put (info : NodeInfo) : Text :=
  lit "  NodeID    " ++ U.put info.id ++ endl ++
  (if info.nodeName ≠ [] then lit "  Nodename  " ++ info.nodeName ++ endl else []) ++
  (if info.session ≠ [] ∧ info.isLocal = false then lit "  Session   " ++ info.session ++ endl
  else [])

def GPUInfo.put (info : GPUInfo) : Text :=
  lit "GPUInfo\n" ++ info.toNodeInfo.put U ++
  (if info.getName ≠ [] then lit "  Type      " ++ info.getName ++ endl else []) ++
  lit "  Port      " ++ putUnsigned info.port ++ endl ++
  lit "  Device    " ++ putUnsigned info.device ++ endl ++
  (if info.pvp.HasArea then
    lit "  Viewport  [" ++ putInt info.pvp.x ++ lit " " ++ putInt info.pvp.y ++ lit " " ++
      putInt info.pvp.w ++ lit " " ++ putInt info.pvp.h ++ lit "]" ++ endl
  else []) ++
  (if info.flags ≠ 0 then
    lit "  Flags     " ++
      (if info.flags &&& Glx.FLAG_VIRTUALGL ≠ 0 then lit "VirtualGL" else []) ++
      (if info.flags &&& Glx.FLAG_VIRTUALGL_DISPLAY ≠ 0 then lit "Display" else []) ++ endl
  else [])

def NetInfo.put (info : NetInfo) : Text :=
  lit "NetInfo\n" ++ info.toNodeInfo.put U ++
  lit "  Type      " ++ info.getType ++ endl ++
  lit "  Status    " ++ (if info.up then lit "UP" else lit "DOWN") ++ endl ++
  (if info.name ≠ [] then lit "  Name      " ++ info.name ++ endl else []) ++
  (if info.hostname ≠ [] then lit "  Hostname  " ++ info.hostname ++ endl else []) ++
  (if info.hwAddress ≠ [] then lit "  HWaddr    " ++ info.hwAddress ++ endl else []) ++
  (if info.inetAddress ≠ [] then lit "  IPv4      " ++ info.inetAddress ++ endl else []) ++
  (if info.inet6Address ≠ [] then lit "  IPv6      " ++ info.inet6Address ++ endl else []) ++
  (if info.linkspeed ≠ NetInfo.defaultValue then
    lit "  Linkspeed " ++ putUnsigned info.linkspeed ++ lit "Mbps" ++ endl
  else [])

end

/-! ## The lines of a record -/

/-- A field that is printed when it holds a text. -/
def shownText (t : Text) : Option Text := if t ≠ [] then some t else none

/-- The session that is printed; that of a local record is not. -/
def NodeInfo.shownSession (info : NodeInfo) : Option Text :=
  if info.session ≠ [] ∧ info.isLocal = false then some info.session else none

def Pvp.text (p : Pvp) : Text :=
  lit "[" ++ putInt p.x ++ lit " " ++ putInt p.y ++ lit " " ++ putInt p.w ++ lit " " ++
    putInt p.h ++ lit "]"

/-- The VirtualGL flags that are printed. -/
def flagsText (flags : Bool × Bool) : Text :=
  (if flags.1 then lit "VirtualGL" else []) ++ (if flags.2 then lit "Display" else [])

def GPUInfo.shownFlags (info : GPUInfo) : Option (Bool × Bool) :=
  if info.flags ≠ 0 then
    some (info.flags &&& Glx.FLAG_VIRTUALGL ≠ 0, info.flags &&& Glx.FLAG_VIRTUALGL_DISPLAY ≠ 0)
  else none

def GPUInfo.shownPvp (info : GPUInfo) : Option Pvp :=
  if info.pvp.HasArea then some info.pvp else none

section

variable (U : Uint128Ops)

def nodeFields {ρ : Type} (node : ρ → NodeInfo) : List (Text × (ρ → Option Text)) :=
  [(lit "  NodeID    ", fun r => some (U.put (node r).id)),
    (lit "  Nodename  ", fun r => shownText (node r).nodeName),
    (lit "  Session   ", fun r => (node r).shownSession)]

def gpuFields : List (Text × (GPUInfo → Option Text)) :=
  nodeFields U GPUInfo.toNodeInfo ++
  [(lit "  Type      ", fun info => some info.getName),
    (lit "  Port      ", fun info => some (putUnsigned info.port)),
    (lit "  Device    ", fun info => some (putUnsigned info.device)),
    (lit "  Viewport  ", fun info => info.shownPvp.map Pvp.text),
    (lit "  Flags     ", fun info => info.shownFlags.map flagsText)]

def netFields : List (Text × (NetInfo → Option Text)) :=
  nodeFields U NetInfo.toNodeInfo ++
  [(lit "  Type      ", fun info => some info.getType),
    (lit "  Status    ", fun info => some (if info.up then lit "UP" else lit "DOWN")),
    (lit "  Name      ", fun info => shownText info.name),
    (lit "  Hostname  ", fun info => shownText info.hostname),
    (lit "  HWaddr    ", fun info => shownText info.hwAddress),
    (lit "  IPv4      ", fun info => shownText info.inetAddress),
    (lit "  IPv6      ", fun info => shownText info.inet6Address),
    (lit "  Linkspeed ", fun info =>
      if info.linkspeed ≠ NetInfo.defaultValue then some (putUnsigned info.linkspeed ++ lit "Mbps")
      else none)]

/-- An optional line. -/
theorem terminate_option (label : Text) (v : Option Text) :
    terminate 10 (v.map (label ++ ·)).toList =
      match v with
      | some t => label ++ t ++ endl
      | none => [] := by
  cases v with
  | none => rfl
  | some t => simp [terminate, endl, lit]

theorem terminate_nodeFields {ρ : Type} (node : ρ → NodeInfo) (r : ρ) :
    terminate 10 (fieldLines (nodeFields U node) r) = (node r).put U := by
  rw [fieldLines, terminate_flatMap]
  simp only [nodeFields, List.flatMap_cons, List.flatMap_nil, terminate_option, shownText,
    NodeInfo.shownSession, NodeInfo.put]
  by_cases hname : (node r).nodeName = [] <;>
    by_cases hsession : (node r).session ≠ [] ∧ (node r).isLocal = false <;>
    simp [hname, hsession]

/-- The lines of a printed GPU. -/
def gpuLines (info : GPUInfo) : List Text := lit "GPUInfo" :: fieldLines (gpuFields U) info

def netLines (info : NetInfo) : List Text := lit "NetInfo" :: fieldLines (netFields U) info

theorem GPUInfo.put_eq (info : GPUInfo) : info.put U = terminate 10 (gpuLines U info) := by
  have hheader : lit "GPUInfo\n" = lit "GPUInfo" ++ [10] := by decide
  have hpvp : lit "  Viewport  [" = lit "  Viewport  " ++ lit "[" := by decide
  have hfields : fieldLines (gpuFields U) info = fieldLines (nodeFields U GPUInfo.toNodeInfo) info ++
      fieldLines ((gpuFields U).drop 3) info :=
    List.flatMap_append
  rw [gpuLines, terminate_cons, hfields, terminate_append, terminate_nodeFields, fieldLines,
    terminate_flatMap]
  simp only [gpuFields, nodeFields, List.cons_append, List.drop_succ_cons, List.drop_zero,
    List.nil_append, List.flatMap_cons, List.flatMap_nil, terminate_option, GPUInfo.put, hheader,
    hpvp, if_pos info.getName_ne_nil, GPUInfo.shownPvp, GPUInfo.shownFlags]
  by_cases hp : info.pvp.HasArea <;> by_cases hf : info.flags = 0 <;>
    simp [hp, hf, Pvp.text, flagsText]

theorem NetInfo.put_eq (info : NetInfo) : info.put U = terminate 10 (netLines U info) := by
  have hheader : lit "NetInfo\n" = lit "NetInfo" ++ [10] := by decide
  have hfields : fieldLines (netFields U) info = fieldLines (nodeFields U NetInfo.toNodeInfo) info ++
      fieldLines ((netFields U).drop 3) info :=
    List.flatMap_append
  have htext : ∀ (label t : Text), (if t ≠ [] then label ++ t ++ endl else []) =
      match shownText t with
      | some t => label ++ t ++ endl
      | none => [] := by
    intro label t
    by_cases ht : t = [] <;> simp [shownText, ht]
  rw [netLines, terminate_cons, hfields, terminate_append, terminate_nodeFields, fieldLines,
    terminate_flatMap]
  simp only [netFields, nodeFields, List.cons_append, List.drop_succ_cons, List.drop_zero,
    List.nil_append, List.flatMap_cons, List.flatMap_nil, terminate_option, NetInfo.put, hheader,
    htext]
  by_cases hs : info.linkspeed = NetInfo.defaultValue <;> simp [hs]

end

/-! ## What the lines tell -/

theorem newline_of_noSpace {t : Text} (h : NoSpace t) : (10 : Byte) ∉ t := by
  intro hmem
  have hspace := h 10 hmem
  revert hspace
  decide

theorem noSpace_putInt (z : Int32) : NoSpace (putInt z) := by
  rw [putInt]
  split
  · intro c hc
    rcases List.mem_append.mp hc with hc | hc
    · have hlit : lit "-" = [45] := by decide
      rw [hlit, List.mem_singleton] at hc
      rw [hc]
      decide
    · exact noSpace_putNat _ c hc
  · exact noSpace_putNat _

theorem putInt_injective : Function.Injective putInt := by
  intro a b h
  rw [← (int_roundTrips a).2 0, h, (int_roundTrips b).2]

theorem putUnsigned_injective : Function.Injective putUnsigned := by
  intro a b h
  rw [putUnsigned, putUnsigned, putNat_injective.eq_iff, UInt32.toNat_inj] at h
  exact h

theorem shownText_injective : Function.Injective shownText := by
  intro t t' h
  by_cases ht : t = [] <;> by_cases ht' : t' = [] <;> simp_all [shownText]

theorem Pvp.text_injective : Function.Injective Pvp.text := by
  have hblank : lit " " = [32] := by decide
  have hspace : ∀ z : Int32, (32 : Byte) ∉ putInt z := by
    intro z hmem
    have hz := noSpace_putInt z 32 hmem
    revert hz
    decide
  intro p q h
  simp only [Pvp.text, hblank, List.append_assoc, List.append_cancel_left_eq, List.cons_append,
    List.nil_append] at h
  -- the four numbers are cut apart at the blanks between them
  rw [append_cons_inj_first (hspace _) (hspace _), append_cons_inj_first (hspace _) (hspace _),
    append_cons_inj_first (hspace _) (hspace _), List.append_cancel_right_eq] at h
  simp only [putInt_injective.eq_iff] at h
  obtain ⟨hx, hy, hw, hh⟩ := h
  cases p
  cases q
  simp_all

theorem flagsText_injective : Function.Injective flagsText := by
  rintro ⟨_ | _, _ | _⟩ ⟨_ | _, _ | _⟩ <;> decide

section

variable (U : Uint128Ops)

/-- What is printed of a node. -/
def NodeInfo.shown (info : NodeInfo) : Text × Text × Option Text :=
  (U.put info.id, info.nodeName, info.shownSession)

/-- What is printed of a GPU. -/
def GPUInfo.shown (info : GPUInfo) :
    (Text × Text × Option Text) × UInt32 × UInt32 × UInt32 × Option Pvp × Option (Bool × Bool) :=
  (info.toNodeInfo.shown U, info.type, info.port, info.device, info.shownPvp, info.shownFlags)

/-- What is printed of an interface: all that it says besides its node. -/
def NetInfo.shown (info : NetInfo) : (Text × Text × Option Text) × NetInfo :=
  (info.toNodeInfo.shown U, { info with toNodeInfo := ⟨0, [], []⟩ })

theorem forall_nodeFields {ρ : Type} (node : ρ → NodeInfo) (r r' : ρ) :
    (∀ f ∈ nodeFields U node, f.2 r = f.2 r') ↔ (node r).shown U = (node r').shown U := by
  simp [nodeFields, NodeInfo.shown, shownText_injective.eq_iff]

theorem typeName_injective : Function.Injective typeName := by
  intro a b h
  simp only [typeName, List.cons.injEq, and_true] at h
  have ha := a.toNat_lt
  have hb := b.toNat_lt
  have hbyte : ∀ m n : Nat, UInt8.ofNat m = UInt8.ofNat n → m % 256 = n % 256 := by
    intro m n hmn
    have hnat := congrArg UInt8.toNat hmn
    simpa using hnat
  obtain ⟨h0, h1, h2, h3⟩ := h
  have h0' := hbyte _ _ h0
  have h1' := hbyte _ _ h1
  have h2' := hbyte _ _ h2
  have h3' := hbyte _ _ h3
  apply UInt32.toNat_inj.mp
  omega

theorem gpuLines_eq_iff (a b : GPUInfo) :
    gpuLines U a = gpuLines U b ↔ a.shown U = b.shown U := by
  have hwidth : ∀ f ∈ gpuFields U, f.1.length = 12 := by
    simp [gpuFields, nodeFields, lit]
  have hlabels : ((gpuFields U).map Prod.fst).Nodup := by
    simp only [gpuFields, nodeFields, List.cons_append, List.nil_append, List.map_cons, List.map_nil]
    decide
  rw [gpuLines, gpuLines, List.cons.injEq, fieldLines_eq_iff hwidth hlabels, gpuFields,
    List.forall_mem_append, forall_nodeFields]
  simp [GPUInfo.shown, GPUInfo.getName, typeName_injective.eq_iff, putUnsigned_injective.eq_iff,
    (Option.map_injective Pvp.text_injective).eq_iff,
    (Option.map_injective flagsText_injective).eq_iff]

theorem getType_eq_iff (a b : NetInfo) : a.getType = b.getType ↔ a.type = b.type := by
  rw [NetInfo.getType, NetInfo.getType]
  cases a.type <;> cases b.type <;> decide

theorem netLines_eq_iff (a b : NetInfo) :
    netLines U a = netLines U b ↔ a.shown U = b.shown U := by
  have hwidth : ∀ f ∈ netFields U, f.1.length = 12 := by
    simp [netFields, nodeFields, lit]
  have hlabels : ((netFields U).map Prod.fst).Nodup := by
    simp only [netFields, nodeFields, List.cons_append, List.nil_append, List.map_cons, List.map_nil]
    decide
  have hspeed : ∀ u v : UInt32,
      (if u ≠ NetInfo.defaultValue then some (putUnsigned u ++ lit "Mbps") else none) =
        (if v ≠ NetInfo.defaultValue then some (putUnsigned v ++ lit "Mbps") else none) ↔ u = v := by
    intro u v
    by_cases hu : u = NetInfo.defaultValue
    · by_cases hv : v = NetInfo.defaultValue
      · simp [hu, hv]
      · simp [hu, hv, Ne.symm hv]
    · by_cases hv : v = NetInfo.defaultValue
      · simp [hu, hv]
      · simp [hu, hv, putUnsigned_injective.eq_iff]
  have hup : ∀ u v : Bool, (if u then lit "UP" else lit "DOWN") =
      (if v then lit "UP" else lit "DOWN") ↔ u = v := by decide
  rw [netLines, netLines, List.cons.injEq, fieldLines_eq_iff hwidth hlabels, netFields,
    List.forall_mem_append, forall_nodeFields]
  simp only [List.forall_mem_cons, List.not_mem_nil, false_implies, implies_true, and_true,
    Option.some.injEq, hspeed, hup, shownText_injective.eq_iff, getType_eq_iff, true_and]
  simp only [NetInfo.shown, Prod.mk.injEq, NetInfo.mk.injEq, true_and]
  -- the status is printed behind the type, and is the last field of the record
  constructor
  · rintro ⟨hnode, htype, hstatus, hname, hhostname, hhw, hinet, hinet6, hlinkspeed⟩
    exact ⟨hnode, htype, hname, hhostname, hhw, hinet, hinet6, hlinkspeed, hstatus⟩
  · rintro ⟨hnode, htype, hname, hhostname, hhw, hinet, hinet6, hlinkspeed, hstatus⟩
    exact ⟨hnode, htype, hstatus, hname, hhostname, hhw, hinet, hinet6, hlinkspeed⟩

end

/-! ## Printed lists -/

section

variable (U : Uint128Ops)

/-- `std::cout << *i << std::endl` for each record of a list. -/
def printGPUs (gpus : List GPUInfo) : Text := gpus.flatMap fun info => info.put U ++ endl

def printNets (nets : List NetInfo) : Text := nets.flatMap fun info => info.put U ++ endl

/-- Nothing that is printed of the node holds a line break. -/
def NodeInfo.Printable (info : NodeInfo) : Prop :=
  (10 : Byte) ∉ U.put info.id ∧ 10 ∉ info.nodeName ∧ 10 ∉ info.session

def GPUInfo.Printable (info : GPUInfo) : Prop :=
  info.toNodeInfo.Printable U ∧ (10 : Byte) ∉ info.getName

def NetInfo.Printable (info : NetInfo) : Prop :=
  info.toNodeInfo.Printable U ∧ ∀ t ∈ info.texts, (10 : Byte) ∉ t

variable {U}

theorem printGPUs_eq (gpus : List GPUInfo) :
    printGPUs U gpus = terminate 10 (terminate [] (gpus.map (gpuLines U))) := by
  rw [printGPUs, terminate_blocks, List.flatMap_map]
  refine List.flatMap_congr fun info _ => ?_
  rw [GPUInfo.put_eq]
  rfl

theorem printNets_eq (nets : List NetInfo) :
    printNets U nets = terminate 10 (terminate [] (nets.map (netLines U))) := by
  rw [printNets, terminate_blocks, List.flatMap_map]
  refine List.flatMap_congr fun info _ => ?_
  rw [NetInfo.put_eq]
  rfl

/-- A line of a record is not empty, and holds no line break if neither label nor value does. -/
theorem line_ok {ρ : Type} {fields : List (Text × (ρ → Option Text))} {r : ρ}
    (h : ∀ f ∈ fields, f.1 ≠ [] ∧ (10 : Byte) ∉ f.1 ∧ ∀ v, f.2 r = some v → 10 ∉ v) :
    ∀ l ∈ fieldLines fields r, l ≠ [] ∧ (10 : Byte) ∉ l := by
  intro l hl
  obtain ⟨f, hf, v, hv, rfl⟩ := exists_of_mem_fieldLines hl
  obtain ⟨hne, hlabel, hvalue⟩ := h f hf
  exact ⟨by simp [hne], by simp [hlabel, hvalue v hv]⟩

theorem newline_shownText {t v : Text} (h : (10 : Byte) ∉ t) (hv : shownText t = some v) :
    (10 : Byte) ∉ v := by
  rw [shownText] at hv
  split at hv
  · rwa [← Option.some.inj hv]
  · cases hv

theorem newline_nodeFields {ρ : Type} {node : ρ → NodeInfo} {r : ρ} (h : (node r).Printable U) :
    ∀ f ∈ nodeFields U node, f.1 ≠ [] ∧ (10 : Byte) ∉ f.1 ∧ ∀ v, f.2 r = some v → 10 ∉ v := by
  obtain ⟨hid, hname, hsession⟩ := h
  have hshown : ∀ v, (node r).shownSession = some v → (10 : Byte) ∉ v := by
    intro v hv
    rw [NodeInfo.shownSession] at hv
    split at hv
    · rwa [← Option.some.inj hv]
    · cases hv
  simp only [nodeFields, List.forall_mem_cons, List.not_mem_nil, false_implies, implies_true,
    and_true, Option.some.injEq, forall_eq']
  exact ⟨⟨by decide, by decide, hid⟩, ⟨by decide, by decide, fun v => newline_shownText hname⟩,
    by decide, by decide, hshown⟩

theorem newline_pvp (p : Pvp) : (10 : Byte) ∉ p.text := by
  have hnum : ∀ z : Int32, (10 : Byte) ∉ putInt z := fun z => newline_of_noSpace (noSpace_putInt z)
  have hlit : (10 : Byte) ∉ lit "[" ∧ (10 : Byte) ∉ lit " " ∧ (10 : Byte) ∉ lit "]" := by decide
  simp [Pvp.text, hnum, hlit]

theorem gpuLines_ok {info : GPUInfo} (h : info.Printable U) :
    ∀ l ∈ gpuLines U info, l ≠ [] ∧ (10 : Byte) ∉ l := by
  have hnum : ∀ u : UInt32, (10 : Byte) ∉ putUnsigned u := fun u => newline_of_noSpace (noSpace_putNat _)
  have hflags : ∀ flags, (10 : Byte) ∉ flagsText flags := by
    rintro ⟨_ | _, _ | _⟩ <;> decide
  rw [gpuLines, List.forall_mem_cons]
  refine ⟨by decide, line_ok ?_⟩
  rw [gpuFields, List.forall_mem_append]
  refine ⟨newline_nodeFields h.1, ?_⟩
  simp only [List.forall_mem_cons, List.not_mem_nil, false_implies, implies_true, and_true,
    Option.some.injEq, forall_eq', Option.map_eq_some_iff, forall_exists_index, and_imp,
    forall_apply_eq_imp_iff₂]
  exact ⟨⟨by decide, by decide, h.2⟩, ⟨by decide, by decide, hnum _⟩, ⟨by decide, by decide, hnum _⟩,
    ⟨by decide, by decide, fun p _ => newline_pvp p⟩, by decide, by decide, fun f _ => hflags f⟩

theorem netLines_ok {info : NetInfo} (h : info.Printable U) :
    ∀ l ∈ netLines U info, l ≠ [] ∧ (10 : Byte) ∉ l := by
  have hspeed : ∀ v, (if info.linkspeed ≠ NetInfo.defaultValue then
      some (putUnsigned info.linkspeed ++ lit "Mbps") else none) = some v → (10 : Byte) ∉ v := by
    intro v hv
    have hmbps : (10 : Byte) ∉ lit "Mbps" := by decide
    have hnum : (10 : Byte) ∉ putUnsigned info.linkspeed := newline_of_noSpace (noSpace_putNat _)
    split at hv
    · rw [← Option.some.inj hv]
      simp [hmbps, hnum]
    · cases hv
  have hup : (10 : Byte) ∉ (if info.up then lit "UP" else lit "DOWN") := by
    cases info.up <;> decide
  have htexts := h.2
  simp only [NetInfo.texts, List.forall_mem_cons, List.not_mem_nil, false_implies, implies_true,
    and_true] at htexts
  obtain ⟨hname, hhostname, hhw, hinet, hinet6⟩ := htexts
  rw [netLines, List.forall_mem_cons]
  refine ⟨by decide, line_ok ?_⟩
  rw [netFields, List.forall_mem_append]
  refine ⟨newline_nodeFields h.1, ?_⟩
  simp only [List.forall_mem_cons, List.not_mem_nil, false_implies, implies_true, and_true,
    Option.some.injEq, forall_eq']
  exact ⟨⟨by decide, by decide, newline_of_noSpace info.noSpace_getType⟩, ⟨by decide, by decide, hup⟩,
    ⟨by decide, by decide, fun v => newline_shownText hname⟩,
    ⟨by decide, by decide, fun v => newline_shownText hhostname⟩,
    ⟨by decide, by decide, fun v => newline_shownText hhw⟩,
    ⟨by decide, by decide, fun v => newline_shownText hinet⟩,
    ⟨by decide, by decide, fun v => newline_shownText hinet6⟩, by decide, by decide, hspeed⟩

end

/-- The printed lists of two discoveries are the same text exactly if they are the same lists up to
what is not printed. -/
theorem listing_eq_iff (U : Uint128Ops) (gpus gpus' : List GPUInfo) (nets nets' : List NetInfo)
    (hgpus : ∀ info ∈ gpus, info.Printable U) (hgpus' : ∀ info ∈ gpus', info.Printable U)
    (hnets : ∀ info ∈ nets, info.Printable U) (hnets' : ∀ info ∈ nets', info.Printable U) :
    printGPUs U gpus ++ printNets U nets = printGPUs U gpus' ++ printNets U nets' ↔
      gpus.map (GPUInfo.shown U) = gpus'.map (GPUInfo.shown U) ∧
        nets.map (NetInfo.shown U) = nets'.map (NetInfo.shown U) := by
  have hok : ∀ (gs : List GPUInfo) (ns : List NetInfo), (∀ info ∈ gs, info.Printable U) →
      (∀ info ∈ ns, info.Printable U) →
      ∀ b ∈ gs.map (gpuLines U) ++ ns.map (netLines U), ∀ l ∈ b, l ≠ [] ∧ (10 : Byte) ∉ l := by
    intro gs ns hgs hns
    rw [List.forall_mem_append, List.forall_mem_map, List.forall_mem_map]
    exact ⟨fun info h => gpuLines_ok (hgs info h), fun info h => netLines_ok (hns info h)⟩
  -- the header tells a GPU from an interface
  have hgpu : ∀ gs : List GPUInfo, ∀ b ∈ gs.map (gpuLines U), b.head? = some (lit "GPUInfo") := by
    intro gs
    rw [List.forall_mem_map]
    exact fun info _ => rfl
  have hnet : ∀ ns : List NetInfo, ∀ b ∈ ns.map (netLines U),
      ¬ b.head? = some (lit "GPUInfo") := by
    intro ns
    rw [List.forall_mem_map]
    intro info _ h
    have hheader : lit "NetInfo" = lit "GPUInfo" := Option.some.inj h
    revert hheader
    decide
  rw [printGPUs_eq, printGPUs_eq, printNets_eq, printNets_eq, ← terminate_append, ← terminate_append,
    ← terminate_append, ← terminate_append,
    terminate_blocks_inj (hok gpus nets hgpus hnets) (hok gpus' nets' hgpus' hnets'),
    append_inj_of_forall (hgpu gpus) (hgpu gpus') (hnet nets) (hnet nets'),
    map_eq_map_congr fun a _ b _ => gpuLines_eq_iff U a b,
    map_eq_map_congr fun a _ b _ => netLines_eq_iff U a b]

end Hwsd
