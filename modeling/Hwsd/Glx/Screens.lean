import Hwsd.Glx.Module

/-!
# Hwsd.Glx.Screens

What the discovery finds on local servers that behave as Xlib says: `discover_exact` says which
screens are listed, and in which order. The records are compared, not the screens, so the argument
is that the record of a screen tells its server and number (`record_beq`), and that the default
record of a display that cannot be opened, whose viewport is invalid, is the record of no screen.

* `LocalServers env count size`: server `i` has the screens `j < count i`, of size `size i j`.
* `discover_map_place`: the records are those of the places of the table `count`, with the one of
  `DISPLAY` first.
-/

namespace Hwsd
namespace Glx

open CxxStream Probe

/-- The screen that a name means. -/
def screenOf (screen : Option Text) : Nat := (screen.map readNat).getD 0

/-- `:D` or `:D.S`. -/
structure LocalName where
  number : Text
  screen : Option Text
  number_isInt : IsInt number
  screen_isInt : ∀ s ∈ screen, IsInt s

namespace LocalName

def text (n : LocalName) : Text := displayName [] n.number n.screen

theorem text_ne_nil (n : LocalName) : n.text ≠ [] := by
  rw [text, displayName_eq]
  simp

/-- The server and the screen. -/
def place (n : LocalName) : Nat × Nat := (readNat n.number, screenOf n.screen)

theorem screen_lt (n : LocalName) : n.place.2 < 2147483648 := by
  obtain ⟨_, screen, _, h⟩ := n
  cases screen with
  | none => exact Nat.zero_lt_succ _
  | some s => exact (h s rfl).2

end LocalName

/-- The screens of the local servers, all with GLX, and their positive sizes. A name is echoed and
its screen is the default screen. -/
structure LocalServers (env : Env) (count : Nat → Nat) (size : Nat × Nat → Int32 × Int32) :
    Prop where
  count_lt : ∀ i, count i < 2147483648
  size_pos : ∀ i j, j < count i → 0 < (size (i, j)).1 ∧ 0 < (size (i, j)).2
  opens : ∀ n : LocalName, (env.openGlx n.text).isSome ↔ n.place.2 < count n.place.1
  opened : ∀ (n : LocalName) x, env.openDisplay n.text = some x →
    x.displayString = n.text ∧ x.defaultScreen.toInt = n.place.2 ∧
      (x.displayWidth x.defaultScreen, x.displayHeight x.defaultScreen) = size n.place

/-- `DISPLAY` is not set, empty or the name of a local display. -/
def Env.DisplayIs (env : Env) (own : Option LocalName) : Prop :=
  match own with
  | none => env.display = none ∨ env.display = some []
  | some n => env.display = some n.text

/-- The server and the screen of a record. -/
def place (info : GPUInfo) : Nat × Nat := (info.port.toNat, info.device.toNat)

/-- The place of `DISPLAY`, if it can be opened. -/
def ownPlace (count : Nat → Nat) (own : Option LocalName) : Option (Nat × Nat) :=
  (own.map LocalName.place).filter fun p => p.2 < count p.1

/-- A record of the screen at `p`; the flags may be any. -/
structure IsRecord (localNodeID : UInt128) (size : Nat × Nat → Int32 × Int32) (p : Nat × Nat)
    (info : GPUInfo) : Prop where
  place_eq : place info = p
  node_eq : info.toNodeInfo = NodeInfo.new localNodeID
  type_eq : info.type = typeCode (lit "GLX")
  pvp_eq : info.pvp = ⟨0, 0, (size p).1, (size p).2⟩

section

variable {localNodeID : UInt128} {size : Nat × Nat → Int32 × Int32} {p q : Nat × Nat}
  {a b : GPUInfo}

/-- Records are equal exactly if they are of one screen. -/
theorem record_beq (ha : IsRecord localNodeID size p a) (hb : IsRecord localNodeID size q b) :
    (a == b) = decide (q = p) := by
  rw [Bool.eq_iff_iff, GPUInfo.beq_iff, decide_eq_true_eq]
  have hplace : a.port = b.port ∧ a.device = b.device ↔ q = p := by
    rw [← ha.place_eq, ← hb.place_eq, place, place, Prod.mk.injEq, UInt32.toNat_inj,
      UInt32.toNat_inj]
    exact ⟨fun h => ⟨h.1.symm, h.2.symm⟩, fun h => ⟨h.1.symm, h.2.symm⟩⟩
  constructor
  · rintro ⟨_, _, _, hport, hdevice, _⟩
    exact hplace.mp ⟨hport, hdevice⟩
  · intro h
    obtain ⟨hport, hdevice⟩ := hplace.mpr h
    rw [h] at hb
    exact ⟨by rw [ha.node_eq, hb.node_eq], by rw [ha.node_eq, hb.node_eq],
      by rw [ha.type_eq, hb.type_eq], hport, hdevice, by rw [ha.pvp_eq, hb.pvp_eq]⟩

/-- The record that no query has filled in is that of no screen. -/
theorem record_beq_new (ha : IsRecord localNodeID size p a) (hpos : 0 < (size p).1) :
    (a == GPUInfo.ofName localNodeID (lit "GLX")) = false := by
  rw [Bool.eq_false_iff, ne_eq, GPUInfo.beq_iff]
  rintro ⟨_, _, _, _, _, hpvp⟩
  rw [ha.pvp_eq] at hpvp
  have hw : (size p).1 = -1 := congrArg Pvp.w hpvp
  rw [hw] at hpos
  exact absurd hpos (by decide)

end

section

variable {env : Env} (localNodeID : UInt128) {count : Nat → Nat}
  {size : Nat × Nat → Int32 × Int32} (hs : LocalServers env count size)

include hs

theorem isRecord_recordOf (n : LocalName) {x : XDisplay} (hx : env.openGlx n.text = some x) :
    IsRecord localNodeID size n.place (recordOf env localNodeID x) := by
  obtain ⟨hopen, hglx⟩ := openGlx_eq_some.mp hx
  obtain ⟨hstring, hscreen, hsize⟩ := hs.opened n x hopen
  have hcolon : x.displayString.dropWhile (· != 58) ≠ [] := by
    rw [hstring, LocalName.text, displayName_eq, dropWhile_colon List.not_mem_nil]
    simp
  have hport : (queriedPort x 0).toNat = readNat n.number :=
    (toNat_queriedPort_iff hstring n.number_isInt 0).mpr (.inl List.not_mem_nil)
  have hdevice : x.defaultScreen.toUInt32.toNat = n.place.2 :=
    (toNat_toUInt32_eq_iff n.screen_lt).mpr hscreen
  rw [recordOf, getGPUInfo_eq _ hglx]
  constructor
  · simp only [place, if_neg hcolon]
    exact Prod.ext hport hdevice
  · rfl
  · rfl
  · rw [← hsize]

/-! ## The scan -/

omit hs in
theorem isInt_putNat {n : Nat} (h : n < 2147483648) : IsInt (putNat n) :=
  ⟨isNumber_putNat n, by rwa [readNat_putNat]⟩

omit hs in
theorem port_lt {i : Nat} (h : i < TRY_PORTS) : i < 2147483648 := by
  rw [TRY_PORTS] at h
  omega

/-- The name of a screen that the scan asks for. -/
def scanned (i j : Nat) (hi : i < 2147483648) (hj : j < 2147483648) : LocalName where
  number := putNat i
  screen := some (putNat j)
  number_isInt := isInt_putNat hi
  screen_isInt := by
    intro s h
    obtain rfl : putNat j = s := Option.some.inj h
    exact isInt_putNat hj

omit hs in
theorem scanned_text {i j : Nat} (hi : i < 2147483648) (hj : j < 2147483648) :
    (scanned i j hi hj).text = screenName i j := by
  simp only [LocalName.text, scanned, displayName, screenName, List.nil_append, List.append_assoc]

omit hs in
theorem scanned_place {i j : Nat} (hi : i < 2147483648) (hj : j < 2147483648) :
    (scanned i j hi hj).place = (i, j) := by
  simp [LocalName.place, scanned, screenOf, readNat_putNat]

/-- The record that the scan makes of a screen. -/
def screenRecord (env : Env) (localNodeID : UInt128) (p : Nat × Nat) : GPUInfo :=
  (queryDisplay env (screenName p.1 p.2) (GPUInfo.ofName localNodeID (lit "GLX"))).2

theorem openGlx_screen {p : Nat × Nat} (hp : p ∈ cells TRY_PORTS count) :
    ∃ x, env.openGlx (screenName p.1 p.2) = some x ∧
      screenRecord env localNodeID p = recordOf env localNodeID x ∧
      IsRecord localNodeID size p (recordOf env localNodeID x) := by
  obtain ⟨hi, hj⟩ := mem_cells.mp hp
  have hi' := port_lt hi
  have hj' : p.2 < 2147483648 := hj.trans (hs.count_lt p.1)
  have hopens := hs.opens (scanned p.1 p.2 hi' hj')
  rw [scanned_text, scanned_place] at hopens
  obtain ⟨x, hx⟩ := Option.isSome_iff_exists.mp (hopens.mpr hj)
  refine ⟨x, hx, ?_, ?_⟩
  · rw [screenRecord, queryDisplay_openGlx, hx]
  · have hrecord := isRecord_recordOf localNodeID hs (scanned p.1 p.2 hi' hj')
      (by rw [scanned_text]; exact hx)
    rwa [scanned_place] at hrecord

/-- The scan ends behind the last screen of a server. -/
theorem probe_screens {i : Nat} (hi : i < TRY_PORTS) :
    probe (screenAnswer env localNodeID i) (UInt32.size - 1) 0 =
      (List.range (count i)).map fun j => (screenName i j, screenRecord env localNodeID (i, j)) := by
  have hlt := hs.count_lt i
  refine probe_eq ?_ ?_ (by rw [UInt32.size]; omega)
  · intro j hj
    obtain ⟨x, hx, hrecord, _⟩ := openGlx_screen localNodeID hs
      (mem_cells.mpr ⟨hi, hj⟩ : (i, j) ∈ cells TRY_PORTS count)
    rw [screenAnswer, hx, Option.map_some, hrecord]
  · have hi' := port_lt hi
    have hopens := hs.opens (scanned i (count i) hi' hlt)
    rw [scanned_text, scanned_place] at hopens
    have hnone : env.openGlx (screenName i (count i)) = none := by
      rw [← Option.not_isSome_iff_eq_none, hopens]
      exact Nat.lt_irrefl _
    rw [screenAnswer, hnone, Option.map_none]

theorem discover_eq : discover env localNodeID =
    (discoverDefault env localNodeID).1.map Prod.snd ++
      ((cells TRY_PORTS count).map (screenRecord env localNodeID)).filter
        (· != (discoverDefault env localNodeID).2) := by
  have hscan : ∀ i ∈ List.range TRY_PORTS,
      (scanScreens env localNodeID (discoverDefault env localNodeID).2 i (UInt32.size - 1) 0).map
          Prod.snd =
        ((List.range (count i)).map fun j => screenRecord env localNodeID (i, j)).filter
          (· != (discoverDefault env localNodeID).2) := by
    intro i hi
    rw [scanScreens_eq, probe_screens localNodeID hs (List.mem_range.mp hi), List.filter_map, List.filter_map,
      List.map_map]
    rfl
  rw [discover, discoverFrom, List.map_append, List.map_flatMap, List.flatMap_congr hscan, cells,
    List.map_flatMap, List.filter_flatMap]
  simp only [List.map_map]
  rfl

theorem flags_screenRecord {p : Nat × Nat} (hp : p ∈ cells TRY_PORTS count) :
    (screenRecord env localNodeID p).flags &&& FLAG_DEFAULT = 0 := by
  obtain ⟨x, hx, hrecord, _⟩ := openGlx_screen localNodeID hs hp
  rw [hrecord, flags_recordOf (openGlx_eq_some.mp hx).2]
  exact (queriedFlags_spec env x).2.2.2

/-! ## The default record -/

variable {own : Option LocalName} (hown : env.DisplayIs own)

include hown

theorem discoverDefault_none (h : ownPlace count own = none) :
    discoverDefault env localNodeID = ([], GPUInfo.ofName localNodeID (lit "GLX")) := by
  have hnone : env.defaultDisplay = none := by
    cases own with
    | none =>
      rcases hown with hd | hd
      · rw [Env.defaultDisplay, hd, Option.bind_none]
      · rw [Env.defaultDisplay, hd, Option.bind_some, if_pos rfl]
    | some n =>
      have hclosed : env.openGlx n.text = none := by
        rw [← Option.not_isSome_iff_eq_none, hs.opens n]
        intro hlt
        simp [ownPlace, Option.filter, hlt] at h
      have hd : env.display = some n.text := hown
      rw [Env.defaultDisplay, hd, Option.bind_some, hclosed]
      simp
  rw [discoverDefault_eq, hnone]

theorem discoverDefault_some {p : Nat × Nat} (h : ownPlace count own = some p) :
    ∃ name info, discoverDefault env localNodeID = ([(name, info)], info) ∧
      IsRecord localNodeID size p info ∧ info.flags = FLAG_DEFAULT := by
  obtain ⟨hmap, hlt⟩ := Option.filter_eq_some_iff.mp h
  obtain ⟨n, rfl, rfl⟩ := Option.map_eq_some_iff.mp hmap
  obtain ⟨x, hx⟩ := Option.isSome_iff_exists.mp ((hs.opens n).mpr (of_decide_eq_true hlt))
  obtain ⟨hopen, hglx⟩ := openGlx_eq_some.mp hx
  have hdisplay : env.defaultDisplay = some (n.text, x) :=
    defaultDisplay_eq_some.mpr ⟨hown, n.text_ne_nil, hopen, hglx⟩
  have hrecord := isRecord_recordOf localNodeID hs n hx
  rw [discoverDefault_eq, hdisplay]
  exact ⟨_, _, rfl, ⟨hrecord.place_eq, hrecord.node_eq, hrecord.type_eq, hrecord.pvp_eq⟩, rfl⟩

/-- A scanned record is left out exactly if it is that of the display of `DISPLAY`. -/
theorem bne_default {p : Nat × Nat} (hp : p ∈ cells TRY_PORTS count) :
    (screenRecord env localNodeID p != (discoverDefault env localNodeID).2) =
      decide (ownPlace count own ≠ some p) := by
  obtain ⟨x, _, hrecord, hp'⟩ := openGlx_screen localNodeID hs hp
  rw [hrecord, bne]
  cases hq : ownPlace count own with
  | none =>
    rw [discoverDefault_none localNodeID hs hown hq,
      record_beq_new hp' (hs.size_pos p.1 p.2 (mem_cells.mp hp).2).1]
    rfl
  | some q =>
    obtain ⟨_, info, heq, hinfo, _⟩ := discoverDefault_some localNodeID hs hown hq
    rw [heq, record_beq hp' hinfo]
    simp

/-- The records are those of the places of the table, the one of `DISPLAY` first. -/
theorem discover_map_place :
    (discover env localNodeID).map place = front (ownPlace count own) (cells TRY_PORTS count) := by
  have hplace : ∀ p ∈ cells TRY_PORTS count, place (screenRecord env localNodeID p) = p := by
    intro p hp
    obtain ⟨x, _, hrecord, hp'⟩ := openGlx_screen localNodeID hs hp
    rw [hrecord, hp'.place_eq]
  have hfirst : ((discoverDefault env localNodeID).1.map Prod.snd).map place =
      (ownPlace count own).toList := by
    cases hq : ownPlace count own with
    | none => rw [discoverDefault_none localNodeID hs hown hq]; rfl
    | some q =>
      obtain ⟨_, info, heq, hinfo, _⟩ :=
        discoverDefault_some localNodeID hs hown hq
      rw [heq, Option.toList_some, List.map_singleton, List.map_singleton, hinfo.place_eq]
  have hkept : (cells TRY_PORTS count).filter
      ((· != (discoverDefault env localNodeID).2) ∘ screenRecord env localNodeID) =
        (cells TRY_PORTS count).filter fun p => ownPlace count own ≠ some p :=
    List.filter_congr fun p hp => bne_default localNodeID hs hown hp
  rw [discover_eq localNodeID hs, List.map_append, hfirst, front, List.filter_map, List.map_map, hkept]
  congr 1
  have hid : ∀ p ∈ (cells TRY_PORTS count).filter fun p => ownPlace count own ≠ some p,
      (place ∘ screenRecord env localNodeID) p = id p :=
    fun p hp => hplace p (List.mem_of_mem_filter hp)
  rw [List.map_congr_left hid, List.map_id]

end

/-- The places of the records are different and are those of the screens of `:0` to `:9` and of the
display of `DISPLAY`, if it can be opened. Its record comes first, and it alone is the default. -/
theorem discover_exact (env : Env) (localNodeID : UInt128) (count : Nat → Nat)
    (size : Nat × Nat → Int32 × Int32) (own : Option LocalName)
    (hs : LocalServers env count size) (hown : env.DisplayIs own) :
    ((discover env localNodeID).map place).Nodup ∧
      (∀ p, p ∈ (discover env localNodeID).map place ↔
        p.1 < 10 ∧ p.2 < count p.1 ∨ ownPlace count own = some p) ∧
      match ownPlace count own with
      | some p => ∃ first rest, discover env localNodeID = first :: rest ∧ place first = p ∧
          first.flags &&& FLAG_DEFAULT ≠ 0 ∧ ∀ info ∈ rest, info.flags &&& FLAG_DEFAULT = 0
      | none => ∀ info ∈ discover env localNodeID, info.flags &&& FLAG_DEFAULT = 0 := by
  have hscan : ∀ info ∈ ((cells TRY_PORTS count).map (screenRecord env localNodeID)).filter
      (· != (discoverDefault env localNodeID).2), info.flags &&& FLAG_DEFAULT = 0 := by
    intro info hinfo
    obtain ⟨p, hp, rfl⟩ := List.mem_map.mp (List.mem_of_mem_filter hinfo)
    exact flags_screenRecord localNodeID hs hp
  refine ⟨?_, ?_, ?_⟩
  · rw [discover_map_place localNodeID hs hown]
    exact nodup_front (nodup_cells TRY_PORTS count)
  · intro p
    rw [discover_map_place localNodeID hs hown, mem_front, mem_cells]
    exact or_comm
  · cases hq : ownPlace count own with
    | none =>
      simp only
      rw [discover_eq localNodeID hs]
      rwa [discoverDefault_none localNodeID hs hown hq] at hscan ⊢
    | some p =>
      obtain ⟨_, info, heq, hinfo, hflags⟩ :=
        discoverDefault_some localNodeID hs hown hq
      rw [heq] at hscan
      refine ⟨info, _, ?_, hinfo.place_eq, ?_, hscan⟩
      · rw [discover_eq localNodeID hs, heq]
        rfl
      · rw [hflags]
        decide

/-! ## Servers -/

/-- The server and the screen that a name `:D` or `:D.S` means. -/
def parseName : Text → Option (Nat × Nat)
  | [] => none
  | c :: name =>
    if c = 58 then
      match name.dropWhile isDigit with
      | [] => some (readNat (name.takeWhile isDigit), 0)
      | c :: screen => if c = 46 then some (readNat (name.takeWhile isDigit), readNat screen) else none
    else none

/-- Servers with `count i` screens, of one size. -/
def openLocal (count : Nat → Nat) (name : Text) : Option XDisplay :=
  match parseName name with
  | none => none
  | some p =>
    if p.2 < count p.1 then some { plainDisplay name with defaultScreen := Int32.ofNat p.2 }
    else none

theorem parseName_text (n : LocalName) : parseName n.text = some n.place := by
  have htake : ∀ r : Text, (∀ c ∈ r.head?, isDigit c = false) →
      (n.number ++ r).takeWhile isDigit = n.number :=
    fun _ hr => takeWhile_number n.number_isInt.1 hr
  have hdrop : ∀ r : Text, (∀ c ∈ r.head?, isDigit c = false) →
      (n.number ++ r).dropWhile isDigit = r := by
    intro r hr
    have hsplit := List.takeWhile_append_dropWhile (p := isDigit) (l := n.number ++ r)
    rw [htake r hr] at hsplit
    exact List.append_cancel_left hsplit
  have hhead := screen_head n.screen
  rw [LocalName.text, displayName_eq, List.nil_append, parseName, if_pos rfl, htake _ hhead,
    hdrop _ hhead, LocalName.place, screenOf]
  cases n.screen with
  | none => rfl
  | some s => rfl

theorem localServers_openLocal (display : Option Text) {count : Nat → Nat}
    (h : ∀ i, count i < 2147483648) :
    LocalServers { emptyEnv with display := display, openDisplay := openLocal count } count
      fun _ => (1920, 1200) where
  count_lt := h
  size_pos := fun _ _ _ => by decide
  opens := by
    intro n
    simp only [Env.openGlx, openLocal, parseName_text]
    by_cases hlt : n.place.2 < count n.place.1
    · simp [hlt, plainDisplay]
    · simp [hlt]
  opened := by
    intro n x hx
    simp only [openLocal, parseName_text] at hx
    split at hx
    · rename_i hlt
      have hscreen : (Int32.ofNat n.place.2).toInt = n.place.2 := by
        rw [Int32.toInt_ofNat_of_lt]
        have := n.screen_lt
        omega
      cases hx
      exact ⟨rfl, hscreen, rfl⟩
    · cases hx

/-- A server `:0` with two screens and a server `:12` with one, and `DISPLAY` set to `:12`. -/
theorem discover_exact_two_servers :
    let count := fun i => if i = 0 then 2 else if i = 12 then 1 else 0
    let env := { emptyEnv with display := some (lit ":12"), openDisplay := openLocal count }
    ((discover env 7).map place).Nodup ∧
      (∀ p, p ∈ (discover env 7).map place ↔
        p.1 < 10 ∧ p.2 < count p.1 ∨ some (12, 0) = some p) ∧
      ∃ first rest, discover env 7 = first :: rest ∧ place first = (12, 0) ∧
        first.flags &&& FLAG_DEFAULT ≠ 0 ∧ ∀ info ∈ rest, info.flags &&& FLAG_DEFAULT = 0 :=
  discover_exact _ 7 _ _ (some ⟨lit "12", none, by decide, by simp⟩)
    (localServers_openLocal (some (lit ":12")) (by intro i; split <;> [skip; split] <;> decide)) rfl

end Glx
end Hwsd
