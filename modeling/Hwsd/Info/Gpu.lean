import Hwsd.Info.Node

/-!
# Hwsd.Info.Gpu

`GPUInfo` (`gpuInfo.h`, `gpuInfo.cpp`). The type is a four-character code: `strncpy` packs a name
into the bytes of an `unsigned`, cut after four characters and padded with NUL, and `getName`
reads all four bytes back, padding included. `typeCode_typeName` is the round trip through the
code.
-/

namespace Hwsd

open CxxStream

/-- `int pvp[4]`: position and size. -/
structure Pvp where
  x : Int32
  y : Int32
  w : Int32
  h : Int32
deriving DecidableEq

structure GPUInfo extends NodeInfo where
  type : UInt32
  port : UInt32
  device : UInt32
  pvp : Pvp
  flags : UInt32
deriving DecidableEq

/-- `invalidatePVP`. -/
def invalidPVP : Pvp := ⟨0, 0, -1, -1⟩

/-- The viewport test of the announcer. -/
def Pvp.HasArea (p : Pvp) : Prop := 0 < p.w ∧ 0 < p.h

instance (p : Pvp) : Decidable p.HasArea := inferInstanceAs (Decidable (_ ∧ _))

/-- `strncpy((char*)(&type), name.c_str(), 4)`, with the first byte the lowest one. -/
def typeCode (name : Text) : UInt32 :=
  let byte i := ((cStr name).getD i 0).toNat
  UInt32.ofNat (byte 0 + 256 * byte 1 + 65536 * byte 2 + 16777216 * byte 3)

/-- The four bytes of a type code. -/
def typeName (type : UInt32) : Text :=
  [UInt8.ofNat type.toNat, UInt8.ofNat (type.toNat / 256), UInt8.ofNat (type.toNat / 65536),
    UInt8.ofNat (type.toNat / 16777216)]

namespace GPUInfo

def ofName (localNodeID : UInt128) (name : Text) : GPUInfo :=
  { NodeInfo.new localNodeID with
    type := typeCode name, port := 0, device := 0, pvp := invalidPVP, flags := 0 }

def getName (info : GPUInfo) : Text := typeName info.type

instance : BEq GPUInfo where
  beq a b := a.toNodeInfo == b.toNodeInfo && decide (a.type = b.type) && decide (a.port = b.port) &&
    decide (a.device = b.device) && decide (a.pvp = b.pvp)

theorem beq_iff {a b : GPUInfo} :
    (a == b) = true ↔ a.nodeName = b.nodeName ∧ a.session = b.session ∧ a.type = b.type ∧
      a.port = b.port ∧ a.device = b.device ∧ a.pvp = b.pvp := by
  show (a.toNodeInfo == b.toNodeInfo && _ && _ && _ && _) = true ↔ _
  simp only [Bool.and_eq_true, NodeInfo.beq_iff, decide_eq_true_eq, and_assoc]

instance : EquivBEq GPUInfo where
  rfl := by simp [beq_iff]
  symm := by
    intro a b h
    simp only [beq_iff] at h ⊢
    exact ⟨h.1.symm, h.2.1.symm, h.2.2.1.symm, h.2.2.2.1.symm, h.2.2.2.2.1.symm, h.2.2.2.2.2.symm⟩
  trans := by
    intro a b c h h'
    simp only [beq_iff] at h h' ⊢
    exact ⟨h.1.trans h'.1, h.2.1.trans h'.2.1, h.2.2.1.trans h'.2.2.1,
      h.2.2.2.1.trans h'.2.2.2.1, h.2.2.2.2.1.trans h'.2.2.2.2.1,
      h.2.2.2.2.2.trans h'.2.2.2.2.2⟩

end GPUInfo

/-! ## Four-character codes -/

theorem typeName_typeCode (name : Text) :
    typeName (typeCode name) = [(cStr name).getD 0 0, (cStr name).getD 1 0, (cStr name).getD 2 0,
      (cStr name).getD 3 0] := by
  simp only [typeCode, typeName]
  generalize (cStr name).getD 0 0 = a
  generalize (cStr name).getD 1 0 = b
  generalize (cStr name).getD 2 0 = c
  generalize (cStr name).getD 3 0 = d
  have ha := a.toNat_lt
  have hb := b.toNat_lt
  have hc := c.toNat_lt
  have hd := d.toNat_lt
  rw [UInt32.toNat_ofNat_of_lt' (by rw [UInt32.size]; omega)]
  simp only [List.cons.injEq, and_true]
  refine ⟨?_, ?_, ?_, ?_⟩ <;>
    (apply UInt8.toNat_inj.mp; rw [UInt8.toNat_ofNat']; omega)

theorem typeCode_congr {a b : Text} (h : ∀ i, i < 4 → (cStr a).getD i 0 = (cStr b).getD i 0) :
    typeCode a = typeCode b := by
  simp only [typeCode, h 0 (by omega), h 1 (by omega), h 2 (by omega), h 3 (by omega)]

/-- Padding a NUL-free text with NUL adds nothing to what a C string reads from it. -/
theorem cStr_padded {l : Text} (hl : ∀ c ∈ l, c ≠ 0) :
    cStr [l.getD 0 0, l.getD 1 0, l.getD 2 0, l.getD 3 0] = l.take 4 := by
  rcases l with _ | ⟨a, _ | ⟨b, _ | ⟨c, _ | ⟨d, l⟩⟩⟩⟩ <;> simp_all [cStr]

/-- A code built from a name survives being read as a name and packed again. -/
theorem typeCode_typeName (name : Text) : typeCode (typeName (typeCode name)) = typeCode name := by
  have hl : ∀ c ∈ cStr name, c ≠ 0 := by
    intro c hc
    simpa using List.mem_takeWhile_imp hc
  apply typeCode_congr
  intro i hi
  rw [typeName_typeCode, cStr_padded hl, List.getD_eq_getElem?_getD, List.getD_eq_getElem?_getD,
    List.getElem?_take_of_lt hi]

theorem GPUInfo.getName_ne_nil (info : GPUInfo) : info.getName ≠ [] := by
  simp [getName, typeName]

theorem noSpace_typeName {name : Text} (h : NoSpace name) : NoSpace (typeName (typeCode name)) := by
  have hbyte : ∀ i, isSpace ((cStr name).getD i 0) = false := by
    intro i
    rw [List.getD_eq_getElem?_getD]
    cases hi : (cStr name)[i]? with
    | none => rfl
    | some c =>
      have hc : c ∈ cStr name := List.mem_of_getElem? hi
      exact h c ((List.takeWhile_sublist _).subset hc)
  intro c hc
  rw [typeName_typeCode] at hc
  simp only [List.mem_cons, List.not_mem_nil, or_false] at hc
  rcases hc with rfl | rfl | rfl | rfl <;> exact hbyte _

end Hwsd
