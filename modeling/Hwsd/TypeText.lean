import Hwsd.Codec.Gpu

/-!
# Hwsd.TypeText

The text of a type code: what `getName` reads back from the code that a name was packed into, and
what an announcement publishes as the type of an entry.

* `getName_eq_take_iff`: `getName` reads all four bytes, so only a name of at least four characters
  comes back without padding.
* `typeText_iff`: the same for the code, the test for a type and the published text together.
-/

namespace Hwsd
namespace Gpu

open CxxStream KvStore DnsSd

section

variable (localNodeID : UInt128) {name : Text}

theorem length_getName (info : GPUInfo) : info.getName.length = 4 := rfl

theorem cStr_of_nulFree (h : ∀ c ∈ name, c ≠ 0) : cStr name = name := by
  rw [cStr, List.takeWhile_eq_self_iff]
  intro c hc
  simpa using h c hc

theorem getName_eq_take_iff (h : ∀ c ∈ name, c ≠ 0) :
    (GPUInfo.ofName localNodeID name).getName = name.take 4 ↔ 4 ≤ name.length := by
  constructor
  · intro heq
    have hlen := congrArg List.length heq
    rw [length_getName, List.length_take] at hlen
    omega
  · intro hlen
    show typeName (typeCode name) = name.take 4
    rw [typeName_typeCode, cStr_of_nulFree h]
    obtain ⟨a, b, c, d, r, rfl⟩ : ∃ a b c d r, name = a :: b :: c :: d :: r := by
      match name, hlen with
      | a :: b :: c :: d :: r, _ => exact ⟨a, b, c, d, r, rfl⟩
    rfl

end

/-- The type that an announcement publishes for an entry. -/
theorem lookup_type {U : Uint128Ops} {nodeID : UInt128} {session : Text} {gpus : List GPUInfo}
    {record : Record} {k : Nat} {info : GPUInfo} (hk : gpus[k]? = some info) :
    (announceInfos U nodeID session gpus ⟨record, GPU⟩).service.lookup
      (lit "GPU" ++ putNat k ++ lit " Type") = some info.getName := by
  have hkey : lit "GPU" ++ putNat k ++ lit " Type" = (Slot.indexed k GPUTYPE).text GPU := by
    have hblank : lit " Type" = lit " " ++ GPUTYPE := by decide
    rw [hblank, ← List.append_assoc]
    rfl
  rw [announceInfos_eq_write, hkey, Module.write, lookup_spell log_apart (Slot.apart_indexed _ _ _),
    lastWrite_log_indexed, hk, Option.bind_some, lastWrite_fields_type]
  rfl

/-- The type of the GPUs that are built from `name` reads as the first four characters of the name,
and is told by that text. -/
structure TypeText (localNodeID : UInt128) (name : Text) : Prop where
  getName_eq : (GPUInfo.ofName localNodeID name).getName = name.take 4
  type_eq : (GPUInfo.ofName localNodeID (GPUInfo.ofName localNodeID name).getName).type =
    (GPUInfo.ofName localNodeID name).type
  empty_iff : (GPUInfo.ofName localNodeID name).getName = [] ↔
    (GPUInfo.ofName localNodeID name).type = 0
  published : ∀ (U : Uint128Ops) (session : Text) (gpus : List GPUInfo) (record : Record) (k : Nat)
    (info : GPUInfo), gpus[k]? = some info → info.type = (GPUInfo.ofName localNodeID name).type →
    (announceInfos U localNodeID session gpus ⟨record, GPU⟩).service.lookup
      (lit "GPU" ++ putNat k ++ lit " Type") = some (name.take 4)

/-- The text of a type is the plain code exactly for the names of at least four characters; shorter
ones are padded with NUL, and the text of no type is not empty. -/
theorem typeText_iff (localNodeID : UInt128) (name : Text) (h : ∀ c ∈ name, c ≠ 0) :
    TypeText localNodeID name ↔ 4 ≤ name.length := by
  constructor
  · intro htext
    exact (getName_eq_take_iff localNodeID h).mp htext.getName_eq
  · intro hlen
    have hname := (getName_eq_take_iff localNodeID h).mpr hlen
    refine ⟨hname, typeCode_typeName name, ?_, ?_⟩
    · constructor
      · intro hnil
        exact absurd hnil (GPUInfo.getName_ne_nil _)
      · intro htype
        -- the code of a name of four characters has no zero byte
        have hzero : (0 : Byte) ∈ (GPUInfo.ofName localNodeID name).getName := by
          rw [GPUInfo.getName, htype]
          decide
        rw [hname] at hzero
        exact absurd rfl (h 0 (List.mem_of_mem_take hzero))
    · intro U session gpus record k info hk htype
      have hinfo : info.getName = (GPUInfo.ofName localNodeID name).getName := by
        rw [GPUInfo.getName, htype]
        rfl
      rw [lookup_type hk, hinfo, hname]

theorem typeText_iff_WGLn : TypeText 7 (lit "WGLn") ↔ 4 ≤ (lit "WGLn").length :=
  typeText_iff 7 (lit "WGLn") (by simp [lit])

/-- The text of the type `GLX` ends with a NUL. -/
theorem not_typeText_GLX : ¬ TypeText 7 (lit "GLX") := by
  intro h
  have hname := h.getName_eq
  revert hname
  decide

end Gpu
end Hwsd
