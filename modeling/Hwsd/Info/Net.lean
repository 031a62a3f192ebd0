import Hwsd.Info.Node

/-!
# Hwsd.Info.Net

`NetInfo` (`netInfo.h`, `netInfo.cpp`). `getType` spells the type, `setType` reads it back; the
two do not list the same types (`type_setType_getType`).
-/

namespace Hwsd

open CxxStream

/-- `NetInfo::Type`. -/
inductive NetType where
  | ethernet
  | infiniband
  | loopback
  | tunnelEthernet
  | tunnel6to4
  | unknown
  | all
deriving DecidableEq

/-- The value of the enumerator: `LB_BIT1` to `LB_BIT5`, `LB_BIT31` and `LB_BIT_ALL_32`. -/
def NetType.bits : NetType → UInt32
  | .ethernet => 0x1
  | .infiniband => 0x2
  | .loopback => 0x4
  | .tunnelEthernet => 0x8
  | .tunnel6to4 => 0x10
  | .unknown => 0x40000000
  | .all => 0xffffffff

structure NetInfo extends NodeInfo where
  type : NetType
  name : Text
  hostname : Text
  hwAddress : Text
  inetAddress : Text
  inet6Address : Text
  linkspeed : UInt32
  up : Bool
deriving DecidableEq

namespace NetInfo

/-- `UINT_MAX`. -/
def defaultValue : UInt32 := 0xffffffff

def new (localNodeID : UInt128) : NetInfo :=
  { NodeInfo.new localNodeID with
    type := .unknown, name := [], hostname := [], hwAddress := [], inetAddress := [],
    inet6Address := [], linkspeed := defaultValue, up := false }

def texts (info : NetInfo) : List Text :=
  [info.name, info.hostname, info.hwAddress, info.inetAddress, info.inet6Address]

def getType (info : NetInfo) : Text :=
  match info.type with
  | .ethernet => lit "ETHERNET"
  | .infiniband => lit "INFINIBAND"
  | .loopback => lit "LOOPBACK"
  | .tunnelEthernet => lit "TUNNEL_ETHERNET"
  | .tunnel6to4 => lit "TUNNEL_6TO4"
  | .unknown => lit "UNKNOWN"
  | .all => lit "ERROR"

def setType (info : NetInfo) (strType : Text) : NetInfo :=
  if strType = lit "ETHERNET" then { info with type := .ethernet }
  else if strType = lit "INFINIBAND" then { info with type := .infiniband }
  else if strType = lit "LOOPBACK" then { info with type := .loopback }
  else { info with type := .unknown }

instance : BEq NetInfo where
  beq a b := a.toNodeInfo == b.toNodeInfo && decide (a.type = b.type) && decide (a.name = b.name) &&
    decide (a.hostname = b.hostname) && decide (a.hwAddress = b.hwAddress) &&
    decide (a.inetAddress = b.inetAddress) && decide (a.inet6Address = b.inet6Address) &&
    decide (a.linkspeed = b.linkspeed) && decide (a.up = b.up)

/-- Everything is compared but the id. -/
theorem beq_iff {a b : NetInfo} : (a == b) = true ↔ { a with id := b.id } = b := by
  obtain ⟨⟨_, _, _⟩, _, _, _, _, _, _, _, _⟩ := a
  obtain ⟨⟨_, _, _⟩, _, _, _, _, _, _, _, _⟩ := b
  show (_ && _ && _ && _ && _ && _ && _ && _ && _) = true ↔ _
  simp only [Bool.and_eq_true, NodeInfo.beq_iff, decide_eq_true_eq, NetInfo.mk.injEq,
    NodeInfo.mk.injEq, true_and, and_assoc]

instance : EquivBEq NetInfo where
  rfl := by simp [beq_iff]
  symm := by
    intro a b h
    rw [beq_iff] at h ⊢
    rw [← h]
  trans := by
    intro a b c h h'
    rw [beq_iff] at h h' ⊢
    rw [← h', ← h]

theorem type_setType_eq (info info' : NetInfo) (s : Text) :
    (info.setType s).type = (info'.setType s).type := by
  unfold setType
  split
  · rfl
  · split
    · rfl
    · split <;> rfl

/-- The tunnel types, and `TYPE_ALL`, which is no type of an interface, are not read back. -/
theorem type_setType_getType (info n : NetInfo) :
    (info.setType n.getType).type = n.type ↔
      n.type ≠ .tunnelEthernet ∧ n.type ≠ .tunnel6to4 ∧ n.type ≠ .all := by
  obtain ⟨_, type, _, _, _, _, _, _, _⟩ := n
  cases type <;> simp [getType, setType, lit]

theorem getType_ne_nil (n : NetInfo) : n.getType ≠ [] := by
  unfold getType
  split <;> decide

theorem noSpace_getType (n : NetInfo) : NoSpace n.getType := by
  unfold getType
  split <;> decide

end NetInfo

end Hwsd
