import Hwsd.Lib.Stream

/-!
# Hwsd.Info.Node

`NodeInfo` (`nodeInfo.h`, `nodeInfo.cpp`): what every resource record says about the node it
comes from. `operator==` compares the node name and the session, never the id.
-/

namespace Hwsd

open CxxStream

abbrev UInt128 := BitVec 128

/-- `servus/uint128_t.h`, which lies outside the repository: its stream operators and
`make_uint128`. -/
structure Uint128Ops where
  put : UInt128 → Text
  extract : Text → UInt128 → UInt128
  makeUint128 : Text → UInt128

/-- The value of a hexadecimal text. -/
def readHex (s : Text) : Nat :=
  s.foldl (fun v c => 16 * v + (if 97 ≤ c.toNat then c.toNat - 87 else c.toNat - 48)) 0

/-- The operators as Servus documents them: two hexadecimal halves with a colon between them, the
upper one omitted when it is 0. Only a text without a stored id is hashed, which no use of this
instance reaches. -/
def hexUint128 : Uint128Ops where
  put id :=
    let hex n := (Nat.toDigits 16 n).map fun c => UInt8.ofNat c.toNat
    if id.toNat / UInt64.size = 0 then hex id.toNat
    else hex (id.toNat / UInt64.size) ++ lit ":" ++ hex (id.toNat % UInt64.size)
  extract data _ :=
    let s := word (skipws data)
    let high := s.takeWhile (· != 58)
    match s.drop high.length with
    | [] => BitVec.ofNat 128 (readHex high)
    | _ :: low => BitVec.ofNat 128 (readHex high * UInt64.size + readHex low)
  makeUint128 _ := 0

theorem hexUint128_roundTrips {id : UInt128} (hput : hexUint128.put id ≠ [])
    (h : hexUint128.extract (hexUint128.put id) 0 = id) :
    RoundTrips hexUint128.put hexUint128.extract id :=
  ⟨hput, fun _ => h⟩

/-- What a `const char*` taken from a string holds. -/
def cStr (s : Text) : Text := s.takeWhile (· != 0)

structure NodeInfo where
  id : UInt128
  nodeName : Text
  session : Text
deriving DecidableEq

def getLocalSession : Text := lit "local"

namespace NodeInfo

/-- The constructor describes a local session of the node `localNodeID`. -/
def new (localNodeID : UInt128) : NodeInfo := ⟨localNodeID, [], getLocalSession⟩

instance : BEq NodeInfo where
  beq a b := decide (a.nodeName = b.nodeName) && decide (a.session = b.session)

def isLocal (info : NodeInfo) : Bool := info.session = getLocalSession

theorem beq_iff {a b : NodeInfo} :
    (a == b) = true ↔ a.nodeName = b.nodeName ∧ a.session = b.session := by
  simp [BEq.beq]

end NodeInfo

end Hwsd
