import Hwsd.Lib.Sieve
import Hwsd.Info.Gpu
import Hwsd.Info.Net

/-!
# Hwsd.Filter

Discovery filters (`filter.h`, `filter.cpp`). A filter is one of the provided classes with the
filters chained to it; its call makes the own test and then, if the candidate passed, the calls of
the chained ones. A class without an overload for a resource only calls its chain.

* `Filter.call`, `Filter.callNext`: the virtual `operator()` and the loop of the base class.
* `Filter.call_eq_seq`: a call asks the classes of a chain in turn, however the chain is nested.
* `Gpu.test`, `Net.test`: the own tests of the classes on the two resources.
* `Gpu.run_duplicate_or_session`: a discovery loop with a duplicate and a session filter.
-/

namespace Hwsd

open CxxStream Greedy

/-- What the filters take from other libraries; `none` where the build goes without it. -/
structure Matchers where
  /-- `boost::regex_match` of an expression with a name. -/
  regexMatch : Option (Text → Text → Bool)
  /-- `QHostAddress::isInSubnet` of a prefix and an address. -/
  isInSubnet : Option (Text → Text → Bool)

/-- The filter classes with their parameters; `base` is a plain `Filter`. -/
inductive Leaf where
  | base
  | duplicate
  | mirror
  | session (name : Text)
  | gpu (regex : Text)
  | net (prefixes : List Text) (type : UInt32)
deriving DecidableEq

/-- A filter object and the filters in its `next_`. -/
inductive Filter where
  | mk (leaf : Leaf) (next : List Filter)

namespace Filter

def duplicate : Filter := ⟨.duplicate, []⟩

def mirror : Filter := ⟨.mirror, []⟩

def session (name : Text) : Filter := ⟨.session name, []⟩

/-- `operator|` and `operator|=`: chain a filter to this one and return this one. -/
def chain : Filter → Filter → Filter
  | mk leaf next, rhs => mk leaf (next ++ [rhs])

instance : OrOp Filter := ⟨chain⟩

mutual

def call {α : Type} (test : Leaf → Selector α) : Filter → Selector α
  | mk leaf next => both (test leaf) (callNext test next)

/-- `Filter::operator()`. -/
def callNext {α : Type} (test : Leaf → Selector α) : List Filter → Selector α
  | [] => pass fun _ => true
  | filter :: next => both (call test filter) (callNext test next)

end

mutual

/-- The filters of a chain in the order in which they are called. -/
def leaves : Filter → List Leaf
  | mk leaf next => leaf :: leavesNext next

def leavesNext : List Filter → List Leaf
  | [] => []
  | filter :: next => leaves filter ++ leavesNext next

end

theorem leavesNext_append (l l' : List Filter) :
    leavesNext (l ++ l') = leavesNext l ++ leavesNext l' := by
  induction l with
  | nil => rfl
  | cons filter l ih => rw [List.cons_append, leavesNext, leavesNext, ih, List.append_assoc]

theorem leaves_or (f g : Filter) : (f ||| g).leaves = f.leaves ++ g.leaves := by
  obtain ⟨leaf, next⟩ := f
  show (mk leaf (next ++ [g])).leaves = _
  rw [leaves, leavesNext_append, leavesNext, leavesNext, List.append_nil, leaves]
  rfl

mutual

theorem call_eq_seq {α : Type} (test : Leaf → Selector α) (f : Filter) :
    f.call test = seq (f.leaves.map test) := by
  match f with
  | mk leaf next => rw [call, leaves, List.map_cons, seq, callNext_eq_seq test next]

theorem callNext_eq_seq {α : Type} (test : Leaf → Selector α) (next : List Filter) :
    callNext test next = seq ((leavesNext next).map test) := by
  match next with
  | [] => rfl
  | filter :: next =>
    rw [callNext, leavesNext, List.map_append, seq_append, call_eq_seq test filter,
      callNext_eq_seq test next]

end

theorem call_duplicate {α : Type} (test : Leaf → Selector α) :
    duplicate.call test = test .duplicate := by
  rw [duplicate, call, callNext, both_pass_true]

theorem call_or {α : Type} (test : Leaf → Selector α) (leaf leaf' : Leaf) :
    ((⟨leaf, []⟩ : Filter) ||| ⟨leaf', []⟩).call test = both (test leaf) (test leaf') := by
  show (mk leaf [⟨leaf', []⟩]).call test = _
  rw [call, callNext, callNext, call, callNext, both_pass_true, both_pass_true]

end Filter

/-! ## GPUs -/

namespace Gpu

/-- Merge flags from the dropped info. -/
def mergeFlags (info candidate : GPUInfo) : GPUInfo :=
  { info with flags := info.flags ||| candidate.flags }

/-- What `MirrorFilter` compares. -/
def Mirrors (info candidate : GPUInfo) : Prop :=
  info.id = candidate.id ∧ info.session = candidate.session ∧ info.port = candidate.port ∧
    info.device = candidate.device ∧ info.pvp.x = candidate.pvp.x ∧ info.pvp.y = candidate.pvp.y

instance (info candidate : GPUInfo) : Decidable (Mirrors info candidate) :=
  inferInstanceAs (Decidable (_ ∧ _))

/-- The text that `GPUFilter` matches: `nodename:port.device`. -/
def filterName (info : GPUInfo) : Text :=
  info.nodeName ++ lit ":" ++ putUnsigned info.port ++ lit "." ++ putUnsigned info.device

/-- The tests of the filter classes on a GPU. -/
def test (M : Matchers) : Leaf → Selector GPUInfo
  | .duplicate => dedup mergeFlags
  | .mirror => fun current candidate => (!current.any fun info => Mirrors info candidate, current)
  | .session name => pass fun candidate => decide (name = [] ∨ candidate.session = name)
  | .gpu regex =>
    match M.regexMatch with
    | some regexMatch => pass fun candidate =>
      decide (regex = []) || regexMatch regex (filterName candidate)
    | none => pass fun _ => true
  | .base | .net _ _ => pass fun _ => true

theorem mergeFlags_isMerge : IsMerge mergeFlags where
  merge_beq a b := by simp [GPUInfo.beq_iff, mergeFlags]
  merge_self a := by simp [mergeFlags]

/-- Whatever a filter other than the mirror filter tests is the same for equal GPUs. -/
theorem isCheck_test (M : Matchers) {leaf : Leaf} (h : leaf ≠ .mirror) :
    IsCheck mergeFlags (test M leaf) := by
  cases leaf with
  | base => exact isCheck_pass fun _ _ _ => rfl
  | duplicate => exact .inl rfl
  | mirror => exact absurd rfl h
  | session name =>
    refine isCheck_pass fun a b hab => ?_
    rw [(GPUInfo.beq_iff.mp hab).2.1]
  | gpu regex =>
    rw [test]
    split
    · rename_i regexMatch _
      refine isCheck_pass fun a b hab => ?_
      obtain ⟨hname, _, _, hport, hdevice, _⟩ := GPUInfo.beq_iff.mp hab
      rw [filterName, filterName, hname, hport, hdevice]
    · exact isCheck_pass fun _ _ _ => rfl
  | net prefixes type => exact isCheck_pass fun _ _ _ => rfl

/-- A session filter behind a duplicate filter may as well be asked first: equal GPUs have the same
session. -/
theorem run_duplicate_or_session (M : Matchers) {name : Text} (hname : name ≠ [])
    (xs : List GPUInfo) : run ((Filter.duplicate ||| Filter.session name).call (test M)) [] xs =
      run (dedup mergeFlags) [] (xs.filter fun info => decide (info.session = name)) := by
  have htest : test M (.session name) = pass fun info => decide (info.session = name) := by
    simp [test, hname]
  rw [Filter.duplicate, Filter.session, Filter.call_or, htest]
  refine run_both_dedup_pass mergeFlags_isMerge ?_ xs [] (by simp)
  intro a b hab
  rw [(GPUInfo.beq_iff.mp hab).2.1]

end Gpu

/-! ## Network interfaces -/

namespace Net

/-- The tests of the filter classes on a network interface. -/
def test (M : Matchers) : Leaf → Selector NetInfo
  | .duplicate => dedup fun info _ => info
  | .session name => pass fun candidate => decide (name = [] ∨ candidate.session = name)
  | .net prefixes type => pass fun candidate =>
    if type ≠ NetType.all.bits ∧ type &&& candidate.type.bits = 0 then false
    else
      match M.isInSubnet with
      | some isInSubnet =>
        prefixes.isEmpty || prefixes.any fun subnet =>
          isInSubnet subnet candidate.inetAddress || isInSubnet subnet candidate.inet6Address
      | none => true
  | .base | .mirror | .gpu _ => pass fun _ => true

/-- Interfaces that are equal differ at most in their id, which no filter tests. -/
theorem isCheck_test (M : Matchers) (leaf : Leaf) :
    IsCheck (fun (info : NetInfo) (_ : NetInfo) => info) (test M leaf) := by
  cases leaf with
  | base => exact isCheck_pass fun _ _ _ => rfl
  | duplicate => exact .inl rfl
  | mirror => exact isCheck_pass fun _ _ _ => rfl
  | session name =>
    refine isCheck_pass fun a b hab => ?_
    rw [← NetInfo.beq_iff.mp hab]
  | gpu regex => exact isCheck_pass fun _ _ _ => rfl
  | net prefixes type =>
    refine isCheck_pass fun a b hab => ?_
    rw [← NetInfo.beq_iff.mp hab]

theorem keepFirst_isMerge : IsMerge fun (info : NetInfo) (_ : NetInfo) => info where
  merge_beq _ _ := BEq.refl _
  merge_self _ := rfl

end Net

end Hwsd
