import Hwsd.Filter

/-!
# Hwsd.FilterName

The text that `GPUFilter` matches, `nodename:port.device`. The node name may hold colons, dots and
digits itself, so the text is read from its end: the device stands behind the last dot, the port
behind the last colon before that.

* `filterName_eq_iff`: the text tells node name, port and device.
* `filterName_identifies`: an expression that matches one text only selects the GPUs of one node,
  port and device, and no expression tells equal GPUs apart.
-/

namespace Hwsd
namespace Gpu

open CxxStream Greedy

theorem notMem_putUnsigned {c : Byte} (hc : isDigit c = false) (u : UInt32) : c ∉ putUnsigned u := by
  intro h
  rw [putUnsigned] at h
  rw [isDigit_putNat h] at hc
  cases hc

theorem filterName_eq (info : GPUInfo) : filterName info =
    (info.nodeName ++ 58 :: putUnsigned info.port) ++ 46 :: putUnsigned info.device := by
  have hcolon : lit ":" = [58] := by decide
  have hdot : lit "." = [46] := by decide
  simp [filterName, hcolon, hdot]

theorem filterName_eq_iff {a b : GPUInfo} : filterName a = filterName b ↔
    a.nodeName = b.nodeName ∧ a.port = b.port ∧ a.device = b.device := by
  have hcolon : isDigit 58 = false := by decide
  have hdot : isDigit 46 = false := by decide
  have hnum : ∀ u v : UInt32, putUnsigned u = putUnsigned v ↔ u = v := by
    intro u v
    rw [putUnsigned, putUnsigned, putNat_injective.eq_iff, UInt32.toNat_inj]
  rw [filterName_eq, filterName_eq,
    append_cons_inj (notMem_putUnsigned hdot _) (notMem_putUnsigned hdot _),
    append_cons_inj (notMem_putUnsigned hcolon _) (notMem_putUnsigned hcolon _), hnum, hnum, and_assoc]

theorem filterName_ne_nil (info : GPUInfo) : filterName info ≠ [] := by
  rw [filterName_eq]
  simp

/-- Some expression matches the text `t` only. -/
def HasExact (regexMatch : Text → Text → Bool) (t : Text) : Prop :=
  ∃ regex, regex ≠ [] ∧ ∀ name, regexMatch regex name = true ↔ name = t

/-- The text of a GPU filter identifies the GPU up to what its node, port and device are: equal
texts are of equal parts, an exact expression selects precisely the GPUs with these parts, and
every GPU filter decides alike on equal GPUs. Any text has an exact expression, which quotes it. -/
theorem filterName_identifies (M : Matchers) (regexMatch : Text → Text → Bool)
    (hM : M.regexMatch = some regexMatch) (hquote : ∀ t, t ≠ [] → HasExact regexMatch t) :
    (∀ a b : GPUInfo, filterName a = filterName b ↔
      a.nodeName = b.nodeName ∧ a.port = b.port ∧ a.device = b.device) ∧
    (∀ gpu : GPUInfo, ∃ regex, ∀ current candidate,
      (test M (.gpu regex) current candidate).1 = true ↔
        candidate.nodeName = gpu.nodeName ∧ candidate.port = gpu.port ∧
          candidate.device = gpu.device) ∧
    ∀ (M' : Matchers) (regex : Text) (current current' : List GPUInfo) (a b : GPUInfo),
      (a == b) = true →
        (test M' (.gpu regex) current a).1 = (test M' (.gpu regex) current' b).1 := by
  refine ⟨fun a b => filterName_eq_iff, ?_, ?_⟩
  · intro gpu
    obtain ⟨regex, hne, hexact⟩ := hquote (filterName gpu) (filterName_ne_nil gpu)
    refine ⟨regex, fun current candidate => ?_⟩
    rw [← filterName_eq_iff, ← hexact]
    simp [test, hM, Greedy.pass, hne]
  · intro M' regex current current' a b hab
    have hname : filterName a = filterName b := by
      obtain ⟨hnode, _, _, hport, hdevice, _⟩ := GPUInfo.beq_iff.mp hab
      exact filterName_eq_iff.mpr ⟨hnode, hport, hdevice⟩
    rw [test]
    cases M'.regexMatch with
    | none => rfl
    | some regexMatch => simp only [Greedy.pass, hname]

/-! ## Quoted expressions -/

/-- The characters that are no literals in an expression. -/
def isSpecial (c : Byte) : Bool := (lit ".[\x7b\x7d()\\*+?|^$").contains c

/-- The characters that an expression of literals, of `.` and of special characters behind a backslash
asks for, where `none` is any character; no result for other operators. -/
def literals : Bool → Text → Option (List (Option Byte))
  | false, [] => some []
  | true, [] => none
  | true, c :: regex =>
    if isSpecial c then (literals false regex).map (some c :: ·) else none
  | false, c :: regex =>
    if c = 92 then literals true regex
    else if c = 46 then (literals false regex).map (none :: ·)
    else if isSpecial c then none
    else (literals false regex).map (some c :: ·)

def fits : List (Option Byte) → Text → Bool
  | [], name => name.isEmpty
  | _ :: _, [] => false
  | o :: l, c :: name => o.all (· == c) && fits l name

def matchLiterals (regex name : Text) : Bool := (literals false regex).any fun l => fits l name

def quote (t : Text) : Text := t.flatMap fun c => if isSpecial c then [92, c] else [c]

theorem literals_quote (t : Text) : literals false (quote t) = some (t.map some) := by
  induction t with
  | nil => rfl
  | cons c t ih =>
    rw [quote, List.flatMap_cons, ← quote]
    cases hc : isSpecial c with
    | true => simp [literals, hc, ih]
    | false =>
      have hbackslash : c ≠ 92 := by
        rintro rfl
        revert hc
        decide
      have hdot : c ≠ 46 := by
        rintro rfl
        revert hc
        decide
      simp [literals, hc, hbackslash, hdot, ih]

theorem fits_map_some (t name : Text) : fits (t.map some) name = true ↔ name = t := by
  induction t generalizing name with
  | nil => simp [fits]
  | cons c t ih =>
    cases name with
    | nil => simp [fits]
    | cons d name =>
      rw [List.map_cons, fits, Option.all_some, Bool.and_eq_true, beq_iff_eq, ih, List.cons.injEq,
        eq_comm]

theorem hasExact_matchLiterals {t : Text} (ht : t ≠ []) : HasExact matchLiterals t := by
  refine ⟨quote t, ?_, fun name => ?_⟩
  · intro hnil
    have hliterals := literals_quote t
    rw [hnil] at hliterals
    exact ht (by simpa [literals] using hliterals.symm)
  · rw [matchLiterals, literals_quote]
    exact fits_map_some t name

theorem filterName_identifies_literals :
    let M : Matchers := ⟨some matchLiterals, none⟩
    (∀ a b : GPUInfo, filterName a = filterName b ↔
      a.nodeName = b.nodeName ∧ a.port = b.port ∧ a.device = b.device) ∧
    (∀ gpu : GPUInfo, ∃ regex, ∀ current candidate,
      (test M (.gpu regex) current candidate).1 = true ↔
        candidate.nodeName = gpu.nodeName ∧ candidate.port = gpu.port ∧
          candidate.device = gpu.device) ∧
    ∀ (M' : Matchers) (regex : Text) (current current' : List GPUInfo) (a b : GPUInfo),
      (a == b) = true →
        (test M' (.gpu regex) current a).1 = (test M' (.gpu regex) current' b).1 :=
  filterName_identifies ⟨some matchLiterals, none⟩ matchLiterals rfl
    fun _ ht => hasExact_matchLiterals ht

end Gpu
end Hwsd
