import Mathlib.Data.List.Infix
import Hwsd.Lib.Handles
import Hwsd.Wgl.Module

/-!
# Hwsd.Wgl.Functions

The temporary window and context with which the discovery on Windows looks up the functions of the
driver (`_initGLFuncs`, `gpu/wgl/module.cpp`), over any sequence of discover calls of a program. The
pointers to these functions are static and are not cleared, so a call may use what an earlier one
has found.

* `initGLFuncs_leaves`: what a call leaves open. A device context is not released if no pixel format
  is found.
* `runCalls_handles`: what a sequence of calls leaves open.
* `runCalls_results`: each result is told by the answers to this call and by the last call that has
  read the pointers.
-/

namespace Hwsd
namespace Wgl

open CxxStream Handles

/-- What `_initGLFuncs` opens. -/
inductive Handle where
  | windowClass
  | window
  | dc
  | context
deriving DecidableEq

/-- The static function pointers: which of them are not null. -/
structure Functions where
  wglEnumGpusNV_ : Bool
  wglEnumGpuDevicesNV_ : Bool
  wglGetGPUIDsAMD_ : Bool
deriving DecidableEq

/-- At the start of the program. -/
def Functions.null : Functions := ⟨false, false, false⟩

/-- What Windows and the driver answer during one call: whether each step succeeds, the extensions,
if `wglGetExtensionsStringARB` is found and returns them, which functions `wglGetProcAddress` finds,
and what these functions then say. -/
structure Answers (γ : Type) where
  registerClass : Bool
  createWindowEx : Bool
  getDC : Bool
  choosePixelFormat : Bool
  setPixelFormat : Bool
  createContext : Bool
  ext : Option Text
  procAddress : Functions
  affinity : Affinity γ
  gpuIDs : UInt32 × (Fin maxGPUs → UInt32)
  monitors : List (Option Rect)

/-- `extensions.find(name) != std::string::npos`. -/
def lists (ext : Option Text) (name : Text) : Bool :=
  match ext with
  | some extensions => name <:+: extensions
  | none => false

namespace Answers

variable {γ : Type} (a : Answers γ)

def affinityListed : Bool := lists a.ext (lit "WGL_NV_gpu_affinity")

def associationListed : Bool := lists a.ext (lit "WGL_AMD_gpu_association")

/-- The pointers after the extensions have been read. -/
def load (f : Functions) : Functions :=
  let f :=
    if a.affinityListed then
      { f with
        wglEnumGpusNV_ := a.procAddress.wglEnumGpusNV_
        wglEnumGpuDevicesNV_ := a.procAddress.wglEnumGpuDevicesNV_ }
    else f
  if a.associationListed then { f with wglGetGPUIDsAMD_ := a.procAddress.wglGetGPUIDsAMD_ } else f

/-- `GetDC`, which may have no result, and `ReleaseDC`. -/
def openedDC : List (Handles.Event Handle) := if a.getDC then [.opened .dc] else []

def closedDC : List (Handles.Event Handle) := if a.getDC then [.closed .dc] else []

/-- `DestroyWindow` and `UnregisterClass`. -/
def closedWindow : List (Handles.Event Handle) := [.closed .window, .closed .windowClass]

/-- `_initGLFuncs`: whether it succeeds, the pointers, and what it opens and closes. -/
def initGLFuncs (f : Functions) : Bool × Functions × List (Handles.Event Handle) :=
  if !a.registerClass then (false, f, []) else
  let es : List (Handles.Event Handle) := [.opened .windowClass]
  if !a.createWindowEx then (false, f, es ++ [.closed .windowClass]) else
  let es : List (Handles.Event Handle) := es ++ [.opened .window] ++ a.openedDC
  if !a.choosePixelFormat then (false, f, es ++ closedWindow) else
  if !a.setPixelFormat then (false, f, es ++ a.closedDC ++ closedWindow) else
  if !a.createContext then (false, f, es ++ a.closedDC ++ closedWindow) else
  (true, a.load f, es ++ [.opened .context, .closed .context] ++ a.closedDC ++ closedWindow)

/-- What the rest of the discovery sees. -/
def env (ok : Bool) (f : Functions) : Env γ where
  initGLFuncs := ok
  affinity := if f.wglEnumGpusNV_ then some a.affinity else none
  monitors := a.monitors
  wglGetGPUIDsAMD := if f.wglGetGPUIDsAMD_ then some a.gpuIDs else none

/-- The loop over the GPUs finds one, and calls a null pointer for its devices. -/
def callsNull (ok : Bool) (f : Functions) : Bool :=
  ok && f.wglEnumGpusNV_ && !f.wglEnumGpuDevicesNV_ && (a.affinity.wglEnumGpusNV 0).isSome

/-- The driver knows more GPUs than `gpuIDs` holds, and the loop over them is reached. -/
def readsBehind (ok : Bool) (f : Functions) : Bool :=
  ok && !f.wglEnumGpusNV_ && f.wglGetGPUIDsAMD_ && decide (maxGPUs < a.gpuIDs.1.toNat)

end Answers

/-- How a call ends, if it does. -/
inductive Result where
  | infos (infos : List GPUInfo)
  | nullCall
  | outOfBounds

section

variable {γ : Type} (localNodeID : UInt128) (fuel : Nat)

/-- `Module::discover` with the pointers as it finds them. -/
def discoverCall (f : Functions) (a : Answers γ) :
    Functions × List (Handles.Event Handle) × Option Result :=
  let (ok, f, es) := a.initGLFuncs f
  (f, es, if a.callsNull ok f then some .nullCall
    else if a.readsBehind ok f then some .outOfBounds
    else (discover localNodeID (a.env ok f) fuel).map .infos)

/-- The discover calls of a program, up to the first that does not return: the pointers, what is
opened and closed, and the results. -/
def runCalls (f : Functions) :
    List (Answers γ) → Functions × List (Handles.Event Handle) × List (Option Result)
  | [] => (f, [], [])
  | a :: calls =>
    let (f, es, result) := discoverCall localNodeID fuel f a
    match result with
    | some (.infos _) =>
      let (f, es', results) := runCalls f calls
      (f, es ++ es', result :: results)
    | _ => (f, es, [result])

end

/-! ## One call -/

namespace Answers

variable {γ : Type} (a : Answers γ)

/-- Every step up to the context succeeds. -/
def initialised : Bool :=
  a.registerClass && a.createWindowEx && a.choosePixelFormat && a.setPixelFormat && a.createContext

/-- A device context is opened, and no pixel format is found for it. -/
def leaksDC : Bool := a.registerClass && a.createWindowEx && a.getDC && !a.choosePixelFormat

/-- How `_initGLFuncs` ends, and what becomes of the pointers. -/
theorem initGLFuncs_eq (f : Functions) : (a.initGLFuncs f).1 = a.initialised ∧
    (a.initGLFuncs f).2.1 = if a.initialised then a.load f else f := by
  unfold initGLFuncs initialised
  cases a.registerClass with
  | false => exact ⟨rfl, rfl⟩
  | true =>
    cases a.createWindowEx with
    | false => exact ⟨rfl, rfl⟩
    | true =>
      cases a.choosePixelFormat with
      | false => exact ⟨rfl, rfl⟩
      | true =>
        cases a.setPixelFormat with
        | false => exact ⟨rfl, rfl⟩
        | true =>
          cases a.createContext with
          | false => exact ⟨rfl, rfl⟩
          | true => exact ⟨rfl, rfl⟩

/-- What is opened for a window is closed with it, as soon as the device context is released. -/
theorem brackets_window {es : List (Handles.Event Handle)} (h : Brackets [.context] es) :
    Brackets [.windowClass, .window, .dc, .context] ([.opened .windowClass] ++ [.opened .window] ++
      a.openedDC ++ es ++ a.closedDC ++ closedWindow) := by
  have hdc : Brackets [.dc, .context] (a.openedDC ++ es ++ a.closedDC) := by
    unfold openedDC closedDC
    cases a.getDC with
    | false => simpa using h.mono (List.sublist_cons_self _ _)
    | true => simpa using h.around .dc
  simpa [closedWindow] using (hdc.around .window).around .windowClass

/-- A window is destroyed without its device context. -/
theorem leaves_window : Leaves ([.opened .windowClass] ++ [.opened .window] ++ a.openedDC ++
    closedWindow) (if a.getDC then [.dc] else []) := by
  have hdc : Leaves a.openedDC (if a.getDC then [.dc] else []) := by
    unfold openedDC
    cases a.getDC with
    | false => exact leaves_nil
    | true => exact fun _ => rfl
  have hother : ∀ r : Handle, r ≠ .dc → r ∉ if a.getDC then [Handle.dc] else [] := by
    intro r hr
    split
    · simpa using hr
    · exact List.not_mem_nil
  simpa [closedWindow] using (hdc.around (hother .window (by simp))).around (hother .windowClass (by simp))

theorem initGLFuncs_brackets (f : Functions) (h : a.leaksDC = false) :
    Brackets [.windowClass, .window, .dc, .context] (a.initGLFuncs f).2.2 := by
  unfold initGLFuncs
  unfold leaksDC at h
  have hclass : Brackets [.windowClass, .window, .dc, .context]
      [.opened Handle.windowClass, .closed .windowClass] :=
    (Brackets.nil _).around Handle.windowClass
  cases hregister : a.registerClass with
  | false => exact .nil _
  | true =>
    cases hcreate : a.createWindowEx with
    | false => exact hclass
    | true =>
      have hfail := a.brackets_window (.nil _)
      rw [List.append_nil] at hfail
      cases hchoose : a.choosePixelFormat with
      | false =>
        have hdc : a.getDC = false := by simpa [hregister, hcreate, hchoose] using h
        simpa [openedDC, closedDC, hdc] using hfail
      | true =>
        cases a.setPixelFormat with
        | false => exact hfail
        | true =>
          cases a.createContext with
          | false => exact hfail
          | true => exact a.brackets_window ((Brackets.nil []).around Handle.context)

/-- A call leaves nothing open, or a device context. -/
theorem initGLFuncs_leaves (f : Functions) :
    Leaves (a.initGLFuncs f).2.2 (if a.leaksDC then [.dc] else []) := by
  cases hleaks : a.leaksDC with
  | false => exact (a.initGLFuncs_brackets f hleaks).nested.leaves
  | true =>
    have hleaves := a.leaves_window
    simp only [leaksDC, Bool.and_eq_true, Bool.not_eq_true'] at hleaks
    obtain ⟨⟨⟨hregister, hcreate⟩, hdc⟩, hchoose⟩ := hleaks
    simpa [initGLFuncs, hregister, hcreate, hchoose, hdc] using hleaves

theorem initGLFuncs_events (f f' : Functions) : (a.initGLFuncs f).2.2 = (a.initGLFuncs f').2.2 := by
  unfold initGLFuncs
  simp only
  split_ifs <;> rfl

/-- The call reads the extensions, and those for the affinity are among them. -/
def readsAffinity : Bool := a.initialised && a.affinityListed

def readsAssociation : Bool := a.initialised && a.associationListed

end Answers

/-! ## Runs -/

section

variable {γ : Type}

/-- What `wglGetProcAddress` found in the last call with `p`. -/
def lastProcAddress (p : Answers γ → Bool) (calls : List (Answers γ)) : Functions :=
  ((calls.filter p).getLast?.map Answers.procAddress).getD Functions.null

/-- The pointers after some calls: those that the last call has found that read the extension. -/
def functionsAfter (calls : List (Answers γ)) : Functions where
  wglEnumGpusNV_ := (lastProcAddress Answers.readsAffinity calls).wglEnumGpusNV_
  wglEnumGpuDevicesNV_ := (lastProcAddress Answers.readsAffinity calls).wglEnumGpuDevicesNV_
  wglGetGPUIDsAMD_ := (lastProcAddress Answers.readsAssociation calls).wglGetGPUIDsAMD_

theorem lastProcAddress_append (p : Answers γ → Bool) (calls : List (Answers γ)) (a : Answers γ) :
    lastProcAddress p (calls ++ [a]) = if p a then a.procAddress else lastProcAddress p calls := by
  unfold lastProcAddress
  rw [List.filter_append]
  cases hp : p a with
  | false => simp [hp]
  | true => simp [hp]

theorem functionsAfter_append (calls : List (Answers γ)) (a : Answers γ) :
    (a.initGLFuncs (functionsAfter calls)).2.1 = functionsAfter (calls ++ [a]) := by
  rw [(a.initGLFuncs_eq _).2, functionsAfter, functionsAfter, lastProcAddress_append,
    lastProcAddress_append, Answers.readsAffinity, Answers.readsAssociation, Answers.load]
  cases a.initialised with
  | false => rfl
  | true =>
    cases a.affinityListed with
    | false => cases a.associationListed <;> simp
    | true => cases a.associationListed <;> simp

variable (localNodeID : UInt128) (fuel : Nat)

/-- The result of a call that reads or keeps these pointers. -/
def resultOf (f : Functions) (a : Answers γ) : Option Result :=
  if a.callsNull a.initialised f then some .nullCall
  else if a.readsBehind a.initialised f then some .outOfBounds
  else (discover localNodeID (a.env a.initialised f) fuel).map .infos

variable {localNodeID fuel}

theorem discoverCall_eq (calls : List (Answers γ)) (a : Answers γ) :
    discoverCall localNodeID fuel (functionsAfter calls) a =
      (functionsAfter (calls ++ [a]), (a.initGLFuncs Functions.null).2.2,
        resultOf localNodeID fuel (functionsAfter (calls ++ [a])) a) := by
  rw [discoverCall, resultOf, ← functionsAfter_append, ← (a.initGLFuncs_eq (functionsAfter calls)).1,
    a.initGLFuncs_events Functions.null (functionsAfter calls)]

/-- The calls that are made. -/
def made (calls : List (Answers γ)) (results : List (Option Result)) : List (Answers γ) :=
  calls.take results.length

/-- A run behind the calls of `prior`. -/
structure RunOf (localNodeID : UInt128) (fuel : Nat) (prior calls : List (Answers γ))
    (r : Functions × List (Handles.Event Handle) × List (Option Result)) : Prop where
  functions : r.1 = functionsAfter (prior ++ made calls r.2.2)
  events : r.2.1 = (made calls r.2.2).flatMap fun a => (a.initGLFuncs Functions.null).2.2
  results : ∀ i result, r.2.2[i]? = some result → ∃ a, calls[i]? = some a ∧
    result = resultOf localNodeID fuel (functionsAfter (prior ++ calls.take (i + 1))) a
  /-- It goes on behind a call that returns. -/
  stops : r.2.2.length < calls.length → ∃ result, r.2.2.getLast? = some result ∧
    ∀ infos, result ≠ some (.infos infos)

theorem runCalls_ok (prior calls : List (Answers γ)) :
    RunOf localNodeID fuel prior calls (runCalls localNodeID fuel (functionsAfter prior) calls) := by
  induction calls generalizing prior with
  | nil =>
    refine ⟨by simp [runCalls, made], rfl, fun i result h => ?_, fun h => ?_⟩
    · simp [runCalls] at h
    · simp [runCalls] at h
  | cons a calls ih =>
    obtain ⟨hfunctions, hevents, hresults, hstops⟩ := ih (prior ++ [a])
    rw [runCalls, discoverCall_eq]
    simp only
    split
    · rename_i infos hinfos
      refine ⟨?_, ?_, fun i result h => ?_, fun h => ?_⟩
      · simpa [made] using hfunctions
      · simpa [made] using hevents
      · cases i with
        | zero =>
          refine ⟨a, rfl, ?_⟩
          simpa using h.symm
        | succ i =>
          obtain ⟨b, hb, hresult⟩ := hresults i result (by simpa using h)
          exact ⟨b, by simpa using hb, by simpa using hresult⟩
      · obtain ⟨result, hlast, hne⟩ := hstops (by simpa using h)
        refine ⟨result, ?_, hne⟩
        rw [List.getLast?_cons, hlast]
        rfl
    · rename_i hother
      refine ⟨by simp [made], by simp [made], fun i result h => ?_, fun _ => ?_⟩
      · cases i with
        | zero =>
          refine ⟨a, rfl, ?_⟩
          simpa using h.symm
        | succ i => simp at h
      · exact ⟨_, rfl, hother⟩

/-- A null pointer is called only if the pointer to the other function is not null. -/
theorem resultOf_nullCall {f : Functions} {a : Answers γ}
    (h : resultOf localNodeID fuel f a = some .nullCall) :
    f.wglEnumGpusNV_ = true ∧ f.wglEnumGpuDevicesNV_ = false := by
  unfold resultOf at h
  split at h
  · rename_i hnull
    simp only [Answers.callsNull, Bool.and_eq_true, Bool.not_eq_true'] at hnull
    exact ⟨hnull.1.1.2, hnull.1.2⟩
  · split at h
    · cases h
    · obtain ⟨_, _, heq⟩ := Option.map_eq_some_iff.mp h
      cases heq

/-- The array is read behind its end only if the driver knows more GPUs than it holds. -/
theorem resultOf_outOfBounds {f : Functions} {a : Answers γ}
    (h : resultOf localNodeID fuel f a = some .outOfBounds) : maxGPUs < a.gpuIDs.1.toNat := by
  unfold resultOf at h
  split at h
  · cases h
  · split at h
    · rename_i hreads
      simp only [Answers.readsBehind, Bool.and_eq_true, decide_eq_true_eq] at hreads
      exact hreads.2
    · obtain ⟨_, _, heq⟩ := Option.map_eq_some_iff.mp h
      cases heq

theorem lastProcAddress_cases (p : Answers γ → Bool) (calls : List (Answers γ)) :
    lastProcAddress p calls = Functions.null ∨
      ∃ a ∈ calls, p a = true ∧ lastProcAddress p calls = a.procAddress := by
  unfold lastProcAddress
  cases hlast : (calls.filter p).getLast? with
  | none => exact .inl rfl
  | some a =>
    obtain ⟨ha, hp⟩ := List.mem_filter.mp (List.mem_of_getLast? hlast)
    exact .inr ⟨a, ha, hp, rfl⟩

end

/-- Over any sequence of discover calls, what is left open is one device context for each call that
has found no pixel format for it; with no such call all is closed in turn, and at every moment at most
one class is open, one window with it, one device context with these, and one context. -/
theorem runCalls_handles {γ : Type} (localNodeID : UInt128) (fuel : Nat) (calls : List (Answers γ)) :
    let r := runCalls localNodeID fuel Functions.null calls
    Leaves r.2.1 (List.replicate ((made calls r.2.2).countP Answers.leaksDC) .dc) ∧
      (Nested 4 r.2.1 ↔ ∀ a ∈ made calls r.2.2, a.leaksDC = false) ∧
      ((∀ a ∈ made calls r.2.2, a.leaksDC = false) → ∀ moment, moment <+: r.2.1 →
        ∃ held, hold [] moment = some held ∧
          held.reverse.Sublist [.windowClass, .window, .dc, .context]) := by
  intro r
  have hrun : RunOf localNodeID fuel [] calls r := runCalls_ok [] calls
  refine ⟨?_, ?_, fun h moment hmoment => ?_⟩
  · rw [hrun.events]
    exact leaves_flatMap_count (fun a => a.initGLFuncs_leaves Functions.null) _
  · rw [hrun.events]
    exact nested_flatMap_iff (fun a => a.initGLFuncs_leaves Functions.null)
      (fun a ha => (a.initGLFuncs_brackets Functions.null ha).nested) _
  · have hbrackets : Brackets [.windowClass, .window, .dc, .context] r.2.1 := by
      rw [hrun.events]
      exact brackets_flatMap fun a ha => a.initGLFuncs_brackets Functions.null (h a ha)
    obtain ⟨held, hhold, hsub⟩ := hbrackets.within [] hmoment
    exact ⟨held, by rw [hhold, List.append_nil], hsub⟩

end Wgl
end Hwsd
