import Hwsd.Duplicates

/-!
# Hwsd.NoEcho

What is learned from other machines is not announced again. In every state that a sequence of
announce and discover calls reaches, whatever the native modules and the browses answered during
each of them, a dns_sd announcement works on the lists of the native modules alone, and a discover
call sees the full browse (`no_echo`).
-/

namespace Hwsd

open CxxStream Greedy DnsSd

/-- What a call does in state `s`, for a resource whose records are told apart by `same`. -/
structure NoEcho {ι α : Type} (R : Resource α) (same : α → α → Prop) (stack : List (Registered ι))
    (s : Impl) (w : World ι α) (call : Call ι) : Prop where
  idle : s.announcing = false
  /-- Every list that is collected during the call is the one the native modules give. -/
  collected : ∀ infos, Event.collected infos ∈ (R.step w stack s call).2 →
    infos = run (R.test .duplicate) [] (Resource.localInfos w stack)
  /-- It holds nothing that no native module has found. -/
  native : ∀ info ∈ run (R.test .duplicate) [] (Resource.localInfos w stack),
    ∃ i, Registered.native i ∈ stack ∧ ∃ info' ∈ w.infos i, same info info'
  /-- It is what the dns_sd module publishes. -/
  published : ∀ session, R.step w stack s (.announce .dnsSd session) =
    ({ toModule := R.publish session (run (R.test .duplicate) [] (Resource.localInfos w stack))
        s.toModule
       announcing := false },
      [.collected (run (R.test .duplicate) [] (Resource.localInfos w stack))])
  /-- The global announcement comes to the dns_sd module wherever it is registered. -/
  reached : Registered.dnsSd ∈ stack → ∀ session,
    Event.collected (run (R.test .duplicate) [] (Resource.localInfos w stack)) ∈
      (R.step w stack s (.announceInfos session)).2
  /-- A discover call sees the full browse. -/
  discovered : ∀ filter, R.step w stack s (.discoverInfos filter) =
    (s, [.returned (run (selector R.test filter) [] (stack.flatMap (R.discovered w)))])
  browsed : R.step w stack s (.discover .dnsSd) = (s, [.returned (R.browse w.all w.loc)])

section

variable {ι α : Type} {R : Resource α} {same : α → α → Prop} {stack : List (Registered ι)}

theorem noEcho_of_idle
    (hsame : ∀ xs, ∀ info ∈ run (R.test .duplicate) [] xs, ∃ info' ∈ xs, same info info')
    {s : Impl} (hs : s.announcing = false) (w : World ι α) (call : Call ι) :
    NoEcho R same stack s w call where
  idle := hs
  collected _ h := R.step_collected w stack h
  native := by
    intro info hinfo
    obtain ⟨info', hinfo', hs'⟩ := hsame _ info hinfo
    rw [Resource.localInfos, List.mem_flatMap] at hinfo'
    obtain ⟨module, hmodule, hmem⟩ := hinfo'
    cases module with
    | dnsSd => simp at hmem
    | native i => exact ⟨i, hmodule, info', hmem, hs'⟩
  published session := by
    rw [Resource.step, R.announce_dnsSd, Resource.announcedInfos]
  reached h session := R.collected_announceFrom w stack session s h
  discovered filter := by
    rw [Resource.step, R.discoverInfos_eq, R.discover_idle w hs]
  browsed := by
    rw [Resource.step, R.discover_idle w hs, Resource.discovered]

end

theorem Gpu.same_run_dedup (xs : List GPUInfo) :
    ∀ info ∈ run (dedup Gpu.mergeFlags) [] xs, ∃ info' ∈ xs,
      Gpu.clearFlags info = Gpu.clearFlags info' := by
  intro info hinfo
  obtain ⟨a, ha, rfl⟩ := Gpu.mem_run_dedup.mp hinfo
  exact ⟨a, eraseDups_subset xs a ha, rfl⟩

theorem Net.same_run_dedup (xs : List NetInfo) :
    ∀ info ∈ run (dedup fun info _ => info) [] xs, ∃ info' ∈ xs, info = info' := by
  intro info hinfo
  rw [run_dedup Net.keepFirst_isMerge, List.mem_map] at hinfo
  obtain ⟨a, ha, rfl⟩ := hinfo
  have hfix : ∀ l : List NetInfo, l.foldl (fun info _ => info) a = a := by
    intro l
    induction l with
    | nil => rfl
    | cons _ l ih => exact ih
  exact ⟨a, eraseDups_subset xs a ha, hfix _⟩

/-- For every set and order of modules: after any sequence of calls, a dns_sd announcement collects
the deduplicated lists of the native modules and nothing else, and every discover call sees the
full browse. GPUs keep everything but the merged flags. -/
theorem no_echo {ι : Type} (M : Matchers) (U : Uint128Ops) (localNodeID : UInt128)
    (stack : List (Registered ι)) (m : Module) :
    (∀ (calls : List (World ι GPUInfo × Call ι)) (w : World ι GPUInfo) (call : Call ι),
      NoEcho (gpuResource M U localNodeID) (fun a b => Gpu.clearFlags a = Gpu.clearFlags b) stack
        ((gpuResource M U localNodeID).runCalls stack ⟨m, false⟩ calls) w call) ∧
    ∀ (calls : List (World ι NetInfo × Call ι)) (w : World ι NetInfo) (call : Call ι),
      NoEcho (netResource M U localNodeID) Eq stack
        ((netResource M U localNodeID).runCalls stack ⟨m, false⟩ calls) w call := by
  constructor
  · intro calls w call
    exact noEcho_of_idle Gpu.same_run_dedup
      (Resource.runCalls_announcing _ stack rfl calls) w call
  · intro calls w call
    exact noEcho_of_idle Net.same_run_dedup
      (Resource.runCalls_announcing _ stack rfl calls) w call

end Hwsd
