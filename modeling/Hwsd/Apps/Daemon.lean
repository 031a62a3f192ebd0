import Hwsd.Lib.Publish
import Hwsd.Codec.Gpu
import Hwsd.Codec.Net
import Hwsd.Functions
import Hwsd.Info.Print
import Hwsd.Session

/-!
# Hwsd.Apps.Daemon

The daemon `hw_sd` (`apps/hw_sd/hw_sd.cpp`): it registers the modules of its build, announces the
GPUs and then the network interfaces of its machine, and waits. Under the names `gpu_sd` and
`net_sd` it makes one of the two announcements only.

Its calls of Servus are kept in order, so that those of several daemons can be interleaved.

* `announceCalls`: the calls of one dns_sd announcement.
* `program_tidy`: nothing is written to a service behind its announcement.
* `writes_of_announced`: a daemon that announces a service has made a whole announcement.
* `main_spec`: how the program ends, and what it serves then.
-/

namespace Hwsd

open CxxStream Greedy KvStore DnsSd Publish

/-- The GPU modules that a build may have. -/
inductive GPUModule where
  | cgl
  | glx
  | wgl
deriving DecidableEq

/-- The network module. -/
inductive NetModule where
  | sys
deriving DecidableEq

/-- `HWSD_GPU_CGL`, `HWSD_GPU_GLX` and `HWSD_GPU_WGL`. -/
structure Build where
  cgl : Bool
  glx : Bool
  wgl : Bool

/-- The GPU modules in the order in which they are used. -/
def Build.modules (build : Build) : List GPUModule :=
  (if build.cgl then [.cgl] else []) ++ (if build.glx then [.glx] else []) ++
    (if build.wgl then [.wgl] else [])

/-- What the command line says; without `boost::program_options` it is ignored. -/
structure Options where
  help : Bool
  version : Bool
  session : Text

structure DaemonOptions extends Options where
  daemon : Bool

/-- How a program ends; a daemon never does. -/
inductive Exit where
  | success
  | failure
  | never
deriving DecidableEq

/-- The two services that are published. -/
inductive Kind where
  | gpu
  | net
deriving DecidableEq

def Kind.resource : Kind → Text
  | .gpu => Gpu.GPU
  | .net => Net.NET

abbrev ServusCall := Publish.Call Kind Text Text

/-- A machine: its node, and what its modules find and Servus answers during the announcements. -/
structure Machine where
  nodeID : UInt128
  gpus : World GPUModule GPUInfo
  nets : World NetModule NetInfo

/-- The calls that publish a log of writes. -/
def announceCalls (kind : Kind) (resource : Text) (log : List (Slot × Text)) (announced : Bool) :
    List ServusCall :=
  (spell resource log).map (fun w => .set kind w.1 w.2) ++
    if announced then [.announce kind] else []

/-- What a program has done. -/
structure Half where
  ok : Bool
  calls : List ServusCall
  out : Text

/-- A half that is skipped. -/
def Half.skip : Half := ⟨true, [], []⟩

structure Daemon where
  build : Build
  machine : Machine
  executable : Text
  /-- `none` if the command line cannot be parsed. -/
  options : Option DaemonOptions

/-- The lines of the default announcement. -/
def printed {α : Type} (put : α → Text) : Event α → Text
  | .printed info => put info ++ endl
  | _ => []

namespace Daemon

variable (M : Matchers) (U : Uint128Ops) (d : Daemon)

def gpuStack : List (Registered GPUModule) := d.build.modules.map .native ++ [.dnsSd]

def netStack : List (Registered NetModule) := [.dnsSd, .native .sys]

/-- The GPUs of the machine that are announced. -/
def gpus : List GPUInfo :=
  (gpuResource M U d.machine.nodeID).announcedInfos d.machine.gpus d.gpuStack

/-- The interfaces of the machine, the loopback interface included. -/
def nets : List NetInfo :=
  (netResource M U d.machine.nodeID).announcedInfos d.machine.nets netStack

/-- What an announcement writes. -/
def log (session : Text) : Kind → List (Slot × Text)
  | .gpu => Gpu.log U d.machine.nodeID session (d.gpus M U)
  | .net => Net.log U d.machine.nodeID session (d.nets M U)

/-- Whether there is something to announce. -/
def hasSome : Kind → Bool
  | .gpu => !(d.gpus M U).isEmpty
  | .net => !(d.nets M U).isEmpty

/-- Whether Servus announces. -/
def announced : Kind → Bool
  | .gpu => d.machine.gpus.announced
  | .net => d.machine.nets.announced

/-- The calls of the `announce` of a dns_sd module. -/
def calls (session : Text) (kind : Kind) : List ServusCall :=
  if d.hasSome M U kind then
    announceCalls kind kind.resource (d.log M U session kind) (d.announced kind)
  else []

def gpuHalf (session : Text) : Half :=
  let r := announceGPUInfos M U d.machine.nodeID d.machine.gpus d.gpuStack session ⟨Gpu.fresh, false⟩
  ⟨r.ok, d.calls M U session .gpu, r.events.flatMap (printed (GPUInfo.put U))⟩

def netHalf (session : Text) : Half :=
  let r := announceNetInfos M U d.machine.nodeID d.machine.nets netStack session ⟨Net.fresh, false⟩
  ⟨r.ok, d.calls M U session .net, r.events.flatMap (printed (NetInfo.put U))⟩

/-- `main`: how it ends, its calls of Servus, and what it prints after the options are read, besides
log messages. The destructors of the dns_sd modules that were used withdraw their services. -/
def main : Exit × List ServusCall × Text :=
  match d.options with
  | none => (.failure, [], [])
  | some options =>
    if options.help || options.version then (.success, [], []) else
    let gpu := if d.executable ≠ lit "net_sd" then d.gpuHalf M U options.session else Half.skip
    if !gpu.ok then (.failure, gpu.calls, gpu.out) else
    let net := if d.executable ≠ lit "gpu_sd" then d.netHalf M U options.session else Half.skip
    let calls := gpu.calls ++ net.calls
    let out := gpu.out ++ net.out
    if !net.ok then (.failure, calls, out) else
    if options.daemon then (.never, calls, out) else
    (.success,
      calls ++ (if d.executable ≠ lit "net_sd" then [.withdraw .gpu] else []) ++
        (if d.executable ≠ lit "gpu_sd" then [.withdraw .net] else []),
      out ++ lit "Press <Enter> to quit\n")

def program : List ServusCall := (d.main M U).2.1

/-- The session under which the daemon announces. -/
def session : Text := (d.options.map (·.session)).getD []

end Daemon

/-! ## The calls of one announcement -/

section AnnounceCalls

variable {kind kind' : Kind} {resource : Text} {log : List (Slot × Text)} {announced : Bool}

theorem mem_announceCalls {c : ServusCall} (h : c ∈ announceCalls kind resource log announced) :
    (∃ k v, c = .set kind k v) ∨ c = .announce kind ∧ announced = true := by
  rw [announceCalls, List.mem_append, List.mem_map] at h
  rcases h with ⟨w, _, rfl⟩ | h
  · exact .inl ⟨w.1, w.2, rfl⟩
  · split at h
    · rename_i hannounced
      exact .inr ⟨List.mem_singleton.mp h, hannounced⟩
    · cases h

theorem service_announceCalls : ∀ c ∈ announceCalls kind resource log announced, c.service = kind := by
  intro c hc
  rcases mem_announceCalls hc with ⟨k, v, rfl⟩ | ⟨rfl, _⟩ <;> rfl

theorem tidy_announceCalls : Tidy (announceCalls kind resource log announced) := by
  have hsets : Tidy ((spell resource log).map fun w => (.set kind w.1 w.2 : ServusCall)) := by
    rw [Tidy, List.pairwise_map]
    exact List.pairwise_of_forall fun w w' s h => by cases h
  refine hsets.append ?_ ?_
  · split
    · exact List.pairwise_singleton _ _
    · exact List.Pairwise.nil
  · intro s k v h
    simp at h

theorem writes_announceCalls :
    writes kind (announceCalls kind resource log announced) = spell resource log := by
  have hsets : ∀ ws : List (Text × Text),
      writes kind (ws.map fun w => (.set kind w.1 w.2 : ServusCall)) = ws := by
    intro ws
    induction ws with
    | nil => rfl
    | cons w ws ih => rw [List.map_cons, writes, if_pos rfl, ih]
  rw [announceCalls, writes_append, hsets]
  cases announced <;> simp [writes]

end AnnounceCalls

namespace Daemon

variable {M : Matchers} {U : Uint128Ops} {d : Daemon}

theorem mem_calls {session : Text} {kind : Kind} {c : ServusCall}
    (h : c ∈ d.calls M U session kind) : d.hasSome M U kind = true ∧ d.calls M U session kind =
      announceCalls kind kind.resource (d.log M U session kind) (d.announced kind) := by
  unfold calls at h ⊢
  split at h
  · rename_i hsome
    exact ⟨hsome, if_pos hsome⟩
  · cases h

theorem service_calls {session : Text} {kind : Kind} :
    ∀ c ∈ d.calls M U session kind, c.service = kind := by
  intro c hc
  have heq := (mem_calls hc).2
  rw [heq] at hc
  exact service_announceCalls c hc

theorem tidy_calls {session : Text} {kind : Kind} : Tidy (d.calls M U session kind) := by
  unfold calls
  split
  · exact tidy_announceCalls
  · exact List.Pairwise.nil

/-- What a daemon asks of Servus: at most both announcements, and then withdrawals. -/
theorem program_cases (M : Matchers) (U : Uint128Ops) (d : Daemon) :
    ∃ g n w, d.program M U = g ++ n ++ w ∧ (g = [] ∨ g = d.calls M U d.session .gpu) ∧
      (n = [] ∨ n = d.calls M U d.session .net) ∧ ∀ c ∈ w, ∃ kind, c = Publish.Call.withdraw kind := by
  have hwithdraw : ∀ (p q : Prop) [Decidable p] [Decidable q],
      ∀ c ∈ (if p then [Publish.Call.withdraw Kind.gpu] else []) ++
        (if q then [Publish.Call.withdraw Kind.net] else []), ∃ kind, (c : ServusCall) = .withdraw kind := by
    intro p q _ _ c hc
    rcases List.mem_append.mp hc with hc | hc
    · split at hc
      · exact ⟨.gpu, List.mem_singleton.mp hc⟩
      · cases hc
    · split at hc
      · exact ⟨.net, List.mem_singleton.mp hc⟩
      · cases hc
  unfold program main session
  cases hoptions : d.options with
  | none => exact ⟨[], [], [], rfl, .inl rfl, .inl rfl, by simp⟩
  | some options =>
    simp only [Option.map_some, Option.getD_some]
    split
    · exact ⟨[], [], [], rfl, .inl rfl, .inl rfl, by simp⟩
    · generalize hgpu : (if d.executable ≠ lit "net_sd" then d.gpuHalf M U options.session
        else Half.skip) = gpu
      generalize hnet : (if d.executable ≠ lit "gpu_sd" then d.netHalf M U options.session
        else Half.skip) = net
      have hg : gpu.calls = [] ∨ gpu.calls = d.calls M U options.session .gpu := by
        rw [← hgpu]
        split
        · exact .inr rfl
        · exact .inl rfl
      have hn : net.calls = [] ∨ net.calls = d.calls M U options.session .net := by
        rw [← hnet]
        split
        · exact .inr rfl
        · exact .inl rfl
      split
      · exact ⟨gpu.calls, [], [], by simp, hg, .inl rfl, by simp⟩
      · split
        · exact ⟨gpu.calls, net.calls, [], by simp, hg, hn, by simp⟩
        · split
          · exact ⟨gpu.calls, net.calls, [], by simp, hg, hn, by simp⟩
          · exact ⟨gpu.calls, net.calls, _, List.append_assoc _ _ _, hg, hn, hwithdraw _ _⟩

/-- A daemon writes nothing to a service that it has announced. -/
theorem program_tidy (M : Matchers) (U : Uint128Ops) (d : Daemon) : Tidy (d.program M U) := by
  obtain ⟨g, n, w, hprogram, hg, hn, hw⟩ := program_cases M U d
  have hgpu : Tidy g ∧ ∀ c ∈ g, c.service = .gpu := by
    rcases hg with rfl | rfl
    · exact ⟨List.Pairwise.nil, by simp⟩
    · exact ⟨tidy_calls, service_calls⟩
  have hnet : Tidy n ∧ ∀ c ∈ n, c.service = .net := by
    rcases hn with rfl | rfl
    · exact ⟨List.Pairwise.nil, by simp⟩
    · exact ⟨tidy_calls, service_calls⟩
  have hwithdraw : Tidy w := by
    refine List.Pairwise.imp_of_mem (fun {c _} hc _ _ s heq => ?_) (List.pairwise_of_forall
      (R := fun _ _ => True) fun _ _ => trivial)
    obtain ⟨kind, rfl⟩ := hw c hc
    cases heq
  rw [hprogram]
  refine (hgpu.1.append hnet.1 ?_).append hwithdraw ?_
  · intro s k v hannounce hset
    have hs : s = .gpu := hgpu.2 _ hannounce
    have hs' : s = .net := hnet.2 _ hset
    rw [hs] at hs'
    cases hs'
  · intro s k v _ hset
    obtain ⟨kind, heq⟩ := hw _ hset
    cases heq

/-- Around the announcement of a service nothing is written to it. -/
theorem program_of_announced {kind : Kind} (h : Publish.Call.announce kind ∈ d.program M U) :
    ∃ a b, d.program M U = a ++ d.calls M U d.session kind ++ b ∧
      Publish.Call.announce kind ∈ d.calls M U d.session kind ∧
      writes kind a = [] ∧ writes kind b = [] := by
  obtain ⟨g, n, w, hprogram, hg, hn, hw⟩ := program_cases M U d
  have hw' : writes kind w = [] ∧ Publish.Call.announce kind ∉ w := by
    refine ⟨writes_eq_nil fun k v hset => ?_, fun hannounce => ?_⟩
    · obtain ⟨kind, heq⟩ := hw _ hset
      cases heq
    · obtain ⟨kind, heq⟩ := hw _ hannounce
      cases heq
  rw [hprogram, List.mem_append, List.mem_append] at h
  have hgn := h.resolve_right hw'.2
  cases kind with
  | gpu =>
    have hother : ∀ c ∈ n, c.service ≠ Kind.gpu := by
      intro c hc
      rcases hn with rfl | rfl
      · cases hc
      · simp [service_calls c hc]
    have hmem : Publish.Call.announce Kind.gpu ∈ g :=
      hgn.resolve_right fun hannounce => hother _ hannounce rfl
    have hg' : g = d.calls M U d.session .gpu := hg.resolve_left (List.ne_nil_of_mem hmem)
    refine ⟨[], n ++ w, ?_, hg' ▸ hmem, rfl, ?_⟩
    · rw [hprogram, hg', List.nil_append, List.append_assoc]
    · rw [writes_append, writes_of_other hother, hw'.1, List.append_nil]
  | net =>
    have hother : ∀ c ∈ g, c.service ≠ Kind.net := by
      intro c hc
      rcases hg with rfl | rfl
      · cases hc
      · simp [service_calls c hc]
    have hmem : Publish.Call.announce Kind.net ∈ n :=
      hgn.resolve_left fun hannounce => hother _ hannounce rfl
    have hn' : n = d.calls M U d.session .net := hn.resolve_left (List.ne_nil_of_mem hmem)
    exact ⟨g, w, by rw [hprogram, hn'], hn' ▸ hmem, writes_of_other hother, hw'.1⟩

/-- A daemon that announces a service has written a whole announcement to it, and nothing else. -/
theorem writes_of_announced {kind : Kind} (h : Publish.Call.announce kind ∈ d.program M U) :
    d.hasSome M U kind = true ∧
      writes kind (d.program M U) = spell kind.resource (d.log M U d.session kind) := by
  obtain ⟨a, b, hprogram, hmem, ha, hb⟩ := program_of_announced h
  obtain ⟨hsome, hcalls⟩ := mem_calls hmem
  refine ⟨hsome, ?_⟩
  rw [hprogram, writes_append, writes_append, ha, hb, hcalls, writes_announceCalls, List.nil_append,
    List.append_nil]

/-! ## How the program ends -/

section Announce

variable {ι α : Type} (R : Resource α) (w : World ι α) (stack : List (Registered ι))

/-- The native modules in front print what they find. -/
theorem announceFrom_natives (session : Text) (natives : List ι) (modules : List (Registered ι))
    (s : Impl) : R.announceFrom w stack session (natives.map .native ++ modules) s =
      ⟨(R.announceFrom w stack session modules s).ok,
        (R.announceFrom w stack session modules s).impl,
        natives.flatMap (fun i => (w.infos i).map fun info => .printed (R.setSession session info)) ++
          (R.announceFrom w stack session modules s).events⟩ := by
  induction natives with
  | nil => rfl
  | cons i natives ih =>
    simp only [List.map_cons, List.cons_append, Resource.announceFrom, Resource.announce,
      Bool.not_true, Bool.false_eq_true, if_false]
    rw [ih]
    simp

/-- What a dns_sd announcement does that comes last, and one that comes first. -/
theorem announceFrom_dnsSd (session : Text) (modules : List ι) (s : Impl) :
    (R.announceFrom w stack session (.dnsSd :: modules.map .native) s).ok =
        ((R.announcedInfos w stack).isEmpty || w.announced) ∧
      (R.announceFrom w stack session (.dnsSd :: modules.map .native) s).impl.toModule =
        R.publish session (R.announcedInfos w stack) s.toModule := by
  have hrest := announceFrom_natives R w stack session modules []
  rw [Resource.announceFrom, Resource.announce_dnsSd]
  rw [List.append_nil] at hrest
  cases hok : (R.announcedInfos w stack).isEmpty || w.announced with
  | false => simp
  | true => simp [hrest, Resource.announceFrom]

end Announce

/-- The record that a dns_sd announcement leaves of a service. -/
def published (M : Matchers) (U : Uint128Ops) (d : Daemon) (session : Text) : Kind → Record
  | .gpu =>
    (announceGPUInfos M U d.machine.nodeID d.machine.gpus d.gpuStack session
      ⟨Gpu.fresh, false⟩).impl.service
  | .net =>
    (announceNetInfos M U d.machine.nodeID d.machine.nets netStack session
      ⟨Net.fresh, false⟩).impl.service

theorem published_eq (session : Text) (kind : Kind) : d.published M U session kind =
    setAll (spell kind.resource (d.log M U session kind)) ∅ := by
  cases kind with
  | gpu =>
    rw [published, announceGPUInfos, Resource.announceInfos, gpuStack, announceFrom_natives]
    have h := (announceFrom_dnsSd (gpuResource M U d.machine.nodeID) d.machine.gpus d.gpuStack
      session [] ⟨Gpu.fresh, false⟩).2
    exact (congrArg Module.service h).trans (Gpu.service_announceInfos _ _ _ _)
  | net =>
    have h := (announceFrom_dnsSd (netResource M U d.machine.nodeID) d.machine.nets netStack
      session [.sys] ⟨Net.fresh, false⟩).2
    exact (congrArg Module.service h).trans (Net.service_announceInfos _ _ _ _)

/-- Whether the program goes by a name under which it announces the service. -/
def used (d : Daemon) : Kind → Bool
  | .gpu => d.executable ≠ lit "net_sd"
  | .net => d.executable ≠ lit "gpu_sd"

/-- The announcement of a service that is used fails if there is something that Servus does not
announce. -/
def fails (M : Matchers) (U : Uint128Ops) (d : Daemon) (kind : Kind) : Bool :=
  d.used kind && d.hasSome M U kind && !d.announced kind

/-- Both halves of the program in terms of their calls. -/
def usedCalls (M : Matchers) (U : Uint128Ops) (d : Daemon) (session : Text) (kind : Kind) :
    List ServusCall :=
  if d.used kind then d.calls M U session kind else []

def usedWithdraw (d : Daemon) (kind : Kind) : List ServusCall :=
  if d.used kind then [.withdraw kind] else []

theorem gpuHalf_ok (session : Text) : (d.gpuHalf M U session).ok =
    !(d.hasSome M U .gpu && !d.announced .gpu) := by
  have h := (announceFrom_dnsSd (gpuResource M U d.machine.nodeID) d.machine.gpus d.gpuStack
    session [] ⟨Gpu.fresh, false⟩).1
  simp only [gpuHalf, announceGPUInfos, Resource.announceInfos]
  rw [gpuStack, announceFrom_natives]
  refine h.trans ?_
  simp [hasSome, gpus, announced]

theorem netHalf_ok (session : Text) : (d.netHalf M U session).ok =
    !(d.hasSome M U .net && !d.announced .net) := by
  have h := (announceFrom_dnsSd (netResource M U d.machine.nodeID) d.machine.nets netStack
    session [.sys] ⟨Net.fresh, false⟩).1
  refine h.trans ?_
  simp [hasSome, nets, announced]

/-- The program behind its options. -/
theorem main_run {o : DaemonOptions} (ho : d.options = some o) (hrun : (o.help || o.version) = false) :
    (d.main M U).1 = (if d.fails M U .gpu || d.fails M U .net then .failure
        else if o.daemon then .never else .success) ∧
      d.program M U = d.usedCalls M U o.session .gpu ++
        (if d.fails M U .gpu then [] else d.usedCalls M U o.session .net ++
          if d.fails M U .net || o.daemon then [] else
            d.usedWithdraw .gpu ++ d.usedWithdraw .net) := by
  generalize hgpu : (if d.executable ≠ lit "net_sd" then d.gpuHalf M U o.session
    else Half.skip) = gpu
  generalize hnet : (if d.executable ≠ lit "gpu_sd" then d.netHalf M U o.session
    else Half.skip) = net
  have hg : gpu.ok = !d.fails M U .gpu ∧ gpu.calls = d.usedCalls M U o.session .gpu := by
    rw [← hgpu]
    by_cases hexe : d.executable = lit "net_sd"
    · simp [hexe, Half.skip, fails, usedCalls, used]
    · have hused : d.used .gpu = true := by simp [used, hexe]
      rw [if_pos hexe, gpuHalf_ok, fails, usedCalls, hused, Bool.true_and, if_pos rfl]
      exact ⟨rfl, rfl⟩
  have hn : net.ok = !d.fails M U .net ∧ net.calls = d.usedCalls M U o.session .net := by
    rw [← hnet]
    by_cases hexe : d.executable = lit "gpu_sd"
    · simp [hexe, Half.skip, fails, usedCalls, used]
    · have hused : d.used .net = true := by simp [used, hexe]
      rw [if_pos hexe, netHalf_ok, fails, usedCalls, hused, Bool.true_and, if_pos rfl]
      exact ⟨rfl, rfl⟩
  unfold program main
  rw [ho]
  simp only [hrun, hgpu, hnet, hg, hn]
  cases d.fails M U .gpu <;> cases d.fails M U .net <;> cases o.daemon <;>
    simp [usedWithdraw, used]

/-- Of the two halves of the program one is about each service. -/
theorem filter_usedCalls (session : Text) (kind kind' : Kind) :
    ((d.usedCalls M U session kind').filter fun c => c.service = kind) =
      if kind' = kind then d.usedCalls M U session kind' else [] := by
  have hservice : ∀ c ∈ d.usedCalls M U session kind', c.service = kind' := by
    unfold usedCalls
    split
    · exact service_calls
    · simp
  split
  · rename_i hkind
    refine List.filter_eq_self.mpr fun c hc => ?_
    simp [hservice c hc, hkind]
  · rename_i hkind
    refine List.filter_eq_nil_iff.mpr fun c hc => ?_
    simp [hservice c hc, hkind]

theorem filter_usedWithdraw (kind kind' : Kind) :
    ((d.usedWithdraw kind').filter fun c => c.service = kind) =
      if kind' = kind then d.usedWithdraw kind' else [] := by
  unfold usedWithdraw
  split
  · by_cases hkind : kind' = kind <;> simp [hkind, Publish.Call.service]
  · simp

/-- What an announcement that does not fail makes of a service. -/
theorem performAll_usedCalls (session : Text) {kind : Kind} (h : d.fails M U kind = false) :
    performAll (fun _ => Service.idle) (d.usedCalls M U session kind) kind =
      if d.used kind && d.hasSome M U kind then ⟨d.published M U session kind, true⟩
      else Service.idle := by
  unfold usedCalls calls
  cases hused : d.used kind with
  | false => rfl
  | true =>
    cases hsome : d.hasSome M U kind with
    | false => rfl
    | true =>
      have hannounced : d.announced kind = true := by simpa [fails, hused, hsome] using h
      have hrecord := record_performAll (fun _ => Service.idle)
        (announceCalls kind kind.resource (d.log M U session kind) true) kind
      rw [writes_announceCalls] at hrecord
      have hflag : (performAll (fun _ => Service.idle)
          (announceCalls kind kind.resource (d.log M U session kind) true) kind).announced = true := by
        rw [announceCalls, if_pos rfl, performAll_append]
        simp [perform]
      simp only [hannounced, Bool.and_self, if_true]
      rw [published_eq]
      generalize performAll (fun _ => Service.idle)
        (announceCalls kind kind.resource (d.log M U session kind) true) kind = s at hrecord hflag
      cases s
      simp_all [Service.idle]

/-- The program fails if its command line or one of its announcements does. -/
theorem main_failure_iff (M : Matchers) (U : Uint128Ops) (d : Daemon) :
    (d.main M U).1 = .failure ↔ d.options = none ∨ ∃ o, d.options = some o ∧
      (o.help || o.version) = false ∧ ∃ kind, d.fails M U kind = true := by
  cases ho : d.options with
  | none => simp [main, ho]
  | some o =>
    simp only [reduceCtorEq, false_or, Option.some.injEq, exists_eq_left']
    cases hrun : o.help || o.version with
    | true => simp [main, ho, hrun]
    | false =>
      rw [(main_run ho hrun).1]
      have hexists : (∃ kind, d.fails M U kind = true) ↔
          (d.fails M U .gpu || d.fails M U .net) = true := by
        rw [Bool.or_eq_true]
        constructor
        · rintro ⟨_ | _, hkind⟩
          · exact .inl hkind
          · exact .inr hkind
        · rintro (h | h)
          · exact ⟨_, h⟩
          · exact ⟨_, h⟩
      rw [hexists]
      cases d.fails M U .gpu || d.fails M U .net <;> cases o.daemon <;> simp

/-- The calls of a program that waits, or has ended well. -/
theorem program_of_not_failure (h : (d.main M U).1 ≠ .failure) :
    d.program M U = [] ∧ (d.main M U).1 = .success ∨
      (∀ kind, d.fails M U kind = false) ∧
        d.program M U = d.usedCalls M U d.session .gpu ++ d.usedCalls M U d.session .net ++
          if (d.main M U).1 = .never then [] else d.usedWithdraw .gpu ++ d.usedWithdraw .net := by
  rw [ne_eq, main_failure_iff, not_or] at h
  obtain ⟨hne, hfails⟩ := h
  obtain ⟨o, ho⟩ := Option.ne_none_iff_exists'.mp hne
  cases hrun : o.help || o.version with
  | true =>
    have hmain : d.main M U = (.success, [], []) := by simp [main, ho, hrun]
    exact .inl ⟨by rw [program, hmain], by rw [hmain]⟩
  | false =>
    have hfine : ∀ kind, d.fails M U kind = false := by
      intro kind
      by_contra hkind
      rw [Bool.not_eq_false] at hkind
      exact hfails ⟨o, ho, hrun, kind, hkind⟩
    have hsession : d.session = o.session := by
      rw [session, ho]
      rfl
    obtain ⟨hexit, hprogram⟩ := main_run (M := M) (U := U) ho hrun
    refine .inr ⟨hfine, ?_⟩
    rw [hprogram, hexit, hsession, hfine .gpu, hfine .net]
    cases o.daemon <;> simp

/-- While the program waits it serves the announcements of all that it has found, each under the name
that it goes by; when it has ended well it serves nothing. -/
theorem serves (M : Matchers) (U : Uint128Ops) (d : Daemon) (kind : Kind) :
    ((d.main M U).1 = .never → performAll (fun _ => Service.idle) (d.program M U) kind =
      if d.used kind && d.hasSome M U kind then ⟨d.published M U d.session kind, true⟩
      else Service.idle) ∧
    ((d.main M U).1 = .success →
      (performAll (fun _ => Service.idle) (d.program M U) kind).announced = false) := by
  constructor
  · intro hexit
    rcases program_of_not_failure (d := d) (M := M) (U := U) (by simp [hexit]) with
      ⟨_, hsuccess⟩ | ⟨hfine, hprogram⟩
    · rw [hexit] at hsuccess
      cases hsuccess
    · rw [hprogram, hexit, if_pos rfl, List.append_nil, performAll_filter, List.filter_append,
        filter_usedCalls, filter_usedCalls, ← performAll_usedCalls d.session (hfine kind)]
      cases kind <;> simp
  · intro hexit
    rcases program_of_not_failure (d := d) (M := M) (U := U) (by simp [hexit]) with
      ⟨hprogram, _⟩ | ⟨hfine, hprogram⟩
    · rw [hprogram]
      rfl
    · have hkind : (d.program M U).filter (fun c => c.service = kind) =
          d.usedCalls M U d.session kind ++ d.usedWithdraw kind := by
        rw [hprogram, hexit, if_neg (by simp), List.filter_append, List.filter_append,
          List.filter_append, filter_usedCalls, filter_usedCalls, filter_usedWithdraw,
          filter_usedWithdraw]
        cases kind <;> simp
      rw [performAll_filter, hkind, performAll_append]
      have hservice := performAll_usedCalls d.session (hfine kind)
      cases hused : d.used kind with
      | false =>
        rw [hused, Bool.false_and, if_neg (by simp)] at hservice
        rw [usedWithdraw, hused, if_neg (by simp), performAll_nil, hservice]
        rfl
      | true => simp [usedWithdraw, hused, perform]

/-- A program that waits withdraws nothing. -/
theorem withdraw_not_mem (h : (d.main M U).1 = .never) (kind : Kind) :
    Publish.Call.withdraw kind ∉ d.program M U := by
  rcases program_of_not_failure (d := d) (M := M) (U := U) (by simp [h]) with
    ⟨_, hsuccess⟩ | ⟨_, hprogram⟩
  · rw [h] at hsuccess
    cases hsuccess
  · have hno : ∀ kind', Publish.Call.withdraw kind ∉ d.usedCalls M U d.session kind' := by
      intro kind' hmem
      unfold usedCalls at hmem
      split at hmem
      · have heq := (mem_calls hmem).2
        rw [heq] at hmem
        rcases mem_announceCalls hmem with ⟨k, v, hset⟩ | ⟨hannounce, _⟩
        · cases hset
        · cases hannounce
      · cases hmem
    rw [hprogram, h, if_pos rfl, List.append_nil, List.mem_append, not_or]
    exact ⟨hno .gpu, hno .net⟩

end Daemon

end Hwsd
