import Mathlib.Data.List.Chain
import Mathlib.Logic.Relation
import Hwsd.Lib.Store

/-!
# Hwsd.Lib.Publish

Processes that publish records of keys and values, each under a name of its own: a process fills the
record of a service key by key and then announces it, while all other processes do the same, start,
and go away at any time.

* `Step program`: one step of the network. `tag` says which program a process runs; a process that
  has gone may be followed by another one under the same name.
* `sent_of_reachable`: what a process has done so far is a beginning of its program, by induction on
  the run.
* `Tidy`: a program that writes nothing to a service once it is announced. `visible_complete`: with
  such programs a record that can be seen is always complete, whatever the interleaving.
* `OwnCall`: a step that is the next call of one process. `can_announce`: nothing that the others have
  done keeps a process from announcing by its own calls.
* `Browsed`: what a browse may find that takes some steps of the network. `Browsed.found`: whom it
  finds, and whom it cannot miss.
-/

namespace Publish

open KvStore

variable {ι τ σ κ ν : Type*}

/-- What a process asks of a service. -/
inductive Call (σ κ ν : Type*) where
  | set (service : σ) (key : κ) (value : ν)
  | announce (service : σ)
  | withdraw (service : σ)
deriving DecidableEq

/-- The service that is asked. -/
def Call.service : Call σ κ ν → σ
  | .set s _ _ => s
  | .announce s => s
  | .withdraw s => s

structure Service (κ ν : Type*) where
  record : Store κ ν
  announced : Bool

/-- A service before the first call. -/
def Service.idle : Service κ ν := ⟨∅, false⟩

/-- A process: what it runs, its services, and the calls that it has not made yet. -/
structure Process (τ σ κ ν : Type*) where
  tag : τ
  services : σ → Service κ ν
  todo : List (Call σ κ ν)

abbrev Network (ι τ σ κ ν : Type*) := ι → Option (Process τ σ κ ν)

/-- The record that can be seen of a service under a name. -/
def visible (n : Network ι τ σ κ ν) (s : σ) (i : ι) : Option (Store κ ν) :=
  (n i).bind fun p => if (p.services s).announced then some (p.services s).record else none

variable [DecidableEq σ] [DecidableEq κ]

def perform (services : σ → Service κ ν) : Call σ κ ν → σ → Service κ ν
  | .set s k v =>
    Function.update services s { services s with record := (services s).record.insert k v }
  | .announce s => Function.update services s { services s with announced := true }
  | .withdraw s => Function.update services s { services s with announced := false }

def performAll (services : σ → Service κ ν) (calls : List (Call σ κ ν)) : σ → Service κ ν :=
  calls.foldl perform services

omit [DecidableEq κ] in
/-- The writes to one service. -/
def writes (s : σ) : List (Call σ κ ν) → List (κ × ν)
  | [] => []
  | .set s' k v :: calls => if s' = s then (k, v) :: writes s calls else writes s calls
  | _ :: calls => writes s calls

/-! ## Calls of one process -/

section Calls

variable {s : σ} {calls : List (Call σ κ ν)}

@[simp] theorem performAll_nil (services : σ → Service κ ν) : performAll services [] = services := rfl

@[simp] theorem performAll_cons (services : σ → Service κ ν) (c : Call σ κ ν)
    (calls : List (Call σ κ ν)) :
    performAll services (c :: calls) = performAll (perform services c) calls := rfl

theorem performAll_append (services : σ → Service κ ν) (calls calls' : List (Call σ κ ν)) :
    performAll services (calls ++ calls') = performAll (performAll services calls) calls' :=
  List.foldl_append

omit [DecidableEq κ] in
theorem writes_append (s : σ) (calls calls' : List (Call σ κ ν)) :
    writes s (calls ++ calls') = writes s calls ++ writes s calls' := by
  induction calls with
  | nil => rfl
  | cons c calls ih =>
    cases c with
    | set s' k v =>
      rw [List.cons_append, writes, writes, ih]
      split <;> rfl
    | announce s' => exact ih
    | withdraw s' => exact ih

omit [DecidableEq κ] in
theorem writes_eq_nil (h : ∀ k v, Call.set s k v ∉ calls) : writes s calls = [] := by
  induction calls with
  | nil => rfl
  | cons c calls ih =>
    have htail : writes s calls = [] := ih fun k v hm => h k v (List.mem_cons_of_mem c hm)
    cases c with
    | set s' k v =>
      rw [writes, if_neg, htail]
      rintro rfl
      exact h k v (by simp)
    | announce s' => exact htail
    | withdraw s' => exact htail

omit [DecidableEq κ] in
theorem writes_of_other (h : ∀ c ∈ calls, c.service ≠ s) : writes s calls = [] :=
  writes_eq_nil fun _ _ hset => h _ hset rfl

theorem perform_of_other {services : σ → Service κ ν} {c : Call σ κ ν} (h : c.service ≠ s) :
    perform services c s = services s := by
  cases c with
  | set s' k v => exact Function.update_of_ne (Ne.symm h) _ _
  | announce s' => exact Function.update_of_ne (Ne.symm h) _ _
  | withdraw s' => exact Function.update_of_ne (Ne.symm h) _ _

theorem perform_congr {services services' : σ → Service κ ν} (h : services s = services' s)
    (c : Call σ κ ν) : perform services c s = perform services' c s := by
  by_cases hs : c.service = s
  · subst hs
    cases c <;> simp_all [perform, Call.service]
  · rw [perform_of_other hs, perform_of_other hs, h]

theorem performAll_congr {services services' : σ → Service κ ν} (h : services s = services' s)
    (calls : List (Call σ κ ν)) : performAll services calls s = performAll services' calls s := by
  induction calls generalizing services services' with
  | nil => exact h
  | cons c calls ih => exact ih (perform_congr h c)

/-- A service sees its own calls only. -/
theorem performAll_filter (services : σ → Service κ ν) (calls : List (Call σ κ ν)) (s : σ) :
    performAll services calls s = performAll services (calls.filter fun c => c.service = s) s := by
  induction calls generalizing services with
  | nil => rfl
  | cons c calls ih =>
    rw [performAll_cons, ih]
    by_cases hs : c.service = s
    · rw [List.filter_cons_of_pos (by simpa using hs), performAll_cons]
    · rw [List.filter_cons_of_neg (by simpa using hs)]
      exact performAll_congr (perform_of_other hs) _

/-- The record of a service holds what was written to it, whatever was announced meanwhile. -/
theorem record_performAll (services : σ → Service κ ν) (calls : List (Call σ κ ν)) (s : σ) :
    (performAll services calls s).record = setAll (writes s calls) (services s).record := by
  induction calls generalizing services with
  | nil => rfl
  | cons c calls ih =>
    rw [performAll_cons, ih]
    by_cases hs : c.service = s
    · subst hs
      cases c <;> simp [perform, writes, Call.service]
    · have hc : writes s [c] = [] := writes_of_other fun d hd => by rwa [List.mem_singleton.mp hd]
      rw [perform_of_other hs, ← List.singleton_append, writes_append, hc, List.nil_append]

theorem mem_of_announced {services : σ → Service κ ν} (hidle : (services s).announced = false)
    (h : (performAll services calls s).announced = true) : Call.announce s ∈ calls := by
  induction calls generalizing services with
  | nil =>
    rw [performAll_nil, hidle] at h
    cases h
  | cons c calls ih =>
    by_cases hc : c = Call.announce s
    · simp [hc]
    · have hstill : (perform services c s).announced = false := by
        by_cases hs : c.service = s
        · subst hs
          cases c with
          | set s' k v => simpa [perform, Call.service] using hidle
          | announce s' => exact absurd rfl hc
          | withdraw s' => simp [perform, Call.service]
        · rw [perform_of_other hs, hidle]
      exact List.mem_cons_of_mem c (ih hstill h)

theorem announced_of_mem {services : σ → Service κ ν} (h : Call.announce s ∈ calls)
    (hw : Call.withdraw s ∉ calls) : (performAll services calls s).announced = true := by
  have hstays : ∀ (calls : List (Call σ κ ν)) (f : σ → Service κ ν), (f s).announced = true →
      Call.withdraw s ∉ calls → (performAll f calls s).announced = true := by
    intro calls
    induction calls with
    | nil => exact fun f hf _ => hf
    | cons c calls ih =>
      intro f hf hw
      rw [List.mem_cons, not_or] at hw
      refine ih _ ?_ hw.2
      by_cases hs : c.service = s
      · subst hs
        cases c with
        | set s' k v => simpa [perform, Call.service] using hf
        | announce s' => simp [perform, Call.service]
        | withdraw s' => exact absurd rfl hw.1
      · rw [perform_of_other hs, hf]
  obtain ⟨before, after, rfl⟩ := List.append_of_mem h
  rw [performAll_append, performAll_cons]
  rw [List.mem_append, List.mem_cons, not_or, not_or] at hw
  exact hstays after _ (by simp [perform]) hw.2.2

/-- A program that writes nothing to a service once it is announced. -/
def Tidy (calls : List (Call σ κ ν)) : Prop :=
  calls.Pairwise fun c d => ∀ s, c = Call.announce s → ∀ k v, d ≠ Call.set s k v

omit [DecidableEq σ] [DecidableEq κ] in
theorem Tidy.append {calls calls' : List (Call σ κ ν)} (h : Tidy calls) (h' : Tidy calls')
    (hset : ∀ s k v, Call.announce s ∈ calls → Call.set s k v ∉ calls') : Tidy (calls ++ calls') := by
  refine List.pairwise_append.mpr ⟨h, h', ?_⟩
  rintro c hc d hd s rfl k v rfl
  exact hset s k v hc hd

/-- Whatever of a tidy program has been done when a service is announced, its writes are all made. -/
theorem record_of_announced {made todo : List (Call σ κ ν)} (htidy : Tidy (made ++ todo))
    (h : (performAll (fun _ => Service.idle) made s).announced = true) :
    (performAll (fun _ => Service.idle) made s).record = setAll (writes s (made ++ todo)) ∅ := by
  have hmem : Call.announce s ∈ made := mem_of_announced rfl h
  have hrest : writes s todo = [] := by
    refine writes_eq_nil fun k v hset => ?_
    exact (List.pairwise_append.mp htidy).2.2 _ hmem _ hset s rfl k v rfl
  rw [record_performAll, writes_append, hrest, List.append_nil]
  rfl

end Calls

/-! ## The network -/

variable [DecidableEq ι] {program : τ → List (Call σ κ ν)}

inductive Step (program : τ → List (Call σ κ ν)) :
    Network ι τ σ κ ν → Network ι τ σ κ ν → Prop
  | start {n : Network ι τ σ κ ν} {i : ι} (tag : τ) : n i = none →
      Step program n (Function.update n i (some ⟨tag, fun _ => Service.idle, program tag⟩))
  | call {n : Network ι τ σ κ ν} {i : ι} {p : Process τ σ κ ν} {c : Call σ κ ν}
      {todo : List (Call σ κ ν)} : n i = some p → p.todo = c :: todo →
      Step program n (Function.update n i (some ⟨p.tag, perform p.services c, todo⟩))
  | exit {n : Network ι τ σ κ ν} (i : ι) : Step program n (Function.update n i none)

/-- What some run from the network without processes leads to. -/
def Reachable (program : τ → List (Call σ κ ν)) : Network ι τ σ κ ν → Prop :=
  Relation.ReflTransGen (Step program) fun _ => none

/-- A process that has made the first calls of its program. -/
def Sent (program : τ → List (Call σ κ ν)) (p : Process τ σ κ ν) : Prop :=
  ∃ made, program p.tag = made ++ p.todo ∧ p.services = performAll (fun _ => Service.idle) made

theorem sent_step {n n' : Network ι τ σ κ ν} (hstep : Step program n n')
    (h : ∀ i p, n i = some p → Sent program p) : ∀ i p, n' i = some p → Sent program p := by
  intro j q hq
  cases hstep with
  | @start i tag hi =>
    by_cases hj : j = i
    · subst hj
      rw [Function.update_self, Option.some.injEq] at hq
      subst hq
      exact ⟨[], rfl, rfl⟩
    · rw [Function.update_of_ne hj] at hq
      exact h j q hq
  | @call i p c todo hi htodo =>
    by_cases hj : j = i
    · subst hj
      rw [Function.update_self, Option.some.injEq] at hq
      subst hq
      obtain ⟨made, hprogram, hservices⟩ := h j p hi
      refine ⟨made ++ [c], ?_, ?_⟩
      · rw [hprogram, htodo, List.append_assoc, List.singleton_append]
      · rw [performAll_append, ← hservices]
        rfl
    · rw [Function.update_of_ne hj] at hq
      exact h j q hq
  | exit i =>
    by_cases hj : j = i
    · subst hj
      rw [Function.update_self] at hq
      cases hq
    · rw [Function.update_of_ne hj] at hq
      exact h j q hq

theorem sent_of_reachable {n : Network ι τ σ κ ν} (h : Reachable program n) :
    ∀ i p, n i = some p → Sent program p := by
  induction h with
  | refl =>
    intro i p hp
    cases hp
  | tail _ hstep ih => exact sent_step hstep ih

omit [DecidableEq σ] [DecidableEq κ] [DecidableEq ι] in
theorem visible_eq_some {n : Network ι τ σ κ ν} {s : σ} {i : ι} {r : Store κ ν} :
    visible n s i = some r ↔
      ∃ p, n i = some p ∧ (p.services s).announced = true ∧ (p.services s).record = r := by
  rw [visible, Option.bind_eq_some_iff]
  refine exists_congr fun p => and_congr_right fun _ => ?_
  split
  · rename_i h
    simp [h]
  · rename_i h
    simp [h]

/-- A process that runs `tag` can be seen with the service. -/
def Serving (n : Network ι τ σ κ ν) (s : σ) (i : ι) (tag : τ) : Prop :=
  ∃ p, n i = some p ∧ p.tag = tag ∧ (p.services s).announced = true

/-- In every reachable network a record that can be seen is that of a whole program. -/
theorem visible_complete (htidy : ∀ tag, Tidy (program tag)) {n : Network ι τ σ κ ν}
    (h : Reachable program n) {s : σ} {i : ι} {r : Store κ ν} (hr : visible n s i = some r) :
    ∃ tag, Serving n s i tag ∧ r = setAll (writes s (program tag)) ∅ := by
  obtain ⟨p, hp, hannounced, rfl⟩ := visible_eq_some.mp hr
  obtain ⟨made, hprogram, hservices⟩ := sent_of_reachable h i p hp
  refine ⟨p.tag, ⟨p, hp, rfl, hannounced⟩, ?_⟩
  have ht := htidy p.tag
  rw [hservices] at hannounced ⊢
  rw [hprogram] at ht ⊢
  exact record_of_announced ht hannounced

theorem visible_of_serving (htidy : ∀ tag, Tidy (program tag)) {n : Network ι τ σ κ ν}
    (h : Reachable program n) {s : σ} {i : ι} {tag : τ} (hs : Serving n s i tag) :
    visible n s i = some (setAll (writes s (program tag)) ∅) := by
  obtain ⟨p, hp, rfl, hannounced⟩ := hs
  have hr : visible n s i = some (p.services s).record :=
    visible_eq_some.mpr ⟨p, hp, hannounced, rfl⟩
  obtain ⟨tag, ⟨q, hq, rfl, _⟩, hrecord⟩ := visible_complete htidy h hr
  rw [hp, Option.some.injEq] at hq
  subst hq
  rw [hr, hrecord]

/-- A service is announced only by a program that says so. -/
theorem announce_mem_of_serving {n : Network ι τ σ κ ν} (h : Reachable program n) {s : σ} {i : ι}
    {tag : τ} (hs : Serving n s i tag) : Call.announce s ∈ program tag := by
  obtain ⟨p, hp, rfl, hannounced⟩ := hs
  obtain ⟨made, hprogram, hservices⟩ := sent_of_reachable h i p hp
  rw [hservices] at hannounced
  rw [hprogram]
  exact List.mem_append_left _ (mem_of_announced rfl hannounced)

/-- The process under the name `i` makes its next call. -/
def OwnCall (i : ι) (n n' : Network ι τ σ κ ν) : Prop :=
  ∃ p c todo, n i = some p ∧ p.todo = c :: todo ∧
    n' = Function.update n i (some ⟨p.tag, perform p.services c, todo⟩)

theorem step_of_ownCall {n n' : Network ι τ σ κ ν} {i : ι} (h : OwnCall i n n') :
    Step program n n' := by
  obtain ⟨p, c, todo, hp, htodo, rfl⟩ := h
  exact Step.call hp htodo

/-- A process makes its next calls with the others standing still. -/
theorem performs {n : Network ι τ σ κ ν} {i : ι} {p : Process τ σ κ ν} {calls todo : List (Call σ κ ν)}
    (hp : n i = some p) (htodo : p.todo = calls ++ todo) :
    Relation.ReflTransGen (OwnCall i) n
      (Function.update n i (some ⟨p.tag, performAll p.services calls, todo⟩)) := by
  induction calls generalizing n p with
  | nil =>
    have hsame : Function.update n i (some ⟨p.tag, performAll p.services [], todo⟩) = n := by
      rw [Function.update_eq_self_iff, hp, performAll_nil, ← List.nil_append todo, ← htodo]
    rw [hsame]
  | cons c calls ih =>
    have hcall : OwnCall i n (Function.update n i
        (some ⟨p.tag, perform p.services c, calls ++ todo⟩)) := ⟨p, c, _, hp, htodo, rfl⟩
    have hrest := ih (Function.update_self i (some ⟨p.tag, perform p.services c, calls ++ todo⟩) n)
      rfl
    rw [Function.update_idem] at hrest
    exact Relation.ReflTransGen.head hcall hrest

theorem steps_of_ownCalls {n n' : Network ι τ σ κ ν} {i : ι}
    (h : Relation.ReflTransGen (OwnCall i) n n') : Relation.ReflTransGen (Step program) n n' :=
  Relation.ReflTransGen.mono (fun _ _ => step_of_ownCall) n n' h

/-- A process may be the only one that ever runs. -/
theorem reachable_alone (i : ι) (tag : τ) :
    Reachable program (Function.update (fun _ => none) i
      (some ⟨tag, performAll (fun _ => Service.idle) (program tag), []⟩)) := by
  have hstart : Step program (fun _ => none) (Function.update (fun _ => none) i
      (some ⟨tag, fun _ => Service.idle, program tag⟩)) := Step.start tag rfl
  have hrun := performs
    (Function.update_self i (some ⟨tag, fun _ => Service.idle, program tag⟩) fun _ : ι => none)
    (List.append_nil _).symm
  rw [Function.update_idem] at hrun
  exact Relation.ReflTransGen.head hstart (steps_of_ownCalls hrun)

/-- Nothing that has happened keeps a process from announcing: unless its program withdraws the
service, its own remaining calls lead to its complete record, and all other processes stay as they
are. -/
theorem can_announce (htidy : ∀ tag, Tidy (program tag)) {n : Network ι τ σ κ ν}
    (h : Reachable program n) {i : ι} {p : Process τ σ κ ν} {s : σ} (hp : n i = some p)
    (hannounce : Call.announce s ∈ program p.tag) (hwithdraw : Call.withdraw s ∉ program p.tag) :
    ∃ n', Relation.ReflTransGen (OwnCall i) n n' ∧ Serving n' s i p.tag ∧
      visible n' s i = some (setAll (writes s (program p.tag)) ∅) ∧ ∀ j, j ≠ i → n' j = n j := by
  obtain ⟨made, hprogram, hservices⟩ := sent_of_reachable h i p hp
  have hrun := performs hp (List.append_nil p.todo).symm
  have hall : performAll p.services p.todo = performAll (fun _ => Service.idle) (program p.tag) := by
    rw [hservices, ← performAll_append, hprogram]
  rw [hall] at hrun
  have hserving : Serving (Function.update n i (some ⟨p.tag,
      performAll (fun _ => Service.idle) (program p.tag), []⟩)) s i p.tag :=
    ⟨_, Function.update_self i _ n, rfl, announced_of_mem hannounce hwithdraw⟩
  have hreach : Reachable program _ := h.trans (steps_of_ownCalls hrun)
  exact ⟨_, hrun, hserving, visible_of_serving htidy hreach hserving,
    fun j hj => Function.update_of_ne hj _ _⟩

/-! ## Browsing -/

/-- Consecutive states of the network, as they are passed while something else is done. -/
structure Window (program : τ → List (Call σ κ ν)) (states : List (Network ι τ σ κ ν)) : Prop where
  chain : states.IsChain (Step program)
  reachable : ∀ n ∈ states.head?, Reachable program n

theorem Window.reachable_of_mem {states : List (Network ι τ σ κ ν)} (h : Window program states) :
    ∀ n ∈ states, Reachable program n := by
  obtain ⟨hchain, hhead⟩ := h
  induction states with
  | nil => simp
  | cons m states ih =>
    have hm : Reachable program m := hhead m rfl
    rw [List.forall_mem_cons]
    refine ⟨hm, ih hchain.tail ?_⟩
    intro n hn
    cases states with
    | nil => cases hn
    | cons n' states =>
      obtain rfl : n' = n := Option.some.inj hn
      exact hm.tail (List.isChain_cons_cons.mp hchain).1

/-- What a browse finds that takes the time of the window: for a name in its scope something that
could be seen at some moment, and all that could be seen all the time. -/
structure Browsed (states : List (Network ι τ σ κ ν)) (scope : Set ι) (s : σ)
    (sn : Store ι (Store κ ν)) : Prop where
  in_scope : ∀ i ∈ sn, i ∈ scope
  sound : ∀ i r, sn.lookup i = some r → ∃ n ∈ states, visible n s i = some r
  complete : ∀ i ∈ scope, (∀ n ∈ states, (visible n s i).isSome) → i ∈ sn

/-- The names that a browse finds, with what is run under them. A program that could be seen all the
time is found, and nothing else under its name. -/
theorem Browsed.found (htidy : ∀ tag, Tidy (program tag)) {states : List (Network ι τ σ κ ν)}
    (hwindow : Window program states) {scope : Set ι} {s : σ} {sn : Store ι (Store κ ν)}
    (h : Browsed states scope s sn) :
    ∃ found : List (ι × τ), sn.entries = found.map (fun f =>
        ⟨f.1, setAll (writes s (program f.2)) ∅⟩) ∧
      (∀ f ∈ found, f.1 ∈ scope ∧ ∃ n ∈ states, Serving n s f.1 f.2) ∧
      ∀ i ∈ scope, ∀ tag, (∀ n ∈ states, Serving n s i tag) → (i, tag) ∈ found := by
  have hfound : ∀ e ∈ sn.entries, ∃ tag, e.2 = setAll (writes s (program tag)) ∅ ∧
      ∃ n ∈ states, Serving n s e.1 tag := by
    intro e he
    obtain ⟨n, hn, hr⟩ := h.sound e.1 e.2 (AList.mem_lookup_iff.mpr he)
    obtain ⟨tag, hserving, hrecord⟩ := visible_complete htidy (hwindow.reachable_of_mem n hn) hr
    exact ⟨tag, hrecord, n, hn, hserving⟩
  choose tagOf htag using hfound
  refine ⟨sn.entries.attach.map fun e => (e.1.1, tagOf e.1 e.2), ?_, ?_, ?_⟩
  · rw [List.map_map]
    conv_lhs => rw [← List.attach_map_subtype_val sn.entries]
    refine List.map_congr_left fun e _ => ?_
    rw [Function.comp, ← (htag e.1 e.2).1]
  · rw [List.forall_mem_map]
    intro e _
    have hmem : e.1.1 ∈ sn := AList.mem_keys.mpr (List.mem_map_of_mem e.2)
    exact ⟨h.in_scope e.1.1 hmem, (htag e.1 e.2).2⟩
  · intro i hi tag hall
    have hmem : i ∈ sn := by
      refine h.complete i hi fun n hn => ?_
      rw [visible_of_serving htidy (hwindow.reachable_of_mem n hn) (hall n hn)]
      rfl
    obtain ⟨e, he, rfl⟩ := List.mem_map.mp (AList.mem_keys.mp hmem)
    refine List.mem_map.mpr ⟨⟨e, he⟩, List.mem_attach _ _, ?_⟩
    -- the moment at which the record was seen belongs to the window, so `tag` was run then
    obtain ⟨n, hn, p, hp, hptag, _⟩ := (htag e he).2
    obtain ⟨q, hq, hqtag, _⟩ := hall n hn
    rw [hp, Option.some.injEq] at hq
    rw [← hptag, hq, hqtag]

end Publish
