import Hwsd.Lib.Store
import Hwsd.Info.Node

/-!
# Hwsd.DnsSd.Module

`hwsd::detail::dns_sd::Module` (`detail/dns_sd_module.h`): the text record that both dns_sd
modules publish through Servus and read back from a browse.

Servus is seen as what its calls say: `set` overwrites one key of the own record, a browse returns
the host names in a fixed order with a record for each, and `get` of a missing key or host is the
empty text.

A key is spelled from a `Slot`: a global key, a key of the resource, or a key of the numbered
entries of the resource. `Slot.text_inj` says that spellings never alias, so a record can be read
as a table of slots (`lookup_spell`).
-/

namespace Hwsd
namespace DnsSd

open CxxStream KvStore

abbrev Record := Store Text Text

/-- What one browse finds: a record for each host. -/
abbrev Snapshot := Store Text Record

/-- `servus::Servus::get`. -/
def get (sn : Snapshot) (host key : Text) : Text :=
  ((sn.lookup host).bind fun r => r.lookup key).getD []

def NODEID : Text := lit "NodeID"
def NODENAME : Text := lit "Hostname"
def SESSION : Text := lit "Session"

/-- The three ways in which `getValue` and `setValue` spell a key. -/
inductive Slot where
  | global (key : Text)
  | plain (key : Text)
  | indexed (index : Nat) (key : Text)
deriving DecidableEq

def Slot.text (resource : Text) : Slot → Text
  | .global key => key
  | .plain key => resource ++ lit " " ++ key
  | .indexed index key => resource ++ putNat index ++ lit " " ++ key

def getValue {τ : Type} (extract : Text → τ → τ) (resource : Text) (sn : Snapshot) (host : Text)
    (slot : Slot) (value : τ) : Bool × τ :=
  let data := get sn host (slot.text resource)
  if data = [] then (false, value) else (true, extract data value)

structure Module where
  service : Record
  resource : Text

namespace Module

def setValue {τ : Type} (m : Module) (put : τ → Text) (slot : Slot) (value : τ) : Module :=
  { m with service := m.service.insert (slot.text m.resource) (put value) }

def announce (U : Uint128Ops) (m : Module) (info : NodeInfo) : Module :=
  let m := m.setValue U.put (.global NODEID) info.id
  let m := m.setValue putText (.global NODENAME) info.nodeName
  m.setValue putText (.global SESSION) info.session

end Module

/-- `Module::discover`. -/
def discoverNode (U : Uint128Ops) (resource : Text) (sn : Snapshot) (host : Text)
    (info : NodeInfo) : NodeInfo :=
  let info := { info with nodeName := host }
  let (found, id) := getValue U.extract resource sn host (.global NODEID) info.id
  let info := { info with id := if found then id else U.makeUint128 (cStr info.nodeName) }
  let nodeName := (getValue extractText resource sn host (.global NODENAME) info.nodeName).2
  let session := (getValue extractText resource sn host (.global SESSION) info.session).2
  { info with nodeName := nodeName, session := session }

/-- The last loop of the dns_sd `discover` functions: what the local browse found too is marked as
local. -/
def markLocal {α : Type} [BEq α] (clearNodeName : α → α) (infos localInfos : List α) : List α :=
  infos.map fun info => if localInfos.any (· == info) then clearNodeName info else info

/-- Clearing node names touches no property that does not depend on them. -/
theorem forall_markLocal {α : Type} [BEq α] {clearNodeName : α → α} {p : α → Prop}
    (hp : ∀ a, p (clearNodeName a) ↔ p a) (infos localInfos : List α) :
    (∀ a ∈ markLocal clearNodeName infos localInfos, p a) ↔ ∀ a ∈ infos, p a := by
  rw [markLocal, List.forall_mem_map]
  refine forall₂_congr fun a _ => ?_
  split
  · exact hp a
  · exact Iff.rfl

/-! ## Slots -/

/-- A global key that no key of the resource can spell. -/
def Slot.Apart (resource : Text) : Slot → Prop
  | .global key => ¬ resource <+: key
  | _ => True

theorem Slot.apart_plain (resource key : Text) : (Slot.plain key).Apart resource := trivial

theorem Slot.apart_indexed (resource : Text) (i : Nat) (key : Text) :
    (Slot.indexed i key).Apart resource := trivial

theorem indexed_injective : Function.Injective2 Slot.indexed := by
  intro i j f g h
  cases h
  exact ⟨rfl, rfl⟩

theorem Slot.ne_text {resource key : Text} {slot : Slot} (hk : ¬ resource <+: key)
    (h : ∀ k, slot ≠ .global k) : key ≠ slot.text resource := by
  rintro rfl
  apply hk
  cases slot with
  | global k => exact absurd rfl (h k)
  | plain k => exact ⟨lit " " ++ k, by simp [Slot.text]⟩
  | indexed i k => exact ⟨putNat i ++ lit " " ++ k, by simp [Slot.text]⟩

/-- The blank before the key ends the decimal index, so `GPU1`, `GPU11` and `GPU Count` differ. -/
theorem Slot.text_inj {resource : Text} {a b : Slot} (ha : a.Apart resource)
    (hb : b.Apart resource) (h : a.text resource = b.text resource) : a = b := by
  have hlit : lit " " = [32] := by decide
  have hplain : ∀ {i : Nat} {k k' : Text}, putNat i ++ 32 :: k ≠ 32 :: k' := by
    intro i k k' heq
    obtain ⟨c, r, hcr⟩ := List.exists_cons_of_ne_nil (putNat_ne_nil i)
    have hc : isDigit c = true := isDigit_putNat (n := i) (by simp [hcr])
    rw [hcr, List.cons_append] at heq
    obtain ⟨rfl, _⟩ := List.cons.inj heq
    simp [isDigit] at hc
  cases a with
  | global k =>
    cases b with
    | global k' => exact congrArg Slot.global h
    | plain k' => exact absurd h (ne_text ha (by simp))
    | indexed j k' => exact absurd h (ne_text ha (by simp))
  | plain k =>
    cases b with
    | global k' => exact absurd h.symm (ne_text hb (by simp))
    | plain k' => simp only [text, List.append_cancel_left_eq] at h; rw [h]
    | indexed j k' =>
      simp only [text, hlit, List.append_assoc, List.append_cancel_left_eq,
        List.singleton_append] at h
      exact absurd h.symm hplain
  | indexed i k =>
    cases b with
    | global k' => exact absurd h.symm (ne_text hb (by simp))
    | plain k' =>
      simp only [text, hlit, List.append_assoc, List.append_cancel_left_eq,
        List.singleton_append] at h
      exact absurd h hplain
    | indexed j k' =>
      simp only [text, hlit, List.append_assoc, List.append_cancel_left_eq,
        List.singleton_append] at h
      obtain ⟨rfl, rfl⟩ := putNat_append_inj (by decide) h
      rfl

/-! ## Reading -/

section Read

variable {τ : Type} {extract : Text → τ → τ} {resource : Text} {sn : Snapshot} {host : Text}
  {slot : Slot}

theorem getValue_fst (v : τ) :
    (getValue extract resource sn host slot v).1 =
      decide (get sn host (slot.text resource) ≠ []) := by
  unfold getValue
  by_cases h : get sn host (slot.text resource) = [] <;> simp [h]

/-- An extraction that leaves its variable alone at the end of the stream reads a missing key like
an empty one. -/
theorem getValue_snd (h : ∀ v, extract [] v = v) (v : τ) :
    (getValue extract resource sn host slot v).2 =
      extract (get sn host (slot.text resource)) v := by
  unfold getValue
  by_cases hd : get sn host (slot.text resource) = [] <;> simp [hd, h]

end Read

@[simp] theorem getValue_text_snd (resource : Text) (sn : Snapshot) (host : Text) (slot : Slot)
    (v : Text) : (getValue extractText resource sn host slot v).2 =
      extractText (get sn host (slot.text resource)) v :=
  getValue_snd (fun _ => rfl) v

@[simp] theorem getValue_unsigned_snd (resource : Text) (sn : Snapshot) (host : Text) (slot : Slot)
    (v : UInt32) : (getValue extractUnsigned resource sn host slot v).2 =
      extractUnsigned (get sn host (slot.text resource)) v :=
  getValue_snd (fun _ => rfl) v

@[simp] theorem getValue_int_snd (resource : Text) (sn : Snapshot) (host : Text) (slot : Slot)
    (v : Int32) : (getValue extractInt resource sn host slot v).2 =
      extractInt (get sn host (slot.text resource)) v :=
  getValue_snd (fun _ => rfl) v

@[simp] theorem getValue_bool_snd (resource : Text) (sn : Snapshot) (host : Text) (slot : Slot)
    (v : Bool) : (getValue extractBool resource sn host slot v).2 =
      extractBool (get sn host (slot.text resource)) v :=
  getValue_snd (fun _ => rfl) v

theorem discoverNode_eq (U : Uint128Ops) (resource : Text) (sn : Snapshot) (host : Text)
    (info : NodeInfo) : discoverNode U resource sn host info =
      { id := if get sn host NODEID = [] then U.makeUint128 (cStr host)
          else U.extract (get sn host NODEID) info.id
        nodeName := extractText (get sn host NODENAME) host
        session := extractText (get sn host SESSION) info.session } := by
  simp only [discoverNode, getValue_text_snd]
  by_cases h : get sn host NODEID = [] <;> simp [getValue, Slot.text, h]

theorem get_of_lookup {sn : Snapshot} {host : Text} {r : Record} (h : sn.lookup host = some r)
    (key : Text) : get sn host key = (r.lookup key).getD [] := by
  rw [get, h, Option.bind_some]

theorem get_congr {all loc : Snapshot} {host : Text} (h : all.lookup host = loc.lookup host) :
    get all host = get loc host := by
  funext key
  simp only [get, h]

theorem mem_keys_of_lookup {sn : Snapshot} {host : Text} {r : Record}
    (h : sn.lookup host = some r) : host ∈ sn.keys := by
  rw [← AList.mem_keys, ← AList.lookup_isSome, h]
  rfl

/-! ## Writing -/

/-- A log of slots, spelled as a log of keys. -/
def spell (resource : Text) (ws : List (Slot × Text)) : List (Text × Text) :=
  ws.map fun w => (w.1.text resource, w.2)

theorem spell_append (resource : Text) (ws ws' : List (Slot × Text)) :
    spell resource (ws ++ ws') = spell resource ws ++ spell resource ws' := by
  simp [spell]

theorem lookup_spell {resource : Text} {ws : List (Slot × Text)} {slot : Slot}
    (hws : ∀ w ∈ ws, w.1.Apart resource) (hs : slot.Apart resource) (r : Record) :
    (setAll (spell resource ws) r).lookup (slot.text resource) =
      (lastWrite ws slot).or (r.lookup (slot.text resource)) := by
  rw [lookup_setAll, spell]
  congr 1
  exact lastWrite_map_key (Slot.text resource) fun w hw => Slot.text_inj (hws w hw) hs

/-- A record that was empty before the log holds the last write to each slot. -/
theorem get_spell {resource : Text} {ws : List (Slot × Text)} {slot : Slot} {sn : Snapshot}
    {host : Text} (hws : ∀ w ∈ ws, w.1.Apart resource) (hs : slot.Apart resource)
    (h : sn.lookup host = some (setAll (spell resource ws) ∅)) :
    get sn host (slot.text resource) = (lastWrite ws slot).getD [] := by
  rw [get_of_lookup h, lookup_spell hws hs, AList.lookup_empty, Option.or_none]

/-- A record that held a log before another one was made. -/
theorem get_spell_append {resource : Text} {E ws : List (Slot × Text)} {slot : Slot} {sn : Snapshot}
    {host : Text} (hE : ∀ w ∈ E, w.1.Apart resource) (hws : ∀ w ∈ ws, w.1.Apart resource)
    (hs : slot.Apart resource) (h : sn.lookup host = some (setAll (spell resource (E ++ ws)) ∅)) :
    get sn host (slot.text resource) = ((lastWrite ws slot).or (lastWrite E slot)).getD [] := by
  have hapart : ∀ w ∈ E ++ ws, w.1.Apart resource := by
    intro w hw
    rcases List.mem_append.mp hw with hw | hw
    · exact hE w hw
    · exact hws w hw
  rw [get_spell hapart hs h, lastWrite_append]

/-- What a log has left under a key of entry `k`. -/
def residue (ws : List (Slot × Text)) (k : Nat) (key : Text) : Text :=
  (lastWrite ws (.indexed k key)).getD []

namespace Module

/-- Make a log of writes to the own record. -/
def write (m : Module) (ws : List (Slot × Text)) : Module :=
  { m with service := setAll (spell m.resource ws) m.service }

theorem write_append (m : Module) (ws ws' : List (Slot × Text)) :
    m.write (ws ++ ws') = (m.write ws).write ws' := by
  simp [write, spell_append, setAll_append]

theorem setValue_eq_write {τ : Type} (m : Module) (put : τ → Text) (slot : Slot) (value : τ) :
    m.setValue put slot value = m.write [(slot, put value)] := rfl

/-- What `announce` writes about the node. -/
def nodeWrites (U : Uint128Ops) (info : NodeInfo) : List (Slot × Text) :=
  [(.global NODEID, U.put info.id), (.global NODENAME, info.nodeName),
    (.global SESSION, info.session)]

theorem announce_eq_write (U : Uint128Ops) (m : Module) (info : NodeInfo) :
    m.announce U info = m.write (nodeWrites U info) := rfl

/-- A loop whose steps write logs writes them one after the other. -/
theorem foldl_write {β : Type} {step : Module → β → Module} {log : β → List (Slot × Text)}
    (hstep : ∀ m c, step m c = m.write (log c)) (m : Module) (cs : List β) :
    cs.foldl step m = m.write (cs.flatMap log) := by
  induction cs generalizing m with
  | nil => rfl
  | cons c cs ih => rw [List.foldl_cons, ih, hstep, List.flatMap_cons, write_append]

/-- A loop that writes one numbered entry after the other writes a table. -/
theorem foldl_write_cells {α : Type} {step : Module → Nat → α → Module}
    {fields : α → List (Text × Text)}
    (hstep : ∀ m k a, step m k a = m.write ((fields a).map fun w => (Slot.indexed k w.1, w.2)))
    (m : Module) (l : List α) :
    l.zipIdx.foldl (fun m w => step m w.2 w.1) m = m.write (cells Slot.indexed fields 0 l) := by
  rw [foldl_write (fun m w => hstep m w.2 w.1), cells_eq_flatMap]

end Module

/-! ## Sheets -/

section Sheet

variable {α : Type} (U : Uint128Ops) (info : NodeInfo) (count : Text)
  (fields : α → List (Text × Text)) (l : List α)

/-- What one announcement writes: the node, the number of entries and the table of entries. -/
def sheet : List (Slot × Text) :=
  Module.nodeWrites U info ++ (.plain count, putNat l.length) :: cells Slot.indexed fields 0 l

theorem sheet_apart {resource : Text}
    (hres : ∀ key ∈ [NODEID, NODENAME, SESSION], ¬ resource <+: key) :
    ∀ w ∈ sheet U info count fields l, w.1.Apart resource := by
  intro w hw
  simp only [sheet, Module.nodeWrites, List.mem_append, List.mem_cons, List.not_mem_nil,
    or_false] at hw
  rcases hw with (rfl | rfl | rfl) | rfl | hw
  · exact hres _ (by simp)
  · exact hres _ (by simp)
  · exact hres _ (by simp)
  · trivial
  · obtain ⟨i, f, _, hi⟩ := exists_of_mem_cells Slot.indexed fields hw
    rw [hi]
    trivial

theorem lastWrite_sheet_indexed (k : Nat) (f : Text) :
    lastWrite (sheet U info count fields l) (.indexed k f) =
      l[k]?.bind fun a => lastWrite (fields a) f := by
  have h := lastWrite_cells fields indexed_injective 0 k l f
  rw [Nat.zero_add] at h
  rw [sheet, lastWrite_append, lastWrite_cons, h]
  simp [Module.nodeWrites, lastWrite_cons]

theorem lastWrite_sheet_of_ne {slot : Slot} (h : ∀ i f, slot ≠ .indexed i f) :
    lastWrite (sheet U info count fields l) slot =
      lastWrite (Module.nodeWrites U info ++ [(.plain count, putNat l.length)]) slot := by
  have hcells : lastWrite (cells Slot.indexed fields 0 l) slot = none :=
    lastWrite_cells_of_ne _ _ fun i f _ => (h i f).symm
  rw [sheet, lastWrite_append, lastWrite_append, lastWrite_cons, hcells, lastWrite_cons]
  rfl

@[simp] theorem lastWrite_sheet_count :
    lastWrite (sheet U info count fields l) (.plain count) = some (putNat l.length) := by
  rw [lastWrite_sheet_of_ne _ _ _ _ _ (by simp)]
  simp [Module.nodeWrites, lastWrite_cons]

@[simp] theorem lastWrite_sheet_id :
    lastWrite (sheet U info count fields l) (.global NODEID) = some (U.put info.id) := by
  rw [lastWrite_sheet_of_ne _ _ _ _ _ (by simp)]
  have h1 : NODEID ≠ NODENAME := by decide
  have h2 : NODEID ≠ SESSION := by decide
  simp [Module.nodeWrites, lastWrite_cons, h1, h2]

@[simp] theorem lastWrite_sheet_nodeName :
    lastWrite (sheet U info count fields l) (.global NODENAME) = some info.nodeName := by
  rw [lastWrite_sheet_of_ne _ _ _ _ _ (by simp)]
  have h : NODENAME ≠ SESSION := by decide
  simp [Module.nodeWrites, lastWrite_cons, h]

@[simp] theorem lastWrite_sheet_session :
    lastWrite (sheet U info count fields l) (.global SESSION) = some info.session := by
  rw [lastWrite_sheet_of_ne _ _ _ _ _ (by simp)]
  simp [Module.nodeWrites, lastWrite_cons]

variable {resource host : Text} {sn : Snapshot}

/-- The id under which a browser knows a node that announces `nodeID`. -/
def receivedID (nodeID localNodeID : UInt128) (host : Text) : UInt128 :=
  if U.put nodeID = [] then U.makeUint128 (cStr host) else U.extract (U.put nodeID) localNodeID

theorem receivedID_eq {nodeID : UInt128} (h : RoundTrips U.put U.extract nodeID)
    (localNodeID : UInt128) (host : Text) : receivedID U nodeID localNodeID host = nodeID := by
  rw [receivedID, if_neg h.1, h.2]

/-- The node as it is decoded from a sheet, whatever was written before it. -/
theorem discoverNode_sheet {E : List (Slot × Text)} {info : NodeInfo} (hname : info.nodeName = [])
    (hE : ∀ w ∈ E, w.1.Apart resource)
    (hres : ∀ key ∈ [NODEID, NODENAME, SESSION], ¬ resource <+: key)
    (h : sn.lookup host = some (setAll (spell resource (E ++ sheet U info count fields l)) ∅))
    (info' : NodeInfo) : discoverNode U resource sn host info' =
      { id := receivedID U info.id info'.id host, nodeName := host,
        session := extractText info.session info'.session } := by
  have hget : ∀ key ∈ [NODEID, NODENAME, SESSION], get sn host key =
      ((lastWrite (sheet U info count fields l) (.global key)).or
        (lastWrite E (.global key))).getD [] := by
    intro key hkey
    have hkey' : (Slot.global key).Apart resource := hres key hkey
    exact get_spell_append hE (sheet_apart U info count fields l hres) hkey' h
  rw [discoverNode_eq, hget NODEID (by simp), hget NODENAME (by simp), hget SESSION (by simp)]
  simp only [lastWrite_sheet_id, lastWrite_sheet_nodeName, lastWrite_sheet_session,
    Option.some_or, Option.getD_some, hname]
  rfl

end Sheet

end DnsSd
end Hwsd
