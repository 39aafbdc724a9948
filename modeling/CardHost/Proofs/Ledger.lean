import CardHost.Proofs.Placement
/-!
The ledger of a system: what has become of every request that was accepted, in the order of acceptance.
It changes by a few rules, which say for every operation what its answer can be. A run of a system keeps
to them, whatever its hardware does.
-/
namespace CardHost

inductive Fate where
  | outstanding (phase : Phase)
  /-- Finished, and not taken yet. -/
  | delivered (result : Request BufferId)
  /-- Finished, and handed out. -/
  | yielded (result : Request BufferId)
  /-- Still outstanding when the controller was taken apart. -/
  | abandoned (phase : Phase)

namespace Fate

def isOutstanding : Fate → Bool
  | outstanding _ => true
  | _ => false

def result? : Fate → Option (Request BufferId)
  | delivered result | yielded result => some result
  | _ => none

def abandon : Fate → Fate
  | outstanding phase => abandoned phase
  | fate => fate

theorem abandon_settled {fate : Fate} (h : fate.isOutstanding = false) : fate.abandon = fate := by
  cases fate with
  | outstanding => cases h
  | _ => rfl

end Fate

structure Entry where
  request : Request Bytes
  placed : Request BufferId
  fate : Fate
  held : Bool := true

namespace Entry

def ticket (e : Entry) : Ticket :=
  if e.held then
    match e.fate with
    | .outstanding _ => .waiting
    | .delivered result => .ready result
    | .yielded _ | .abandoned _ => .spent
  else .dropped

def settle (fate : Fate) (e : Entry) : Entry := { e with fate }

def letGo (e : Entry) : Entry := { e with held := false }

def abandon (e : Entry) : Entry := { e with fate := e.fate.abandon }

end Entry

structure Ledger where
  entries : List Entry := []
  whole : Bool := true

namespace Ledger

def busy (l : Ledger) : Bool := l.entries.any (·.fate.isOutstanding)

def enter (l : Ledger) (e : Entry) : Ledger := { l with entries := l.entries ++ [e] }

def change (l : Ledger) (n : Nat) (f : Entry → Entry) : Ledger :=
  { l with entries := l.entries.modify n f }

def close (l : Ledger) : Ledger := ⟨l.entries.map Entry.abandon, false⟩

def holds (l : Ledger) (n : Nat) : Bool := l.entries[n]?.any (·.held)

/-- The rules of the ledger: for every operation, what it can answer, and what becomes of the entries. -/
inductive Step : Ledger → Operation → Answer → Ledger → Prop
  | accepts {l : Ledger} {request : Request Bytes} {placed : Request BufferId}
    (contents : BufferId → Bytes) (whole : l.whole = true) (free : l.busy = false)
    (copies : placed.map contents = request)
    (fresh : ∀ e ∈ l.entries, ∀ id ∈ e.placed.buffers, id ∉ placed.buffers) :
    Step l (.submit request) (.accepted l.entries.length)
      (l.enter { request, placed, fate := .outstanding .command })
  /-- A request is accepted, and ends at once, because its data cannot be mapped. -/
  | refuses {l : Ledger} {request : Request Bytes} {placed result : Request BufferId}
    (contents : BufferId → Bytes) (whole : l.whole = true) (free : l.busy = false)
    (copies : placed.map contents = request)
    (fresh : ∀ e ∈ l.entries, ∀ id ∈ e.placed.buffers, id ∉ placed.buffers)
    (same : result.blank = placed.blank) (error : result.command.error = some .noMemory) :
    Step l (.submit request) (.accepted l.entries.length)
      (l.enter { request, placed, fate := .delivered result })
  | busy {l : Ledger} {request : Request Bytes} (whole : l.whole = true) (busy : l.busy = true) :
    Step l (.submit request) (.rejected ⟨.busy, request⟩) l
  | detached {l : Ledger} {request : Request Bytes} (whole : l.whole = true) :
    Step l (.submit request) (.rejected ⟨.detached, request⟩) l
  | serves {l : Ledger} (whole : l.whole = true) : Step l .interrupt .silent l
  | stops {l : Ledger} {n : Nat} {e : Entry} (whole : l.whole = true)
    (entry : l.entries[n]? = some e) (fate : e.fate = .outstanding .command)
    (stop : e.placed.stop.isSome = true) :
    Step l .interrupt .silent (l.change n (.settle (.outstanding .stop)))
  | finishes {l : Ledger} {n : Nat} {e : Entry} {phase : Phase} {result : Request BufferId}
    (whole : l.whole = true) (entry : l.entries[n]? = some e) (fate : e.fate = .outstanding phase)
    (same : result.blank = e.placed.blank) :
    Step l .interrupt .silent (l.change n (.settle (.delivered result)))
  | pending {l : Ledger} {n : Nat} {e : Entry} {phase : Phase} (entry : l.entries[n]? = some e)
    (held : e.held = true) (fate : e.fate = .outstanding phase) :
    Step l (.poll n) (.polled (.ok none)) l
  | yields {l : Ledger} {n : Nat} {e : Entry} {result : Request BufferId}
    (contents : BufferId → Bytes) (entry : l.entries[n]? = some e) (held : e.held = true)
    (fate : e.fate = .delivered result) (same : result.blank = e.placed.blank)
    (outline : (result.map contents).outline = e.request.outline) :
    Step l (.poll n) (.polled (.ok (some (result.map contents))))
      (l.change n (.settle (.yielded result)))
  | spent {l : Ledger} {n : Nat} {e : Entry} (entry : l.entries[n]? = some e) (held : e.held = true)
    (fate : (∃ result, e.fate = .yielded result) ∨ ∃ phase, e.fate = .abandoned phase) :
    Step l (.poll n) (.polled (.error .abandoned)) l
  | drops {l : Ledger} {n : Nat} (held : l.holds n = true) :
    Step l (.drop n) .silent (l.change n .letGo)
  | unheld {l : Ledger} {n : Nat} {operation : Operation} (held : l.holds n = false)
    (handle : operation = .poll n ∨ operation = .drop n) : Step l operation .gone l
  | closes {l : Ledger} (whole : l.whole = true) : Step l .takeApart .silent l.close
  | quiet {l : Ledger} {operation : Operation} {answer : Answer} (whole : l.whole = true)
    (quiet : operation.isQuiet = true) (answered : answer ≠ .gone)
    (isBusy : operation = .isBusy → answer = .flag l.busy) : Step l operation answer l
  | closed {l : Ledger} {operation : Operation} (apart : l.whole = false)
    (handle : ∀ n, operation ≠ .poll n ∧ operation ≠ .drop n) : Step l operation .gone l

theorem getElem?_change (l : Ledger) (n m : Nat) (f : Entry → Entry) :
    (l.change n f).entries[m]? = if n = m then l.entries[m]?.map f else l.entries[m]? := by
  rw [change, List.getElem?_modify]
  split <;> simp

theorem map_change {α : Type} {l : Ledger} {n : Nat} {f : Entry → Entry} {g : Entry → α}
    {h : α → α} (hf : ∀ e, l.entries[n]? = some e → g (f e) = h (g e)) :
    (l.change n f).entries.map g = (l.entries.map g).modify n h := by
  apply List.ext_getElem?
  intro m
  rw [List.getElem?_map, getElem?_change, List.getElem?_modify, List.getElem?_map]
  by_cases hm : n = m
  · subst hm
    cases he : l.entries[n]? with
    | none => simp
    | some e => simp [hf e he]
  · simp [hm]

theorem map_change_of_eq {α : Type} (l : Ledger) (n : Nat) {f : Entry → Entry} {g : Entry → α}
    (hf : ∀ e, g (f e) = g e) : (l.change n f).entries.map g = l.entries.map g := by
  rw [map_change (h := id) fun e _ => hf e, List.modify_id]

theorem mem_change {l : Ledger} {n : Nat} {f : Entry → Entry} {e : Entry}
    (h : e ∈ (l.change n f).entries) :
    e ∈ l.entries ∨ ∃ e', l.entries[n]? = some e' ∧ e = f e' := by
  obtain ⟨m, hm⟩ := List.mem_iff_getElem?.mp h
  rw [getElem?_change] at hm
  split at hm
  · next hn =>
    subst hn
    obtain ⟨e', he', rfl⟩ := Option.map_eq_some_iff.mp hm
    exact .inr ⟨e', he', rfl⟩
  · exact .inl (List.mem_of_getElem? hm)

structure Sound (memory : Memory) (l : Ledger) : Prop where
  stored : ∀ e ∈ l.entries,
    (e.placed.map fun id => (memory.get id).length).blank = e.request.outline
  own : ∀ e ∈ l.entries, ∀ id ∈ e.placed.buffers, id < memory.buffers.size
  distinct : ((l.entries.map (·.placed)).flatMap (·.buffers)).Nodup
  results : ∀ e ∈ l.entries, ∀ result, e.fate.result? = some result → result.blank = e.placed.blank

namespace Sound

variable {memory memory' : Memory} {l : Ledger}

theorem empty (memory : Memory) : Sound memory {} where
  stored _ he := (List.not_mem_nil he).elim
  own _ he := (List.not_mem_nil he).elim
  distinct := List.nodup_nil
  results _ he := (List.not_mem_nil he).elim

theorem alike (h : Sound memory l) (alike : memory.Alike memory') : Sound memory' l where
  stored e he := by simpa only [alike.2] using h.stored e he
  own e he id hid := alike.1 ▸ h.own e he id hid
  distinct := h.distinct
  results := h.results

theorem change (h : Sound memory l) {n : Nat} {f : Entry → Entry}
    (request : ∀ e, (f e).request = e.request) (placed : ∀ e, (f e).placed = e.placed)
    (results : ∀ e, l.entries[n]? = some e → ∀ result, (f e).fate.result? = some result →
      result.blank = e.placed.blank) : Sound memory (l.change n f) where
  stored e he := by
    obtain he | ⟨e', he', rfl⟩ := mem_change he
    · exact h.stored e he
    · rw [request, placed]
      exact h.stored e' (List.mem_of_getElem? he')
  own e he := by
    obtain he | ⟨e', he', rfl⟩ := mem_change he
    · exact h.own e he
    · rw [placed]
      exact h.own e' (List.mem_of_getElem? he')
  distinct := by
    rw [map_change_of_eq l n placed]
    exact h.distinct
  results e he := by
    obtain he | ⟨e', he', rfl⟩ := mem_change he
    · exact h.results e he
    · rw [placed]
      exact results e' he'

theorem enter (h : Sound memory l) (request : Request Bytes) :
    Sound (memory.place request).2
      (l.enter { request, placed := (memory.place request).1, fate := .outstanding .command }) := by
  have hx := memory.place_extends request
  have hb := memory.place_buffers request
  have hget {e : Entry} (he : e ∈ l.entries) :
      (e.placed.map fun id => ((memory.place request).2.get id).length) =
        e.placed.map fun id => (memory.get id).length :=
    Request.map_congr fun id hid => by rw [hx.2 id (h.own e he id hid)]
  have hnew {id : BufferId} (hid : id ∈ (memory.place request).1.buffers) :
      memory.buffers.size ≤ id ∧ id < (memory.place request).2.buffers.size := by
    rw [hb, List.mem_range'_1] at hid
    exact ⟨hid.1, Nat.lt_of_lt_of_eq hid.2 (Nat.add_sub_cancel' hx.1)⟩
  constructor
  case stored =>
    intro e he
    rcases List.mem_append.mp he with he | he
    · rw [hget he]
      exact h.stored e he
    · rw [List.mem_singleton.mp he, Request.outline]
      conv => rhs; rw [← memory.map_place request]
      rw [Request.map_map]
      rfl
  case own =>
    intro e he id hid
    rcases List.mem_append.mp he with he | he
    · exact Nat.lt_of_lt_of_le (h.own e he id hid) hx.1
    · rw [List.mem_singleton.mp he] at hid
      exact (hnew hid).2
  case distinct =>
    simp only [Ledger.enter, List.map_append, List.flatMap_append, List.map_cons, List.map_nil,
      List.flatMap_cons, List.flatMap_nil, List.append_nil]
    refine List.nodup_append.mpr ⟨h.distinct, hb ▸ List.nodup_range', ?_⟩
    intro id hid id' hid' heq
    obtain ⟨p, hp, hidp⟩ := List.mem_flatMap.mp hid
    obtain ⟨e, he, rfl⟩ := List.mem_map.mp hp
    subst heq
    exact Nat.not_lt_of_le (hnew hid').1 (h.own e he id hidp)
  case results =>
    intro e he result hr
    rcases List.mem_append.mp he with he | he
    · exact h.results e he result hr
    · rw [List.mem_singleton.mp he] at hr
      cases hr

theorem close (h : Sound memory l) : Sound memory l.close := by
  have hplaced : l.close.entries.map (·.placed) = l.entries.map (·.placed) := by
    simp [Ledger.close, Entry.abandon, Function.comp_def]
  constructor
  case stored =>
    intro e he
    obtain ⟨e', he', rfl⟩ := List.mem_map.mp he
    exact h.stored e' he'
  case own =>
    intro e he
    obtain ⟨e', he', rfl⟩ := List.mem_map.mp he
    exact h.own e' he'
  case distinct => exact hplaced ▸ h.distinct
  case results =>
    intro e he result hr
    obtain ⟨e', he', rfl⟩ := List.mem_map.mp he
    refine h.results e' he' result ?_
    cases hf : e'.fate <;> simp_all [Entry.abandon, Fate.abandon, Fate.result?]

theorem outline_result (h : Sound memory l) {n : Nat} {e : Entry} {result : Request BufferId}
    (entry : l.entries[n]? = some e) (fate : e.fate.result? = some result) :
    (result.map memory.get).outline = e.request.outline := by
  have hmem := List.mem_of_getElem? entry
  rw [← h.stored e hmem, Request.outline, Request.map_map, Request.blank_map,
    h.results e hmem result fate, ← Request.blank_map]
  rfl

end Sound

end Ledger

end CardHost
