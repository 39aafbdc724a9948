import CardHost.Proofs.Wire

namespace CardHost

open Bus

namespace Entry

/-- The commands of an entry that went over the wire. One whose data could not be mapped did not, and
then nothing that follows it. -/
def block (e : Entry) : List (Command Bytes) :=
  match e.fate with
  | .outstanding .command | .abandoned .command => [e.request.command]
  | .outstanding .stop | .abandoned .stop => e.request.command :: e.request.stop.toList
  | .delivered result | .yielded result =>
    if result.command.error = some .noMemory then []
    else if result.stop.bind (·.error) = some .noMemory then [e.request.command]
    else e.request.command :: e.request.stop.toList

@[simp] theorem block_letGo (e : Entry) : e.letGo.block = e.block := rfl

@[simp] theorem block_abandon (e : Entry) : e.abandon.block = e.block := by
  obtain ⟨request, placed, fate, held⟩ := e
  cases fate with
  | outstanding phase => cases phase <;> rfl
  | _ => rfl

theorem block_yield {e : Entry} {result : Request BufferId} (h : e.fate = .delivered result) :
    (e.settle (.yielded result)).block = e.block := by
  obtain ⟨request, placed, fate, held⟩ := e
  cases h
  rfl

end Entry

namespace Ledger

def commands (l : Ledger) : List (Command Bytes) := l.entries.flatMap (·.block)

def Gains (l : Ledger) (accesses : List Access) (l' : Ledger) : Prop :=
  ∃ new, l'.commands = l.commands ++ new ∧
    ∀ argument, issued argument accesses = new.map (·.wire)

theorem Gains.none {l l' : Ledger} {accesses : List Access} (h : l'.commands = l.commands)
    (mute : Mute accesses) : l.Gains accesses l' := by
  refine ⟨[], by rw [h, List.append_nil], ?_⟩
  exact mute

theorem commands_enter (l : Ledger) (e : Entry) :
    (l.enter e).commands = l.commands ++ e.block := by
  simp [commands, enter]

theorem commands_change {l : Ledger} {n : Nat} {f : Entry → Entry}
    (hf : ∀ e, l.entries[n]? = some e → (f e).block = e.block) :
    (l.change n f).commands = l.commands := by
  simp only [commands, List.flatMap_def]
  rw [map_change (h := id) hf, List.modify_id]

theorem last_entry {l : Ledger} {n : Nat} {e : Entry} (entry : l.entries[n]? = some e)
    (last : n + 1 = l.entries.length) : ∃ before, l.entries = before ++ [e] ∧ before.length = n := by
  refine ⟨l.entries.take n, ?_, by rw [List.length_take]; omega⟩
  obtain ⟨hn, rfl⟩ := List.getElem?_eq_some_iff.mp entry
  rw [List.take_append_getElem, List.take_of_length_le (by omega)]

theorem commands_change_last {l : Ledger} {n : Nat} {f : Entry → Entry} {e : Entry}
    {new : List (Command Bytes)} (entry : l.entries[n]? = some e) (last : n + 1 = l.entries.length)
    (hf : (f e).block = e.block ++ new) : (l.change n f).commands = l.commands ++ new := by
  obtain ⟨before, hl, rfl⟩ := last_entry entry last
  simp only [commands, change, hl, List.modify_eq_take_drop, List.modifyHead]
  simp [hf]

theorem commands_close (l : Ledger) : l.close.commands = l.commands := by
  simp [commands, close, List.flatMap_map]

theorem change_self {l : Ledger} {n : Nat} {f : Entry → Entry}
    (hf : ∀ e, l.entries[n]? = some e → f e = e) : l.change n f = l := by
  have h := map_change (l := l) (n := n) (f := f) (g := id) (h := id) hf
  rw [List.map_id, List.map_id, List.modify_id] at h
  exact congrArg (fun entries => ({ l with entries } : Ledger)) h

theorem enter_settle (l : Ledger) (e : Entry) (fate : Fate) :
    (l.enter e).change l.entries.length (.settle fate) = l.enter (e.settle fate) := by
  simp [change, enter, List.modify_eq_take_drop, List.modifyHead]

theorem settle_settle (l : Ledger) (n : Nat) (fate fate' : Fate) :
    (l.change n (.settle fate)).change n (.settle fate') = l.change n (.settle fate') := by
  simp only [change, List.modify_modify_eq]
  rfl

end Ledger

variable {H : Type}

structure Active.Matches (a : Active) (e : Entry) : Prop where
  fate : e.fate = .outstanding a.phase
  same : a.request.blank = e.placed.blank
  current : a.current?.isSome = true
  launched : a.phase = .stop → a.request.command.error ≠ some .noMemory

structure Agrees (s : System H) (l : Ledger) : Prop where
  whole : s.isWhole = l.whole
  tickets : s.parts.tickets.toList = l.entries.map (·.ticket)
  active : ∀ a, s.active? = some a → a.ticket + 1 = l.entries.length ∧
    ∃ e, l.entries[a.ticket]? = some e ∧ a.Matches e
  outstanding : ∀ n e, l.entries[n]? = some e → e.fate.isOutstanding = true →
    ∃ a, s.active? = some a ∧ a.ticket = n
  sound : l.Sound s.parts.bus.memory

theorem Controller.bus_takeApart (c : Controller H) : c.takeApart.bus = c.bus := by
  unfold takeApart
  split <;> rfl

theorem Controller.ready_takeApart {c : Controller H} {n : Nat} {result : Request BufferId}
    (h : c.takeApart.tickets[n]? = some (.ready result)) : c.tickets[n]? = some (.ready result) := by
  unfold takeApart at h
  split at h
  · exact h
  · rw [Array.getElem?_modify] at h
    split at h
    · obtain ⟨ticket, -, spent⟩ := Option.map_eq_some_iff.mp h
      cases ticket <;> cases spent
    · exact h

namespace Agrees

variable {s : System H} {l : Ledger}

theorem ticket (h : Agrees s l) (n : Nat) :
    s.parts.tickets[n]? = l.entries[n]?.map (·.ticket) := by
  rw [← Array.getElem?_toList, h.tickets, List.getElem?_map]

theorem size (h : Agrees s l) : s.parts.tickets.size = l.entries.length := by
  rw [← Array.length_toList, h.tickets, List.length_map]

theorem current (h : Agrees s l) (a : Active) (ha : s.active? = some a) : a.current?.isSome = true := by
  obtain ⟨-, e, -, hm⟩ := h.active a ha
  exact hm.current

theorem held (h : Agrees s l) (n : Nat) : s.parts.held n = l.holds n := by
  unfold Parts.held Ledger.holds
  rw [h.ticket]
  cases l.entries[n]? with
  | none => rfl
  | some e =>
    obtain ⟨request, placed, fate, held⟩ := e
    cases held with
    | false => rfl
    | true => cases fate <;> rfl

theorem busy (h : Agrees s l) : l.busy = s.active?.isSome := by
  rw [Bool.eq_iff_iff, Ledger.busy, List.any_eq_true]
  constructor
  · rintro ⟨e, he, ho⟩
    obtain ⟨n, hn⟩ := List.mem_iff_getElem?.mp he
    obtain ⟨a, ha, -⟩ := h.outstanding n e hn ho
    rw [ha, Option.isSome_some]
  · intro ha
    obtain ⟨a, ha⟩ := Option.isSome_iff_exists.mp ha
    obtain ⟨-, e, he, hm⟩ := h.active a ha
    exact ⟨e, List.mem_of_getElem? he, by rw [hm.fate, Fate.isOutstanding]⟩

theorem settled {n : Nat} {e : Entry} (h : Agrees s l) (entry : l.entries[n]? = some e)
    (other : ∀ a, s.active? = some a → a.ticket ≠ n) : e.fate.isOutstanding = false := by
  cases ho : e.fate.isOutstanding with
  | false => rfl
  | true =>
    obtain ⟨a, ha, hn⟩ := h.outstanding n e entry ho
    exact (other a ha hn).elim

theorem countP_outstanding (h : Agrees s l) :
    l.entries.countP (·.fate.isOutstanding) = if s.active?.isSome then 1 else 0 := by
  cases ha : s.active? with
  | none =>
    rw [Option.isSome_none, if_neg (by decide), List.countP_eq_zero]
    intro e he
    obtain ⟨n, hn⟩ := List.mem_iff_getElem?.mp he
    rw [h.settled hn (by simp [ha])]
    decide
  | some a =>
    obtain ⟨last, e, he, hm⟩ := h.active a ha
    obtain ⟨before, hl, hn⟩ := Ledger.last_entry he last
    have hbefore : before.countP (·.fate.isOutstanding) = 0 := by
      rw [List.countP_eq_zero]
      intro e he
      obtain ⟨n, hlt, rfl⟩ := List.mem_iff_getElem.mp he
      rw [h.settled (n := n) (by rw [hl, List.getElem?_append_left hlt, List.getElem?_eq_getElem])]
      · decide
      · intro a' ha'
        rw [ha] at ha'
        cases ha'
        omega
    rw [hl, List.countP_append, hbefore, Option.isSome_some, if_pos rfl, List.countP_singleton,
      hm.fate]
    rfl

variable {c c' : Controller H} {a a' : Active}

theorem proceed {e : Entry} (h : Agrees (.whole c) l) (ha : c.active = some a)
    (ha' : c'.active = some a') (ticket : a'.ticket = a.ticket) (entry : l.entries[a.ticket]? = some e)
    (agrees : a'.Matches (e.settle (.outstanding a'.phase))) (tickets : c'.tickets = c.tickets)
    (alike : c.bus.memory.Alike c'.bus.memory) :
    Agrees (.whole c') (l.change a.ticket (.settle (.outstanding a'.phase))) := by
  obtain ⟨last, e', he', hm⟩ := h.active a ha
  rw [entry] at he'
  cases he'
  constructor
  case whole => exact h.whole
  case tickets =>
    change c'.tickets.toList = _
    rw [tickets, Ledger.map_change (h := id), List.modify_id]
    · exact h.tickets
    · intro e' he'
      rw [entry] at he'
      cases he'
      cases hh : e.held <;> simp [Entry.ticket, Entry.settle, hm.fate, hh]
  case active =>
    intro a'' ha''
    rw [show (System.whole c').active? = some a' from ha'] at ha''
    cases ha''
    refine ⟨by simpa [ticket, Ledger.change] using last, _, ?_, agrees⟩
    rw [Ledger.getElem?_change, ticket, if_pos rfl, entry, Option.map_some]
  case outstanding =>
    intro n e' he' ho
    refine ⟨a', ha', ?_⟩
    rw [Ledger.getElem?_change] at he'
    split at he'
    · next hn => rw [ticket, hn]
    · obtain ⟨a'', ha'', hn⟩ := h.outstanding n e' he' ho
      rw [show (System.whole c).active? = some a from ha] at ha''
      cases ha''
      rw [ticket, hn]
  case sound =>
    refine (h.sound.alike alike).change (fun _ => rfl) (fun _ => rfl) ?_
    intro e' _ result hr
    cases hr

theorem finish (h : Agrees (.whole c) l) (ha : c.active = some a) (idle : c'.active = none)
    (tickets : c'.tickets = delivered c.tickets a') (ticket : a'.ticket = a.ticket)
    (same : a'.request.blank = a.request.blank) (alike : c.bus.memory.Alike c'.bus.memory) :
    Agrees (.whole c') (l.change a.ticket (.settle (.delivered a'.request))) := by
  obtain ⟨last, e, entry, hm⟩ := h.active a ha
  constructor
  case whole => exact h.whole
  case tickets =>
    change c'.tickets.toList = _
    rw [tickets, delivered, Array.toList_modify, ticket, show c.tickets.toList = _ from h.tickets]
    refine (Ledger.map_change ?_).symm
    intro e' he'
    rw [entry] at he'
    cases he'
    cases hh : e.held <;> simp [Entry.ticket, Entry.settle, hm.fate, hh]
  case active =>
    intro a'' ha''
    rw [show (System.whole c').active? = none from idle] at ha''
    cases ha''
  case outstanding =>
    intro n e' he' ho
    rw [Ledger.getElem?_change] at he'
    split at he'
    · next hn =>
      subst hn
      rw [entry] at he'
      cases he'
      cases ho
    · next hn =>
      obtain ⟨a'', ha'', hn'⟩ := h.outstanding n e' he' ho
      rw [show (System.whole c).active? = some a from ha] at ha''
      cases ha''
      exact (hn hn').elim
  case sound =>
    refine (h.sound.alike alike).change (fun _ => rfl) (fun _ => rfl) ?_
    intro e' he' result hr
    rw [entry] at he'
    cases he'
    cases hr
    rw [same, hm.same]

theorem keeps (h : Agrees (.whole c) l) (active : c'.active = c.active)
    (tickets : c'.tickets = c.tickets) (alike : c.bus.memory.Alike c'.bus.memory) :
    Agrees (.whole c') l := by
  constructor
  case whole => exact h.whole
  case tickets => exact (congrArg Array.toList tickets).trans h.tickets
  case active =>
    intro a ha
    exact h.active a (active.symm.trans ha)
  case outstanding =>
    intro n e he ho
    obtain ⟨a, ha, hn⟩ := h.outstanding n e he ho
    exact ⟨a, active.trans ha, hn⟩
  case sound => exact h.sound.alike alike

theorem take (h : Agrees (.whole c) l) (idle : c.active = none) (request : Request Bytes) :
    Agrees (.whole (c.take request))
      (l.enter { request, placed := (c.accepted request).request, fate := .outstanding .command }) := by
  have hsize : (c.accepted request).ticket = l.entries.length := h.size
  constructor
  case whole => exact h.whole
  case tickets =>
    change (c.tickets.push .waiting).toList = _
    rw [Array.toList_push, show c.tickets.toList = _ from h.tickets]
    simp [Ledger.enter, Entry.ticket]
  case active =>
    intro a ha
    cases ha
    refine ⟨by simp [hsize, Ledger.enter],
      { request, placed := (c.accepted request).request, fate := .outstanding .command },
      ?_, rfl, rfl, rfl, (by cases ·)⟩
    rw [hsize, Ledger.enter, List.getElem?_append_right (Nat.le_refl _), Nat.sub_self]
    rfl
  case outstanding =>
    intro n e he ho
    refine ⟨_, rfl, ?_⟩
    rw [hsize]
    rcases Nat.lt_trichotomy n l.entries.length with hn | hn | hn
    · rw [Ledger.enter, List.getElem?_append_left hn] at he
      obtain ⟨a, ha, -⟩ := h.outstanding n e he ho
      rw [show (System.whole c).active? = none from idle] at ha
      cases ha
    · exact hn.symm
    · rw [List.getElem?_eq_none (by simp [Ledger.enter]; omega)] at he
      cases he
  case sound => exact h.sound.enter request

theorem setTicket {n : Nat} {f : Entry → Entry} {value : Ticket} (h : Agrees s l)
    (ticket : ∀ e, l.entries[n]? = some e → (f e).ticket = value)
    (request : ∀ e, (f e).request = e.request) (placed : ∀ e, (f e).placed = e.placed)
    (fate : ∀ e, l.entries[n]? = some e → (f e).fate = e.fate ∨
      e.fate.isOutstanding = false ∧ (f e).fate.isOutstanding = false)
    (results : ∀ e, l.entries[n]? = some e → (f e).fate.result? = e.fate.result?) :
    Agrees (s.setParts (s.parts.setTicket n value)) (l.change n f) := by
  have houtstanding {e : Entry} (he : l.entries[n]? = some e) :
      (f e).fate.isOutstanding = e.fate.isOutstanding := by
    obtain hf | ⟨hf, hf'⟩ := fate e he
    · rw [hf]
    · rw [hf, hf']
  constructor
  case whole =>
    rw [System.isWhole_setParts]
    exact h.whole
  case tickets =>
    rw [System.parts_setParts, Parts.setTicket, Array.toList_setIfInBounds, h.tickets,
      Ledger.map_change (h := fun _ => value) ticket]
    apply List.ext_getElem?
    intro m
    rw [List.getElem?_set, List.getElem?_modify]
    by_cases hm : n = m
    · subst hm
      by_cases hn : n < l.entries.length <;> simp [hn]
    · simp [hm]
  case active =>
    intro a ha
    rw [System.active?_setParts] at ha
    obtain ⟨last, e, he, hm⟩ := h.active a ha
    refine ⟨by simpa [Ledger.change] using last, ?_⟩
    by_cases hn : n = a.ticket
    · subst hn
      refine ⟨f e, by rw [Ledger.getElem?_change, if_pos rfl, he, Option.map_some], ?_⟩
      obtain hf | ⟨hf, -⟩ := fate e he
      · exact ⟨hf.trans hm.fate, by rw [placed, hm.same], hm.current, hm.launched⟩
      · rw [hm.fate] at hf
        cases hf
    · exact ⟨e, by rw [Ledger.getElem?_change, if_neg hn, he], hm⟩
  case outstanding =>
    intro m e he ho
    rw [System.active?_setParts]
    rw [Ledger.getElem?_change] at he
    split at he
    · next hn =>
      subst hn
      obtain ⟨e', he', rfl⟩ := Option.map_eq_some_iff.mp he
      exact h.outstanding n e' he' (houtstanding he' ▸ ho)
    · exact h.outstanding m e he ho
  case sound =>
    rw [System.parts_setParts]
    refine h.sound.change request placed fun e he result hr => ?_
    rw [results e he] at hr
    exact h.sound.results e (List.mem_of_getElem? he) result hr

theorem close (h : Agrees (.whole c) l) : Agrees (.apart c.takeApart) l.close := by
  constructor
  case whole => exact rfl
  case tickets =>
    have htickets : c.tickets.toList = l.entries.map (·.ticket) := h.tickets
    change c.takeApart.tickets.toList = _
    unfold Controller.takeApart
    cases ha : c.active with
    | none =>
      simp only [Ledger.close, List.map_map]
      rw [htickets]
      refine List.map_congr_left fun e he => ?_
      obtain ⟨n, hn⟩ := List.mem_iff_getElem?.mp he
      have settled : e.fate.isOutstanding = false := h.settled hn fun a ha' => by
        rw [show (System.whole c).active? = none from ha] at ha'
        cases ha'
      rw [Function.comp, Entry.abandon, Fate.abandon_settled settled]
    | some a =>
      obtain ⟨last, e, he, hm⟩ := h.active a ha
      obtain ⟨before, hl, hn⟩ := Ledger.last_entry he last
      simp only [Ledger.close, List.map_map, Array.toList_modify, htickets]
      apply List.ext_getElem?
      intro m
      rw [List.getElem?_modify, List.getElem?_map, List.getElem?_map]
      by_cases hm' : a.ticket = m
      · subst hm'
        rw [he]
        cases hh : e.held <;>
          simp [Entry.ticket, Entry.abandon, hm.fate, Fate.abandon, hh]
      · cases he' : l.entries[m]? with
        | none => simp [hm']
        | some e' =>
          have settled : e'.fate.isOutstanding = false := h.settled he' fun a' ha' => by
            rw [show (System.whole c).active? = some a from ha] at ha'
            cases ha'
            exact hm'
          simp [hm', Entry.abandon, Fate.abandon_settled settled]
  case active =>
    intro a ha
    cases ha
  case outstanding =>
    intro n e he ho
    simp only [Ledger.close, List.getElem?_map, Option.map_eq_some_iff] at he
    obtain ⟨e', -, rfl⟩ := he
    revert ho
    cases hf : e'.fate <;> simp [Entry.abandon, hf, Fate.abandon, Fate.isOutstanding]
  case sound =>
    change l.close.Sound c.takeApart.bus.memory
    rw [Controller.bus_takeApart]
    exact h.sound.close

end Agrees

end CardHost
