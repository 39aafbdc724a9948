import CardHost.Proofs.Operations
import CardHost.Proofs.Placement

namespace CardHost

theorem Command.map_id {B : Type} (c : Command B) : c.map (fun b => b) = c := by
  obtain ⟨opcode, argument, flags, data, error, response⟩ := c
  cases data <;> rfl

theorem Request.map_id {B : Type} (r : Request B) : r.map (fun b => b) = r := by
  obtain ⟨command, stop⟩ := r
  cases stop with
  | none => rw [map, command.map_id, Option.map_none]
  | some stop => rw [map, command.map_id, Option.map_some, stop.map_id]

/-- New numbers, under which no two buffers and no two tickets fall together, and the bounce buffer stays. -/
structure Renumbering where
  buffer : BufferId → BufferId
  ticket : Nat → Nat
  bounce : BufferId
  fixed : buffer bounce = bounce
  buffer_injective : ∀ i j, buffer i = buffer j → i = j
  ticket_injective : ∀ n m, ticket n = ticket m → n = m

def Ticket.map (f : BufferId → BufferId) : Ticket → Ticket
  | ready r => ready (r.map f)
  | waiting => waiting
  | spent => spent
  | dropped => dropped

namespace Renumbering

def identity (bounce : BufferId) : Renumbering where
  buffer id := id
  ticket n := n
  bounce
  fixed := rfl
  buffer_injective _ _ h := h
  ticket_injective _ _ h := h

def active (N : Renumbering) (a : Active) : Active := ⟨N.ticket a.ticket, a.request.map N.buffer, a.phase⟩

@[simp] theorem active_identity (bounce : BufferId) (a : Active) : (identity bounce).active a = a := by
  obtain ⟨ticket, request, phase⟩ := a
  exact congrArg (Active.mk ticket · phase) request.map_id

theorem map_identity (bounce : BufferId) (ticket : Ticket) : ticket.map (identity bounce).buffer = ticket := by
  cases ticket with
  | ready r => exact congrArg Ticket.ready r.map_id
  | _ => rfl

variable (N : Renumbering)

theorem buffer_inj {i j : BufferId} : N.buffer i = N.buffer j ↔ i = j :=
  ⟨N.buffer_injective i j, congrArg N.buffer⟩

theorem ticket_inj {n m : Nat} : N.ticket n = N.ticket m ↔ n = m :=
  ⟨N.ticket_injective n m, congrArg N.ticket⟩

theorem current?_active (a : Active) : (N.active a).current? = a.current?.map (·.map N.buffer) := by
  obtain ⟨ticket, ⟨command, stop⟩, phase⟩ := a
  cases phase <;> rfl

theorem pending?_active (a : Active) : (N.active a).pending? = a.pending?.map (·.map N.buffer) := by
  obtain ⟨ticket, ⟨command, stop⟩, phase⟩ := a
  cases phase <;> rfl

theorem modify_active (a : Active) {f f' : Command BufferId → Command BufferId}
    (same : ∀ command, f' (command.map N.buffer) = (f command).map N.buffer) :
    (N.active a).modify f' = N.active (a.modify f) := by
  obtain ⟨ticket, ⟨command, stop⟩, phase⟩ := a
  cases phase with
  | command => simp [Active.modify, active, Request.map, same]
  | stop => simp [Active.modify, active, Request.map, same, Function.comp_def]

end Renumbering

structure Tickets.Doubles (N : Renumbering) (tickets tickets' : Array Ticket) : Prop where
  same : ∀ n, tickets'[N.ticket n]? = tickets[n]?.map (·.map N.buffer)
  next : ∀ i, N.ticket (tickets.size + i) = tickets'.size + i

namespace Tickets.Doubles

variable {N : Renumbering} {tickets tickets' : Array Ticket}

theorem refl (bounce : BufferId) (tickets : Array Ticket) :
    Doubles (.identity bounce) tickets tickets := by
  refine ⟨fun n => ?_, fun _ => rfl⟩
  rw [show (Ticket.map (Renumbering.identity bounce).buffer) = id from
    funext (Renumbering.map_identity bounce), Option.map_id]
  rfl

theorem size (h : Doubles N tickets tickets') : N.ticket tickets.size = tickets'.size := h.next 0

theorem lt_size (h : Doubles N tickets tickets') (n : Nat) :
    N.ticket n < tickets'.size ↔ n < tickets.size := by
  have hnone := h.same n
  rw [← Nat.not_le, ← Nat.not_le, ← Array.getElem?_eq_none_iff, ← Array.getElem?_eq_none_iff, hnone,
    Option.map_eq_none_iff]

theorem push (h : Doubles N tickets tickets') {ticket ticket' : Ticket}
    (same : ticket' = ticket.map N.buffer) : Doubles N (tickets.push ticket) (tickets'.push ticket') := by
  refine ⟨fun n => ?_, fun i => ?_⟩
  · simp only [Array.getElem?_push, ← h.size, N.ticket_inj, h.same, same]
    split <;> rfl
  · rw [Array.size_push, Array.size_push, Nat.add_assoc, h.next, Nat.add_assoc]

theorem modify (h : Doubles N tickets tickets') (n : Nat) {f f' : Ticket → Ticket}
    (same : ∀ ticket, f' (ticket.map N.buffer) = (f ticket).map N.buffer) :
    Doubles N (tickets.modify n f) (tickets'.modify (N.ticket n) f') := by
  refine ⟨fun m => ?_, fun i => ?_⟩
  · simp only [Array.getElem?_modify, N.ticket_inj, h.same]
    split
    · rw [Option.map_map, Option.map_map]
      exact congrArg (tickets[m]?.map ·) (funext same)
    · rfl
  · rw [Array.size_modify, Array.size_modify, h.next]

theorem set (h : Doubles N tickets tickets') (n : Nat) {ticket ticket' : Ticket}
    (same : ticket' = ticket.map N.buffer) :
    Doubles N (tickets.setIfInBounds n ticket) (tickets'.setIfInBounds (N.ticket n) ticket') := by
  refine ⟨fun m => ?_, fun i => ?_⟩
  · simp only [Array.getElem?_setIfInBounds, N.ticket_inj, h.lt_size, h.same, same]
    split
    · split <;> rfl
    · rfl
  · rw [Array.size_setIfInBounds, Array.size_setIfInBounds, h.next]

theorem deliver (h : Doubles N tickets tickets') (a : Active) :
    Doubles N (delivered tickets a) (delivered tickets' (N.active a)) := by
  refine h.modify a.ticket fun ticket => ?_
  cases ticket <;> rfl

end Tickets.Doubles

namespace Memory

structure Doubles (N : Renumbering) (m m' : Memory) : Prop where
  contents : ∀ id ≠ N.bounce, m'.get (N.buffer id) = m.get id
  length : (m'.get N.bounce).length = (m.get N.bounce).length
  there : N.bounce < m.buffers.size
  lt_size : ∀ id, N.buffer id < m'.buffers.size ↔ id < m.buffers.size
  next : ∀ i, N.buffer (m.buffers.size + i) = m'.buffers.size + i

namespace Doubles

theorem refl {bounce : BufferId} {m : Memory} (there : bounce < m.buffers.size) :
    Doubles (.identity bounce) m m :=
  ⟨fun _ _ => rfl, rfl, there, fun _ => Iff.rfl, fun _ => rfl⟩

variable {N : Renumbering} {m m' : Memory}

theorem set_bounce (h : Doubles N m m') {bytes : Bytes} (length : bytes.length = (m.get N.bounce).length) :
    Doubles N m (m'.set N.bounce bytes) := by
  have size : (m'.set N.bounce bytes).buffers.size = m'.buffers.size := Array.size_setIfInBounds ..
  have there : N.bounce < m'.buffers.size := by
    rw [← N.fixed, h.lt_size]
    exact h.there
  constructor
  case contents =>
    intro id hid
    rw [Memory.get_set, if_neg, h.contents id hid]
    rintro ⟨same, -⟩
    exact hid (N.buffer_injective _ _ (same.symm.trans N.fixed.symm))
  case length => rw [Memory.get_set, if_pos ⟨rfl, there⟩, length]
  case there => exact h.there
  case lt_size =>
    intro id
    rw [size, h.lt_size]
  case next =>
    intro i
    rw [size, h.next]

theorem length_get (h : Doubles N m m') (id : BufferId) :
    (m'.get (N.buffer id)).length = (m.get id).length := by
  by_cases hid : id = N.bounce
  · rw [hid, N.fixed, h.length]
  · rw [h.contents id hid]

theorem set (h : Doubles N m m') (id : BufferId) {bytes bytes' : Bytes}
    (same : id ≠ N.bounce → bytes' = bytes) (length : bytes'.length = bytes.length) :
    Doubles N (m.set id bytes) (m'.set (N.buffer id) bytes') := by
  have size (m : Memory) (id : BufferId) (bytes : Bytes) : (m.set id bytes).buffers.size = m.buffers.size :=
    Array.size_setIfInBounds ..
  refine ⟨fun j hj => ?_, ?_, ?_, fun j => ?_, fun i => ?_⟩
  · simp only [get_set, N.buffer_inj, h.lt_size]
    split
    · next hid => exact same (hid.1 ▸ hj)
    · exact h.contents j hj
  · have place : N.buffer id = N.bounce ↔ id = N.bounce := by
      rw [← N.buffer_inj (i := id), N.fixed]
    simp only [get_set, place, h.lt_size]
    split
    · exact length
    · exact h.length
  · rw [size]
    exact h.there
  · rw [size, size]
    exact h.lt_size j
  · rw [size, size]
    exact h.next i

theorem add (h : Doubles N m m') (bytes : Bytes) :
    (m'.add bytes).1 = N.buffer (m.add bytes).1 ∧ Doubles N (m.add bytes).2 (m'.add bytes).2 := by
  have size (m : Memory) : (m.add bytes).2.buffers.size = m.buffers.size + 1 := Array.size_push _
  have first : N.buffer m.buffers.size = m'.buffers.size := h.next 0
  refine ⟨first.symm, fun id hid => ?_, ?_, ?_, fun id => ?_, fun i => ?_⟩
  · simp only [get_add, ← first, N.buffer_inj, h.contents id hid]
  · have old : N.bounce ≠ m.buffers.size := Nat.ne_of_lt h.there
    have old' : N.bounce ≠ m'.buffers.size := fun same =>
      old (N.buffer_injective _ _ (N.fixed.trans (same.trans first.symm)))
    rw [get_add, get_add, if_neg old, if_neg old']
    exact h.length
  · rw [size]
    exact Nat.lt_succ_of_lt h.there
  · rw [size, size, Nat.lt_succ_iff_lt_or_eq, Nat.lt_succ_iff_lt_or_eq, h.lt_size, ← first, N.buffer_inj]
  · rw [size, size, Nat.add_assoc, h.next, Nat.add_assoc]

theorem placeCommand (h : Doubles N m m') (command : Command Bytes) :
    (m'.placeCommand command).1 = (m.placeCommand command).1.map N.buffer ∧
      Doubles N (m.placeCommand command).2 (m'.placeCommand command).2 := by
  obtain ⟨opcode, argument, flags, data, error, response⟩ := command
  cases data with
  | none => exact ⟨rfl, h⟩
  | some data =>
    obtain ⟨new, after⟩ := h.add data.buffer
    refine ⟨?_, after⟩
    simp only [Memory.placeCommand, new]
    rfl

theorem place (h : Doubles N m m') (request : Request Bytes) :
    (m'.place request).1 = (m.place request).1.map N.buffer ∧
      Doubles N (m.place request).2 (m'.place request).2 := by
  obtain ⟨command, stop⟩ := request
  obtain ⟨first, after⟩ := h.placeCommand command
  cases stop with
  | none =>
    refine ⟨?_, after⟩
    simp only [Memory.place, first]
    rfl
  | some stop =>
    obtain ⟨second, after'⟩ := after.placeCommand stop
    refine ⟨?_, after'⟩
    simp only [Memory.place, first, second]
    rfl

theorem map_get (h : Doubles N m m') {request : Request BufferId} (apart : N.bounce ∉ request.buffers) :
    (request.map N.buffer).map m'.get = request.map m.get := by
  rw [Request.map_map]
  refine Request.map_congr fun id hid => h.contents id ?_
  rintro rfl
  exact apart hid

end Doubles

end Memory

end CardHost
