import CardHost.Proofs.Doubles

namespace CardHost

open Bus

variable {H : Type} {N : Renumbering}

namespace Bus

variable [Hardware H]

def program (b : Bus H) (plan : Clock.Plan) (width : BusWidth) : Bus H :=
  let b := b.write Register.control <| match plan with
    | .stopped => Control.off
    | .running _ _ => Control.on ||| Control.powerSave
  let (slot, b) := b.read Register.slot
  let b := b.write Register.slot (if width = .four then slot ||| Slot.fourWire else slot &&& ~~~Slot.fourWire)
  let (mode, b) := b.read Register.mode
  b.write Register.mode ((mode &&& ~~~Mode.divider) ||| plan.divider)

theorem Doubles.program [InterruptLine H] (L : Likeness H) {b b' : Bus H} (h : Doubles N L.rests b b')
    (plan : Clock.Plan) (width : BusWidth) :
    Doubles N L.rests (b.program plan width) (b'.program plan width) := by
  unfold Bus.program
  have switched := h.write L (w := (Register.control, match plan with
    | .stopped => Control.off
    | .running _ _ => Control.on ||| Control.powerSave)) rfl
  dsimp only at switched ⊢
  generalize b.write Register.control _ = b at switched ⊢
  generalize b'.write Register.control _ = b' at switched ⊢
  obtain ⟨slot, hardware⟩ := L.read switched.hardware Register.slot (by decide) (by decide)
  have looked : Doubles N L.rests (b.read Register.slot).2 (b'.read Register.slot).2 :=
    ⟨hardware, switched.held, switched.memory⟩
  rw [show (b'.read Register.slot).1 = (b.read Register.slot).1 from slot]
  have wired := looked.write L (w := (Register.slot, if width = .four then
    (b.read Register.slot).1 ||| Slot.fourWire else (b.read Register.slot).1 &&& ~~~Slot.fourWire)) rfl
  exact wired.remode L (fun mode => (mode &&& ~~~Mode.divider) ||| plan.divider)
    (L.divide wired.hardware _ _ plan.divider)

end Bus

namespace Controller

variable {B : Bus H → Bus H → Prop} {c c' : Controller H}

structure Aside {α : Type} (f : Controller H → α × Controller H) : Prop where
  keeps : ∀ c, (f c).2.bus = c.bus ∧ c.Keeps (f c).2
  blind : ∀ (c : Controller H) bus tickets active,
    f { c with bus, tickets, active } = ((f c).1, { (f c).2 with bus, tickets, active })

theorem Related.aside (h : Related N B c c') {α : Type} {f : Controller H → α × Controller H}
    (aside : Aside f) : (f c').1 = (f c).1 ∧ Related N B (f c).2 (f c').2 := by
  obtain ⟨sameBus, keeps⟩ := aside.keeps c
  obtain ⟨bus, tickets, rfl⟩ := h.same
  rw [aside.blind]
  refine ⟨rfl, ⟨bus, tickets, by rw [keeps.active]⟩, keeps.bounce.trans h.site, ?_, ?_, ?_, ?_⟩
  · rw [sameBus]
    exact h.bus
  · rw [keeps.tickets]
    exact h.tickets
  · rw [keeps.active]
    exact h.own
  · rw [keeps.tickets]
    exact h.ready

theorem aside_readProperty (p : Property) : Aside fun c : Controller H => c.readProperty p := by
  refine ⟨fun c => c.readProperty_keeps p, fun c bus tickets active => ?_⟩
  unfold readProperty
  dsimp only
  split
  · rfl
  · split <;> rfl

theorem aside_writeProperty (value : PropertyValue) :
    Aside fun c : Controller H => c.writeProperty value := by
  refine ⟨fun c => c.writeProperty_keeps value, fun c bus tickets active => ?_⟩
  unfold writeProperty
  dsimp only
  split
  · rfl
  · split <;> rfl

theorem aside_acquire : Aside fun c : Controller H => (c.acquire?.isSome, c.acquire?.getD c) := by
  refine ⟨fun c => c.acquire_keeps, fun c bus tickets active => ?_⟩
  unfold acquire?
  dsimp only
  split <;> rfl

theorem aside_release : Aside fun c : Controller H => ((), c.release) :=
  ⟨fun _ => ⟨rfl, rfl, rfl, rfl, rfl, rfl⟩, fun _ _ _ _ => rfl⟩

theorem aside_setOptions (options : Options) : Aside fun c : Controller H => ((), c.setOptions options) :=
  ⟨fun _ => ⟨rfl, rfl, rfl, rfl, rfl, rfl⟩, fun _ _ _ _ => rfl⟩

variable [Hardware H] [InterruptLine H] {L : Likeness H}

omit [InterruptLine H] in
theorem applySettings_programmed (c : Controller H) :
    c.applySettings =
      { c with
        bus := c.bus.program (Clock.plan c.clockRequest c.board.masterClock c.options.overclock)
          c.host.bus.width
        host.bus.clock := (Clock.plan c.clockRequest c.board.masterClock c.options.overclock).rate } := rfl

namespace Doubles

theorem applySettings (h : Doubles L N c c') : Doubles L N c.applySettings c'.applySettings := by
  have plan : Clock.plan c'.clockRequest c'.board.masterClock c'.options.overclock =
      Clock.plan c.clockRequest c.board.masterClock c.options.overclock := by
    obtain ⟨bus, tickets, rfl⟩ := h.same
    rfl
  have width : c'.host.bus.width = c.host.bus.width := by
    obtain ⟨bus, tickets, rfl⟩ := h.same
    rfl
  rw [applySettings_programmed, applySettings_programmed, plan, width]
  generalize Clock.plan c.clockRequest c.board.masterClock c.options.overclock = plan
  have aside : Aside fun c : Controller H => ((), { c with host.bus.clock := plan.rate }) :=
    ⟨fun _ => ⟨rfl, rfl, rfl, rfl, rfl, rfl⟩, fun _ _ _ _ => rfl⟩
  exact ((h.rebus (h.bus.program L plan c.host.bus.width)).aside aside).2

theorem update (h : Doubles L N c c') : c'.update.1 = c.update.1 ∧ Doubles L N c.update.2 c'.update.2 := by
  have applied := h.applySettings
  unfold Controller.update
  rw [h.detached]
  split
  · exact ⟨rfl, h⟩
  · refine ⟨?_, applied⟩
    dsimp only
    obtain ⟨bus, tickets, same⟩ := applied.same
    rw [same]

theorem setTiming (h : Doubles L N c c') (clock : UInt32) (width : BusWidth) :
    (c'.setTiming clock width).1 = (c.setTiming clock width).1 ∧
      Doubles L N (c.setTiming clock width).2 (c'.setTiming clock width).2 := by
  have aside : Aside fun c : Controller H => ((), c.ask clock width) :=
    ⟨fun c => c.ask_keeps clock width, fun _ _ _ _ => rfl⟩
  have asked : Doubles L N (c.ask clock width) (c'.ask clock width) := (h.aside aside).2
  rw [setTiming_eq, setTiming_eq, h.detached]
  split
  · exact ⟨rfl, h⟩
  · exact Doubles.update asked

theorem detach (h : Doubles L N c c') : c'.detach.1 = c.detach.1 ∧ Doubles L N c.detach.2 c'.detach.2 := by
  unfold Controller.detach
  rw [h.detached, h.busy]
  split
  · exact ⟨rfl, h⟩
  split
  · exact ⟨rfl, h⟩
  · have aside : Aside fun c : Controller H => ((), { c with detached := true }) :=
      ⟨fun _ => ⟨rfl, rfl, rfl, rfl, rfl, rfl⟩, fun _ _ _ _ => rfl⟩
    have quiet : Doubles L N (c.writeAll quiesce) (c'.writeAll quiesce) := h.writeAll (by decide)
    exact ⟨rfl, (quiet.aside aside).2⟩

theorem take (h : Doubles L N c c') (request : Request Bytes) :
    Doubles L N (c.take request) (c'.take request) ∧
      c'.accepted request = N.active (c.accepted request) := by
  obtain ⟨placed, memory⟩ := h.bus.memory.place request
  have accepted : c'.accepted request = N.active (c.accepted request) := by
    rw [Controller.accepted, placed, ← h.tickets.size]
    rfl
  refine ⟨⟨?_, h.site, ⟨h.bus.hardware, h.bus.held, memory⟩, h.tickets.push rfl, ?_, ?_⟩, accepted⟩
  · rw [Controller.take, accepted]
    obtain ⟨bus, tickets, rfl⟩ := h.same
    exact ⟨_, _, rfl⟩
  · rintro a ha there
    obtain rfl := Option.some.inj ha
    have new : N.bounce ∈ (c.bus.memory.place request).1.buffers := there
    rw [c.bus.memory.place_buffers, List.mem_range'_1] at new
    exact Nat.not_lt_of_le new.1 h.bus.memory.there
  · intro n r hr
    change (c.tickets.push .waiting)[n]? = _ at hr
    rw [Array.getElem?_push] at hr
    split at hr
    · cases hr
    · exact h.ready n r hr

theorem submit (h : Doubles L N c c') (request : Request Bytes) :
    (c'.submit request).1 = (c.submit request).1.map N.ticket ∧
      Doubles L N (c.submit request).2 (c'.submit request).2 := by
  rw [submit_eq, submit_eq, h.detached, h.busy]
  split
  · exact ⟨rfl, h⟩
  split
  · exact ⟨rfl, h⟩
  · obtain ⟨taken, accepted⟩ := h.take request
    refine ⟨congrArg Except.ok h.tickets.size.symm, ?_⟩
    rw [accepted]
    exact taken.launch fun there => taken.own _ rfl (List.mem_append_left _ there)

end Doubles

end Controller

namespace Parts

variable {p p' : Parts H}

structure Doubles [Hardware H] [InterruptLine H] (L : Likeness H) (N : Renumbering) (p p' : Parts H) :
    Prop where
  bus : Bus.Doubles N L.rests p.bus p'.bus
  tickets : Tickets.Doubles N p.tickets p'.tickets
  ready : ∀ (n : Nat) (r : Request BufferId), p.tickets[n]? = some (.ready r) → N.bounce ∉ r.buffers

namespace Doubles

variable [Hardware H] [InterruptLine H] {L : Likeness H}

theorem held (h : Doubles L N p p') (n : Nat) : p'.held (N.ticket n) = p.held n := by
  simp only [Parts.held, h.tickets.same]
  cases p.tickets[n]? with
  | none => rfl
  | some ticket => cases ticket <;> rfl

theorem setTicket (h : Doubles L N p p') (n : Nat) {value : Ticket}
    (unready : ∀ r, value ≠ .ready r) (same : value.map N.buffer = value) :
    Doubles L N (p.setTicket n value) (p'.setTicket (N.ticket n) value) :=
  ⟨h.bus, h.tickets.set n same.symm, fun m r hr => h.ready m r (ready_marked unready hr)⟩

theorem poll (h : Doubles L N p p') (n : Nat) :
    (p'.poll (N.ticket n)).1 = (p.poll n).1 ∧ Doubles L N (p.poll n).2 (p'.poll (N.ticket n)).2 := by
  have same := h.tickets.same n
  cases ht : p.tickets[n]? with
  | none =>
    rw [ht] at same
    simp only [Parts.poll, ht, same, Option.map_none]
    exact ⟨trivial, h⟩
  | some ticket =>
    rw [ht] at same
    cases ticket with
    | ready r =>
      have bytes := h.bus.memory.map_get (h.ready n r ht)
      simp only [Parts.poll, ht, same, Option.map_some, Ticket.map, bytes, true_and]
      exact h.setTicket n (fun _ h => Ticket.noConfusion h) rfl
    | waiting | spent | dropped =>
      simp only [Parts.poll, ht, same, Option.map_some, Ticket.map, true_and]
      exact h

end Doubles

end Parts

namespace Controller

variable [Hardware H] [InterruptLine H] {L : Likeness H} {c c' : Controller H}

theorem Doubles.parts (h : Doubles L N c c') : c.toParts.Doubles L N c'.toParts := ⟨h.bus, h.tickets, h.ready⟩

theorem Doubles.setParts (h : Doubles L N c c') {p p' : Parts H} (parts : p.Doubles L N p') :
    Doubles L N { c with toParts := p } { c' with toParts := p' } := by
  obtain ⟨bus, tickets, rfl⟩ := h.same
  exact ⟨⟨_, _, rfl⟩, h.site, parts.bus, parts.tickets, h.own, parts.ready⟩

theorem Doubles.takeApart (h : Doubles L N c c') : c.takeApart.Doubles L N c'.takeApart := by
  have tickets : Tickets.Doubles N c.takeApart.tickets c'.takeApart.tickets := by
    unfold Controller.takeApart
    rw [h.active]
    cases c.active with
    | none => exact h.tickets
    | some a =>
      dsimp only [Option.map_some, Renumbering.active]
      refine h.tickets.modify a.ticket fun ticket => ?_
      cases ticket <;> rfl
  refine ⟨?_, tickets, fun n r ready => h.ready n r (ready_takeApart ready)⟩
  rw [bus_takeApart, bus_takeApart]
  exact h.bus

end Controller

def Operation.renumber (f : Nat → Nat) : Operation → Operation
  | poll n => poll (f n)
  | drop n => drop (f n)
  | operation => operation

def Answer.renumber (f : Nat → Nat) : Answer → Answer
  | accepted n => accepted (f n)
  | answer => answer

inductive Event (H : Type) where
  | operate (operation : Operation)
  | serve (limit : Nat)
  | strike (change : H → H)

def Event.renumber (f : Nat → Nat) : Event H → Event H
  | operate operation => operate (operation.renumber f)
  | event => event

theorem Answer.renumber_identity (bounce : BufferId) (answer : Answer) :
    answer.renumber (Renumbering.identity bounce).ticket = answer := by
  cases answer <;> rfl

theorem Event.renumber_identity (bounce : BufferId) (events : List (Event H)) :
    events.map (·.renumber (Renumbering.identity bounce).ticket) = events := by
  have same (event : Event H) : event.renumber (Renumbering.identity bounce).ticket = event := by
    cases event with
    | operate operation => cases operation <;> rfl
    | serve | strike => rfl
  exact (List.map_congr_left fun event _ => same event).trans (List.map_id _)

namespace System

variable [Hardware H] [InterruptLine H] {L : Likeness H} {s s' : System H}

omit [Hardware H] [InterruptLine H] in
def strike (s : System H) (change : H → H) : System H :=
  s.setParts { s.parts with bus := { s.parts.bus with hardware := change s.parts.bus.hardware } }

def meet (s : System H) : Event H → Answer × System H
  | .operate operation => s.step operation
  | .serve limit =>
    match s with
    | whole c => (.count (c.serveLine limit).1, .whole (c.serveLine limit).2)
    | apart _ => (.gone, s)
  | .strike change => (.silent, s.strike change)

def afterEvents (s : System H) (events : List (Event H)) : System H :=
  events.foldl (fun s event => (s.meet event).2) s

inductive Doubles (L : Likeness H) (N : Renumbering) : System H → System H → Prop
  | whole {c c' : Controller H} (h : c.Doubles L N c') : Doubles L N (.whole c) (.whole c')
  | apart {p p' : Parts H} (h : p.Doubles L N p') : Doubles L N (.apart p) (.apart p')

namespace Doubles

theorem parts (h : Doubles L N s s') : s.parts.Doubles L N s'.parts := by
  cases h with
  | whole h => exact h.parts
  | apart h => exact h

theorem setParts (h : Doubles L N s s') {p p' : Parts H} (parts : p.Doubles L N p') :
    Doubles L N (s.setParts p) (s'.setParts p') := by
  cases h with
  | whole h => exact .whole (h.setParts parts)
  | apart h => exact .apart parts

theorem perform {c c' : Controller H} (h : c.Doubles L N c') {operation : Operation}
    (handle : ∀ n, operation ≠ .poll n ∧ operation ≠ .drop n) :
    (c'.perform operation).1 = (c.perform operation).1.renumber N.ticket ∧
      Doubles L N (c.perform operation).2 (c'.perform operation).2 := by
  cases operation with
  | poll n => exact ((handle n).1 rfl).elim
  | drop n => exact ((handle n).2 rfl).elim
  | submit request =>
    obtain ⟨answer, after⟩ := h.submit request
    simp only [Controller.perform]
    generalize c.submit request = r at answer after ⊢
    generalize c'.submit request = r' at answer after ⊢
    obtain ⟨_ | n, d⟩ := r <;> obtain ⟨_ | n', d'⟩ := r'
    · cases answer
      exact ⟨rfl, .whole after⟩
    · cases answer
    · cases answer
    · cases answer
      exact ⟨rfl, .whole after⟩
  | interrupt => exact ⟨rfl, .whole h.interrupt⟩
  | readProperty p =>
    obtain ⟨answer, after⟩ := h.aside (Controller.aside_readProperty p)
    exact ⟨congrArg Answer.property answer, .whole after⟩
  | writeProperty value =>
    obtain ⟨answer, after⟩ := h.aside (Controller.aside_writeProperty value)
    exact ⟨congrArg Answer.outcome answer, .whole after⟩
  | setOptions options => exact ⟨rfl, .whole (h.aside (Controller.aside_setOptions options)).2⟩
  | update => exact ⟨congrArg Answer.timing h.update.1, .whole h.update.2⟩
  | setTiming clock width =>
    exact ⟨congrArg Answer.timing (h.setTiming clock width).1, .whole (h.setTiming clock width).2⟩
  | isBusy => exact ⟨congrArg Answer.flag h.busy, .whole h⟩
  | countMappings => exact ⟨congrArg Answer.count h.mapped, .whole h⟩
  | readSettings =>
    refine ⟨congrArg Answer.settings ?_, .whole h⟩
    obtain ⟨bus, tickets, rfl⟩ := h.same
    rfl
  | acquire =>
    obtain ⟨answer, after⟩ := h.aside Controller.aside_acquire
    exact ⟨congrArg Answer.flag answer, .whole after⟩
  | release => exact ⟨rfl, .whole (h.aside Controller.aside_release).2⟩
  | detach => exact ⟨congrArg Answer.outcome h.detach.1, .whole h.detach.2⟩
  | takeApart => exact ⟨rfl, .apart h.takeApart⟩

theorem step (h : Doubles L N s s') (operation : Operation) :
    (s'.step (operation.renumber N.ticket)).1 = (s.step operation).1.renumber N.ticket ∧
      Doubles L N (s.step operation).2 (s'.step (operation.renumber N.ticket)).2 := by
  by_cases handle : ∀ n, operation ≠ .poll n ∧ operation ≠ .drop n
  · have same : operation.renumber N.ticket = operation := by
      cases operation with
      | poll n => exact ((handle n).1 rfl).elim
      | drop n => exact ((handle n).2 rfl).elim
      | _ => rfl
    rw [same]
    cases h with
    | whole h =>
      rw [step_whole _ handle, step_whole _ handle]
      exact perform h handle
    | apart h =>
      rw [step_apart _ handle, step_apart _ handle]
      exact ⟨rfl, .apart h⟩
  · cases operation with
    | poll n =>
      obtain ⟨outcome, after⟩ := h.parts.poll n
      simp only [Operation.renumber, System.step, h.parts.held]
      split
      · exact ⟨congrArg Answer.polled outcome, h.setParts after⟩
      · exact ⟨rfl, h⟩
    | drop n =>
      simp only [Operation.renumber, System.step, h.parts.held]
      split
      · exact ⟨rfl, h.setParts (h.parts.setTicket n (fun _ h => Ticket.noConfusion h) rfl)⟩
      · exact ⟨rfl, h⟩
    | _ => exact (handle fun _ => ⟨by rintro ⟨⟩, by rintro ⟨⟩⟩).elim

theorem meet (h : Doubles L N s s') (event : Event H)
    (fair : ∀ change, event = .strike change → ∀ g g', L.rests g g' → L.rests (change g) (change g')) :
    (s'.meet (event.renumber N.ticket)).1 = (s.meet event).1.renumber N.ticket ∧
      Doubles L N (s.meet event).2 (s'.meet (event.renumber N.ticket)).2 := by
  cases event with
  | operate operation => exact h.step operation
  | serve limit =>
    cases h with
    | whole h => exact ⟨congrArg Answer.count (h.serveLine limit).1, .whole (h.serveLine limit).2⟩
    | apart h => exact ⟨rfl, .apart h⟩
  | strike change =>
    have parts := h.parts
    exact ⟨rfl, h.setParts ⟨⟨fair change rfl _ _ parts.bus.hardware, parts.bus.held, parts.bus.memory⟩,
      parts.tickets, parts.ready⟩⟩

end Doubles

def observations {V : Type} (view : H → V) : System H → List (Event H) → List (Answer × V)
  | _, [] => []
  | s, event :: rest =>
    ((s.meet event).1, view (s.meet event).2.parts.bus.hardware) :: (s.meet event).2.observations view rest

theorem Doubles.observations (h : Doubles L N s s') {V : Type} (view : H → V)
    (blind : ∀ g g', L.rests g g' → view g' = view g) (events : List (Event H))
    (fair : ∀ change, .strike change ∈ events → ∀ g g', L.rests g g' → L.rests (change g) (change g')) :
    s'.observations view (events.map (·.renumber N.ticket)) =
      (s.observations view events).map fun seen => (seen.1.renumber N.ticket, seen.2) := by
  induction events generalizing s s' with
  | nil => rfl
  | cons event rest ih =>
    obtain ⟨answer, after⟩ := h.meet event fun change struck =>
      fair change (struck ▸ List.mem_cons_self)
    have hardware := blind _ _ after.parts.bus.hardware
    have later := ih after fun change member => fair change (List.mem_cons_of_mem _ member)
    simp only [List.map_cons, System.observations, answer, hardware, later]

theorem Doubles.afterEvents (h : Doubles L N s s') {events : List (Event H)}
    (fair : ∀ change, .strike change ∈ events → ∀ g g', L.rests g g' → L.rests (change g) (change g')) :
    Doubles L N (s.afterEvents events) (s'.afterEvents (events.map (·.renumber N.ticket))) := by
  induction events generalizing s s' with
  | nil => exact h
  | cons event rest ih =>
    have after := (h.meet event fun change struck => fair change (struck ▸ List.mem_cons_self)).2
    exact ih after fun change member => fair change (List.mem_cons_of_mem _ member)

end System

end CardHost
