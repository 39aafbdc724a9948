import CardHost.Proofs.Completion
import CardHost.Proofs.TransferAccounts
import CardHost.Proofs.Untouched

namespace CardHost

open Bus

namespace Simulator

theorem Still.medium_write {s : Simulator} (h : s.Still) (mapped : Option Bytes) {offset : Nat}
    {value : UInt32} (quiet : (Access.write offset value).isStill = true) :
    (s.write mapped offset value).1.card.medium = s.card.medium := by
  have written := s.written mapped offset value
  generalize s.write mapped offset value = after at written ⊢
  cases written with
  | issues =>
    refine (card_issue _ ?_ mapped).medium
    simpa [Access.isStill] using quiet
  | switches =>
    obtain ⟨receiveOn, transmitOn, hs⟩ := h.switchChannels value mapped
    rw [hs]
  | _ => rfl

end Simulator

namespace Bus

variable {b b' : Bus Simulator} {l : List Access}

theorem Performs.medium (h : Performs b l b') (all : l.all Access.isStill = true)
    (start : b.hardware.Still) : b'.hardware.card.medium = b.hardware.card.medium :=
  (h.keeps (P := fun s => s.Still ∧ s.card.medium = b.hardware.card.medium) all ⟨start, rfl⟩
    (fun _ mapped _ _ quiet hs =>
      ⟨hs.1.write mapped quiet, (hs.1.medium_write mapped quiet).trans hs.2⟩)
    fun _ _ hs => ⟨⟨hs.1.arrived, hs.1.awaited, hs.1.line, hs.1.receiveNext, hs.1.transmitNext⟩, hs.2⟩).2

end Bus

namespace Controller

variable {c c' : Controller Simulator} {a : Active} {command : Command BufferId}

theorem Issues.medium {bus : Bus Simulator} (h : c.Issues command bus c')
    (start : c.bus.hardware.Still) (quiet : command.transfers = false) :
    bus.hardware.card.medium = c.bus.hardware.card.medium := by
  cases h with
  | plain quiet arms still issues =>
    refine (issues.medium ?_ (arms.still still start)).trans (arms.medium still start)
    have hword : (c.wireWord command &&& CommandWord.transfer != CommandWord.startTransfer) = true :=
      bne_iff_ne.mpr (c.wireWord_starts_nothing command quiet)
    change ((c.wireWord command &&& CommandWord.transfer != CommandWord.startTransfer) && true) = true
    rw [hword]
    rfl
  | read data_eq isRead =>
    rw [Command.transfers, data_eq, Option.elim_some, DataFlags.transfers, isRead] at quiet
    cases quiet
  | write data_eq isRead isWrite =>
    rw [Command.transfers, data_eq, Option.elim_some, DataFlags.transfers, isWrite, Bool.or_true]
      at quiet
    cases quiet
  | nothing arms still => exact arms.medium still start

/-- What is followed of a request for a transfer: the simulator that its command finds, the buffer of its
data, what the card stores after the launch, and the stop that is to come. -/
structure Target where
  transfer : Transfer
  argument : UInt32
  buffer : Bytes
  before : Simulator
  medium : Medium
  ticket : Nat
  id : BufferId
  stop : Option (Command BufferId)

namespace Target

def Holds (g : Target) (bytes : Bytes) : Prop :=
  ∃ arrived, g.transfer.Moves g.before g.argument g.buffer arrived g.medium ∧
    bytes = if g.transfer.toCard then arrived else g.before.inMemory arrived

def Accounts (g : Target) (c : Controller Simulator) (last : Command BufferId) : Prop :=
  last.error = none →
    last.data = some ⟨g.id, g.transfer.flags, g.buffer.length⟩ ∧ c.Apart g.id ∧
      g.Holds (c.buffer g.id) ∧
      ((∀ stop, g.stop = some stop → stop.transfers = false) → c.bus.hardware.card.medium = g.medium)

inductive Tracks (g : Target) (c : Controller Simulator) : Prop
  | moving (a : Active) (active : c.active = some a) (phase : a.phase = .command)
    (ticket : a.ticket = g.ticket) (stop : a.request.stop = g.stop)
    (waiting : c.tickets[g.ticket]? = some .waiting)
    (opcode : a.request.command.opcode = g.transfer.opcode)
    (data : a.request.command.data = some ⟨g.id, g.transfer.flags, 0⟩)
    (mask : c.bus.hardware.mask = g.transfer.stage.mask) (mapped : c.mapped = 1)
    (soc : g.before.soc = c.board.soc) (there : g.id < c.bus.memory.buffers.size)
    (length : (c.buffer g.id).length = g.buffer.length) (bounce : c.bounce ≠ g.id)
    (moves : anyBit c.bus.hardware.latched Status.errors = false →
      g.transfer.Moves g.before g.argument g.buffer (c.buffer g.id) g.medium)
    (medium : c.bus.hardware.card.medium = g.medium)
  | moved (a : Active) (stage : Stage) (active : c.active = some a) (phase : a.phase = .command)
    (ticket : a.ticket = g.ticket) (stop : a.request.stop = g.stop)
    (waiting : c.tickets[g.ticket]? = some .waiting)
    (data : a.request.command.data = some ⟨g.id, g.transfer.flags, g.buffer.length⟩)
    (later : stage = .filling ∨ stage = .settling ∨ stage = .ready)
    (mask : c.bus.hardware.mask = stage.mask) (mapping : c.bus.mapping = none)
    (bounce : c.bounce ≠ g.id) (clean : anyBit c.bus.hardware.latched Status.errors = false)
    (holds : g.Holds (c.buffer g.id)) (medium : c.bus.hardware.card.medium = g.medium)
  | stopping (a : Active) (stop : Command BufferId) (active : c.active = some a)
    (phase : a.phase = .stop) (ticket : a.ticket = g.ticket)
    (waiting : c.tickets[g.ticket]? = some .waiting) (current : a.request.stop = some stop)
    (other : g.id ∉ stop.buffers) (accounts : g.Accounts c a.request.command)
  | ended (request : Request BufferId) (idle : c.active = none)
    (ready : c.tickets[g.ticket]? = some (.ready request)) (accounts : g.Accounts c request.command)

theorem Accounts.step {g : Target} {last : Command BufferId} (h : g.Accounts c last)
    (spares : Spares g.id c c')
    (medium : (∀ stop, g.stop = some stop → stop.transfers = false) →
      c'.bus.hardware.card.medium = c.bus.hardware.card.medium) : g.Accounts c' last := by
  intro noError
  obtain ⟨hd, apart, hholds, hmedium⟩ := h noError
  obtain ⟨apart', hsame⟩ := spares apart
  exact ⟨hd, apart', by rwa [hsame], fun quiet => (medium quiet).trans (hmedium quiet)⟩

theorem waiting_delivered {tickets : Array Ticket} {ticket : Nat} (h : a.ticket = ticket)
    (waiting : tickets[ticket]? = some .waiting) :
    (delivered tickets a)[ticket]? = some (.ready a.request) := by
  rw [delivered, Array.getElem?_modify, if_pos h, waiting]
  rfl

theorem Tracks.advance {g : Target} (ha : c.active = some a) (phase : a.phase = .command)
    (ticket : a.ticket = g.ticket) (stop : a.request.stop = g.stop)
    (waiting : c.tickets[g.ticket]? = some .waiting) (still : c.bus.hardware.Still)
    (other : ∀ stop, g.stop = some stop → g.id ∉ stop.buffers)
    (accounts : g.Accounts c a.request.command) : g.Tracks c.advance := by
  rw [advance_eq ha, Active.pending?, phase]
  dsimp only
  cases hs : a.request.stop with
  | none =>
    exact .ended a.request rfl (waiting_delivered ticket waiting)
      (accounts.step (.of_eq rfl rfl) fun _ => rfl)
  | some last =>
    have hstop : g.stop = some last := stop.symm.trans hs
    generalize hbetween : ({ c with active := some { a with phase := .stop } } :
      Controller Simulator) = between
    have hactive : between.active = some { a with phase := .stop } := by rw [← hbetween]
    have hcurrent : ({ a with phase := .stop } : Active).current? = some last := hs
    have hbus : between.bus = c.bus := by rw [← hbetween]
    have htickets : between.tickets = c.tickets := by rw [← hbetween]
    obtain ⟨l, bus, hp, hlaunches⟩ := launch_launches (c := between) hactive hcurrent
    obtain ⟨hb, hway⟩ := hlaunches.outcome hactive hcurrent
    have hspares : Spares g.id c (between.launch last) := by
      refine .trans ?_ (between.spares_launch (other last hstop))
      rw [← hbetween]
      exact .of_eq rfl rfl
    have hmedium : (∀ stop, g.stop = some stop → stop.transfers = false) →
        (between.launch last).bus.hardware.card.medium = c.bus.hardware.card.medium := by
      intro quiet
      rw [hb, ← hbus]
      exact (hlaunches.issues hp).medium (by rwa [hbus]) (quiet last hstop)
    have hcommand (command' : Command BufferId) :
        (({ a with phase := .stop } : Active).replace command').request.command = a.request.command :=
      Active.command_replace rfl command'
    -- The stop goes out, or is refused for want of memory; the command in front of it is what it was.
    rcases hway with ⟨-, tickets, command', active, blank⟩ | ⟨-, tickets, idle⟩
    · refine .stopping _ command' active (Active.phase_replace _ _)
        ((Active.ticket_replace _ _).trans ticket) (by rwa [tickets, htickets]) ?_ ?_ ?_
      · have h := Active.current?_replace hcurrent command'
        rwa [Active.current?, Active.phase_replace] at h
      · rw [← Command.buffers_blank, blank, Command.buffers_blank]
        exact other last hstop
      · rw [hcommand]
        exact accounts.step hspares hmedium
    · refine .ended (({ a with phase := .stop } : Active).replace (unmapped last)).request idle ?_ ?_
      · rw [tickets, htickets]
        exact waiting_delivered ((Active.ticket_replace _ _).trans ticket) waiting
      · rw [hcommand]
        exact accounts.step hspares hmedium

theorem Tracks.conclude {g : Target} (ha : c.active = some a) (phase : a.phase = .command)
    (ticket : a.ticket = g.ticket) (stop : a.request.stop = g.stop)
    (waiting : c.tickets[g.ticket]? = some .waiting) (still : c.bus.hardware.Still)
    (other : ∀ stop, g.stop = some stop → g.id ∉ stop.buffers) (error : Option CommandError)
    (accounts : error = none → g.Accounts c { a.request.command with error := none }) :
    g.Tracks (c.conclude a.request.command error) := by
  have hc : a.current? = some a.request.command := by rw [Active.current?, phase]
  rw [conclude_simulated a.request.command error ha hc]
  refine Tracks.advance rfl ((Active.phase_replace _ _).trans phase)
    ((Active.ticket_replace _ _).trans ticket) ((Active.replace_stop phase _).trans stop) waiting ?_
    other ?_
  · exact ⟨still.arrived, still.awaited, still.line, still.receiveNext, still.transmitNext⟩
  · rw [Active.replace_command phase]
    intro noError
    exact (accounts noError).step (fun apart => ⟨⟨apart.bounce, apart.mapping⟩, rfl⟩) (fun _ => rfl) rfl

theorem Tracks.transferred {g : Target} (ha : c.active = some a) (phase : a.phase = .command)
    (ticket : a.ticket = g.ticket) (stop : a.request.stop = g.stop)
    (waiting : c.tickets[g.ticket]? = some .waiting)
    (data : a.request.command.data = some ⟨g.id, g.transfer.flags, 0⟩)
    (mask : c.bus.hardware.mask = g.transfer.stage.mask) (mapped : c.mapped = 1)
    (soc : g.before.soc = c.board.soc) (there : g.id < c.bus.memory.buffers.size)
    (length : (c.buffer g.id).length = g.buffer.length) (bounce : c.bounce ≠ g.id)
    (clean : anyBit c.bus.hardware.latched Status.errors = false)
    (moves : g.transfer.Moves g.before g.argument g.buffer (c.buffer g.id) g.medium)
    (medium : c.bus.hardware.card.medium = g.medium) :
    g.Tracks (c.serveStage a.request.command g.transfer.stage) := by
  have hc : a.current? = some a.request.command := by rw [Active.current?, phase]
  have hstop (command : Command BufferId) : (a.replace command).request.stop = g.stop :=
    (Active.replace_stop phase command).trans stop
  have hdata : (a.replace (c.accounted a.request.command)).request.command.data =
      some ⟨g.id, g.transfer.flags, g.buffer.length⟩ := by
    rw [Active.replace_command phase, c.accounted_moved data]
    exact congrArg (fun n => some (⟨g.id, g.transfer.flags, n⟩ : Payload BufferId)) length
  cases ht : g.transfer.toCard with
  | false =>
    have hholds : g.Holds ((c.bus.memory.restored c.board.soc g.id).get g.id) := by
      refine ⟨c.buffer g.id, moves, ?_⟩
      rw [ht, if_neg (by decide)]
      exact restored_get soc there
    have hstage : g.transfer.stage = .receiving := by
      rw [Transfer.stage, ht]
      rfl
    rw [hstage] at mask ⊢
    rw [serveStage, serveReceived_simulated ha hc data mapped mask]
    exact .moved _ .filling rfl ((Active.phase_replace _ _).trans phase)
      ((Active.ticket_replace _ _).trans ticket) (hstop _) waiting hdata (.inl rfl) rfl rfl bounce clean
      hholds medium
  | true =>
    have hstage : g.transfer.stage = .sending := by
      rw [Transfer.stage, ht]
      rfl
    rw [hstage] at mask ⊢
    rw [serveStage, serveSent_simulated ha hc mapped mask]
    refine .moved _ .settling rfl ((Active.phase_replace _ _).trans phase)
      ((Active.ticket_replace _ _).trans ticket) (hstop _) waiting hdata (.inr (.inl rfl)) rfl rfl
      bounce clean ?_ medium
    exact ⟨c.buffer g.id, moves, by rw [ht, if_pos rfl]; rfl⟩

theorem Tracks.interrupt_stopping {g : Target} (attached : c.detached = false)
    (active : c.active = some a) (phase : a.phase = .stop) (ticket : a.ticket = g.ticket)
    (waiting : c.tickets[g.ticket]? = some .waiting) (current : a.request.stop = some command)
    (other : g.id ∉ command.buffers) (accounts : g.Accounts c a.request.command) :
    g.Tracks c.interrupt := by
  have hc : a.current? = some command := by rw [Active.current?, phase, current]
  have hpending : a.pending? = none := by rw [Active.pending?, phase]
  have hspares := spares_interrupt attached active hc other (by simp [hpending])
  obtain ⟨l, bus, hp, hserves⟩ := interrupt_serves attached active hc
  generalize c.interrupt = c' at hspares hserves ⊢
  cases hserves with
  | continues =>
    obtain ⟨mask, receiveOn, transmitOn, failNextLoad, hs⟩ := hp.serving (c.serves_continuing _ _)
    refine .stopping (a.replace (c.staged command c.observed)) (c.staged command c.observed) rfl
      ((Active.phase_replace _ _).trans phase) ((Active.ticket_replace _ _).trans ticket) waiting
      ?_ ?_ ?_
    · have h := Active.current?_replace hc (c.staged command c.observed)
      rwa [Active.current?, Active.phase_replace, phase] at h
    · rw [← Command.buffers_blank, blank_staged, Command.buffers_blank]
      exact other
    · rw [Active.command_replace phase]
      refine accounts.step hspares fun _ => ?_
      change bus.hardware.card.medium = _
      rw [hs]
  | @finishes l mapped last error words final ends =>
    obtain ⟨mask, receiveOn, transmitOn, failNextLoad, hs⟩ := hp.serving (ends.serves words)
    refine .ended (a.replace (answered last error words)).request rfl
      (waiting_delivered ((Active.ticket_replace _ _).trans ticket) waiting) ?_
    rw [Active.command_replace phase]
    refine accounts.step hspares fun _ => ?_
    change bus.hardware.card.medium = _
    rw [hs]
  | stops words pending =>
    rw [hpending] at pending
    cases pending

theorem Tracks.interrupt {g : Target} (h : g.Tracks c) (settled : c.Settled)
    (other : ∀ stop, g.stop = some stop → g.id ∉ stop.buffers) : g.Tracks c.interrupt := by
  by_cases hd : c.detached = true
  · rw [Controller.interrupt, if_pos hd]
    exact h
  have attached : c.detached = false := Bool.eq_false_iff.mpr hd
  -- A call without an error is a step of the stage, or changes nothing: then what was tracked still is.
  have htracks := h
  cases h with
  | moving a active phase ticket stop waiting opcode data mask mapped soc there length bounce moves
    medium =>
    have hc : a.current? = some a.request.command := by rw [Active.current?, phase]
    have hcur : c.current? = some a.request.command := current?_of_active active hc
    rw [interrupt_stage attached hcur mask]
    split
    · have hopcode := g.transfer.opcode_ne.2
      rw [← opcode] at hopcode
      obtain ⟨e, he⟩ := CommandError.ofStatus?_isSome hopcode c.observed
      rw [serveError, he, unload_simulated mapped]
      refine Tracks.conclude (c := { c with bus := { c.bus with mapping := none }, mapped := 0 }) active
        phase ticket stop waiting settled.still other (some e) (by simp)
    · next faulty =>
      have clean := Bool.eq_false_iff.mpr faulty
      split
      · exact .transferred active phase ticket stop waiting data mask mapped soc there length bounce
          clean (moves clean) medium
      · exact htracks
  | moved a stage active phase ticket stop waiting data later mask mapping bounce clean holds medium =>
    have hc : a.current? = some a.request.command := by rw [Active.current?, phase]
    have hcur : c.current? = some a.request.command := current?_of_active active hc
    rw [interrupt_stage attached hcur mask, if_neg (by rw [clean]; decide)]
    split
    · rcases later with rfl | rfl | rfl
      · rw [serveStage_settles (.inl rfl) mask]
        exact .moved a .ready active phase ticket stop waiting data (.inr (.inr rfl)) rfl mapping bounce
          clean holds medium
      · rw [serveStage_settles (.inr rfl) mask]
        exact .moved a .ready active phase ticket stop waiting data (.inr (.inr rfl)) rfl mapping bounce
          clean holds medium
      · refine Tracks.conclude active phase ticket stop waiting settled.still other none fun _ _ => ?_
        refine ⟨data, ⟨bounce, fun m hm => ?_⟩, holds, fun _ => medium⟩
        rw [mapping] at hm
        cases hm
    · exact htracks
  | stopping a stop active phase ticket waiting current outside accounts =>
    exact Tracks.interrupt_stopping attached active phase ticket waiting current outside accounts
  | ended request idle ready accounts =>
    obtain ⟨bus, hp, he⟩ := interrupt_spurious attached (current?_of_idle idle)
    have hspares : Spares g.id c c.interrupt := spares_spurious attached idle
    rw [he] at hspares ⊢
    obtain ⟨mask, receiveOn, transmitOn, failNextLoad, hs⟩ := hp.serving rfl
    refine .ended request idle ready (accounts.step hspares fun _ => ?_)
    change bus.hardware.card.medium = _
    rw [hs]

theorem Tracks.current {g : Target} (h : g.Tracks c) (a : Active) (ha : c.active = some a) :
    a.current?.isSome = true := by
  cases h with
  | moving a' active phase | moved a' stage active phase =>
    rw [← Option.some.inj (active.symm.trans ha), Active.current?, phase]
    rfl
  | stopping a' stop active phase ticket waiting current =>
    rw [← Option.some.inj (active.symm.trans ha), Active.current?, phase, current]
    rfl
  | ended request idle =>
    rw [idle] at ha
    cases ha

theorem Tracks.serveLine {g : Target} (h : g.Tracks c) (settled : c.Settled)
    (other : ∀ stop, g.stop = some stop → g.id ∉ stop.buffers) (limit : Nat) :
    g.Tracks (c.serveLine limit).2 := by
  induction limit generalizing c with
  | zero => exact h
  | succ limit ih =>
    simp only [Controller.serveLine, pump]
    split
    · exact ih (h.interrupt settled other) (settled.interrupt h.current)
    · exact h

theorem Tracks.polled {g : Target} (h : g.Tracks c) {result : Request Bytes}
    (finished : (c.toParts.poll g.ticket).1 = .ok (some result)) :
    ∃ request : Request BufferId, result = request.map c.bus.memory.get ∧
      g.Accounts c request.command := by
  have pending (waiting : c.tickets[g.ticket]? = some .waiting) : False := by
    unfold Parts.poll at finished
    rw [waiting] at finished
    cases finished
  cases h with
  | moving a active phase ticket stop waiting => exact (pending waiting).elim
  | moved a stage active phase ticket stop waiting => exact (pending waiting).elim
  | stopping a stop active phase ticket waiting => exact (pending waiting).elim
  | ended request idle ready accounts =>
    unfold Parts.poll at finished
    rw [ready] at finished
    cases finished
    exact ⟨request, rfl, accounts⟩

end Target

theorem Placed.tracks (h : c.Placed a command) {t : Transfer} {argument : UInt32} {id : BufferId}
    (asks : t.IsCommand argument id command) (phase : a.phase = .command)
    (waiting : c.tickets[a.ticket]? = some .waiting) (there : id < c.bus.memory.buffers.size)
    (apart : c.bounce ≠ id) :
    Target.Tracks
      { transfer := t
        argument
        buffer := c.buffer id
        before := c.bus.hardware
        medium := (c.launch command).bus.hardware.card.medium
        ticket := a.ticket
        id
        stop := a.request.stop }
      (c.launch command) := by
  have hcommand : a.request.command = command := by
    have h := h.current
    rw [Active.current?, phase] at h
    exact Option.some.inj h
  obtain ⟨moved, hd⟩ := asks.data
  rcases h.launched asks there apart with ⟨idle, tickets⟩ | moving
  · refine .ended (a.replace (unmapped command)).request idle ?_ ?_
    · rw [tickets]
      exact Target.waiting_delivered (Active.ticket_replace _ _) waiting
    · rw [Active.replace_command phase]
      intro accepted
      cases accepted
  · obtain ⟨⟨bus, hlaunch⟩, mask, still, alike, moves⟩ := moving
    generalize c.launch command = launched at hlaunch mask still alike moves ⊢
    subst hlaunch
    refine .moving (a.replace (restaged command)) rfl ((Active.phase_replace _ _).trans phase)
      (Active.ticket_replace _ _) (Active.replace_stop phase _) waiting ?_ ?_ mask rfl
      h.settled.soc ?_ (alike.2 id) apart moves rfl
    · rw [Active.replace_command phase]
      exact asks.opcode
    · rw [Active.replace_command phase, restaged, hd]
      rfl
    · rw [alike.1]
      exact there

end Controller

namespace Transfer

/-- What a transfer that ends without an error has done, from the simulator that its command found to what
its card stores. The whole length is reported; the bytes that have moved are where they belong, and the rest
of a buffer that was read into is as it was, or with its words reversed. -/
structure Reports (t : Transfer) (s : Simulator) (argument : UInt32) (buffer : Bytes)
    (last : Command Bytes) (medium : Medium) : Prop where
  there : s.injected = 0 → s.card.byteOffset argument + t.needed s.soc buffer ≤ s.card.medium.size
  data : last.data = some
    ⟨if t.toCard then buffer
      else s.inMemory (s.inMemory (s.card.medium.slice (s.card.byteOffset argument) (t.moved s buffer)) ++
        buffer.drop (t.moved s buffer)), t.flags, buffer.length⟩
  medium : medium =
    if t.toCard then
      s.card.medium.patch (s.card.byteOffset argument) (buffer.take (t.moved s buffer))
    else s.card.medium

def Whole (t : Transfer) (s : Simulator) (argument : UInt32) (buffer : Bytes) (last : Command Bytes)
    (medium : Medium) : Prop :=
  if t.toCard then medium.slice (s.card.byteOffset argument) buffer.length = buffer
  else last.data = some
    ⟨s.card.medium.slice (s.card.byteOffset argument) buffer.length, t.flags, buffer.length⟩

theorem Reports.whole {t : Transfer} {s : Simulator} {argument : UInt32} {buffer : Bytes}
    {last : Command Bytes} {medium : Medium} (h : t.Reports s argument buffer last medium)
    (all : t.moved s buffer = buffer.length) : t.Whole s argument buffer last medium := by
  obtain ⟨-, hdata, hmedium⟩ := h
  rw [all] at hdata hmedium
  unfold Whole
  split
  · next toCard =>
    rw [hmedium, if_pos toCard, List.take_length]
    exact Medium.slice_patch _ _ _
  · next toCard =>
    rw [hdata, if_neg toCard, List.drop_length, List.append_nil, s.inMemory_inMemory]

end Transfer

/-- A transfer of any length that a controller reports to have ended without an error, whatever happened to
it and its simulator before: it reports the length of the whole buffer. All of the data has moved if it
fills whole words and the block length can say how much it is, where padding makes up for words that are
missing, and no fault took the place of the command. Otherwise the front of it has moved, or nothing. -/
theorem transfer_reported (unit : UInt32) (board : Board) (options : Options) (sim : Simulator)
    (soc : sim.soc = board.soc) (stimuli : List Stimulus) {c : Controller Simulator}
    (reached : (System.start unit board options sim).afterStimuli stimuli = .whole c)
    (t : Transfer) (argument : UInt32) (buffer : Bytes) {request : Request Bytes}
    (asks : t.IsCommand argument buffer request.command) {ticket : Nat}
    {submitted : Controller Simulator} (accepted : c.submit request = (.ok ticket, submitted))
    (limit : Nat) {result : Request Bytes}
    (finished : ((submitted.serveLine limit).2.toParts.poll ticket).1 = .ok (some result))
    (noError : result.command.error = none) :
    let s := c.bus.hardware
    let stored := submitted.bus.hardware.card.medium
    t.Reports s argument buffer result.command stored ∧
      ((∀ stop, request.stop = some stop → stop.transfers = false) →
        (submitted.serveLine limit).2.bus.hardware.card.medium = stored) ∧
      (t.moved s buffer = buffer.length → t.Whole s argument buffer result.command stored) ∧
      (t.moved s buffer = buffer.length ↔ buffer = [] ∨ s.injected = 0 ∧
        if t.toCard then
          buffer.length % 4 = 0 ∨ s.soc.secondRevision = true ∧ buffer.length < Staging.minLength
        else buffer.length % 4 = 0 ∧ buffer.length < 65536) := by
  intro s stored
  have hsteady := Controller.steady_afterStimuli unit board options sim stimuli reached
  have hsettled := Controller.settled_afterStimuli unit board options sim soc stimuli reached
  obtain ⟨attached, idle, rfl, rfl⟩ := Controller.of_accepted accepted
  obtain ⟨id, hasks, hbuffer, hnew, hthere, hother⟩ := asks.place c.bus.memory
  obtain ⟨left, hbalanced⟩ := hsteady.balanced
  have hrests := hbalanced.rests idle
  have hplaced : (c.take request).Placed (c.accepted request) (c.accepted request).request.command := by
    refine ⟨attached, rfl, rfl, fun free => ?_, hrests.mask, hsettled.take request⟩
    have hcount : c.mapped = if c.bus.mapping.isSome then 1 else 0 := hrests.count
    rw [show c.mapped = 0 from free] at hcount
    cases hm : c.bus.mapping with
    | none => exact hm
    | some m =>
      rw [hm] at hcount
      cases hcount
  have apart : c.bounce ≠ id :=
    Nat.ne_of_lt (Nat.lt_of_lt_of_le (Controller.bounce_lt hsettled.bounce) hnew)
  have htracks := hplaced.tracks hasks rfl Array.getElem?_push_size hthere apart
  have hlaunched := hsettled.submit request
  rw [accepted] at hlaunched
  generalize hserved : (((c.take request).launch (c.accepted request).request.command).serveLine
    limit).2 = served at finished ⊢
  have htracked := htracks.serveLine hlaunched hother limit
  rw [hserved] at htracked
  obtain ⟨last, rfl, haccounts⟩ := htracked.polled finished
  obtain ⟨hdata, -, ⟨arrived, hmoves, hbytes⟩, hmedium⟩ := haccounts noError
  have htaken : (c.take request).buffer id = buffer := hbuffer
  rw [htaken] at hdata hmoves
  have hreports : t.Reports s argument buffer (last.map served.bus.memory.get).command stored := by
    refine ⟨hmoves.fits, (Command.data_map _ hdata).trans ?_, hmoves.medium_eq⟩
    have hget : served.bus.memory.get id = if t.toCard then arrived else s.inMemory arrived := hbytes
    have harrived := hmoves.arrived_eq
    dsimp only at harrived ⊢
    rw [hget, harrived]
    cases t.toCard <;> rfl
  refine ⟨hreports, fun quiet => hmedium fun stop hs => ?_, hreports.whole, t.moved_eq_iff s buffer⟩
  have hmap := congrArg Request.stop (c.bus.memory.map_place request)
  have hplacedStop : (c.bus.memory.place request).1.stop = some stop := hs
  simp only [Request.map, hplacedStop, Option.map_some] at hmap
  rw [← stop.transfers_map (c.bus.memory.place request).2.get]
  exact quiet _ hmap.symm

instance decidableEqExcept {E A : Type} [DecidableEq E] [DecidableEq A] : DecidableEq (Except E A)
  | .ok a, .ok b => decidable_of_iff (a = b) ⟨congrArg Except.ok, Except.ok.inj⟩
  | .error e, .error e' => decidable_of_iff (e = e') ⟨congrArg Except.error, Except.error.inj⟩
  | .ok _, .error _ | .error _, .ok _ => isFalse fun h => by cases h

theorem reversed_words_reported :
    let sim : Simulator :=
      { soc := .rm9200
        card := { medium := .ofByteArray ⟨#[1, 2, 3, 4, 5, 6, 7, 8]⟩, state := .transfer } }
    let read : Request Bytes :=
      { command :=
          { opcode := Opcode.readBlocks
            flags := .r1
            data := some ⟨List.replicate 8 0, DataFlags.read.multiple, 0⟩ }
        stop := some Request.stopTransmission }
    ∃ c submitted result,
      (System.start 0 (Board.reference .rm9200) .default sim).afterStimuli
          [.operate (.writeProperty (.powerMode .on)), .operate .acquire] = .whole c ∧
        c.submit read = (.ok 0, submitted) ∧
        ((submitted.serveLine 4).2.toParts.poll 0).1 = .ok (some result) ∧
        result.command.error = none ∧
        result.command.data = some ⟨[1, 2, 3, 4, 5, 6, 7, 8], DataFlags.read.multiple, 8⟩ := by
  intro sim read
  have asks : (⟨false, true⟩ : Transfer).IsCommand 0 (List.replicate 8 0) read.command :=
    ⟨rfl, rfl, rfl, 0, rfl⟩
  let result : Request Bytes :=
    { command :=
        { read.command with
          data := some ⟨[1, 2, 3, 4, 5, 6, 7, 8], DataFlags.read.multiple, 8⟩
          response := #v[0x900, 0, 0, 0] }
      stop := some { Request.stopTransmission with response := #v[0x900, 0, 0, 0] } }
  refine ⟨_, _, result, rfl, rfl, by decide +kernel, rfl, ?_⟩
  obtain ⟨-, -, hwhole, hiff⟩ := transfer_reported 0 (Board.reference .rm9200) .default sim rfl
    [.operate (.writeProperty (.powerMode .on)), .operate .acquire] rfl ⟨false, true⟩ 0
    (List.replicate 8 0) asks rfl 4 (by decide +kernel)
    (rfl : result.command.error = none)
  exact hwhole (hiff.mpr (.inr ⟨rfl, rfl, by decide⟩))

/-- A read of five bytes: the last one is not fetched, and all of them are reported. -/
theorem odd_length_reported :
    let sim : Simulator :=
      { soc := .sam9260
        card := { medium := .ofByteArray ⟨#[1, 2, 3, 4, 5, 6, 7, 8]⟩, state := .transfer } }
    let read : Request Bytes :=
      { command :=
          { opcode := Opcode.readBlock
            flags := .r1
            data := some ⟨List.replicate 5 0xff, .read, 0⟩ } }
    ∃ c submitted result,
      (System.start 0 (Board.reference .sam9260) .default sim).afterStimuli
          [.operate (.writeProperty (.powerMode .on)), .operate .acquire] = .whole c ∧
        c.submit read = (.ok 0, submitted) ∧
        ((submitted.serveLine 4).2.toParts.poll 0).1 = .ok (some result) ∧
        result.command.error = none ∧
        result.command.data.map (fun data => (data.buffer, data.moved)) = some ([1, 2, 3, 4, 0xff], 5) ∧
        sim.card.medium.slice 0 5 = [1, 2, 3, 4, 5] := by
  intro sim read
  let result : Request Bytes :=
    { command :=
        { opcode := Opcode.readBlock
          flags := .r1
          data := some ⟨[1, 2, 3, 4, 0xff], .read, 5⟩
          response := #v[0x900, 0, 0, 0] } }
  exact ⟨_, _, result, rfl, rfl, by decide +kernel, rfl, rfl, rfl⟩

end CardHost
