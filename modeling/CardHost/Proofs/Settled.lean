import CardHost.Proofs.Accounts
import CardHost.Proofs.Stillness

namespace CardHost

open Bus

namespace Controller

structure Settled (c : Controller Simulator) : Prop where
  still : c.bus.hardware.Still
  soc : c.bus.hardware.soc = c.board.soc
  bounce : (c.buffer c.bounce).length = Staging.capacity

variable {c c' : Controller Simulator} {a : Active} {command : Command BufferId}
  {bus : Bus Simulator} {l : List Access}

inductive Issues {H : Type} [Hardware H] (c : Controller H) (command : Command BufferId) (bus : Bus H)
    (c' : Controller H) : Prop
  | plain (quiet : command.data.elim false (fun data => data.flags.transfers) = false)
    {before : List Access} {armed : Bus H} (arms : Performs c.bus before armed)
    (still : before.all Access.isStill = true)
    (issues : Performs armed (.write Register.command (c.wireWord command) ::
      writes [(Register.enable, Status.errors ||| Status.commandReady)]) bus)
  | read {data : Payload BufferId} (data_eq : command.data = some data)
    (isRead : data.flags.isRead = true) {before : List Access} {armed : Bus H}
    (arms : Performs c.bus before armed) (still : before.all Access.isStill = true)
    (issues : Performs armed (.write Register.channelControl Channel.receiveOn ::
      .write Register.command (c.wireWord command) ::
      writes [(Register.enable, Status.errors ||| Status.endReceive)]) bus)
  | write {data : Payload BufferId} (data_eq : command.data = some data)
    (isRead : data.flags.isRead = false) (isWrite : data.flags.isWrite = true)
    {before : List Access} {armed : Bus H} (arms : Performs c.bus before armed)
    (still : before.all Access.isStill = true)
    (issues : Performs armed (.write Register.command (c.wireWord command) ::
      .write Register.channelControl Channel.transmitOn ::
      writes [(Register.enable, Status.errors ||| Status.transmitEmpty)]) bus)
  | nothing {before : List Access} (arms : Performs c.bus before bus)
    (still : before.all Access.isStill = true) (idle : c'.active = none)

theorem Launches.issues {H : Type} [Hardware H] {c c' : Controller H} {a : Active}
    {command : Command BufferId} {bus : Bus H} {l : List Access}
    (h : Launches c a command bus l c') (hp : Performs c.bus l bus) : c.Issues command bus c' := by
  -- Each list of accesses is cut before the first one that the card takes notice of.
  cases h with
  | plain data =>
    have hall : writes (clearChannels ++ c.issuing command Status.commandReady) =
        writes (clearChannels ++ [(Register.argument, command.argument)]) ++
          .write Register.command (c.wireWord command) ::
            writes [(Register.enable, Status.errors ||| Status.commandReady)] := rfl
    rw [hall] at hp
    obtain ⟨armed, arms, issues⟩ := hp.split
    exact .plain (by rw [data]; rfl) arms rfl issues
  | idle data mode data_eq quiet =>
    have hall : preparation mode (c.buffer data.buffer).length ++
        writes (c.issuing command Status.commandReady) =
        (preparation mode (c.buffer data.buffer).length ++
          writes [(Register.argument, command.argument)]) ++
          .write Register.command (c.wireWord command) ::
            writes [(Register.enable, Status.errors ||| Status.commandReady)] := rfl
    rw [hall] at hp
    obtain ⟨armed, arms, issues⟩ := hp.split
    exact .plain (by rw [data_eq]; exact quiet) arms rfl issues
  | read data mode address bytes data_eq isRead =>
    have hall : preparation mode (c.buffer data.buffer).length ++
        .load bytes .fromCard (.ok address) :: .sync .beforeRead ::
          writes (c.issuingRead command address (c.buffer data.buffer).length) =
        (preparation mode (c.buffer data.buffer).length ++
          .load bytes .fromCard (.ok address) :: .sync .beforeRead ::
            writes [(Register.receivePointer, address),
              (Register.receiveCount, UInt32.ofNat ((c.buffer data.buffer).length / 4)),
              (Register.argument, command.argument)]) ++
          .write Register.channelControl Channel.receiveOn ::
          .write Register.command (c.wireWord command) ::
          writes [(Register.enable, Status.errors ||| Status.endReceive)] := rfl
    rw [hall] at hp
    obtain ⟨armed, arms, issues⟩ := hp.split
    exact .read data_eq isRead arms rfl issues
  | write data mode address bytes length data_eq isRead isWrite =>
    have hall : preparation mode (c.buffer data.buffer).length ++
        .load bytes .toCard (.ok address) :: .sync .beforeWrite ::
          writes (c.issuingWrite command address length) =
        (preparation mode (c.buffer data.buffer).length ++
          .load bytes .toCard (.ok address) :: .sync .beforeWrite ::
            writes [(Register.transmitPointer, address),
              (Register.transmitCount, UInt32.ofNat (length / 4)),
              (Register.argument, command.argument)]) ++
          .write Register.command (c.wireWord command) ::
          .write Register.channelControl Channel.transmitOn ::
          writes [(Register.enable, Status.errors ||| Status.transmitEmpty)] := rfl
    rw [hall] at hp
    obtain ⟨armed, arms, issues⟩ := hp.split
    exact .write data_eq isRead isWrite arms rfl issues
  | unstaged data mode => exact .nothing hp rfl rfl
  | refused data mode bytes direction error => exact .nothing hp rfl rfl

theorem Issues.still (h : c.Issues command bus c') (start : c.bus.hardware.Still) :
    bus.hardware.Still := by
  cases h with
  | plain quiet arms still issues =>
    refine issues.still ?_ (arms.still still start)
    have hword : (c.wireWord command &&& CommandWord.transfer != CommandWord.startTransfer) = true :=
      bne_iff_ne.mpr (c.wireWord_starts_nothing command quiet)
    change ((c.wireWord command &&& CommandWord.transfer != CommandWord.startTransfer) && true) = true
    rw [hword]
    rfl
  | read data_eq isRead arms still issues =>
    refine issues.still_read (arms.still still start) ?_ rfl
    rw [c.wireWord_fromCard, data_eq]
    exact isRead
  | write data_eq isRead isWrite arms still issues =>
    refine issues.still_write (arms.still still start) ?_ rfl
    rw [c.wireWord_fromCard, data_eq]
    exact isRead
  | nothing arms still => exact arms.still still start

theorem Launches.still (h : Launches c a command bus l c') (hp : Performs c.bus l bus)
    (start : c.bus.hardware.Still) : bus.hardware.Still :=
  (h.issues hp).still start

theorem Ends.still {last : Command BufferId} {status : UInt32} {mapped : Nat}
    {error : Option CommandError} (h : c.Ends command status l mapped last error)
    (words : List UInt32) : (c.glance ++ (l ++ ending words)).all Access.isStill = true :=
  still_of_serves (h.serves words)

theorem Serves.still (h : Serves c a command c.observed c.glance bus l c')
    (hp : Performs c.bus (c.glance ++ l) bus) (start : c.bus.hardware.Still) :
    c'.bus = bus ∧ bus.hardware.Still := by
  cases h with
  | continues =>
    exact ⟨rfl, hp.still (still_of_serves (c.serves_continuing _ _)) start⟩
  | finishes words final ends => exact ⟨rfl, hp.still (ends.still words) start⟩
  | stops words pending ends _ reached launched launches =>
    refine ⟨?_, launches.still launched (reached.still (ends.still words) start)⟩
    cases launches <;> rfl

theorem Quiet.isStill (h : Quiet c l) : l.all Access.isStill = true := by
  cases h <;> rfl

theorem submit_still (start : c.bus.hardware.Still) (request : Request Bytes) :
    (c.submit request).2.bus.hardware.Still := by
  have h := c.submits request
  generalize (c.submit request).2 = c' at h ⊢
  cases h with
  | refuses => exact start
  | launches attached idle performs launches =>
    have still := launches.still performs start
    cases launches <;> exact still

theorem interrupt_still (start : c.bus.hardware.Still)
    (current : ∀ a, c.active = some a → a.current?.isSome = true) :
    c.interrupt.bus.hardware.Still := by
  have h := interrupts current
  generalize c.interrupt = c' at h ⊢
  cases h with
  | rests => exact start
  | spurious _ _ performs => exact performs.still rfl start
  | serves attached ha hc performs serves =>
    obtain ⟨hb, still⟩ := serves.still performs start
    rwa [hb]

theorem Settled.performs (h : c.Settled) (hp : Performs c.bus l c'.bus)
    (still : c'.bus.hardware.Still) (board : c'.board = c.board) (bounce : c'.bounce = c.bounce) :
    c'.Settled := by
  refine ⟨still, ?_, ?_⟩
  · rw [hp.soc, h.soc, board]
  · rw [buffer, bounce, hp.alike.2]
    exact h.bounce

theorem attach_still (unit : UInt32) (board : Board) (options : Options) (sim : Simulator) :
    (attach unit board options sim).bus.hardware.Still := by
  have hp := performs_writeAll (Controller.fresh unit board options sim).bus
    (quiesce ++ powerOn board.soc)
  have hall : writes (quiesce ++ powerOn board.soc) =
      writes ((Register.disable, Status.all) :: clearChannels) ++
        .write Register.control (Control.off ||| Control.softReset) ::
          writes (powerOn board.soc) := rfl
  rw [hall] at hp
  obtain ⟨cleared, -, hreset⟩ := hp.split
  obtain ⟨b, -, hpower⟩ := hreset.head_write
  rw [attach_eq, writeAll_eq]
  refine hpower.still rfl ?_
  rw [(b.write_frame _ _).2.2]
  exact ⟨rfl, rfl, rfl, rfl, rfl⟩

theorem settled_attach (unit : UInt32) (board : Board) (options : Options) (sim : Simulator)
    (soc : sim.soc = board.soc) : (attach unit board options sim).Settled := by
  have hp := performs_writeAll (Controller.fresh unit board options sim).bus
    (quiesce ++ powerOn board.soc)
  refine ⟨attach_still unit board options sim, ?_, ?_⟩
  · rw [attach_eq, writeAll_eq]
    exact hp.soc.trans soc
  · rw [attach_eq, writeAll_eq, buffer, hp.alike.2]
    change ((Memory.add {} (Bytes.zeros Staging.capacity)).2.get 0).length = Staging.capacity
    rw [Memory.get_add]
    exact List.length_replicate

theorem bounce_lt (bounce : (c.buffer c.bounce).length = Staging.capacity) :
    c.bounce < c.bus.memory.buffers.size := by
  apply Memory.lt_of_length
  change 0 < (c.buffer c.bounce).length
  rw [bounce]
  decide

theorem Settled.take (h : c.Settled) (request : Request Bytes) : (c.take request).Settled := by
  refine ⟨h.still, h.soc, ?_⟩
  have hget := (c.bus.memory.place_extends request).2 c.bounce (bounce_lt h.bounce)
  exact (congrArg List.length hget).trans h.bounce

theorem Settled.submit (h : c.Settled) (request : Request Bytes) :
    (c.submit request).2.Settled := by
  have hsubmits := c.submits request
  generalize (c.submit request).2 = c' at hsubmits ⊢
  cases hsubmits with
  | refuses => exact h
  | launches attached idle performs launches =>
    have taken := h.take request
    have still := launches.still performs taken.still
    cases launches <;> exact taken.performs performs still rfl rfl

theorem Settled.interrupt (h : c.Settled) (current : ∀ a, c.active = some a → a.current?.isSome = true) :
    c.interrupt.Settled := by
  have hinterrupts := interrupts current
  generalize c.interrupt = c' at hinterrupts ⊢
  cases hinterrupts with
  | rests => exact h
  | spurious _ _ performs => exact h.performs performs (performs.still rfl h.still) rfl rfl
  | serves attached ha hc performs serves =>
    have still := (serves.still performs h.still).2
    cases serves with
    | continues => exact h.performs performs still rfl rfl
    | finishes => exact h.performs performs still rfl rfl
    | stops words pending ends _ reached launched launches =>
      cases launches <;> exact h.performs performs still rfl rfl

theorem Settled.keeps (h : c.Settled) (hk : c.Keeps c') (hq : Quiet c l)
    (hp : Performs c.bus l c'.bus) : c'.Settled :=
  h.performs hp (hp.still hq.isStill h.still) hk.board hk.bounce

theorem settled_invariant : Invariant Settled where
  submit _ request h := h.submit request
  interrupt _ h current := h.interrupt current
  quiet _ _ _ h hq hp hk := h.keeps hk hq hp
  tickets _ _ h := ⟨h.still, h.soc, h.bounce⟩

theorem settled_after (unit : UInt32) (board : Board) (options : Options) (sim : Simulator)
    (soc : sim.soc = board.soc) (operations : List Operation) {c : Controller Simulator}
    (reached : (System.start unit board options sim).after operations = .whole c) : c.Settled := by
  have h := settled_invariant.after (.start unit board options sim)
    (settled_attach unit board options sim soc) operations
  rwa [reached] at h

end Controller

end CardHost
