import CardHost.Proofs.Completion
import CardHost.Proofs.TransferCommands
import CardHost.Proofs.Views

namespace CardHost

open Bus

namespace Simulator

variable {s s' t : Simulator} {word : UInt32} {goesOn : Bool}

def armedIdle (s : Simulator) (length : Nat) (argument : UInt32) : Simulator :=
  (s.prepared length).setRegister Register.argument argument

theorem view_prepared (s : Simulator) (length : Nat) : (s.prepared length).view = s.view := by
  rw [prepared, view_channels]
  exact s.view_setRegister Register.mode _ (by decide) (by decide)

theorem view_armedIdle (s : Simulator) (length : Nat) (argument : UInt32) :
    (s.armedIdle length argument).view = s.view :=
  (view_setAll (s.prepared length) (l := [(Register.argument, argument)]) rfl).trans
    (s.view_prepared length)

theorem view_armedWrite (s : Simulator) (length fetched : Nat) (argument : UInt32) :
    (s.armedWrite length fetched argument).view = s.view := by
  have hset : (s.armedWrite length fetched argument).view = (s.prepared length).view := by
    apply view_setAll
    rfl
  rw [hset, view_prepared]

theorem view_armedRead (s : Simulator) (length : Nat) (argument : UInt32) :
    (s.armedRead length argument).view =
      { s.view with receiveCount := UInt32.ofNat (length / 4) } := by
  have hcount := ((s.prepared length).setRegister Register.receivePointer busBase).view_setCount
    (UInt32.ofNat (length / 4))
  have hpointer := (s.prepared length).view_setRegister Register.receivePointer busBase (by decide)
    (by decide)
  rw [hpointer, view_prepared] at hcount
  rw [← hcount]
  exact (((s.prepared length).setRegister Register.receivePointer busBase).setRegister
    Register.receiveCount _).view_setRegister Register.argument argument (by decide) (by decide)

theorem view_armedPlain (s : Simulator) (argument : UInt32) :
    (s.armedPlain argument).view = { s.view with receiveCount := 0 } := by
  have hall : Controller.clearChannels.tail ++ [(Register.argument, argument)] =
      [(Register.receivePointer, 0), (Register.receiveCount, 0)] ++
        (Controller.clearChannels.drop 3 ++ [(Register.argument, argument)]) := rfl
  have hcount := (s.setRegister Register.receivePointer 0).view_setCount 0
  rw [s.view_setRegister Register.receivePointer 0 (by decide) (by decide)] at hcount
  rw [armedPlain, view_channels, hall, setAll, List.foldl_append, ← setAll, view_setAll _ rfl]
  exact hcount

structure Arms (s : Simulator) (v : View) (argument : UInt32) : Prop where
  view : s.view = v
  argument : s.register Register.argument = argument

theorem Arms.setCommand {v : View} {argument : UInt32} (h : s.Arms v argument) (word : UInt32) :
    (s.setRegister Register.command word).Arms v argument := by
  refine ⟨(s.view_setRegister Register.command word (by decide) (by decide)).trans h.view, ?_⟩
  rw [register_setRegister, if_neg (by decide)]
  exact h.argument

theorem Arms.alike {v : View} {argument : UInt32} (h : s.Arms v argument) (h' : s'.Arms v argument)
    (responds : s.Responds word goesOn t) : ∃ t', s'.Responds word goesOn t' ∧ t'.view = t.view :=
  responds.alike (h'.view.trans h.view.symm) (h'.argument.trans h.argument.symm)

end Simulator

namespace Bus

variable (b : Bus Simulator) {word : UInt32} {goesOn : Bool} {t : Simulator}

theorem issued_quiet (h : (b.hardware.setRegister Register.command word).Responds word false t)
    (bits : UInt32) :
    b.writeAll [(Register.command, word), (Register.enable, bits)] =
      { b with hardware := { t with mask := t.mask ||| bits } } := by
  have hissue : b.hardware.write b.mapped Register.command word = (t, none) := h.issue b.mapped
  rw [writeAll_cons, b.write_unmoved hissue, writeAll_cons, write_enable, writeAll_nil]

theorem issued_read (h : (b.hardware.setRegister Register.command word).Responds word goesOn t)
    {id : BufferId} (mapping : b.mapping = some ⟨id, (b.memory.get id).length⟩)
    (on : t.receiveOn = true) (direction : anyBit word CommandWord.fromCard = true)
    (length : t.blockLength = (b.memory.get id).length)
    (pointer : t.register Register.receivePointer = Simulator.busBase)
    (count : (t.register Register.receiveCount).toNat * 4 = (b.memory.get id).length)
    (bits : UInt32) :
    ∃ u data, t.Fetches (b.memory.get id).length goesOn u data ∧
      b.writeAll [(Register.command, word), (Register.enable, bits)] =
        { b with
          hardware := { u with mask := u.mask ||| bits }
          memory := data.elim b.memory fun data => b.memory.set id (t.inMemory data) } := by
  obtain ⟨u, data, hfetches, hstart⟩ := t.fetches on direction _ length pointer count goesOn
  have hmapped : b.mapped = some (b.memory.get id) := by
    rw [mapped, mapping, Option.map_some, List.take_length]
  have hissue : b.hardware.write b.mapped Register.command word = (u, data.map t.inMemory) := by
    rw [← hstart, hmapped]
    exact h.issue _
  refine ⟨u, data, hfetches, ?_⟩
  cases data with
  | none => rw [writeAll_cons, b.write_unmoved hissue, writeAll_cons, write_enable, writeAll_nil]; rfl
  | some data =>
    have hlength : (t.inMemory data).length = (b.memory.get id).length :=
      (t.length_inMemory data).trans hfetches.length
    rw [writeAll_cons, b.write_moved hissue mapping, writeAll_cons, write_enable, writeAll_nil,
      ← hlength, List.take_length, Bytes.overlay_all hlength]
    rfl

theorem issued_write (h : (b.hardware.setRegister Register.command word).Responds word goesOn t)
    (still : t.Still) (off : t.transmitOn = false)
    (direction : anyBit word CommandWord.fromCard = false) {source bytes : Bytes} {fetched : Nat}
    (mapped : b.mapped = some bytes) (pointer : t.register Register.transmitPointer = Simulator.busBase)
    (count : (t.register Register.transmitCount).toNat * 4 = fetched) (room : fetched ≤ bytes.length)
    (enough : t.soc.secondRevision = true → Staging.minLength ≤ fetched)
    (carries : (t.inMemory (bytes.take fetched)).take t.blockLength = source) (bits : UInt32) :
    ∃ u, t.Sends source goesOn u ∧
      b.writeAll [(Register.command, word), (Register.channelControl, Channel.transmitOn),
          (Register.enable, bits)] =
        { b with hardware := { u with mask := u.mask ||| bits } } := by
  obtain ⟨waiting, u, hsends, hstart, hon⟩ := still.sends off direction pointer count room enough carries
    goesOn
  have hissue : b.hardware.write b.mapped Register.command word = (waiting, none) := by
    rw [← hstart, mapped]
    exact h.issue _
  have hon' : waiting.write ({ b with hardware := waiting } : Bus Simulator).mapped
      Register.channelControl Channel.transmitOn = (u, none) := by
    rw [← hon, ← mapped]
    rfl
  refine ⟨u, hsends, ?_⟩
  rw [writeAll_cons, b.write_unmoved hissue, writeAll_cons, write_unmoved _ hon', writeAll_cons,
    write_enable, writeAll_nil]

end Bus

namespace Controller

open Simulator

variable {c : Controller Simulator} {a : Active} {command : Command BufferId}

def armedView (c : Controller Simulator) (command : Command BufferId) : Simulator.View :=
  match command.data with
  | none => { c.bus.hardware.view with receiveCount := 0 }
  | some data =>
    if data.flags.isRead then
      { c.bus.hardware.view with receiveCount := UInt32.ofNat ((c.buffer data.buffer).length / 4) }
    else c.bus.hardware.view

theorem mask_armedView (c : Controller Simulator) (command : Command BufferId) :
    (c.armedView command).mask = c.bus.hardware.mask := by
  unfold armedView
  split
  · rfl
  · split <;> rfl

theorem armed_mask {armed t : Simulator} {word : UInt32} {goesOn : Bool}
    (arms : armed.Arms (c.armedView command) command.argument)
    (responds : armed.Responds word goesOn t) : t.mask = c.bus.hardware.mask := by
  obtain ⟨latched, injected, card, registers, rfl, -⟩ := responds.frame
  exact (congrArg View.mask arms.view).trans (c.mask_armedView command)

theorem launch_idle_simulated {data : Payload BufferId} (hd : command.data = some data)
    (still : data.flags.transfers = false) :
    c.launch command =
      { c with
        bus := ({ c.bus with
          hardware := c.bus.hardware.armedIdle (c.buffer data.buffer).length command.argument } :
            Bus Simulator).writeAll
              [(Register.command, c.wireWord command),
                (Register.enable, Status.errors ||| Status.commandReady)] } := by
  have hw : CommandWord.ofCommand command c.host.bus.mode ||| CommandWord.ofData data.flags =
      c.wireWord command := by
    simp [wireWord, hd]
  have hargument : ({ c.bus with hardware := c.bus.hardware.prepared (c.buffer data.buffer).length } :
      Bus Simulator).write Register.argument command.argument =
        { c.bus with
          hardware := c.bus.hardware.armedIdle (c.buffer data.buffer).length command.argument } := rfl
  simp only [launch, hd, still, prepareData_simulated, issueIdle, writeAll_eq, hw, Bool.false_eq_true,
    if_false]
  rw [writeAll_cons, hargument]

theorem launch_quiet (mask : c.bus.hardware.mask = 0) (quiet : command.transfers = false) :
    ∃ armed : Simulator, armed.Arms (c.armedView command) command.argument ∧
      ∀ t, armed.Responds (c.wireWord command) false t →
        c.launch command =
          { c with bus := { c.bus with hardware := { t with mask := Stage.ready.mask } } } := by
  have enabled {armed t : Simulator} (arms : armed.Arms (c.armedView command) command.argument)
      (responds : armed.Responds (c.wireWord command) false t) :
      t.mask ||| (Status.errors ||| Status.commandReady) = Stage.ready.mask := by
    rw [armed_mask arms responds, mask]
    exact UInt32.zero_or
  cases hd : command.data with
  | none =>
    have arms : (c.bus.hardware.armedPlain command.argument).Arms (c.armedView command)
        command.argument := by
      refine ⟨?_, c.bus.hardware.register_armedPlain command.argument⟩
      rw [view_armedPlain, armedView, hd]
    have issued := launch_plain_simulated (c := c) hd
    generalize c.bus.hardware.armedPlain command.argument = armed at arms issued
    refine ⟨_, arms.setCommand (c.wireWord command), fun t responds => ?_⟩
    rw [issued, issued_quiet { c.bus with hardware := armed } responds,
      enabled (arms.setCommand (c.wireWord command)) responds]
  | some data =>
    have still : data.flags.transfers = false := by
      rw [Command.transfers, hd] at quiet
      exact quiet
    have isRead : data.flags.isRead = false := (Bool.or_eq_false_iff.mp still).1
    have arms : (c.bus.hardware.armedIdle (c.buffer data.buffer).length command.argument).Arms
        (c.armedView command) command.argument := by
      refine ⟨?_, ?_⟩
      · rw [view_armedIdle, armedView, hd]
        simp only [isRead, Bool.false_eq_true, if_false]
      · rw [armedIdle, register_setRegister, if_pos rfl]
    have issued := launch_idle_simulated (c := c) hd still
    generalize c.bus.hardware.armedIdle (c.buffer data.buffer).length command.argument = armed
      at arms issued
    refine ⟨_, arms.setCommand (c.wireWord command), fun t responds => ?_⟩
    rw [issued, issued_quiet { c.bus with hardware := armed } responds,
      enabled (arms.setCommand (c.wireWord command)) responds]

theorem register_issued {armed t : Simulator} {word : UInt32} {goesOn : Bool}
    (responds : (armed.setRegister Register.command word).Responds word goesOn t) {offset : Nat}
    (other : offset ≠ Register.command)
    (free : offset < Register.response ∨ Register.response + 16 ≤ offset) :
    t.register offset = armed.register offset := by
  obtain ⟨latched, injected, card, registers, rfl, hregisters⟩ := responds.frame
  have hcommand := armed.register_setRegister Register.command offset word
  rw [if_neg other] at hcommand
  exact (hregisters offset free).trans hcommand

theorem arms_armedRead (c : Controller Simulator) {data : Payload BufferId}
    (hd : command.data = some data) (isRead : data.flags.isRead = true) :
    (c.bus.hardware.armedRead (c.buffer data.buffer).length command.argument).Arms
      (c.armedView command) command.argument := by
  refine ⟨?_, ?_⟩
  · rw [view_armedRead, armedView, hd]
    simp only [isRead, if_true]
  · exact (c.bus.hardware.register_aimed .fromCard _ _ _ _).trans (if_pos rfl)

theorem arms_armedWrite (c : Controller Simulator) {data : Payload BufferId}
    (hd : command.data = some data) (isRead : data.flags.isRead = false) (fetched : Nat) :
    (c.bus.hardware.armedWrite (c.buffer data.buffer).length fetched command.argument).Arms
      (c.armedView command) command.argument := by
  refine ⟨?_, ?_⟩
  · rw [view_armedWrite, armedView, hd]
    simp only [isRead, Bool.false_eq_true, if_false]
  · exact (c.bus.hardware.register_aimed .toCard _ _ _ _).trans (if_pos rfl)

theorem launch_reads (h : c.Launchable) (mask : c.bus.hardware.mask = 0) {data : Payload BufferId}
    (ha : c.active = some a) (hc : a.current? = some command) (hd : command.data = some data)
    (isRead : data.flags.isRead = true) (words : (c.buffer data.buffer).length % 4 = 0)
    (short : (c.buffer data.buffer).length < 65536) :
    ∃ armed : Simulator, armed.Arms (c.armedView command) command.argument ∧
      ∀ goesOn t, armed.Responds (c.wireWord command) goesOn t →
        ∃ u received, t.Fetches (c.buffer data.buffer).length goesOn u received ∧
          c.launch command =
            c.proceed ⟨{ u with mask := Stage.receiving.mask },
              received.elim c.bus.memory fun bytes =>
                c.bus.memory.set data.buffer (c.bus.hardware.inMemory bytes),
              some ⟨data.buffer, (c.buffer data.buffer).length⟩⟩ 1 (a.replace (restaged command)) := by
  have fits : (c.buffer data.buffer).length ≤ maxMapping :=
    Nat.le_trans (Nat.le_of_lt short) (by decide)
  have issued := launch_read_simulated h ha hc hd isRead fits
  have arms := c.arms_armedRead hd isRead
  have direction : anyBit (c.wireWord command) CommandWord.fromCard = true := by
    rw [c.wireWord_fromCard, hd]
    exact isRead
  have on : (c.bus.hardware.armedRead (c.buffer data.buffer).length command.argument).receiveOn =
      true := rfl
  have soc : (c.bus.hardware.armedRead (c.buffer data.buffer).length command.argument).soc =
      c.bus.hardware.soc := rfl
  have channel {t : Simulator} := @channel_armedRead c.bus.hardware t command.argument _ fits
  generalize c.bus.hardware.armedRead (c.buffer data.buffer).length command.argument = armed
    at arms issued on soc channel
  refine ⟨_, arms.setCommand (c.wireWord command), fun goesOn t responds => ?_⟩
  obtain ⟨length, pointer, count⟩ := channel fun offset other free => register_issued responds other free
  rw [Nat.mod_eq_of_lt short] at length
  rw [Nat.mul_div_cancel' (Nat.dvd_of_mod_eq_zero words)] at count
  have hmask := armed_mask (arms.setCommand (c.wireWord command)) responds
  have hframe : t.receiveOn = true ∧ t.inMemory = c.bus.hardware.inMemory := by
    obtain ⟨latched, injected, card, registers, rfl, -⟩ := responds.frame
    refine ⟨on, ?_⟩
    unfold inMemory
    rw [← soc]
    rfl
  obtain ⟨u, received, hfetches, hall⟩ := Bus.issued_read { c.bus with
    hardware := armed, mapping := some ⟨data.buffer, (c.buffer data.buffer).length⟩ } responds rfl
    hframe.1 direction length pointer count (Status.errors ||| Status.endReceive)
  refine ⟨u, received, hfetches, ?_⟩
  rw [issued, hall, hfetches.mask, hmask, mask, UInt32.zero_or, hframe.2]
  rfl

theorem dvd_fetched (c : Controller Simulator) {source : Bytes} (words : source.length % 4 = 0) :
    4 ∣ c.fetched source := by
  obtain h | h := Staging.length_eq source c.board.soc.secondRevision Staging.minLength
  · rw [fetched, h]
    decide
  · rw [fetched, h]
    exact Nat.dvd_of_mod_eq_zero words

theorem minLength_le_fetched (c : Controller Simulator) (source : Bytes)
    (revision : c.board.soc.secondRevision = true) : Staging.minLength ≤ c.fetched source := by
  rw [fetched, revision]
  exact Staging.minLength_le_length _ _

theorem layout_fetched (c : Controller Simulator) {source : Bytes} (words : source.length % 4 = 0)
    {s : Simulator} (soc : s.soc = c.board.soc) :
    (s.inMemory ((Staging.layout source c.board.soc.secondRevision Staging.minLength
      c.board.soc.swapsBytes).take (c.fetched source))).take source.length = source := by
  have hcarries := Staging.layout_carries c.board.soc source (c.fetched source / 4)
  have hcovers : source.length ≤ c.fetched source := Staging.le_length _ _ _
  rw [Nat.mul_div_cancel' (c.dvd_fetched words), List.take_of_length_le hcovers] at hcarries
  rw [inMemory, soc]
  exact hcarries

theorem launch_writes (h : c.Launchable) (mask : c.bus.hardware.mask = 0)
    (soc : c.bus.hardware.soc = c.board.soc) (bounce : (c.buffer c.bounce).length = Staging.capacity)
    {data : Payload BufferId} (ha : c.active = some a) (hc : a.current? = some command)
    (hd : command.data = some data) (isRead : data.flags.isRead = false)
    (isWrite : data.flags.isWrite = true) (words : (c.buffer data.buffer).length % 4 = 0)
    (short : (c.buffer data.buffer).length ≤ Staging.capacity) :
    ∃ armed : Simulator, armed.Arms (c.armedView command) command.argument ∧
      ∀ goesOn t, armed.Responds (c.wireWord command) goesOn t →
        t.register Register.transmitCount = UInt32.ofNat (c.fetched (c.buffer data.buffer) / 4) ∧
        ∃ u, t.Sends (c.buffer data.buffer) goesOn u ∧
          c.launch command =
            c.proceed ⟨{ u with mask := Stage.sending.mask },
              c.bus.memory.set c.bounce (c.bounced (c.buffer data.buffer)),
              some ⟨c.bounce, c.fetched (c.buffer data.buffer)⟩⟩ 1 (a.replace (restaged command)) := by
  have room : c.fetched (c.buffer data.buffer) ≤ (c.buffer c.bounce).length := by
    rw [bounce]
    exact Staging.length_le short _
  have fits : c.fetched (c.buffer data.buffer) ≤ maxMapping :=
    Nat.le_trans room (by rw [bounce]; decide)
  have issued := launch_write_simulated h ha hc hd isRead isWrite room fits
  have arms := c.arms_armedWrite hd isRead (c.fetched (c.buffer data.buffer))
  have hcount : (c.bus.hardware.armedWrite (c.buffer data.buffer).length
      (c.fetched (c.buffer data.buffer)) command.argument).register Register.transmitCount =
        UInt32.ofNat (c.fetched (c.buffer data.buffer) / 4) :=
    c.bus.hardware.register_aimed .toCard _ _ _ _
  have direction : anyBit (c.wireWord command) CommandWord.fromCard = false := by
    rw [c.wireWord_fromCard, hd]
    exact isRead
  have still := armedWrite_still h.still (c.buffer data.buffer).length
    (c.fetched (c.buffer data.buffer)) command.argument
  have frame : (c.bus.hardware.armedWrite (c.buffer data.buffer).length
      (c.fetched (c.buffer data.buffer)) command.argument).transmitOn = false ∧
        (c.bus.hardware.armedWrite (c.buffer data.buffer).length
          (c.fetched (c.buffer data.buffer)) command.argument).soc = c.board.soc := ⟨rfl, soc⟩
  have channel {t : Simulator} := @channel_armedWrite c.bus.hardware t command.argument
    (c.buffer data.buffer).length _ fits
  generalize c.bus.hardware.armedWrite (c.buffer data.buffer).length
    (c.fetched (c.buffer data.buffer)) command.argument = armed at arms issued hcount still frame channel
  refine ⟨_, arms.setCommand (c.wireWord command), fun goesOn t responds => ?_⟩
  obtain ⟨length, pointer, count⟩ := channel fun offset other free => register_issued responds other free
  have hstill : t.Still := responds.still (still.setRegister_other _ _ (by decide))
  have hmask := armed_mask (arms.setCommand (c.wireWord command)) responds
  have hframe : t.transmitOn = false ∧ t.soc = c.board.soc := by
    obtain ⟨latched, injected, card, registers, rfl, -⟩ := responds.frame
    exact frame
  rw [Nat.mod_eq_of_lt (Nat.lt_of_le_of_lt short (by decide))] at length
  rw [Nat.mul_div_cancel' (c.dvd_fetched words)] at count
  have hmapped := bounced_take bounce short
  have hlayout := Staging.length_layout (c.buffer data.buffer) c.board.soc.secondRevision
    Staging.minLength c.board.soc.swapsBytes
  have henough : t.soc.secondRevision = true → Staging.minLength ≤ c.fetched (c.buffer data.buffer) := by
    rw [hframe.2]
    exact c.minLength_le_fetched _
  have hcarries := c.layout_fetched words hframe.2
  rw [← length] at hcarries
  obtain ⟨u, hsends, hall⟩ := Bus.issued_write
    { hardware := armed
      memory := c.bus.memory.set c.bounce (c.bounced (c.buffer data.buffer))
      mapping := some ⟨c.bounce, c.fetched (c.buffer data.buffer)⟩ }
    responds hstill hframe.1 direction (congrArg some hmapped) pointer count
    (Nat.le_of_eq hlayout.symm) henough hcarries (Status.errors ||| Status.transmitEmpty)
  have hleft : t.register Register.transmitCount = armed.register Register.transmitCount :=
    register_issued responds (by decide) (by decide)
  refine ⟨hleft.trans hcount, u, hsends, ?_⟩
  rw [issued, hall, hsends.mask, hmask, mask, UInt32.zero_or]
  rfl

end Controller

end CardHost
