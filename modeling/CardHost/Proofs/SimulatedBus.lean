import CardHost.Proofs.Settled

namespace CardHost

open Bus

def Register.isPlain (offset : Nat) : Bool :=
  Simulator.stores offset && !Simulator.isReadOnly offset &&
    !List.contains [Register.control, Register.enable, Register.disable, Register.command,
      Register.channelControl] offset

namespace Simulator

def setAll (s : Simulator) (l : List (Nat × UInt32)) : Simulator :=
  l.foldl (fun s w => s.setRegister w.1 w.2) s

theorem setAll_frame (s : Simulator) (l : List (Nat × UInt32)) :
    ∃ registers, s.setAll l = { s with registers } := by
  induction l generalizing s with
  | nil => exact ⟨s.registers, rfl⟩
  | cons w rest ih =>
    obtain ⟨registers, h⟩ := ih (s.setRegister w.1 w.2)
    exact ⟨registers, h⟩

theorem setAll_channels (s : Simulator) (l : List (Nat × UInt32)) (receiveOn transmitOn : Bool) :
    ({ s with receiveOn, transmitOn } : Simulator).setAll l = { s.setAll l with receiveOn, transmitOn } := by
  induction l generalizing s with
  | nil => rfl
  | cons w rest ih => exact ih (s.setRegister w.1 w.2)

theorem write_plain (s : Simulator) (mapped : Option Bytes) {offset : Nat} (value : UInt32)
    (plain : Register.isPlain offset = true) :
    s.write mapped offset value = (s.setRegister offset value, none) := by
  simp only [Register.isPlain, Bool.and_eq_true, Bool.not_eq_true', List.contains_cons,
    Bool.or_eq_false_iff, beq_eq_false_iff_ne] at plain
  obtain ⟨⟨stores, writable⟩, control, enable, disable, command, channels, -⟩ := plain
  simp only [write, control, enable, disable, command, channels, writable, stores, if_false,
    Bool.false_eq_true, if_true]

def prepared (s : Simulator) (length : Nat) : Simulator :=
  { s.setRegister Register.mode (Controller.blockMode (s.register Register.mode) length) with
    receiveOn := false, transmitOn := false }

/-- The registers of a transfer, up to the issue of its command; what the channel carries may be longer than
the block. -/
def aimed (s : Simulator) (d : Direction) (length carried : Nat) (argument : UInt32) : Simulator :=
  (s.prepared length).setAll
    [(d.pointer, busBase), (d.count, UInt32.ofNat (carried / 4)), (Register.argument, argument)]

def armedRead (s : Simulator) (length : Nat) (argument : UInt32) : Simulator :=
  { s.aimed .fromCard length length argument with receiveOn := true }

def armedWrite (s : Simulator) (length fetched : Nat) (argument : UInt32) : Simulator :=
  s.aimed .toCard length fetched argument

def armedPlain (s : Simulator) (argument : UInt32) : Simulator :=
  { s.setAll (Controller.clearChannels.tail ++ [(Register.argument, argument)]) with
    receiveOn := false, transmitOn := false }

theorem armedRead_frame (s : Simulator) (length : Nat) (argument : UInt32) :
    ∃ registers, s.armedRead length argument = { s with registers, receiveOn := true, transmitOn := false } := by
  obtain ⟨registers, h⟩ := (s.prepared length).setAll_frame
    [(Register.receivePointer, busBase), (Register.receiveCount, UInt32.ofNat (length / 4)),
      (Register.argument, argument)]
  have haimed : s.aimed .fromCard length length argument = { s.prepared length with registers } := h
  exact ⟨registers, by rw [armedRead, haimed]; rfl⟩

theorem prepared_still {s : Simulator} (h : s.Still) (length : Nat) : (s.prepared length).Still := by
  have hs : (s.setRegister Register.mode (Controller.blockMode (s.register Register.mode) length)).Still :=
    h.setRegister_other _ _ (by decide)
  exact ⟨hs.arrived, hs.awaited, hs.line, hs.receiveNext, hs.transmitNext⟩

theorem register_aimed (s : Simulator) (d : Direction) (length carried : Nat) (argument : UInt32)
    (offset : Nat) :
    (s.aimed d length carried argument).register offset =
      if offset = Register.argument then argument
      else if offset = d.count then UInt32.ofNat (carried / 4)
      else if offset = d.pointer then busBase
      else if offset = Register.mode then
        Controller.blockMode (s.register Register.mode) length
      else s.register offset := by
  change ((((s.setRegister Register.mode _).setRegister d.pointer _).setRegister d.count _).setRegister
    Register.argument argument).register offset = _
  simp only [register_setRegister]

theorem aimed_still {s : Simulator} (h : s.Still) (d : Direction) (length carried : Nat)
    (argument : UInt32) : (s.aimed d length carried argument).Still := by
  refine ⟨h.arrived, h.awaited, h.line, ?_, ?_⟩
  · rw [register_aimed]
    cases d <;> exact h.receiveNext
  · rw [register_aimed]
    cases d <;> exact h.transmitNext

theorem armedRead_still {s : Simulator} (h : s.Still) (length : Nat) (argument : UInt32) :
    (s.armedRead length argument).Still :=
  have aimed := aimed_still h .fromCard length length argument
  ⟨aimed.arrived, aimed.awaited, aimed.line, aimed.receiveNext, aimed.transmitNext⟩

theorem armedWrite_still {s : Simulator} (h : s.Still) (length fetched : Nat) (argument : UInt32) :
    (s.armedWrite length fetched argument).Still :=
  aimed_still h .toCard length fetched argument

theorem load_failed {s : Simulator} {loaded : Bool} {length : Nat} {e : MappingError}
    (fails : (s.load loaded length).1 = .error e) :
    (s.load loaded length).2 = { s with failNextLoad := false } := by
  unfold load at fails ⊢
  by_cases armed : s.failNextLoad = true
  · rw [if_pos armed]
  · have clear : ({ s with failNextLoad := false } : Simulator) = s := by
      rw [← Bool.of_not_eq_true armed]
    rw [if_neg armed] at fails ⊢
    rw [clear]
    by_cases long : length > maxMapping
    · rw [if_pos long]
    rw [if_neg long] at fails ⊢
    by_cases taken : loaded = true
    · rw [if_pos taken]
    · rw [if_neg taken] at fails
      cases fails

end Simulator

namespace Bus

variable (b : Bus Simulator)

theorem write_unmoved {offset : Nat} {value : UInt32} {s : Simulator}
    (h : b.hardware.write b.mapped offset value = (s, none)) :
    b.write offset value = { b with hardware := s } := by
  have hw : Hardware.write b.hardware b.mapped offset value = (s, none) := h
  simp only [write, hw, Option.bind_none]

theorem write_moved {offset : Nat} {value : UInt32} {s : Simulator} {moved : Bytes} {m : Mapping}
    (h : b.hardware.write b.mapped offset value = (s, some moved)) (hm : b.mapping = some m) :
    b.write offset value =
      { b with
        hardware := s
        memory := b.memory.set m.buffer
          (Bytes.overlay (moved.take m.length) (b.memory.get m.buffer)) } := by
  have hw : Hardware.write b.hardware b.mapped offset value = (s, some moved) := h
  simp only [write, hw, Option.bind_some, fill, hm, Option.map_some]

theorem writeAll_cons (w : Nat × UInt32) (l : List (Nat × UInt32)) :
    b.writeAll (w :: l) = (b.write w.1 w.2).writeAll l := rfl

theorem writeAll_nil : b.writeAll [] = b := rfl

theorem writeAll_plain (l : List (Nat × UInt32))
    (plain : l.all (fun w => Register.isPlain w.1) = true) :
    b.writeAll l = { b with hardware := b.hardware.setAll l } := by
  induction l generalizing b with
  | nil => rfl
  | cons w rest ih =>
    obtain ⟨hw, hrest⟩ := Bool.and_eq_true_iff.mp plain
    have hwrite := b.write_unmoved (b.hardware.write_plain b.mapped w.2 hw)
    rw [writeAll_cons, hwrite, ih _ hrest]
    rfl

theorem write_stop : b.write Register.channelControl Channel.stop =
    { b with hardware := { b.hardware with receiveOn := false, transmitOn := false } } := rfl

variable {b} in
theorem write_receiveOn (still : b.hardware.Still) :
    b.write Register.channelControl Channel.receiveOn =
      { b with hardware := { b.hardware with receiveOn := true } } :=
  b.write_unmoved (still.switchChannels_receiveOn b.mapped)

theorem write_enable (bits : UInt32) : b.write Register.enable bits =
    { b with hardware := { b.hardware with mask := b.hardware.mask ||| bits } } := rfl

theorem write_disable (bits : UInt32) : b.write Register.disable bits =
    { b with hardware := { b.hardware with mask := b.hardware.mask &&& ~~~bits } } := rfl

theorem writeAll_append (l l' : List (Nat × UInt32)) :
    b.writeAll (l ++ l') = (b.writeAll l).writeAll l' :=
  List.foldl_append

theorem load_free {buffer : BufferId} {length : Nat} {direction : Direction}
    (free : b.mapping = none) (loads : b.hardware.failNextLoad = false)
    (fits : length ≤ Simulator.maxMapping) :
    b.load buffer length direction =
      (.ok Simulator.busBase, { b with mapping := some ⟨buffer, length⟩ }) := by
  have hfits : ¬ ((b.memory.get buffer).take length).length > Simulator.maxMapping := by
    rw [List.length_take]
    omega
  have hload : Hardware.load b.hardware b.mapping.isSome ((b.memory.get buffer).take length)
      direction = (.ok Simulator.busBase, b.hardware) := by
    simp only [Hardware.load, Simulator.load, loads, free, Option.isSome_none, Bool.false_eq_true,
      if_false, hfits]
  simp only [load, hload]

theorem load_failed {buffer : BufferId} {length : Nat} {direction : Direction} {e : MappingError}
    (fails : (b.load buffer length direction).1 = .error e) :
    (b.load buffer length direction).2 =
      { b with hardware := { b.hardware with failNextLoad := false } } := by
  have refuses := @Simulator.load_failed b.hardware b.mapping.isSome
    ((b.memory.get buffer).take length).length e
  have asks : Hardware.load b.hardware b.mapping.isSome ((b.memory.get buffer).take length) direction =
      b.hardware.load b.mapping.isSome ((b.memory.get buffer).take length).length := rfl
  simp only [load, asks] at fails ⊢
  generalize b.hardware.load b.mapping.isSome _ = loaded at refuses fails
  obtain ⟨_ | _, hardware⟩ := loaded
  · cases fails
    rw [show hardware = _ from refuses rfl]
  · cases fails

end Bus

namespace Controller

variable {c : Controller Simulator} {a : Active} {command : Command BufferId}

theorem prepareData_simulated (c : Controller Simulator) (length : Nat) :
    c.prepareData length =
      { c with bus := { c.bus with hardware := c.bus.hardware.prepared length } } := by
  let mode := blockMode (c.bus.hardware.register Register.mode) length
  have hmode : c.bus.write Register.mode mode =
      { c.bus with hardware := c.bus.hardware.setRegister Register.mode mode } := rfl
  have hall : c.bus.writeAll [(Register.mode, mode), (Register.channelControl, Channel.stop)] =
      { c.bus with hardware := c.bus.hardware.prepared length } := by
    rw [writeAll_cons, hmode, writeAll_cons, write_stop]
    rfl
  simp only [prepareData, writeAll_eq]
  exact congrArg (fun bus => ({ c with bus } : Controller Simulator)) hall

theorem launch_plain_simulated (data : command.data = none) :
    c.launch command =
      { c with
        bus := ({ c.bus with hardware := c.bus.hardware.armedPlain command.argument } :
          Bus Simulator).writeAll
            [(Register.command, c.wireWord command),
              (Register.enable, Status.errors ||| Status.commandReady)] } := by
  have hw : CommandWord.ofCommand command c.host.bus.mode = c.wireWord command := by
    simp [wireWord, data]
  let l := clearChannels.tail ++ [(Register.argument, command.argument)]
  have hall : clearChannels ++ c.issuing command Status.commandReady =
      (Register.channelControl, Channel.stop) :: l ++
        [(Register.command, c.wireWord command),
          (Register.enable, Status.errors ||| Status.commandReady)] := rfl
  have plain : l.all (fun w => Register.isPlain w.1) = true := by
    simp only [l, List.all_append, List.all_cons, List.all_nil]
    rfl
  have hready : c.bus.writeAll ((Register.channelControl, Channel.stop) :: l) =
      { c.bus with hardware := c.bus.hardware.armedPlain command.argument } := by
    rw [writeAll_cons, write_stop, writeAll_plain _ l plain, Simulator.setAll_channels, Simulator.armedPlain]
  simp only [launch, data, issuePlain, writeAll_eq, hw]
  change ({ c with bus := c.bus.writeAll (clearChannels ++ c.issuing command Status.commandReady) } :
    Controller Simulator) = _
  rw [hall, writeAll_append, hready]

theorem blockLength_blockMode (mode : UInt32) (length : Nat) :
    (blockMode mode length >>> 16).toNat = length % 65536 := by
  have h16 : (16 : UInt32).toNat % 32 = 16 := rfl
  have hmode : (mode &&& ~~~Mode.blockLength) >>> 16 = 0 := by
    have hlow : (~~~Mode.blockLength).toNat >>> 16 = 0 := rfl
    apply UInt32.toNat_inj.mp
    rw [UInt32.toNat_shiftRight, UInt32.toNat_and, h16, Nat.shiftRight_and_distrib, hlow,
      Nat.and_zero]
    rfl
  have hlength : (((UInt32.ofNat length <<< 16) &&& Mode.blockLength) >>> 16).toNat =
      length % 65536 := by
    have hhigh : Mode.blockLength.toNat >>> 16 = 2 ^ 16 - 1 := rfl
    have hshift : ((length % 2 ^ 32) <<< 16 % 2 ^ 32) >>> 16 = length % 65536 := by
      rw [Nat.shiftLeft_eq, Nat.shiftRight_eq_div_pow]
      omega
    rw [UInt32.toNat_shiftRight, UInt32.toNat_and, UInt32.toNat_shiftLeft, h16, UInt32.toNat_ofNat',
      Nat.shiftRight_and_distrib, hhigh, hshift, Nat.and_two_pow_sub_one_eq_mod]
    exact Nat.mod_mod _ _
  have hor (a b : UInt32) : (a ||| b) >>> 16 = (a >>> 16) ||| (b >>> 16) := by
    apply UInt32.toNat_inj.mp
    simp only [UInt32.toNat_shiftRight, UInt32.toNat_or, Nat.shiftRight_or_distrib]
  rw [blockMode, hor, hor, hmode, UInt32.zero_or, show Mode.channels >>> 16 = 0 from rfl, UInt32.or_zero,
    hlength]

structure Launchable (c : Controller Simulator) : Prop where
  count : c.mapped = 0
  mapping : c.bus.mapping = none
  still : c.bus.hardware.Still
  loads : c.bus.hardware.failNextLoad = false

theorem writeAll_armedRead (bus : Bus Simulator) (still : bus.hardware.Still) (length : Nat)
    (argument : UInt32) :
    ({ bus with hardware := bus.hardware.prepared length } : Bus Simulator).writeAll
        [(Register.receivePointer, Simulator.busBase),
          (Register.receiveCount, UInt32.ofNat (length / 4)), (Register.argument, argument),
          (Register.channelControl, Channel.receiveOn)] =
      { bus with hardware := bus.hardware.armedRead length argument } := by
  let l := [(Register.receivePointer, Simulator.busBase),
    (Register.receiveCount, UInt32.ofNat (length / 4)), (Register.argument, argument)]
  have hplain := ({ bus with hardware := bus.hardware.prepared length } : Bus Simulator).writeAll_plain
    l (by
      simp only [l, List.all_cons, List.all_nil]
      rfl)
  have hstill : ((bus.hardware.prepared length).setAll l).Still := by
    have h := Simulator.armedRead_still still length argument
    exact ⟨h.arrived, h.awaited, h.line, h.receiveNext, h.transmitNext⟩
  have hall : [(Register.receivePointer, Simulator.busBase),
      (Register.receiveCount, UInt32.ofNat (length / 4)), (Register.argument, argument),
      (Register.channelControl, Channel.receiveOn)] =
        l ++ [(Register.channelControl, Channel.receiveOn)] := rfl
  rw [hall, writeAll_append, hplain, writeAll_cons, writeAll_nil]
  exact write_receiveOn hstill

theorem load_simulated (h : c.Launchable) (buffer : BufferId) (length : Nat) (direction : Direction)
    (fits : length ≤ Simulator.maxMapping) :
    c.load buffer length direction =
      (.ok Simulator.busBase,
        { c with bus := { c.bus with mapping := some ⟨buffer, length⟩ }, mapped := 1 }) := by
  have hfree : ¬ 0 < c.mapped := by rw [h.count]; exact Nat.lt_irrefl 0
  rw [load_eq, if_neg hfree, c.bus.load_free h.mapping h.loads fits, h.count]
  rfl

theorem mapData_read {data : Payload BufferId} (h : c.Launchable) (isRead : data.flags.isRead = true)
    (fits : (c.buffer data.buffer).length ≤ Simulator.maxMapping) :
    c.mapData data =
      (.ok (Simulator.busBase, (c.buffer data.buffer).length),
        { c with
          bus := { c.bus with mapping := some ⟨data.buffer, (c.buffer data.buffer).length⟩ }
          mapped := 1 }) := by
  simp only [mapData, isRead, if_true, load_simulated h _ _ _ fits]

theorem launch_read_simulated (h : c.Launchable) {data : Payload BufferId}
    (ha : c.active = some a) (hc : a.current? = some command) (hd : command.data = some data)
    (isRead : data.flags.isRead = true)
    (fits : (c.buffer data.buffer).length ≤ Simulator.maxMapping) :
    c.launch command =
      c.proceed
        (({ c.bus with
          hardware := c.bus.hardware.armedRead (c.buffer data.buffer).length command.argument
          mapping := some ⟨data.buffer, (c.buffer data.buffer).length⟩ } : Bus Simulator).writeAll
            [(Register.command, c.wireWord command),
              (Register.enable, Status.errors ||| Status.endReceive)])
        1 (a.replace (restaged command)) := by
  have transfers : data.flags.transfers = true := by simp [DataFlags.transfers, isRead]
  have harm := writeAll_armedRead
    { c.bus with mapping := some ⟨data.buffer, (c.buffer data.buffer).length⟩ } h.still
    (c.buffer data.buffer).length command.argument
  have hready : ({ c with
      bus := { c.bus with hardware := c.bus.hardware.prepared (c.buffer data.buffer).length }
      active := some (a.replace (restaged command)) } : Controller Simulator).Launchable :=
    ⟨h.count, h.mapping, Simulator.prepared_still h.still _, h.loads⟩
  rw [launch_transfer hd transfers, staging_eq ha hc hd (c.prepareData_simulated _),
    mapData_read hready isRead fits]
  simp only [isRead, if_true, issueRead, writeAll_eq]
  have hbus := congrArg (·.writeAll [(Register.command, c.wireWord command),
    (Register.enable, Status.errors ||| Status.endReceive)]) harm
  rw [← writeAll_append] at hbus
  exact congrArg (fun bus => c.proceed bus 1 (a.replace (restaged command))) hbus

def fetched (c : Controller Simulator) (source : Bytes) : Nat :=
  Staging.length source c.board.soc.secondRevision Staging.minLength

def bounced (c : Controller Simulator) (source : Bytes) : Bytes :=
  (Staging.layout source c.board.soc.secondRevision Staging.minLength
    c.board.soc.swapsBytes).overlay (c.buffer c.bounce)

theorem mapData_write {data : Payload BufferId} (h : c.Launchable)
    (isRead : data.flags.isRead = false)
    (room : c.fetched (c.buffer data.buffer) ≤ (c.buffer c.bounce).length)
    (fits : c.fetched (c.buffer data.buffer) ≤ Simulator.maxMapping) :
    c.mapData data =
      (.ok (Simulator.busBase, c.fetched (c.buffer data.buffer)),
        { c with
          bus := { c.bus with
            memory := c.bus.memory.set c.bounce (c.bounced (c.buffer data.buffer))
            mapping := some ⟨c.bounce, c.fetched (c.buffer data.buffer)⟩ }
          mapped := 1 }) := by
  have hstage : Staging.stage (c.buffer c.bounce) (c.buffer data.buffer) c.board.soc.secondRevision
      Staging.minLength c.board.soc.swapsBytes =
        .ok (c.fetched (c.buffer data.buffer), c.bounced (c.buffer data.buffer)) := by
    unfold Staging.stage
    exact if_neg (Nat.not_lt_of_le room)
  have hcopied : (c.setBuffer c.bounce (c.bounced (c.buffer data.buffer))).Launchable :=
    ⟨h.count, h.mapping, h.still, h.loads⟩
  simp only [mapData, isRead, Bool.false_eq_true, if_false, hstage,
    load_simulated hcopied _ _ _ fits]
  rfl

theorem writeAll_armedWrite (bus : Bus Simulator) (length fetched : Nat) (argument : UInt32) :
    ({ bus with hardware := bus.hardware.prepared length } : Bus Simulator).writeAll
        [(Register.transmitPointer, Simulator.busBase),
          (Register.transmitCount, UInt32.ofNat (fetched / 4)), (Register.argument, argument)] =
      { bus with hardware := bus.hardware.armedWrite length fetched argument } := by
  rw [writeAll_plain]
  · rfl
  · simp only [List.all_cons, List.all_nil]
    rfl

theorem launch_write_simulated (h : c.Launchable) {data : Payload BufferId}
    (ha : c.active = some a) (hc : a.current? = some command) (hd : command.data = some data)
    (isRead : data.flags.isRead = false) (isWrite : data.flags.isWrite = true)
    (room : c.fetched (c.buffer data.buffer) ≤ (c.buffer c.bounce).length)
    (fits : c.fetched (c.buffer data.buffer) ≤ Simulator.maxMapping) :
    c.launch command =
      c.proceed
        (({ hardware := c.bus.hardware.armedWrite (c.buffer data.buffer).length
              (c.fetched (c.buffer data.buffer)) command.argument
            memory := c.bus.memory.set c.bounce (c.bounced (c.buffer data.buffer))
            mapping := some ⟨c.bounce, c.fetched (c.buffer data.buffer)⟩ } : Bus Simulator).writeAll
              [(Register.command, c.wireWord command),
                (Register.channelControl, Channel.transmitOn),
                (Register.enable, Status.errors ||| Status.transmitEmpty)])
        1 (a.replace (restaged command)) := by
  have transfers : data.flags.transfers = true := by simp [DataFlags.transfers, isWrite]
  have harm := writeAll_armedWrite
    { c.bus with
      memory := c.bus.memory.set c.bounce (c.bounced (c.buffer data.buffer))
      mapping := some ⟨c.bounce, c.fetched (c.buffer data.buffer)⟩ }
    (c.buffer data.buffer).length (c.fetched (c.buffer data.buffer)) command.argument
  have hready : ({ c with
      bus := { c.bus with hardware := c.bus.hardware.prepared (c.buffer data.buffer).length }
      active := some (a.replace (restaged command)) } : Controller Simulator).Launchable :=
    ⟨h.count, h.mapping, Simulator.prepared_still h.still _, h.loads⟩
  rw [launch_transfer hd transfers, staging_eq ha hc hd (c.prepareData_simulated _),
    mapData_write hready isRead room fits]
  simp only [isRead, Bool.false_eq_true, if_false, issueWrite, writeAll_eq]
  have hbus := congrArg (·.writeAll [(Register.command, c.wireWord command),
    (Register.channelControl, Channel.transmitOn),
    (Register.enable, Status.errors ||| Status.transmitEmpty)]) harm
  rw [← writeAll_append] at hbus
  exact congrArg (fun bus => c.proceed bus 1 (a.replace (restaged command))) hbus

section Failing

variable {data : Payload BufferId}

instance (c : Controller Simulator) (data : Payload BufferId) : Decidable (c.overlong data) :=
  inferInstanceAs (Decidable (_ ∧ _))

theorem load_ok_simulated {buffer : BufferId} {length : Nat} {direction : Direction}
    {address : UInt32} {c' : Controller Simulator}
    (h : c.load buffer length direction = (.ok address, c')) :
    c.mapped = 0 ∧ c.bus.hardware.failNextLoad = false ∧
      ((c.buffer buffer).take length).length ≤ Simulator.maxMapping := by
  rw [load_eq] at h
  split at h
  · cases h
  · next free =>
    have hload : (c.bus.load buffer length direction).1 =
        (c.bus.hardware.load c.bus.mapping.isSome ((c.buffer buffer).take length).length).1 := by
      unfold Bus.load
      dsimp only
      split <;> next hl => exact (congrArg Prod.fst hl).symm
    have hok := (congrArg Prod.fst h).symm.trans hload
    refine ⟨Nat.eq_zero_of_not_pos free, ?_⟩
    dsimp only at hok
    unfold Simulator.load at hok
    split at hok
    · cases hok
    · next loads =>
      split at hok
      · cases hok
      · next room => exact ⟨Bool.eq_false_iff.mpr loads, Nat.le_of_not_lt room⟩

theorem mapData_ok_simulated {r : UInt32 × Nat} {c' : Controller Simulator}
    (h : c.mapData data = (.ok r, c')) :
    c.mapped = 0 ∧ c.bus.hardware.failNextLoad = false ∧
      if data.flags.isRead then (c.buffer data.buffer).length ≤ Simulator.maxMapping
      else c.fetched (c.buffer data.buffer) ≤ (c.buffer c.bounce).length := by
  simp only [mapData] at h
  split at h
  · next isRead =>
    split at h
    · next hload =>
      obtain ⟨free, loads, room⟩ := load_ok_simulated hload
      rw [List.take_length] at room
      exact ⟨free, loads, by rwa [if_pos isRead]⟩
    · cases h
  · next isRead =>
    split at h
    · cases h
    · next hstage =>
      obtain ⟨hlength, room, -⟩ := Staging.stage_ok hstage
      split at h
      · next hload =>
        obtain ⟨free, loads, -⟩ := load_ok_simulated hload
        refine ⟨free, loads, ?_⟩
        rw [if_neg isRead, fetched, ← hlength]
        exact room
      · cases h

theorem load_failed_simulated {buffer : BufferId} {length : Nat} {direction : Direction}
    {e : MappingError} (fails : (c.load buffer length direction).1 = .error e) :
    (c.load buffer length direction).2 =
      { c with bus := { c.bus with hardware := { c.bus.hardware with
        failNextLoad := c.bus.hardware.failNextLoad && decide (0 < c.mapped) } } } := by
  rw [load_eq] at fails ⊢
  by_cases taken : 0 < c.mapped
  · rw [if_pos taken, decide_eq_true taken, Bool.and_true]
  · rw [if_neg taken] at fails ⊢
    rw [decide_eq_false taken, Bool.and_false]
    dsimp only at fails ⊢
    rw [Bus.load_failed _ fails, fails]
    rfl

theorem mapData_failed_simulated {e : MappingError} (fails : (c.mapData data).1 = .error e) :
    ∃ memory, c.bus.memory.Alike memory ∧ (∀ id ≠ c.bounce, memory.get id = c.bus.memory.get id) ∧
      (c.mapData data).2 = { c with bus := { c.bus with
        hardware := { c.bus.hardware with
          failNextLoad := c.bus.hardware.failNextLoad && decide (0 < c.mapped ∨ c.overlong data) }
        memory } } := by
  obtain ⟨fits, hl⟩ | ⟨overlong, same⟩ | ⟨fits, length, bytes, copied, hl⟩ := mapData_error fails
  · have failed := load_failed_simulated (congrArg Prod.fst hl)
    rw [hl] at failed
    simp only [fits, or_false]
    exact ⟨c.bus.memory, .refl _, fun _ _ => rfl, failed⟩
  · refine ⟨c.bus.memory, .refl _, fun _ _ => rfl, ?_⟩
    rw [same, decide_eq_true (Or.inr overlong), Bool.and_true]
  · have failed := load_failed_simulated (congrArg Prod.fst hl)
    rw [hl] at failed
    simp only [fits, or_false]
    refine ⟨c.bus.memory.set c.bounce bytes, c.bus.memory.alike_set _ _ copied, fun id other => ?_, failed⟩
    rw [Memory.get_set, if_neg fun h => other h.1.symm]

theorem mapData_refused
    (reason : (0 < c.mapped ∨ c.overlong data) ∨ c.bus.hardware.failNextLoad = true) :
    ∃ e, (c.mapData data).1 = .error e := by
  rcases mapped : c.mapData data with ⟨e | r, c'⟩
  · exact ⟨e, rfl⟩
  · obtain ⟨free, loads, room⟩ := mapData_ok_simulated mapped
    obtain (taken | overlong) | armed := reason
    · exact (Nat.ne_of_gt taken free).elim
    · rw [overlong.1, if_neg (by decide)] at room
      exact (Nat.not_lt_of_le room overlong.2).elim
    · cases armed.symm.trans loads

theorem staging_refused (ha : c.active = some a) (hc : a.current? = some command)
    (hd : command.data = some data)
    (reason : (0 < c.mapped ∨ c.overlong data) ∨ c.bus.hardware.failNextLoad = true) :
    ∃ e, ((c.staging data).mapData data).1 = .error e := by
  rw [staging_eq ha hc hd (c.prepareData_simulated (c.buffer data.buffer).length)]
  exact mapData_refused reason

theorem launch_failed_simulated (ha : c.active = some a) (hc : a.current? = some command)
    (hd : command.data = some data) (transfers : data.flags.transfers = true) {e : MappingError}
    (fails : ((c.staging data).mapData data).1 = .error e) :
    ∃ memory, c.bus.memory.Alike memory ∧ (∀ id ≠ c.bounce, memory.get id = c.bus.memory.get id) ∧
      c.launch command =
        { c with
          bus := { c.bus with
            hardware := { c.bus.hardware.prepared (c.buffer data.buffer).length with
              failNextLoad :=
                c.bus.hardware.failNextLoad && decide (0 < c.mapped ∨ c.overlong data) }
            memory }
          tickets := delivered c.tickets (a.replace (unmapped command)), active := none } := by
  obtain ⟨memory, halike, hothers, hmap⟩ := mapData_failed_simulated fails
  rw [launch_transfer hd transfers]
  generalize hmapped : (c.staging data).mapData data = mapped at fails hmap
  obtain ⟨result, refused⟩ := mapped
  cases fails
  have hstaging := staging_eq ha hc hd (c.prepareData_simulated (c.buffer data.buffer).length)
  rw [hstaging] at halike hothers hmap
  refine ⟨memory, halike, hothers, ?_⟩
  rw [show refused = _ from hmap]
  exact refuse_eq hc _

end Failing

end Controller

end CardHost
