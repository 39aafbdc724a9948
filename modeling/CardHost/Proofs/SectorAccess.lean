import CardHost.CommandLine.Tool
import CardHost.Proofs.Bench
import CardHost.Proofs.BringUp

namespace CardHost

namespace CardInfo

/-- Where a session looks for a sector, in bytes. An argument has 32 bits, so that a number beyond them
names the sector of another one. -/
def sectorOffset (info : CardInfo) (block : UInt64) : Nat :=
  if info.highCapacity then blockSize * (block.toNat % UInt32.size)
  else blockSize * block.toNat % UInt32.size

/-- Numbers whose argument is not cut off. -/
def numbers (info : CardInfo) (block : UInt64) : Prop :=
  block.toNat < if info.highCapacity then UInt32.size else UInt32.size / blockSize

theorem sectorOffset_eq_iff (info : CardInfo) (block : UInt64) :
    info.sectorOffset block = blockSize * block.toNat ↔ info.numbers block := by
  unfold sectorOffset numbers blockSize UInt32.size
  cases info.highCapacity <;> simp only [Bool.false_eq_true, if_false, if_true] <;> omega

theorem byteOffset_blockArgument {info : CardInfo} {card : Card}
    (addressed : card.highCapacity = info.highCapacity) (block : UInt64) :
    card.byteOffset (info.blockArgument block) = info.sectorOffset block := by
  unfold Card.byteOffset blockArgument sectorOffset
  rw [addressed]
  cases info.highCapacity with
  | true =>
    simp only [if_true, UInt64.toNat_toUInt32]
    exact Nat.mul_comm _ _
  | false =>
    simp only [Bool.false_eq_true, if_false, UInt64.toNat_toUInt32, UInt64.toNat_mul]
    have hsize : (UInt64.ofNat blockSize).toNat = blockSize := by decide
    rw [hsize, Nat.mod_mod_of_dvd _ (by decide), Nat.mul_comm]

end CardInfo

namespace Session

variable {s s' : Session Simulator}

structure Accesses (s s' : Session Simulator) (medium : Medium) : Prop where
  ready : s'.Ready
  info : s'.info = s.info
  medium : s'.controller.bus.hardware.card.medium = medium

theorem Ready.exchange (h : s.Ready) {t : Transfer} (single : t.multiple = false) {argument : UInt32}
    {buffer : Bytes} (size : buffer.length = blockSize) {cmd : Command Bytes}
    (asks : t.IsCommand argument buffer cmd) :
    ∃ last s' medium, (execute ⟨cmd, none⟩).run.run s =
        ((last.error.elim (.ok ⟨last, none⟩) fun e => .error (.command last.opcode e)), s') ∧
      s.Accesses s' medium ∧ s'.controller.bus.hardware.card.phase = none ∧
      t.Outcome s.controller.bus.hardware.card argument buffer last medium := by
  have hasks : t.Asks argument buffer ⟨cmd, none⟩ :=
    ⟨asks, fun _ => rfl, fun multiple => by rw [single] at multiple; cases multiple⟩
  have hshort : if t.toCard then buffer.length ≤ 512 else buffer.length < 65536 := by
    rw [size]
    split <;> decide
  obtain ⟨k, served, ⟨last, stop⟩, medium, latched, hk, hfinishes, houtcome, hstop, hcard, henabled⟩ :=
    h.calm.transfer_finishes h.selected.enabled h.selected.state h.selected.plain
      (by rw [size]; decide) hshort hasks
  have hnone : stop = none := Option.map_eq_none_iff.mp hstop
  rw [hnone] at hfinishes
  obtain ⟨tickets, hrun⟩ := execute_run h.attended hfinishes (Nat.le_trans hk (by decide))
  refine ⟨last, { s with controller := { served with tickets } }, medium, ?_, ?_, ?_, houtcome⟩
  · rw [hrun, firstError_command]
    cases last.error <;> rfl
  · constructor
    · have hselected := h.selected
      refine ⟨.with_tickets hfinishes.calm h.attended tickets, henabled, ?_, ?_, ?_⟩
      · exact congrArg Card.state hcard
      · exact (congrArg Card.applicationNext hcard).trans hselected.plain
      · exact (congrArg Card.highCapacity hcard).trans hselected.addressed
    · rfl
    · exact congrArg Card.medium hcard
  · exact congrArg Card.phase hcard

theorem Ready.with_owned (h : s.Ready) (owned : Bool) :
    ({ s with controller := { s.controller with owned } } : Session Simulator).Ready :=
  have hadjust := Controller.Tunes.adjust s.controller s.controller.host s.controller.clockRequest owned
  ⟨⟨hadjust.calm h.calm, h.attended⟩,
    ⟨h.selected.enabled, h.selected.state, h.selected.plain, h.selected.addressed⟩⟩

theorem Ready.transfer_owning {α : Type} (h : s.Ready) {t : Transfer} (single : t.multiple = false)
    (argument : CardInfo → UInt32) {buffer : Bytes} (size : buffer.length = blockSize)
    {cmd : UInt32 → Command Bytes} (asks : ∀ argument, t.IsCommand argument buffer (cmd argument))
    (result : Command Bytes → α) :
    ∃ last s' medium,
      (Session.owning (do return result (← command (cmd (argument (← get).info)))) :
          Action Simulator α).run.run s =
        ((last.error.elim (.ok (result last)) fun e => .error (.command last.opcode e)), s') ∧
      s.Accesses s' medium ∧
      t.Outcome s.controller.bus.hardware.card (argument s.info) buffer last medium := by
  obtain ⟨owned, hacquire⟩ := acquire?_getD s.controller
  obtain ⟨last, s', medium, hexecute, haccesses, -, houtcome⟩ := (h.with_owned owned).exchange single size
    (asks (argument s.info))
  refine ⟨last, { s' with controller := s'.controller.release }, medium, ?_, ?_, houtcome⟩
  · rw [run_exchange (fun info => cmd (argument info)), hacquire, hexecute]
    cases last.error <;> rfl
  · exact ⟨haccesses.ready.with_owned false, haccesses.info, haccesses.medium⟩

theorem Ready.readBlock (h : s.Ready) (block : UInt64) {buffer : Bytes}
    (size : buffer.length = blockSize) :
    ∃ answer s', (readBlock block buffer).run.run s = (answer, s') ∧
      s.Accesses s' s.controller.bus.hardware.card.medium ∧
      if s.info.sectorOffset block + blockSize ≤ s.controller.bus.hardware.card.medium.size then
        answer = .ok
          (s.controller.bus.hardware.card.medium.slice (s.info.sectorOffset block) blockSize)
      else ∃ opcode e, answer = .error (.command opcode e) := by
  have hzeros : (Bytes.zeros blockSize).length = blockSize := List.length_replicate
  let cmd (argument : UInt32) : Command Bytes :=
    { opcode := Opcode.readBlock, argument, flags := .r1, data := some ⟨Bytes.zeros blockSize, .read, 0⟩ }
  have hasks (argument : UInt32) :
      (⟨false, false⟩ : Transfer).IsCommand argument (Bytes.zeros blockSize) (cmd argument) :=
    ⟨rfl, rfl, rfl, 0, rfl⟩
  obtain ⟨last, s', medium, hrun, haccesses, hdone, hfailed⟩ := h.transfer_owning rfl
    (·.blockArgument block) hzeros hasks fun last => (last.data.map (·.buffer)).getD buffer
  rw [CardInfo.byteOffset_blockArgument h.selected.addressed, hzeros] at hdone hfailed
  have hread : (Session.readBlock block buffer).run.run s =
      (last.error.elim (.ok ((last.data.map (·.buffer)).getD buffer)) fun e =>
        .error (.command last.opcode e), s') := by
    unfold Session.readBlock
    rw [if_neg (not_not_intro size)]
    exact hrun
  by_cases fits : s.info.sectorOffset block + blockSize ≤ s.controller.bus.hardware.card.medium.size
  · obtain ⟨herror, hdata, hmedium⟩ := hdone fits
    refine ⟨_, s', hread, hmedium ▸ haccesses, ?_⟩
    rw [if_pos fits, herror, hdata, Option.elim_none, Option.map_some, Option.getD_some]
  · obtain ⟨herror, -, hmedium⟩ := hfailed (Nat.lt_of_not_le fits)
    obtain ⟨e, he⟩ := Option.ne_none_iff_exists'.mp herror
    refine ⟨_, s', hread, hmedium ▸ haccesses, ?_⟩
    rw [if_neg fits, he]
    exact ⟨_, _, rfl⟩

theorem Ready.writeBlock (h : s.Ready) (block : UInt64) {buffer : Bytes}
    (size : buffer.length = blockSize) :
    ∃ answer s', (writeBlock block buffer).run.run s = (answer, s') ∧
      if s.info.sectorOffset block + blockSize ≤ s.controller.bus.hardware.card.medium.size then
        answer = .ok () ∧ s.Accesses s'
          (s.controller.bus.hardware.card.medium.patch (s.info.sectorOffset block) buffer)
      else
        (∃ opcode e, answer = .error (.command opcode e)) ∧
          s.Accesses s' s.controller.bus.hardware.card.medium := by
  let cmd (argument : UInt32) : Command Bytes :=
    { opcode := Opcode.writeBlock, argument, flags := .r1, data := some ⟨buffer, .write, 0⟩ }
  have hasks (argument : UInt32) :
      (⟨true, false⟩ : Transfer).IsCommand argument buffer (cmd argument) :=
    ⟨rfl, rfl, rfl, 0, rfl⟩
  obtain ⟨last, s', medium, hrun, haccesses, hdone, hfailed⟩ := h.transfer_owning rfl
    (·.blockArgument block) size hasks fun _ => ()
  rw [CardInfo.byteOffset_blockArgument h.selected.addressed, size] at hdone hfailed
  have hwrite : (Session.writeBlock block buffer).run.run s =
      (last.error.elim (.ok ()) fun e => .error (.command last.opcode e), s') := by
    unfold Session.writeBlock
    rw [if_neg (not_not_intro size)]
    exact hrun
  refine ⟨_, s', hwrite, ?_⟩
  by_cases fits : s.info.sectorOffset block + blockSize ≤ s.controller.bus.hardware.card.medium.size
  · obtain ⟨herror, -, hmedium⟩ := hdone fits
    rw [if_pos fits, herror]
    exact ⟨rfl, hmedium ▸ haccesses⟩
  · obtain ⟨herror, -, hmedium⟩ := hfailed (Nat.lt_of_not_le fits)
    obtain ⟨e, he⟩ := Option.ne_none_iff_exists'.mp herror
    rw [if_neg fits, he]
    exact ⟨⟨_, _, rfl⟩, hmedium ▸ haccesses⟩

end Session

namespace CommandLine

variable {s : Session Simulator} {m : Type → Type} [Monad m] [Environment m]

theorem perform_readSector (h : s.Ready) {a : Arguments} {block : UInt64}
    (asked : a.operation = .readSector block) (position : UInt64) :
    ∃ e, (perform a { session := s, position } : m _) =
      if s.info.sectorOffset block + blockSize ≤ s.controller.bus.hardware.card.medium.size then
        emit a ⟨(s.controller.bus.hardware.card.medium.slice (s.info.sectorOffset block)
          blockSize).toArray⟩
      else return .error e := by
  have hzeros : (Bytes.zeros blockSize).length = blockSize := List.length_replicate
  obtain ⟨answer, s', hrun, -, hanswer⟩ := h.readBlock block hzeros
  unfold perform
  rw [asked]
  simp only [Device.run, hrun]
  by_cases fits : s.info.sectorOffset block + blockSize ≤ s.controller.bus.hardware.card.medium.size
  · simp only [if_pos fits] at hanswer ⊢
    rw [hanswer]
    exact ⟨.writePastEnd, rfl⟩
  · simp only [if_neg fits] at hanswer ⊢
    obtain ⟨opcode, e, rfl⟩ := hanswer
    exact ⟨_, rfl⟩

theorem length_blockOf (data : ByteArray) : (blockOf data).length = blockSize := by
  rw [blockOf, Bytes.length_overlay]
  exact List.length_replicate

theorem perform_writeSector (h : s.Ready) {a : Arguments} {block : UInt64} {input : String}
    (asked : a.operation = .writeSector block input) (position : UInt64) :
    ∃ refusal : ByteArray → DeviceError, (perform a { session := s, position } : m _) = do
      match ← Environment.readFile input with
      | .error e => return .error e
      | .ok data =>
        if s.info.sectorOffset block + blockSize ≤ s.controller.bus.hardware.card.medium.size then
          save a (s.controller.bus.hardware.card.medium.patch (s.info.sectorOffset block)
            (blockOf data))
        else return .error (refusal data) := by
  let refusal (data : ByteArray) : DeviceError :=
    match (Device.run (Session.writeBlock block (blockOf data)) { session := s, position }).1 with
    | .ok () => .writePastEnd
    | .error e => e
  refine ⟨refusal, ?_⟩
  unfold perform
  rw [asked]
  refine congrArg (Bind.bind (Environment.readFile input)) (funext fun read => ?_)
  cases read with
  | error e => rfl
  | ok data =>
    obtain ⟨answer, s', hrun, hanswer⟩ := h.writeBlock block (length_blockOf data)
    simp only [refusal, Device.run, hrun]
    by_cases fits : s.info.sectorOffset block + blockSize ≤
        s.controller.bus.hardware.card.medium.size
    · simp only [if_pos fits] at hanswer ⊢
      obtain ⟨rfl, haccesses⟩ := hanswer
      exact congrArg (save a) haccesses.medium
    · simp only [if_neg fits] at hanswer ⊢
      obtain ⟨⟨opcode, e, rfl⟩, -⟩ := hanswer
      rfl

end CommandLine

namespace Controller

/-- A controller that a session can be opened on: whatever has happened to it since it was attached to a
simulator of its chip, it is free, and no fault is armed. -/
structure Vacant (c : Controller Simulator) : Prop where
  reached : ∃ unit board options sim stimuli, sim.soc = board.soc ∧
    (System.start unit board options sim).afterStimuli stimuli = .whole c
  attached : c.detached = false
  idle : c.active = none
  unmapped : c.mapped = 0
  injected : c.bus.hardware.injected = 0
  loads : c.bus.hardware.failNextLoad = false

theorem Vacant.calm {c : Controller Simulator} (h : c.Vacant) : c.Calm := by
  obtain ⟨unit, board, options, sim, stimuli, soc, reached⟩ := h.reached
  have hsteady := steady_afterStimuli unit board options sim stimuli reached
  have hsettled := settled_afterStimuli unit board options sim soc stimuli reached
  obtain ⟨left, hbalanced⟩ := hsteady.balanced
  have hrests := hbalanced.rests h.idle
  have hmapping : c.bus.mapping = none := by
    have hcount := hrests.count
    rw [h.unmapped] at hcount
    cases hm : c.bus.mapping with
    | none => rfl
    | some m =>
      rw [hm] at hcount
      cases hcount
  exact ⟨h.attached, h.idle, h.unmapped, hmapping, hrests.mask, hsettled, h.injected, h.loads⟩

end Controller

namespace Session

structure ServesSector (s : Session Simulator) (block : UInt64) (buffer : Bytes) : Prop where
  place : s.info.sectorOffset block = blockSize * block.toNat ↔ s.info.numbers block
  read : ∃ answer s', (readBlock block buffer).run.run s = (answer, s') ∧
    s.Accesses s' s.controller.bus.hardware.card.medium ∧
    if s.info.sectorOffset block + blockSize ≤ s.controller.bus.hardware.card.medium.size then
      answer = .ok
        (s.controller.bus.hardware.card.medium.slice (s.info.sectorOffset block) blockSize)
    else ∃ opcode e, answer = .error (.command opcode e)
  write : ∃ answer s', (writeBlock block buffer).run.run s = (answer, s') ∧
    if s.info.sectorOffset block + blockSize ≤ s.controller.bus.hardware.card.medium.size then
      answer = .ok () ∧ s.Accesses s'
        (s.controller.bus.hardware.card.medium.patch (s.info.sectorOffset block) buffer)
    else
      (∃ opcode e, answer = .error (.command opcode e)) ∧
        s.Accesses s' s.controller.bus.hardware.card.medium
  readByTool : ∀ {m : Type → Type} [Monad m] [Environment m] {a : CommandLine.Arguments}
    (position : UInt64), a.operation = .readSector block →
    ∃ e, (CommandLine.perform a { session := s, position } : m _) =
      if s.info.sectorOffset block + blockSize ≤ s.controller.bus.hardware.card.medium.size then
        CommandLine.emit a ⟨(s.controller.bus.hardware.card.medium.slice
          (s.info.sectorOffset block) blockSize).toArray⟩
      else return .error e
  writeByTool : ∀ {m : Type → Type} [Monad m] [Environment m] {a : CommandLine.Arguments}
    {input : String} (position : UInt64), a.operation = .writeSector block input →
    ∃ refusal : ByteArray → DeviceError,
      (CommandLine.perform a { session := s, position } : m _) = do
        match ← Environment.readFile input with
        | .error e => return .error e
        | .ok data =>
          if s.info.sectorOffset block + blockSize ≤
              s.controller.bus.hardware.card.medium.size then
            CommandLine.save a (s.controller.bus.hardware.card.medium.patch
              (s.info.sectorOffset block) (CommandLine.blockOf data))
          else return .error (refusal data)

end Session

def Controller.onBlankCard : Controller Simulator :=
  .attach 0 (Board.reference .sam9260) .default { soc := .sam9260, card := .ofMedium (.blank 1024) }

theorem Controller.onBlankCard_vacant : onBlankCard.Vacant :=
  ⟨⟨0, Board.reference .sam9260, .default, _, [], rfl, rfl⟩, rfl, rfl, rfl, rfl, rfl⟩

theorem Session.start_onBlankCard : ∃ info s, start .onBlankCard 1000 true = (.ok info, s) ∧
    s.info.highCapacity = true ∧ s.controller.bus.hardware.card.medium.size = 1024 := by
  have hok : (start .onBlankCard 1000 true).1.isOk = true := by decide +kernel
  have hcapacity : (start .onBlankCard 1000 true).2.info.highCapacity = true := by decide +kernel
  have hsize : (start .onBlankCard 1000 true).2.controller.bus.hardware.card.medium.size = 1024 := by
    decide +kernel
  rcases hstart : start .onBlankCard 1000 true with ⟨e | info, s⟩
  · rw [hstart] at hok
    cases hok
  · rw [hstart] at hcapacity hsize
    exact ⟨info, s, rfl, hcapacity, hsize⟩

/-- A session that has come up on a vacant controller serves the sectors of its card, and so does every
session that is ready, as it is after each of its accesses. A number is served as the sector that its
argument names: that is the sector asked for, unless the number has more bits than the argument. -/
theorem sectors_served {s : Session Simulator}
    (opened : s.Ready ∨ ∃ c patience info, Controller.Vacant c ∧
      Session.start c patience true = (.ok info, s))
    (block : UInt64) {buffer : Bytes} (size : buffer.length = blockSize) :
    s.ServesSector block buffer := by
  have ready : s.Ready := by
    rcases opened with ready | ⟨c, patience, info, vacant, started⟩
    · exact ready
    · exact Session.start_ready vacant.calm started
  exact {
    place := s.info.sectorOffset_eq_iff block
    read := ready.readBlock block size
    write := ready.writeBlock block size
    readByTool := fun position asked => CommandLine.perform_readSector ready asked position
    writeByTool := fun position asked => CommandLine.perform_writeSector ready asked position }

theorem second_sector_written :
    ∃ info s s', Session.start .onBlankCard 1000 true = (.ok info, s) ∧
      (Session.writeBlock 1 (List.replicate 512 0xa5)).run.run s = (.ok (), s') ∧
      s'.controller.bus.hardware.card.medium =
        s.controller.bus.hardware.card.medium.patch 512 (List.replicate 512 0xa5) := by
  obtain ⟨info, s, started, hcapacity, hsize⟩ := Session.start_onBlankCard
  have opened : ∃ c patience info, Controller.Vacant c ∧
      Session.start c patience true = (.ok info, s) :=
    ⟨_, _, _, Controller.onBlankCard_vacant, started⟩
  have hlength : (List.replicate 512 (0xa5 : UInt8)).length = blockSize := List.length_replicate
  obtain ⟨answer, s', hrun, hanswer⟩ := (sectors_served (.inr opened) 1 hlength).write
  have hplace : s.info.sectorOffset 1 = 512 := by
    rw [CardInfo.sectorOffset, if_pos hcapacity]
    rfl
  rw [hplace, hsize, if_pos (by decide)] at hanswer
  obtain ⟨rfl, haccesses⟩ := hanswer
  exact ⟨info, s, s', started, hrun, haccesses.medium⟩

/-- A number of more than 32 bits: the card has no such sector, and another one is overwritten. -/
theorem distant_sector_written :
    ∃ info s s', Session.start .onBlankCard 1000 true = (.ok info, s) ∧
      s.controller.bus.hardware.card.medium.size <
        blockSize * (4294967297 : UInt64).toNat + blockSize ∧
      (Session.writeBlock 4294967297 (List.replicate 512 0xa5)).run.run s = (.ok (), s') ∧
      s'.controller.bus.hardware.card.medium =
        s.controller.bus.hardware.card.medium.patch 512 (List.replicate 512 0xa5) := by
  obtain ⟨info, s, started, hcapacity, hsize⟩ := Session.start_onBlankCard
  have ready := Session.start_ready Controller.onBlankCard_vacant.calm started
  have hlength : (List.replicate 512 (0xa5 : UInt8)).length = blockSize := List.length_replicate
  obtain ⟨answer, s', hrun, hanswer⟩ := ready.writeBlock 4294967297 hlength
  have hplace : s.info.sectorOffset 4294967297 = 512 := by
    rw [CardInfo.sectorOffset, if_pos hcapacity]
    rfl
  rw [hplace, hsize, if_pos (by decide)] at hanswer
  obtain ⟨rfl, haccesses⟩ := hanswer
  refine ⟨info, s, s', started, ?_, hrun, haccesses.medium⟩
  rw [hsize]
  decide

end CardHost
