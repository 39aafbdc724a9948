import CardHost.Proofs.CardTransfers
import CardHost.Proofs.SimulatedBus

namespace CardHost

namespace Simulator

def answered (s : Simulator) (status : UInt32) (card : Card) : Simulator :=
  { s.setResponse (.ofWord status) with
    card
    latched := (s.latched &&& ~~~(Status.commandReady ||| Status.errors)) ||| Status.commandReady }

theorem issue_short {s : Simulator} {word status : UInt32} {card : Card} (enabled : s.enabled = true)
    (healthy : s.injected = 0)
    (executes : s.card.execute (word &&& CommandWord.number) (s.register Register.argument) =
      (some (.short status), card)) (mapped : Option Bytes) :
    s.issue word mapped =
      if word &&& CommandWord.transfer == CommandWord.startTransfer then
        (s.answered status card).startData word mapped
      else (s.answered status card, none) :=
  (Responds.answers (.short status) card enabled healthy executes).issue mapped

theorem Responds.attempts {s s' : Simulator} {word : UInt32} {goesOn : Bool} (h : s.Responds word goesOn s') :
    s.card.Attempts s'.card := by
  cases h with
  | disabled => exact .inl rfl
  | fault => exact .inl rfl
  | silent card _ _ executes => exact .inr ⟨_, _, (congrArg Prod.snd executes).symm⟩
  | answers reply card _ _ executes =>
    refine .inr ⟨word &&& CommandWord.number, s.register Register.argument, ?_⟩
    rw [executes]
    exact card_accept _ reply _

theorem card_issue (s : Simulator) {word : UInt32}
    (starts : word &&& CommandWord.transfer ≠ CommandWord.startTransfer) (mapped : Option Bytes) :
    s.card.Attempts (s.issue word mapped).1.card := by
  obtain ⟨goesOn, s', responds⟩ := s.responds word
  obtain rfl := responds.quiet starts
  rw [responds.issue mapped]
  exact responds.attempts

theorem register_answered (s : Simulator) (status : UInt32) (card : Card) {offset : Nat}
    (other : offset < Register.response ∨ Register.response + 16 ≤ offset) :
    (s.answered status card).register offset = s.register offset :=
  s.register_setResponse_other _ other

theorem Still.answered {s : Simulator} (h : s.Still) (status : UInt32) (card : Card) :
    (s.answered status card).Still := by
  refine ⟨h.arrived, h.awaited, h.line, ?_, ?_⟩
  · rw [s.register_answered status card (by decide)]
    exact h.receiveNext
  · rw [s.register_answered status card (by decide)]
    exact h.transmitNext

theorem answered_frame (s : Simulator) (status : UInt32) (card : Card) :
    (s.answered status card).enabled = s.enabled ∧
      (s.answered status card).injected = s.injected ∧
      (s.answered status card).failNextLoad = s.failNextLoad ∧
      (s.answered status card).mask = s.mask ∧ (s.answered status card).soc = s.soc :=
  ⟨rfl, rfl, rfl, rfl, rfl⟩

theorem answered_ready (s : Simulator) (status : UInt32) (card : Card) :
    anyBit (s.answered status card).latched Status.commandReady = true := by
  simp only [answered, anyBit_or]
  rw [show anyBit Status.commandReady Status.commandReady = true from rfl, Bool.or_true]

theorem answered_clean (s : Simulator) (status : UInt32) (card : Card) :
    anyBit (s.answered status card).latched Status.errors = false := by
  have h := anyBit_clear s.latched (Status.commandReady ||| Status.errors)
  rw [anyBit_bits_or, Bool.or_eq_false_iff] at h
  simp only [answered, anyBit_or, h.2]
  rfl

def inMemory (s : Simulator) (data : Bytes) : Bytes :=
  if s.soc.swapsBytes then data.reverseWords else data

theorem length_inMemory (s : Simulator) (data : Bytes) : (s.inMemory data).length = data.length := by
  unfold inMemory
  split
  · exact Bytes.length_reverseWords data
  · rfl

theorem inMemory_inMemory (s : Simulator) (data : Bytes) : s.inMemory (s.inMemory data) = data := by
  unfold inMemory
  split
  · exact Bytes.reverseWords_reverseWords data
  · rfl

theorem locate?_front {bytes : Bytes} {moved : Nat} (room : moved ≤ bytes.length) :
    locate? (some bytes) busBase moved = some 0 := by
  simp only [locate?, Option.bind_some, UInt32.sub_self, UInt32.lt_irrefl, if_false]
  exact if_pos (by rw [UInt32.toNat_zero, Nat.zero_add]; exact room)

theorem get_spent (registers : RegisterFile) {pointer count : Nat} (below : pointer < count) (value : UInt32) :
    ((registers.set pointer value).set count 0).get count = 0 ∧
      ∀ offset < pointer, ((registers.set pointer value).set count 0).get offset = registers.get offset := by
  refine ⟨?_, fun offset lower => ?_⟩
  · rw [RegisterFile.get_set, if_pos rfl]
  · rw [RegisterFile.get_set, RegisterFile.get_set, if_neg (Nat.ne_of_lt (Nat.lt_trans lower below)),
      if_neg (Nat.ne_of_lt lower)]

theorem pumpReceive_front {s : Simulator} {data bytes : Bytes} (on : s.receiveOn = true)
    (arrived : s.arrived = some data) (pointer : s.register Register.receivePointer = busBase)
    {moved : Nat} (count : min ((s.register Register.receiveCount).toNat * 4) data.length = moved)
    (room : moved ≤ bytes.length) :
    ∃ registers, s.pumpReceive (some bytes) =
        ({ s with arrived := none, registers },
          some (s.inMemory (data.take moved) ++ bytes.drop moved)) ∧
      registers.get Register.receiveCount = 0 ∧
      ∀ offset < Register.receivePointer, registers.get offset = s.register offset := by
  refine ⟨_, ?_, get_spent s.registers (by decide) (busBase + UInt32.ofNat moved)⟩
  simp only [register] at pointer count
  unfold pumpReceive
  simp only [on, arrived, register, pointer, count, locate?_front room, Option.getD_some, List.take_zero,
    List.nil_append, Nat.zero_add]
  rfl

theorem pumpTransmit_front {s : Simulator} {block : Nat} {bytes : Bytes} (on : s.transmitOn = true)
    (awaited : s.awaited = some block) (pointer : s.register Register.transmitPointer = busBase)
    {moved : Nat} (count : (s.register Register.transmitCount).toNat * 4 = moved)
    (room : moved ≤ bytes.length) :
    ∃ registers, s.pumpTransmit (some bytes) =
        ({ s with awaited := none, cardBusy := false, registers, lastSent := bytes.take moved } :
          Simulator).deliver (bytes.take moved) block ∧
      registers.get Register.transmitCount = 0 ∧
      ∀ offset < Register.transmitPointer, registers.get offset = s.register offset := by
  refine ⟨_, ?_, get_spent s.registers (by decide) (busBase + UInt32.ofNat moved)⟩
  simp only [register] at pointer count
  unfold pumpTransmit
  simp only [on, awaited, register, pointer, count, locate?_front room, Option.getD_some, List.drop_zero]
  rfl

theorem deliver_enough {s : Simulator} {fetched : Bytes}
    (enough : s.soc.secondRevision = true → Staging.minLength ≤ fetched.length) (block : Nat) :
    s.deliver fetched block =
      match s.card.writeData ((s.inMemory fetched).take block) with
      | (.ok (), card) => { s with card }
      | (.error _, card) => { s with card }.latch Status.dataCrc := by
  have h : ¬ ((s.soc.secondRevision && decide (fetched.length < Staging.minLength)) = true) := by
    intro hshort
    obtain ⟨hrevision, hlt⟩ := Bool.and_eq_true_iff.mp hshort
    exact Nat.not_lt_of_le (enough hrevision) (of_decide_eq_true hlt)
  unfold deliver
  rw [if_neg h]
  rfl

structure Healthy (s : Simulator) : Prop where
  still : s.Still
  enabled : s.enabled = true
  injected : s.injected = 0
  loads : s.failNextLoad = false

structure Ended (t : Transfer) (s s' : Simulator) (medium : Medium) (faulty : Bool) : Prop where
  healthy : s'.Healthy
  mask : s'.mask = s.mask
  soc : s'.soc = s.soc
  ready : anyBit s'.latched Status.commandReady = true
  errors : anyBit s'.latched Status.errors = faulty
  card : Card.Transfers t s.card s'.card medium

theorem Ended.card_self {t : Transfer} {s s' : Simulator} {medium : Medium} {faulty : Bool}
    (h : Ended t s s' medium faulty) : Card.Transfers t s.card s'.card s'.card.medium := by
  rw [h.card.medium_eq]
  exact h.card

end Simulator

structure Transfer.IsWord (t : Transfer) (word : UInt32) : Prop where
  number : word &&& CommandWord.number = t.opcode
  starts : word &&& CommandWord.transfer = CommandWord.startTransfer
  direction : anyBit word CommandWord.fromCard = !t.toCard

namespace Simulator

def opened (s : Simulator) (t : Transfer) (word argument : UInt32) : Simulator :=
  (s.setRegister Register.command word).answered (s.card.statusBits ||| s.card.latched)
    (s.card.opened t argument)

theorem register_opened (s : Simulator) (t : Transfer) (word argument : UInt32) {offset : Nat}
    (other : offset ≠ Register.command)
    (free : offset < Register.response ∨ Register.response + 16 ≤ offset) :
    (s.opened t word argument).register offset = s.register offset := by
  rw [opened, register_answered _ _ _ free, register_setRegister, if_neg other]

theorem Still.opened {s : Simulator} (h : s.Still) (t : Transfer) (word argument : UInt32) :
    (s.opened t word argument).Still :=
  (h.setRegister_other _ _ (by decide)).answered _ _

theorem write_opens {s : Simulator} (enabled : s.enabled = true) (injected : s.injected = 0)
    (selected : s.card.state = .transfer) (plain : s.card.applicationNext = false) {t : Transfer}
    {word : UInt32} (hw : t.IsWord word) (mapped : Option Bytes) :
    s.write mapped Register.command word =
      (s.opened t word (s.register Register.argument)).startData word mapped := by
  generalize hargument : s.register Register.argument = argument
  have hcard := Card.execute_transfer selected plain t argument
  have hexecutes : (s.setRegister Register.command word).card.execute (word &&& CommandWord.number)
      ((s.setRegister Register.command word).register Register.argument) =
        (some (.short (s.card.statusBits ||| s.card.latched)), s.card.opened t argument) := by
    rw [register_setRegister, if_neg (by decide), hargument, hw.number]
    exact hcard
  have hissue : s.write mapped Register.command word =
      (s.setRegister Register.command word).issue word mapped := rfl
  rw [hissue, issue_short (s := s.setRegister Register.command word) enabled injected hexecutes,
    if_pos (beq_iff_eq.mpr hw.starts)]
  rfl

structure Opens (t : Transfer) (argument : UInt32) (s answered : Simulator) : Prop where
  still : answered.Still
  enabled : answered.enabled = true
  injected : answered.injected = 0
  loads : answered.failNextLoad = false
  mask : answered.mask = s.mask
  soc : answered.soc = s.soc
  card : answered.card = s.card.opened t argument
  ready : anyBit answered.latched Status.commandReady = true
  clean : anyBit answered.latched Status.errors = false

theorem toNat_words {length : Nat} (fits : length ≤ maxMapping) :
    (UInt32.ofNat (length / 4)).toNat * 4 = 4 * (length / 4) := by
  unfold maxMapping at fits
  rw [UInt32.toNat_ofNat', Nat.mod_eq_of_lt (by omega), Nat.mul_comm]

theorem startData_front {s : Simulator} (on : s.receiveOn = true) {word : UInt32}
    (direction : anyBit word CommandWord.fromCard = true) {bytes : Bytes} {block moved : Nat}
    (length : s.blockLength = block) (pointer : s.register Register.receivePointer = busBase)
    (count : min ((s.register Register.receiveCount).toNat * 4) block = moved)
    (room : moved ≤ bytes.length) :
    ∃ registers, registers.get Register.receiveCount = 0 ∧
      (∀ offset < Register.receivePointer, registers.get offset = s.register offset) ∧
      s.startData word (some bytes) =
        match s.card.readData block with
        | (.ok data, card) => ({ s with card, arrived := none, registers },
            some (s.inMemory (data.take moved) ++ bytes.drop moved))
        | (.error _, card) => ({ s with card }.latch Status.dataTimeout, none) := by
  unfold startData
  rw [if_pos direction, length]
  rcases hread : s.card.readData block with ⟨e | data, card⟩
  · refine ⟨s.registers.set Register.receiveCount 0, ?_, fun offset lower => ?_, rfl⟩
    · rw [RegisterFile.get_set, if_pos rfl]
    · rw [RegisterFile.get_set, if_neg (Nat.ne_of_lt (Nat.lt_trans lower (by decide))), register]
  · rw [← Card.length_readData hread] at count
    obtain ⟨registers, hpump, hzero, hothers⟩ := pumpReceive_front
      (s := { s with card, arrived := some data }) on rfl pointer count room
    exact ⟨registers, hzero, hothers, hpump⟩

theorem startData_read {s : Simulator} (on : s.receiveOn = true) {t : Transfer}
    (fromCard : t.toCard = false) {word argument : UInt32}
    (direction : anyBit word CommandWord.fromCard = true) {card : Card} {bytes : Bytes}
    (opened : s.card = card.opened t argument) {block moved : Nat} (length : s.blockLength = block)
    (pointer : s.register Register.receivePointer = busBase)
    (count : min ((s.register Register.receiveCount).toNat * 4) block = moved)
    (room : moved ≤ bytes.length) :
    if card.byteOffset argument + block ≤ card.medium.size then
      ∃ card' registers, s.startData word (some bytes) =
          ({ s with card := card', arrived := none, registers },
            some (s.inMemory (card.medium.slice (card.byteOffset argument) moved) ++
              bytes.drop moved)) ∧
        Card.Transfers t card card' card.medium ∧ registers.get Register.receiveCount = 0
    else
      s.startData word (some bytes) =
        ({ s with card := (card.opened t argument).failRange }.latch Status.dataTimeout, none) := by
  have hread := card.opened_readData t argument block fromCard
  obtain ⟨registers, hzero, -, hdata⟩ := startData_front on direction length pointer count room
  rw [hdata, opened]
  split
  · next fits =>
    rw [if_pos fits] at hread
    obtain ⟨card', hread, htransfers⟩ := hread
    have hslice : (card.medium.slice (card.byteOffset argument) block).take moved =
        card.medium.slice (card.byteOffset argument) moved := by
      rw [Medium.take_slice, Nat.min_eq_left (by omega)]
    rw [hread]
    dsimp only
    rw [hslice]
    exact ⟨card', registers, rfl, htransfers, hzero⟩
  · next fits =>
    rw [if_neg fits] at hread
    obtain ⟨error, hread⟩ := hread
    rw [hread]

theorem startData_write {s : Simulator} (off : s.transmitOn = false) {t : Transfer}
    (toCard : t.toCard = true) {word argument : UInt32}
    (direction : anyBit word CommandWord.fromCard = false) {card : Card}
    (opened : s.card = card.opened t argument) (mapped : Option Bytes) :
    s.startData word mapped =
      ({ s with awaited := some s.blockLength, cardBusy := true }, none) := by
  have expects : s.card.expectsWrite = true := by
    rw [opened, Card.expectsWrite, Card.opened, Transfer.phase, toCard]
    rfl
  unfold startData
  rw [if_neg (by rw [direction]; decide), if_pos expects]
  exact congrArg (·, none) (pumpTransmit_off (by exact off) mapped)

theorem pumpTransmit_carries {s : Simulator} (on : s.transmitOn = true) {source bytes : Bytes}
    {block : Nat} (awaited : s.awaited = some block)
    (pointer : s.register Register.transmitPointer = busBase) {moved : Nat}
    (count : (s.register Register.transmitCount).toNat * 4 = moved) (room : moved ≤ bytes.length)
    (enough : s.soc.secondRevision = true → Staging.minLength ≤ moved)
    (carries : (s.inMemory (bytes.take moved)).take block = source) :
    ∃ registers, registers.get Register.transmitCount = 0 ∧
      (∀ offset < Register.transmitPointer, registers.get offset = s.register offset) ∧
      s.pumpTransmit (some bytes) =
        match s.card.writeData source with
        | (.ok (), card) =>
          { s with awaited := none, cardBusy := false, registers, lastSent := bytes.take moved, card }
        | (.error _, card) =>
          ({ s with awaited := none, cardBusy := false, registers, lastSent := bytes.take moved, card } :
            Simulator).latch Status.dataCrc := by
  obtain ⟨registers, hpump, hzero, hothers⟩ := pumpTransmit_front on awaited pointer count room
  have hlength : (bytes.take moved).length = moved := by
    rw [List.length_take, Nat.min_eq_left room]
  have henough : s.soc.secondRevision = true → Staging.minLength ≤ (bytes.take moved).length := by
    rw [hlength]
    exact enough
  have hdeliver := deliver_enough (s := { s with
    awaited := none, cardBusy := false, registers, lastSent := bytes.take moved }) henough block
  have hcarries : (({ s with
      awaited := none, cardBusy := false, registers, lastSent := bytes.take moved } :
        Simulator).inMemory (bytes.take moved)).take block = source := carries
  rw [hcarries] at hdeliver
  exact ⟨registers, hzero, hothers, hpump.trans hdeliver⟩

theorem pumpTransmit_write {s : Simulator} (on : s.transmitOn = true) {t : Transfer}
    (toCard : t.toCard = true) {argument : UInt32} {card : Card} {source bytes : Bytes} {block : Nat}
    (opened : s.card = card.opened t argument) (awaited : s.awaited = some block)
    (pointer : s.register Register.transmitPointer = busBase) {moved : Nat}
    (count : (s.register Register.transmitCount).toNat * 4 = moved) (room : moved ≤ bytes.length)
    (enough : s.soc.secondRevision = true → Staging.minLength ≤ moved)
    (carries : (s.inMemory (bytes.take moved)).take block = source) :
    ∃ registers, registers.get Register.transmitCount = 0 ∧
      if card.byteOffset argument + source.length ≤ card.medium.size then
        ∃ card', s.pumpTransmit (some bytes) =
            { s with
              awaited := none, cardBusy := false, registers, lastSent := bytes.take moved,
              card := card' } ∧
          Card.Transfers t card card' (card.medium.patch (card.byteOffset argument) source)
      else
        s.pumpTransmit (some bytes) =
          ({ s with
            awaited := none, cardBusy := false, registers, lastSent := bytes.take moved,
            card := (card.opened t argument).failRange } : Simulator).latch Status.dataCrc := by
  have hwrite := card.opened_writeData t argument source toCard
  obtain ⟨registers, hzero, -, hpump⟩ := pumpTransmit_carries on awaited pointer count room enough carries
  refine ⟨registers, hzero, ?_⟩
  rw [hpump, opened]
  split
  · next fits =>
    rw [if_pos fits] at hwrite
    obtain ⟨card', hdata, htransfers⟩ := hwrite
    rw [hdata]
    exact ⟨card', rfl, htransfers⟩
  · next fits =>
    rw [if_neg fits] at hwrite
    obtain ⟨error, hdata⟩ := hwrite
    rw [hdata]

theorem Healthy.opens {s : Simulator} (h : s.Healthy) (t : Transfer) (word argument : UInt32) :
    Opens t argument s (s.opened t word argument) := by
  obtain ⟨enabled, injected, loads, mask, soc⟩ := answered_frame
    (s.setRegister Register.command word) (s.card.statusBits ||| s.card.latched)
    (s.card.opened t argument)
  exact ⟨h.still.opened t word argument, enabled.trans h.enabled, injected.trans h.injected,
    loads.trans h.loads, mask, soc, rfl, answered_ready _ _ _, answered_clean _ _ _⟩

theorem Healthy.armedRead {s : Simulator} (h : s.Healthy) (length : Nat) (argument : UInt32) :
    (s.armedRead length argument).Healthy :=
  ⟨armedRead_still h.still _ _, h.enabled, h.injected, h.loads⟩

theorem Healthy.armedWrite {s : Simulator} (h : s.Healthy) (length fetched : Nat)
    (argument : UInt32) : (s.armedWrite length fetched argument).Healthy :=
  ⟨armedWrite_still h.still _ _ _, h.enabled, h.injected, h.loads⟩

theorem Opens.of_same {t : Transfer} {argument : UInt32} {s armed answered : Simulator}
    (h : Opens t argument armed answered) (mask : armed.mask = s.mask) (soc : armed.soc = s.soc)
    (card : armed.card = s.card) : Opens t argument s answered :=
  ⟨h.still, h.enabled, h.injected, h.loads, h.mask.trans mask, h.soc.trans soc,
    h.card.trans (congrArg (·.opened t argument) card), h.ready, h.clean⟩

theorem Opens.latched {t : Transfer} {argument : UInt32} {s answered : Simulator}
    (h : Opens t argument s answered) {bits : UInt32} (error : anyBit bits Status.errors = true) :
    anyBit (answered.latched ||| bits) Status.commandReady = true ∧
      anyBit (answered.latched ||| bits) Status.errors = true := by
  rw [anyBit_or, anyBit_or, h.ready, error]
  exact ⟨Bool.true_or _, Bool.or_true _⟩

theorem channel_aimed {s t : Simulator} {d : Direction} {argument : UInt32} {length carried : Nat}
    (fits : carried ≤ maxMapping)
    (same : ∀ offset, offset ≠ Register.command →
      offset < Register.response ∨ Register.response + 16 ≤ offset →
        t.register offset = (s.aimed d length carried argument).register offset) :
    t.blockLength = length % 65536 ∧ t.register d.pointer = busBase ∧
      (t.register d.count).toNat * 4 = 4 * (carried / 4) := by
  have hpointer := same d.pointer (by cases d <;> decide) (by cases d <;> decide)
  have hcount := same d.count (by cases d <;> decide) (by cases d <;> decide)
  rw [register_aimed] at hpointer hcount
  refine ⟨?_, ?_, ?_⟩
  · rw [blockLength, same _ (by decide) (by decide), register_aimed]
    cases d <;> exact Controller.blockLength_blockMode _ length
  · rw [hpointer]
    cases d <;> rfl
  · rw [hcount]
    cases d <;> exact toNat_words fits

theorem channel_armedRead {s t : Simulator} {argument : UInt32} {length : Nat} (fits : length ≤ maxMapping)
    (same : ∀ offset, offset ≠ Register.command →
      offset < Register.response ∨ Register.response + 16 ≤ offset →
        t.register offset = (s.armedRead length argument).register offset) :
    t.blockLength = length % 65536 ∧ t.register Register.receivePointer = busBase ∧
      (t.register Register.receiveCount).toNat * 4 = 4 * (length / 4) :=
  channel_aimed (d := .fromCard) fits same

theorem channel_armedWrite {s t : Simulator} {argument : UInt32} {length fetched : Nat}
    (fits : fetched ≤ maxMapping)
    (same : ∀ offset, offset ≠ Register.command →
      offset < Register.response ∨ Register.response + 16 ≤ offset →
        t.register offset = (s.armedWrite length fetched argument).register offset) :
    t.blockLength = length % 65536 ∧ t.register Register.transmitPointer = busBase ∧
      (t.register Register.transmitCount).toNat * 4 = 4 * (fetched / 4) :=
  channel_aimed (d := .toCard) fits same

theorem armedRead_issued {s : Simulator} (h : s.Healthy) (selected : s.card.state = .transfer)
    (plain : s.card.applicationNext = false) {t : Transfer} (fromCard : t.toCard = false)
    {word : UInt32} (hw : t.IsWord word) (argument : UInt32) {bytes : Bytes}
    (room : bytes.length ≤ maxMapping) :
    let block := bytes.length % 65536
    let moved := min (4 * (bytes.length / 4)) block
    if s.card.byteOffset argument + block ≤ s.card.medium.size then
      ∃ s', (s.armedRead bytes.length argument).write (some bytes) Register.command word =
          (s', some (s.inMemory (s.card.medium.slice (s.card.byteOffset argument) moved) ++
            bytes.drop moved)) ∧
        Ended t s s' s.card.medium false ∧ s'.register Register.receiveCount = 0
    else
      ∃ s', (s.armedRead bytes.length argument).write (some bytes) Register.command word =
          (s', none) ∧
        Ended t s s' s.card.medium true := by
  intro block moved
  have hargument : (s.armedRead bytes.length argument).register Register.argument = argument :=
    (s.register_aimed .fromCard _ _ _ _).trans (if_pos rfl)
  have harmed := h.armedRead bytes.length argument
  have hopens : Opens t argument s ((s.armedRead bytes.length argument).opened t word argument) :=
    (harmed.opens t word argument).of_same rfl rfl rfl
  rw [write_opens harmed.enabled harmed.injected selected plain hw, hargument]
  have on : ((s.armedRead bytes.length argument).opened t word argument).receiveOn = true := rfl
  have hregisters := channel_armedRead room fun offset other free =>
    (s.armedRead bytes.length argument).register_opened t word argument other free
  generalize (s.armedRead bytes.length argument).opened t word argument = answered
    at hopens hregisters on ⊢
  obtain ⟨hblock, hpointer, hcount⟩ := hregisters
  have direction : anyBit word CommandWord.fromCard = true := by
    rw [hw.direction, fromCard]
    rfl
  have hmoved : min ((answered.register Register.receiveCount).toNat * 4) block = moved := by
    rw [hcount]
  have hroom : moved ≤ bytes.length := by omega
  have hstart := startData_read on fromCard direction hopens.card hblock hpointer hmoved hroom
  have hstill := hopens.still.startRead on direction (some bytes)
  split
  · next fits =>
    rw [if_pos fits] at hstart
    obtain ⟨card', registers, hdata, htransfers, hzero⟩ := hstart
    rw [hdata] at hstill
    rw [hdata]
    refine ⟨_, ?_, ⟨⟨hstill, hopens.enabled, hopens.injected, hopens.loads⟩, hopens.mask,
      hopens.soc, hopens.ready, hopens.clean, htransfers⟩, hzero⟩
    rw [inMemory, hopens.soc]
    rfl
  · next fits =>
    rw [if_neg fits] at hstart
    rw [hstart] at hstill
    rw [hstart]
    obtain ⟨ready, errors⟩ := hopens.latched (show anyBit Status.dataTimeout Status.errors = true by decide)
    exact ⟨_, rfl, ⟨⟨hstill, hopens.enabled, hopens.injected, hopens.loads⟩, hopens.mask,
      hopens.soc, ready, errors, Card.failRange_transfers s.card t argument⟩⟩

theorem armedWrite_issued {s : Simulator} (h : s.Healthy) (selected : s.card.state = .transfer)
    (plain : s.card.applicationNext = false) {t : Transfer} (toCard : t.toCard = true)
    {word : UInt32} (hw : t.IsWord word) (argument : UInt32) {length : Nat} {source bytes : Bytes}
    (room : bytes.length ≤ maxMapping)
    (enough : s.soc.secondRevision = true → Staging.minLength ≤ 4 * (bytes.length / 4))
    (carries : (s.inMemory (bytes.take (4 * (bytes.length / 4)))).take (length % 65536) = source) :
    ∃ waiting s', (s.armedWrite length bytes.length argument).write (some bytes)
        Register.command word = (waiting, none) ∧
      waiting.write (some bytes) Register.channelControl Channel.transmitOn = (s', none) ∧
      s'.register Register.transmitCount = 0 ∧
      if s.card.byteOffset argument + source.length ≤ s.card.medium.size then
        Ended t s s' (s.card.medium.patch (s.card.byteOffset argument) source) false
      else Ended t s s' s.card.medium true := by
  have hargument : (s.armedWrite length bytes.length argument).register Register.argument =
      argument := (s.register_aimed .toCard _ _ _ _).trans (if_pos rfl)
  have harmed := h.armedWrite length bytes.length argument
  have hopens : Opens t argument s
      ((s.armedWrite length bytes.length argument).opened t word argument) :=
    (harmed.opens t word argument).of_same rfl rfl rfl
  rw [write_opens harmed.enabled harmed.injected selected plain hw, hargument]
  -- The command is issued with the channel off: the card's block waits until it is switched on.
  have off : ((s.armedWrite length bytes.length argument).opened t word argument).transmitOn =
      false := rfl
  have hregisters := channel_armedWrite room fun offset other free =>
    (s.armedWrite length bytes.length argument).register_opened t word argument other free
  generalize (s.armedWrite length bytes.length argument).opened t word argument = answered
    at hopens hregisters off ⊢
  obtain ⟨hblock, hpointer, hcount⟩ := hregisters
  have direction : anyBit word CommandWord.fromCard = false := by
    rw [hw.direction, toCard]
    rfl
  have hwaits := startData_write off toCard direction hopens.card (some bytes)
  have hopen := hopens.still.startWrite direction (some bytes)
  rw [hwaits, hblock] at hopen
  rw [hwaits, hblock]
  have hstill := hopen.turnOn (some bytes)
  have hcarries : (({ answered with
      awaited := some (length % 65536), cardBusy := true, transmitOn := true } : Simulator).inMemory
        (bytes.take (4 * (bytes.length / 4)))).take (length % 65536) = source := by
    rw [inMemory, ← hopens.soc] at carries
    exact carries
  have hroom : 4 * (bytes.length / 4) ≤ bytes.length := by omega
  obtain ⟨registers, hzero, hpump⟩ := pumpTransmit_write (s := { answered with
    awaited := some (length % 65536), cardBusy := true, transmitOn := true }) rfl toCard
    hopens.card rfl hpointer hcount hroom (by rw [← hopens.soc] at enough; exact enough) hcarries
  generalize hsent : ({ answered with
    awaited := some (length % 65536), cardBusy := true, transmitOn := true } :
      Simulator).pumpTransmit (some bytes) = sent at hpump
  have hon : ({ answered with awaited := some (length % 65536), cardBusy := true } : Simulator).write
      (some bytes) Register.channelControl Channel.transmitOn = (sent, none) := by
    rw [← hsent]
    exact switchChannels_transmitOn _ _
  have hstill' : sent.Still := by
    rw [← hsent]
    exact hstill
  refine ⟨_, sent, rfl, hon, ?_, ?_⟩
  · split at hpump
    · obtain ⟨card', rfl, -⟩ := hpump
      exact hzero
    · rw [hpump]
      exact hzero
  · split
    · next fits =>
      rw [if_pos fits] at hpump
      obtain ⟨card', rfl, htransfers⟩ := hpump
      exact ⟨⟨hstill', hopens.enabled, hopens.injected, hopens.loads⟩, hopens.mask,
        hopens.soc, hopens.ready, hopens.clean, htransfers⟩
    · next fits =>
      rw [if_neg fits] at hpump
      subst hpump
      obtain ⟨ready, errors⟩ :=
        hopens.latched (show anyBit Status.dataCrc Status.errors = true by decide)
      exact ⟨⟨hstill', hopens.enabled, hopens.injected, hopens.loads⟩, hopens.mask,
        hopens.soc, ready, errors, Card.failRange_transfers s.card t argument⟩

theorem armedPlain_frame (s : Simulator) (argument : UInt32) :
    ∃ registers, s.armedPlain argument =
        { s with registers, receiveOn := false, transmitOn := false } ∧
      registers.get Register.receiveNextCount = 0 ∧ registers.get Register.transmitNextCount = 0 := by
  obtain ⟨registers, h⟩ := s.setAll_frame
    (Controller.clearChannels.tail ++ [(Register.argument, argument)])
  have hnext (offset : Nat) (next : offset = Register.receiveNextCount ∨
      offset = Register.transmitNextCount) : registers.get offset = 0 := by
    have hregister : registers.get offset = (s.setAll
        (Controller.clearChannels.tail ++ [(Register.argument, argument)])).register offset := by
      rw [h, register]
    rw [hregister]
    obtain rfl | rfl := next
    all_goals simp +decide [setAll, Controller.clearChannels, register_setRegister]
  refine ⟨registers, ?_, hnext _ (.inl rfl), hnext _ (.inr rfl)⟩
  rw [armedPlain, h]

theorem register_armedPlain (s : Simulator) (argument : UInt32) :
    (s.armedPlain argument).register Register.argument = argument := by
  have h : s.setAll (Controller.clearChannels.tail ++ [(Register.argument, argument)]) =
      (s.setAll Controller.clearChannels.tail).setRegister Register.argument argument :=
    List.foldl_append
  change (s.setAll (Controller.clearChannels.tail ++ [(Register.argument, argument)])).register
    Register.argument = argument
  rw [h, register_setRegister, if_pos rfl]

theorem armedPlain_issued {s : Simulator} (h : s.Healthy) (transferring : s.card.isTransferring)
    (plain : s.card.applicationNext = false) {word : UInt32} (argument : UInt32)
    (number : word &&& CommandWord.number = Opcode.stopTransmission)
    (starts : word &&& CommandWord.transfer ≠ CommandWord.startTransfer) (mapped : Option Bytes) :
    ∃ s', (s.armedPlain argument).write mapped Register.command word = (s', none) ∧
      s'.Healthy ∧ s'.mask = s.mask ∧ s'.soc = s.soc ∧
      anyBit s'.latched Status.commandReady = true ∧ anyBit s'.latched Status.errors = false ∧
      s'.card = { s.card with phase := none, state := .transfer, latched := 0 } := by
  obtain ⟨registers, harm, hreceive, htransmit⟩ := s.armedPlain_frame argument
  rw [harm]
  generalize hissued : ({ s with registers, receiveOn := false, transmitOn := false } :
    Simulator).setRegister Register.command word = issued
  have still : issued.Still := by
    rw [← hissued]
    refine Still.setRegister_other ?_ _ _ (by decide)
    exact ⟨h.still.arrived, h.still.awaited, h.still.line, hreceive, htransmit⟩
  have frame : issued.enabled = true ∧ issued.injected = 0 ∧ issued.failNextLoad = false ∧
      issued.mask = s.mask ∧ issued.soc = s.soc ∧ issued.card = s.card := by
    rw [← hissued]
    exact ⟨h.enabled, h.injected, h.loads, rfl, rfl, rfl⟩
  have hissue : ({ s with registers, receiveOn := false, transmitOn := false } : Simulator).write
      mapped Register.command word = issued.issue word mapped := by
    rw [← hissued]
    rfl
  obtain ⟨enabled, injected, loads, mask, soc, card⟩ := frame
  obtain ⟨status, hstop⟩ := Card.execute_stop transferring plain (issued.register Register.argument)
  have hexecutes : issued.card.execute (word &&& CommandWord.number)
      (issued.register Register.argument) =
        (some (.short status), { s.card with phase := none, state := .transfer, latched := 0 }) := by
    rw [number, card]
    exact hstop
  obtain ⟨enabled', injected', loads', mask', soc'⟩ := issued.answered_frame status
    { s.card with phase := none, state := .transfer, latched := 0 }
  rw [hissue, issue_short enabled injected hexecutes, if_neg (by simpa using starts)]
  refine ⟨_, rfl, ⟨still.answered _ _, enabled'.trans enabled, injected'.trans injected,
    loads'.trans loads⟩, mask'.trans mask, soc'.trans soc, answered_ready _ _ _,
    answered_clean _ _ _, rfl⟩

end Simulator

end CardHost
