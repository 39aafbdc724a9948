import CardHost.Proofs.Stillness

namespace CardHost

open Bus

namespace Simulator

structure Latches (s s' : Simulator) : Prop where
  latched : ∃ bits, s'.latched = s.latched ||| bits
  injected : s'.injected = s.injected

theorem Latches.of_eq {s s' : Simulator} (latched : s'.latched = s.latched)
    (injected : s'.injected = s.injected) : s.Latches s' :=
  ⟨⟨0, by rw [latched, UInt32.or_zero]⟩, injected⟩

theorem Latches.trans {s s' s'' : Simulator} (h : s.Latches s') (h' : s'.Latches s'') :
    s.Latches s'' := by
  obtain ⟨⟨bits, h⟩, hi⟩ := h
  obtain ⟨⟨bits', h'⟩, hi'⟩ := h'
  exact ⟨⟨bits ||| bits', by rw [h', h, UInt32.or_assoc]⟩, hi'.trans hi⟩

theorem Latches.anyBit {s s' : Simulator} (h : s.Latches s') {bits : UInt32}
    (hb : anyBit s.latched bits = true) : CardHost.anyBit s'.latched bits = true := by
  obtain ⟨more, h⟩ := h.latched
  rw [h, anyBit_or, hb, Bool.true_or]

theorem anyBit_latch (s : Simulator) (bits other : UInt32) :
    anyBit (s.latch bits).latched other = (anyBit s.latched other || anyBit bits other) :=
  anyBit_or _ _ _

theorem latches_latch (s : Simulator) (bits : UInt32) : s.Latches (s.latch bits) := ⟨⟨bits, rfl⟩, rfl⟩

theorem Streams.latches {s s' : Simulator} (h : s.Streams s') : s.Latches s' := by
  induction h with
  | refl => exact .of_eq rfl rfl
  | hold _ _ _ _ _ ih => exact ih.trans (.of_eq rfl rfl)
  | spend _ _ _ ih => exact ih.trans (.of_eq rfl rfl)
  | read _ _ ih => exact ih.trans (.of_eq rfl rfl)
  | write _ _ ih => exact ih.trans (.of_eq rfl rfl)
  | latch _ _ ih => exact ih.trans (latches_latch _ _)

theorem latches_switchChannels (s : Simulator) (value : UInt32) (mapped : Option Bytes) :
    s.Latches (s.switchChannels value mapped).1 :=
  switchChannels_induction (p := s.Latches) (.of_eq rfl rfl) (fun _ _ _ h => h.trans (.of_eq rfl rfl))
    (fun _ _ streams h => h.trans streams.latches) value mapped

theorem issue_ready (s : Simulator) (word : UInt32) (mapped : Option Bytes) :
    anyBit (s.issue word mapped).1.latched Status.commandReady = true := by
  have ready (s : Simulator) : anyBit (s.latch Status.commandReady).latched Status.commandReady =
      true := by
    rw [anyBit_latch]
    exact Bool.or_true _
  have both (s : Simulator) (bits : UInt32) :
      anyBit (s.latch (bits ||| Status.commandReady)).latched Status.commandReady = true := by
    rw [anyBit_latch, anyBit_or, show anyBit Status.commandReady Status.commandReady = true from rfl,
      Bool.or_true, Bool.or_true]
  refine issue_induction (p := fun s' => anyBit s'.latched Status.commandReady = true)
    (fun _ _ responds => ?_) mapped fun _ ended => (streams_startData _ word mapped).latches.anyBit ended
  cases responds with
  | disabled => exact both _ _
  | fault => exact both _ _
  | silent => exact ready _
  | answers => exact ready _

def Reports (s : Simulator) : Prop := s.injected = 0 ∨ anyBit s.injected Status.errors = true

theorem injected_issue (s : Simulator) (word : UInt32) (mapped : Option Bytes) :
    (s.issue word mapped).1.injected = s.injected ∨ (s.issue word mapped).1.injected = 0 := by
  refine issue_induction (p := fun s' => s'.injected = s.injected ∨ s'.injected = 0)
    (fun _ _ responds => ?_) mapped fun s' h => ?_
  · cases responds with
    | disabled => exact .inl rfl
    | fault => exact .inr rfl
    | silent => exact .inl rfl
    | answers reply => cases reply <;> exact .inl rfl
  · rwa [(s'.streams_startData word mapped).latches.injected]

theorem Reports.write {s : Simulator} (h : s.Reports) (mapped : Option Bytes) (offset : Nat)
    (value : UInt32) : (s.write mapped offset value).1.Reports := by
  have same {s' : Simulator} (injected : s'.injected = s.injected) : s'.Reports := by
    rw [Reports, injected]
    exact h
  have written := s.written mapped offset value
  generalize s.write mapped offset value = after at written ⊢
  cases written with
  | issues =>
    rcases (s.setRegister Register.command value).injected_issue value mapped with hi | hi
    · exact same hi
    · exact .inl hi
  | switches => exact same (s.latches_switchChannels value mapped).injected
  | _ => exact same rfl

theorem issue_starts {s : Simulator} (reports : s.Reports) {word : UInt32}
    (starts : word &&& CommandWord.transfer = CommandWord.startTransfer)
    (expected : anyBit word CommandWord.responseKind = true) (mapped : Option Bytes) :
    anyBit (s.issue word mapped).1.latched Status.errors = true ∨
      ∃ s' : Simulator, s'.receiveOn = s.receiveOn ∧
        s.issue word mapped = s'.startData word mapped := by
  have latched (s : Simulator) {bits : UInt32} (error : anyBit bits Status.errors = true)
      (more : UInt32) : anyBit (s.latch (bits ||| more)).latched Status.errors = true := by
    rw [anyBit_latch, anyBit_or, error, Bool.true_or, Bool.or_true]
  obtain ⟨goesOn, s', responds⟩ := s.responds word
  have receiveOn := responds.receiveOn
  rw [responds.issue mapped]
  cases responds with
  | disabled => exact .inl (latched _ rfl _)
  | fault enabled fault => exact .inl (latched _ (reports.resolve_left fault) _)
  | silent =>
    refine .inl ((latches_latch _ _).anyBit ?_)
    rw [if_pos expected, anyBit_latch]
    exact Bool.or_true _
  | answers =>
    rw [starts, if_pos BEq.rfl]
    exact .inr ⟨_, receiveOn, rfl⟩

theorem startData_received {s : Simulator} (on : s.receiveOn = true) {word : UInt32}
    (fromCard : anyBit word CommandWord.fromCard = true) (mapped : Option Bytes) :
    anyBit (s.startData word mapped).1.latched Status.errors = true ∨
      (s.startData word mapped).1.register Register.receiveCount = 0 := by
  unfold startData
  rw [if_pos fromCard]
  rcases s.card.readData s.blockLength with ⟨e | data, card⟩
  · left
    rw [anyBit_latch]
    exact Bool.or_true _
  · dsimp only
    unfold pumpReceive
    simp only [on]
    split
    · left
      rw [anyBit_latch]
      exact Bool.or_true _
    · right
      rw [register_setRegister, if_pos rfl]

def Sent (s : Simulator) : Prop :=
  anyBit s.latched Status.errors = true ∨ s.register Register.transmitCount = 0

theorem register_deliver (s : Simulator) (fetched : Bytes) (block offset : Nat) :
    (s.deliver fetched block).register offset = s.register offset := by
  unfold deliver
  split
  · rfl
  · dsimp only
    split <;> rfl

theorem pumpTransmit_sent {s : Simulator} (on : s.transmitOn = true) (waits : s.awaited.isSome = true)
    (mapped : Option Bytes) : (s.pumpTransmit mapped).Sent := by
  obtain ⟨block, waits⟩ := Option.isSome_iff_exists.mp waits
  unfold pumpTransmit
  simp only [on, waits]
  split
  · left
    rw [anyBit_latch]
    exact Bool.or_true _
  · right
    rw [register_deliver]
    exact (register_setRegister ..).trans (if_pos rfl)

theorem Sent.pumpTransmit {s : Simulator} (h : s.Sent) (mapped : Option Bytes) :
    (s.pumpTransmit mapped).Sent := by
  by_cases hp : s.transmitOn = true ∧ s.awaited.isSome = true
  · exact pumpTransmit_sent hp.1 hp.2 mapped
  · rwa [pumpTransmit_idle hp]

theorem startData_sent {s : Simulator} {word : UInt32}
    (toCard : anyBit word CommandWord.fromCard = false) (mapped : Option Bytes) :
    (s.startData word mapped).1.Sent ∨ (s.startData word mapped).1.awaited.isSome = true := by
  unfold startData
  rw [if_neg (by rw [toCard]; decide)]
  split
  · generalize hs : ({ s with awaited := some s.blockLength, cardBusy := true } : Simulator) = waiting
    have waits : waiting.awaited.isSome = true := by rw [← hs]; rfl
    cases on : waiting.transmitOn with
    | true => exact .inl (pumpTransmit_sent on waits mapped)
    | false =>
      rw [pumpTransmit_off on]
      exact .inr waits
  · left
    left
    rw [anyBit_latch]
    exact Bool.or_true _

end Simulator

namespace Bus

variable {b b' : Bus Simulator} {l : List Access}

theorem Performs.reports (h : Performs b l b') (start : b.hardware.Reports) : b'.hardware.Reports :=
  h.always start (fun _ mapped offset value reports => reports.write mapped offset value)
    fun _ _ reports => reports

theorem Performs.serving (h : Performs b l b') (all : l.all Access.serves = true) :
    ∃ mask receiveOn transmitOn failNextLoad,
      b'.hardware = { b.hardware with mask, receiveOn, transmitOn, failNextLoad } := by
  refine h.keeps (P := fun s => ∃ mask receiveOn transmitOn failNextLoad,
    s = { b.hardware with mask, receiveOn, transmitOn, failNextLoad }) all ⟨_, _, _, _, rfl⟩
    (fun s mapped offset value kind hs => ?_) fun s failNextLoad hs => ?_
  · obtain ⟨mask, receiveOn, transmitOn, failNextLoad, rfl⟩ := hs
    simp only [Access.serves, Bool.or_eq_true, beq_iff_eq, Bool.and_eq_true] at kind
    rcases kind with (rfl | rfl) | ⟨rfl, rfl⟩ <;> exact ⟨_, _, _, _, rfl⟩
  · obtain ⟨mask, receiveOn, transmitOn, -, rfl⟩ := hs
    exact ⟨mask, receiveOn, transmitOn, failNextLoad, rfl⟩

theorem Performs.latched (h : Performs b l b') (all : l.all Access.serves = true) :
    b'.hardware.latched = b.hardware.latched ∧ b'.hardware.registers = b.hardware.registers := by
  obtain ⟨mask, receiveOn, transmitOn, failNextLoad, hs⟩ := h.serving all
  rw [hs]
  exact ⟨rfl, rfl⟩

theorem Performs.issued {word : UInt32} (h : Performs b (.write Register.command word :: l) b')
    (rest : l.all Access.serves = true) :
    anyBit b'.hardware.latched Status.commandReady = true := by
  obtain ⟨b₁, -, h₁⟩ := h.head_write
  rw [(h₁.latched rest).1, (b₁.write_frame _ _).2.2]
  exact (b₁.hardware.setRegister Register.command word).issue_ready word b₁.mapped

theorem Performs.received {word : UInt32}
    (h : Performs b (.write Register.channelControl Channel.receiveOn ::
      .write Register.command word :: l) b')
    (reports : b.hardware.Reports) (still : b.hardware.Still)
    (starts : word &&& CommandWord.transfer = CommandWord.startTransfer)
    (expected : anyBit word CommandWord.responseKind = true)
    (fromCard : anyBit word CommandWord.fromCard = true) (rest : l.all Access.serves = true) :
    anyBit b'.hardware.latched Status.errors = true ∨
      b'.hardware.register Register.receiveCount = 0 := by
  obtain ⟨b₁, hb₁, h₁⟩ := h.head_write
  obtain ⟨b₂, hb₂, h₂⟩ := h₁.head_write
  have hframe := h₂.latched rest
  have hs : b₂.hardware = { b.hardware with receiveOn := true } := by
    rw [hb₂, (b₁.write_frame _ _).2.2, hb₁]
    exact congrArg Prod.fst (still.switchChannels_receiveOn b₁.mapped)
  rw [Simulator.register, hframe.1, hframe.2, (b₂.write_frame _ _).2.2, hs]
  have hstarts := Simulator.issue_starts
    (s := ({ b.hardware with receiveOn := true } : Simulator).setRegister Register.command word)
    reports starts expected b₂.mapped
  rcases hstarts with error | ⟨s', on, he⟩
  · exact .inl error
  · have hdata := Simulator.startData_received (s := s') on fromCard b₂.mapped
    rw [← he] at hdata
    exact hdata

theorem Performs.sent {word : UInt32}
    (h : Performs b (.write Register.command word ::
      .write Register.channelControl Channel.transmitOn :: l) b')
    (reports : b.hardware.Reports)
    (starts : word &&& CommandWord.transfer = CommandWord.startTransfer)
    (expected : anyBit word CommandWord.responseKind = true)
    (toCard : anyBit word CommandWord.fromCard = false) (rest : l.all Access.serves = true) :
    b'.hardware.Sent ∧ anyBit b'.hardware.latched Status.commandReady = true := by
  obtain ⟨b₁, hb₁, h₁⟩ := h.head_write
  obtain ⟨b₂, hb₂, h₂⟩ := h₁.head_write
  have hframe := h₂.latched rest
  generalize hissued : ((b.hardware.setRegister Register.command word).issue word b₁.mapped).1 =
    issued
  have hs : (Bus.write b₂ Register.channelControl Channel.transmitOn).hardware =
      ({ issued with transmitOn := true } : Simulator).pumpTransmit b₂.mapped := by
    rw [(b₂.write_frame _ _).2.2, hb₂, (b₁.write_frame _ _).2.2, hb₁, ← hissued]
    exact congrArg Prod.fst (Simulator.switchChannels_transmitOn _ b₂.mapped)
  have hready : anyBit issued.latched Status.commandReady = true := by
    rw [← hissued]
    exact Simulator.issue_ready _ _ _
  have hopen : issued.Sent ∨ issued.awaited.isSome = true := by
    rcases Simulator.issue_starts (s := b.hardware.setRegister Register.command word) reports starts
      expected b₁.mapped with error | ⟨s', -, he⟩
    · rw [hissued] at error
      exact .inl (.inl error)
    · have hdata := s'.startData_sent toCard b₁.mapped
      rw [← he, hissued] at hdata
      exact hdata
  rw [Simulator.Sent, Simulator.register, hframe.1, hframe.2, hs]
  refine ⟨?_, (Simulator.streams_pumpTransmit _ _).latches.anyBit hready⟩
  rcases hopen with sent | waits
  · have on : ({ issued with transmitOn := true } : Simulator).Sent := sent
    exact on.pumpTransmit b₂.mapped
  · exact Simulator.pumpTransmit_sent (s := { issued with transmitOn := true }) rfl waits b₂.mapped

end Bus

end CardHost
