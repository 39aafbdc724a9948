import CardHost.Proofs.Simulated

namespace CardHost

open Bus

def Access.isStill : Access → Bool
  | .write offset value =>
    if offset = Register.command then
      value &&& CommandWord.transfer != CommandWord.startTransfer
    else if offset = Register.receiveNextCount ∨ offset = Register.transmitNextCount then value == 0
    else true
  | _ => true

theorem still_of_serves {l : List Access} (h : l.all Access.serves = true) :
    l.all Access.isStill = true :=
  Access.all_of_serves (fun _ => rfl) (fun _ => rfl) rfl (fun _ _ => rfl) (fun _ _ _ => rfl)
    (fun _ => rfl) rfl h

namespace Simulator

structure Still (s : Simulator) : Prop where
  arrived : s.arrived = none
  awaited : s.awaited = none
  line : s.cardBusy = false
  receiveNext : s.register Register.receiveNextCount = 0
  transmitNext : s.register Register.transmitNextCount = 0

theorem Still.alike {s s' : Simulator} (h : s.Still) (alike : s.Alike s')
    (arrived : s'.arrived = none) (awaited : s'.awaited = none) (line : s'.cardBusy = false) :
    s'.Still :=
  ⟨arrived, awaited, line, alike.receiveNext.trans h.receiveNext,
    alike.transmitNext.trans h.transmitNext⟩

theorem Still.latch {s : Simulator} (h : s.Still) (bits : UInt32) : (s.latch bits).Still :=
  h.alike (s.alike_latch bits) h.arrived h.awaited h.line

theorem Still.pumpReceive {s : Simulator} (h : s.Still) (mapped : Option Bytes) :
    s.pumpReceive mapped = (s, none) := by
  unfold Simulator.pumpReceive
  rw [h.arrived]
  cases s.receiveOn <;> rfl

theorem Still.pumpTransmit {s : Simulator} (h : s.Still) (mapped : Option Bytes) :
    s.pumpTransmit mapped = s := by
  refine pumpTransmit_idle (fun busy => ?_) mapped
  rw [h.awaited] at busy
  cases busy.2

theorem Still.switchReceive {s : Simulator} (h : s.Still) (value : UInt32) (mapped : Option Bytes) :
    ∃ receiveOn, s.switchReceive value mapped = ({ s with receiveOn }, none) := by
  have on : ({ s with receiveOn := true } : Simulator).Still :=
    ⟨h.arrived, h.awaited, h.line, h.receiveNext, h.transmitNext⟩
  unfold Simulator.switchReceive
  split
  · exact ⟨false, rfl⟩
  · split
    · exact ⟨true, on.pumpReceive mapped⟩
    · exact ⟨s.receiveOn, rfl⟩

theorem Still.switchTransmit {s : Simulator} (h : s.Still) (value : UInt32) (mapped : Option Bytes) :
    ∃ transmitOn, s.switchTransmit value mapped = { s with transmitOn } := by
  have on : ({ s with transmitOn := true } : Simulator).Still :=
    ⟨h.arrived, h.awaited, h.line, h.receiveNext, h.transmitNext⟩
  unfold Simulator.switchTransmit
  split
  · exact ⟨false, rfl⟩
  · split
    · exact ⟨true, on.pumpTransmit mapped⟩
    · exact ⟨s.transmitOn, rfl⟩

theorem Still.switchChannels {s : Simulator} (h : s.Still) (value : UInt32)
    (mapped : Option Bytes) :
    ∃ receiveOn transmitOn,
      s.switchChannels value mapped = ({ s with receiveOn, transmitOn }, none) := by
  obtain ⟨receiveOn, hr⟩ := h.switchReceive value mapped
  have on : ({ s with receiveOn } : Simulator).Still :=
    ⟨h.arrived, h.awaited, h.line, h.receiveNext, h.transmitNext⟩
  obtain ⟨transmitOn, ht⟩ := on.switchTransmit value mapped
  refine ⟨receiveOn, transmitOn, ?_⟩
  rw [switchChannels_eq, hr]
  exact congrArg (·, none) ht

theorem Responds.still {s s' : Simulator} {word : UInt32} {goesOn : Bool} (h : s.Responds word goesOn s')
    (still : s.Still) : s'.Still := by
  obtain ⟨latched, injected, card, registers, rfl, hregisters⟩ := h.frame
  exact ⟨still.arrived, still.awaited, still.line, (hregisters _ (by decide)).trans still.receiveNext,
    (hregisters _ (by decide)).trans still.transmitNext⟩

theorem Still.issue {s : Simulator} (h : s.Still) (word : UInt32) (mapped : Option Bytes) :
    (s.issue word mapped).1.Still ∨
      ∃ s' : Simulator, s'.Still ∧ s'.receiveOn = s.receiveOn ∧
        word &&& CommandWord.transfer = CommandWord.startTransfer ∧
        s.issue word mapped = s'.startData word mapped := by
  obtain ⟨goesOn, s', responds⟩ := s.responds word
  have still := responds.still h
  rw [responds.issue mapped]
  cases hg : goesOn with
  | false => exact .inl still
  | true => exact .inr ⟨s', still, responds.receiveOn, responds.starts hg, rfl⟩

theorem pumpReceive_on (s : Simulator) (mapped : Option Bytes) (on : s.receiveOn = true) :
    (s.pumpReceive mapped).1.arrived = none ∧ (s.pumpReceive mapped).1.awaited = s.awaited ∧
      (s.pumpReceive mapped).1.cardBusy = s.cardBusy := by
  unfold pumpReceive
  rw [on]
  cases h : s.arrived with
  | none => exact ⟨h, rfl, rfl⟩
  | some data =>
    dsimp only
    split <;> exact ⟨rfl, rfl, rfl⟩

theorem Still.startRead {s : Simulator} (h : s.Still) (on : s.receiveOn = true) {word : UInt32}
    (fromCard : anyBit word CommandWord.fromCard = true) (mapped : Option Bytes) :
    (s.startData word mapped).1.Still := by
  have hfields : (s.startData word mapped).1.arrived = none ∧
      (s.startData word mapped).1.awaited = s.awaited ∧
      (s.startData word mapped).1.cardBusy = s.cardBusy := by
    unfold startData
    rw [if_pos fromCard]
    rcases s.card.readData s.blockLength with ⟨e | data, card⟩
    · exact ⟨h.arrived, rfl, rfl⟩
    · exact pumpReceive_on { s with card, arrived := some data } mapped on
  exact h.alike (s.streams_startData word mapped).alike hfields.1 (hfields.2.1.trans h.awaited)
    (hfields.2.2.trans h.line)

structure Open (s : Simulator) : Prop where
  arrived : s.arrived = none
  line : s.awaited = none → s.cardBusy = false
  receiveNext : s.register Register.receiveNextCount = 0
  transmitNext : s.register Register.transmitNextCount = 0

theorem Open.alike {s s' : Simulator} (h : s.Open) (alike : s.Alike s')
    (arrived : s'.arrived = none) (line : s'.awaited = none → s'.cardBusy = false) : s'.Open :=
  ⟨arrived, line, alike.receiveNext.trans h.receiveNext, alike.transmitNext.trans h.transmitNext⟩

theorem Still.isOpen {s : Simulator} (h : s.Still) : s.Open :=
  ⟨h.arrived, fun _ => h.line, h.receiveNext, h.transmitNext⟩

theorem deliver_fields (s : Simulator) (fetched : Bytes) (block : Nat) :
    (s.deliver fetched block).arrived = s.arrived ∧
      (s.deliver fetched block).awaited = s.awaited ∧
      (s.deliver fetched block).cardBusy = s.cardBusy := by
  unfold deliver
  split
  · exact ⟨rfl, rfl, rfl⟩
  · dsimp only
    split <;> exact ⟨rfl, rfl, rfl⟩

theorem pumpTransmit_on (s : Simulator) {block : Nat} (on : s.transmitOn = true)
    (waits : s.awaited = some block) (mapped : Option Bytes) :
    (s.pumpTransmit mapped).arrived = s.arrived ∧ (s.pumpTransmit mapped).awaited = none ∧
      (s.pumpTransmit mapped).cardBusy = false := by
  unfold pumpTransmit
  rw [on, waits]
  dsimp only
  split
  · exact ⟨rfl, rfl, rfl⟩
  · exact deliver_fields _ _ _

theorem Open.pumpTransmit {s : Simulator} (h : s.Open) (mapped : Option Bytes) :
    (s.pumpTransmit mapped).Open := by
  cases hw : s.awaited with
  | none =>
    have still : s.Still := ⟨h.arrived, hw, h.line hw, h.receiveNext, h.transmitNext⟩
    rw [still.pumpTransmit]
    exact h
  | some block =>
    cases on : s.transmitOn with
    | false => rwa [pumpTransmit_off on]
    | true =>
      obtain ⟨harrived, -, hline⟩ := s.pumpTransmit_on on hw mapped
      exact h.alike (s.streams_pumpTransmit mapped).alike (harrived.trans h.arrived) fun _ => hline

theorem Open.turnOn {s : Simulator} (h : s.Open) (mapped : Option Bytes) :
    ({ s with transmitOn := true }.pumpTransmit mapped).Still := by
  obtain hw | ⟨block, hw⟩ := Option.eq_none_or_eq_some s.awaited
  · have still : ({ s with transmitOn := true } : Simulator).Still :=
      ⟨h.arrived, hw, h.line hw, h.receiveNext, h.transmitNext⟩
    rw [still.pumpTransmit]
    exact still
  · obtain ⟨harrived, hawaited, hline⟩ :=
      pumpTransmit_on { s with transmitOn := true } rfl hw mapped
    have halike := (streams_pumpTransmit { s with transmitOn := true } mapped).alike
    exact ⟨harrived.trans h.arrived, hawaited, hline, halike.receiveNext.trans h.receiveNext,
      halike.transmitNext.trans h.transmitNext⟩

theorem Still.startWrite {s : Simulator} (h : s.Still) {word : UInt32}
    (toCard : anyBit word CommandWord.fromCard = false) (mapped : Option Bytes) :
    (s.startData word mapped).1.Open := by
  unfold startData
  rw [if_neg (by rw [toCard]; decide)]
  split
  · have waits : ({ s with awaited := some s.blockLength, cardBusy := true } : Simulator).Open :=
      ⟨h.arrived, nofun, h.receiveNext, h.transmitNext⟩
    exact waits.pumpTransmit mapped
  · exact (h.latch _).isOpen

theorem Still.setRegister {s : Simulator} (h : s.Still) {offset : Nat} {value : UInt32}
    (quiet : offset = Register.receiveNextCount ∨ offset = Register.transmitNextCount →
      value = 0) : (s.setRegister offset value).Still := by
  refine ⟨h.arrived, h.awaited, h.line, ?_, ?_⟩
  · rw [register_setRegister]
    split
    · next heq => exact quiet (.inl heq.symm)
    · exact h.receiveNext
  · rw [register_setRegister]
    split
    · next heq => exact quiet (.inr heq.symm)
    · exact h.transmitNext

theorem Still.setRegister_other {s : Simulator} (h : s.Still) (offset : Nat) (value : UInt32)
    (other : ¬ (offset = Register.receiveNextCount ∨ offset = Register.transmitNextCount)) :
    (s.setRegister offset value).Still :=
  h.setRegister fun hnext => absurd hnext other

theorem Still.write {s : Simulator} (h : s.Still) (mapped : Option Bytes) {offset : Nat}
    {value : UInt32} (quiet : (Access.write offset value).isStill = true) :
    (s.write mapped offset value).1.Still := by
  have written := s.written mapped offset value
  generalize s.write mapped offset value = after at written ⊢
  cases written with
  | resets => exact ⟨rfl, rfl, rfl, rfl, rfl⟩
  | controls => exact ⟨h.arrived, h.awaited, h.line, h.receiveNext, h.transmitNext⟩
  | enables => exact ⟨h.arrived, h.awaited, h.line, h.receiveNext, h.transmitNext⟩
  | disables => exact ⟨h.arrived, h.awaited, h.line, h.receiveNext, h.transmitNext⟩
  | issues =>
    have hs : (s.setRegister Register.command value).Still := h.setRegister_other _ _ (by decide)
    obtain hi | ⟨s', -, -, hstart, -⟩ := hs.issue value mapped
    · exact hi
    · simp [Access.isStill, hstart] at quiet
  | switches =>
    obtain ⟨receiveOn, transmitOn, hs⟩ := h.switchChannels value mapped
    rw [hs]
    exact ⟨h.arrived, h.awaited, h.line, h.receiveNext, h.transmitNext⟩
  | stores _ other =>
    refine h.setRegister fun hnext => ?_
    have hcommand : offset ≠ Register.command := fun heq => other (by simp [heq])
    simpa [Access.isStill, hcommand, hnext] using quiet
  | ignores => exact h

theorem switchChannels_transmitOn (s : Simulator) (mapped : Option Bytes) :
    s.switchChannels Channel.transmitOn mapped =
      ({ s with transmitOn := true }.pumpTransmit mapped, none) := by
  cases mapped <;> rfl

theorem Still.switchChannels_receiveOn {s : Simulator} (h : s.Still) (mapped : Option Bytes) :
    s.switchChannels Channel.receiveOn mapped = ({ s with receiveOn := true }, none) := by
  have on : ({ s with receiveOn := true } : Simulator).Still :=
    ⟨h.arrived, h.awaited, h.line, h.receiveNext, h.transmitNext⟩
  have hs : s.switchReceive Channel.receiveOn mapped = ({ s with receiveOn := true }, none) :=
    on.pumpReceive mapped
  rw [switchChannels_eq, hs]
  rfl

theorem soc_write (s : Simulator) (mapped : Option Bytes) (offset : Nat) (value : UInt32) :
    (s.write mapped offset value).1.soc = s.soc := by
  have written := s.written mapped offset value
  generalize s.write mapped offset value = after at written ⊢
  cases written with
  | issues => exact (alike_issue (s.setRegister Register.command value) value mapped).soc
  | switches => exact (s.alike_switchChannels value mapped).soc
  | _ => rfl

theorem load_fields (s : Simulator) (loaded : Bool) (length : Nat) :
    ∃ failNextLoad, (s.load loaded length).2 = { s with failNextLoad } := by
  unfold load
  split
  · exact ⟨false, rfl⟩
  · split
    · exact ⟨s.failNextLoad, rfl⟩
    · split <;> exact ⟨s.failNextLoad, rfl⟩

end Simulator

namespace Bus

variable {b b' : Bus Simulator} {l : List Access}

theorem Performs.keeps {P : Simulator → Prop} {kind : Access → Bool} (h : Performs b l b')
    (all : l.all kind = true) (start : P b.hardware)
    (write : ∀ (s : Simulator) mapped offset value, kind (.write offset value) = true → P s →
      P (s.write mapped offset value).1)
    (loads : ∀ (s : Simulator) failNextLoad, P s → P { s with failNextLoad }) : P b'.hardware := by
  refine h.preserves all start (fun _ _ h => h) write (fun s loaded bytes direction h => ?_)
    (fun _ _ h => h) fun _ h => h
  obtain ⟨failNextLoad, hl⟩ := s.load_fields loaded bytes.length
  have hload : (Hardware.load s loaded bytes direction).2 = { s with failNextLoad } := hl
  rw [hload]
  exact loads s failNextLoad h

theorem Performs.always {P : Simulator → Prop} (h : Performs b l b') (start : P b.hardware)
    (write : ∀ (s : Simulator) mapped offset value, P s → P (s.write mapped offset value).1)
    (loads : ∀ (s : Simulator) failNextLoad, P s → P { s with failNextLoad }) : P b'.hardware :=
  h.keeps (List.all_eq_true.mpr fun _ _ => rfl) start (fun s mapped offset value _ => write s mapped offset value)
    loads

theorem Performs.soc (h : Performs b l b') : b'.hardware.soc = b.hardware.soc :=
  h.always (P := fun s => s.soc = b.hardware.soc) rfl
    (fun s mapped offset value same => (s.soc_write mapped offset value).trans same) fun _ _ same => same

theorem Performs.still (h : Performs b l b') (all : l.all Access.isStill = true)
    (start : b.hardware.Still) : b'.hardware.Still :=
  h.keeps all start (fun _ mapped _ _ quiet still => still.write mapped quiet)
    fun _ _ still => ⟨still.arrived, still.awaited, still.line, still.receiveNext, still.transmitNext⟩

theorem Performs.still_read {word : UInt32}
    (h : Performs b (.write Register.channelControl Channel.receiveOn ::
      .write Register.command word :: l) b')
    (start : b.hardware.Still) (fromCard : anyBit word CommandWord.fromCard = true)
    (rest : l.all Access.isStill = true) : b'.hardware.Still := by
  obtain ⟨b₁, hb₁, h₁⟩ := h.head_write
  obtain ⟨b₂, hb₂, h₂⟩ := h₁.head_write
  refine h₂.still rest ?_
  rw [(b₂.write_frame _ _).2.2, hb₂, (b₁.write_frame _ _).2.2, hb₁]
  have hon : (Hardware.write b.hardware b₁.mapped Register.channelControl Channel.receiveOn).1 =
      { b.hardware with receiveOn := true } :=
    congrArg Prod.fst (start.switchChannels_receiveOn b₁.mapped)
  rw [hon]
  generalize hs : ({ b.hardware with receiveOn := true } : Simulator).setRegister Register.command
    word = s
  have still : s.Still := by
    rw [← hs]
    refine Simulator.Still.setRegister_other ?_ _ _ (by decide)
    exact ⟨start.arrived, start.awaited, start.line, start.receiveNext, start.transmitNext⟩
  have on : s.receiveOn = true := by rw [← hs]; rfl
  have hissue : (Hardware.write ({ b.hardware with receiveOn := true } : Simulator) b₂.mapped
      Register.command word).1 = (s.issue word b₂.mapped).1 := by rw [← hs]; rfl
  rw [hissue]
  obtain hi | ⟨s', still', hreceive, -, hi⟩ := still.issue word b₂.mapped
  · exact hi
  · rw [hi]
    exact still'.startRead (hreceive.trans on) fromCard b₂.mapped

theorem Performs.still_write {word : UInt32}
    (h : Performs b (.write Register.command word ::
      .write Register.channelControl Channel.transmitOn :: l) b')
    (start : b.hardware.Still) (toCard : anyBit word CommandWord.fromCard = false)
    (rest : l.all Access.isStill = true) : b'.hardware.Still := by
  obtain ⟨b₁, hb₁, h₁⟩ := h.head_write
  obtain ⟨b₂, hb₂, h₂⟩ := h₁.head_write
  refine h₂.still rest ?_
  rw [(b₂.write_frame _ _).2.2, hb₂, (b₁.write_frame _ _).2.2, hb₁]
  have still : (b.hardware.setRegister Register.command word).Still :=
    start.setRegister_other _ _ (by decide)
  have hopen : ((b.hardware.setRegister Register.command word).issue word b₁.mapped).1.Open := by
    obtain hi | ⟨s', still', -, -, hi⟩ := still.issue word b₁.mapped
    · exact hi.isOpen
    · rw [hi]
      exact still'.startWrite toCard b₁.mapped
  have hs := hopen.turnOn b₂.mapped
  have he := congrArg Prod.fst (Simulator.switchChannels_transmitOn
    ((b.hardware.setRegister Register.command word).issue word b₁.mapped).1 b₂.mapped)
  exact he ▸ hs

end Bus

end CardHost
