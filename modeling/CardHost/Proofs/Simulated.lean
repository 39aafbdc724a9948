import CardHost.Proofs.Mask
import CardHost.Simulator

namespace CardHost

open Bus

namespace Direction

def pointer : Direction → Nat
  | fromCard => Register.receivePointer
  | toCard => Register.transmitPointer

def count : Direction → Nat
  | fromCard => Register.receiveCount
  | toCard => Register.transmitCount

end Direction

namespace Simulator

structure Alike (s s' : Simulator) : Prop where
  soc : s'.soc = s.soc
  enabled : s'.enabled = s.enabled
  mask : s'.mask = s.mask
  receiveNext : s'.register Register.receiveNextCount = s.register Register.receiveNextCount
  transmitNext : s'.register Register.transmitNextCount = s.register Register.transmitNextCount

theorem Alike.refl (s : Simulator) : s.Alike s := ⟨rfl, rfl, rfl, rfl, rfl⟩

theorem Alike.trans {s s' s'' : Simulator} (h : s.Alike s') (h' : s'.Alike s'') : s.Alike s'' :=
  ⟨h'.soc.trans h.soc, h'.enabled.trans h.enabled, h'.mask.trans h.mask,
    h'.receiveNext.trans h.receiveNext, h'.transmitNext.trans h.transmitNext⟩

theorem register_setRegister (s : Simulator) (offset offset' : Nat) (value : UInt32) :
    (s.setRegister offset value).register offset' =
      if offset' = offset then value else s.register offset' :=
  RegisterFile.get_set ..

theorem alike_setRegister (s : Simulator) (offset : Nat) (value : UInt32)
    (other : offset ≠ Register.receiveNextCount ∧ offset ≠ Register.transmitNextCount) :
    s.Alike (s.setRegister offset value) := by
  refine ⟨rfl, rfl, rfl, ?_, ?_⟩
  · rw [register_setRegister, if_neg other.1.symm]
  · rw [register_setRegister, if_neg other.2.symm]

theorem alike_latch (s : Simulator) (bits : UInt32) : s.Alike (s.latch bits) :=
  ⟨rfl, rfl, rfl, rfl, rfl⟩

/-- What moving data between the card and the channels can do, one piece after the other: a channel comes to
its end, the card is read or written, and errors are latched. -/
inductive Streams (s : Simulator) : Simulator → Prop
  | refl : Streams s s
  | hold {t : Simulator} (h : Streams s t) (arrived : Option Bytes) (awaited : Option Nat) (cardBusy : Bool)
    (lastSent : Bytes) : Streams s { t with arrived, awaited, cardBusy, lastSent }
  | spend {t : Simulator} (h : Streams s t) (d : Direction) (address : UInt32) :
    Streams s ((t.setRegister d.pointer address).setRegister d.count 0)
  | read {t : Simulator} (h : Streams s t) (count : Nat) :
    Streams s { t with card := (t.card.readData count).2 }
  | write {t : Simulator} (h : Streams s t) (data : Bytes) :
    Streams s { t with card := (t.card.writeData data).2 }
  | latch {t : Simulator} (h : Streams s t) {bits : UInt32} (errors : Status.errors &&& bits = bits) :
    Streams s (t.latch bits)

theorem Streams.trans {s s' s'' : Simulator} (h : s.Streams s') (h' : s'.Streams s'') : s.Streams s'' := by
  induction h' with
  | refl => exact h
  | hold _ arrived awaited cardBusy lastSent ih => exact .hold ih arrived awaited cardBusy lastSent
  | spend _ d address ih => exact .spend ih d address
  | read _ count ih => exact .read ih count
  | write _ data ih => exact .write ih data
  | latch _ errors ih => exact .latch ih errors

theorem streams_pumpReceive (s : Simulator) (mapped : Option Bytes) : s.Streams (s.pumpReceive mapped).1 := by
  have taken : s.Streams { s with arrived := none } := .hold .refl none s.awaited s.cardBusy s.lastSent
  unfold pumpReceive
  split
  · dsimp only
    split
    · exact .latch taken (by decide)
    · exact .spend taken .fromCard _
  · exact .refl

theorem streams_deliver (s : Simulator) (fetched : Bytes) (block : Nat) :
    s.Streams (s.deliver fetched block) := by
  unfold deliver
  split
  · exact .latch .refl (by decide)
  · dsimp only
    generalize (if s.soc.swapsBytes then fetched.reverseWords else fetched).take block = payload
    have written : s.Streams { s with card := (s.card.writeData payload).2 } := .write .refl payload
    split
    · next result =>
      rw [result] at written
      exact written
    · next result =>
      rw [result] at written
      exact .latch written (by decide)

theorem pumpTransmit_idle {s : Simulator} (idle : ¬ (s.transmitOn = true ∧ s.awaited.isSome = true))
    (mapped : Option Bytes) : s.pumpTransmit mapped = s := by
  unfold pumpTransmit
  split
  · next on waits => exact (idle ⟨on, by rw [waits]; rfl⟩).elim
  · rfl

theorem pumpTransmit_off {s : Simulator} (off : s.transmitOn = false) (mapped : Option Bytes) :
    s.pumpTransmit mapped = s :=
  pumpTransmit_idle (fun h => Bool.false_ne_true (off.symm.trans h.1)) mapped

theorem streams_pumpTransmit (s : Simulator) (mapped : Option Bytes) : s.Streams (s.pumpTransmit mapped) := by
  have taken : s.Streams { s with awaited := none, cardBusy := false } :=
    .hold .refl s.arrived none false s.lastSent
  unfold pumpTransmit
  split
  · dsimp only
    split
    · exact .latch taken (by decide)
    · exact (Streams.hold (.spend taken .toCard _) _ _ _ _).trans (streams_deliver _ _ _)
  · exact .refl

theorem streams_startData (s : Simulator) (word : UInt32) (mapped : Option Bytes) :
    s.Streams (s.startData word mapped).1 := by
  unfold startData
  split
  · have read : s.Streams { s with card := (s.card.readData s.blockLength).2 } := .read .refl s.blockLength
    split
    · next result =>
      rw [result] at read
      exact (Streams.hold read _ _ _ _).trans (streams_pumpReceive _ mapped)
    · next result =>
      rw [result] at read
      exact .latch read (by decide)
  · split
    · exact (Streams.hold .refl _ _ _ _).trans (streams_pumpTransmit _ mapped)
    · exact .latch .refl (by decide)

theorem Streams.alike {s s' : Simulator} (h : s.Streams s') : s.Alike s' := by
  induction h with
  | refl => exact .refl s
  | hold _ _ _ _ _ ih => exact ih.trans ⟨rfl, rfl, rfl, rfl, rfl⟩
  | spend _ d _ ih =>
    refine (ih.trans (alike_setRegister _ d.pointer _ ?_)).trans (alike_setRegister _ d.count _ ?_)
    · cases d <;> decide
    · cases d <;> decide
  | read _ _ ih => exact ih.trans ⟨rfl, rfl, rfl, rfl, rfl⟩
  | write _ _ ih => exact ih.trans ⟨rfl, rfl, rfl, rfl, rfl⟩
  | latch _ _ ih => exact ih.trans (alike_latch _ _)

def cleared (s : Simulator) : Simulator :=
  { s with latched := s.latched &&& ~~~(Status.commandReady ||| Status.errors) }

/-- How a command can go up to its data phase, and whether it goes on to one. -/
inductive Responds (s : Simulator) (word : UInt32) : Bool → Simulator → Prop
  | disabled (enabled : s.enabled = false) :
    Responds s word false (s.cleared.latch (Status.responseTimeout ||| Status.commandReady))
  | fault (enabled : s.enabled = true) (injected : s.injected ≠ 0) :
    Responds s word false ({ s.cleared with injected := 0 }.latch (s.injected ||| Status.commandReady))
  | silent (card : Card) (enabled : s.enabled = true) (injected : s.injected = 0)
    (executes : s.card.execute (word &&& CommandWord.number) (s.register Register.argument) =
      (none, card)) :
    Responds s word false (({ s.cleared with card }.latch
      (if anyBit word CommandWord.responseKind then Status.responseTimeout else 0)).latch
        Status.commandReady)
  | answers (reply : Reply) (card : Card) (enabled : s.enabled = true) (injected : s.injected = 0)
    (executes : s.card.execute (word &&& CommandWord.number) (s.register Register.argument) =
      (some reply, card)) :
    Responds s word (word &&& CommandWord.transfer == CommandWord.startTransfer)
      (({ s.cleared with card }.accept reply (anyBit word CommandWord.responseKind)).latch
        Status.commandReady)

theorem responds (s : Simulator) (word : UInt32) : ∃ goesOn s', s.Responds word goesOn s' := by
  cases enabled : s.enabled with
  | false => exact ⟨_, _, .disabled enabled⟩
  | true =>
    by_cases injected : s.injected = 0
    · rcases executes : s.card.execute (word &&& CommandWord.number) (s.register Register.argument)
        with ⟨_ | reply, card⟩
      · exact ⟨_, _, .silent card enabled injected executes⟩
      · exact ⟨_, _, .answers reply card enabled injected executes⟩
    · exact ⟨_, _, .fault enabled injected⟩

theorem register_setResponse_other (s : Simulator) (words : Response) {offset : Nat}
    (other : offset < Register.response ∨ Register.response + 16 ≤ offset) :
    (s.setResponse words).register offset = s.register offset := by
  simp only [setResponse, register_setRegister]
  rw [if_neg (by omega), if_neg (by omega), if_neg (by omega), if_neg (by omega)]

theorem card_accept (s : Simulator) (reply : Reply) (expected : Bool) :
    (s.accept reply expected).card = s.card := by
  cases reply <;> rfl

theorem accept_frame (s : Simulator) (reply : Reply) (expected : Bool) :
    ∃ latched registers, s.accept reply expected = { s with latched, registers } ∧
      ∀ offset, offset < Register.response ∨ Register.response + 16 ≤ offset →
        registers.get offset = s.register offset := by
  cases reply with
  | none => exact ⟨_, _, rfl, fun _ _ => rfl⟩
  | short word => exact ⟨_, _, rfl, fun _ other => s.register_setResponse_other _ other⟩
  | shortNoCrc word => exact ⟨_, _, rfl, fun _ other => s.register_setResponse_other _ other⟩
  | long words => exact ⟨_, _, rfl, fun _ other => s.register_setResponse_other _ other⟩

section

variable {s s' : Simulator} {word : UInt32} {goesOn : Bool}

theorem Responds.issue (h : s.Responds word goesOn s') (mapped : Option Bytes) :
    s.issue word mapped = if goesOn then s'.startData word mapped else (s', none) := by
  unfold Simulator.issue
  dsimp only
  cases h with
  | disabled enabled =>
    rw [if_pos (by rw [enabled]; rfl)]
    rfl
  | fault enabled injected =>
    rw [if_neg (by rw [enabled]; decide), if_pos (bne_iff_ne.mpr injected)]
    rfl
  | silent card enabled injected executes =>
    rw [if_neg (by rw [enabled]; decide), if_neg (by rw [injected]; decide)]
    split
    · next h =>
      cases executes.symm.trans h
      rfl
    · next h => cases executes.symm.trans h
  | answers reply card enabled injected executes =>
    rw [if_neg (by rw [enabled]; decide), if_neg (by rw [injected]; decide)]
    split
    · next h => cases executes.symm.trans h
    · next h =>
      cases executes.symm.trans h
      rfl

theorem Responds.frame (h : s.Responds word goesOn s') :
    ∃ latched injected card registers, s' = { s with latched, injected, card, registers } ∧
      ∀ offset, offset < Register.response ∨ Register.response + 16 ≤ offset →
        registers.get offset = s.register offset := by
  cases h with
  | disabled => exact ⟨_, _, _, _, rfl, fun _ _ => rfl⟩
  | fault => exact ⟨_, _, _, _, rfl, fun _ _ => rfl⟩
  | silent => exact ⟨_, _, _, _, rfl, fun _ _ => rfl⟩
  | answers reply card =>
    obtain ⟨latched, registers, haccept, hregisters⟩ := { s.cleared with card }.accept_frame reply
      (anyBit word CommandWord.responseKind)
    rw [haccept]
    exact ⟨_, _, _, _, rfl, hregisters⟩

theorem Responds.quiet (h : s.Responds word goesOn s')
    (starts : word &&& CommandWord.transfer ≠ CommandWord.startTransfer) : goesOn = false := by
  cases h with
  | answers => exact beq_eq_false_iff_ne.mpr starts
  | _ => rfl

theorem Responds.starts (h : s.Responds word goesOn s') (more : goesOn = true) :
    word &&& CommandWord.transfer = CommandWord.startTransfer := by
  cases h with
  | answers => exact beq_iff_eq.mp more
  | _ => cases more

theorem Responds.register (h : s.Responds word goesOn s') {offset : Nat}
    (other : offset < Register.response ∨ Register.response + 16 ≤ offset) :
    s'.register offset = s.register offset := by
  obtain ⟨latched, injected, card, registers, rfl, hregisters⟩ := h.frame
  exact hregisters offset other

theorem Responds.receiveOn (h : s.Responds word goesOn s') : s'.receiveOn = s.receiveOn := by
  obtain ⟨latched, injected, card, registers, rfl, -⟩ := h.frame
  rfl

theorem alike_of_responds (h : s.Responds word goesOn s') : s.Alike s' := by
  obtain ⟨latched, injected, card, registers, rfl, hregisters⟩ := h.frame
  exact ⟨rfl, rfl, rfl, hregisters _ (by decide), hregisters _ (by decide)⟩

theorem issue_induction {p : Simulator → Prop} (responds : ∀ goesOn s', s.Responds word goesOn s' → p s')
    (mapped : Option Bytes) (starts : ∀ s', p s' → p (s'.startData word mapped).1) :
    p (s.issue word mapped).1 := by
  obtain ⟨goesOn, s', h⟩ := s.responds word
  rw [h.issue mapped]
  cases goesOn with
  | false => exact responds _ _ h
  | true => exact starts _ (responds _ _ h)

end

theorem alike_issue (s : Simulator) (word : UInt32) (mapped : Option Bytes) :
    s.Alike (s.issue word mapped).1 :=
  issue_induction (fun _ _ responds => alike_of_responds responds) mapped
    fun s' alike => alike.trans (s'.streams_startData word mapped).alike

def switchReceive (s : Simulator) (value : UInt32) (mapped : Option Bytes) :
    Simulator × Option Bytes :=
  if anyBit value Channel.receiveOff then ({ s with receiveOn := false }, none)
  else if anyBit value Channel.receiveOn then { s with receiveOn := true }.pumpReceive mapped
  else (s, none)

def switchTransmit (s : Simulator) (value : UInt32) (mapped : Option Bytes) : Simulator :=
  if anyBit value Channel.transmitOff then { s with transmitOn := false }
  else if anyBit value Channel.transmitOn then { s with transmitOn := true }.pumpTransmit mapped
  else s

theorem switchChannels_eq (s : Simulator) (value : UInt32) (mapped : Option Bytes) :
    s.switchChannels value mapped =
      ((s.switchReceive value mapped).1.switchTransmit value
        ((s.switchReceive value mapped).2.or mapped), (s.switchReceive value mapped).2) := rfl

theorem streams_switchReceive (s : Simulator) (value : UInt32) (mapped : Option Bytes) :
    ∃ receiveOn, Streams { s with receiveOn } (s.switchReceive value mapped).1 := by
  unfold switchReceive
  split
  · exact ⟨false, .refl⟩
  · split
    · exact ⟨true, streams_pumpReceive _ mapped⟩
    · exact ⟨s.receiveOn, .refl⟩

theorem streams_switchTransmit (s : Simulator) (value : UInt32) (mapped : Option Bytes) :
    ∃ transmitOn, Streams { s with transmitOn } (s.switchTransmit value mapped) := by
  unfold switchTransmit
  split
  · exact ⟨false, .refl⟩
  · split
    · exact ⟨true, streams_pumpTransmit _ mapped⟩
    · exact ⟨s.transmitOn, .refl⟩

theorem switchChannels_induction {p : Simulator → Prop} {s : Simulator} (h : p s)
    (switches : ∀ (s : Simulator) (receiveOn transmitOn : Bool), p s → p { s with receiveOn, transmitOn })
    (streams : ∀ s s' : Simulator, s.Streams s' → p s → p s') (value : UInt32) (mapped : Option Bytes) :
    p (s.switchChannels value mapped).1 := by
  rw [switchChannels_eq]
  obtain ⟨receiveOn, received⟩ := s.streams_switchReceive value mapped
  generalize (s.switchReceive value mapped).1 = t at received
  obtain ⟨transmitOn, sent⟩ := t.streams_switchTransmit value ((s.switchReceive value mapped).2.or mapped)
  exact streams _ _ sent (switches t _ _ (streams _ _ received (switches s receiveOn s.transmitOn h)))

theorem alike_switchChannels (s : Simulator) (value : UInt32) (mapped : Option Bytes) :
    s.Alike (s.switchChannels value mapped).1 :=
  switchChannels_induction (p := s.Alike) (.refl s) (fun _ _ _ h => h.trans ⟨rfl, rfl, rfl, rfl, rfl⟩)
    (fun _ _ streams h => h.trans streams.alike) value mapped

theorem setControl_reset (s : Simulator) {value : UInt32} (reset : anyBit value Control.softReset = true) :
    s.setControl value =
      { s.reset with enabled := !anyBit value Control.off && anyBit value Control.on } := by
  unfold setControl
  rw [reset]
  cases anyBit value Control.off <;> cases anyBit value Control.on <;> rfl

theorem setControl_steady (s : Simulator) {value : UInt32} (steady : anyBit value Control.softReset = false) :
    s.setControl value =
      { s with enabled := !anyBit value Control.off && (anyBit value Control.on || s.enabled) } := by
  unfold setControl
  rw [steady]
  cases anyBit value Control.off <;> cases anyBit value Control.on <;> rfl

inductive Written (s : Simulator) (mapped : Option Bytes) :
    Nat → UInt32 → Simulator × Option Bytes → Prop
  | resets {value : UInt32} (reset : anyBit value Control.softReset = true) (enabled : Bool) :
    Written s mapped Register.control value ({ s.reset with enabled }, none)
  | controls {value : UInt32} (steady : anyBit value Control.softReset = false) (enabled : Bool) :
    Written s mapped Register.control value ({ s with enabled }, none)
  | enables (value : UInt32) : Written s mapped Register.enable value ({ s with mask := s.mask ||| value }, none)
  | disables (value : UInt32) :
    Written s mapped Register.disable value ({ s with mask := s.mask &&& ~~~value }, none)
  | issues (value : UInt32) :
    Written s mapped Register.command value ((s.setRegister Register.command value).issue value mapped)
  | switches (value : UInt32) : Written s mapped Register.channelControl value (s.switchChannels value mapped)
  | stores {offset : Nat} (value : UInt32)
    (other : offset ∉ [Register.control, Register.enable, Register.disable, Register.command,
      Register.channelControl]) : Written s mapped offset value (s.setRegister offset value, none)
  | ignores {offset : Nat} (value : UInt32)
    (other : offset ∉ [Register.control, Register.enable, Register.disable, Register.command,
      Register.channelControl]) : Written s mapped offset value (s, none)

theorem written (s : Simulator) (mapped : Option Bytes) (offset : Nat) (value : UInt32) :
    s.Written mapped offset value (s.write mapped offset value) := by
  by_cases other : offset ∈ [Register.control, Register.enable, Register.disable, Register.command,
      Register.channelControl]
  · simp only [List.mem_cons, List.not_mem_nil, or_false] at other
    rcases other with rfl | rfl | rfl | rfl | rfl
    · cases reset : anyBit value Control.softReset with
      | true =>
        change s.Written mapped _ value (s.setControl value, none)
        rw [s.setControl_reset reset]
        exact .resets reset _
      | false =>
        change s.Written mapped _ value (s.setControl value, none)
        rw [s.setControl_steady reset]
        exact .controls reset _
    · exact .enables value
    · exact .disables value
    · exact .issues value
    · exact .switches value
  · have apart := other
    simp only [List.mem_cons, List.not_mem_nil, or_false, not_or] at apart
    simp only [write, apart, if_false]
    split
    · exact .ignores value other
    · split
      · exact .stores value other
      · exact .ignores value other

instance : HonestMask Simulator where
  mask s := s.mask
  read_mask _ := rfl
  mask_read _ _ := rfl
  mask_enable _ _ _ := rfl
  mask_disable _ _ _ := rfl
  mask_write s mapped offset value other := by
    change (s.write mapped offset value).1.mask = s.mask ∨ _ ∧ _ ∧ (s.write mapped offset value).1.mask = 0
    have written := s.written mapped offset value
    generalize s.write mapped offset value = written at *
    cases written with
    | resets reset => exact .inr ⟨rfl, reset, rfl⟩
    | controls => exact .inl rfl
    | enables => exact (other.1 rfl).elim
    | disables => exact (other.2 rfl).elim
    | issues => exact .inl (alike_issue (s.setRegister Register.command value) value mapped).mask
    | switches => exact .inl (s.alike_switchChannels value mapped).mask
    | stores => exact .inl rfl
    | ignores => exact .inl rfl
  mask_load s loaded bytes _ := by
    simp only [Hardware.load, load]
    split
    · rfl
    · split
      · rfl
      · split <;> rfl
  mask_sync _ _ := rfl
  mask_unload _ := rfl

end Simulator

end CardHost
