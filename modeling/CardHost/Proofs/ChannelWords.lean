import CardHost.Proofs.CardWords
import CardHost.Proofs.DataPhases

namespace CardHost

namespace Simulator

def receive (s : Simulator) (data : Bytes) (mapped : Option Bytes) : Simulator × Option Bytes :=
  let address := s.register Register.receivePointer
  let length := min ((s.register Register.receiveCount).toNat * 4) data.length
  match locate? mapped address length with
  | none => (s.latch Status.overrun, none)
  | some start =>
    let bytes := mapped.getD []
    ((s.setRegister Register.receivePointer (address + .ofNat length)).setRegister Register.receiveCount 0,
      some (bytes.take start ++ s.inMemory (data.take length) ++ bytes.drop (start + length)))

def laid (s : Simulator) (data : Bytes) (mapped : Option Bytes) : Option Bytes :=
  let length := min ((s.register Register.receiveCount).toNat * 4) data.length
  (locate? mapped (s.register Register.receivePointer) length).map fun start =>
    let bytes := mapped.getD []
    bytes.take start ++ s.inMemory (data.take length) ++ bytes.drop (start + length)

def send (s : Simulator) (block : Nat) (mapped : Option Bytes) : Simulator :=
  let address := s.register Register.transmitPointer
  let length := (s.register Register.transmitCount).toNat * 4
  match locate? mapped address length with
  | none => s.latch Status.underrun
  | some start =>
    let fetched := ((mapped.getD []).drop start).take length
    let s := (s.setRegister Register.transmitPointer (address + .ofNat length)).setRegister Register.transmitCount 0
    { s with lastSent := fetched }.deliver fetched block

theorem pumpReceive_eq (s : Simulator) (mapped : Option Bytes) :
    s.pumpReceive mapped =
      match s.receiveOn, s.arrived with
      | true, some data => { s with arrived := none }.receive data mapped
      | _, _ => (s, none) := rfl

theorem pumpTransmit_eq (s : Simulator) (mapped : Option Bytes) :
    s.pumpTransmit mapped =
      match s.transmitOn, s.awaited with
      | true, some block => { s with awaited := none, cardBusy := false }.send block mapped
      | _, _ => s := rfl

/-! The accesses step by step in words. There is no result if a step leaves its word or the register file. -/

def register? (s : Simulator) (offset : Nat) : Option UInt32 :=
  if offset / 4 < Register.window / 4 then some (s.register offset) else none

def setRegister? (s : Simulator) (offset : Nat) (value : UInt32) : Option Simulator :=
  if offset / 4 < Register.window / 4 then some (s.setRegister offset value) else none

def status? (s : Simulator) : Option UInt32 := do
  let receiveCount ← s.register? Register.receiveCount
  let receiveNextCount ← s.register? Register.receiveNextCount
  let transmitCount ← s.register? Register.transmitCount
  let transmitNextCount ← s.register? Register.transmitNextCount
  let receiveDone := receiveCount == 0
  let transmitDone := transmitCount == 0
  return s.latched |||
    (if receiveDone then Status.endReceive else 0) |||
    (if receiveDone && receiveNextCount == 0 then Status.receiveFull else 0) |||
    (if transmitDone then Status.endTransmit else 0) |||
    (if transmitDone && transmitNextCount == 0 then Status.transmitEmpty else 0) |||
    (if s.cardBusy then 0 else Status.notBusy)

def read? (s : Simulator) (offset : Nat) : Option UInt32 :=
  if offset = Register.status then s.status?
  else if offset = Register.mask then some s.mask
  else if offset = Register.channelStatus then
    some ((if s.receiveOn then Channel.receiveOn else 0) ||| (if s.transmitOn then Channel.transmitOn else 0))
  else if stores offset then s.register? offset
  else some 0

/-- Where in the mapped bytes a bus range starts, if it lies inside them. An address before the mapping is no fault. -/
def place? (mapped : Option Bytes) (address : UInt32) (length : Nat) : Option (Option Nat) :=
  match mapped, Clock.difference? address.toNat busBase.toNat with
  | some bytes, some start => do
    let stop ← Clock.word? 64 (start + length)
    return if stop ≤ bytes.length then some start else none
  | _, _ => some none

def receive? (s : Simulator) (data : Bytes) (mapped : Option Bytes) : Option (Simulator × Option Bytes) := do
  let address ← s.register? Register.receivePointer
  let count ← s.register? Register.receiveCount
  let length := min (← Clock.word? 64 (count.toNat * 4)) data.length
  match ← place? mapped address length with
  | none => return (s.latch Status.overrun, none)
  | some start =>
    let bytes := mapped.getD []
    let next ← Clock.word? 32 (address.toNat + length)
    let s ← s.setRegister? Register.receivePointer (.ofNat next)
    let s ← s.setRegister? Register.receiveCount 0
    return (s, some (bytes.take start ++ s.inMemory (data.take length) ++ bytes.drop (start + length)))

def pumpReceive? (s : Simulator) (mapped : Option Bytes) : Option (Simulator × Option Bytes) :=
  match s.receiveOn, s.arrived with
  | true, some data => { s with arrived := none }.receive? data mapped
  | _, _ => some (s, none)

def deliver? (s : Simulator) (fetched : Bytes) (block : Nat) : Option Simulator :=
  if s.soc.secondRevision && fetched.length < Staging.minLength then some (s.latch Status.underrun)
  else do
    match ← s.card.writeData? ((s.inMemory fetched).take block) with
    | (.ok (), card) => return { s with card }
    | (.error _, card) => return { s with card }.latch Status.dataCrc

def send? (s : Simulator) (block : Nat) (mapped : Option Bytes) : Option Simulator := do
  let address ← s.register? Register.transmitPointer
  let count ← s.register? Register.transmitCount
  let length ← Clock.word? 64 (count.toNat * 4)
  match ← place? mapped address length with
  | none => return s.latch Status.underrun
  | some start =>
    let fetched := ((mapped.getD []).drop start).take length
    let next ← Clock.word? 32 (address.toNat + length)
    let s ← s.setRegister? Register.transmitPointer (.ofNat next)
    let s ← s.setRegister? Register.transmitCount 0
    ({ s with lastSent := fetched } : Simulator).deliver? fetched block

def pumpTransmit? (s : Simulator) (mapped : Option Bytes) : Option Simulator :=
  match s.transmitOn, s.awaited with
  | true, some block => { s with awaited := none, cardBusy := false }.send? block mapped
  | _, _ => some s

def startData? (s : Simulator) (word : UInt32) (mapped : Option Bytes) : Option (Simulator × Option Bytes) := do
  let mode ← s.register? Register.mode
  let block := (mode >>> 16).toNat
  if anyBit word CommandWord.fromCard then
    match ← s.card.readData? block with
    | (.ok data, card) => ({ s with card, arrived := some data } : Simulator).pumpReceive? mapped
    | (.error _, card) => return ({ s with card }.latch Status.dataTimeout, none)
  else if s.card.expectsWrite then
    let s ← { s with awaited := some block, cardBusy := true }.pumpTransmit? mapped
    return (s, none)
  else return (s.latch Status.dataTimeout, none)

def setResponse? (s : Simulator) (words : Response) : Option Simulator := do
  let s ← s.setRegister? Register.response (words.word 0)
  let s ← s.setRegister? (Register.response + 4) (words.word 1)
  let s ← s.setRegister? (Register.response + 8) (words.word 2)
  s.setRegister? (Register.response + 12) (words.word 3)

def accept? (s : Simulator) (reply : Reply) (expected : Bool) : Option Simulator :=
  match reply with
  | .none => some s
  | .short word => s.setResponse? (.ofWord word)
  | .shortNoCrc word => do
    let s ← s.setResponse? (.ofWord word)
    return s.latch (if expected then Status.responseCrc else 0)
  | .long words => s.setResponse? words

def issue? (s : Simulator) (word : UInt32) (mapped : Option Bytes) : Option (Simulator × Option Bytes) := do
  let s := s.cleared
  let argument ← s.register? Register.argument
  let expected := word &&& CommandWord.responseKind != CommandWord.noResponse
  if !s.enabled then return (s.latch (Status.responseTimeout ||| Status.commandReady), none)
  else if s.injected != 0 then
    return ({ s with injected := 0 }.latch (s.injected ||| Status.commandReady), none)
  else
    match ← s.card.execute? (word &&& CommandWord.number) argument with
    | (none, card) =>
      let s := { s with card }.latch (if expected then Status.responseTimeout else 0)
      return (s.latch Status.commandReady, none)
    | (some reply, card) =>
      let s ← { s with card }.accept? reply expected
      let s := s.latch Status.commandReady
      if word &&& CommandWord.transfer == CommandWord.startTransfer then s.startData? word mapped
      else return (s, none)

def switchReceive? (s : Simulator) (value : UInt32) (mapped : Option Bytes) :
    Option (Simulator × Option Bytes) :=
  if anyBit value Channel.receiveOff then some ({ s with receiveOn := false }, none)
  else if anyBit value Channel.receiveOn then { s with receiveOn := true }.pumpReceive? mapped
  else some (s, none)

def switchTransmit? (s : Simulator) (value : UInt32) (mapped : Option Bytes) : Option Simulator :=
  if anyBit value Channel.transmitOff then some { s with transmitOn := false }
  else if anyBit value Channel.transmitOn then { s with transmitOn := true }.pumpTransmit? mapped
  else some s

def switchChannels? (s : Simulator) (value : UInt32) (mapped : Option Bytes) :
    Option (Simulator × Option Bytes) := do
  let (s, moved) ← s.switchReceive? value mapped
  let s ← s.switchTransmit? value (moved.or mapped)
  return (s, moved)

def write? (s : Simulator) (mapped : Option Bytes) (offset : Nat) (value : UInt32) :
    Option (Simulator × Option Bytes) :=
  if offset = Register.control then some (s.setControl value, none)
  else if offset = Register.enable then some ({ s with mask := s.mask ||| value }, none)
  else if offset = Register.disable then some ({ s with mask := s.mask &&& ~~~value }, none)
  else if offset = Register.command then do
    let s ← s.setRegister? offset value
    s.issue? value mapped
  else if offset = Register.channelControl then s.switchChannels? value mapped
  else if isReadOnly offset then some (s, none)
  else if stores offset then (s.setRegister? offset value).map (·, none)
  else some (s, none)

def Fits (mapped : Option Bytes) : Prop := ∀ bytes ∈ mapped, bytes.length ≤ maxMapping

variable {s s' : Simulator} {mapped : Option Bytes}

theorem register?_eq (s : Simulator) {offset : Nat} (inside : offset < Register.window) :
    s.register? offset = some (s.register offset) :=
  if_pos (Nat.div_lt_div_of_lt_of_dvd (by decide) inside)

theorem setRegister?_eq (s : Simulator) {offset : Nat} (inside : offset < Register.window) (value : UInt32) :
    s.setRegister? offset value = some (s.setRegister offset value) :=
  if_pos (Nat.div_lt_div_of_lt_of_dvd (by decide) inside)

theorem lt_window_of_stores {offset : Nat} (h : stores offset = true) : offset < Register.window :=
  of_decide_eq_true (Bool.and_eq_true_iff.mp h).1

theorem status?_eq (s : Simulator) : s.status? = some s.status := by
  simp (disch := decide) only [status?, register?_eq, Option.bind_eq_bind, Option.bind_some, Option.pure_def]
  rfl

theorem read?_eq (s : Simulator) (offset : Nat) : s.read? offset = some (s.read offset) := by
  unfold read? read
  split
  · exact s.status?_eq
  · split
    · rfl
    · split
      · rfl
      · split
        · next stored => exact s.register?_eq (lt_window_of_stores stored)
        · rfl

theorem lt_busBase_iff (address : UInt32) : address < busBase ↔ ¬ busBase.toNat ≤ address.toNat := by
  rw [UInt32.lt_iff_toNat_lt, Nat.not_le]

theorem locate?_some (bytes : Bytes) (address : UInt32) (length : Nat) :
    locate? (some bytes) address length =
      if busBase.toNat ≤ address.toNat then
        if address.toNat - busBase.toNat + length ≤ bytes.length then some (address.toNat - busBase.toNat) else none
      else none := by
  simp only [locate?, Option.bind_some, lt_busBase_iff]
  by_cases above : busBase.toNat ≤ address.toNat
  · rw [if_neg (not_not.mpr above), if_pos above,
      UInt32.toNat_sub_of_le _ _ (UInt32.le_iff_toNat_le.mpr above)]
  · rw [if_pos above, if_neg above]

theorem locate?_eq_some {address : UInt32} {length start : Nat} (h : locate? mapped address length = some start) :
    ∃ bytes, mapped = some bytes ∧ address.toNat = busBase.toNat + start ∧ start + length ≤ bytes.length := by
  obtain ⟨bytes, rfl, -⟩ := Option.bind_eq_some_iff.mp h
  rw [locate?_some] at h
  split at h
  · next above =>
    split at h
    · next inside =>
      obtain rfl := Option.some.inj h
      exact ⟨bytes, rfl, (Nat.add_sub_of_le above).symm, inside⟩
    · cases h
  · cases h

theorem place?_eq (mapped : Option Bytes) (address : UInt32) {length : Nat} (small : length < 2 ^ 63) :
    place? mapped address length = some (locate? mapped address length) := by
  cases mapped with
  | none => rfl
  | some bytes =>
    have haddress := address.toNat_lt
    rw [locate?_some]
    unfold place?
    by_cases above : busBase.toNat ≤ address.toNat
    · have hstart : Clock.difference? address.toNat busBase.toNat = some (address.toNat - busBase.toNat) :=
        if_pos above
      rw [hstart, if_pos above]
      dsimp only
      rw [Clock.word?_of_lt (by omega)]
      rfl
    · have hstart : Clock.difference? address.toNat busBase.toNat = none := if_neg above
      rw [hstart, if_neg above]

theorem Fits.end_lt (fits : Fits mapped) {address : UInt32} {length start : Nat}
    (h : locate? mapped address length = some start) : address.toNat + length < 2 ^ 32 := by
  obtain ⟨bytes, rfl, haddress, hinside⟩ := locate?_eq_some h
  have hbytes : bytes.length ≤ maxMapping := fits bytes rfl
  rw [haddress]
  unfold maxMapping at hbytes
  have hbase : busBase.toNat = 0x20000000 := rfl
  omega

theorem ofNat_toNat_add (address : UInt32) (length : Nat) :
    UInt32.ofNat (address.toNat + length) = address + UInt32.ofNat length := by
  rw [UInt32.ofNat_add, UInt32.ofNat_toNat]

theorem count_lt (count : UInt32) : count.toNat * 4 < 2 ^ 34 := by
  have hcount := count.toNat_lt
  omega

theorem receive?_eq (s : Simulator) (fits : Fits mapped) (data : Bytes) :
    s.receive? data mapped = some (s.receive data mapped) := by
  have hcount := count_lt (s.register Register.receiveCount)
  unfold receive? receive
  simp (disch := decide) only [register?_eq, setRegister?_eq, Option.bind_eq_bind, Option.bind_some, Option.pure_def]
  rw [Clock.word?_of_lt (Nat.lt_trans hcount (by decide)), Option.bind_some, place?_eq _ _ (by omega), Option.bind_some]
  split
  · rfl
  · next start found =>
    rw [Clock.word?_of_lt (fits.end_lt found), Option.bind_some, ofNat_toNat_add]
    rfl

theorem pumpReceive?_eq (s : Simulator) (fits : Fits mapped) :
    s.pumpReceive? mapped = some (s.pumpReceive mapped) := by
  rw [pumpReceive_eq]
  unfold pumpReceive?
  split
  · exact receive?_eq _ fits _
  · rfl

theorem deliver?_eq (s : Simulator) (h : s.card.Bounded) {fetched : Bytes} (short : fetched.length ≤ maxMapping)
    (block : Nat) : s.deliver? fetched block = some (s.deliver fetched block) := by
  have hpayload : ((s.inMemory fetched).take block).length < 2 ^ 63 := by
    have hlength := s.length_inMemory fetched
    rw [List.length_take]
    unfold maxMapping at short
    omega
  unfold deliver? deliver
  split
  · rfl
  · rw [Card.writeData?_eq h hpayload]
    rcases written : s.card.writeData ((s.inMemory fetched).take block) with ⟨_ | ⟨⟩, card⟩
    · unfold inMemory at written
      dsimp only
      rw [written]
      rfl
    · unfold inMemory at written
      dsimp only
      rw [written]
      rfl

theorem send?_eq (s : Simulator) (h : s.card.Bounded) (fits : Fits mapped) (block : Nat) :
    s.send? block mapped = some (s.send block mapped) := by
  have hcount := count_lt (s.register Register.transmitCount)
  unfold send? send
  simp (disch := decide) only [register?_eq, setRegister?_eq, Option.bind_eq_bind, Option.bind_some, Option.pure_def]
  rw [Clock.word?_of_lt (Nat.lt_trans hcount (by decide)), Option.bind_some, place?_eq _ _ (by omega), Option.bind_some]
  split
  · rfl
  · next start found =>
    rw [Clock.word?_of_lt (fits.end_lt found), Option.bind_some, ofNat_toNat_add]
    obtain ⟨bytes, rfl, -⟩ := locate?_eq_some found
    refine deliver?_eq _ ?_ ?_ block
    · exact h
    · refine Nat.le_trans ?_ (fits bytes rfl)
      rw [List.length_take, List.length_drop, Option.getD_some]
      omega

theorem pumpTransmit?_eq (s : Simulator) (h : s.card.Bounded) (fits : Fits mapped) :
    s.pumpTransmit? mapped = some (s.pumpTransmit mapped) := by
  rw [pumpTransmit_eq]
  unfold pumpTransmit?
  split
  · refine send?_eq _ ?_ fits _
    exact h
  · rfl

theorem startData?_eq (s : Simulator) (h : s.card.Bounded) (fits : Fits mapped) (word : UInt32) :
    s.startData? word mapped = some (s.startData word mapped) := by
  have hblock : (s.register Register.mode >>> 16).toNat < 2 ^ 63 :=
    Nat.lt_trans (UInt32.toNat_lt _) (by decide)
  unfold startData? startData
  simp (disch := decide) only [register?_eq, Option.bind_eq_bind, Option.bind_some, Option.pure_def]
  split
  · rw [Card.readData?_eq h hblock, Option.bind_some, blockLength]
    rcases s.card.readData (s.register Register.mode >>> 16).toNat with ⟨_ | data, card⟩
    · rfl
    · exact pumpReceive?_eq _ fits
  · split
    · have hpump := pumpTransmit?_eq { s with awaited := some s.blockLength, cardBusy := true } h fits
      exact congrArg (Option.bind · fun s => some (s, none)) hpump
    · rfl

theorem setResponse?_eq (s : Simulator) (words : Response) : s.setResponse? words = some (s.setResponse words) := by
  unfold setResponse?
  simp (disch := decide) only [setRegister?_eq, Option.bind_eq_bind, Option.bind_some]
  rfl

theorem accept?_eq (s : Simulator) (reply : Reply) (expected : Bool) :
    s.accept? reply expected = some (s.accept reply expected) := by
  cases reply with
  | none => rfl
  | short word => exact s.setResponse?_eq _
  | shortNoCrc word =>
    rw [accept?, setResponse?_eq]
    rfl
  | long words => exact s.setResponse?_eq words

theorem issue?_eq (s : Simulator) (h : s.card.Bounded) (fits : Fits mapped) (word : UInt32) :
    s.issue? word mapped = some (s.issue word mapped) := by
  have henabled : s.cleared.enabled = s.enabled := rfl
  have hinjected : s.cleared.injected = s.injected := rfl
  have hargument : s.cleared.register? Register.argument = some (s.register Register.argument) :=
    register?_eq _ (by decide)
  have hexecutes : s.cleared.card.execute? (word &&& CommandWord.number) (s.register Register.argument) =
      some (s.card.execute (word &&& CommandWord.number) (s.register Register.argument)) := Card.execute?_eq _ _ _
  have hexecuted := h.execute (word &&& CommandWord.number) (s.register Register.argument)
  obtain ⟨goesOn, s', responds⟩ := s.responds word
  rw [responds.issue]
  unfold issue?
  dsimp only
  rw [hargument, Option.bind_eq_bind, Option.bind_some, henabled, hinjected]
  cases responds with
  | disabled enabled =>
    rw [if_pos (by rw [enabled]; rfl)]
    rfl
  | fault enabled injected =>
    rw [if_neg (by rw [enabled]; decide), if_pos (bne_iff_ne.mpr injected)]
    rfl
  | silent card enabled injected executes =>
    rw [if_neg (by rw [enabled]; decide), if_neg (by rw [injected]; decide), hexecutes, executes]
    rfl
  | answers reply card enabled injected executes =>
    rw [if_neg (by rw [enabled]; decide), if_neg (by rw [injected]; decide), hexecutes, executes, Option.bind_eq_bind,
      Option.bind_some]
    dsimp only
    rw [accept?_eq, Option.bind_eq_bind, Option.bind_some]
    split
    · refine startData?_eq _ ?_ fits word
      rw [executes] at hexecuted
      change (({ s.cleared with card } : Simulator).accept reply _).card.Bounded
      rwa [card_accept]
    · rfl

theorem switchReceive?_eq (s : Simulator) (fits : Fits mapped) (value : UInt32) :
    s.switchReceive? value mapped = some (s.switchReceive value mapped) := by
  unfold switchReceive? switchReceive
  split
  · rfl
  · split
    · exact pumpReceive?_eq _ fits
    · rfl

theorem switchTransmit?_eq (s : Simulator) (h : s.card.Bounded) (fits : Fits mapped) (value : UInt32) :
    s.switchTransmit? value mapped = some (s.switchTransmit value mapped) := by
  unfold switchTransmit? switchTransmit
  split
  · rfl
  · split
    · exact pumpTransmit?_eq _ h fits
    · rfl

theorem receive_moved (s : Simulator) (data : Bytes) (mapped : Option Bytes) :
    (s.receive data mapped).2 = s.laid data mapped := by
  unfold receive laid
  dsimp only
  split
  · next absent =>
    rw [absent]
    rfl
  · next found =>
    rw [found]
    rfl

theorem pumpReceive_moves (s : Simulator) (mapped : Option Bytes) :
    (s.pumpReceive mapped).2 = if s.receiveOn then s.arrived.bind (s.laid · mapped) else none := by
  rw [pumpReceive_eq]
  split
  · next on waits =>
    rw [on, waits, receive_moved]
    rfl
  · next other =>
    cases on : s.receiveOn with
    | false => rfl
    | true =>
      cases waits : s.arrived with
      | none => rfl
      | some data => exact (other data on waits).elim

theorem length_laid {data moved : Bytes} (lies : s.laid data mapped = some moved) :
    ∃ bytes, mapped = some bytes ∧ moved.length = bytes.length := by
  obtain ⟨start, found, rfl⟩ := Option.map_eq_some_iff.mp lies
  obtain ⟨bytes, rfl, -, inside⟩ := locate?_eq_some found
  refine ⟨bytes, rfl, ?_⟩
  rw [Option.getD_some, List.length_append, List.length_append, length_inMemory, List.length_take,
    List.length_take, List.length_drop]
  omega

theorem Fits.switchReceive (fits : Fits mapped) (s : Simulator) (value : UInt32) :
    Fits ((s.switchReceive value mapped).2.or mapped) := by
  cases moves : (s.switchReceive value mapped).2 with
  | none => exact fits
  | some moved =>
    unfold Simulator.switchReceive at moves
    split at moves
    · cases moves
    split at moves
    · rw [pumpReceive_moves] at moves
      obtain ⟨data, -, lies⟩ := Option.bind_eq_some_iff.mp moves
      obtain ⟨bytes, rfl, hlength⟩ := length_laid lies
      rintro _ ⟨⟩
      rw [hlength]
      exact fits bytes rfl
    · cases moves

theorem card_pumpReceive (s : Simulator) (mapped : Option Bytes) : (s.pumpReceive mapped).1.card = s.card := by
  rw [pumpReceive_eq]
  split
  · unfold receive
    dsimp only
    split <;> rfl
  · rfl

theorem card_switchReceive (s : Simulator) (value : UInt32) (mapped : Option Bytes) :
    (s.switchReceive value mapped).1.card = s.card := by
  unfold switchReceive
  split
  · rfl
  · split
    · exact card_pumpReceive _ mapped
    · rfl

theorem switchChannels?_eq (s : Simulator) (h : s.card.Bounded) (fits : Fits mapped) (value : UInt32) :
    s.switchChannels? value mapped = some (s.switchChannels value mapped) := by
  have hcard : (s.switchReceive value mapped).1.card.Bounded := by
    rw [card_switchReceive]
    exact h
  have hfits := fits.switchReceive s value
  rw [switchChannels?, switchReceive?_eq s fits, Option.bind_eq_bind, Option.bind_some, switchChannels_eq]
  generalize s.switchReceive value mapped = switched at hcard hfits
  obtain ⟨s', moved⟩ := switched
  dsimp only at hcard hfits ⊢
  rw [switchTransmit?_eq s' hcard hfits]
  rfl

/-! What a write does to the card is what calls to the card do. -/

theorem Streams.reaches (h : s.Streams s') : s.card.Reaches s'.card := by
  induction h with
  | read _ count ih => exact ih.trans (.call _ (.read count))
  | write _ data ih => exact ih.trans (.call _ (.write data))
  | refl => exact .refl _
  | hold _ _ _ _ _ ih => exact ih
  | spend _ _ _ ih => exact ih
  | latch _ _ ih => exact ih

theorem Responds.reaches {word : UInt32} {goesOn : Bool} (h : s.Responds word goesOn s') :
    s.card.Reaches s'.card := by
  have hcall : s.card.Reaches (s.card.execute (word &&& CommandWord.number) (s.register Register.argument)).2 :=
    .call s.card (.execute _ _)
  cases h with
  | disabled => exact .refl _
  | fault => exact .refl _
  | silent card enabled injected executes =>
    rw [executes] at hcall
    exact hcall
  | answers reply card enabled injected executes =>
    rw [executes] at hcall
    change s.card.Reaches (({ s.cleared with card } : Simulator).accept reply _).card
    rwa [card_accept]

theorem reaches_issue (s : Simulator) (word : UInt32) (mapped : Option Bytes) :
    s.card.Reaches (s.issue word mapped).1.card :=
  issue_induction (p := fun s' => s.card.Reaches s'.card) (fun _ _ responds => responds.reaches) mapped
    fun s' reaches => reaches.trans (s'.streams_startData word mapped).reaches

theorem reaches_switchChannels (s : Simulator) (value : UInt32) (mapped : Option Bytes) :
    s.card.Reaches (s.switchChannels value mapped).1.card :=
  switchChannels_induction (p := fun s' => s.card.Reaches s'.card) (.refl _) (fun _ _ _ h => h)
    (fun _ _ streams h => h.trans streams.reaches) value mapped

theorem reaches_write (s : Simulator) (mapped : Option Bytes) (offset : Nat) (value : UInt32) :
    s.card.Reaches (s.write mapped offset value).1.card := by
  have written := s.written mapped offset value
  generalize s.write mapped offset value = after at written ⊢
  cases written with
  | issues => exact (s.setRegister Register.command value).reaches_issue value mapped
  | switches => exact s.reaches_switchChannels value mapped
  | _ => exact .refl _

theorem write?_eq (s : Simulator) (h : s.card.Bounded) (fits : Fits mapped) (offset : Nat) (value : UInt32) :
    s.write? mapped offset value = some (s.write mapped offset value) := by
  unfold write? write
  split
  · rfl
  split
  · rfl
  split
  · rfl
  split
  · next command =>
    rw [setRegister?_eq _ (by rw [command]; decide)]
    exact (s.setRegister offset value).issue?_eq h fits value
  split
  · exact s.switchChannels?_eq h fits value
  split
  · rfl
  split
  · next stored =>
    rw [s.setRegister?_eq (lt_window_of_stores stored)]
    rfl
  · rfl

end Simulator

end CardHost
