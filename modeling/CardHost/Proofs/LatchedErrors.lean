import CardHost.Proofs.CardCalls

namespace CardHost

namespace Bits

theorem shiftRight_eight_eq_zero {word : UInt32} (low : word &&& 0xff = 0) : word >>> 8 = 0 ↔ word = 0 := by
  have hlow : word.toNat % 256 = 0 := by
    have h := congrArg UInt32.toNat low
    rw [UInt32.toNat_and] at h
    exact (Nat.and_two_pow_sub_one_eq_mod _ 8).symm.trans h
  have hhigh : (word >>> 8).toNat = word.toNat / 256 := by
    rw [UInt32.toNat_shiftRight, Nat.shiftRight_eq_div_pow]
    rfl
  rw [← UInt32.toNat_inj, ← UInt32.toNat_inj, hhigh, UInt32.toNat_zero]
  omega

end Bits

theorem anyBit_shiftRight_eight (word : UInt32) {bits : UInt32} (low : bits &&& 0xff = 0) :
    anyBit (word >>> 8) (bits >>> 8) = anyBit word bits := by
  have hbits : (word &&& bits) &&& 0xff = 0 := by rw [UInt32.and_assoc, low, UInt32.and_zero]
  rw [Bool.eq_iff_iff, anyBit, anyBit, bne_iff_ne, bne_iff_ne, ← UInt32.shiftRight_and]
  exact not_congr (Bits.shiftRight_eight_eq_zero hbits)

namespace Card

inductive Condition where
  | outOfRange
  | illegalCommand

namespace Condition

def bit : Condition → UInt32
  | outOfRange => CardStatus.outOfRange
  | illegalCommand => CardStatus.illegalCommand

def whole (status : UInt32) (condition : Condition) : Bool := anyBit status condition.bit

/-- The reply that publishes an address has room for one of the conditions only. -/
def folded (word : UInt32) : Condition → Bool
  | outOfRange => false
  | illegalCommand => anyBit word 0x4000

def ofError : DeviceError → Condition
  | .readPastEnd | .writePastEnd => outOfRange
  | _ => illegalCommand

end Condition

inductive Notice where
  | raises (condition : Condition)
  | status (shown : Condition → Bool)

def word? : Option Reply → Option UInt32
  | some (.short word) => some word
  | _ => none

/-- What a reply shows of the conditions: every short answer carries the card status, but for the echo of the
check for the card's version; the answer that publishes an address carries a part of it. -/
def shown? (card : Card) (index : UInt32) (reply : Option Reply) : Option (Condition → Bool) :=
  (word? reply).bind fun word =>
    if card.applicationNext then some (Condition.whole word)
    else if index = Opcode.sendInterfaceCond then none
    else if index = Opcode.sendRelativeAddress then some (Condition.folded word)
    else some (Condition.whole word)

def failure? {α : Type} : Except DeviceError α → Option Notice
  | .error e => some (.raises (.ofError e))
  | .ok _ => none

def notice? (card : Card) : Call → Option Notice
  | .execute index argument => (card.shown? index (card.execute index argument).1).map .status
  | .read count => failure? (card.readData count).1
  | .write data => failure? (card.writeData data).1
  | .store _ _ => none

def notices (card : Card) : List Call → List Notice
  | [] => []
  | call :: rest => (card.notice? call).toList ++ (card.after call).notices rest

def Pending (notices : List Notice) (condition : Condition) : Prop :=
  ∃ earlier later, notices = earlier ++ .raises condition :: later ∧ ∀ shown, .status shown ∉ later

theorem not_pending_nil (condition : Condition) : ¬ Pending [] condition := by
  rintro ⟨earlier, later, h, -⟩
  exact List.append_ne_nil_of_right_ne_nil earlier (List.cons_ne_nil _ _) h.symm

theorem pending_append {notices : List Notice} {last : Notice} {condition : Condition} :
    Pending (notices ++ [last]) condition ↔
      last = .raises condition ∨ Pending notices condition ∧ ∀ shown, last ≠ .status shown := by
  constructor
  · rintro ⟨earlier, later, h, unseen⟩
    obtain rfl | ⟨between, other, rfl⟩ := later.eq_nil_or_concat
    · obtain ⟨-, hlast⟩ := List.append_inj' h rfl
      exact .inl (List.cons.inj hlast).1
    · simp only [List.concat_eq_append] at h unseen
      rw [← List.cons_append, ← List.append_assoc] at h
      obtain ⟨hnotices, hlast⟩ := List.append_inj' h rfl
      obtain rfl := (List.cons.inj hlast).1
      refine .inr ⟨⟨earlier, between, hnotices, fun shown seen => ?_⟩, fun shown is => ?_⟩
      · exact unseen shown (List.mem_append_left _ seen)
      · exact unseen shown (is ▸ List.mem_append_right _ (List.mem_singleton_self _))
  · rintro (rfl | ⟨⟨earlier, later, rfl, unseen⟩, silent⟩)
    · exact ⟨notices, [], rfl, nofun⟩
    · refine ⟨earlier, later ++ [last], by rw [List.append_assoc, List.cons_append], fun shown seen => ?_⟩
      rcases List.mem_append.mp seen with seen | seen
      · exact unseen shown seen
      · exact silent shown (List.mem_singleton.mp seen).symm

def latches (card : Card) (condition : Condition) : Bool := anyBit card.latched condition.bit

theorem anyBit_statusBits (card : Card) (condition : Condition) :
    anyBit card.statusBits condition.bit = false := by
  have hstate : anyBit (card.state.number <<< CardStatus.stateShift) condition.bit = false := by
    cases card.state <;> cases condition <;> rfl
  have happlication : anyBit (if card.applicationNext then CardStatus.application else 0) condition.bit =
      false := by
    cases card.applicationNext <;> cases condition <;> rfl
  have hready : anyBit (if card.phase.isNone then CardStatus.readyForData else 0) condition.bit = false := by
    cases card.phase.isNone <;> cases condition <;> rfl
  rw [statusBits, anyBit_or, anyBit_or, hstate, happlication, hready]
  rfl

theorem anyBit_report (card : Card) (condition : Condition) :
    anyBit card.report.1 condition.bit = card.latches condition := by
  rw [report, anyBit_or, anyBit_statusBits, Bool.false_or, latches]

/-- An error of range is latched in the transfer state only, or after a reset of a card in it. -/
def Reserved (card : Card) : Prop :=
  card.latches .outOfRange = true → card.state = .transfer ∨ card.state = .idle ∧ card.applicationNext = false

theorem Reserved.of_zero {card : Card} (h : card.latched = 0) : card.Reserved := by
  intro latched
  rw [latches, h, anyBit_zero] at latched
  cases latched

theorem Reserved.unlatched {card : Card} (h : card.Reserved) (named : card.state = .identify ∨ card.state = .standby) :
    ¬ card.latches .outOfRange = true := by
  intro latched
  rcases h latched with transfer | ⟨idle, -⟩ <;> rcases named with state | state
  · cases state.symm.trans transfer
  · cases state.symm.trans transfer
  · cases state.symm.trans idle
  · cases state.symm.trans idle

inductive Leaves (card : Card) (r : Option Reply × Card) : Prop where
  | silent (unsaid : word? r.1 = none) (same : r.2.latched = card.latched) (kept : r.2.Reserved)
  | reports (word : UInt32) (said : r.1 = some (.short word))
      (shows : ∀ condition, Condition.whole word condition = card.latches condition) (cleared : r.2.latched = 0)

namespace Leaves

variable {card : Card}

theorem of_latched {card' : Card} {r : Option Reply × Card} (h : card.Leaves r)
    (same : card.latched = card'.latched) : card'.Leaves r := by
  cases h with
  | silent unsaid unchanged kept => exact .silent unsaid (unchanged.trans same) kept
  | reports word said shows cleared =>
    refine .reports word said (fun condition => (shows condition).trans ?_) cleared
    rw [latches, latches, same]

theorem ite {condition : Prop} [Decidable condition] {r r' : Option Reply × Card}
    (h : condition → card.Leaves r) (h' : ¬ condition → card.Leaves r') :
    card.Leaves (if condition then r else r') := by
  split
  · next holds => exact h holds
  · next fails => exact h' fails

theorem stay (h : card.Reserved) : card.Leaves (none, card) := .silent rfl rfl h

theorem answer (card : Card) : card.Leaves card.answer := .reports _ rfl card.anyBit_report rfl

theorem arm (card : Card) (phase : DataPhase) (state : CardState) : card.Leaves (card.arm phase state) :=
  .reports _ rfl card.anyBit_report rfl

theorem markApplication {r : Option Reply × Card} (h : card.Leaves r) :
    card.Leaves (Card.markApplication r) := by
  obtain ⟨reply, after⟩ := r
  cases h with
  | silent unsaid same kept =>
    have hmark : Card.markApplication (reply, after) = (reply, after) := by
      rcases reply with _ | _ | word | _ | _
      case some.short => cases unsaid
      all_goals rfl
    rw [hmark]
    exact .silent unsaid same kept
  | reports word said shows cleared =>
    obtain rfl : reply = some (.short word) := said
    refine .reports (word ||| CardStatus.application) rfl (fun condition => ?_) cleared
    have hmark : anyBit CardStatus.application condition.bit = false := by cases condition <;> rfl
    rw [← shows condition, Condition.whole, Condition.whole, anyBit_or, hmark, Bool.or_false]

end Leaves

theorem select_leaves {card : Card} (h : card.Reserved) (argument : UInt32) :
    card.Leaves (card.select argument) := by
  unfold select
  dsimp only
  split
  · exact .reports _ rfl (anyBit_report { card with state := .transfer }) rfl
  · exact .reports _ rfl (anyBit_report { card with state := .standby }) rfl
  · exact .answer card
  · exact .stay h

theorem stop_leaves (card : Card) : card.Leaves card.stop :=
  .reports _ rfl (anyBit_report { card with phase := none, state := _ }) rfl

theorem setBlockLength_leaves (card : Card) (length : UInt32) :
    card.Leaves (card.setBlockLength length).answer := by
  have hlatched : (card.setBlockLength length).latched = card.latched := by
    unfold setBlockLength
    split <;> rfl
  refine .reports _ rfl (fun condition => ?_) rfl
  rw [latches, ← hlatched]
  exact anyBit_report _ condition

theorem executePlain_leaves {card : Card} (h : card.Reserved) (plain : card.applicationNext = false)
    {index : UInt32} (echo : index ≠ Opcode.sendInterfaceCond) (address : index ≠ Opcode.sendRelativeAddress)
    (argument : UInt32) : card.Leaves (card.executePlain index argument) := by
  unfold executePlain
  dsimp only
  refine .ite (fun _ => ?_) fun _ => ?_
  · exact .silent rfl rfl fun _ => .inr ⟨rfl, plain⟩
  refine .ite (fun is => absurd is echo) fun _ => ?_
  refine .ite (fun _ => .ite (fun ready => ?_) fun _ => .stay h) fun _ => ?_
  · refine .silent rfl rfl fun latched => ?_
    rcases h latched with transfer | ⟨idle, -⟩
    · cases ready.symm.trans transfer
    · cases ready.symm.trans idle
  refine .ite (fun is => absurd is address) fun _ => ?_
  refine .ite (fun _ => select_leaves h argument) fun _ => ?_
  refine .ite (fun _ => .ite (fun _ => .silent rfl rfl h) fun _ => .stay h) fun _ => ?_
  refine .ite (fun _ => card.stop_leaves) fun _ => ?_
  refine .ite (fun _ => .ite (fun _ => .answer card) fun _ => .stay h) fun _ => ?_
  refine .ite (fun _ => .ite (fun _ => card.setBlockLength_leaves argument) fun _ => .stay h) fun _ => ?_
  refine .ite (fun _ => .ite (fun _ => .arm card _ _) fun _ => .stay h) fun _ => ?_
  refine .ite (fun _ => .ite (fun _ => .arm card _ _) fun _ => .stay h) fun _ => ?_
  exact .ite (fun _ => .reports _ rfl (anyBit_report { card with applicationNext := true }) rfl) fun _ => .stay h

theorem negotiate_latched (card : Card) (argument : UInt32) :
    word? (card.negotiate argument).1 = none ∧ (card.negotiate argument).2.latched = card.latched := by
  unfold negotiate
  dsimp only
  repeat' split
  all_goals exact ⟨rfl, rfl⟩

theorem executeApplication_leaves {card : Card} (h : card.latches .outOfRange = true → card.state = .transfer)
    (index argument : UInt32) : card.Leaves (card.executeApplication index argument) := by
  have stay : card.Leaves (none, card) := .stay fun latched => .inl (h latched)
  unfold executeApplication
  dsimp only
  refine .ite (fun _ => .ite (fun idle => ?_) fun _ => stay) fun _ => ?_
  · obtain ⟨unsaid, same⟩ := card.negotiate_latched argument
    refine .silent unsaid same fun latched => ?_
    rw [latches, same] at latched
    cases idle.symm.trans (h latched)
  refine .ite (fun _ => stay) fun _ => ?_
  refine .ite (fun _ => .markApplication ?_) fun _ => ?_
  · exact .reports _ rfl (anyBit_report { card with fourWire := argument &&& 3 == 2 }) rfl
  refine .ite (fun _ => .markApplication (.arm card _ _)) fun _ => ?_
  exact .ite (fun _ => .markApplication (.arm card _ _)) fun _ => stay

theorem executePlain_publish (card : Card) (argument : UInt32) :
    card.executePlain Opcode.sendRelativeAddress argument =
      if card.state = .identify ∨ card.state = .standby then card.publishAddress else (none, card) := rfl

theorem folded_publishAddress (card : Card) :
    ∃ word, card.publishAddress.1 = some (.short word) ∧ card.publishAddress.2.latched = 0 ∧
      Condition.folded word .illegalCommand = card.latches .illegalCommand := by
  let named : Card := { card with address := publishedAddress, state := .standby }
  let status := named.report.1
  have haddress : anyBit (publishedAddress.toUInt32 <<< 16) 0x4000 = false := by decide
  have hupper : anyBit ((status >>> 8) &&& (0xc000 : UInt32)) 0x4000 = anyBit status CardStatus.illegalCommand := by
    have hbit : (0xc000 : UInt32) &&& (0x4000 : UInt32) = CardStatus.illegalCommand >>> 8 := by decide
    rw [anyBit_and, hbit]
    exact anyBit_shiftRight_eight status (by decide)
  have hmiddle : anyBit ((status >>> 6) &&& (0x2000 : UInt32)) 0x4000 = false := by
    have hbit : (0x2000 : UInt32) &&& 0x4000 = 0 := by decide
    rw [anyBit_and, hbit, anyBit, UInt32.and_zero]
    rfl
  have hlower : anyBit (status &&& (0x1fff : UInt32)) 0x4000 = false := by
    have hbit : (0x1fff : UInt32) &&& 0x4000 = 0 := by decide
    rw [anyBit_and, hbit, anyBit, UInt32.and_zero]
    rfl
  refine ⟨_, rfl, rfl, ?_⟩
  calc Condition.folded _ .illegalCommand
      = anyBit ((publishedAddress.toUInt32 <<< 16) |||
          (((status >>> 8) &&& (0xc000 : UInt32)) ||| ((status >>> 6) &&& (0x2000 : UInt32)) |||
            (status &&& (0x1fff : UInt32)))) 0x4000 := rfl
    _ = anyBit status CardStatus.illegalCommand := by
      rw [anyBit_or, anyBit_or, anyBit_or, haddress, hupper, hmiddle, hlower, Bool.or_false, Bool.or_false,
        Bool.false_or]
    _ = card.latches .illegalCommand := named.anyBit_report .illegalCommand

inductive Accounts (card : Card) : Option Notice → Card → Prop
  | silent {after : Card} (same : after.latched = card.latched) : Accounts card none after
  | raises {after : Card} (condition : Condition) (latched : after.latched = card.latched ||| condition.bit) :
      Accounts card (some (.raises condition)) after
  | reports {after : Card} {shown : Condition → Bool} (shows : ∀ condition, shown condition = card.latches condition)
      (cleared : after.latched = 0) : Accounts card (some (.status shown)) after

def Steps (card : Card) (notice : Option Notice) (after : Card) : Prop :=
  after.Reserved ∧ card.Accounts notice after

theorem Leaves.steps {card : Card} {r : Option Reply × Card} (h : card.Leaves r) :
    card.Steps (((word? r.1).map Condition.whole).map .status) r.2 := by
  cases h with
  | silent unsaid same kept =>
    rw [unsaid]
    exact ⟨kept, .silent same⟩
  | reports word said shows cleared =>
    rw [said]
    exact ⟨.of_zero cleared, .reports shows cleared⟩

theorem Reserved.execute_application {card : Card} (h : card.Reserved) (announced : card.applicationNext = true)
    (index argument : UInt32) : card.Steps
      ((card.shown? index (card.execute index argument).1).map Notice.status) (card.execute index argument).2 := by
  have transfer (latched : card.latches .outOfRange = true) : card.state = .transfer := by
    rcases h latched with transfer | ⟨-, never⟩
    · exact transfer
    · cases announced.symm.trans never
  have hexecute : card.execute index argument =
      ({ card with applicationNext := false } : Card).executeApplication index argument := by
    rw [Card.execute, if_pos announced]
  have hshown (reply : Option Reply) : card.shown? index reply = (word? reply).map Condition.whole := by
    simp only [shown?, announced, if_true]
    cases word? reply <;> rfl
  have hleaves : card.Leaves
      (({ card with applicationNext := false } : Card).executeApplication index argument) :=
    (@executeApplication_leaves { card with applicationNext := false } transfer index argument).of_latched rfl
  rw [hexecute, hshown]
  exact hleaves.steps

theorem Reserved.execute_echo {card : Card} (h : card.Reserved) (plain : card.applicationNext = false)
    (argument : UInt32) : card.Steps
      ((card.shown? Opcode.sendInterfaceCond (card.executePlain Opcode.sendInterfaceCond argument).1).map
        Notice.status)
      (card.executePlain Opcode.sendInterfaceCond argument).2 := by
  have hecho : card.executePlain Opcode.sendInterfaceCond argument =
      if card.state = .idle then (some (.short (argument &&& 0xfff)), card) else (none, card) := rfl
  have hshown (reply : Option Reply) : card.shown? Opcode.sendInterfaceCond reply = none := by
    simp only [shown?, plain]
    cases word? reply <;> rfl
  rw [hshown, hecho]
  split <;> exact ⟨h, .silent rfl⟩

theorem Reserved.execute_address {card : Card} (h : card.Reserved) (plain : card.applicationNext = false)
    (argument : UInt32) : card.Steps
      ((card.shown? Opcode.sendRelativeAddress (card.executePlain Opcode.sendRelativeAddress argument).1).map
        Notice.status)
      (card.executePlain Opcode.sendRelativeAddress argument).2 := by
  rw [executePlain_publish]
  split
  · next named =>
    obtain ⟨word, said, cleared, shows⟩ := card.folded_publishAddress
    have hshown : card.shown? Opcode.sendRelativeAddress (some (.short word)) =
        some (Condition.folded word) := by
      simp only [shown?, plain]
      rfl
    rw [said, hshown]
    refine ⟨.of_zero cleared, .reports (fun condition => ?_) cleared⟩
    cases condition with
    | illegalCommand => exact shows
    | outOfRange => exact (Bool.eq_false_iff.mpr (h.unlatched named)).symm
  · have hshown : card.shown? Opcode.sendRelativeAddress none = none := rfl
    rw [hshown]
    exact ⟨h, .silent rfl⟩

theorem Reserved.execute {card : Card} (h : card.Reserved) (index argument : UInt32) :
    card.Steps (card.notice? (.execute index argument)) (card.after (.execute index argument)) := by
  rw [notice?, after]
  cases plain : card.applicationNext with
  | true => exact h.execute_application plain index argument
  | false =>
    have hexecute : card.execute index argument = card.executePlain index argument := by
      rw [Card.execute, if_neg (by rw [plain]; decide)]
    rw [hexecute]
    by_cases echo : index = Opcode.sendInterfaceCond
    · rw [echo]
      exact h.execute_echo plain argument
    by_cases address : index = Opcode.sendRelativeAddress
    · rw [address]
      exact h.execute_address plain argument
    · have hshown (reply : Option Reply) : card.shown? index reply = (word? reply).map Condition.whole := by
        simp only [shown?, plain, if_neg echo, if_neg address]
        cases word? reply <;> rfl
      rw [hshown]
      exact (executePlain_leaves h plain echo address argument).steps

theorem failRange_steps (card : Card) : card.Steps (some (.raises .outOfRange)) card.failRange :=
  ⟨fun _ => .inl rfl, .raises .outOfRange rfl⟩

theorem Reserved.latchIllegal {card : Card} (h : card.Reserved) :
    card.Steps (some (.raises .illegalCommand)) card.latchIllegal := by
  refine ⟨fun latched => h ?_, .raises .illegalCommand rfl⟩
  have hbit : anyBit CardStatus.illegalCommand Condition.outOfRange.bit = false := by decide
  rw [latches, Card.latchIllegal, anyBit_or, hbit, Bool.or_false] at latched
  exact latched

theorem Reserved.readData {card : Card} (h : card.Reserved) (count : Nat) :
    card.Steps (card.notice? (.read count)) (card.after (.read count)) := by
  rw [notice?, after, Card.readData]
  split
  · next offset unbounded _ =>
    cases hread : card.medium.read offset count with
    | error e =>
      have he : e = .readPastEnd := by
        unfold Medium.read at hread
        split at hread <;> cases hread
        rfl
      rw [he]
      exact card.failRange_steps
    | ok bytes =>
      dsimp only
      split
      · exact ⟨h, .silent rfl⟩
      · exact ⟨fun _ => .inl rfl, .silent rfl⟩
  · exact ⟨fun _ => .inl rfl, .silent rfl⟩
  · exact ⟨fun _ => .inl rfl, .silent rfl⟩
  · exact h.latchIllegal
  · exact h.latchIllegal

theorem Reserved.writeData {card : Card} (h : card.Reserved) (data : Bytes) :
    card.Steps (card.notice? (.write data)) (card.after (.write data)) := by
  rw [notice?, after, Card.writeData]
  split
  · next offset unbounded _ =>
    cases hwrite : card.medium.write offset data with
    | error e =>
      have he : e = .writePastEnd := by
        unfold Medium.write at hwrite
        split at hwrite <;> cases hwrite
        rfl
      rw [he]
      exact card.failRange_steps
    | ok medium =>
      dsimp only
      split
      · exact ⟨h, .silent rfl⟩
      · exact ⟨fun _ => .inl rfl, .silent rfl⟩
  · exact h.latchIllegal

theorem Reserved.step {card : Card} (h : card.Reserved) (call : Call) :
    card.Steps (card.notice? call) (card.after call) := by
  cases call with
  | execute index argument => exact h.execute index argument
  | read count => exact h.readData count
  | write data => exact h.writeData data
  | store => exact ⟨h, .silent rfl⟩

theorem anyBit_bit (condition other : Condition) :
    anyBit condition.bit other.bit = true ↔ condition = other := by
  cases condition <;> cases other <;> simp [Condition.bit] <;> decide

structure Accounted (notices : List Notice) (card : Card) : Prop where
  reserved : card.Reserved
  latched : ∀ condition, card.latches condition = true ↔ Pending notices condition

theorem Accounted.step {earlier : List Notice} {card : Card} (h : card.Accounted earlier) (call : Call) :
    (card.after call).Accounted (earlier ++ (card.notice? call).toList) := by
  obtain ⟨reserved, accounts⟩ := h.reserved.step call
  refine ⟨reserved, fun condition => ?_⟩
  generalize card.notice? call = notice at accounts ⊢
  cases accounts with
  | silent same =>
    rw [latches, same, Option.toList_none, List.append_nil]
    exact h.latched condition
  | raises raised latched =>
    rw [Option.toList_some, pending_append, latches, latched, anyBit_or, Bool.or_eq_true, anyBit_bit,
      ← h.latched condition]
    constructor
    · rintro (before | rfl)
      · exact .inr ⟨before, nofun⟩
      · exact .inl rfl
    · rintro (is | ⟨before, -⟩)
      · cases is
        exact .inr rfl
      · exact .inl before
  | reports shows cleared =>
    rw [Option.toList_some, pending_append, latches, cleared, anyBit_zero]
    constructor
    · nofun
    · rintro (is | ⟨-, never⟩)
      · cases is
      · exact (never _ rfl).elim

theorem Accounted.run {earlier : List Notice} {card : Card} (h : card.Accounted earlier) (calls : List Call) :
    (card.afterAll calls).Accounted (earlier ++ card.notices calls) := by
  induction calls generalizing earlier card with
  | nil =>
    rw [notices, List.append_nil]
    exact h
  | cons call rest ih =>
    rw [notices, ← List.append_assoc]
    exact ih (h.step call)

theorem accounted_used (medium : Medium) (calls : List Call) :
    (used medium calls).Accounted ((ofMedium medium).notices calls) := by
  have fresh : (ofMedium medium).Accounted [] := {
    reserved := .of_zero rfl
    latched := fun condition => by
      rw [latches, ofMedium, anyBit_zero]
      exact iff_of_false nofun (not_pending_nil condition) }
  exact fresh.run calls

end Card

/-- Whatever calls a card has had, it has latched the conditions that were raised by a failing call for data since
it last showed its status, and the next status shows just those. When a card publishes its address, an error of
range is never one of them. -/
theorem latched_errors_shown_once (medium : Medium) (calls : List Card.Call) :
    let card := Card.used medium calls
    let notices := (Card.ofMedium medium).notices calls
    (∀ condition, card.latches condition = true ↔ Card.Pending notices condition) ∧
      (∀ call shown, card.notice? call = some (.status shown) →
        ∀ condition, shown condition = true ↔ Card.Pending notices condition) ∧
      ∀ argument reply, card.applicationNext = false →
        (card.execute Opcode.sendRelativeAddress argument).1 = some reply →
          ¬ Card.Pending notices .outOfRange := by
  intro card notices
  have haccounted : card.Accounted notices := Card.accounted_used medium calls
  refine ⟨haccounted.latched, fun call shown notice condition => ?_, fun argument reply plain answers => ?_⟩
  · obtain ⟨-, accounts⟩ := haccounted.reserved.step call
    rw [notice] at accounts
    cases accounts with
    | reports shows cleared => rw [shows, haccounted.latched]
  · rw [← haccounted.latched]
    rw [Card.execute, if_neg (by rw [plain]; decide), Card.executePlain_publish] at answers
    split at answers
    · next named => exact haccounted.reserved.unlatched named
    · cases answers

theorem read_past_end_shown_once :
    let opened : List Card.Call := [.execute Opcode.application 0, .execute AppOpcode.sendOpCond 0x40ff8000,
      .execute Opcode.application 0, .execute AppOpcode.sendOpCond 0x40ff8000, .execute Opcode.allSendCid 0,
      .execute Opcode.sendRelativeAddress 0, .execute Opcode.selectCard 0x12340000, .execute Opcode.readBlock 2]
    let query : Card.Call := .execute Opcode.sendStatus 0x12340000
    let failed := (Card.ofMedium (.blank 1024)).notices (opened ++ [.read 512])
    let queried := (Card.ofMedium (.blank 1024)).notices (opened ++ [.read 512, query])
    Card.Pending failed .outOfRange ∧ ¬ Card.Pending queried .outOfRange ∧
      ¬ Card.Pending ((Card.ofMedium (.blank 1024)).notices (opened.take 5)) .outOfRange := by
  intro opened query failed queried
  have hfailed := (latched_errors_shown_once (.blank 1024) (opened ++ [.read 512])).2.1 query _ rfl .outOfRange
  have hqueried := (latched_errors_shown_once (.blank 1024) (opened ++ [.read 512, query])).2.1 query _ rfl
    .outOfRange
  refine ⟨hfailed.mp (by decide), fun pending => ?_, ?_⟩
  · have shown := hqueried.mpr pending
    revert shown
    decide
  · exact (latched_errors_shown_once (.blank 1024) (opened.take 5)).2.2 0 _ rfl rfl

end CardHost
