import CardHost.Proofs.Abreast
import CardHost.Proofs.Restarts

namespace CardHost

namespace Card

structure Restarted (card card' : Card) : Prop where
  rest : ∃ blockLength latched, card = { card' with blockLength, latched }
  idle : card'.state = .idle
  plain : card'.applicationNext = false

structure Rests (card card' : Card) : Prop where
  plain : card.applicationNext = false
  new : card' = ofMedium card.medium

theorem Rests.restarted {card card' : Card} (h : card.Rests card') (argument : UInt32) :
    (card.execute Opcode.goIdle argument).2.Restarted (card'.execute Opcode.goIdle argument).2 := by
  obtain ⟨plain, rfl⟩ := h
  rw [execute_goIdle plain, @execute_goIdle (ofMedium card.medium) rfl]
  exact ⟨⟨_, _, rfl⟩, rfl, rfl⟩

theorem Restarted.announced {card card' : Card} (h : card.Restarted card') :
    ({ card with applicationNext := true, latched := 0 } : Card).Akin
      { card' with applicationNext := true, latched := 0 } := by
  obtain ⟨⟨blockLength, latched, rfl⟩, -, -⟩ := h
  exact ⟨blockLength, rfl⟩

theorem executePlain_ne_none {index : UInt32} (other : index ≠ Opcode.goIdle) (card card' : Card)
    (argument : UInt32) : card.executePlain index argument ≠ (some .none, card') := by
  have select : card.select argument ≠ (some .none, card') := by
    unfold Card.select
    dsimp only
    split <;> nofun
  unfold executePlain
  rw [if_neg other]
  repeat' apply ite_ne
  all_goals first | exact select | nofun

theorem executeApplication_ne_none (card card' : Card) (index argument : UInt32) :
    card.executeApplication index argument ≠ (some .none, card') := by
  have negotiate : card.negotiate argument ≠ (some .none, card') := by
    unfold Card.negotiate
    repeat' apply ite_ne
    all_goals nofun
  unfold executeApplication
  repeat' apply ite_ne
  all_goals first | exact negotiate | nofun

theorem execute_ownBlockLength {card : Card}
    (answers : (card.execute Opcode.setBlockLength (UInt32.ofNat blockSize)).1 ≠ none) :
    (card.execute Opcode.setBlockLength (UInt32.ofNat blockSize)).2 =
      { card with blockLength := UInt32.ofNat blockSize, latched := 0 } := by
  by_cases application : card.applicationNext = true
  · have hsilent : ({ card with applicationNext := false } : Card).executeApplication Opcode.setBlockLength
        (UInt32.ofNat blockSize) = if card.state ≠ .transfer then (none, { card with applicationNext := false })
          else (none, { card with applicationNext := false }) := rfl
    rw [execute, if_pos application, hsilent, ite_self] at answers
    exact (answers rfl).elim
  · have hplain : card.executePlain Opcode.setBlockLength (UInt32.ofNat blockSize) =
        if card.state = .transfer then (card.setBlockLength (UInt32.ofNat blockSize)).answer
        else (none, card) := rfl
    have hlength : card.setBlockLength (UInt32.ofNat blockSize) =
        { card with blockLength := UInt32.ofNat blockSize } := by
      unfold setBlockLength
      rw [show (UInt32.ofNat blockSize != UInt32.ofNat sectorSize) = false by decide, Bool.and_false]
      rfl
    rw [execute, if_neg application, hplain] at answers ⊢
    by_cases selected : card.state = .transfer
    · rw [if_pos selected, hlength]
      rfl
    · rw [if_neg selected] at answers
      exact (answers rfl).elim

theorem execute_legible {card : Card} {index argument : UInt32} (other : index ≠ Opcode.goIdle)
    (answers : (card.execute index argument).1 ≠ none) :
    ((card.execute index argument).1.bind Reply.registers?).isSome := by
  have hnone : card.execute index argument ≠ (some .none, (card.execute index argument).2) := by
    rw [execute]
    split
    · exact executeApplication_ne_none _ _ index argument
    · exact executePlain_ne_none other card _ argument
  rcases hreply : card.execute index argument with ⟨_ | _ | _ | _ | _, after⟩
  · rw [hreply] at answers
    exact (answers rfl).elim
  · rw [hreply] at hnone
    exact (hnone rfl).elim
  all_goals rfl

end Card

namespace Session

variable {α : Type} {R R' : Card → Card → Prop} {Q : α → Card → Card → Prop}

theorem agree_akin {cmd : Command Bytes} (data : cmd.data = none) {f : Action Simulator α}
    (h : Agree Card.Akin f Q) : Agree Card.Akin (command cmd >>= fun _ => f) Q := by
  refine .tell data (fun card card' akin => ?_) h
  obtain ⟨hsaid, hakin⟩ := akin.execute (cmd.opcode &&& CommandWord.number) cmd.argument
  exact ⟨congrArg (CommandError.ofReply? cmd.flags.present cmd.opcode) hsaid, fun _ => hakin⟩

theorem Agree.answer {cmd : Command Bytes} (data : cmd.data = none) (present : cmd.flags.present = true)
    (other : cmd.opcode &&& CommandWord.number ≠ Opcode.goIdle)
    (same : ∀ card card', R card card' → said cmd card = said cmd card' ∧
      (said cmd card ≠ none → R' (told cmd card) (told cmd card'))) :
    Agree R (Session.command cmd) fun _ => R' := by
  refine .command data fun card card' h => ?_
  obtain ⟨hsaid, hafter⟩ := same card card' h
  refine ⟨hsaid, fun passes => ?_⟩
  have answers : said cmd card ≠ none := by
    intro silent
    rw [verdict, silent, present] at passes
    cases passes
  exact ⟨Card.execute_legible other answers, hafter answers⟩

theorem agree_answer {cmd : Command Bytes} (data : cmd.data = none) (present : cmd.flags.present = true)
    (other : cmd.opcode &&& CommandWord.number ≠ Opcode.goIdle) :
    Agree Card.Akin (command cmd) fun _ => Card.Akin := by
  refine .answer data present other fun card card' akin => ?_
  obtain ⟨hsaid, hakin⟩ := akin.execute (cmd.opcode &&& CommandWord.number) cmd.argument
  exact ⟨hsaid, fun _ => hakin⟩

theorem Agree.announce {argument : UInt32} (plain : ∀ card card', R card card' →
      card.applicationNext = false ∧ card'.applicationNext = false)
    (shown : ∀ card card', R card card' →
      R' { card with applicationNext := true, latched := 0 } { card' with applicationNext := true, latched := 0 }) :
    Agree R (Session.announce argument) fun _ => R' := by
  refine .tell rfl (fun card card' h => ?_) (.pure fun _ _ => id)
  obtain ⟨hplain, hplain'⟩ := plain card card' h
  have happlication := Card.execute_application hplain argument
  have happlication' := Card.execute_application hplain' argument
  refine ⟨?_, fun _ => ?_⟩
  · rw [verdict, verdict, said, said, happlication, happlication']
    rfl
  · rw [told, told, happlication, happlication']
    exact shown card card' h

theorem agree_announce (argument : UInt32) : Agree Card.Akin (announce argument) fun _ => Card.Akin :=
  agree_akin rfl (.pure fun _ _ => id)

theorem agree_inquire {opCond : UInt32} (announced : Agree R (announce 0) fun _ => R')
    (inquired : Agree R' (command { opcode := AppOpcode.sendOpCond, argument := opCond, flags := .r3 })
      fun _ => Card.Akin)
    {attempts : Nat} (rest : Agree Card.Akin (awaitReady opCond attempts) fun _ => Card.Akin) :
    Agree R (awaitReady opCond (attempts + 1)) fun _ => Card.Akin := by
  refine announced.bind fun _ => inquired.bind fun cmd => ?_
  split
  · exact .pure fun _ _ => id
  · exact rest

theorem sendOpCond_answered :
    ResponseFlags.r3.present = true ∧ AppOpcode.sendOpCond &&& CommandWord.number ≠ Opcode.goIdle := by
  decide

theorem agree_sendOpCond (opCond : UInt32) :
    Agree Card.Akin (command { opcode := AppOpcode.sendOpCond, argument := opCond, flags := .r3 })
      fun _ => Card.Akin :=
  agree_answer rfl sendOpCond_answered.1 sendOpCond_answered.2

theorem agree_awaitReady (opCond : UInt32) (attempts : Nat) :
    Agree Card.Akin (awaitReady opCond attempts) fun _ => Card.Akin := by
  induction attempts with
  | zero => exact .throw _
  | succ attempts ih => exact agree_inquire (agree_announce 0) (agree_sendOpCond opCond) ih

theorem agree_powerUp (host : HostSettings) : Agree R (powerUp host) fun _ => R := by
  refine (Agree.writeProperty _).bind fun _ => (Agree.writeProperty _).bind fun _ => ?_
  refine (Agree.writeProperty _).bind fun _ => (Agree.writeProperty _).bind fun _ => ?_
  exact (Agree.setTiming _ _).bind fun _ => .pure fun _ _ => id

theorem Restarted.agree_awaitReady (opCond : UInt32) (attempts : Nat) :
    Agree Card.Restarted (awaitReady opCond (attempts + 1)) fun _ => Card.Akin := by
  refine agree_inquire (.announce (fun card card' restarted => ?_) fun card card' restarted => restarted.announced)
    (agree_sendOpCond opCond) (Session.agree_awaitReady opCond attempts)
  obtain ⟨⟨_, _, rfl⟩, -, plain⟩ := restarted
  exact ⟨plain, plain⟩

theorem Agree.negotiate
    (restarts : ∀ card card', R card card' → R' (card.execute Opcode.goIdle 0).2 (card'.execute Opcode.goIdle 0).2)
    (idle : ∀ card card', R' card card' →
      (card.state = .idle ∧ card.applicationNext = false) ∧ card'.state = .idle ∧ card'.applicationNext = false)
    (awaits : ∀ opCond, Agree R' (awaitReady opCond readyAttempts) fun _ => Card.Akin) (host : HostSettings) :
    Agree R (Session.negotiate host) fun _ => Card.Akin := by
  let cmd : Command Bytes := { opcode := Opcode.goIdle }
  have passes (card : Card) : verdict cmd card = none := by
    have unexpected : cmd.flags.present = false := by decide
    rw [verdict, unexpected, CommandError.ofReply?_unexpected]
  have restart (card : Card) : told cmd card = (card.execute Opcode.goIdle 0).2 := by
    have hnumber : Opcode.goIdle &&& CommandWord.number = Opcode.goIdle := by decide
    change (card.execute (Opcode.goIdle &&& CommandWord.number) 0).2 = _
    rw [hnumber]
  refine .tell (show cmd.data = none from rfl)
    (fun card card' h => ⟨?_, fun _ => (?_ : R' (told cmd card) (told cmd card'))⟩) ?_
  · rw [passes, passes]
  · rw [restart, restart]
    exact restarts card card' h
  refine (Agree.probeVersion idle).bind fun versionTwo => (awaits _).bind fun opCond => ?_
  exact (Agree.writeProperty _).bind fun _ => (Agree.writeProperty _).bind fun _ => .pure fun _ _ => id

theorem agree_negotiate (host : HostSettings) : Agree Card.Rests (negotiate host) fun _ => Card.Akin := by
  refine .negotiate (fun card card' rests => rests.restarted 0)
    (fun card card' restarted => ?_) (fun opCond => Restarted.agree_awaitReady opCond 99) host
  obtain ⟨⟨_, _, rfl⟩, idle, plain⟩ := restarted
  exact ⟨⟨idle, plain⟩, idle, plain⟩

theorem agree_discover : Agree Card.Akin discover fun _ => Card.Akin := by
  refine agree_akin rfl ?_
  refine (agree_answer rfl (by decide) (by decide)).bind fun published => ?_
  have answered : ResponseFlags.r2.present = true ∧ Opcode.sendCsd &&& CommandWord.number ≠ Opcode.goIdle := by
    decide
  exact (agree_answer rfl answered.1 answered.2).bind fun described => .pure fun _ _ => id

theorem agree_widen (host : HostSettings) (addressed : UInt32) (narrow : BusSettings) :
    Agree Card.Akin (widen host addressed narrow) fun _ => Card.Akin := by
  have hread : Agree Card.Akin (step (·.readProperty .capabilities)) fun _ => Card.Akin :=
    .step (fun c => .readProperty c .capabilities) (Controller.followsSetup_readProperty .capabilities)
  refine hread.bind fun value => ?_
  split
  · split
    · exact (agree_announce _).bind fun _ => agree_akin rfl (.setTiming _ _)
    · exact .pure fun _ _ => id
  · exact .pure fun _ _ => id

theorem agree_setBlockLength {f : Action Simulator α} (h : Agree Eq f Q) :
    Agree Card.Akin (command { opcode := Opcode.setBlockLength, argument := UInt32.ofNat blockSize, flags := .r1 }
      >>= fun _ => f) Q := by
  refine .tell rfl (fun card card' akin => ?_) h
  obtain ⟨hsaid, -⟩ := akin.execute Opcode.setBlockLength (UInt32.ofNat blockSize)
  refine ⟨congrArg (CommandError.ofReply? true Opcode.setBlockLength) hsaid, fun passes => ?_⟩
  have answers (card : Card) (passes : CommandError.ofReply? true Opcode.setBlockLength
      (card.execute Opcode.setBlockLength (UInt32.ofNat blockSize)).1 = none) :
      (card.execute Opcode.setBlockLength (UInt32.ofNat blockSize)).1 ≠ none := by
    intro silent
    rw [silent] at passes
    cases passes
  have htold : (card.execute Opcode.setBlockLength (UInt32.ofNat blockSize)).2 =
      (card'.execute Opcode.setBlockLength (UInt32.ofNat blockSize)).2 := by
    rw [Card.execute_ownBlockLength (answers card passes),
      Card.execute_ownBlockLength (answers card' (hsaid ▸ passes))]
    obtain ⟨blockLength, rfl⟩ := akin
    rfl
  exact htold

theorem agree_identify
    (negotiates : ∀ host, Agree R (negotiate host) fun _ => Card.Akin) : Agree R identify fun _ => Eq := by
  refine .ofSettings (fun s s' same => by rw [same]) fun s => ?_
  refine (agree_powerUp _).bind fun _ => (negotiates _).bind fun opCond => ?_
  refine agree_discover.bind fun (address, csd) => (Agree.writeProperty _).bind fun _ => ?_
  refine (Agree.setTiming _ _).bind fun narrow => agree_akin rfl ?_
  refine (agree_widen _ _ _).bind fun bus => agree_setBlockLength ?_
  exact .pure fun _ _ => id

theorem Agree.owning {act : Action Simulator α} (h : Agree R act Q) :
    Agree R (owning act) Q := by
  intro s s' abreast
  obtain ⟨owned, hrun⟩ := run_owning act s
  obtain ⟨owned', hrun'⟩ := run_owning act s'
  have hacquire (s : Session Simulator) (owned : Bool) :=
    Controller.Tunes.adjust s.controller s.controller.host s.controller.clockRequest owned
  obtain ⟨hresult, hafter⟩ := h { s with controller := { s.controller with owned } }
    { s' with controller := { s'.controller with owned := owned' } }
    ⟨⟨(hacquire s owned).calm abreast.served.calm, abreast.served.attended⟩,
      ⟨(hacquire s' owned').calm abreast.served'.calm, abreast.served'.attended⟩, abreast.setup, abreast.cards⟩
  rw [hrun, hrun']
  refine ⟨hresult, fun a ha => ?_⟩
  have habreast := hafter a ha
  exact ⟨⟨(hacquire _ false).calm habreast.served.calm, habreast.served.attended⟩,
    ⟨(hacquire _ false).calm habreast.served'.calm, habreast.served'.attended⟩, habreast.setup, habreast.cards⟩

end Session

def Controller.withCard (c : Controller Simulator) (card : Card) : Controller Simulator :=
  { c with bus.hardware.card := card }

theorem Controller.Calm.withCard {c : Controller Simulator} (h : c.Calm) (card : Card) : (c.withCard card).Calm :=
  ⟨h.attached, h.idle, h.count, h.mapping, h.mask,
    ⟨⟨h.settled.still.arrived, h.settled.still.awaited, h.settled.still.line, h.settled.still.receiveNext,
      h.settled.still.transmitNext⟩, h.settled.soc, h.settled.bounce⟩, h.injected, h.loads⟩

namespace Session

structure StartsAs (r r' : Except SessionError CardInfo × Session Simulator) : Prop where
  result : r.1 = r'.1
  session : ∀ info, r.1 = .ok info → r.2.info = info ∧ r'.2.info = info ∧
    r.2.controller.setup = r'.2.controller.setup ∧
    r.2.controller.bus.hardware.card = r'.2.controller.bus.hardware.card

theorem Agree.start {R : Card → Card → Prop} (negotiates : ∀ host, Agree R (Session.negotiate host) fun _ => Card.Akin)
    {c : Controller Simulator} (calm : c.Calm) {card : Card} (cards : R c.bus.hardware.card card) (patience : Nat) :
    StartsAs (Session.start c patience true) (Session.start (c.withCard card) patience true) := by
  have habreast : Abreast R { controller := c, patience } { controller := c.withCard card, patience } :=
    ⟨⟨calm, rfl⟩, ⟨calm.withCard _, rfl⟩, rfl, cards⟩
  obtain ⟨hresult, hafter⟩ := (agree_identify negotiates).owning _ _ habreast
  unfold Session.start
  rcases hs : (Session.owning identify).run.run { controller := c, patience } with ⟨e | info, t⟩ <;>
    rcases hs' : (Session.owning identify).run.run { controller := c.withCard card, patience } with ⟨e' | info', t'⟩ <;>
    rw [hs, hs'] at hresult <;> cases hresult
  · exact ⟨rfl, nofun⟩
  · rw [hs, hs'] at hafter
    have h := hafter info rfl
    refine ⟨rfl, fun known is => ?_⟩
    cases is
    exact ⟨rfl, rfl, h.setup, h.cards⟩

end Session

end CardHost
