import CardHost.Proofs.IdleRestarts
import CardHost.Proofs.SectorAccess

namespace CardHost

namespace Session

variable {α : Type}

/-- The card takes the next command for an application command, and is not where one of them starts anything over. -/
def Astray (sim : Simulator) : Prop := sim.card.applicationNext = true ∧ sim.card.state ≠ .idle

def Deaf (sim : Simulator) : Prop := sim.card.applicationNext = false ∧ sim.card.state ≠ .idle

theorem ensures_lost : Ensures Astray (command { opcode := Opcode.goIdle }) fun _ => Deaf := by
  refine (Ensures.command rfl).weaken (fun _ => id) ?_
  rintro last after ⟨before, ⟨application, away⟩, -, hexecutes⟩
  obtain ⟨reply, hexecution, -⟩ := hexecutes.execution
  have hlost := Card.execute_goIdle_application application 0
  have hcard : after.card = { before.card with applicationNext := false } :=
    (congrArg Prod.snd (hexecution.symm.trans hlost))
  rw [Deaf, hcard]
  exact ⟨rfl, away⟩

theorem ensures_probeVersion_plain {P : Simulator → Prop} (ofCard : OfCard P)
    (plain : ∀ sim, P sim → sim.card.applicationNext = false) : Ensures P probeVersion fun _ => P := by
  intro s served hp
  obtain ⟨last, t, hrun, hserved, -, hobeys⟩ := served.obeys (show (
    { opcode := Opcode.sendInterfaceCond, argument := interfaceCheck, flags := .r7 } : Command Bytes).data = none
      from rfl)
  have htold (card : Card) (plain : card.applicationNext = false) :
      (card.execute (Opcode.sendInterfaceCond &&& CommandWord.number) interfaceCheck).2 = card := by
    have hecho : card.executePlain (Opcode.sendInterfaceCond &&& CommandWord.number) interfaceCheck =
        if card.state = .idle then (some (.short (interfaceCheck &&& 0xfff)), card) else (none, card) := rfl
    rw [Card.execute, if_neg (by rw [plain]; decide), hecho]
    split <;> rfl
  have hcard : t.controller.bus.hardware.card = s.controller.bus.hardware.card := by
    rw [hobeys.card, htold _ (plain _ hp), ite_self]
  rw [run_probeVersion, hrun]
  exact ⟨hserved, fun _ _ => ofCard hcard hp⟩

theorem ensures_absurd {Q : α → Simulator → Prop} {act : Action Simulator α} :
    Ensures (fun _ => False) act Q := fun _ _ never => never.elim

theorem ensures_awaitReady_fails (opCond : UInt32) (attempts : Nat) :
    Ensures Deaf (awaitReady opCond attempts) fun _ _ => False := by
  -- No induction is needed: already the first inquiry goes without an answer.
  cases attempts with
  | zero => exact .throw _
  | succ attempts =>
    have hannounce : Ensures Deaf (announce 0) fun _ => Astray := by
      refine ensures_announce ((Ensures.command rfl).weaken (fun _ => id) ?_)
      rintro last after ⟨before, ⟨plain, away⟩, -, hexecutes⟩
      obtain ⟨reply, hexecution, -⟩ := hexecutes.execution
      have hcard := congrArg Prod.snd (hexecution.symm.trans (Card.execute_application plain 0))
      have hcard : after.card = { before.card with applicationNext := true, latched := 0 } := hcard
      rw [Astray, hcard]
      exact ⟨rfl, away⟩
    have hinquire : Ensures Astray
        (command { opcode := AppOpcode.sendOpCond, argument := opCond, flags := .r3 }) fun _ _ => False := by
      refine (Ensures.command rfl).weaken (fun _ => id) ?_
      rintro last after ⟨before, ⟨application, away⟩, -, hexecutes⟩
      obtain ⟨reply, hexecution, hanswer⟩ := hexecutes.execution
      obtain ⟨r, rfl, -⟩ := hanswer (show ResponseFlags.r3.present = true by decide)
      have hsilent : before.card.execute (AppOpcode.sendOpCond &&& CommandWord.number) opCond =
          (none, { before.card with applicationNext := false }) := by
        have hnumber : AppOpcode.sendOpCond &&& CommandWord.number = AppOpcode.sendOpCond := by decide
        rw [hnumber, Card.execute, if_pos application, Card.executeApplication, if_pos rfl]
        exact if_neg away
      cases hsilent.symm.trans hexecution
    exact hannounce.bind fun _ => hinquire.bind fun _ => ensures_absurd

theorem ensures_identify_fails : Ensures Astray identify fun _ _ => False := by
  have astrayOfCard : OfCard Astray := fun same h => by
    rw [Astray, same]
    exact h
  have deafOfCard : OfCard Deaf := fun same h => by
    rw [Deaf, same]
    exact h
  have hnegotiate (host : HostSettings) : Ensures Astray (negotiate host) fun _ _ => False := by
    refine ensures_lost.bind fun _ => ?_
    refine (ensures_probeVersion_plain deafOfCard fun _ h => h.1).bind fun versionTwo => ?_
    exact (ensures_awaitReady_fails _ _).bind fun _ => ensures_absurd
  refine ensures_get.bind fun s => (ensures_powerUp astrayOfCard _).bind fun _ => ?_
  exact (hnegotiate _).bind fun _ => ensures_absurd

theorem start_fails {c : Controller Simulator} (calm : c.Calm)
    (application : c.bus.hardware.card.applicationNext = true) (away : c.bus.hardware.card.state ≠ .idle)
    (patience : Nat) : ∃ e, (start c patience true).1 = .error e := by
  obtain ⟨-, hfails⟩ := ensures_identify_fails.owning { controller := c, patience } ⟨calm, rfl⟩ ⟨application, away⟩
  unfold start
  rcases hs : (Session.owning identify).run.run { controller := c, patience } with ⟨e | info, t⟩
  · exact ⟨e, rfl⟩
  · rw [hs] at hfails
    exact (hfails info rfl).elim

end Session

namespace Card

theorem Coherent.afterAll {card : Card} {size : Nat} (h : card.Coherent size) (calls : List Call) :
    (card.afterAll calls).Coherent size := by
  induction calls generalizing card with
  | nil => exact h
  | cons call rest ih => exact ih (h.after call)

end Card

/-- A card that was used in any way and is told to go idle is as it was when it was powered up, but for its block length
and the errors that it has not shown yet, unless it takes the command for an application command and loses it. To bring
up the card comes to the same as to bring up a new one that stores the same, unless the command is lost on a card
that was not idle: then the bring-up fails. -/
theorem going_idle_restarts (medium : Medium) (calls : List Card.Call) :
    let card := Card.used medium calls
    let new := Card.ofMedium card.medium
    (∀ argument, card.execute Opcode.goIdle argument =
      if card.applicationNext then (none, { card with applicationNext := false })
      else (some .none, { new with blockLength := card.blockLength, latched := card.latched })) ∧
    ∀ c : Controller Simulator, c.Calm → c.bus.hardware.card = card → ∀ patience,
      if card.applicationNext ∧ card.state ≠ .idle then ∃ e, (Session.start c patience true).1 = .error e
      else Session.StartsAs (Session.start c patience true) (Session.start (c.withCard new) patience true) := by
  intro card new
  refine ⟨fun argument => ?_, fun c calm holds patience => ?_⟩
  · cases application : card.applicationNext with
    | true => exact Card.execute_goIdle_application application argument
    | false => exact Card.execute_goIdle application argument
  have hcoherent : card.Coherent medium.size := (Card.coherent_ofMedium medium).afterAll calls
  split
  · next lost =>
    rw [← holds] at lost
    exact Session.start_fails calm lost.1 lost.2 patience
  · next kept =>
    cases application : card.applicationNext with
    | false =>
      refine Session.Agree.start Session.agree_negotiate calm ?_ patience
      rw [holds]
      exact ⟨application, rfl⟩
    | true =>
      have idle : card.state = .idle := Decidable.not_not.mp fun away => kept ⟨application, away⟩
      have among : card.powerUpPolls = 0 ∨ card.powerUpPolls = 1 := by
        have hpolls := hcoherent.polls
        omega
      refine Session.Agree.start (Session.agree_negotiate_idle among) calm ?_ patience
      rw [holds]
      exact ⟨idle, application, rfl, hcoherent.size.symm ▸ hcoherent, rfl⟩

def Card.lengthening : List Card.Call :=
  [.execute Opcode.application 0, .execute AppOpcode.sendOpCond 0x300000,
    .execute Opcode.application 0, .execute AppOpcode.sendOpCond 0x300000,
    .execute Opcode.allSendCid 0, .execute Opcode.sendRelativeAddress 0,
    .execute Opcode.selectCard 0x12340000, .execute Opcode.setBlockLength 1024]

theorem lengthened_card_restarts :
    let card := Card.used (.blank 1024) Card.lengthening
    let astray := Card.used (.blank 1024) (Card.lengthening ++ [.execute Opcode.application 0x12340000])
    let start (card : Card) := Session.start (Controller.onBlankCard.withCard card) 1000 true
    (card.execute Opcode.goIdle 0).1 = some .none ∧ Session.StartsAs (start card) (start (.ofMedium card.medium)) ∧
      (astray.execute Opcode.goIdle 0).1 = none ∧ ∃ e, (start astray).1 = .error e := by
  intro card astray start
  have calm (card : Card) : (Controller.onBlankCard.withCard card).Calm :=
    Controller.onBlankCard_vacant.calm.withCard card
  obtain ⟨resets, restarts⟩ := going_idle_restarts (.blank 1024) Card.lengthening
  obtain ⟨loses, fails⟩ := going_idle_restarts (.blank 1024)
    (Card.lengthening ++ [.execute Opcode.application 0x12340000])
  refine ⟨?_, ?_, ?_, ?_⟩
  · rw [resets, if_neg (by decide)]
  · exact (if_neg (by decide)).mp (restarts _ (calm card) rfl 1000)
  · rw [loses, if_pos (by decide)]
  · exact (if_pos (by decide)).mp (fails _ (calm astray) rfl 1000)

theorem going_idle_keeps_block_length :
    (¬ ∀ medium calls argument, ∃ latched,
      ((Card.used medium calls).execute Opcode.goIdle argument).2 =
        { Card.ofMedium (Card.used medium calls).medium with latched }) ∧
      let card := Card.used (.blank 1024) (Card.lengthening ++ [.execute Opcode.application 0x12340000])
      (card.execute Opcode.goIdle 0).2.state = .transfer := by
  refine ⟨fun resets => ?_, by decide⟩
  obtain ⟨latched, hreset⟩ := resets (.blank 1024) Card.lengthening 0
  have kept : ((Card.used (.blank 1024) Card.lengthening).execute Opcode.goIdle 0).2.blockLength = 1024 := by decide
  have hlength : (1024 : UInt32) = UInt32.ofNat sectorSize := kept.symm.trans (congrArg Card.blockLength hreset)
  exact absurd hlength (by decide)

end CardHost
