import CardHost.Proofs.CardStates
import CardHost.Proofs.RepeatedBringUp
/-!
A command to go idle that is lost, because the card takes it for an application command, on a card that is idle already.
It may have been asked before how it operates, and be ready one inquiry earlier than a card that was just powered up.
-/
namespace CardHost

namespace Card

variable {card card' : Card} {size : Nat}

theorem Coherent.idle (h : card.Coherent size) (idle : card.state = .idle) :
    card = { ofMedium card.medium with
      blockLength := card.blockLength
      latched := card.latched
      applicationNext := card.applicationNext
      powerUpPolls := card.powerUpPolls } := by
  have hunarmed : card.phase = none := h.unarmed.mpr (by rw [idle]; decide)
  have early : card.state ∉ [.standby, .transfer, .data, .receive] := by rw [idle]; decide
  have haddress : card.address = 0 := Decidable.not_not.mp fun published => early (h.addressed.mp published)
  have hnarrow : card.fourWire = false := Bool.eq_false_iff.mpr fun wide => early (h.widened wide)
  have hbytes : card.highCapacity = false := Bool.eq_false_iff.mpr fun high => h.negotiated high idle
  cases card
  cases idle
  cases hunarmed
  cases haddress
  cases hnarrow
  cases hbytes
  rfl

/-- Of two idle cards, the first one has answered the inquiry that finds a card still busy, and the second one has not.
They may differ in their block length, and in the errors that they have not shown yet. -/
structure Ahead (card card' : Card) : Prop where
  rest : ∃ blockLength latched, card = { card' with blockLength, latched, powerUpPolls := 0 }
  idle : card'.state = .idle
  plain : card'.applicationNext = false
  polls : card'.powerUpPolls = 1

structure Asked (card card' : Card) : Prop where
  rest : ∃ blockLength, card = { card' with blockLength, powerUpPolls := 0 }
  idle : card'.state = .idle
  application : card'.applicationNext = true
  polls : card'.powerUpPolls = 1

theorem Ahead.announced (h : card.Ahead card') :
    ({ card with applicationNext := true, latched := 0 } : Card).Asked
      { card' with applicationNext := true, latched := 0 } := by
  obtain ⟨⟨blockLength, latched, rfl⟩, idle, -, polls⟩ := h
  exact ⟨⟨blockLength, rfl⟩, idle, rfl, polls⟩

/-- An idle card that will take the next command for an application command, and one that was just powered up and
stores the same. -/
structure Dozes (polls : Nat) (card card' : Card) : Prop where
  idle : card.state = .idle
  application : card.applicationNext = true
  polls : card.powerUpPolls = polls
  coherent : card.Coherent card.medium.size
  new : card' = ofMedium card.medium

theorem Dozes.lost {polls : Nat} (h : card.Dozes polls card') (argument : UInt32) :
    ∃ blockLength latched,
      (card.execute Opcode.goIdle argument).2 =
        { (card'.execute Opcode.goIdle argument).2 with blockLength, latched, powerUpPolls := polls } := by
  have hidle := h.coherent.idle h.idle
  rw [h.polls] at hidle
  rw [execute_goIdle_application h.application, h.new, @execute_goIdle (ofMedium card.medium) rfl]
  refine ⟨card.blockLength, card.latched, ?_⟩
  dsimp only
  rw [hidle]
  rfl

theorem Dozes.restarted (h : card.Dozes 1 card') (argument : UInt32) :
    (card.execute Opcode.goIdle argument).2.Restarted (card'.execute Opcode.goIdle argument).2 := by
  obtain ⟨blockLength, latched, hlost⟩ := h.lost argument
  rw [hlost, h.new, @execute_goIdle (ofMedium card.medium) rfl]
  exact ⟨⟨_, _, rfl⟩, rfl, rfl⟩

theorem Dozes.ahead (h : card.Dozes 0 card') (argument : UInt32) :
    (card.execute Opcode.goIdle argument).2.Ahead (card'.execute Opcode.goIdle argument).2 := by
  obtain ⟨blockLength, latched, hlost⟩ := h.lost argument
  rw [hlost, h.new, @execute_goIdle (ofMedium card.medium) rfl]
  exact ⟨⟨_, _, rfl⟩, rfl, rfl, rfl⟩

theorem negotiate_unmatched {opCond : UInt32} (unmatched : opCond &&& voltages = 0) (named : opCond ≠ 0) :
    card.negotiate opCond = (none, card) := if_pos ⟨unmatched, named⟩

theorem negotiate_unnamed (polls : card.powerUpPolls = 0) :
    card.negotiate 0 = (some (.shortNoCrc voltages), card) := by
  rw [negotiate, if_neg (by decide), if_neg (by rw [polls]; decide), if_neg (by decide)]

theorem Asked.unmatched (h : card.Asked card') {opCond : UInt32} (unmatched : opCond &&& voltages = 0) :
    let inquired (card : Card) := card.execute (AppOpcode.sendOpCond &&& CommandWord.number) opCond
    (inquired card).1 = (inquired card').1 ∧
      ((inquired card).1 ≠ none → (inquired card).2.Akin (inquired card').2) := by
  intro inquired
  obtain ⟨⟨blockLength, rfl⟩, idle, application, polls⟩ := h
  dsimp only [inquired]
  rw [@execute_sendOpCond { card' with blockLength, powerUpPolls := 0 } application idle,
    execute_sendOpCond application idle]
  by_cases named : opCond = 0
  · subst named
    rw [@negotiate_unnamed { card' with blockLength, powerUpPolls := 0, applicationNext := false } rfl,
      @negotiate_waiting { card' with applicationNext := false } 0 (by decide) polls]
    exact ⟨rfl, fun _ => ⟨blockLength, rfl⟩⟩
  · rw [negotiate_unmatched unmatched named, negotiate_unmatched unmatched named]
    exact ⟨rfl, fun answers => (answers rfl).elim⟩

end Card

namespace Session

open Card

variable {s : Session Simulator}

theorem Served.answered (served : s.Served) (flags : ResponseFlags)
    (enabled : s.controller.bus.hardware.enabled = true) {opcode argument word : UInt32} {reply : Reply} {after : Card}
    (executes : s.controller.bus.hardware.card.execute (opcode &&& CommandWord.number) argument =
      (some reply, after))
    (passes : CommandError.ofReply? flags.present opcode (some reply) = none)
    (short : reply.registers? = some (.ofWord word) ∧ flags.words = 1) :
    ∃ (last : Command Bytes) (t : Session Simulator),
      (Session.command { opcode, argument, flags }).run.run s = (.ok last, t) ∧ last.response.word 0 = word ∧ t.Served ∧
        t.controller.setup = s.controller.setup ∧ t.controller.bus.hardware.card = after := by
  obtain ⟨last, t, hrun, hserved, ⟨bus, tickets, rfl⟩, hobeys⟩ :=
    served.obeys (show ({ opcode, argument, flags } : Command Bytes).data = none from rfl)
  obtain ⟨henabled, hcard, herror, read, -, hlast, hread⟩ := hobeys
  rw [enabled, if_pos rfl, executes] at herror hcard
  have hwords := hread enabled (.ofWord word) (by rw [executes]; exact short.1)
  have herror : last.error = none := herror.trans passes
  rw [herror] at hrun
  refine ⟨last, _, hrun, ?_, hserved, ?_, hcard⟩
  · rw [hlast, hwords, short.2]
    rfl
  · rw [Controller.setup, Controller.setup, ← henabled]

theorem Served.inquires (served : s.Served) (enabled : s.controller.bus.hardware.enabled = true)
    (idle : s.controller.bus.hardware.card.state = .idle)
    (plain : s.controller.bus.hardware.card.applicationNext = false) {opCond word : UInt32} {after : Card}
    (answers : ({ s.controller.bus.hardware.card with applicationNext := false, latched := 0 } : Card).negotiate
      opCond = (some (.shortNoCrc word), after)) :
    ∃ t : Session Simulator, t.Served ∧ t.controller.setup = s.controller.setup ∧
      t.controller.bus.hardware.card = after ∧
      ∀ attempts, (awaitReady opCond (attempts + 1)).run.run s =
        if anyBit word OpCond.ready then (.ok word, t) else (awaitReady opCond attempts).run.run t := by
  obtain ⟨told, s', hannounce, -, hserved, hsetup, hcard⟩ := served.answered .r1 enabled
    (Card.execute_application plain 0) rfl ⟨rfl, rfl⟩
  have hexecutes : s'.controller.bus.hardware.card.execute (AppOpcode.sendOpCond &&& CommandWord.number) opCond =
      (some (.shortNoCrc word), after) := by
    have hasked := @execute_sendOpCond
      { s.controller.bus.hardware.card with applicationNext := true, latched := 0 } rfl idle opCond
    rw [hcard]
    exact hasked.trans answers
  have henabled : s'.controller.bus.hardware.enabled = s.controller.bus.hardware.enabled :=
    congrArg Controller.Setup.enabled hsetup
  obtain ⟨last, t, hinquiry, hword, hserved', hsetup', hcard'⟩ := hserved.answered .r3
    (henabled.trans enabled) hexecutes rfl ⟨rfl, rfl⟩
  refine ⟨t, hserved', hsetup'.trans hsetup, hcard', fun attempts => ?_⟩
  have hannounced : (announce 0).run.run s = (.ok (), s') := by
    unfold announce
    rw [run_bind, hannounce]
    rfl
  rw [awaitReady, run_bind, hannounced]
  dsimp only
  rw [run_bind, hinquiry]
  dsimp only
  rw [hword]
  split <;> rfl

theorem Served.unheard (served : s.Served) (disabled : s.controller.bus.hardware.enabled = false)
    (opCond : UInt32) (attempts : Nat) :
    ((awaitReady opCond (attempts + 1)).run.run s).1 = .error (.command Opcode.application .timeout) := by
  obtain ⟨last, t, hrun, -, -, hobeys⟩ :=
    served.obeys (show ({ opcode := Opcode.application, argument := 0, flags := .r1 } : Command Bytes).data = none
      from rfl)
  have herror := hobeys.error
  rw [disabled, if_neg (by decide)] at herror
  rw [herror] at hrun
  rw [awaitReady, run_bind, announce, run_bind, hrun]
  rfl

theorem agree_awaitReady_ahead (opCond : UInt32) (attempts : Nat) :
    Agree Ahead (awaitReady opCond (attempts + 2)) fun _ => Akin := by
  by_cases matched : opCond &&& voltages = 0
  · refine agree_inquire (.announce (fun card card' ahead => ?_) fun card card' ahead => ahead.announced)
      (.answer rfl sendOpCond_answered.1 sendOpCond_answered.2 fun card card' asked => asked.unmatched matched)
      (agree_awaitReady opCond (attempts + 1))
    obtain ⟨⟨_, _, rfl⟩, -, plain, -⟩ := ahead
    exact ⟨plain, plain⟩
  · intro s s' abreast
    obtain ⟨⟨blockLength, latched, hrest⟩, idle, plain, polls⟩ := abreast.cards
    have henabled : s.controller.bus.hardware.enabled = s'.controller.bus.hardware.enabled :=
      congrArg Controller.Setup.enabled abreast.setup
    cases enabled : s.controller.bus.hardware.enabled with
    | false =>
      rw [abreast.served.unheard enabled, abreast.served'.unheard (henabled.symm.trans enabled)]
      exact ⟨rfl, nofun⟩
    | true =>
      have hready : anyBit (voltages ||| OpCond.ready ||| if anyBit opCond OpCond.highCapacity then
          OpCond.highCapacity else 0) OpCond.ready = true := by
        cases anyBit opCond OpCond.highCapacity <;> decide
      obtain ⟨t, -, -, -, hrun⟩ := abreast.served.inquires enabled (by rw [hrest]; exact idle)
        (by rw [hrest]; exact plain) (negotiate_ready matched (by rw [hrest]))
      have hbusy : ¬ anyBit voltages OpCond.ready = true := by decide
      obtain ⟨t', hserved', hsetup', hcard', hrun'⟩ := abreast.served'.inquires (henabled.symm.trans enabled) idle plain
        (negotiate_waiting (fun h => matched h.1) polls)
      -- The first card is ready at its first inquiry, however many are left. So it is compared with the other one after
      -- that one's first inquiry, when the two differ no more than cards that have just gone idle.
      have hearly : (awaitReady opCond (attempts + 2)).run.run s = (awaitReady opCond (attempts + 1)).run.run s := by
        rw [hrun, hrun, if_pos hready, if_pos hready]
      rw [hearly, hrun', if_neg hbusy]
      refine Restarted.agree_awaitReady opCond attempts s t'
        ⟨abreast.served, hserved', abreast.setup.trans hsetup'.symm, ?_⟩
      rw [hcard', hrest]
      exact ⟨⟨blockLength, latched, by rw [← plain]⟩, idle, rfl⟩

theorem agree_negotiate_idle {polls : Nat} (among : polls = 0 ∨ polls = 1) (host : HostSettings) :
    Agree (Dozes polls) (negotiate host) fun _ => Akin := by
  rcases among with rfl | rfl
  · refine .negotiate (fun card card' dozes => dozes.ahead 0) (fun card card' ahead => ?_)
      (fun opCond => agree_awaitReady_ahead opCond 98) host
    obtain ⟨⟨_, _, rfl⟩, idle, plain, -⟩ := ahead
    exact ⟨⟨idle, plain⟩, idle, plain⟩
  · refine .negotiate (fun card card' dozes => dozes.restarted 0) (fun card card' restarted => ?_)
      (fun opCond => Restarted.agree_awaitReady opCond 99) host
    obtain ⟨⟨_, _, rfl⟩, idle, plain⟩ := restarted
    exact ⟨⟨idle, plain⟩, idle, plain⟩

end Session

end CardHost
