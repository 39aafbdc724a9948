import CardHost.Proofs.Actions
import CardHost.Proofs.PlainCommands

namespace CardHost

namespace Card

variable {card card' : Card} {index argument : UInt32} {reply : Option Reply}

theorem highCapacity_select (card : Card) (argument : UInt32) :
    (card.select argument).2.highCapacity = card.highCapacity := by
  unfold select
  dsimp only
  split <;> rfl

theorem highCapacity_setBlockLength (card : Card) (length : UInt32) :
    (card.setBlockLength length).highCapacity = card.highCapacity := by
  unfold setBlockLength
  split <;> rfl

theorem highCapacity_executePlain (card : Card) (argument : UInt32) (other : index ≠ Opcode.goIdle) :
    (card.executePlain index argument).2.highCapacity = card.highCapacity := by
  have hselect := card.highCapacity_select argument
  have hlength := card.highCapacity_setBlockLength argument
  unfold executePlain
  rw [if_neg other]
  repeat' apply keeps_ite (f := highCapacity)
  all_goals first | rfl | assumption

theorem highCapacity_executeApplication (card : Card) (argument : UInt32)
    (other : index ≠ AppOpcode.sendOpCond) :
    (card.executeApplication index argument).2.highCapacity = card.highCapacity := by
  unfold executeApplication
  rw [if_neg other]
  repeat' apply keeps_ite (f := highCapacity)
  all_goals rfl

theorem execute_highCapacity (h : card.execute index argument = (reply, card'))
    (restart : index ≠ Opcode.goIdle) (negotiation : index ≠ AppOpcode.sendOpCond) :
    card'.highCapacity = card.highCapacity := by
  rw [execute] at h
  split at h
  · have := highCapacity_executeApplication { card with applicationNext := false } argument negotiation
    rw [h] at this
    exact this
  · have := card.highCapacity_executePlain argument restart
    rw [h] at this
    exact this

theorem execute_negotiates {r : Reply}
    (h : card.execute AppOpcode.sendOpCond argument = (some r, card')) :
    ∃ first, r.words = [first] ∧ (anyBit first OpCond.ready = true →
      card'.highCapacity = anyBit first OpCond.highCapacity) := by
  rw [execute] at h
  split at h
  · rw [executeApplication, if_pos rfl] at h
    dsimp only at h
    split at h
    · unfold negotiate at h
      split at h
      · cases h
      · split at h
        · cases h
          exact ⟨_, rfl, fun ready => absurd ready (by decide)⟩
        · split at h
          · cases h
            refine ⟨_, rfl, fun _ => ?_⟩
            dsimp only
            split
            · next hc => rw [hc]; decide
            · next hc => rw [Bool.of_not_eq_true hc]; decide
          · cases h
            exact ⟨_, rfl, fun ready => absurd ready (by decide)⟩
    · cases h
  · cases h

theorem execute_setBlockLength {r : Reply}
    (h : card.execute Opcode.setBlockLength argument = (some r, card')) :
    card'.state = .transfer ∧ card'.applicationNext = false := by
  rw [execute] at h
  by_cases application : card.applicationNext = true
  · rw [if_pos application] at h
    have hsilent : ({ card with applicationNext := false }).executeApplication Opcode.setBlockLength
        argument = if card.state ≠ .transfer then (none, { card with applicationNext := false })
          else (none, { card with applicationNext := false }) := rfl
    rw [hsilent, ite_self] at h
    cases h
  · rw [if_neg application] at h
    have hplain : card.executePlain Opcode.setBlockLength argument =
        if card.state = .transfer then (card.setBlockLength argument).answer else (none, card) := rfl
    rw [hplain] at h
    by_cases selected : card.state = .transfer
    · rw [if_pos selected] at h
      cases h
      unfold setBlockLength
      split <;> exact ⟨selected, Bool.of_not_eq_true application⟩
    · rw [if_neg selected] at h
      cases h

end Card

namespace Controller

variable {c : Controller Simulator}

structure Tunes (c c' : Controller Simulator) : Prop where
  calm : c.Calm → c'.Calm
  card : c'.bus.hardware.card = c.bus.hardware.card

theorem Tunes.trans {c' c'' : Controller Simulator} (h : c.Tunes c') (h' : c'.Tunes c'') :
    c.Tunes c'' :=
  ⟨h'.calm ∘ h.calm, h'.card.trans h.card⟩

theorem Tunes.adjust (c : Controller Simulator) (host : HostSettings) (clockRequest : UInt32)
    (owned : Bool) : c.Tunes { c with host, clockRequest, owned } where
  calm h := ⟨h.attached, h.idle, h.count, h.mapping, h.mask,
    ⟨h.settled.still, h.settled.soc, h.settled.bounce⟩, h.injected, h.loads⟩
  card := rfl

theorem Tunes.write {offset : Nat} {value : UInt32}
    (setting : offset = Register.control ∧ anyBit value Control.softReset = false ∨
      offset = Register.slot ∨ offset = Register.mode) : c.Tunes (c.write offset value) := by
  have hwrite : ∃ registers enabled, c.bus.hardware.write c.bus.mapped offset value =
      ({ c.bus.hardware with registers, enabled }, none) := by
    rcases setting with ⟨rfl, steady⟩ | rfl | rfl
    · have hcontrol : c.bus.hardware.write c.bus.mapped Register.control value =
          (c.bus.hardware.setControl value, none) := rfl
      rw [hcontrol, c.bus.hardware.setControl_steady steady]
      exact ⟨_, _, rfl⟩
    · exact ⟨_, _, rfl⟩
    · exact ⟨_, _, rfl⟩
  have hquiet : (Access.write offset value).isStill = true := by
    rcases setting with ⟨rfl, -⟩ | rfl | rfl <;> rfl
  obtain ⟨registers, enabled, hwrite⟩ := hwrite
  rw [Controller.write, c.bus.write_unmoved hwrite]
  refine ⟨fun h => ?_, rfl⟩
  have hstill := h.settled.still.write c.bus.mapped hquiet
  rw [hwrite] at hstill
  exact ⟨h.attached, h.idle, h.count, h.mapping, h.mask,
    ⟨hstill, h.settled.soc, h.settled.bounce⟩, h.injected, h.loads⟩

theorem Tunes.applySettings (c : Controller Simulator) : c.Tunes c.applySettings := by
  have hcontrol := Tunes.write (c := c) <| .inl ⟨rfl,
    plan_steady (Clock.plan c.clockRequest c.board.masterClock c.options.overclock)⟩
  unfold Controller.applySettings
  generalize Clock.plan c.clockRequest c.board.masterClock c.options.overclock = plan at hcontrol ⊢
  dsimp only
  generalize c.write Register.control _ = c₁ at hcontrol ⊢
  have hrate := Tunes.adjust c₁ { c₁.host with bus := { c₁.host.bus with clock := plan.rate } }
    c₁.clockRequest c₁.owned
  refine (hcontrol.trans hrate).trans ?_
  exact (Tunes.write (.inr (.inl rfl))).trans (.write (.inr (.inr rfl)))

theorem Tunes.writeProperty (c : Controller Simulator) (value : PropertyValue) :
    c.Tunes (c.writeProperty value).2 := by
  unfold Controller.writeProperty
  split
  · exact .adjust c c.host c.clockRequest c.owned
  · split
    · exact .adjust c c.host c.clockRequest c.owned
    · exact .adjust c _ _ c.owned

theorem Tunes.readProperty (c : Controller Simulator) (p : Property) :
    c.Tunes (c.readProperty p).2 := by
  unfold Controller.readProperty
  split
  · exact .adjust c c.host c.clockRequest c.owned
  · split
    · exact .adjust c _ c.clockRequest c.owned
    · exact .adjust c c.host c.clockRequest c.owned

theorem Tunes.update (c : Controller Simulator) : c.Tunes c.update.2 := by
  unfold Controller.update
  split
  · exact .adjust c c.host c.clockRequest c.owned
  · exact .applySettings c

theorem Tunes.setTiming (c : Controller Simulator) (clock : UInt32) (width : BusWidth) :
    c.Tunes (c.setTiming clock width).2 := by
  rw [setTiming_eq]
  split
  · exact .adjust c c.host c.clockRequest c.owned
  · exact (Tunes.adjust c _ _ c.owned).trans (.update (c.ask clock width))

end Controller

namespace Session

variable {s : Session Simulator} {α β : Type}

theorem run_probeVersion (s : Session Simulator) :
    (probeVersion.run.run s).2 = ((command
      { opcode := Opcode.sendInterfaceCond, argument := interfaceCheck, flags := .r7 }).run.run s).2 := by
  change (probeVersion s).2 = _
  unfold probeVersion
  dsimp only
  split
  · next h =>
    rw [h]
    split <;> rfl
  · next h => rw [h]
  · next h => rw [h]

structure Served (s : Session Simulator) : Prop where
  calm : s.controller.Calm
  attended : s.attended = true

/-- What an action makes of the hardware when it succeeds. It leaves a free controller in any case. -/
def Ensures (P : Simulator → Prop) (act : Action Simulator α) (Q : α → Simulator → Prop) : Prop :=
  ∀ s : Session Simulator, s.Served → P s.controller.bus.hardware →
    (act.run.run s).2.Served ∧
      ∀ a, (act.run.run s).1 = .ok a → Q a (act.run.run s).2.controller.bus.hardware

namespace Ensures

variable {P P' : Simulator → Prop} {Q R : α → Simulator → Prop} {Q' : β → Simulator → Prop}
  {act : Action Simulator α}

theorem pure {a : α} (h : ∀ sim, P sim → Q a sim) : Ensures P (Pure.pure a) Q :=
  fun _ served hp => ⟨served, fun _ ha => Except.ok.inj ha ▸ h _ hp⟩

theorem bind {f : α → Action Simulator β} (h : Ensures P act Q) (h' : ∀ a, Ensures (Q a) (f a) Q') :
    Ensures P (act >>= f) Q' := by
  intro s served hp
  obtain ⟨hserved, hresult⟩ := h s served hp
  rw [run_bind]
  rcases hact : act.run.run s with ⟨e | a, s'⟩
  · rw [hact] at hserved
    exact ⟨hserved, fun _ h => nomatch h⟩
  · rw [hact] at hserved hresult
    exact h' a s' hserved (hresult a rfl)

theorem weaken (h : Ensures P act Q) (hp : ∀ hw, P' hw → P hw) (hq : ∀ a hw, Q a hw → R a hw) :
    Ensures P' act R := by
  intro s served hs
  obtain ⟨hserved, hresult⟩ := h s served (hp _ hs)
  exact ⟨hserved, fun a ha => hq a _ (hresult a ha)⟩

theorem throw (e : SessionError) : Ensures P (throwThe SessionError e) Q :=
  fun _ served _ => ⟨served, fun _ h => nomatch h⟩

end Ensures

theorem firstError_command (last : Command Bytes) :
    firstError ⟨last, none⟩ = last.error.map (.command last.opcode) := by
  unfold firstError
  cases h : last.error <;> simp [h]

theorem execute_run {s : Session Simulator} (attended : s.attended = true) {request : Request Bytes}
    {n : Nat} {served : Controller Simulator} {result : Request Bytes}
    (h : s.controller.Finishes request n served result) (enough : n ≤ serviceLimit) :
    ∃ tickets, (execute request).run.run s =
      ((firstError result).elim (.ok result) .error,
        { s with controller := { served with tickets } }) := by
  obtain ⟨submitted, hsubmit, hcalled⟩ := h.called
  have hserve := hcalled.serveLine h.quiet enough
  have hpoll : ∃ tickets, served.toParts.poll s.controller.tickets.size =
      (.ok (some result), { served.toParts with tickets }) := by
    have hanswer := h.polled
    unfold Parts.poll at hanswer ⊢
    split at hanswer
    · cases hanswer
    · exact ⟨_, Prod.ext hanswer rfl⟩
    · cases hanswer
  obtain ⟨tickets, hpoll⟩ := hpoll
  have hrun : (execute request).run.run s = execute request s := rfl
  rw [hrun]
  unfold execute
  rw [hsubmit]
  simp only [settle, attended, if_true, hserve, hpoll]
  cases firstError result with
  | none => exact ⟨_, rfl⟩
  | some e => exact ⟨_, rfl⟩

theorem Served.with_tickets {c : Controller Simulator} (calm : c.Calm) (attended : s.attended = true)
    (tickets : Array Ticket) : ({ s with controller := { c with tickets } } : Session Simulator).Served :=
  ⟨⟨calm.attached, calm.idle, calm.count, calm.mapping, calm.mask,
    ⟨calm.settled.still, calm.settled.soc, calm.settled.bounce⟩, calm.injected, calm.loads⟩, attended⟩

theorem Served.finishes (h : s.Served) {cmd : Command Bytes} {served : Controller Simulator}
    {last : Command Bytes} (finishes : s.controller.Finishes ⟨cmd, none⟩ 1 served ⟨last, none⟩)
    (frame : ∃ bus tickets, served = { s.controller with bus, tickets }) :
    ∃ s', (command cmd).run.run s =
        (last.error.elim (.ok last) fun e => .error (.command last.opcode e), s') ∧ s'.Served ∧
      (∃ bus tickets, s' = { s with controller := { s.controller with bus, tickets } }) ∧
      s'.controller.bus = served.bus := by
  obtain ⟨bus, tickets', hframe⟩ := frame
  obtain ⟨tickets, hrun⟩ := execute_run h.attended finishes (by decide)
  refine ⟨_, ?_, .with_tickets finishes.calm h.attended tickets, ⟨bus, tickets, by rw [hframe]⟩, rfl⟩
  unfold Session.command
  rw [run_bind, hrun, firstError_command]
  cases last.error <;> rfl

theorem Served.command (h : s.Served) {cmd : Command Bytes} (data : cmd.data = none) :
    ∃ last s', (command cmd).run.run s =
        (last.error.elim (.ok last) fun e => .error (.command last.opcode e), s') ∧ s'.Served ∧
      (∃ bus tickets, s' = { s with controller := { s.controller with bus, tickets } }) ∧
      s'.controller.bus.hardware.enabled = s.controller.bus.hardware.enabled ∧
      s.controller.bus.hardware.card.Attempts s'.controller.bus.hardware.card ∧
      (last.error = none →
        s.controller.bus.hardware.Executes s'.controller.bus.hardware cmd last) ∧
      s.controller.bus.hardware.Succeeds cmd last := by
  obtain ⟨served, last, hfinishes, hframe, henabled, hattempts, hexecutes, hsucceeds⟩ :=
    h.calm.plain_finishes data
  obtain ⟨s', hrun, hserved, hsame, hbus⟩ := h.finishes hfinishes hframe
  rw [← hbus] at henabled hattempts hexecutes
  exact ⟨last, s', hrun, hserved, hsame, henabled, hattempts, hexecutes, hsucceeds⟩

def OfCard (P : Simulator → Prop) : Prop := ∀ {s s' : Simulator}, s'.card = s.card → P s → P s'

def Follows (P : Simulator → Prop) (cmd last : Command Bytes) (after : Simulator) : Prop :=
  ∃ before, P before ∧ after.enabled = before.enabled ∧ before.Executes after cmd last

namespace Ensures

variable {P : Simulator → Prop} {Q : α → Simulator → Prop}

theorem command {cmd : Command Bytes} (data : cmd.data = none) :
    Ensures P (command cmd) (Follows P cmd) := by
  intro s served hp
  obtain ⟨last, s', hrun, hserved, -, henabled, -, hexecutes, -⟩ := served.command data
  rw [hrun]
  refine ⟨hserved, fun a ha => ?_⟩
  cases herror : last.error with
  | none =>
    rw [herror] at ha
    cases ha
    exact ⟨_, hp, henabled, hexecutes herror⟩
  | some e =>
    rw [herror] at ha
    cases ha

theorem step {f : Controller Simulator → Except Refusal α × Controller Simulator}
    (tunes : ∀ c : Controller Simulator, c.Tunes (f c).2) (ofCard : OfCard P) :
    Ensures P (step f) fun _ => P := by
  intro s served hp
  have htunes := tunes s.controller
  rw [run_step]
  exact ⟨⟨htunes.calm served.calm, served.attended⟩, fun _ _ => ofCard htunes.card hp⟩

theorem owning {act : Action Simulator α} (h : Ensures P act Q) : Ensures P (owning act) Q := by
  intro s served hp
  obtain ⟨owned, hrun⟩ := run_owning act s
  have hacquire := Controller.Tunes.adjust s.controller s.controller.host s.controller.clockRequest
    owned
  obtain ⟨hserved, hresult⟩ := h { s with controller := { s.controller with owned } }
    ⟨hacquire.calm served.calm, served.attended⟩ hp
  rw [hrun]
  rcases hact : act.run.run { s with controller := { s.controller with owned } } with ⟨result, s'⟩
  rw [hact] at hserved hresult
  have hrelease := Controller.Tunes.adjust s'.controller s'.controller.host s'.controller.clockRequest
    false
  exact ⟨⟨hrelease.calm hserved.calm, hserved.attended⟩, hresult⟩

end Ensures

def Addressed (blocks : Bool) (sim : Simulator) : Prop := sim.card.highCapacity = blocks

structure Selected (info : CardInfo) (sim : Simulator) : Prop where
  enabled : sim.enabled = true
  state : sim.card.state = .transfer
  plain : sim.card.applicationNext = false
  addressed : sim.card.highCapacity = info.highCapacity

section BringUp

variable {P : Simulator → Prop} {blocks : Bool}

theorem ensures_get : Ensures P (get : Action Simulator (Session Simulator)) fun _ => P :=
  fun _ served h => ⟨served, fun _ _ => h⟩

theorem ensures_any {act : Action Simulator α} {Q : α → Simulator → Prop} (h : Ensures P act Q) :
    Ensures P act fun _ _ => True :=
  h.weaken (fun _ => id) fun _ _ _ => trivial

theorem Addressed.ofCard : OfCard (Addressed blocks) :=
  fun same h => (congrArg Card.highCapacity same).trans h

theorem ensures_writeProperty (ofCard : OfCard P) (value : PropertyValue) :
    Ensures P (writeProperty value) fun _ => P :=
  .step (fun c => .writeProperty c value) ofCard

theorem ensures_setTiming (ofCard : OfCard P) (clock : UInt32) (width : BusWidth) :
    Ensures P (setTiming clock width) fun _ => P :=
  .step (fun c => .setTiming c clock width) ofCard

theorem ensures_command {opcode argument : UInt32} {flags : ResponseFlags}
    (restart : opcode &&& CommandWord.number ≠ Opcode.goIdle)
    (negotiation : opcode &&& CommandWord.number ≠ AppOpcode.sendOpCond) :
    Ensures (Addressed blocks) (command { opcode, argument, flags }) fun _ => Addressed blocks := by
  refine (Ensures.command rfl).weaken (fun _ => id) ?_
  rintro last after ⟨before, hbefore, -, hexecutes⟩
  obtain ⟨reply, hexecution, -⟩ := hexecutes.execution
  exact (Card.execute_highCapacity hexecution restart negotiation).trans hbefore

theorem ensures_announce {R : Simulator → Prop} {argument : UInt32}
    (h : Ensures P (command { opcode := Opcode.application, argument, flags := .r1 }) fun _ => R) :
    Ensures P (announce argument) fun _ => R :=
  h.bind fun _ => .pure fun _ => id

theorem ensures_sendOpCond (argument : UInt32) :
    Ensures P (command { opcode := AppOpcode.sendOpCond, argument, flags := .r3 })
      fun last sim => anyBit (last.response.word 0) OpCond.ready = true →
        Addressed (anyBit (last.response.word 0) OpCond.highCapacity) sim := by
  refine (Ensures.command rfl).weaken (fun _ => id) ?_
  rintro last after ⟨before, -, -, hexecutes⟩ ready
  obtain ⟨reply, hexecution, hanswer⟩ := hexecutes.execution
  obtain ⟨r, rfl, hwords⟩ := hanswer (show ResponseFlags.r3.present = true by decide)
  have hnumber : AppOpcode.sendOpCond &&& CommandWord.number = AppOpcode.sendOpCond := by decide
  rw [hnumber] at hexecution
  obtain ⟨first, hfirst, hready⟩ := Card.execute_negotiates hexecution
  have hword : last.response.word 0 = first := by
    have hcount : ResponseFlags.r3.words = 1 := by decide
    change r.words.take ResponseFlags.r3.words <+: _ at hwords
    rw [hfirst, hcount] at hwords
    obtain ⟨rest, hrest⟩ := hwords
    exact (List.getElem_of_eq hrest (Nat.zero_lt_succ _)).symm
  rw [hword] at ready ⊢
  exact hready ready

theorem ensures_awaitReady (opCond : UInt32) (attempts : Nat) :
    Ensures P (awaitReady opCond attempts) fun word => Addressed (anyBit word OpCond.highCapacity) := by
  induction attempts generalizing P with
  | zero => exact .throw _
  | succ attempts ih =>
    have hannounce : Ensures P (announce 0) fun _ _ => True :=
      ensures_announce (ensures_any (.command rfl))
    refine hannounce.bind fun _ => (ensures_sendOpCond opCond).bind fun last => ?_
    by_cases ready : anyBit (last.response.word 0) OpCond.ready = true
    · rw [if_pos ready]
      exact .pure fun _ h => h ready
    · rw [if_neg ready]
      exact ih

theorem ensures_powerUp (ofCard : OfCard P) (host : HostSettings) :
    Ensures P (powerUp host) fun _ => P := by
  have hwrite (value : PropertyValue) := ensures_writeProperty ofCard value
  refine (hwrite _).bind fun _ => (hwrite _).bind fun _ => (hwrite _).bind fun _ => ?_
  refine (hwrite _).bind fun _ => (ensures_setTiming ofCard _ _).bind fun _ => ?_
  exact .pure fun _ => id

theorem ensures_probeVersion : Ensures P probeVersion fun _ _ => True := by
  intro s served hp
  have hcommand : Ensures P (command
      { opcode := Opcode.sendInterfaceCond, argument := interfaceCheck, flags := .r7 }) _ :=
    .command rfl
  obtain ⟨hserved, -⟩ := hcommand s served hp
  rw [run_probeVersion]
  exact ⟨hserved, fun _ _ => trivial⟩

theorem ensures_negotiate (host : HostSettings) :
    Ensures P (negotiate host) fun word => Addressed (anyBit word OpCond.highCapacity) := by
  refine (ensures_any (.command rfl)).bind fun _ => ensures_probeVersion.bind fun versionTwo => ?_
  refine (ensures_awaitReady _ _).bind fun opCond => ?_
  refine (ensures_writeProperty Addressed.ofCard _).bind fun _ => ?_
  refine (ensures_writeProperty Addressed.ofCard _).bind fun _ => ?_
  exact .pure fun _ => id

theorem ensures_discover :
    Ensures (Addressed blocks) discover fun _ => Addressed blocks := by
  refine (ensures_command (by decide) (by decide)).bind fun _ => ?_
  refine (ensures_command (by decide) (by decide)).bind fun published => ?_
  refine (ensures_command (by decide) (by decide)).bind fun described => ?_
  exact .pure fun _ => id

theorem ensures_widen (host : HostSettings) (addressed : UInt32) (narrow : BusSettings) :
    Ensures (Addressed blocks) (widen host addressed narrow) fun _ => Addressed blocks := by
  have hread : Ensures (Addressed blocks) (step (·.readProperty .capabilities))
      fun _ => Addressed blocks :=
    .step (fun c => .readProperty c .capabilities) Addressed.ofCard
  refine hread.bind fun value => ?_
  split
  · split
    · refine (ensures_announce (ensures_command (by decide) (by decide))).bind fun _ => ?_
      refine (ensures_command (by decide) (by decide)).bind fun _ => ?_
      exact ensures_setTiming Addressed.ofCard _ _
    · exact .pure fun _ => id
  · exact .pure fun _ => id

theorem ensures_setBlockLength (argument : UInt32) :
    Ensures (Addressed blocks) (command { opcode := Opcode.setBlockLength, argument, flags := .r1 })
      fun _ sim => sim.enabled = true ∧ sim.card.state = .transfer ∧
        sim.card.applicationNext = false ∧ Addressed blocks sim := by
  refine (Ensures.command rfl).weaken (fun _ => id) ?_
  rintro last after ⟨before, hbefore, henabled, hexecutes⟩
  obtain ⟨reply, hexecution, hanswer⟩ := hexecutes.execution
  obtain ⟨r, rfl, -⟩ := hanswer (show ResponseFlags.r1.present = true by decide)
  have hnumber : Opcode.setBlockLength &&& CommandWord.number = Opcode.setBlockLength := by decide
  rw [hnumber] at hexecution
  obtain ⟨hstate, hplain⟩ := Card.execute_setBlockLength hexecution
  exact ⟨henabled.trans hexecutes.enabled, hstate, hplain,
    (Card.execute_highCapacity hexecution (by decide) (by decide)).trans hbefore⟩

theorem ensures_identify : Ensures P identify Selected := by
  have hpower (host : HostSettings) : Ensures P (powerUp host) fun _ _ => True :=
    (ensures_powerUp (fun _ => id) host).weaken (fun _ _ => trivial) fun _ _ => id
  refine ensures_get.bind fun s => (hpower _).bind fun _ => (ensures_negotiate _).bind fun opCond => ?_
  refine ensures_discover.bind fun (address, csd) => ?_
  refine (ensures_writeProperty Addressed.ofCard _).bind fun _ => ?_
  refine (ensures_setTiming Addressed.ofCard _ _).bind fun narrow => ?_
  refine (ensures_command (by decide) (by decide)).bind fun _ => ?_
  refine (ensures_widen _ _ _).bind fun bus => (ensures_setBlockLength _).bind fun _ => ?_
  refine .pure fun sim h => ?_
  obtain ⟨enabled, state, plain, addressed⟩ := h
  exact ⟨enabled, state, plain, addressed⟩

end BringUp

structure Ready (s : Session Simulator) : Prop extends Served s where
  selected : Selected s.info s.controller.bus.hardware

theorem start_ready {c : Controller Simulator} (calm : c.Calm) {patience : Nat} {info : CardInfo}
    (started : start c patience true = (.ok info, s)) : s.Ready := by
  have hidentify := Ensures.owning (ensures_identify (P := fun _ => True))
  obtain ⟨hserved, hselected⟩ := hidentify
    { controller := c, patience, attended := true } ⟨calm, rfl⟩ trivial
  unfold start at started
  split at started
  · next h =>
    rw [h] at hserved hselected
    cases started
    exact ⟨⟨hserved.calm, hserved.attended⟩, hselected _ rfl⟩
  · cases started

end Session

end CardHost
