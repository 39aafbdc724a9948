import CardHost.Proofs.Identification
import CardHost.Proofs.PlainOutcomes

namespace CardHost

namespace Controller

variable {c : Controller Simulator}

theorem applySettings_simulated (c : Controller Simulator) :
    let plan := Clock.plan c.clockRequest c.board.masterClock c.options.overclock
    ∃ registers, c.applySettings = { c with
      bus.hardware := { c.bus.hardware with registers, enabled := plan != .stopped }
      host.bus.clock := plan.rate } := by
  intro plan
  have hplan : plan = Clock.plan c.clockRequest c.board.masterClock c.options.overclock := rfl
  by_cases running : c.clockRequest = 0
  · have hstopped : Clock.plan c.clockRequest c.board.masterClock c.options.overclock = .stopped := by
      rw [Clock.plan, running]
      rfl
    have hcontrol : c.write Register.control Control.off =
        { c with bus.hardware := { c.bus.hardware with enabled := false } } := by
      have hset : c.bus.hardware.setControl Control.off = { c.bus.hardware with enabled := false } := rfl
      have hwrite : c.bus.write Register.control Control.off =
          { c.bus with hardware := c.bus.hardware.setControl Control.off } := c.bus.write_unmoved rfl
      rw [write, hwrite, hset]
    rw [hplan, hstopped]
    unfold applySettings
    rw [hstopped]
    dsimp only
    rw [hcontrol, write_setting _ (.inl rfl), write_setting _ (.inr rfl)]
    exact ⟨_, rfl⟩
  · obtain ⟨registers, happlied⟩ := c.applySettings_running running
    refine ⟨registers, happlied.trans ?_⟩
    have hrunning : (plan != .stopped) = true := by
      rw [hplan, Clock.plan, if_neg (by simpa using running)]
      rfl
    rw [hrunning]

structure Setup where
  enabled : Bool
  board : Board
  options : Options
  host : HostSettings
  clockRequest : UInt32

def setup (c : Controller Simulator) : Setup :=
  ⟨c.bus.hardware.enabled, c.board, c.options, c.host, c.clockRequest⟩

def FollowsSetup {α : Type} (f : Controller Simulator → Except Refusal α × Controller Simulator) : Prop :=
  ∀ c c' : Controller Simulator, c.detached = false → c'.detached = false → c.setup = c'.setup →
    (f c).1 = (f c').1 ∧ (f c).2.setup = (f c').2.setup

theorem followsSetup_writeProperty (value : PropertyValue) : FollowsSetup (·.writeProperty value) := by
  intro c c' attached attached' same
  obtain ⟨henabled, hboard, hoptions, hhost, hrequest⟩ := Setup.mk.inj same
  simp only [writeProperty, attached, attached', Bool.false_eq_true, if_false, hhost, hrequest]
  split
  · exact ⟨rfl, same⟩
  · exact ⟨rfl, by simp only [setup, henabled, hboard, hoptions]⟩

theorem followsSetup_readProperty (property : Property) : FollowsSetup (·.readProperty property) := by
  intro c c' attached attached' same
  obtain ⟨henabled, hboard, hoptions, hhost, hrequest⟩ := Setup.mk.inj same
  have hsettings : c.settings = c'.settings := by rw [settings, settings, hhost, hoptions]
  simp only [readProperty, attached, attached', Bool.false_eq_true, if_false]
  split
  · exact ⟨by rw [hsettings], by simp only [setup, henabled, hboard, hoptions, hrequest, hsettings]⟩
  · exact ⟨by rw [hhost], same⟩

theorem followsSetup_setTiming (clock : UInt32) (width : BusWidth) :
    FollowsSetup (·.setTiming clock width) := by
  intro c c' attached attached' same
  obtain ⟨henabled, hboard, hoptions, hhost, hrequest⟩ := Setup.mk.inj same
  have happlied (c : Controller Simulator) (attached : c.detached = false) :
      c.setTiming clock width = (.ok (c.ask clock width).applySettings.host.bus, (c.ask clock width).applySettings) :=
    (setTiming_attached attached clock width).trans (update_attached attached)
  obtain ⟨registers, hprogrammed⟩ := (c.ask clock width).applySettings_simulated
  obtain ⟨registers', hprogrammed'⟩ := (c'.ask clock width).applySettings_simulated
  dsimp only
  rw [happlied c attached, happlied c' attached', hprogrammed, hprogrammed']
  simp only [ask, setup, hboard, hoptions, hhost, and_self]

end Controller

namespace Session

variable {α β : Type} {R R' : Card → Card → Prop} {s s' : Session Simulator}

structure Abreast (R : Card → Card → Prop) (s s' : Session Simulator) : Prop where
  served : s.Served
  served' : s'.Served
  setup : s.controller.setup = s'.controller.setup
  cards : R s.controller.bus.hardware.card s'.controller.bus.hardware.card

/-- An action that comes to the same result in two sessions abreast, and leaves them abreast when it succeeds. -/
def Agree (R : Card → Card → Prop) (act : Action Simulator α) (Q : α → Card → Card → Prop) : Prop :=
  ∀ s s' : Session Simulator, Abreast R s s' →
    (act.run.run s).1 = (act.run.run s').1 ∧
      ∀ a, (act.run.run s).1 = .ok a → Abreast (Q a) (act.run.run s).2 (act.run.run s').2

abbrev said {B : Type} (cmd : Command B) (card : Card) : Option Reply :=
  (card.execute (cmd.opcode &&& CommandWord.number) cmd.argument).1

abbrev told {B : Type} (cmd : Command B) (card : Card) : Card :=
  (card.execute (cmd.opcode &&& CommandWord.number) cmd.argument).2

abbrev verdict {B : Type} (cmd : Command B) (card : Card) : Option CommandError :=
  CommandError.ofReply? cmd.flags.present cmd.opcode (said cmd card)

theorem Abreast.commands (h : Abreast R s s') {cmd : Command Bytes} (data : cmd.data = none)
    (alike : verdict cmd s.controller.bus.hardware.card = verdict cmd s'.controller.bus.hardware.card) :
    ∃ (last last' : Command Bytes) (t t' : Session Simulator),
      (command cmd).run.run s = (last.error.elim (.ok last) fun e => .error (.command cmd.opcode e), t) ∧
      (command cmd).run.run s' = (last.error.elim (.ok last') fun e => .error (.command cmd.opcode e), t') ∧
      t.Served ∧ t'.Served ∧ t.controller.setup = t'.controller.setup ∧
      (last.error = some .timeout ∧ t.controller.bus.hardware.card = s.controller.bus.hardware.card ∧
          t'.controller.bus.hardware.card = s'.controller.bus.hardware.card ∨
        last.error = verdict cmd s.controller.bus.hardware.card ∧
          t.controller.bus.hardware.card = told cmd s.controller.bus.hardware.card ∧
          t'.controller.bus.hardware.card = told cmd s'.controller.bus.hardware.card ∧
          ∀ words, (said cmd s.controller.bus.hardware.card).bind Reply.registers? = some words →
            (said cmd s'.controller.bus.hardware.card).bind Reply.registers? = some words → last = last') := by
  obtain ⟨last, t, hrun, hserved, ⟨bus, tickets, rfl⟩, hobeys⟩ := h.served.obeys data
  obtain ⟨last', t', hrun', hserved', ⟨bus', tickets', rfl⟩, hobeys'⟩ := h.served'.obeys data
  obtain ⟨henabled, hboard, hoptions, hhost, hrequest⟩ := Controller.Setup.mk.inj h.setup
  have hstill : bus.hardware.enabled = bus'.hardware.enabled :=
    hobeys.enabled.trans (henabled.trans hobeys'.enabled.symm)
  have hcard := hobeys.card
  have hcard' := hobeys'.card
  have herror := hobeys.error
  have herror' := hobeys'.error
  rw [← henabled] at hcard' herror'
  have hfails : last'.error = last.error := by
    rw [herror, herror']
    exact congrArg (ite _ · _) alike.symm
  rw [hfails] at hrun'
  refine ⟨last, last', _, _, hrun, hrun', hserved, hserved', ?_, ?_⟩
  · simp only [Controller.setup, hstill, hboard, hoptions, hhost, hrequest]
  · cases enabled : s.controller.bus.hardware.enabled with
    | false =>
      rw [enabled, if_neg (by decide)] at hcard hcard' herror
      exact .inl ⟨herror, hcard, hcard'⟩
    | true =>
      rw [enabled, if_pos rfl] at hcard hcard' herror
      refine .inr ⟨herror, hcard, hcard', fun words sets sets' => ?_⟩
      obtain ⟨read, -, hlast, hread⟩ := hobeys.answer
      obtain ⟨read', -, hlast', hread'⟩ := hobeys'.answer
      rw [hlast, hlast', hfails, hread enabled words sets, hread' (henabled.symm.trans enabled) words sets']

namespace Agree

variable {act : Action Simulator α} {Q Q' : α → Card → Card → Prop} {Q'' : β → Card → Card → Prop}

theorem pure {a : α} (h : ∀ card card', R card card' → Q a card card') : Agree R (Pure.pure a) Q := by
  intro s s' abreast
  refine ⟨rfl, fun b hb => ?_⟩
  cases hb
  exact ⟨abreast.served, abreast.served', abreast.setup, h _ _ abreast.cards⟩

theorem throw (e : SessionError) : Agree R (throwThe SessionError e) Q :=
  fun _ _ _ => ⟨rfl, nofun⟩

theorem bind {f : α → Action Simulator β} (h : Agree R act Q) (h' : ∀ a, Agree (Q a) (f a) Q'') :
    Agree R (act >>= f) Q'' := by
  intro s s' abreast
  obtain ⟨hresult, hafter⟩ := h s s' abreast
  rw [run_bind, run_bind]
  rcases hs : act.run.run s with ⟨e | a, t⟩
  · rcases hs' : act.run.run s' with ⟨e' | a', t'⟩
    · rw [hs, hs'] at hresult
      cases hresult
      exact ⟨rfl, nofun⟩
    · rw [hs, hs'] at hresult
      cases hresult
  · rcases hs' : act.run.run s' with ⟨e' | a', t'⟩
    · rw [hs, hs'] at hresult
      cases hresult
    · rw [hs, hs'] at hresult hafter
      cases hresult
      exact h' a t t' (hafter a rfl)

theorem ofSettings {f : Session Simulator → Action Simulator α}
    (settled : ∀ s s' : Session Simulator, s.controller.settings = s'.controller.settings → f s = f s')
    (h : ∀ s, Agree R (f s) Q) : Agree R (get >>= f) Q := by
  intro s s' abreast
  have hsettings : s.controller.settings = s'.controller.settings := by
    obtain ⟨-, -, hoptions, hhost, -⟩ := Controller.Setup.mk.inj abreast.setup
    rw [Controller.settings, Controller.settings, hhost, hoptions]
  have hrun (s : Session Simulator) : (get >>= f).run.run s = (f s).run.run s := by
    rw [run_bind]
    rfl
  rw [hrun, hrun, ← settled s s' hsettings]
  exact h s s s' abreast

theorem step {f : Controller Simulator → Except Refusal α × Controller Simulator}
    (tunes : ∀ c : Controller Simulator, c.Tunes (f c).2) (follows : Controller.FollowsSetup f) :
    Agree R (Session.step f) fun _ => R := by
  intro s s' abreast
  have calm := abreast.served.calm
  have calm' := abreast.served'.calm
  obtain ⟨hresult, hsetup⟩ := follows _ _ calm.attached calm'.attached abreast.setup
  have htunes := tunes s.controller
  have htunes' := tunes s'.controller
  have hrun (s : Session Simulator) : (Session.step f).run.run s = refuse (f s.controller) s := rfl
  rw [hrun, hrun]
  generalize f s.controller = r at hresult hsetup htunes
  generalize f s'.controller = r' at hresult hsetup htunes'
  obtain ⟨result, c⟩ := r
  obtain ⟨result', c'⟩ := r'
  cases (show result = result' from hresult)
  cases result with
  | error e => exact ⟨rfl, nofun⟩
  | ok a =>
    refine ⟨rfl, fun b _ => ⟨⟨htunes.calm calm, abreast.served.attended⟩,
      ⟨htunes'.calm calm', abreast.served'.attended⟩, hsetup, ?_⟩⟩
    have hcard : c.bus.hardware.card = s.controller.bus.hardware.card := htunes.card
    have hcard' : c'.bus.hardware.card = s'.controller.bus.hardware.card := htunes'.card
    change R c.bus.hardware.card c'.bus.hardware.card
    rw [hcard, hcard']
    exact abreast.cards

theorem writeProperty (value : PropertyValue) : Agree R (Session.writeProperty value) fun _ => R :=
  .step (fun c => .writeProperty c value) (Controller.followsSetup_writeProperty value)

theorem setTiming (clock : UInt32) (width : BusWidth) : Agree R (Session.setTiming clock width) fun _ => R :=
  .step (fun c => .setTiming c clock width) (Controller.followsSetup_setTiming clock width)

theorem tell {cmd : Command Bytes} (data : cmd.data = none)
    (alike : ∀ card card', R card card' → verdict cmd card = verdict cmd card' ∧
      (verdict cmd card = none → R' (told cmd card) (told cmd card')))
    {f : Action Simulator β} (h : Agree R' f Q'') : Agree R (Session.command cmd >>= fun _ => f) Q'' := by
  intro s s' abreast
  obtain ⟨hverdict, hcards⟩ := alike _ _ abreast.cards
  obtain ⟨last, last', t, t', hrun, hrun', hserved, hserved', hsetup, hlast⟩ := abreast.commands data hverdict
  rw [run_bind, run_bind, hrun, hrun']
  rcases hlast with ⟨herror, -⟩ | ⟨herror, hcard, hcard', -⟩
  · rw [herror]
    exact ⟨rfl, nofun⟩
  · rw [herror]
    cases hpasses : verdict cmd s.controller.bus.hardware.card with
    | some e => exact ⟨rfl, nofun⟩
    | none =>
      refine h t t' ⟨hserved, hserved', hsetup, ?_⟩
      rw [hcard, hcard']
      exact hcards hpasses

theorem command {cmd : Command Bytes} (data : cmd.data = none)
    (same : ∀ card card', R card card' → said cmd card = said cmd card' ∧
      (verdict cmd card = none → ((said cmd card).bind Reply.registers?).isSome ∧
        R' (told cmd card) (told cmd card'))) :
    Agree R (Session.command cmd) fun _ => R' := by
  intro s s' abreast
  obtain ⟨hsaid, hcards⟩ := same _ _ abreast.cards
  have hverdict := congrArg (CommandError.ofReply? cmd.flags.present cmd.opcode) hsaid
  obtain ⟨last, last', t, t', hrun, hrun', hserved, hserved', hsetup, hlast⟩ := abreast.commands data hverdict
  rw [hrun, hrun']
  rcases hlast with ⟨herror, -⟩ | ⟨herror, hcard, hcard', hsame⟩
  · rw [herror]
    exact ⟨rfl, nofun⟩
  · rw [herror]
    cases hpasses : verdict cmd s.controller.bus.hardware.card with
    | some e => exact ⟨rfl, nofun⟩
    | none =>
      obtain ⟨legible, hrelated⟩ := hcards hpasses
      obtain ⟨words, hwords⟩ := Option.isSome_iff_exists.mp legible
      rw [hsame words hwords (by rw [← hsaid]; exact hwords)]
      refine ⟨rfl, fun a _ => ⟨hserved, hserved', hsetup, ?_⟩⟩
      rw [hcard, hcard']
      exact hrelated

theorem probeVersion (echo : ∀ card card', R card card' →
      (card.state = .idle ∧ card.applicationNext = false) ∧ card'.state = .idle ∧ card'.applicationNext = false) :
    Agree R Session.probeVersion fun _ => R := by
  let cmd : Command Bytes := { opcode := Opcode.sendInterfaceCond, argument := interfaceCheck, flags := .r7 }
  have failed {s t : Session Simulator} {e : CommandError}
      (h : (Session.command cmd).run.run s = (.error (.command cmd.opcode e), t)) :
      Session.probeVersion.run.run s = (.ok false, t) := by
    change Session.probeVersion s = _
    unfold Session.probeVersion
    dsimp only
    rw [h]
  have passed {s t : Session Simulator} {last : Command Bytes}
      (h : (Session.command cmd).run.run s = (.ok last, t)) : Session.probeVersion.run.run s =
        (if last.response.word 0 &&& 0xfff = interfaceCheck then .ok true else .error .voltageMismatch, t) := by
    change Session.probeVersion s = _
    unfold Session.probeVersion
    dsimp only
    rw [h]
    dsimp only
    split <;> rfl
  intro s s' abreast
  obtain ⟨⟨idle, plain⟩, idle', plain'⟩ := echo _ _ abreast.cards
  have hecho := Card.execute_interfaceCheck idle plain
  have hecho' := Card.execute_interfaceCheck idle' plain'
  have hsaid : said cmd s.controller.bus.hardware.card = some (.short interfaceCheck) := congrArg Prod.fst hecho
  have hsaid' : said cmd s'.controller.bus.hardware.card = some (.short interfaceCheck) := congrArg Prod.fst hecho'
  obtain ⟨last, last', t, t', hrun, hrun', hserved, hserved', hsetup, hlast⟩ :=
    abreast.commands (show cmd.data = none from rfl) (by rw [verdict, verdict, hsaid, hsaid'])
  rcases hlast with ⟨herror, hcard, hcard'⟩ | ⟨herror, hcard, hcard', hsame⟩
  · rw [herror] at hrun hrun'
    rw [failed hrun, failed hrun']
    refine ⟨rfl, fun _ _ => ⟨hserved, hserved', hsetup, ?_⟩⟩
    rw [hcard, hcard']
    exact abreast.cards
  · have hpasses : verdict cmd s.controller.bus.hardware.card = none := by
      rw [verdict, hsaid]
      rfl
    rw [herror, hpasses] at hrun hrun'
    rw [hsame (.ofWord interfaceCheck) (by rw [hsaid]; rfl) (by rw [hsaid']; rfl)] at hrun
    rw [passed hrun, passed hrun']
    refine ⟨rfl, fun _ _ => ⟨hserved, hserved', hsetup, ?_⟩⟩
    have htold : told cmd s.controller.bus.hardware.card = s.controller.bus.hardware.card := congrArg Prod.snd hecho
    have htold' : told cmd s'.controller.bus.hardware.card = s'.controller.bus.hardware.card :=
      congrArg Prod.snd hecho'
    rw [hcard, hcard', htold, htold']
    exact abreast.cards

end Agree

end Session

end CardHost
