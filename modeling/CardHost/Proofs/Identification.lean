import CardHost.Proofs.ChipOperations
import CardHost.Proofs.SectorAccess

namespace CardHost

theorem Capabilities.fourWire_setFourWire (c : Capabilities) (wide : Bool) :
    (c.setFourWire wide).fourWire = wide := by
  cases wide with
  | false => exact anyBit_clear c.bits fourWireBit
  | true =>
    change anyBit (c.bits ||| fourWireBit) fourWireBit = true
    rw [anyBit_or]
    exact Bool.or_true _

theorem Board.maxClock_ne_zero {board : Board} (clocked : 2 ≤ board.masterClock) :
    board.maxClock ≠ 0 := by
  have hmax : board.maxClock = if board.masterClock / 2 ≤ defaultSpeed then board.masterClock / 2
      else defaultSpeed := rfl
  intro stopped
  rw [hmax] at stopped
  split at stopped
  · have hhalf := congrArg UInt32.toNat stopped
    rw [UInt32.toNat_div] at hhalf
    have hclock : (2 : UInt32).toNat ≤ board.masterClock.toNat := UInt32.le_iff_toNat_le.mp clocked
    change board.masterClock.toNat / 2 = 0 at hhalf
    change 2 ≤ board.masterClock.toNat at hclock
    omega
  · cases stopped

def Card.selected (medium : Medium) : Card :=
  { Card.ofMedium medium with
    powerUpPolls := 0
    highCapacity := true
    address := publishedAddress
    state := .transfer }

theorem Card.execute_interfaceCheck {card : Card} (idle : card.state = .idle)
    (plain : card.applicationNext = false) :
    card.execute (Opcode.sendInterfaceCond &&& CommandWord.number) Session.interfaceCheck =
      (some (.short Session.interfaceCheck), card) := by
  have hplain : card.executePlain (Opcode.sendInterfaceCond &&& CommandWord.number) Session.interfaceCheck =
      if card.state = .idle then (some (.short (Session.interfaceCheck &&& 0xfff)), card)
      else (none, card) := rfl
  rw [execute, if_neg (by rw [plain]; decide), hplain, if_pos idle]
  rfl

theorem Card.execute_application {card : Card} (plain : card.applicationNext = false) (argument : UInt32) :
    card.execute (Opcode.application &&& CommandWord.number) argument =
      (some (.short ({ card with applicationNext := true }.statusBits ||| card.latched)),
        { card with applicationNext := true, latched := 0 }) := by
  rw [execute, if_neg (by rw [plain]; decide)]
  rfl

theorem Card.execute_sendOpCond {card : Card} (application : card.applicationNext = true)
    (idle : card.state = .idle) (argument : UInt32) :
    card.execute (AppOpcode.sendOpCond &&& CommandWord.number) argument =
      ({ card with applicationNext := false } : Card).negotiate argument := by
  have hnumber : AppOpcode.sendOpCond &&& CommandWord.number = AppOpcode.sendOpCond := by decide
  rw [hnumber, execute, if_pos application, executeApplication, if_pos rfl]
  exact if_pos idle

theorem Card.negotiate_waiting {card : Card} {opCond : UInt32}
    (matched : ¬ (opCond &&& voltages = 0 ∧ opCond ≠ 0)) (polls : card.powerUpPolls = 1) :
    card.negotiate opCond = (some (.shortNoCrc voltages), { card with powerUpPolls := 0 }) := by
  rw [negotiate, if_neg matched, if_pos (by rw [polls]; decide), polls]

theorem Card.negotiate_ready {card : Card} {opCond : UInt32} (matched : opCond &&& voltages ≠ 0)
    (polls : card.powerUpPolls = 0) :
    card.negotiate opCond =
      (some (.shortNoCrc (voltages ||| OpCond.ready |||
          if anyBit opCond OpCond.highCapacity then OpCond.highCapacity else 0)),
        { card with highCapacity := anyBit opCond OpCond.highCapacity, state := .ready }) := by
  have named : opCond ≠ 0 := by
    rintro rfl
    exact matched (by decide)
  rw [negotiate, if_neg fun h => matched h.1, if_neg (by rw [polls]; decide), if_pos named]

namespace Controller

variable {c : Controller Simulator}

theorem write_running (c : Controller Simulator) :
    c.write Register.control (Control.on ||| Control.powerSave) =
      { c with bus.hardware := { c.bus.hardware with enabled := true } } := by
  have hcontrol : c.bus.hardware.setControl (Control.on ||| Control.powerSave) =
      { c.bus.hardware with enabled := true } := c.bus.hardware.setControl_steady rfl
  have hwrite : c.bus.write Register.control (Control.on ||| Control.powerSave) =
      { c.bus with hardware := c.bus.hardware.setControl (Control.on ||| Control.powerSave) } :=
    c.bus.write_unmoved rfl
  rw [write, hwrite, hcontrol]

theorem write_setting (c : Controller Simulator) {offset : Nat}
    (setting : offset = Register.slot ∨ offset = Register.mode) (value : UInt32) :
    c.write offset value = { c with bus.hardware := c.bus.hardware.setRegister offset value } := by
  have hunmoved : c.bus.hardware.write c.bus.mapped offset value =
      (c.bus.hardware.setRegister offset value, none) := by
    rcases setting with rfl | rfl <;> rfl
  rw [write, c.bus.write_unmoved hunmoved]

theorem applySettings_running (running : c.clockRequest ≠ 0) :
    ∃ registers, c.applySettings = { c with
      bus.hardware := { c.bus.hardware with registers, enabled := true }
      host.bus.clock := (Clock.plan c.clockRequest c.board.masterClock c.options.overclock).rate } := by
  have hplan : ∃ divider rate,
      Clock.plan c.clockRequest c.board.masterClock c.options.overclock = .running divider rate := by
    unfold Clock.plan
    rw [if_neg (by simpa using running)]
    exact ⟨_, _, rfl⟩
  obtain ⟨divider, rate, hplan⟩ := hplan
  unfold applySettings
  rw [hplan]
  dsimp only
  rw [write_running, write_setting _ (.inl rfl), write_setting _ (.inr rfl)]
  exact ⟨_, rfl⟩

theorem setTiming_running (attached : c.detached = false) {clock : UInt32} (running : clock ≠ 0)
    (width : BusWidth) :
    let bus := { c.host.bus with
      clock := (Clock.plan clock c.board.masterClock c.options.overclock).rate
      width }
    ∃ registers, c.setTiming clock width = (.ok bus, { c with
      bus.hardware := { c.bus.hardware with registers, enabled := true }
      host.bus := bus
      clockRequest := clock }) := by
  intro bus
  obtain ⟨registers, happlied⟩ := (c.ask clock width).applySettings_running running
  have asked : (c.ask clock width).detached = false := attached
  rw [setTiming_attached attached, update_attached asked, happlied]
  exact ⟨registers, rfl⟩

theorem attach_simulated (unit : UInt32) (board : Board) (options : Options) (sim : Simulator) :
    ∃ registers, attach unit board options sim =
      { fresh unit board options sim with
        bus.hardware := { sim.reset with registers, enabled := true } } := by
  have hmask : sim.reset.mask &&& ~~~Status.all = 0 := UInt32.zero_and
  obtain ⟨registers, hpowered⟩ := ({ sim.reset with enabled := true, mask := 0 } : Simulator).setAll_frame
    [(Register.timeout, Timeout.million ||| 1), (Register.mode, startMode board.soc),
      (Register.slot, Slot.first)]
  refine ⟨registers, ?_⟩
  rw [attach_eq, writeAll_eq, Bus.writeAll_append, writeAll_quiesce, writeAll_powerOn]
  dsimp only [fresh]
  rw [hmask, hpowered]
  rfl

end Controller

namespace Session

variable {α β : Type} {board : Board} {options : Options} {card card' : Card}
  {host : HostSettings}

def Achieves (P : Session Simulator → Prop) (act : Action Simulator α)
    (Q : α → Session Simulator → Prop) : Prop :=
  ∀ s, P s → ∃ a s', act.run.run s = (.ok a, s') ∧ Q a s'

namespace Achieves

variable {P P' : Session Simulator → Prop} {Q R : α → Session Simulator → Prop}
  {Q' : β → Session Simulator → Prop} {act : Action Simulator α}

theorem pure {a : α} (h : ∀ s, P s → Q a s) : Achieves P (Pure.pure a) Q :=
  fun s hp => ⟨a, s, rfl, h s hp⟩

theorem bind {f : α → Action Simulator β} (h : Achieves P act Q) (h' : ∀ a, Achieves (Q a) (f a) Q') :
    Achieves P (act >>= f) Q' := by
  intro s hp
  obtain ⟨a, s', hrun, hq⟩ := h s hp
  rw [run_bind, hrun]
  exact h' a s' hq

theorem weaken (h : Achieves P act Q) (hq : ∀ a s, Q a s → R a s) : Achieves P act R := by
  intro s hp
  obtain ⟨a, s', hrun, hresult⟩ := h s hp
  exact ⟨a, s', hrun, hq a s' hresult⟩

theorem given {known : Prop} (h : known → Achieves P act Q) :
    Achieves (fun s => known ∧ P s) act Q :=
  fun s ⟨hknown, hp⟩ => h hknown s hp

end Achieves

structure Stands (board : Board) (options : Options) (card : Card) (host : HostSettings)
    (s : Session Simulator) : Prop extends Served s where
  enabled : s.controller.bus.hardware.enabled = true
  card : s.controller.bus.hardware.card = card
  board : s.controller.board = board
  options : s.controller.options = options
  host : s.controller.host = host

theorem achieves_get : Achieves (Stands board options card host) get
    fun s s' => s.controller.settings =
        { host with capabilities := host.capabilities.setFourWire options.fourWire } ∧
      Stands board options card host s' := by
  intro s stands
  refine ⟨s, s, rfl, ?_, stands⟩
  rw [Controller.settings, stands.host, stands.options]

theorem achieves_writeProperty {value : PropertyValue} {host' : HostSettings}
    (stores : host.set? value = some host') :
    Achieves (Stands board options card host) (writeProperty value)
      fun _ => Stands board options card host' := by
  intro s stands
  rw [← stands.host] at stores
  have hwrite := Controller.writeProperty_attached stands.calm.attached stores
  have htunes := Controller.Tunes.writeProperty s.controller value
  rw [hwrite] at htunes
  refine ⟨(), { s with controller := (s.controller.writeProperty value).2 }, ?_, ?_⟩
  · change refuse (s.controller.writeProperty value) s = _
    rw [hwrite]
    rfl
  · rw [hwrite]
    exact ⟨⟨htunes.calm stands.calm, stands.attended⟩, stands.enabled, stands.card, stands.board,
      stands.options, rfl⟩

theorem achieves_setTiming {clock : UInt32} (running : clock ≠ 0) (width : BusWidth) :
    let bus := { host.bus with
      clock := (Clock.plan clock board.masterClock options.overclock).rate
      width }
    Achieves (Stands board options card host) (setTiming clock width)
      fun reached s => reached = bus ∧ Stands board options card { host with bus } s := by
  intro bus s stands
  obtain ⟨registers, htiming⟩ := Controller.setTiming_running stands.calm.attached running width
  have htunes := Controller.Tunes.setTiming s.controller clock width
  rw [stands.host, stands.board, stands.options] at htiming
  rw [htiming] at htunes
  refine ⟨bus, { s with controller := (s.controller.setTiming clock width).2 }, ?_, rfl, ?_⟩
  · change refuse (s.controller.setTiming clock width) s = _
    rw [htiming]
    rfl
  · rw [htiming]
    exact ⟨⟨htunes.calm stands.calm, stands.attended⟩, rfl, stands.card, rfl, rfl, rfl⟩

theorem achieves_readCapabilities : Achieves (Stands board options card host)
    (step (·.readProperty .capabilities))
    fun value s => (∃ capabilities, value = .capabilities capabilities ∧
        capabilities.fourWire = options.fourWire) ∧
      Stands board options card
        { host with capabilities := host.capabilities.setFourWire options.fourWire } s := by
  intro s stands
  have htunes := Controller.Tunes.readProperty s.controller .capabilities
  have hsettings : s.controller.settings =
      { host with capabilities := host.capabilities.setFourWire options.fourWire } := by
    rw [Controller.settings, stands.host, stands.options]
  have hread : s.controller.readProperty .capabilities =
      (.ok (.capabilities s.controller.settings.capabilities),
        { s.controller with host := s.controller.settings }) := by
    rw [Controller.readProperty, if_neg (by rw [stands.calm.attached]; decide), if_pos rfl]
    rfl
  rw [hread] at htunes
  refine ⟨_, { s with controller := { s.controller with host := s.controller.settings } }, ?_,
    ⟨s.controller.settings.capabilities, rfl, ?_⟩, ⟨htunes.calm stands.calm, stands.attended⟩,
    stands.enabled, stands.card, stands.board, stands.options, hsettings⟩
  · change refuse (s.controller.readProperty .capabilities) s = _
    rw [hread]
    rfl
  · rw [hsettings]
    exact Capabilities.fourWire_setFourWire _ _

theorem achieves_command {opcode argument : UInt32} {flags : ResponseFlags} {reply : Reply}
    (executes : card.execute (opcode &&& CommandWord.number) argument = (some reply, card'))
    (passes : reply.Passes opcode) :
    Achieves (Stands board options card host) (command { opcode, argument, flags }) fun last s =>
      (flags.present = true → reply.words.take flags.words <+: last.response.toList) ∧
        Stands board options card' host s := by
  intro s stands
  obtain ⟨last, s', hrun, hserved, ⟨bus, tickets, hframe⟩, henabled, -, hexecutes, hsucceeds⟩ :=
    stands.toServed.command (show ({ opcode, argument, flags } : Command Bytes).data = none from rfl)
  rw [← stands.card] at executes
  have herror : last.error = none := hsucceeds stands.enabled reply card' executes passes
  obtain ⟨-, reply', hexecution, hanswer⟩ := hexecutes herror
  rw [executes] at hexecution
  obtain ⟨hreply, hcard⟩ := Prod.mk.inj hexecution
  rw [herror, Option.elim_none] at hrun
  refine ⟨last, s', hrun, fun present => ?_, hserved, henabled.trans stands.enabled, hcard.symm, ?_,
    ?_, ?_⟩
  · obtain ⟨r, hr, hwords⟩ := hanswer present
    rw [← hreply] at hr
    rwa [Option.some.inj hr]
  · rw [hframe]
    exact stands.board
  · rw [hframe]
    exact stands.options
  · rw [hframe]
    exact stands.host

theorem achieves_short {opcode argument : UInt32} {flags : ResponseFlags}
    (short : flags.present = true ∧ flags.words = 1) {reply : Reply} {word : UInt32}
    (answer : reply.words = [word])
    (executes : card.execute (opcode &&& CommandWord.number) argument = (some reply, card'))
    (passes : reply.Passes opcode) :
    Achieves (Stands board options card host) (command { opcode, argument, flags }) fun last s =>
      last.response.word 0 = word ∧ Stands board options card' host s := by
  refine (achieves_command executes passes).weaken fun last s ⟨hanswer, stands⟩ => ?_
  have hwords := hanswer short.1
  rw [answer, short.2] at hwords
  obtain ⟨rest, hrest⟩ := hwords
  exact ⟨(List.getElem_of_eq hrest (Nat.zero_lt_succ _)).symm, stands⟩

theorem achieves_announce {argument : UInt32} (plain : card.applicationNext = false) :
    Achieves (Stands board options card host) (announce argument) fun _ =>
      Stands board options { card with applicationNext := true, latched := 0 } host := by
  refine .bind (achieves_command (Card.execute_application plain argument) trivial) fun _ => ?_
  exact .pure fun _ h => h.2

theorem achieves_powerUp (settings : HostSettings) (running : settings.minClock ≠ 0) :
    Achieves (Stands board options card host) (powerUp settings) fun _ =>
      Stands board options card
        { host with
          bus := { host.bus with
            clock := (Clock.plan settings.minClock board.masterClock options.overclock).rate
            voltage := UInt32.ofNat (lowestBit settings.hostOpCond)
            mode := .openDrain
            width := .one
            power := .on } } := by
  refine (achieves_writeProperty rfl).bind fun _ => (achieves_writeProperty rfl).bind fun _ => ?_
  refine (achieves_writeProperty rfl).bind fun _ => (achieves_writeProperty rfl).bind fun _ => ?_
  refine (achieves_setTiming running .one).bind fun _ => ?_
  exact .pure fun _ h => h.2

theorem achieves_probeVersion (idle : card.state = .idle) (plain : card.applicationNext = false) :
    Achieves (Stands board options card host) probeVersion fun versionTwo s =>
      versionTwo = true ∧ Stands board options card host s := by
  have hexecutes := Card.execute_interfaceCheck idle plain
  intro s stands
  have hcommand : Achieves (Stands board options card host) (command
      { opcode := Opcode.sendInterfaceCond, argument := interfaceCheck, flags := .r7 }) _ :=
    achieves_short (by decide) rfl hexecutes trivial
  obtain ⟨last, s', hrun, hword, hstands⟩ := hcommand s stands
  refine ⟨true, s', ?_, rfl, hstands⟩
  change probeVersion s = _
  unfold probeVersion
  dsimp only
  rw [hrun]
  dsimp only
  rw [hword, if_pos (by decide)]

theorem achieves_awaitReady {opCond : UInt32} (volts : opCond &&& Card.voltages ≠ 0)
    (blocks : anyBit opCond OpCond.highCapacity = true) (medium : Medium) (attempts : Nat) :
    Achieves (Stands board options (.ofMedium medium) host) (awaitReady opCond (attempts + 2))
      fun word s => word = Card.voltages ||| OpCond.ready ||| OpCond.highCapacity ∧
        Stands board options
          { Card.ofMedium medium with powerUpPolls := 0, highCapacity := true, state := .ready } host
          s := by
  have hlate (card : Card) (late : card.powerUpPolls = 0) : card.negotiate opCond =
      (some (.shortNoCrc (Card.voltages ||| OpCond.ready ||| OpCond.highCapacity)),
        { card with highCapacity := true, state := .ready }) := by
    rw [Card.negotiate_ready volts late, blocks]
    rfl
  unfold awaitReady
  refine .bind (achieves_announce rfl) fun _ => ?_
  refine .bind (achieves_short (by decide) rfl ((Card.execute_sendOpCond rfl rfl opCond).trans
    (Card.negotiate_waiting (fun h => volts h.1) rfl)) (.inr rfl)) fun busy => .given fun hbusy => ?_
  rw [hbusy, if_neg (by decide)]
  unfold awaitReady
  refine .bind (achieves_announce rfl) fun _ => ?_
  refine .bind (achieves_short (by decide) rfl ((Card.execute_sendOpCond rfl rfl opCond).trans (hlate _ rfl))
    (.inr rfl)) fun ready => .given fun hready => ?_
  rw [hready, if_pos (by decide)]
  exact .pure fun _ h => ⟨rfl, h⟩

theorem achieves_negotiate {settings : HostSettings}
    (volts : settings.hostOpCond = OpCond.volts32to33 ||| OpCond.volts33to34) (medium : Medium) :
    Achieves (Stands board options (.ofMedium medium) host) (negotiate settings) fun word s =>
      anyBit word OpCond.highCapacity = true ∧
        Stands board options
          { Card.ofMedium medium with powerUpPolls := 0, highCapacity := true, state := .ready }
          { host with opCond := settings.hostOpCond, family := .sd } s := by
  have hrestart : (Card.ofMedium medium).execute (Opcode.goIdle &&& CommandWord.number) 0 =
      (some .none, Card.ofMedium medium) := rfl
  have hagreed : (Card.voltages ||| OpCond.ready ||| OpCond.highCapacity) &&& settings.hostOpCond =
      settings.hostOpCond := by
    rw [volts]
    decide
  unfold negotiate
  refine .bind (achieves_command hrestart trivial) fun _ => .given fun _ => ?_
  refine .bind (achieves_probeVersion rfl rfl) fun versionTwo => .given fun hversion => ?_
  rw [hversion, if_pos rfl]
  refine .bind (achieves_awaitReady (by rw [volts]; decide) (by rw [volts]; decide) medium 98)
    fun word => .given fun hword => ?_
  rw [hword, hagreed]
  refine .bind (achieves_writeProperty rfl) fun _ => .bind (achieves_writeProperty rfl) fun _ => ?_
  exact .pure fun _ h => ⟨by decide, h⟩

theorem achieves_discover (medium : Medium) :
    let selected : Card :=
      { Card.ofMedium medium with
        powerUpPolls := 0
        highCapacity := true
        address := Card.publishedAddress
        state := .standby }
    Achieves (Stands board options
        { Card.ofMedium medium with powerUpPolls := 0, highCapacity := true, state := .ready } host)
      discover fun found s => found = (Card.publishedAddress, selected.csd) ∧
        Stands board options selected host s := by
  intro selected
  let ready : Card :=
    { Card.ofMedium medium with powerUpPolls := 0, highCapacity := true, state := .ready }
  have hidentify : ready.execute (Opcode.allSendCid &&& CommandWord.number) 0 =
      (some (.long Card.identification), { ready with state := .identify }) := rfl
  have hstatus : selected.statusBits ||| selected.latched = 0x700 :=
    show (CardState.standby.number <<< CardStatus.stateShift ||| 0 ||| CardStatus.readyForData) ||| 0 =
      (0x700 : UInt32) by decide
  let answer (status : UInt32) : UInt32 :=
    (Card.publishedAddress.toUInt32 <<< 16) |||
      (((status >>> 8) &&& (0xc000 : UInt32)) ||| ((status >>> 6) &&& (0x2000 : UInt32)) |||
        (status &&& 0x1fff))
  have hpublish : ({ ready with state := .identify } : Card).execute
      (Opcode.sendRelativeAddress &&& CommandWord.number) 0 =
        (some (.short (answer (selected.statusBits ||| selected.latched))), selected) := rfl
  have hdescribe : selected.execute (Opcode.sendCsd &&& CommandWord.number)
      (Card.publishedAddress.toUInt32 <<< 16) = (some (.long selected.csd), selected) := rfl
  have haddress : (answer 0x700 >>> 16).toUInt16 = Card.publishedAddress := by decide
  unfold discover
  refine .bind (achieves_command hidentify trivial) fun _ => .given fun _ => ?_
  refine .bind (achieves_short (by decide) rfl hpublish trivial) fun published =>
    .given fun hpublished => ?_
  rw [hpublished, hstatus, haddress]
  refine .bind (achieves_command hdescribe trivial) fun described => .given fun hdescribed => ?_
  have hcsd : described.response = selected.csd := by
    obtain ⟨rest, hrest⟩ := hdescribed (by decide)
    have hwhole : selected.csd.toList.take ResponseFlags.r2.words = selected.csd.toList := rfl
    rw [Reply.words, hwhole] at hrest
    have hlength := congrArg List.length hrest
    rw [List.length_append, Vector.length_toList, Vector.length_toList] at hlength
    rw [List.length_eq_zero_iff.mp (by omega : rest.length = 0), List.append_nil] at hrest
    exact (Vector.toList_inj.mp hrest).symm
  rw [hcsd]
  exact .pure fun _ h => ⟨rfl, h⟩

theorem achieves_widen {settings : HostSettings} (running : settings.maxClock ≠ 0) (argument : UInt32)
    (medium : Medium) (width : host.bus.width = .one)
    (clock : host.bus.clock =
      (Clock.plan settings.maxClock board.masterClock options.overclock).rate) :
    let bus := { host.bus with width := if options.fourWire then .four else .one }
    Achieves (Stands board options (.selected medium) host) (widen settings argument host.bus)
      fun reached s => reached = bus ∧
        Stands board options { Card.selected medium with fourWire := options.fourWire }
          { host with capabilities := host.capabilities.setFourWire options.fourWire, bus } s := by
  intro bus
  have hbus : bus = { host.bus with width := if options.fourWire then .four else .one } := rfl
  unfold widen
  refine .bind achieves_readCapabilities fun value => .given fun ⟨capabilities, hvalue, hwide⟩ => ?_
  rw [hvalue]
  dsimp only
  rw [hwide, hbus]
  by_cases wide : options.fourWire = true
  · have hwiden : ({ Card.selected medium with applicationNext := true } : Card).execute
        (AppOpcode.setBusWidth &&& CommandWord.number) 2 =
          (some (.short ((Card.selected medium).statusBits ||| 0 ||| CardStatus.application)),
            { Card.selected medium with fourWire := true }) := rfl
    rw [if_pos wide, if_pos wide, wide]
    refine .bind (achieves_announce rfl) fun _ => .bind (achieves_command hwiden trivial) fun _ => ?_
    refine .given fun _ => (achieves_setTiming running .four).weaken fun reached s h => ?_
    rw [← clock] at h
    exact h
  · rw [if_neg wide, if_neg wide, Bool.of_not_eq_true wide, ← width]
    exact .pure fun _ h => ⟨rfl, h⟩

theorem achieves_identify (medium : Medium) (minRunning : host.minClock ≠ 0)
    (maxRunning : host.maxClock ≠ 0)
    (volts : host.hostOpCond = OpCond.volts32to33 ||| OpCond.volts33to34) :
    let bus : BusSettings :=
      { host.bus with
        clock := (Clock.plan host.maxClock board.masterClock options.overclock).rate
        voltage := UInt32.ofNat (lowestBit host.hostOpCond)
        mode := .pushPull
        width := if options.fourWire then .four else .one
        power := .on }
    Achieves (Stands board options (.ofMedium medium) host) identify fun info s =>
      info =
          { address := Card.publishedAddress
            highCapacity := true
            capacity := CardInfo.capacityOfCsd (Card.selected medium).csd
            width := bus.width
            clock := bus.clock } ∧
        Stands board options { Card.selected medium with fourWire := options.fourWire }
          { host with
            capabilities := host.capabilities.setFourWire options.fourWire
            opCond := host.hostOpCond
            family := .sd
            bus } s := by
  intro bus
  unfold identify
  refine .bind achieves_get fun s => .given fun hsettings => ?_
  rw [hsettings]
  refine .bind (achieves_powerUp _ minRunning) fun _ => ?_
  refine .bind (achieves_negotiate volts medium) fun opCond => .given fun hblocks => ?_
  refine .bind (achieves_discover medium) fun found => .given fun hfound => ?_
  rw [hfound]
  refine .bind (achieves_writeProperty rfl) fun _ => ?_
  refine .bind (achieves_setTiming maxRunning .one) fun narrow => .given fun hnarrow => ?_
  rw [hnarrow]
  have hselect : ({ Card.selected medium with state := .standby } : Card).execute
      (Opcode.selectCard &&& CommandWord.number) (Card.publishedAddress.toUInt32 <<< 16) =
        (some (.short ((Card.selected medium).statusBits ||| 0)), Card.selected medium) := rfl
  refine .bind (achieves_command hselect trivial) fun _ => .given fun _ => ?_
  refine .bind (achieves_widen maxRunning _ medium rfl rfl) fun reached => .given fun hreached => ?_
  rw [hreached]
  let wide : Card := { Card.selected medium with fourWire := options.fourWire }
  have hlength : wide.execute (Opcode.setBlockLength &&& CommandWord.number)
      (UInt32.ofNat blockSize) = (some (.short (wide.statusBits ||| 0)), wide) := rfl
  refine .bind (achieves_command hlength trivial) fun _ => .given fun _ => ?_
  refine .pure fun s h => ⟨?_, h⟩
  rw [hblocks]
  rfl

theorem Achieves.owning {P : Session Simulator → Prop} {act : Action Simulator α}
    {Q : α → Session Simulator → Prop} (h : Achieves P act Q)
    (acquire : ∀ s owned, P s → P { s with controller := { s.controller with owned } }) :
    Achieves P (owning act) fun a s =>
      ∃ s', Q a s' ∧ s = { s' with controller := s'.controller.release } := by
  intro s hp
  obtain ⟨owned, hrun⟩ := run_owning act s
  obtain ⟨a, s', hact, hq⟩ := h _ (acquire s owned hp)
  rw [hact] at hrun
  exact ⟨a, _, hrun, s', hq, rfl⟩

structure BroughtUp (c : Controller Simulator) (s : Session Simulator) : Prop where
  info : s.info =
    { address := 0x1234
      highCapacity := true
      capacity := CardInfo.capacityOfCsd s.controller.bus.hardware.card.csd
      width := if c.options.fourWire then .four else .one
      clock := (Clock.plan c.board.maxClock c.board.masterClock c.options.overclock).rate }
  state : s.controller.bus.hardware.card.state = .transfer
  address : s.controller.bus.hardware.card.address = 0x1234
  blockLength : s.controller.bus.hardware.card.blockLength = 512
  fourWire : s.controller.bus.hardware.card.fourWire = c.options.fourWire
  phase : s.controller.bus.hardware.card.phase = none
  medium : s.controller.bus.hardware.card.medium = c.bus.hardware.card.medium
  family : s.controller.host.family = .sd
  mode : s.controller.host.bus.mode = .pushPull
  opCond : s.controller.host.opCond = c.host.hostOpCond
  power : s.controller.host.bus.power = .on
  released : s.controller.owned = false
  idle : s.controller.active = none
  unmapped : s.controller.mapped = 0
  mapping : s.controller.bus.mapping = none
  mask : s.controller.bus.hardware.mask = 0

theorem stands_attached (unit : UInt32) (board : Board) (options : Options) {sim : Simulator}
    (soc : sim.soc = board.soc) {medium : Medium} (powered : sim.card = .ofMedium medium)
    (injected : sim.injected = 0) (loads : sim.failNextLoad = false) (patience : Nat) :
    Stands board options (.ofMedium medium) (Controller.fresh unit board options sim).host
      { controller := .attach unit board options sim, patience } := by
  have hreached : (System.start unit board options sim).afterStimuli [] =
      .whole (.attach unit board options sim) := rfl
  obtain ⟨registers, hattach⟩ := Controller.attach_simulated unit board options sim
  have hvacant : (Controller.attach unit board options sim).Vacant :=
    ⟨⟨unit, board, options, sim, [], soc, hreached⟩, congrArg (·.detached) hattach,
      congrArg (·.active) hattach, congrArg (·.mapped) hattach,
      (congrArg (·.bus.hardware.injected) hattach).trans injected,
      (congrArg (·.bus.hardware.failNextLoad) hattach).trans loads⟩
  exact ⟨⟨hvacant.calm, rfl⟩, congrArg (·.bus.hardware.enabled) hattach,
    (congrArg (·.bus.hardware.card) hattach).trans powered, congrArg (·.board) hattach,
    congrArg (·.options) hattach, congrArg (·.host) hattach⟩

end Session

/-- Bring-up on a controller that was just attached to a simulator of its chip, with a card that was just
powered up and no fault armed, succeeds on every board whose master clock can be halved. -/
theorem bring_up_succeeds (unit : UInt32) (board : Board) (clocked : 2 ≤ board.masterClock)
    (options : Options) (sim : Simulator) (soc : sim.soc = board.soc) (medium : Medium)
    (powered : sim.card = .ofMedium medium) (injected : sim.injected = 0)
    (loads : sim.failNextLoad = false) (patience : Nat) :
    ∃ s, Session.start (.attach unit board options sim) patience true = (.ok s.info, s) ∧
      s.BroughtUp (.attach unit board options sim) := by
  have hminimum : (Controller.fresh unit board options sim).host.minClock ≠ 0 :=
    show Board.minClock ≠ 0 by decide
  have hstands := Session.stands_attached unit board options soc powered injected loads patience
  have hachieves : Session.Achieves (Session.Stands board options (.ofMedium medium)
      (Controller.fresh unit board options sim).host) Session.identify _ :=
    Session.achieves_identify medium hminimum (Board.maxClock_ne_zero clocked) rfl
  have hidentify := hachieves.owning
      fun s owned h => ⟨⟨(Controller.Tunes.adjust s.controller s.controller.host
        s.controller.clockRequest owned).calm h.calm, h.attended⟩, h.enabled, h.card, h.board,
          h.options, h.host⟩
  obtain ⟨info, _, hrun, s, ⟨hinfo, h⟩, rfl⟩ := hidentify _ hstands
  obtain ⟨registers, hattach⟩ := Controller.attach_simulated unit board options sim
  have hmedium : (Controller.attach unit board options sim).bus.hardware.card.medium = medium :=
    (congrArg (·.bus.hardware.card.medium) hattach).trans (congrArg Card.medium powered)
  have hcsd : (Card.selected medium).csd = s.controller.bus.hardware.card.csd :=
    (congrArg Card.csd h.card).symm
  refine ⟨{ s with controller := s.controller.release, info }, ?_, ?_⟩
  · unfold Session.start
    rw [hrun]
  · exact {
      info := by rw [hinfo, hcsd]; rfl
      state := congrArg Card.state h.card
      address := congrArg Card.address h.card
      blockLength := congrArg Card.blockLength h.card
      fourWire := congrArg Card.fourWire h.card
      phase := congrArg Card.phase h.card
      medium := (congrArg Card.medium h.card).trans hmedium.symm
      family := congrArg HostSettings.family h.host
      mode := congrArg (·.bus.mode) h.host
      opCond := congrArg HostSettings.opCond h.host
      power := congrArg (·.bus.power) h.host
      released := rfl
      idle := h.calm.idle
      unmapped := h.calm.count
      mapping := h.calm.mapping
      mask := h.calm.mask }

theorem blank_card_brought_up :
    let board : Board := ⟨.sam9263, 2⟩
    let sim : Simulator := { soc := .sam9263, card := .ofMedium (.blank 1024), latched := 0x40 }
    ∃ s, Session.start (.attach 1 board ⟨true, false⟩ sim) 0 true = (.ok s.info, s) ∧
      s.info.width = .four ∧ s.info.clock = 1 := by
  intro board sim
  obtain ⟨s, hstart, h⟩ := bring_up_succeeds 1 board (by decide) ⟨true, false⟩ sim rfl (.blank 1024) rfl
    rfl rfl 0
  refine ⟨s, hstart, ?_, ?_⟩
  · rw [h.info]
    rfl
  · rw [h.info]
    exact show (Clock.plan board.maxClock 2 false).rate = 1 by decide

end CardHost
