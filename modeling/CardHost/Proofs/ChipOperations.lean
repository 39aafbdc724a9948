import CardHost.Proofs.Bench
import CardHost.Proofs.ChipService

namespace CardHost

open Bus

namespace Memory

variable {m m' : Memory}

theorem placeCommand_congr (size : m'.buffers.size = m.buffers.size) (command : Command Bytes) :
    (m'.placeCommand command).1 = (m.placeCommand command).1 ∧
      (m'.placeCommand command).2.buffers.size = (m.placeCommand command).2.buffers.size ∧
      ∀ id, m'.get id = m.get id →
        (m'.placeCommand command).2.get id = (m.placeCommand command).2.get id := by
  unfold placeCommand
  cases command.data with
  | none => exact ⟨rfl, size, fun _ same => same⟩
  | some data =>
    refine ⟨?_, ?_, fun id same => ?_⟩
    · simp only [add, size]
    · simp only [add, Array.size_push, size]
    · rw [get_add, get_add, size, same]

theorem place_congr (size : m'.buffers.size = m.buffers.size) (request : Request Bytes) :
    (m'.place request).1 = (m.place request).1 ∧
      (m'.place request).2.buffers.size = (m.place request).2.buffers.size ∧
      ∀ id, m'.get id = m.get id → (m'.place request).2.get id = (m.place request).2.get id := by
  obtain ⟨placed, hsize, kept⟩ := placeCommand_congr size request.command
  unfold place
  dsimp only
  cases request.stop with
  | none => exact ⟨by rw [placed], hsize, kept⟩
  | some stop =>
    obtain ⟨placed', hsize', kept'⟩ := placeCommand_congr hsize stop
    refine ⟨?_, hsize', fun id same => kept' id (kept id same)⟩
    dsimp only
    rw [placed, placed']

end Memory

namespace Controller

open Simulator

variable {c c' d d' : Controller Simulator} {a : Active}

structure Leaves (c d : Controller Simulator) : Prop where
  keeps : c.Keeps d
  memory : d.bus.memory = c.bus.memory
  mask : d.bus.hardware.mask = c.bus.hardware.mask
  latched : d.bus.hardware.latched = c.bus.hardware.latched
  receiveCount : d.bus.hardware.register Register.receiveCount =
    c.bus.hardware.register Register.receiveCount
  transmitCount : d.bus.hardware.register Register.transmitCount =
    c.bus.hardware.register Register.transmitCount

theorem Leaves.of_bus (keeps : c.Keeps d) (bus : d.bus = c.bus) : c.Leaves d := by
  refine ⟨keeps, ?_, ?_, ?_, ?_, ?_⟩ <;> rw [bus]

theorem Leaves.trans {e : Controller Simulator} (h : c.Leaves d) (h' : d.Leaves e) : c.Leaves e :=
  ⟨h.keeps.trans h'.keeps, h'.memory.trans h.memory, h'.mask.trans h.mask, h'.latched.trans h.latched,
    h'.receiveCount.trans h.receiveCount, h'.transmitCount.trans h.transmitCount⟩

theorem Leaves.ordered (h : c.Leaves d) : d.ordered = c.ordered := by
  have arrived : d.bus.hardware.view.Arrived ↔ c.bus.hardware.view.Arrived := by
    unfold View.Arrived view
    dsimp only
    rw [h.mask, h.latched, h.receiveCount]
  have hcurrent : d.current? = c.current? := by rw [current?, current?, h.keeps.active]
  rw [Controller.ordered, Controller.ordered, unordered?, unordered?, hcurrent, h.memory, h.keeps.board]
  simp only [arrived]

theorem Peers.leave (h : c.Peers c') (leaves : c.Leaves d) (leaves' : c'.Leaves d')
    (same : ∃ soc bus, d' = { d with bus, board := { d.board with soc } })
    (view : d'.bus.hardware.view = d.bus.hardware.view) (orderly : d.bus.hardware.Orderly) :
    d.Peers d' := by
  refine ⟨⟨same, view, ?_, orderly⟩, fun id hid => ?_, fun sending clean => ?_⟩
  · rw [leaves.memory, leaves'.memory]
    exact h.size
  · rw [leaves.ordered, leaves'.ordered]
    exact h.contents id (leaves.keeps.bounce ▸ hid)
  · rw [leaves.transmitCount, leaves'.transmitCount]
    rw [leaves.mask] at sending
    rw [leaves.latched] at clean
    exact h.sent sending clean

/-- An operation of a controller that has nothing to do with its chip. -/
structure Oblivious {α : Type} (f : Controller Simulator → α × Controller Simulator) : Prop where
  keeps : ∀ c, (f c).2.bus = c.bus ∧ c.Keeps (f c).2
  blind : ∀ (c : Controller Simulator) soc bus,
    f { c with bus, board := { c.board with soc } } =
      ((f c).1, { (f c).2 with bus, board := { (f c).2.board with soc } })

theorem Peers.oblivious (h : c.Peers c') {α : Type} {f : Controller Simulator → α × Controller Simulator}
    (oblivious : Oblivious f) : (f c').1 = (f c).1 ∧ (f c).2.Peers (f c').2 := by
  obtain ⟨bus, keeps⟩ := oblivious.keeps c
  obtain ⟨bus', keeps'⟩ := oblivious.keeps c'
  obtain ⟨soc, b, hsame⟩ := h.same
  have hblind := oblivious.blind c soc b
  rw [← hsame] at hblind
  refine ⟨by rw [hblind], h.leave (.of_bus keeps bus) (.of_bus keeps' bus') ?_ ?_ ?_⟩
  · rw [hblind]
    exact ⟨soc, b, rfl⟩
  · rw [bus, bus']
    exact h.view
  · rw [bus]
    exact h.orderly

theorem oblivious_readProperty (p : Property) : Oblivious (Controller.readProperty · p) := by
  refine ⟨fun c => c.readProperty_keeps p, fun c soc bus => ?_⟩
  unfold readProperty
  dsimp only
  split
  · rfl
  · split <;> rfl

theorem oblivious_writeProperty (value : PropertyValue) :
    Oblivious (Controller.writeProperty · value) := by
  refine ⟨fun c => c.writeProperty_keeps value, fun c soc bus => ?_⟩
  unfold writeProperty
  dsimp only
  split
  · rfl
  · split <;> rfl

theorem oblivious_acquire : Oblivious fun c => (c.acquire?.isSome, c.acquire?.getD c) := by
  refine ⟨fun c => c.acquire_keeps, fun c soc bus => ?_⟩
  unfold acquire?
  dsimp only
  split <;> rfl

theorem write_control_eq (c : Controller Simulator) {value : UInt32}
    (steady : anyBit value Control.softReset = false) : c.write Register.control value =
      { c with bus := { c.bus with
        hardware := { c.bus.hardware with
          enabled :=
            !anyBit value Control.off && (anyBit value Control.on || c.bus.hardware.enabled) } } } := by
  rw [← c.bus.hardware.setControl_steady steady]
  rfl

theorem leaves_write_control (c : Controller Simulator) {value : UInt32}
    (steady : anyBit value Control.softReset = false) : c.Leaves (c.write Register.control value) := by
  rw [c.write_control_eq steady]
  exact ⟨⟨rfl, rfl, rfl, rfl, rfl⟩, rfl, rfl, rfl, rfl, rfl⟩

theorem Peers.write_control (h : c.Peers c') {value : UInt32}
    (steady : anyBit value Control.softReset = false) :
    (c.write Register.control value).Peers (c'.write Register.control value) := by
  refine h.leave (c.leaves_write_control steady) (c'.leaves_write_control steady) ?_ ?_ ?_
  · obtain ⟨soc, bus, rfl⟩ := h.same
    exact ⟨soc, _, rfl⟩
  · rw [c.write_control_eq steady, c'.write_control_eq steady]
    exact congrArg (fun v : Simulator.View => { v with
      enabled := !anyBit value Control.off && (anyBit value Control.on || v.enabled) }) h.view
  · rw [c.write_control_eq steady]
    exact h.orderly.of_eq rfl rfl rfl

theorem write_plain_eq (c : Controller Simulator) {offset : Nat} (plain : Register.isPlain offset = true)
    (value : UInt32) : c.write offset value =
      { c with bus := { c.bus with hardware := c.bus.hardware.setRegister offset value } } := by
  rw [Controller.write, c.bus.write_unmoved (c.bus.hardware.write_plain c.bus.mapped value plain)]

theorem leaves_write_plain (c : Controller Simulator) {offset : Nat} (plain : Register.isPlain offset = true)
    (counter : offset ≠ Register.receiveCount) (other : offset ≠ Register.transmitCount) (value : UInt32) :
    c.Leaves (c.write offset value) := by
  rw [c.write_plain_eq plain]
  refine ⟨⟨rfl, rfl, rfl, rfl, rfl⟩, rfl, rfl, rfl, ?_, ?_⟩
  · exact (register_setRegister ..).trans (if_neg counter.symm)
  · exact (register_setRegister ..).trans (if_neg other.symm)

theorem Peers.write_unseen (h : c.Peers c') (offset : Nat) (plain : Register.isPlain offset = true)
    (unseen : isUnseen offset = true) (other : offset ≠ Register.transmitCount) (value value' : UInt32) :
    (c.write offset value).Peers (c'.write offset value') := by
  simp only [isUnseen, Bool.and_eq_true, Bool.or_eq_true, decide_eq_true_eq, bne_iff_ne] at unseen
  obtain ⟨outside, counter⟩ := unseen
  refine h.leave (c.leaves_write_plain plain counter other value)
    (c'.leaves_write_plain plain counter other value') ?_ ?_ ?_
  · obtain ⟨soc, bus, rfl⟩ := h.same
    exact ⟨soc, _, rfl⟩
  · rw [c.write_plain_eq plain, c'.write_plain_eq plain]
    dsimp only
    rw [view_setRegister _ _ _ outside counter, view_setRegister _ _ _ outside counter]
    exact h.view
  · rw [c.write_plain_eq plain]
    exact h.orderly.of_eq rfl rfl rfl

theorem leaves_applySettings (c : Controller Simulator) : c.Leaves c.applySettings := by
  have control := c.leaves_write_control <|
    plan_steady (Clock.plan c.clockRequest c.board.masterClock c.options.overclock)
  have slot {d : Controller Simulator} := d.leaves_write_plain
    (show Register.isPlain Register.slot = true by decide) (by decide) (by decide)
  have mode {d : Controller Simulator} := d.leaves_write_plain
    (show Register.isPlain Register.mode = true by decide) (by decide) (by decide)
  have rated (d : Controller Simulator) (clock : UInt32) : d.Leaves { d with host.bus.clock := clock } :=
    .of_bus ⟨rfl, rfl, rfl, rfl, rfl⟩ rfl
  unfold Controller.applySettings
  exact (control.trans ((rated _ _).trans (slot _))).trans (mode _)

theorem leaves_update (c : Controller Simulator) : c.Leaves c.update.2 := by
  unfold Controller.update
  split
  · exact .of_bus (.refl c) rfl
  · exact c.leaves_applySettings

theorem leaves_setTiming (c : Controller Simulator) (clock : UInt32) (width : BusWidth) :
    c.Leaves (c.setTiming clock width).2 := by
  obtain ⟨bus, asks⟩ := c.ask_keeps clock width
  rw [setTiming_eq]
  split
  · exact .of_bus (.refl c) rfl
  · exact (Leaves.of_bus asks bus).trans (leaves_update _)

theorem Peers.applySettings (h : c.Peers c') : c.applySettings.Peers c'.applySettings := by
  obtain ⟨soc, bus, hsame⟩ := h.same
  have hplan : Clock.plan c'.clockRequest c'.board.masterClock c'.options.overclock =
      Clock.plan c.clockRequest c.board.masterClock c.options.overclock := by rw [hsame]
  have hcontrol := h.write_control <|
    plan_steady (Clock.plan c.clockRequest c.board.masterClock c.options.overclock)
  unfold Controller.applySettings
  rw [hplan]
  generalize Clock.plan c.clockRequest c.board.masterClock c.options.overclock = plan at hcontrol ⊢
  dsimp only
  generalize c.write Register.control _ = d at hcontrol ⊢
  generalize c'.write Register.control _ = d' at hcontrol ⊢
  have oblivious : Oblivious fun c : Controller Simulator =>
      ((), { c with host.bus.clock := plan.rate }) :=
    ⟨fun c => ⟨rfl, rfl, rfl, rfl, rfl, rfl⟩, fun c soc bus => rfl⟩
  have hrate := (hcontrol.oblivious oblivious).2
  have hslot := hrate.write_unseen Register.slot (by decide) (by decide) (by decide)
  exact (hslot _ _).write_unseen Register.mode (by decide) (by decide) (by decide) _ _

theorem Peers.update (h : c.Peers c') : c'.update.1 = c.update.1 ∧ c.update.2.Peers c'.update.2 := by
  have hsettings := h.applySettings
  unfold Controller.update
  rw [h.detached]
  split
  · exact ⟨rfl, h⟩
  · refine ⟨?_, hsettings⟩
    obtain ⟨soc, bus, hsame⟩ := hsettings.same
    dsimp only
    rw [hsame]

theorem Peers.setTiming (h : c.Peers c') (clock : UInt32) (width : BusWidth) :
    (c'.setTiming clock width).1 = (c.setTiming clock width).1 ∧
      (c.setTiming clock width).2.Peers (c'.setTiming clock width).2 := by
  have oblivious : Oblivious fun c : Controller Simulator => ((), c.ask clock width) :=
    ⟨fun c => c.ask_keeps clock width, fun _ _ _ => rfl⟩
  have asked : (c.ask clock width).Peers (c'.ask clock width) := (h.oblivious oblivious).2
  rw [setTiming_eq, setTiming_eq, h.detached]
  split
  · exact ⟨rfl, h⟩
  · exact asked.update

theorem writeAll_quiesce (b : Bus Simulator) :
    b.writeAll quiesce = { b with hardware := b.hardware.reset } := by
  have hreset (b : Bus Simulator) : b.write Register.control (Control.off ||| Control.softReset) =
      { b with hardware := b.hardware.reset } := by
    have hcontrol : b.hardware.setControl (Control.off ||| Control.softReset) = b.hardware.reset :=
      b.hardware.setControl_reset rfl
    rw [← hcontrol]
    exact b.write_unmoved rfl
  change ((((b.write Register.disable Status.all).write Register.channelControl Channel.stop).writeAll
    clearChannels.tail).write Register.control (Control.off ||| Control.softReset)) = _
  rw [hreset, write_disable, write_stop, writeAll_plain _ clearChannels.tail (by decide)]
  obtain ⟨registers, hset⟩ := ({ b.hardware with
    mask := b.hardware.mask &&& ~~~Status.all, receiveOn := false, transmitOn := false } :
      Simulator).setAll_frame clearChannels.tail
  dsimp only
  rw [hset]
  rfl

theorem writeAll_powerOn (b : Bus Simulator) (soc : Soc) :
    b.writeAll (powerOn soc) =
      { b with
        hardware := ({ b.hardware with enabled := true, mask := b.hardware.mask &&& ~~~Status.all } :
          Simulator).setAll [(Register.timeout, Timeout.million ||| 1), (Register.mode, startMode soc),
            (Register.slot, Slot.first)] } := by
  have hcontrol : b.write Register.control Control.on =
      { b with hardware := { b.hardware with enabled := true } } := by
    have hset : b.hardware.setControl Control.on = { b.hardware with enabled := true } :=
      b.hardware.setControl_steady rfl
    rw [← hset]
    exact b.write_unmoved rfl
  change ((b.write Register.control Control.on).write Register.disable Status.all).writeAll
    [(Register.timeout, Timeout.million ||| 1), (Register.mode, startMode soc),
      (Register.slot, Slot.first)] = _
  rw [hcontrol, write_disable, writeAll_plain]
  simp only [List.all_cons, List.all_nil]
  rfl

theorem perform_leaves {operation : Operation} (quiet : operation.isQuiet = true)
    (performed : (c.perform operation).2 = .whole d) :
    c.Leaves d ∨ c.active = none ∧ d.bus.memory = c.bus.memory := by
  cases operation with
  | submit | interrupt | poll | drop | takeApart => cases quiet
  | readProperty p =>
    cases performed
    exact .inl (.of_bus (c.readProperty_keeps p).2 (c.readProperty_keeps p).1)
  | writeProperty value =>
    cases performed
    exact .inl (.of_bus (c.writeProperty_keeps value).2 (c.writeProperty_keeps value).1)
  | setOptions | release | isBusy | countMappings | readSettings =>
    cases performed
    exact .inl (.of_bus ⟨rfl, rfl, rfl, rfl, rfl⟩ rfl)
  | acquire =>
    cases performed
    exact .inl (.of_bus c.acquire_keeps.2 c.acquire_keeps.1)
  | update =>
    cases performed
    exact .inl c.leaves_update
  | setTiming clock width =>
    cases performed
    exact .inl (c.leaves_setTiming clock width)
  | detach =>
    cases performed
    unfold Controller.detach
    split
    · exact .inl (.of_bus (.refl c) rfl)
    split
    · exact .inl (.of_bus (.refl c) rfl)
    · next free =>
      refine .inr ⟨Option.not_isSome_iff_eq_none.mp free, ?_⟩
      simp only [writeAll_eq, writeAll_quiesce]

theorem view_reset {s s' : Simulator} (same : s'.view = s.view) : s'.reset.view = s.reset.view :=
  congrArg (fun v : Simulator.View => { v with
    enabled := false, mask := 0, latched := 0, response := [0, 0, 0, 0], receiveCount := 0 }) same

theorem orderly_reset {s : Simulator} (h : s.Orderly) : s.reset.Orderly :=
  ⟨h.card, show anyBit 0 progress = false by decide, h.injected⟩

theorem Steady.resting (h : c.Steady) (idle : c.active = none) : c.Counted ∧ c.bus.hardware.mask = 0 := by
  obtain ⟨left, balanced⟩ := h.balanced
  exact ⟨(balanced.rests idle).count, (balanced.rests idle).mask⟩

theorem Peers.resting (h : c.Peers c') (mask : c.bus.hardware.mask = 0) : c.Twins c' := by
  refine h.twins fun arrived => ?_
  cases mask.symm.trans arrived.1

theorem Peers.detach (h : c.Peers c') (steady : c.Steady) :
    c'.detach.1 = c.detach.1 ∧ c.detach.2.Peers c'.detach.2 := by
  unfold Controller.detach
  rw [h.detached, busy, busy, h.active]
  split
  · exact ⟨rfl, h⟩
  split
  · exact ⟨rfl, h⟩
  · next free =>
    have idle : c.active = none := Option.not_isSome_iff_eq_none.mp free
    have twins := h.resting (steady.resting idle).2
    simp only [writeAll_eq, writeAll_quiesce]
    refine ⟨trivial, Twins.peers ⟨⟨?_, view_reset h.view, h.size, orderly_reset h.orderly⟩,
      twins.contents⟩ 0 rfl (by decide)⟩
    obtain ⟨soc, bus, rfl⟩ := h.same
    exact ⟨soc, _, rfl⟩

theorem peers_attach (soc soc' : Soc) (unit masterClock : UInt32) (options : Options) {card : Card}
    (consistent : card.Consistent) :
    (attach unit ⟨soc, masterClock⟩ options ({ soc, card } : Simulator)).Peers
      (attach unit ⟨soc', masterClock⟩ options ({ soc := soc', card } : Simulator)) := by
  let settings (soc : Soc) : List (Nat × UInt32) :=
    [(Register.timeout, Timeout.million ||| 1), (Register.mode, startMode soc), (Register.slot, Slot.first)]
  let quiet (soc : Soc) : Simulator := { soc, card, enabled := true, mask := 0 &&& ~~~Status.all }
  have hattach (soc : Soc) : attach unit ⟨soc, masterClock⟩ options ({ soc, card } : Simulator) =
      { fresh unit ⟨soc, masterClock⟩ options ({ soc, card } : Simulator) with
        bus.hardware := (quiet soc).setAll (settings soc) } := by
    rw [attach_eq, writeAll_eq, writeAll_append, writeAll_quiesce, writeAll_powerOn]
    rfl
  have hview (soc : Soc) : ((quiet soc).setAll (settings soc)).view = (quiet soc).view :=
    view_setAll _ (by simp only [settings, List.all_cons, List.all_nil]; rfl)
  -- of what differs, the proof bits of the mode register, nothing is in a view
  rw [hattach, hattach]
  refine Twins.peers ⟨⟨⟨soc', _, rfl⟩, ?_, rfl, ?_⟩, fun id hid => rfl⟩ 0 rfl (by decide)
  · dsimp only
    rw [hview, hview]
    rfl
  · exact ⟨consistent, show anyBit 0 progress = false by decide, UInt32.and_zero⟩

theorem Twins.take (h : c.Twins c') (request : Request Bytes) :
    (c.take request).Twins (c'.take request) ∧ c'.accepted request = c.accepted request := by
  obtain ⟨placed, size, kept⟩ := Memory.place_congr h.size request
  obtain ⟨soc, bus, hsame⟩ := h.same
  have haccepted : c'.accepted request = c.accepted request := by
    rw [accepted, placed, hsame]
    rfl
  refine ⟨⟨⟨?_, h.view, size, h.orderly⟩, fun id hid => kept id (h.contents id hid)⟩, haccepted⟩
  rw [Controller.take, haccepted, hsame]
  exact ⟨soc, _, rfl⟩

theorem Peers.submit (h : c.Peers c') (steady : c.Steady) (steady' : c'.Steady) (settled : c.Settled)
    (settled' : c'.Settled) (tidy : c.Tidy (c.board.soc.Unlike c'.board.soc)) {request : Request Bytes}
    (portable : request.Portable (c.board.soc.Unlike c'.board.soc) List.length) :
    (c'.submit request).1 = (c.submit request).1 ∧
      (c.submit request).2.Peers (c'.submit request).2 := by
  rw [submit_eq, submit_eq, h.detached, busy, busy, h.active]
  split
  · exact ⟨rfl, h⟩
  split
  · exact ⟨rfl, h⟩
  · next free =>
    have idle : c.active = none := Option.not_isSome_iff_eq_none.mp free
    -- nothing is enabled between requests, so the buffers lie as the client knows them
    obtain ⟨counted, mask⟩ := steady.resting idle
    obtain ⟨counted', mask'⟩ := steady'.resting (h.active.trans idle)
    obtain ⟨twins, accepted⟩ := (h.resting mask).take request
    have tidy := tidy.take (bounce_lt settled.bounce) portable
    have launched := twins.launch ⟨settled.take request, counted, mask⟩
      ⟨settled'.take request, counted', mask'⟩ rfl rfl (tidy.portable _ rfl).command fun data hd =>
        tidy.own _ rfl _ (List.mem_append_left _ (by simp [Command.buffers, hd]))
    rw [accepted]
    refine ⟨?_, launched⟩
    obtain ⟨soc, bus, rfl⟩ := h.same
    rfl

end Controller

end CardHost
