import CardHost.Proofs.AppliedTiming

namespace CardHost

open Bus

def Operation.retimes : Operation → Bool
  | .writeProperty _ | .setOptions _ | .setTiming _ _ => true
  | _ => false

structure Programming where
  request : UInt32 := 0
  width : BusWidth := .one
  overclock : Bool
  divider : UInt32 := 0x4a
  wide : Bool := false
  length : Nat := 0
  deriving DecidableEq

namespace Programming

def plan (p : Programming) (board : Board) : Clock.Plan :=
  Clock.plan p.request board.masterClock p.overclock

def update (p : Programming) (board : Board) : Programming :=
  { p with divider := (p.plan board).divider, wide := p.width = .four }

def ask (p : Programming) : PropertyValue → Programming
  | .clock hz => { p with request := hz }
  | .busWidth width => { p with width }
  | _ => p

def note (p : Programming) (board : Board) : Operation → Programming
  | .writeProperty value => p.ask value
  | .setOptions options => { p with overclock := options.overclock }
  | .update => p.update board
  | .setTiming clock width => { p with request := clock, width }.update board
  | _ => p

def takeUp (p : Programming) (command? : Option (Command Bytes)) : Programming :=
  match command?.bind (·.data) with
  | none => p
  | some data => { p with length := data.buffer.length }

theorem note_applied {p : Programming} {board : Board} (applied : p.update board = p)
    {operation : Operation} (same : operation.retimes = false) : p.note board operation = p := by
  cases operation with
  | writeProperty | setOptions | setTiming => cases same
  | update => exact applied
  | _ => rfl

theorem update_takeUp {p : Programming} {board : Board} (applied : p.update board = p)
    (command? : Option (Command Bytes)) : (p.takeUp command?).update board = p.takeUp command? := by
  unfold takeUp
  split
  · exact applied
  · next data _ => exact congrArg (fun p : Programming => { p with length := data.buffer.length }) applied

end Programming

theorem Command.lengths_map (command : Command BufferId) (get : BufferId → Bytes) :
    (command.map get).data.map (·.buffer.length) =
      command.data.map fun data => (get data.buffer).length := by
  rw [Command.map, Option.map_map]
  rfl

namespace System

variable {H : Type} [Hardware H]

/-- The command that is taken up in a step, with its data as it is then: that of an accepted request, or
the stop that was pending, when the command before it is on the wire no longer. -/
def takenUp? (s : System H) : Operation → Option (Command Bytes)
  | .submit request =>
    match (s.step (.submit request)).1 with
    | .accepted _ => some request.command
    | _ => none
  | .interrupt =>
    s.active?.bind fun a =>
      if (s.step .interrupt).2.active?.all (·.phase = .stop) then
        a.pending?.map (·.map s.parts.bus.memory.get)
      else none
  | _ => none

def programmed (board : Board) : System H → Programming → List Operation → Programming
  | _, p, [] => p
  | s, p, operation :: rest =>
    programmed board (s.step operation).2 ((p.note board operation).takeUp (s.takenUp? operation)) rest

end System

namespace Controller

variable {H : Type} [Hardware H] {c c' : Controller H} {board : Board} {p : Programming}

structure Programmed (c : Controller H) (board : Board) (p : Programming) : Prop where
  site : c.board = board
  request : c.clockRequest = p.request
  width : c.host.bus.width = p.width
  overclock : c.options.overclock = p.overclock
  fits : p.divider ≤ Mode.divider
  mode : c.bus.stored Register.mode = Mode.word board.soc p.divider p.length
  slot : c.bus.stored Register.slot = if p.wide then Slot.fourWire else Slot.first

theorem Programmed.plan (h : c.Programmed board p) : c.timing.plan = p.plan board := by
  unfold Timing.plan Programming.plan timing
  rw [h.request, h.overclock, h.site]

theorem Programmed.takeUp (h : c.Programmed board p) (timing : c'.timing = c.timing)
    {command? : Option (Command Bytes)}
    (mode : c'.bus.stored Register.mode = commandMode (c.bus.stored Register.mode)
      ((command?.bind (·.data)).map (·.buffer.length)))
    (slot : c'.bus.stored Register.slot = c.bus.stored Register.slot) :
    c'.Programmed board (p.takeUp command?) := by
  have keeps (length : Nat) (mode : c'.bus.stored Register.mode = Mode.word board.soc p.divider length) :
      c'.Programmed board { p with length } := by
    constructor
    case site => exact (congrArg Timing.board timing).trans h.site
    case request => exact (congrArg Timing.request timing).trans h.request
    case width => exact (congrArg (·.bus.width) timing).trans h.width
    case overclock => exact (congrArg (·.options.overclock) timing).trans h.overclock
    case fits => exact h.fits
    case mode => exact mode
    case slot => exact slot.trans h.slot
  unfold Programming.takeUp
  cases hd : command?.bind (·.data) with
  | none =>
    rw [hd] at mode
    exact keeps p.length (mode.trans h.mode)
  | some data =>
    rw [hd, h.mode] at mode
    exact keeps data.buffer.length (mode.trans (Mode.blockMode_word ..))

theorem Programmed.same (h : c.Programmed board p) (timing : c'.timing = c.timing)
    (mode : c'.bus.stored Register.mode = c.bus.stored Register.mode)
    (slot : c'.bus.stored Register.slot = c.bus.stored Register.slot) : c'.Programmed board p := by
  have idle : c'.Programmed board (p.takeUp none) := h.takeUp timing mode slot
  exact idle

theorem Programmed.keeps (h : c.Programmed board p) (timing : c'.timing = c.timing)
    (bus : c'.bus = c.bus) : c'.Programmed board p := by
  refine h.same timing ?_ ?_ <;> rw [bus]

theorem takenUp?_interrupt {a : Active} (ha : c.active = some a) :
    (System.whole c).takenUp? .interrupt =
      if c.interrupt.active.all (·.phase = .stop) then a.pending?.map (·.map c.bus.memory.get)
      else none := by
  change (c.active.bind _ : Option (Command Bytes)) = _
  rw [ha]
  rfl

variable [Retentive H]

theorem Programmed.applySettings (h : c.Programmed board p) :
    c.applySettings.Programmed board (p.update board) := by
  obtain ⟨hmode, hslot⟩ := c.applySettings_stored
  have fits : (p.plan board).divider ≤ Mode.divider := Clock.divider_le ..
  refine ⟨h.site, h.request, h.width, h.overclock, fits, ?_, ?_⟩
  · rw [hmode, h.mode, h.plan, Mode.redivide_word _ _ fits]
    rfl
  · rw [hslot, h.slot, h.width]
    change _ = if decide (p.width = .four) = true then Slot.fourWire else Slot.first
    cases p.width <;> cases p.wide <;> decide

theorem Programmed.update (h : c.Programmed board p) (attached : c.detached = false) :
    c.update.2.Programmed board (p.update board) := by
  rw [update_attached attached]
  exact h.applySettings

omit [Hardware H] [Retentive H] in
theorem Programmed.ask [Hardware H] (h : c.Programmed board p) (attached : c.detached = false)
    (value : PropertyValue) : (c.writeProperty value).2.Programmed board (p.ask value) := by
  unfold writeProperty
  rw [if_neg (by rw [attached]; decide)]
  cases value with
  | clock hz => exact ⟨h.site, rfl, h.width, h.overclock, h.fits, h.mode, h.slot⟩
  | busWidth width => exact ⟨h.site, h.request, rfl, h.overclock, h.fits, h.mode, h.slot⟩
  | _ => exact ⟨h.site, h.request, h.width, h.overclock, h.fits, h.mode, h.slot⟩

theorem Programmed.submit (h : c.Programmed board p) (attached : c.detached = false)
    (request : Request Bytes) : (c.submit request).2.Programmed board
      (p.takeUp ((System.whole c).takenUp? (.submit request))) := by
  cases ha : c.active with
  | some a =>
    have hs := submit_of_busy attached ha request
    have none : (System.whole c).takenUp? (.submit request) = none := by
      simp only [System.takenUp?, System.step, perform, hs]
    rw [hs, none]
    exact h
  | none =>
    obtain ⟨l, bus, hp, launches, hok⟩ := submit_launches attached ha request
    have taken : (System.whole c).takenUp? (.submit request) = some request.command := by
      simp only [System.takenUp?, System.step, perform]
      generalize c.submit request = result at hok ⊢
      obtain ⟨answer, c'⟩ := result
      cases hok
      rfl
    obtain ⟨hmode, hslot⟩ := launches.stored hp
    have copies : (c.accepted request).request.command.map (c.take request).bus.memory.get =
        request.command := congrArg Request.command (c.bus.memory.map_place request)
    have data : (c.accepted request).request.command.data.map
        (fun data => ((c.take request).buffer data.buffer).length) =
          request.command.data.map (·.buffer.length) := by
      rw [← copies, Command.lengths_map]
      rfl
    rw [taken, ← (launches.outcome rfl rfl).1] at *
    refine h.takeUp (launches.timing.trans rfl) ?_ hslot
    rw [hmode, data]
    rfl

theorem Programmed.interrupt (h : c.Programmed board p) (attached : c.detached = false)
    (current : ∀ a, c.active = some a → a.current?.isSome = true) :
    c.interrupt.Programmed board (p.takeUp ((System.whole c).takenUp? .interrupt)) := by
  have timing := c.interrupt_timing current
  cases ha : c.active with
  | none =>
    obtain ⟨bus, hp, he⟩ := interrupt_spurious attached (current?_of_idle ha)
    have idle : (System.whole c).takenUp? .interrupt = none := by
      change (c.active.bind _ : Option (Command Bytes)) = none
      rw [ha]
      rfl
    rw [idle]
    rw [he] at timing ⊢
    exact h.same timing (hp.stored_spared rfl rfl) (hp.stored_spared rfl rfl)
  | some a =>
    obtain ⟨command, hc⟩ := Option.isSome_iff_exists.mp (current a ha)
    obtain ⟨l, bus, hp, serves⟩ := interrupt_serves attached ha hc
    rw [takenUp?_interrupt ha]
    generalize c.interrupt = c' at serves timing ⊢
    cases serves with
    | continues =>
      have spared := spares_of_serves (c.serves_continuing c.observed c.mapped)
      -- The command on the wire stays the same, whose length the mode already has, unless it is the stop.
      have mode := hp.stored_spared spared (r := Register.mode) rfl
      refine h.takeUp timing ?_ (hp.stored_spared spared rfl)
      split
      · next stopped =>
        have second : a.phase = .stop := by simpa [proceed] using stopped
        rw [Active.pending?, second]
        exact mode
      · exact mode
    | finishes words final ends =>
      have spared := spares_of_serves (ends.serves words)
      rw [final]
      exact h.same timing (hp.stored_spared spared rfl) (hp.stored_spared spared rfl)
    | @stops _ _ _ _ stop _ between _ words pending ends _ reached launched launches =>
      have spared := spares_of_serves (ends.serves words)
      obtain ⟨hmode, hslot⟩ := launches.stored launched
      -- The stop is launched over the bus as the end of the first command leaves it: the mode takes its
      -- length from there.
      have stopped : c'.active.all (·.phase = .stop) = true := by
        cases launches <;> simp [proceed]
      have hbus : c'.bus = bus := by cases launches <;> rfl
      have lengths : (stop.data.map fun data => (between.memory.get data.buffer).length) =
          (stop.map c.bus.memory.get).data.map (·.buffer.length) := by
        simp only [Command.lengths_map, reached.alike.2]
      rw [stopped, if_pos rfl, pending]
      refine h.takeUp timing ?_ ?_
      · have mode : between.stored Register.mode = c.bus.stored Register.mode :=
          reached.stored_spared spared rfl
        rw [hbus, hmode]
        exact congrArg₂ commandMode mode lengths
      · rw [hbus, hslot]
        exact reached.stored_spared spared rfl

theorem Programmed.step {l : Ledger} (h : c.Programmed board p) (agrees : Agrees (.whole c) l)
    (attached : c.detached = false) (operation : Operation)
    (hs : ((System.whole c).step operation).2 = .whole c') (attached' : c'.detached = false) :
    c'.Programmed board
      ((p.note board operation).takeUp ((System.whole c).takenUp? operation)) := by
  have handle (parts : Parts H) (bus : parts.bus = c.bus)
      (hs : (System.whole c).setParts parts = .whole c') : c'.Programmed board p := by
    cases hs
    exact h.keeps rfl bus
  cases operation with
  | submit request =>
    rw [step_submit] at hs
    cases hs
    exact h.submit attached request
  | interrupt =>
    cases hs
    exact h.interrupt attached agrees.current
  | poll ticket =>
    rw [System.step] at hs
    split at hs
    · exact handle _ (Parts.bus_poll _ ticket) hs
    · cases hs
      exact h
  | drop ticket =>
    rw [System.step] at hs
    split at hs
    · exact handle _ (by rfl) hs
    · cases hs
      exact h
  | readProperty property =>
    cases hs
    exact h.keeps (c.readProperty_timing property) (c.readProperty_keeps property).1
  | writeProperty value =>
    cases hs
    exact h.ask attached value
  | setOptions options =>
    cases hs
    exact ⟨h.site, h.request, h.width, rfl, h.fits, h.mode, h.slot⟩
  | update =>
    cases hs
    exact h.update attached
  | setTiming clock width =>
    cases hs
    have asked : (c.ask clock width).Programmed board { p with request := clock, width } :=
      ⟨h.site, rfl, rfl, h.overclock, h.fits, h.mode, h.slot⟩
    rw [setTiming_attached attached]
    exact asked.update attached
  | acquire =>
    cases hs
    unfold acquire?
    split
    · exact h
    · exact h.keeps rfl rfl
  | release =>
    cases hs
    exact h.keeps rfl rfl
  | detach =>
    cases hs
    rw [c.detach_attached attached']
    exact h
  | takeApart => cases hs
  | isBusy | countMappings | readSettings =>
    cases hs
    exact h

end Controller

namespace System

variable {H : Type} [Hardware H]

theorem attached_before {c c' : Controller H} {operation : Operation}
    (hs : ((whole c).step operation).2 = .whole c') (attached : c'.detached = false) :
    c.detached = false := by
  apply Bool.eq_false_iff.mpr
  intro detached
  have before : Rested c (.whole c) := ⟨rfl, .self detached⟩
  have after := (before.step operation).2
  rw [hs] at after
  have rested : c'.detached = true := after.detached
  rw [attached] at rested
  cases rested

theorem step_attached {P Q : Controller H → Prop} {s : System H} (h : s.Holds fun c => c.detached = false → P c)
    (operation : Operation)
    (goesOn : ∀ c c', s = .whole c → P c → c.detached = false → ((whole c).step operation).2 = .whole c' →
      c'.detached = false → Q c') :
    (s.step operation).2.Holds fun c => c.detached = false → Q c := by
  cases hs : (s.step operation).2 with
  | apart parts => exact trivial
  | whole c' =>
    intro attached'
    cases s with
    | apart parts =>
      obtain ⟨parts', same⟩ := apart_step parts operation
      rw [same] at hs
      cases hs
    | whole c =>
      have attached := attached_before hs attached'
      exact goesOn c c' rfl (h attached) attached hs attached'

variable {s : System H} {board : Board} {p : Programming}

theorem programmed_applied (applied : p.update board = p) {operations : List Operation}
    (same : ∀ operation ∈ operations, operation.retimes = false) :
    (s.programmed board p operations).update board = s.programmed board p operations := by
  induction operations generalizing s p with
  | nil => exact applied
  | cons operation rest ih =>
    obtain ⟨first, others⟩ := List.forall_mem_cons.mp same
    rw [programmed, Programming.note_applied applied first]
    exact ih (Programming.update_takeUp applied _) others

def Timed (s : System H) (t : Timing) : Prop := s.Holds fun c => c.timing = t

theorem Timed.step {l : Ledger} {t : Timing} (h : s.Timed t) (applied : t.applied = t)
    (agrees : Agrees s l) {operation : Operation} (same : operation.retimes = false) :
    (s.step operation).2.Timed t := by
  cases s with
  | apart parts =>
    obtain ⟨parts', apart⟩ := apart_step parts operation
    rw [apart]
    exact trivial
  | whole c =>
    have timing : c.timing = t := h
    cases operation with
    | writeProperty | setOptions | setTiming => cases same
    | submit request =>
      rw [Controller.step_submit]
      exact (c.submit_timing request).trans timing
    | interrupt => exact (c.interrupt_timing agrees.current).trans timing
    | poll ticket | drop ticket =>
      rw [System.step]
      split
      · exact timing
      · exact timing
    | readProperty property => exact (c.readProperty_timing property).trans timing
    | update =>
      change c.update.2.timing = t
      unfold Controller.update
      split
      · exact timing
      · exact (congrArg Timing.applied timing).trans applied
    | acquire =>
      change (c.acquire?.getD c).timing = t
      unfold Controller.acquire?
      split <;> exact timing
    | detach =>
      change c.detach.2.timing = t
      unfold Controller.detach
      split
      · exact timing
      · split
        · exact timing
        · rw [Controller.writeAll_eq]
          exact timing
    | takeApart => exact trivial
    | release | isBusy | countMappings | readSettings => exact timing

theorem Timed.after {l : Ledger} {t : Timing} (h : s.Timed t) (applied : t.applied = t)
    (agrees : Agrees s l) {operations : List Operation}
    (same : ∀ operation ∈ operations, operation.retimes = false) : (s.after operations).Timed t := by
  induction operations generalizing s l with
  | nil => exact h
  | cons operation rest ih =>
    obtain ⟨first, others⟩ := List.forall_mem_cons.mp same
    obtain ⟨l', -, -, agrees', -⟩ := agrees.step_accounted operation
    exact ih (h.step applied agrees first) agrees' others

variable [Retentive H]

def Programmed (s : System H) (board : Board) (p : Programming) : Prop :=
  s.Holds fun c => c.detached = false → c.Programmed board p

theorem Programmed.step {l : Ledger} (h : s.Programmed board p) (agrees : Agrees s l)
    (operation : Operation) : (s.step operation).2.Programmed board
      ((p.note board operation).takeUp (s.takenUp? operation)) := by
  refine step_attached h operation fun c c' whole programmed attached hs attached' => ?_
  subst whole
  exact programmed.step agrees attached operation hs attached'

theorem Programmed.after {l : Ledger} (h : s.Programmed board p) (agrees : Agrees s l)
    (operations : List Operation) :
    (s.after operations).Programmed board (s.programmed board p operations) := by
  induction operations generalizing s p l with
  | nil => exact h
  | cons operation rest ih =>
    obtain ⟨l', -, -, agrees', -⟩ := agrees.step_accounted operation
    exact ih (h.step agrees operation) agrees'

theorem programmed_start (unit : UInt32) (board : Board) (options : Options) (hardware : H) :
    (start unit board options hardware).Programmed board { overclock := options.overclock } := by
  intro _
  have hp := performs_writeAll (Controller.fresh unit board options hardware).bus
    (Controller.quiesce ++ Controller.powerOn board.soc)
  rw [writes_append] at hp
  obtain ⟨quiet, -, powered⟩ := hp.split
  rw [Controller.attach_eq, Controller.writeAll_eq]
  have fits : (0x4a : UInt32) ≤ Mode.divider := by decide
  refine ⟨rfl, rfl, rfl, rfl, fits, ?_, powered.stored rfl rfl⟩
  exact (powered.stored rfl rfl).trans (Mode.startMode_eq board.soc)

end System

/-- At every point of a run, as long as the controller is attached, the mode register holds the divider of
the last update and the block length of the last data phase beside what the start has set, and the slot
register says whether the last update was for four lines. An update goes by the clock that was asked for
last, so that a second one changes nothing, whatever came between but a change of what they go by. -/
theorem shared_registers_keep_their_fields {H : Type} [Hardware H] [Retentive H] (unit : UInt32)
    (board : Board) (options : Options) (hardware : H) (operations : List Operation)
    {c : Controller H}
    (reached : (System.start unit board options hardware).after operations = .whole c)
    (attached : c.detached = false) :
    let p := (System.start unit board options hardware).programmed board
      { overclock := options.overclock } operations
    (c.bus.read Register.mode).1.toNat =
        Mode.ofFields board.soc.secondRevision p.divider.toNat p.length ∧
      p.divider.toNat < 2 ^ 8 ∧
      (c.bus.read Register.slot).1 = (if p.wide then Slot.fourWire else Slot.first) ∧
      c.update.1 = .ok { c.host.bus with clock := (p.plan board).rate } ∧
      (∀ clock width, (c.setTiming clock width).1 = .ok { c.host.bus with
        clock := (Clock.plan clock board.masterClock p.overclock).rate, width }) ∧
      ∀ (between : List Operation) (c' : Controller H),
        (∀ operation ∈ between, operation.retimes = false) →
        (System.whole c.update.2).after between = .whole c' → c'.detached = false →
        c'.update.1 = c.update.1 ∧ c'.update.2.host.bus = c'.host.bus ∧
          (c'.update.2.bus.read Register.mode).1 = (c'.bus.read Register.mode).1 ∧
          (c'.update.2.bus.read Register.slot).1 = (c'.bus.read Register.slot).1 := by
  intro p
  obtain ⟨l, run⟩ := Accounts.of_steps (P := Agrees) (fun s l operation h => by
    obtain ⟨l', -, rule, agrees, -⟩ := h.step_accounted operation
    exact ⟨l', rule, agrees⟩) (.start unit board options hardware) operations
  have agrees := run.final
  have programmed := (System.programmed_start unit board options hardware).after
    (.start unit board options hardware) operations
  rw [reached] at agrees programmed
  have h : c.Programmed board p := programmed attached
  have updated {c : Controller H} (attached : c.detached = false) :
      c.update = (.ok c.timing.applied.bus, c.applySettings) := Controller.update_attached attached
  refine ⟨?_, Nat.lt_succ_of_le (UInt32.le_iff_toNat_le.mp h.fits), h.slot, ?_, ?_, ?_⟩
  · exact (congrArg UInt32.toNat h.mode).trans (Mode.toNat_word _ h.fits _)
  · rw [updated attached, ← h.plan]
    rfl
  · intro clock width
    have asked : (c.ask clock width).detached = false := attached
    rw [Controller.setTiming_attached attached, updated asked, ← h.site, ← h.overclock]
    rfl
  · intro between c' same hs attached'
    obtain ⟨l', -, -, agrees', -⟩ := agrees.step_accounted .update
    have timed : (System.whole c.update.2).Timed c.timing.applied := by
      rw [updated attached]
      exact c.timing_applySettings
    have timed' := timed.after rfl agrees' same
    have updated' : (System.whole c.update.2).Programmed board (p.update board) :=
      fun _ => h.update attached
    have programmed' := updated'.after agrees' between
    rw [hs] at timed' programmed'
    have timing : c'.timing = c.timing.applied := timed'
    have h' := programmed' attached'
    have again := h'.update attached'
    rw [System.programmed_applied rfl same] at again
    have settled : c'.timing.applied = c'.timing := by
      rw [timing]
      rfl
    refine ⟨?_, ?_, again.mode.trans h'.mode.symm, again.slot.trans h'.slot.symm⟩
    · rw [updated attached', updated attached, settled, timing]
    · rw [updated attached']
      exact congrArg Timing.bus settled

def Controller.readingWide : Controller Scripted :=
  (((attach 0 (Board.reference .sam9260) .default {}).setTiming 400000 .four).2.submit { command := {
    opcode := Opcode.readBlock
    data := some { buffer := Bytes.zeros 512, flags := .read } } }).2

theorem block_length_beside_divider :
    let board := Board.reference .sam9260
    let operations := [.setTiming 400000 .four, .submit { command := {
      opcode := Opcode.readBlock
      data := some { buffer := Bytes.zeros 512, flags := .read } } }]
    let c := Controller.readingWide
    let later := c.update.2.interrupt
    (System.start 0 board .default {}).after operations = .whole c ∧ c.detached = false ∧
      (c.bus.read Register.mode).1.toNat = Mode.ofFields true 124 512 ∧
      (c.bus.read Register.slot).1 = Slot.fourWire ∧
      (∀ operation ∈ [Operation.interrupt], operation.retimes = false) ∧
      (System.whole c.update.2).after [.interrupt] = .whole later ∧ later.detached = false ∧
      later.update.1 = c.update.1 := by
  intro board operations c later
  have reached : (System.start 0 (Board.reference .sam9260) .default {}).after operations = .whole c :=
    rfl
  have attached : c.detached = false := by decide +kernel
  have attached' : later.detached = false := by decide +kernel
  have same : ∀ operation ∈ [Operation.interrupt], operation.retimes = false := by
    simp [Operation.retimes]
  have history : (System.start 0 board .default ({} : Scripted)).programmed board
      { overclock := true } operations = ⟨400000, .four, true, 124, true, 512⟩ := by decide +kernel
  obtain ⟨mode, -, slot, -, -, again⟩ :=
    shared_registers_keep_their_fields 0 board .default ({} : Scripted) operations reached attached
  have hmode := congrArg (fun p : Programming => Mode.ofFields true p.divider.toNat p.length) history
  have hslot := congrArg (fun p : Programming => if p.wide then Slot.fourWire else Slot.first) history
  exact ⟨reached, attached, mode.trans hmode, slot.trans hslot, same, rfl, attached',
    (again [.interrupt] later same rfl attached').1⟩

end CardHost
