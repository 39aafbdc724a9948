import CardHost.Proofs.Interleaving
import CardHost.Proofs.SharedRegisters

namespace CardHost

namespace HostSettings

theorem get_set? {host host' : HostSettings} {value : PropertyValue} (stores : host.set? value = some host')
    (p : Property) : host'.get p = if p = value.property then value else host.get p := by
  cases value <;> cases stores <;> cases p <;> rfl

theorem get_timed (host : HostSettings) (clock : UInt32) (width : BusWidth) (p : Property) :
    ({ host with bus := { host.bus with clock, width } } : HostSettings).get p =
      if p = .clock then .clock clock else if p = .busWidth then .busWidth width else host.get p := by
  cases p <;> rfl

theorem get_clocked (host : HostSettings) (clock : UInt32) (p : Property) :
    ({ host with bus.clock := clock } : HostSettings).get p =
      if p = .clock then .clock clock else host.get p := by
  cases p <;> rfl

theorem get_capable (host : HostSettings) (capabilities : Capabilities) (p : Property) :
    ({ host with capabilities } : HostSettings).get p =
      if p = .capabilities then .capabilities capabilities else host.get p := by
  cases p <;> rfl

end HostSettings

namespace Exchange

def written? (p : Property) : Exchange → Option PropertyValue
  | ⟨.writeProperty value, .outcome (.ok ())⟩ => if p = value.property then some value else none
  | ⟨.setTiming clock width, .timing (.ok _)⟩ =>
    if p = .clock then some (.clock clock) else if p = .busWidth then some (.busWidth width) else none
  | _ => none

def clocked? : Exchange → Option PropertyValue
  | ⟨.writeProperty (.clock hz), .outcome (.ok ())⟩ => some (.clock hz)
  | ⟨.update, .timing (.ok settings)⟩ | ⟨.setTiming _ _, .timing (.ok settings)⟩ => some (.clock settings.clock)
  | _ => none

def options? : Exchange → Option Options
  | ⟨.setOptions options, _⟩ => some options
  | _ => none

end Exchange

def lastOf {α : Type} (tells : Exchange → Option α) (history : List Exchange) : Option α :=
  (history.filterMap tells).getLast?

theorem lastOf_append {α : Type} (tells : Exchange → Option α) (history : List Exchange) (e : Exchange) :
    lastOf tells (history ++ [e]) = (tells e).or (lastOf tells history) := by
  unfold lastOf
  rw [List.filterMap_append, List.getLast?_append]
  congr 1
  cases h : tells e <;> simp [h]

structure Exchange.Mute (e : Exchange) : Prop where
  written : ∀ p, e.written? p = none
  clocked : e.clocked? = none
  options : e.options? = none

def Operation.tells : Operation → Bool
  | writeProperty _ | setOptions _ | update | setTiming _ _ => true
  | _ => false

theorem Exchange.mute {operation : Operation} (quiet : operation.tells = false) (answer : Answer) :
    Exchange.Mute ⟨operation, answer⟩ := by
  refine ⟨fun p => ?_, ?_, ?_⟩ <;> cases operation <;> first | rfl | cases quiet

theorem Capabilities.setFourWire_eq {capabilities : Capabilities}
    (only : capabilities = ⟨0⟩ ∨ capabilities = ⟨fourWireBit⟩) (wide : Bool) :
    capabilities.setFourWire wide = ⟨if wide then fourWireBit else 0⟩ := by
  rcases only with rfl | rfl <;> cases wide <;> decide

namespace Controller

variable {H : Type} [Hardware H] {start c c' : Controller H} {history : List Exchange} {e : Exchange}

structure Stored (start : Controller H) (history : List Exchange) (c : Controller H) : Prop where
  written : ∀ p, p.readOnly = false → p ≠ .clock →
    c.host.get p = (lastOf (Exchange.written? p) history).getD (start.host.get p)
  clock : c.host.get .clock = (lastOf Exchange.clocked? history).getD (start.host.get .clock)
  request : .clock c.clockRequest = (lastOf (Exchange.written? .clock) history).getD (.clock start.clockRequest)
  options : c.options = (lastOf Exchange.options? history).getD start.options
  fixed : ∀ p, p.readOnly = true → p ≠ .capabilities → c.host.get p = start.host.get p
  capable : c.host.capabilities = ⟨0⟩ ∨ c.host.capabilities = ⟨Capabilities.fourWireBit⟩
  board : c.board = start.board

omit [Hardware H] in
theorem Stored.same (h : Stored start history c) (mute : e.Mute) (host : c'.host = c.host)
    (request : c'.clockRequest = c.clockRequest) (options : c'.options = c.options)
    (board : c'.board = c.board) : Stored start (history ++ [e]) c' := by
  constructor
  case written =>
    intro p writable other
    rw [host, lastOf_append, mute.written, Option.none_or]
    exact h.written p writable other
  case clock =>
    rw [host, lastOf_append, mute.clocked, Option.none_or]
    exact h.clock
  case request =>
    rw [request, lastOf_append, mute.written, Option.none_or]
    exact h.request
  case options =>
    rw [options, lastOf_append, mute.options, Option.none_or]
    exact h.options
  case fixed =>
    intro p readOnly other
    rw [host]
    exact h.fixed p readOnly other
  case capable =>
    rw [host]
    exact h.capable
  case board => exact board.trans h.board

omit [Hardware H] in
theorem Stored.capability (h : Stored start history c) :
    c.settings.capabilities = ⟨if c.options.fourWire then Capabilities.fourWireBit else 0⟩ :=
  Capabilities.setFourWire_eq h.capable c.options.fourWire

omit [Hardware H] in
theorem Stored.look (h : Stored start history c) : Stored start history { c with host := c.settings } := by
  have get (p : Property) (other : p ≠ .capabilities) : c.settings.get p = c.host.get p := by
    rw [settings, HostSettings.get_capable, if_neg other]
  constructor
  case written =>
    intro p writable other
    rw [get p (by rintro rfl; cases writable)]
    exact h.written p writable other
  case clock =>
    rw [get .clock (by decide)]
    exact h.clock
  case request => exact h.request
  case options => exact h.options
  case fixed =>
    intro p readOnly other
    rw [get p other]
    exact h.fixed p readOnly other
  case capable =>
    change c.settings.capabilities = ⟨0⟩ ∨ c.settings.capabilities = ⟨Capabilities.fourWireBit⟩
    rw [h.capability]
    cases c.options.fourWire
    · exact .inl rfl
    · exact .inr rfl
  case board => exact h.board

omit [Hardware H] in
theorem Stored.write (h : Stored start history c) (attached : c.detached = false) (value : PropertyValue) :
    Stored start (history ++ [⟨.writeProperty value, .outcome (c.writeProperty value).1⟩])
      (c.writeProperty value).2 := by
  cases stores : c.host.set? value with
  | none =>
    have refused : c.writeProperty value = (.error (.readOnly value.property), c) := by
      unfold writeProperty
      rw [if_neg (by rw [attached]; decide), stores]
    rw [refused]
    exact h.same ⟨fun _ => rfl, by cases value <;> rfl, rfl⟩ rfl rfl rfl rfl
  | some host =>
    have writable : value.property.readOnly = false := by
      rw [← Bool.not_eq_true, ← c.host.set?_eq_none_iff, stores]
      nofun
    rw [writeProperty_attached attached stores]
    constructor
    case written =>
      intro p writable' other
      rw [lastOf_append, HostSettings.get_set? stores]
      dsimp only [Exchange.written?]
      split
      · rfl
      · exact h.written p writable' other
    case clock =>
      rw [lastOf_append, HostSettings.get_set? stores]
      cases value with
      | clock hz => rfl
      | _ => exact h.clock
    case request =>
      rw [lastOf_append]
      cases value with
      | clock hz => rfl
      | _ => exact h.request
    case options =>
      rw [lastOf_append]
      exact h.options
    case fixed =>
      intro p readOnly other
      rw [HostSettings.get_set? stores, if_neg]
      · exact h.fixed p readOnly other
      · rintro rfl
        rw [readOnly] at writable
        cases writable
    case capable =>
      have same : host.capabilities = c.host.capabilities := by
        cases value <;> cases stores <;> rfl
      dsimp only
      rw [same]
      exact h.capable
    case board => exact h.board

theorem Stored.update (h : Stored start history c) (attached : c.detached = false) :
    Stored start (history ++ [⟨.update, .timing c.update.1⟩]) c.update.2 := by
  have get (p : Property) (other : p ≠ .clock) : c.applySettings.host.get p = c.host.get p :=
    (c.host.get_clocked c.timing.plan.rate p).trans (if_neg other)
  rw [update_attached attached]
  constructor
  case written =>
    intro p writable other
    rw [lastOf_append, get p other]
    exact h.written p writable other
  case clock =>
    rw [lastOf_append]
    rfl
  case request =>
    rw [lastOf_append]
    exact h.request
  case options =>
    rw [lastOf_append]
    exact h.options
  case fixed =>
    intro p readOnly other
    rw [get p (by rintro rfl; cases readOnly)]
    exact h.fixed p readOnly other
  case capable => exact h.capable
  case board => exact h.board

theorem Stored.setTiming (h : Stored start history c) (attached : c.detached = false) (clock : UInt32)
    (width : BusWidth) :
    Stored start (history ++ [⟨.setTiming clock width, .timing (c.setTiming clock width).1⟩])
      (c.setTiming clock width).2 := by
  let asked := c.ask clock width
  have get (p : Property) (other : p ≠ .clock) :
      asked.applySettings.host.get p = if p = .busWidth then .busWidth width else c.host.get p := by
    have applied : asked.applySettings.host.get p = asked.host.get p :=
      (asked.host.get_clocked asked.timing.plan.rate p).trans (if_neg other)
    rw [applied]
    exact (c.host.get_timed clock width p).trans (if_neg other)
  have detached : asked.detached = false := attached
  rw [setTiming_attached attached, update_attached detached]
  constructor
  case written =>
    intro p writable other
    rw [lastOf_append, get p other]
    dsimp only [Exchange.written?]
    rw [if_neg other]
    split
    · rfl
    · exact h.written p writable other
  case clock =>
    rw [lastOf_append]
    rfl
  case request =>
    rw [lastOf_append]
    rfl
  case options =>
    rw [lastOf_append]
    exact h.options
  case fixed =>
    intro p readOnly other
    rw [get p (by rintro rfl; cases readOnly), if_neg (by rintro rfl; cases readOnly)]
    exact h.fixed p readOnly other
  case capable => exact h.capable
  case board => exact h.board

omit [Hardware H] in
theorem Stored.setOptions (h : Stored start history c) (options : Options) :
    Stored start (history ++ [⟨.setOptions options, .silent⟩]) (c.setOptions options) := by
  constructor
  case written =>
    intro p writable other
    rw [lastOf_append]
    exact h.written p writable other
  case clock =>
    rw [lastOf_append]
    exact h.clock
  case request =>
    rw [lastOf_append]
    exact h.request
  case options =>
    rw [lastOf_append]
    rfl
  case fixed => exact h.fixed
  case capable => exact h.capable
  case board => exact h.board

theorem Stored.step {l : Ledger} (h : Stored start history c) (agrees : Agrees (.whole c) l)
    (attached : c.detached = false) (operation : Operation)
    (hs : ((System.whole c).step operation).2 = .whole c') (attached' : c'.detached = false) :
    Stored start (history ++ [⟨operation, ((System.whole c).step operation).1⟩]) c' := by
  -- Whatever concerns requests and handles touches neither the settings nor the options.
  have passes (quiet : operation.tells = false)
      (frame : ∃ bus tickets active mapped owned, c' = { c with bus, tickets, active, mapped, owned }) :
      Stored start (history ++ [⟨operation, ((System.whole c).step operation).1⟩]) c' := by
    obtain ⟨bus, tickets, active, mapped, owned, rfl⟩ := frame
    exact h.same (Exchange.mute quiet _) rfl rfl rfl rfl
  cases operation with
  | submit request =>
    obtain ⟨bus, tickets, active, mapped, he⟩ := c.submit_frame request
    rw [step_submit] at hs
    cases hs
    exact passes rfl ⟨bus, tickets, active, mapped, _, he⟩
  | interrupt =>
    obtain ⟨bus, tickets, active, mapped, he⟩ := c.interrupt_frame agrees.current
    cases hs
    exact passes rfl ⟨bus, tickets, active, mapped, _, he⟩
  | poll ticket =>
    apply passes rfl
    rw [System.step] at hs
    split at hs <;> (cases hs; exact ⟨_, _, _, _, _, rfl⟩)
  | drop ticket =>
    apply passes rfl
    rw [System.step] at hs
    split at hs <;> (cases hs; exact ⟨_, _, _, _, _, rfl⟩)
  | readProperty property =>
    cases hs
    have looked : Stored start history (c.readProperty property).2 := by
      unfold readProperty
      rw [if_neg (by rw [attached]; decide)]
      dsimp only
      split
      · exact h.look
      · exact h
    exact looked.same (Exchange.mute rfl _) rfl rfl rfl rfl
  | writeProperty value =>
    cases hs
    exact h.write attached value
  | setOptions options =>
    cases hs
    exact h.setOptions options
  | update =>
    cases hs
    exact h.update attached
  | setTiming clock width =>
    cases hs
    exact h.setTiming attached clock width
  | acquire =>
    apply passes rfl
    cases hs
    unfold acquire?
    split <;> exact ⟨_, _, _, _, _, rfl⟩
  | release =>
    cases hs
    exact passes rfl ⟨_, _, _, _, _, rfl⟩
  | detach =>
    cases hs
    rw [c.detach_attached attached'] at *
    exact passes rfl ⟨_, _, _, _, _, rfl⟩
  | takeApart => cases hs
  | isBusy | countMappings | readSettings =>
    cases hs
    exact passes rfl ⟨_, _, _, _, _, rfl⟩

end Controller

namespace System

variable {H : Type} [Hardware H] {start : Controller H} {s : System H} {history : List Exchange}

def Stored (start : Controller H) (history : List Exchange) (s : System H) : Prop :=
  s.Holds fun c => c.detached = false → Controller.Stored start history c

theorem Stored.step {l : Ledger} (h : Stored start history s) (agrees : Agrees s l) (operation : Operation) :
    Stored start (history ++ [⟨operation, (s.step operation).1⟩]) (s.step operation).2 := by
  refine step_attached h operation fun c c' whole stored attached hs attached' => ?_
  subst whole
  exact stored.step agrees attached operation hs attached'

theorem Stored.after {l : Ledger} (h : Stored start history s) (agrees : Agrees s l)
    (operations : List Operation) :
    Stored start (history ++ s.exchanges operations) (s.after operations) := by
  induction operations generalizing s history l with
  | nil =>
    rw [exchanges, List.append_nil]
    exact h
  | cons operation rest ih =>
    obtain ⟨l', -, -, agrees', -⟩ := agrees.step_accounted operation
    rw [exchanges, List.append_cons]
    exact ih (h.step agrees operation) agrees'

end System

theorem Controller.stored_attach {H : Type} [Hardware H] (unit : UInt32) (board : Board) (options : Options)
    (hardware : H) :
    Controller.Stored (attach unit board options hardware) [] (attach unit board options hardware) := by
  have capable : (attach unit board options hardware).host.capabilities = ⟨0⟩ ∨
      (attach unit board options hardware).host.capabilities = ⟨Capabilities.fourWireBit⟩ := by
    rw [attach_eq, writeAll_eq]
    change Capabilities.setFourWire ⟨0⟩ options.fourWire = ⟨0⟩ ∨ Capabilities.setFourWire ⟨0⟩ options.fourWire = _
    rw [Capabilities.setFourWire_eq (.inl rfl)]
    cases options.fourWire
    · exact .inl rfl
    · exact .inr rfl
  exact ⟨fun _ _ _ => rfl, rfl, rfl, rfl, fun _ _ _ => rfl, capable, rfl⟩

theorem Controller.readProperty_attached {H : Type} {c : Controller H} (attached : c.detached = false)
    (p : Property) : (c.readProperty p).1 = .ok (c.settings.get p) := by
  unfold readProperty
  rw [if_neg (by rw [attached]; decide)]
  dsimp only
  split
  · rfl
  · next other => exact congrArg Except.ok ((c.host.get_capable _ p).trans (if_neg other)).symm

/-- At every point of a run on an attached controller, a property that can be written reads as it was written
last, by itself or with the timing, and as its default before; only the clock reads as the rate that was
reached, once an update has followed, which is the one planned for the clock last asked for. What the host
fixes reads as it did at the start and is not written, and the only capability is that of the options. The
settings as a whole say the same. -/
theorem properties_are_a_store {H : Type} [Hardware H] (unit : UInt32) (board : Board) (options : Options)
    (hardware : H) (operations : List Operation) {c : Controller H}
    (reached : (System.start unit board options hardware).after operations = .whole c)
    (attached : c.detached = false) :
    let history := (System.start unit board options hardware).exchanges operations
    let current := (lastOf Exchange.options? history).getD options
    (∀ p, (c.readProperty p).1 = .ok (c.settings.get p)) ∧
      (∀ p, p.readOnly = false → p ≠ .clock →
        c.settings.get p = (lastOf (Exchange.written? p) history).getD (({} : HostSettings).get p)) ∧
      c.settings.get .clock = (lastOf Exchange.clocked? history).getD (.clock 0) ∧
      (∀ requested, (lastOf (Exchange.written? .clock) history).getD (.clock 0) = .clock requested →
        ∃ settings, c.update.1 = .ok settings ∧
          settings.clock = (Clock.plan requested board.masterClock current.overclock).rate) ∧
      (∀ p, p.readOnly = true → p ≠ .capabilities →
        .ok (c.settings.get p) = ((Controller.attach unit board options hardware).readProperty p).1) ∧
      c.settings.capabilities = ⟨if current.fourWire then Capabilities.fourWireBit else 0⟩ ∧
      ∀ value, value.property.readOnly = true →
        c.writeProperty value = (.error (.readOnly value.property), c) := by
  intro history current
  have hstart : (System.start unit board options hardware).Stored
      (Controller.attach unit board options hardware) [] :=
    fun _ => Controller.stored_attach unit board options hardware
  have hstored := hstart.after (.start unit board options hardware) operations
  rw [reached] at hstored
  have h : Controller.Stored (Controller.attach unit board options hardware) history c := hstored attached
  have hcurrent : c.options = current := h.options
  have hboard : c.board = board := h.board
  have get (p : Property) (other : p ≠ .capabilities) : c.settings.get p = c.host.get p :=
    (c.host.get_capable _ p).trans (if_neg other)
  refine ⟨Controller.readProperty_attached attached, fun p writable other => ?_, ?_, fun requested asked => ?_,
    fun p readOnly other => ?_, ?_, fun value readOnly => ?_⟩
  · have default : (Controller.attach unit board options hardware).host.get p = ({} : HostSettings).get p := by
      cases p <;> first | rfl | cases writable
    rw [get p (by rintro rfl; cases writable), h.written p writable other, default]
  · rw [get .clock nofun]
    exact h.clock
  · have hrequest : c.clockRequest = requested := PropertyValue.clock.inj (h.request.trans asked)
    refine ⟨_, congrArg Prod.fst (Controller.update_attached attached), ?_⟩
    change (Clock.plan c.clockRequest c.board.masterClock c.options.overclock).rate = _
    rw [hrequest, hboard, hcurrent]
  · rw [get p other, h.fixed p readOnly other, Controller.readProperty_attached rfl]
    exact congrArg Except.ok (((Controller.attach unit board options hardware).host.get_capable _ p).trans
      (if_neg other)).symm
  · rw [← hcurrent]
    exact h.capability
  · unfold Controller.writeProperty
    rw [if_neg (by rw [attached]; decide), (c.host.set?_eq_none_iff value).mpr readOnly]

def Operation.retuning : List Operation :=
  [.writeProperty (.busMode .pushPull), .setTiming 25000000 .four, .writeProperty (.maxClock 1),
    .setOptions ⟨true, true⟩, .update, .writeProperty (.clock 400000)]

theorem retuned_properties_read :
    ∃ c, (System.start 0 (Board.reference .sam9260) .default ({} : Scripted)).after Operation.retuning = .whole c ∧
      c.detached = false ∧ (c.readProperty .busMode).1 = .ok (.busMode .pushPull) ∧
      (c.readProperty .clock).1 = .ok (.clock 400000) ∧
      c.settings.capabilities = ⟨Capabilities.fourWireBit⟩ := by
  have hc : ∃ c, (System.start 0 (Board.reference .sam9260) .default ({} : Scripted)).after Operation.retuning =
      .whole c ∧ c.detached = false := ⟨_, rfl, rfl⟩
  obtain ⟨c, reached, attached⟩ := hc
  obtain ⟨read, written, clock, -, -, capable, -⟩ := properties_are_a_store 0 (Board.reference .sam9260) .default
    ({} : Scripted) Operation.retuning reached attached
  refine ⟨c, reached, attached, ?_, ?_, capable⟩
  · rw [read, written .busMode rfl nofun]
    rfl
  · rw [read, clock]
    rfl

end CardHost
