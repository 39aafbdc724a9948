import CardHost.Proofs.Serves
import CardHost.Proofs.System

namespace CardHost

open Bus

def Operation.isQuiet : Operation → Bool
  | submit _ | interrupt | poll _ | drop _ | takeApart => false
  | _ => true

namespace Memory

def Extends (m m' : Memory) : Prop :=
  m.buffers.size ≤ m'.buffers.size ∧ ∀ id < m.buffers.size, m'.get id = m.get id

theorem Extends.refl (m : Memory) : m.Extends m := ⟨Nat.le_refl _, fun _ _ => rfl⟩

theorem Extends.trans {m m' m'' : Memory} (h : m.Extends m') (h' : m'.Extends m'') :
    m.Extends m'' :=
  ⟨Nat.le_trans h.1 h'.1, fun id hid =>
    (h'.2 id (Nat.lt_of_lt_of_le hid h.1)).trans (h.2 id hid)⟩

theorem extends_add (m : Memory) (bytes : Bytes) : m.Extends (m.add bytes).2 := by
  refine ⟨by simp [add], fun id hid => ?_⟩
  simp [add, get, Array.getElem?_push, Nat.ne_of_lt hid]

end Memory

namespace Parts

variable {H : Type}

theorem poll_delivered {p : Parts H} {tickets : Array Ticket} {a : Active}
    (h : p.tickets = delivered tickets a) (waiting : tickets[a.ticket]? = some .waiting) :
    (p.poll a.ticket).1 = .ok (some (a.request.map p.bus.memory.get)) := by
  have hready : p.tickets[a.ticket]? = some (.ready a.request) := by
    rw [h, delivered, Array.getElem?_modify, if_pos rfl, waiting]
    rfl
  unfold poll
  rw [hready]

end Parts

namespace Controller

variable {H : Type} [Hardware H]

omit [Hardware H] in
def fresh (unit : UInt32) (board : Board) (options : Options) (hardware : H) : Controller H where
  bus := { hardware, memory := (Memory.add {} (Bytes.zeros Staging.capacity)).2 }
  unit
  board
  options
  host :=
    { minClock := Board.minClock
      maxClock := board.maxClock
      hostOpCond := OpCond.volts32to33 ||| OpCond.volts33to34
      capabilities := Capabilities.setFourWire ⟨0⟩ options.fourWire }
  bounce := (Memory.add {} (Bytes.zeros Staging.capacity)).1

theorem attach_eq (unit : UInt32) (board : Board) (options : Options) (hardware : H) :
    attach unit board options hardware =
      (fresh unit board options hardware).writeAll (quiesce ++ powerOn board.soc) := rfl

omit [Hardware H] in
def accepted (c : Controller H) (request : Request Bytes) : Active :=
  ⟨c.tickets.size, (c.bus.memory.place request).1, .command⟩

omit [Hardware H] in
/-- A controller that has taken a request, and has launched nothing of it. -/
def take (c : Controller H) (request : Request Bytes) : Controller H :=
  { c with
    bus.memory := (c.bus.memory.place request).2
    tickets := c.tickets.push .waiting
    active := some (c.accepted request) }

theorem submit_eq (c : Controller H) (request : Request Bytes) :
    c.submit request =
      if c.detached then (.error ⟨.detached, request⟩, c)
      else if c.busy then (.error ⟨.busy, request⟩, c)
      else (.ok c.tickets.size, (c.take request).launch (c.accepted request).request.command) := rfl

theorem submit_of_busy {c : Controller H} {a : Active} (attached : c.detached = false)
    (busy : c.active = some a) (request : Request Bytes) :
    c.submit request = (.error ⟨.busy, request⟩, c) := by
  rw [submit_eq, if_neg (by rw [attached]; decide), if_pos (by rw [Controller.busy, busy]; rfl)]

theorem submit_idle {c : Controller H} (attached : c.detached = false) (idle : c.active = none)
    (request : Request Bytes) :
    c.submit request =
      (.ok c.tickets.size, (c.take request).launch (c.accepted request).request.command) := by
  rw [submit_eq, if_neg (by rw [attached]; decide), if_neg (by rw [busy, idle]; decide)]

theorem of_accepted {c submitted : Controller H} {request : Request Bytes} {ticket : Nat}
    (h : c.submit request = (.ok ticket, submitted)) :
    c.detached = false ∧ c.active = none ∧ ticket = c.tickets.size ∧
      submitted = (c.take request).launch (c.accepted request).request.command := by
  rw [submit_eq] at h
  split at h
  · cases h
  · next attached =>
    split at h
    · cases h
    · next free =>
      obtain ⟨hticket, hsubmitted⟩ := Prod.mk.inj h
      refine ⟨Bool.eq_false_iff.mpr attached, ?_, (Except.ok.inj hticket).symm, hsubmitted.symm⟩
      exact Option.not_isSome_iff_eq_none.mp free

theorem submit_launches {c : Controller H} (attached : c.detached = false) (idle : c.active = none)
    (request : Request Bytes) :
    ∃ l bus, Performs (c.take request).bus l bus ∧
      Launches (c.take request) (c.accepted request) (c.accepted request).request.command bus l
        (c.submit request).2 ∧
      (c.submit request).1 = .ok c.tickets.size := by
  rw [submit_idle attached idle]
  obtain ⟨l, bus, hp, hl⟩ := launch_launches (c := c.take request) (a := c.accepted request) rfl rfl
  exact ⟨l, bus, hp, hl, rfl⟩

inductive Submits (c : Controller H) (request : Request Bytes) : Controller H → Prop
  | refuses (refused : (c.detached || c.busy) = true) : Submits c request c
  | launches {l : List Access} {bus : Bus H} {c' : Controller H} (attached : c.detached = false)
    (idle : c.active = none) (performs : Performs (c.take request).bus l bus)
    (launches : Launches (c.take request) (c.accepted request) (c.accepted request).request.command
      bus l c') : Submits c request c'

theorem submits (c : Controller H) (request : Request Bytes) :
    c.Submits request (c.submit request).2 := by
  cases hd : c.detached with
  | true =>
    rw [submit_eq, if_pos hd]
    exact .refuses (by rw [hd, Bool.true_or])
  | false =>
    cases ha : c.active with
    | some a =>
      rw [submit_of_busy hd ha]
      exact .refuses (by rw [busy, ha, Option.isSome_some, Bool.or_true])
    | none =>
      obtain ⟨l, bus, hp, hl, -⟩ := c.submit_launches hd ha request
      exact .launches hd ha hp hl

omit [Hardware H] in
theorem Launches.frame {c c' : Controller H} {a : Active} {command : Command BufferId} {bus : Bus H}
    {l : List Access} (h : Launches c a command bus l c') :
    ∃ tickets active mapped, c' = { c with bus, tickets, active, mapped } := by
  cases h <;> exact ⟨_, _, _, rfl⟩

theorem submit_frame (c : Controller H) (request : Request Bytes) :
    ∃ bus tickets active mapped, (c.submit request).2 = { c with bus, tickets, active, mapped } := by
  have h := c.submits request
  generalize (c.submit request).2 = c' at h
  cases h with
  | refuses => exact ⟨_, _, _, _, rfl⟩
  | @launches l bus c' attached idle performs launches =>
    obtain ⟨tickets, active, mapped, rfl⟩ := launches.frame
    exact ⟨bus, tickets, active, mapped, rfl⟩

theorem interrupt_frame (c : Controller H)
    (current : ∀ a, c.active = some a → a.current?.isSome = true) :
    ∃ bus tickets active mapped, c.interrupt = { c with bus, tickets, active, mapped } := by
  have h := interrupts current
  generalize c.interrupt = c' at h
  cases h with
  | rests => exact ⟨_, _, _, _, rfl⟩
  | spurious => exact ⟨_, _, _, _, rfl⟩
  | serves attached ha hc performs serves =>
    cases serves with
    | continues => exact ⟨_, _, _, _, rfl⟩
    | finishes => exact ⟨_, _, _, _, rfl⟩
    | stops words pending ends _ reached launched launches =>
      obtain ⟨tickets, active, mapped, rfl⟩ := launches.frame
      exact ⟨_, tickets, active, mapped, rfl⟩

def programming (control slot wide mode divided : UInt32) : List Access :=
  [.write Register.control control, .read Register.slot slot, .write Register.slot wide,
    .read Register.mode mode, .write Register.mode divided]

/-- The accesses of an operation that leaves requests alone. -/
inductive Quiet (c : Controller H) : List Access → Prop
  | still : Quiet c []
  | programs (control slot wide mode divided : UInt32)
    (steady : anyBit control Control.softReset = false) :
    Quiet c (programming control slot wide mode divided)
  | quiesces (idle : c.active = none) : Quiet c (writes quiesce)

structure Keeps (c c' : Controller H) : Prop where
  tickets : c'.tickets = c.tickets
  active : c'.active = c.active
  mapped : c'.mapped = c.mapped
  bounce : c'.bounce = c.bounce
  board : c'.board = c.board

omit [Hardware H] in
theorem Keeps.refl (c : Controller H) : c.Keeps c := ⟨rfl, rfl, rfl, rfl, rfl⟩

omit [Hardware H] in
theorem Keeps.trans {c c' c'' : Controller H} (h : c.Keeps c') (h' : c'.Keeps c'') : c.Keeps c'' :=
  ⟨h'.tickets.trans h.tickets, h'.active.trans h.active, h'.mapped.trans h.mapped,
    h'.bounce.trans h.bounce, h'.board.trans h.board⟩

omit [Hardware H] in
theorem Quiet.keeps {c c' : Controller H} {l : List Access} (h : Quiet c' l) (k : c.Keeps c') :
    Quiet c l := by
  cases h with
  | still => exact .still
  | programs control slot wide mode divided steady =>
    exact .programs control slot wide mode divided steady
  | quiesces idle => exact .quiesces (k.active ▸ idle)

omit [Hardware H] in
theorem writeProperty_keeps (c : Controller H) (value : PropertyValue) :
    (c.writeProperty value).2.bus = c.bus ∧ c.Keeps (c.writeProperty value).2 := by
  unfold writeProperty
  split
  · exact ⟨rfl, .refl c⟩
  · split
    · exact ⟨rfl, .refl c⟩
    · exact ⟨rfl, rfl, rfl, rfl, rfl, rfl⟩

omit [Hardware H] in
theorem readProperty_keeps (c : Controller H) (p : Property) :
    (c.readProperty p).2.bus = c.bus ∧ c.Keeps (c.readProperty p).2 := by
  unfold readProperty
  split
  · exact ⟨rfl, .refl c⟩
  · dsimp only
    split
    · exact ⟨rfl, rfl, rfl, rfl, rfl, rfl⟩
    · exact ⟨rfl, .refl c⟩

omit [Hardware H] in
theorem writeProperty_attached {c : Controller H} (attached : c.detached = false)
    {value : PropertyValue} {host : HostSettings} : c.host.set? value = some host →
      c.writeProperty value = (.ok (), { c with
        host
        clockRequest := match value with
          | .clock hz => hz
          | _ => c.clockRequest }) := by
  intro stores
  unfold writeProperty
  rw [if_neg (by rw [attached]; decide)]
  generalize c.host.set? value = stored at stores
  subst stores
  rfl

omit [Hardware H] in
def ask (c : Controller H) (clock : UInt32) (width : BusWidth) : Controller H :=
  { c with host.bus := { c.host.bus with clock, width }, clockRequest := clock }

theorem update_attached {c : Controller H} (attached : c.detached = false) :
    c.update = (.ok c.applySettings.host.bus, c.applySettings) := by
  rw [update, if_neg (by rw [attached]; decide)]

theorem setTiming_attached {c : Controller H} (attached : c.detached = false) (clock : UInt32)
    (width : BusWidth) : c.setTiming clock width = (c.ask clock width).update := by
  let clocked : Controller H := { c with host.bus.clock := clock, clockRequest := clock }
  have hclock : c.writeProperty (.clock clock) = (.ok (), clocked) :=
    writeProperty_attached attached rfl
  have hwidth : clocked.writeProperty (.busWidth width) = (.ok (), c.ask clock width) :=
    writeProperty_attached (c := clocked) attached rfl
  rw [setTiming, hclock]
  dsimp only
  rw [hwidth]

theorem setTiming_eq (c : Controller H) (clock : UInt32) (width : BusWidth) :
    c.setTiming clock width =
      if c.detached then (.error .detached, c) else (c.ask clock width).update := by
  cases hd : c.detached with
  | true =>
    have hwrite : c.writeProperty (.clock clock) = (.error .detached, c) := if_pos hd
    rw [setTiming, hwrite, if_pos rfl]
  | false => rw [setTiming_attached hd, if_neg (by decide)]

omit [Hardware H] in
theorem ask_keeps (c : Controller H) (clock : UInt32) (width : BusWidth) :
    (c.ask clock width).bus = c.bus ∧ c.Keeps (c.ask clock width) := ⟨rfl, rfl, rfl, rfl, rfl, rfl⟩

theorem plan_steady (plan : Clock.Plan) :
    anyBit (match plan with
      | .stopped => Control.off
      | .running _ _ => Control.on ||| Control.powerSave) Control.softReset = false := by
  cases plan with
  | stopped => decide
  | running => exact (by decide : anyBit (Control.on ||| Control.powerSave) Control.softReset = false)

theorem applySettings_eq (c : Controller H) :
    ∃ control slot wide mode divided, anyBit control Control.softReset = false ∧
      Performs c.bus (programming control slot wide mode divided) c.applySettings.bus ∧
      c.Keeps c.applySettings := by
  exact ⟨_, _, _, _, _, plan_steady (Clock.plan c.clockRequest c.board.masterClock c.options.overclock),
    .write _ _ (.read _ (.write _ _ (.read _ (.write _ _ (.done _))))), rfl, rfl, rfl, rfl, rfl⟩

theorem update_keeps (c : Controller H) :
    ∃ l, Quiet c l ∧ Performs c.bus l c.update.2.bus ∧ c.Keeps c.update.2 := by
  unfold update
  split
  · exact ⟨[], .still, .done _, .refl c⟩
  · obtain ⟨control, slot, wide, mode, divided, steady, hp, hk⟩ := c.applySettings_eq
    exact ⟨_, .programs control slot wide mode divided steady, hp, hk⟩

theorem setTiming_keeps (c : Controller H) (clock : UInt32) (width : BusWidth) :
    ∃ l, Quiet c l ∧ Performs c.bus l (c.setTiming clock width).2.bus ∧
      c.Keeps (c.setTiming clock width).2 := by
  obtain ⟨-, asks⟩ := c.ask_keeps clock width
  rw [setTiming_eq]
  split
  · exact ⟨[], .still, .done _, .refl c⟩
  · obtain ⟨l, hq, hp, updates⟩ := (c.ask clock width).update_keeps
    exact ⟨l, hq.keeps asks, hp, asks.trans updates⟩

theorem detach_keeps (c : Controller H) :
    ∃ l, Quiet c l ∧ Performs c.bus l c.detach.2.bus ∧ c.Keeps c.detach.2 := by
  unfold detach
  split
  · exact ⟨[], .still, .done _, .refl c⟩
  · split
    · exact ⟨[], .still, .done _, .refl c⟩
    · next hb =>
      have idle : c.active = none := by simpa [busy] using hb
      rw [writeAll_eq]
      exact ⟨_, .quiesces idle, performs_writeAll c.bus quiesce, rfl, rfl, rfl, rfl, rfl⟩

omit [Hardware H] in
theorem acquire_keeps (c : Controller H) :
    (c.acquire?.getD c).bus = c.bus ∧ c.Keeps (c.acquire?.getD c) := by
  unfold acquire?
  split
  · exact ⟨rfl, .refl c⟩
  · exact ⟨rfl, rfl, rfl, rfl, rfl, rfl⟩

theorem perform_quiet (c : Controller H) {operation : Operation} (h : operation.isQuiet = true) :
    ∃ c' l, (c.perform operation).2 = .whole c' ∧ Quiet c l ∧ Performs c.bus l c'.bus ∧
      c.Keeps c' ∧ (c.perform operation).1 ≠ .gone := by
  cases operation with
  | submit | interrupt | poll | drop | takeApart => cases h
  | readProperty p =>
    obtain ⟨hb, hk⟩ := c.readProperty_keeps p
    exact ⟨_, [], rfl, .still, by rw [hb]; exact .done _, hk, nofun⟩
  | writeProperty value =>
    obtain ⟨hb, hk⟩ := c.writeProperty_keeps value
    exact ⟨_, [], rfl, .still, by rw [hb]; exact .done _, hk, nofun⟩
  | setOptions options => exact ⟨_, [], rfl, .still, .done _, ⟨rfl, rfl, rfl, rfl, rfl⟩, nofun⟩
  | update =>
    obtain ⟨l, hq, hp, hk⟩ := c.update_keeps
    exact ⟨_, l, rfl, hq, hp, hk, nofun⟩
  | setTiming clock width =>
    obtain ⟨l, hq, hp, hk⟩ := c.setTiming_keeps clock width
    exact ⟨_, l, rfl, hq, hp, hk, nofun⟩
  | isBusy => exact ⟨_, [], rfl, .still, .done _, .refl c, nofun⟩
  | countMappings => exact ⟨_, [], rfl, .still, .done _, .refl c, nofun⟩
  | readSettings => exact ⟨_, [], rfl, .still, .done _, .refl c, nofun⟩
  | acquire =>
    obtain ⟨hb, hk⟩ := c.acquire_keeps
    exact ⟨_, [], rfl, .still, by rw [hb]; exact .done _, hk, nofun⟩
  | release => exact ⟨_, [], rfl, .still, .done _, ⟨rfl, rfl, rfl, rfl, rfl⟩, nofun⟩
  | detach =>
    obtain ⟨l, hq, hp, hk⟩ := c.detach_keeps
    exact ⟨_, l, rfl, hq, hp, hk, nofun⟩

theorem step_submit (c : Controller H) (request : Request Bytes) :
    ((System.whole c).step (.submit request)).2 = .whole (c.submit request).2 := by
  simp only [System.step, Controller.perform]
  rcases c.submit request with ⟨_ | _, _⟩ <;> rfl

theorem step_quiet {c c' : Controller H} {operation : Operation} (quiet : operation.isQuiet = true)
    (hs : ((System.whole c).step operation).2 = .whole c') :
    ∃ l, Quiet c l ∧ Performs c.bus l c'.bus ∧ c.Keeps c' := by
  have handle : ∀ n, operation ≠ .poll n ∧ operation ≠ .drop n := by
    intro n
    constructor <;> rintro rfl <;> simp [Operation.isQuiet] at quiet
  obtain ⟨c'', l, hc'', hq, hp, hk, -⟩ := c.perform_quiet quiet
  rw [System.step_whole c handle, hc''] at hs
  cases hs
  exact ⟨l, hq, hp, hk⟩

end Controller

end CardHost
