import CardHost.Hardware.Recorder
import CardHost.Hardware.Scripted
import CardHost.Proofs.Accounts

namespace CardHost

def Answer.isError : Answer → Bool
  | rejected _ | polled (.error _) | property (.error _) | timing (.error _) | outcome (.error _) => true
  | _ => false

def Operation.refusal? : Operation → Option Answer
  | submit request => some (.rejected ⟨.detached, request⟩)
  | readProperty _ => some (.property (.error .detached))
  | writeProperty _ | detach => some (.outcome (.error .detached))
  | update | setTiming _ _ => some (.timing (.error .detached))
  | _ => none

namespace Controller

variable {H : Type} [Hardware H] {c c' : Controller H}

theorem perform_refused (detached : c.detached = true) {operation : Operation} {answer : Answer}
    (refused : operation.refusal? = some answer) : c.perform operation = (answer, .whole c) := by
  cases operation with
  | submit request =>
    cases refused
    rw [perform, submit_eq, if_pos detached]
  | readProperty p =>
    cases refused
    rw [perform, readProperty, if_pos detached]
  | writeProperty value =>
    cases refused
    have hwrite : c.writeProperty value = (.error .detached, c) := if_pos detached
    rw [perform, hwrite]
  | update =>
    cases refused
    rw [perform, update, if_pos detached]
  | setTiming clock width =>
    cases refused
    rw [perform, setTiming_eq, if_pos detached]
  | detach =>
    cases refused
    rw [perform, Controller.detach, if_pos detached]
  | _ => cases refused

theorem perform_unrefused (c : Controller H) {operation : Operation}
    (unrefused : operation.refusal? = none) : (c.perform operation).1.isError = false := by
  cases operation <;> first | rfl | cases unrefused

theorem submit_error (c : Controller H) {request : Request Bytes} {rejection : Rejection}
    (error : (c.submit request).1 = .error rejection) :
    (c.submit request).2 = c ∧ rejection.request = request := by
  rw [submit_eq] at error ⊢
  split at error
  · next detached =>
    cases error
    rw [if_pos detached]
    exact ⟨rfl, rfl⟩
  · next attached =>
    split at error
    · next busy =>
      cases error
      rw [if_neg attached, if_pos busy]
      exact ⟨rfl, rfl⟩
    · cases error

omit [Hardware H] in
theorem writeProperty_error (c : Controller H) {value : PropertyValue} {refusal : Refusal}
    (error : (c.writeProperty value).1 = .error refusal) : (c.writeProperty value).2 = c := by
  cases hd : c.detached with
  | true =>
    unfold writeProperty
    rw [if_pos hd]
  | false =>
    cases hset : c.host.set? value with
    | none =>
      unfold writeProperty
      rw [if_neg (by rw [hd]; decide), hset]
    | some host =>
      rw [writeProperty_attached hd hset] at error
      cases error

theorem detach_error (c : Controller H) {refusal : Refusal} (error : c.detach.1 = .error refusal) :
    c.detach.2 = c := by
  unfold detach at error ⊢
  split at error
  · next detached => rw [if_pos detached]
  · next attached =>
    split at error
    · next busy => rw [if_neg attached, if_pos busy]
    · cases error

theorem detach_attached (c : Controller H) (attached : c.detach.2.detached = false) :
    c.detach.2 = c := by
  unfold detach at attached ⊢
  split
  · rfl
  · next free =>
    rw [if_neg free] at attached
    split
    · rfl
    · next idle =>
      rw [if_neg idle] at attached
      cases attached

theorem perform_error (c : Controller H) {operation : Operation}
    (error : (c.perform operation).1.isError = true) : (c.perform operation).2 = .whole c := by
  cases hd : c.detached with
  | true =>
    cases hr : operation.refusal? with
    | some answer => rw [perform_refused hd hr]
    | none =>
      rw [c.perform_unrefused hr] at error
      cases error
  | false =>
    cases operation with
    | submit request =>
      rw [perform] at error ⊢
      rcases h : c.submit request with ⟨rejection | ticket, c'⟩
      · have hsame := (c.submit_error (congrArg Prod.fst h)).1
        rw [h] at hsame
        rw [← hsame]
      · rw [h] at error
        cases error
    | writeProperty value =>
      cases h : (c.writeProperty value).1 with
      | error refusal => rw [perform, c.writeProperty_error h]
      | ok =>
        rw [perform, h] at error
        cases error
    | detach =>
      cases h : c.detach.1 with
      | error refusal => rw [perform, c.detach_error h]
      | ok =>
        rw [perform, h] at error
        cases error
    | readProperty p =>
      rw [perform, readProperty, if_neg (by rw [hd]; decide)] at error
      cases error
    | update =>
      rw [perform, update_attached hd] at error
      cases error
    | setTiming clock width =>
      have asked : (c.ask clock width).detached = false := hd
      rw [perform, setTiming_attached hd, update_attached asked] at error
      cases error
    | _ => cases error

theorem detach_ok_iff (c : Controller H) :
    c.detach.1 = .ok () ↔ c.detached = false ∧ c.active = none := by
  unfold detach busy
  cases c.detached <;> cases c.active <;> simp

structure Rested (c c' : Controller H) : Prop where
  detached : c'.detached = true
  bus : c'.bus = c.bus
  host : c'.host = c.host

omit [Hardware H] in
theorem Rested.self (detached : c.detached = true) : c.Rested c := ⟨detached, rfl, rfl⟩

theorem interrupt_rested (detached : c.detached = true) : c.interrupt = c := by
  rw [interrupt, if_pos detached]

theorem Rested.perform (h : c.Rested c') {operation : Operation}
    (whole : operation ≠ .takeApart) :
    ∃ d, (c'.perform operation).2 = .whole d ∧ c.Rested d := by
  cases hr : operation.refusal? with
  | some answer =>
    rw [perform_refused h.detached hr]
    exact ⟨c', rfl, h⟩
  | none =>
    cases operation with
    | takeApart => exact absurd rfl whole
    | interrupt => exact ⟨c', congrArg System.whole (interrupt_rested h.detached), h⟩
    | acquire =>
      refine ⟨_, rfl, ?_⟩
      unfold acquire?
      split
      · exact h
      · exact ⟨h.detached, h.bus, h.host⟩
    | setOptions options => exact ⟨_, rfl, h.detached, h.bus, h.host⟩
    | release => exact ⟨_, rfl, h.detached, h.bus, h.host⟩
    | poll | drop | isBusy | countMappings | readSettings => exact ⟨_, rfl, h⟩
    | _ => cases hr

end Controller

namespace Parts

variable {H : Type}

theorem bus_poll (p : Parts H) (ticket : Nat) : (p.poll ticket).2.bus = p.bus := by
  unfold poll
  split <;> rfl

theorem poll_error (p : Parts H) {ticket : Nat} {refusal : Refusal}
    (error : (p.poll ticket).1 = .error refusal) : (p.poll ticket).2 = p := by
  unfold poll at error ⊢
  split at error
  · cases error
  · cases error
  · rfl

end Parts

namespace System

variable {H : Type} [Hardware H] {s : System H}

theorem step_error (s : System H) {operation : Operation}
    (error : (s.step operation).1.isError = true) : (s.step operation).2 = s := by
  cases operation with
  | poll ticket =>
    rw [step] at error ⊢
    split
    · next held =>
      rw [if_pos held] at error
      cases h : (s.parts.poll ticket).1 with
      | error refusal => rw [s.parts.poll_error h, setParts_parts]
      | ok =>
        rw [h] at error
        cases error
    · rfl
  | drop ticket =>
    rw [step] at error
    split at error <;> cases error
  | _ =>
    cases s with
    | apart p => cases error
    | whole c => exact c.perform_error error

def Rested (c : Controller H) (s : System H) : Prop :=
  s.parts.bus = c.bus ∧ s.Holds c.Rested

variable {c : Controller H}

omit [Hardware H] in
theorem Rested.setParts (h : Rested c s) {p : Parts H} (bus : p.bus = s.parts.bus) :
    Rested c (s.setParts p) := by
  have hbus : (s.setParts p).parts.bus = c.bus := by rw [parts_setParts, bus, h.1]
  cases s with
  | apart p' => exact ⟨hbus, trivial⟩
  | whole c' => exact ⟨hbus, h.2.detached, hbus, h.2.host⟩

theorem Rested.step (h : Rested c s) (operation : Operation) : Rested c (s.step operation).2 := by
  have perform {c' : Controller H} (h : c.Rested c') (operation : Operation)
      (other : operation ≠ .takeApart) : Rested c (c'.perform operation).2 := by
    obtain ⟨d, hd, rested⟩ := h.perform other
    rw [hd]
    exact ⟨rested.bus, rested⟩
  cases operation with
  | poll ticket =>
    rw [System.step]
    split
    · exact h.setParts (s.parts.bus_poll ticket)
    · exact h
  | drop ticket =>
    rw [System.step]
    split
    · exact h.setParts rfl
    · exact h
  | takeApart =>
    cases s with
    | apart p => exact h
    | whole c' => exact ⟨c'.bus_takeApart.trans h.1, trivial⟩
  | _ =>
    cases s with
    | apart p => exact h
    | whole c' => exact perform h.2 _ (by rintro ⟨⟩)

theorem Rested.after (h : Rested c s) (operations : List Operation) :
    Rested c (s.after operations) := by
  induction operations generalizing s with
  | nil => exact h
  | cons operation rest ih => exact ih (h.step operation)

theorem step_detach_ok_iff (s : System H) :
    (s.step .detach).1 = .outcome (.ok ()) ↔
      ∃ c, s = .whole c ∧ c.detached = false ∧ c.active = none := by
  cases s with
  | apart p =>
    constructor
    · intro h
      cases h
    · rintro ⟨c, same, -⟩
      cases same
  | whole c =>
    have hanswer : ((whole c).step .detach).1 = .outcome c.detach.1 := rfl
    simp only [hanswer, Answer.outcome.injEq, c.detach_ok_iff, whole.injEq, exists_eq_left']

end System

/-- An operation that answers an error has made no access and changed nothing, and a refused request is
handed back. A detach succeeds just while the controller is attached and has no request; from then on nothing
reaches the hardware, every other operation that could is refused, and the host settings stay, but for the
capability that the options give. -/
theorem refusals_leave_no_trace {H : Type} [Hardware H] (s : System (Recorder H)) :
    (∀ operation, (s.step operation).1.isError = true →
      (s.step operation).2 = s ∧ ∀ request, operation = .submit request →
        ∃ reason, (s.step operation).1 = .rejected ⟨reason, request⟩) ∧
    ((s.step .detach).1 = .outcome (.ok ()) ↔
      ∃ c, s = .whole c ∧ c.detached = false ∧ c.active = none) ∧
    ∀ left, s.step .detach = (.outcome (.ok ()), .whole left) → ∀ operations,
      let t := (System.whole left).after operations
      t.parts.bus = left.bus ∧
      ∀ c, t = .whole c →
        t.step .interrupt = (.silent, t) ∧
        (∀ operation answer, operation.refusal? = some answer → t.step operation = (answer, t)) ∧
        c.host = left.host ∧
        c.settings = { left.host with
          capabilities := left.host.capabilities.setFourWire c.options.fourWire } := by
  refine ⟨fun operation error => ⟨s.step_error error, ?_⟩, s.step_detach_ok_iff, ?_⟩
  · rintro request rfl
    cases s with
    | apart p => cases error
    | whole c =>
      rw [System.step, Controller.perform] at error ⊢
      rcases h : c.submit request with ⟨⟨reason, request'⟩ | ticket, c'⟩
      · obtain ⟨-, rfl⟩ := c.submit_error (congrArg Prod.fst h)
        exact ⟨reason, rfl⟩
      · rw [h] at error
        cases error
      all_goals rintro _ ⟨⟩
  · intro left hleft operations t
    obtain ⟨c₀, rfl, attached, idle⟩ := s.step_detach_ok_iff.mp (congrArg Prod.fst hleft)
    have detached : left.detached = true := by
      have hperform : (System.whole c₀).step .detach = (.outcome c₀.detach.1, .whole c₀.detach.2) := rfl
      rw [hperform] at hleft
      obtain ⟨-, same⟩ := Prod.mk.inj hleft
      rw [← System.whole.inj same, Controller.detach, if_neg (by rw [attached]; decide),
        if_neg (by rw [Controller.busy, idle]; decide)]
    have rested : System.Rested left (.whole left) := ⟨rfl, .self detached⟩
    obtain ⟨bus, holds⟩ := rested.after operations
    refine ⟨bus, fun c hc => ?_⟩
    have hrest : left.Rested c := by
      change t.Holds left.Rested at holds
      rwa [hc] at holds
    rw [hc]
    refine ⟨?_, ?_, hrest.host, ?_⟩
    · change (Answer.silent, System.whole c.interrupt) = _
      rw [Controller.interrupt_rested hrest.detached]
    · intro operation answer refused
      have handle : ∀ n, operation ≠ .poll n ∧ operation ≠ .drop n := by
        intro n
        constructor <;> rintro rfl <;> cases refused
      rw [System.step_whole c handle, Controller.perform_refused hrest.detached refused]
    · rw [Controller.settings, hrest.host]

def System.asking : System (Recorder Scripted) :=
  (start 0 (Board.reference .sam9260) .default { inner := { status := Status.commandReady } }).after
    [.submit { command := { opcode := Opcode.sendStatus } }]

theorem busy_controller_stays_attached :
    (System.asking.step .detach).1 = .outcome (.error .busy) ∧
      (System.asking.step .detach).2 = System.asking ∧
      ∃ left, (System.asking.after [.interrupt]).step .detach = (.outcome (.ok ()), .whole left) ∧
        ((System.whole left).after [.interrupt, .update]).parts.bus = left.bus ∧
        (((System.whole left).after [.interrupt, .update]).step (.setTiming 400000 .four)).1 =
          .timing (.error .detached) := by
  have refused : (System.asking.step .detach).1 = .outcome (.error .busy) := rfl
  obtain ⟨same, -⟩ := (refusals_leave_no_trace System.asking).1 .detach rfl
  have h := (refusals_leave_no_trace (System.asking.after [.interrupt])).2.2 _ rfl [.interrupt, .update]
  refine ⟨refused, same, _, rfl, h.1, ?_⟩
  exact congrArg Prod.fst ((h.2 _ rfl).2.1 (.setTiming 400000 .four) _ rfl)

end CardHost
