import CardHost.Hardware.Scripted
import CardHost.Proofs.Courses
import CardHost.Proofs.EngineUse

namespace CardHost

open Bus

namespace Active.Follows

variable {a : Active} {placed : Request BufferId} {launch l : List Access}
  {traces : List (List Access)}

theorem rests (h : a.Follows placed launch traces) (more : isEnding l = false) :
    a.Follows placed launch (traces ++ [l]) :=
  ⟨h.same, h.course.wait more⟩

end Active.Follows

namespace System

section Pursued

variable {H : Type}

structure Pursues (s : System H) (n : Nat) (placed : Request BufferId) (launch : List Access)
    (traces : List (List Access)) : Prop where
  old : n < s.parts.tickets.size
  wired : ∀ a, s.active? = some a → a.ticket = n → a.Follows placed launch traces
  done : ∀ result, s.parts.tickets[n]? = some (.ready result) →
    Course placed launch traces none result.outcomes

variable {s s' : System H} {n : Nat} {placed : Request BufferId} {launch l : List Access}
  {traces : List (List Access)}

theorem Pursues.keeps (h : s.Pursues n placed launch traces) (active : s'.active? = s.active?)
    (size : s'.parts.tickets.size = s.parts.tickets.size)
    (ready : ∀ result, s'.parts.tickets[n]? = some (.ready result) →
      s.parts.tickets[n]? = some (.ready result)) (more : isEnding l = false) :
    s'.Pursues n placed launch (traces ++ [l]) :=
  ⟨size ▸ h.old, fun a ha hn => (h.wired a (active ▸ ha) hn).rests more,
    fun result hr => (h.done result (ready result hr)).append [l]⟩

theorem Pursues.passes (h : s.Pursues n placed launch traces)
    (active : ∀ a, s'.active? = some a → a.ticket ≠ n)
    (size : s.parts.tickets.size ≤ s'.parts.tickets.size)
    (ready : ∀ result, s'.parts.tickets[n]? = some (.ready result) →
      s.parts.tickets[n]? = some (.ready result)) :
    s'.Pursues n placed launch (traces ++ [l]) :=
  ⟨Nat.lt_of_lt_of_le h.old size, fun a ha hn => (active a ha hn).elim,
    fun result hr => (h.done result (ready result hr)).append [l]⟩

end Pursued

variable {H : Type} [Hardware H]

def accesses (s : System (Recorder H)) (operation : Operation) : List Access :=
  (s.step operation).2.parts.bus.hardware.log.toList.drop s.parts.bus.hardware.log.size

def traces : System (Recorder H) → List ((H → H) × Operation) → List (List Access)
  | _, [] => []
  | s, (f, operation) :: rest =>
    (s.prod f).accesses operation :: ((s.prod f).step operation).2.traces rest

theorem accesses_eq {s : System (Recorder H)} {operation : Operation} {l : List Access}
    (h : s.parts.bus.Reaches l (s.step operation).2.parts.bus) : s.accesses operation = l := by
  rw [accesses, Recorder.log_reaches h, ← Array.length_toList, List.drop_left]

variable {s : System (Recorder H)} {n : Nat} {placed : Request BufferId} {launch : List Access}
  {traces : List (List Access)}

section Step

variable {c : Controller (Recorder H)}

theorem Pursues.interrupt (h : (whole c).Pursues n placed launch traces)
    (current : ∀ a, c.active = some a → a.current?.isSome = true) :
    (whole c.interrupt).Pursues n placed launch (traces ++ [(whole c).accesses .interrupt]) := by
  by_cases hd : c.detached = true
  · have hsame : c.interrupt = c := by rw [Controller.interrupt, if_pos hd]
    have hnone : (whole c).accesses .interrupt = [] := accesses_eq (by
      rw [show ((whole c).step .interrupt).2 = whole c.interrupt from rfl, hsame]
      exact (Performs.done _).reaches)
    rw [hsame, hnone]
    exact h.keeps rfl rfl (fun _ hr => hr) rfl
  have attached : c.detached = false := Bool.of_not_eq_true hd
  cases ha : c.active with
  | none =>
    obtain ⟨bus, -, he⟩ := Controller.interrupt_spurious attached
      (Controller.current?_of_idle ha)
    rw [he]
    refine h.passes (fun a ha' => ?_) (Nat.le_refl _) fun _ hr => hr
    rw [show (whole ({ c with bus } : Controller (Recorder H))).active? = c.active from rfl, ha] at ha'
    cases ha'
  | some a =>
    obtain ⟨command, hc⟩ := Option.isSome_iff_exists.mp (current a ha)
    obtain ⟨l, hp, resolves⟩ := Controller.interrupt_resolves attached ha hc
    rw [show (whole c).accesses .interrupt = _ from accesses_eq hp.reaches]
    generalize c.interrupt = c' at resolves
    obtain ⟨a', same, ⟨active, tickets, follows⟩ | ⟨active, tickets, course⟩⟩ := resolves.follows hc
    · refine ⟨?_, fun a'' ha'' hn => ?_, fun result hr => ?_⟩
      · exact (congrArg Array.size tickets) ▸ h.old
      · rw [show (whole c').active? = _ from active] at ha''
        cases ha''
        exact follows (h.wired a ha (same ▸ hn))
      · rw [show (whole c').parts.tickets = _ from tickets] at hr
        exact (h.done result hr).append [l]
    · refine ⟨?_, fun a'' ha'' hn => ?_, fun result hr => ?_⟩
      · rw [show (whole c').parts.tickets = _ from tickets, delivered, Array.size_modify]
        exact h.old
      · rw [show (whole c').active? = _ from active] at ha''
        cases ha''
      · rw [show (whole c').parts.tickets = _ from tickets] at hr
        rcases ready_delivered hr with before | ⟨hn, rfl⟩
        · exact (h.done result before).append [l]
        · exact course (h.wired a ha (same ▸ hn))

theorem Pursues.submit (h : (whole c).Pursues n placed launch traces) (request : Request Bytes) :
    (whole (c.submit request).2).Pursues n placed launch
      (traces ++ [(whole c).accesses (.submit request)]) := by
  have unchanged (hsame : (c.submit request).2 = c) :
      (whole (c.submit request).2).Pursues n placed launch
        (traces ++ [(whole c).accesses (.submit request)]) := by
    have hnone : (whole c).accesses (.submit request) = [] := accesses_eq (by
      rw [Controller.step_submit, hsame]
      exact (Performs.done _).reaches)
    rw [hsame, hnone]
    exact h.keeps rfl rfl (fun _ hr => hr) rfl
  by_cases hd : c.detached = true
  · exact unchanged (by rw [Controller.submit_eq, if_pos hd])
  cases ha : c.active with
  | some a => exact unchanged (Controller.submit_busy (by rw [ha]; nofun) request)
  | none =>
    obtain ⟨l, bus, -, hl, -⟩ := c.submit_launches (Bool.of_not_eq_true hd) ha request
    have other : (c.accepted request).ticket ≠ n := Nat.ne_of_gt h.old
    have before : (c.take request).tickets[n]? = c.tickets[n]? := by
      rw [show (c.take request).tickets = c.tickets.push .waiting from rfl, Array.getElem?_push,
        if_neg (Nat.ne_of_lt (show n < c.tickets.size from h.old))]
    have size : c.tickets.size ≤ (c.take request).tickets.size := by
      rw [show (c.take request).tickets = c.tickets.push .waiting from rfl, Array.size_push]
      exact Nat.le_succ _
    generalize (c.submit request).2 = c' at hl
    obtain ⟨-, ⟨-, tickets, command', active, -, -⟩ | ⟨-, tickets, active⟩⟩ := hl.turns rfl rfl
    · refine h.passes (fun a' ha' hn => ?_) (by rwa [← tickets] at size) fun result hr => ?_
      · rw [show (whole c').active? = _ from active] at ha'
        cases ha'
        rw [Active.ticket_replace] at hn
        exact other hn
      · rwa [show (whole c').parts.tickets = _ from tickets, before] at hr
    · refine h.passes (fun a' ha' => ?_) ?_ fun result hr => ?_
      · rw [show (whole c').active? = _ from active] at ha'
        cases ha'
      · rw [show (whole c').parts.tickets = _ from tickets, delivered, Array.size_modify]
        exact size
      · rw [show (whole c').parts.tickets = _ from tickets] at hr
        rcases ready_delivered hr with there | ⟨hn, -⟩
        · rwa [before] at there
        · rw [Active.ticket_replace] at hn
          exact (other hn).elim

theorem Pursues.takeApart (h : (whole c).Pursues n placed launch traces) :
    (apart c.takeApart : System (Recorder H)).Pursues n placed launch
      (traces ++ [(whole c).accesses .takeApart]) := by
  have size : c.tickets.size ≤ c.takeApart.tickets.size := by
    unfold Controller.takeApart
    split
    · exact Nat.le_refl _
    · exact Nat.le_of_eq Array.size_modify.symm
  refine h.passes (fun a ha => ?_) size fun _ ready => Controller.ready_takeApart ready
  cases ha

theorem Pursues.quiet {operation : Operation} (h : (whole c).Pursues n placed launch traces)
    (quiet : operation.isQuiet = true) :
    ((whole c).step operation).2.Pursues n placed launch
      (traces ++ [(whole c).accesses operation]) := by
  have handle : ∀ n, operation ≠ .poll n ∧ operation ≠ .drop n := by
    intro n
    constructor <;> rintro rfl <;> simp [Operation.isQuiet] at quiet
  obtain ⟨c', l, hc', hq, hp, hk, -⟩ := c.perform_quiet quiet
  have hstep : ((whole c).step operation).2 = whole c' := by rw [System.step_whole c handle, hc']
  have haccesses : (whole c).accesses operation = l := accesses_eq (by rw [hstep]; exact hp.reaches)
  rw [hstep, haccesses]
  refine h.keeps hk.active (congrArg Array.size hk.tickets) (fun result hr => ?_) hq.sighted
  rwa [show (whole c').parts.tickets = _ from hk.tickets] at hr

end Step

omit [Hardware H] in
theorem Pursues.setTicket (h : s.Pursues n placed launch traces) (m : Nat) {value : Ticket}
    (empty : ∀ result, value ≠ .ready result) :
    (s.setParts (s.parts.setTicket m value)).Pursues n placed launch (traces ++ [[]]) := by
  refine h.keeps (active?_setParts _ _) ?_ (fun result hr => ?_) rfl
  · rw [parts_setParts, Parts.setTicket, Array.size_setIfInBounds]
  · rw [parts_setParts] at hr
    exact ready_marked empty hr

theorem Pursues.handle (h : s.Pursues n placed launch traces) {operation : Operation}
    (handle : ∃ m, operation = .poll m ∨ operation = .drop m) :
    (s.step operation).2.Pursues n placed launch (traces ++ [s.accesses operation]) := by
  have quiet (hb : (s.step operation).2.parts.bus = s.parts.bus) : s.accesses operation = [] :=
    accesses_eq (by rw [hb]; exact (Performs.done _).reaches)
  rw [quiet (s.bus_handle handle)]
  obtain hs | ⟨m, value, empty, hs⟩ := s.step_handle handle
  · rw [hs]
    exact h.keeps rfl rfl (fun _ hr => hr) rfl
  · rw [hs]
    exact h.setTicket m empty

theorem Pursues.step {l : Ledger} (h : s.Pursues n placed launch traces) (agrees : Agrees s l)
    (operation : Operation) :
    (s.step operation).2.Pursues n placed launch (traces ++ [s.accesses operation]) := by
  by_cases handle : ∃ m, operation = .poll m ∨ operation = .drop m
  · exact h.handle handle
  cases s with
  | apart p =>
    have hs : (apart p).step operation = (.gone, apart p) := System.step_apart p fun m =>
      ⟨fun hm => handle ⟨m, .inl hm⟩, fun hm => handle ⟨m, .inr hm⟩⟩
    refine h.passes (fun a ha => ?_) ?_ fun result hr => ?_
    · rw [hs] at ha
      cases ha
    · exact Nat.le_of_eq (by rw [hs])
    · rwa [hs] at hr
  | whole c =>
    cases operation with
    | poll m => exact (handle ⟨m, .inl rfl⟩).elim
    | drop m => exact (handle ⟨m, .inr rfl⟩).elim
    | submit request =>
      rw [Controller.step_submit]
      exact Pursues.submit h request
    | interrupt => exact Pursues.interrupt h agrees.current
    | takeApart => exact Pursues.takeApart h
    | _ => exact Pursues.quiet h rfl

omit [Hardware H] in
theorem Pursues.prod (h : s.Pursues n placed launch traces) (f : H → H) :
    (s.prod f).Pursues n placed launch traces := by
  cases s <;> exact ⟨h.old, h.wired, h.done⟩

theorem Pursues.afterProds {l : Ledger} (h : s.Pursues n placed launch traces) (agrees : Agrees s l)
    (run : List ((H → H) × Operation)) :
    (s.afterProds run).Pursues n placed launch (traces ++ s.traces run) ∧
      ∃ l, Agrees (s.afterProds run) l := by
  induction run generalizing s l traces with
  | nil => exact ⟨by rwa [System.traces, List.append_nil], l, agrees⟩
  | cons move rest ih =>
    obtain ⟨f, operation⟩ := move
    have prodded := agrees_prod agrees f
    obtain ⟨l', -, -, agrees', -⟩ := prodded.step_accounted operation
    have next := ih ((h.prod f).step prodded operation) agrees'
    rwa [List.append_assoc] at next

theorem pursues_submit {request : Request Bytes}
    (accepted : (s.step (.submit request)).1 = .accepted n) :
    ∃ (placed : Request BufferId) (contents : BufferId → Bytes), placed.map contents = request ∧
      (s.step (.submit request)).2.Pursues n placed (s.accesses (.submit request)) [] := by
  cases s with
  | apart p => cases accepted
  | whole c =>
    have hsubmit : (c.submit request).1 = .ok n := by
      simp only [System.step, Controller.perform] at accepted
      rcases h : c.submit request with ⟨_ | ticket, c'⟩ <;> rw [h] at accepted <;> cases accepted
      rfl
    obtain ⟨attached, idle, rfl, -⟩ := Controller.of_accepted (Prod.ext hsubmit rfl)
    obtain ⟨l, bus, hp, hl, -⟩ := c.submit_launches attached idle request
    refine ⟨(c.accepted request).request, _, c.bus.memory.map_place request, ?_⟩
    have haccesses : (whole c).accesses (.submit request) = l := accesses_eq (by
      rw [Controller.step_submit]
      exact ⟨(c.bus.memory.place request).2, by rw [(hl.turns rfl rfl).1.symm] at hp; exact hp⟩)
    rw [Controller.step_submit, haccesses]
    generalize (c.submit request).2 = c' at hl
    -- The ticket is new: it waits for the launch, or is answered with its refusal.
    have new : (c.take request).tickets[c.tickets.size]? = some .waiting := Array.getElem?_push_size
    have size : (c.take request).tickets.size = c.tickets.size + 1 := Array.size_push _
    obtain ⟨-, ⟨wired, tickets, command', active, blank, same⟩ | ⟨silent, tickets, active⟩⟩ :=
      hl.turns rfl rfl
    · have course : Course (c.accepted request).request _ [] _ _ :=
        .waits (fun mute => wired none (mute none)) fun _ there => (List.not_mem_nil there).elim
      refine ⟨?_, fun a ha _ => ?_, fun result hr => ?_⟩
      · rw [show (whole c').parts.tickets = _ from tickets, size]
        exact Nat.lt_succ_self _
      · rw [show (whole c').active? = _ from active] at ha
        cases ha
        refine ⟨Active.blank_replace (a := c.accepted request) rfl blank, ?_⟩
        rw [Active.phase_replace, Active.outcomes_replace (a := c.accepted request) rfl same]
        exact course
      · rw [show (whole c').parts.tickets = _ from tickets, new] at hr
        cases hr
    · refine ⟨?_, fun a ha => ?_, fun result hr => ?_⟩
      · rw [show (whole c').parts.tickets = _ from tickets, delivered, Array.size_modify, size]
        exact Nat.lt_succ_self _
      · rw [show (whole c').active? = _ from active] at ha
        cases ha
      · rw [show (whole c').parts.tickets = _ from tickets] at hr
        rcases ready_delivered hr with before | ⟨-, rfl⟩
        · rw [new] at before
          cases before
        · rw [Active.outcomes_replace_command (a := c.accepted request) rfl]
          exact .refused silent

theorem of_polled {s : System H} {outcome : Option (Request Bytes)}
    (polled : (s.step (.poll n)).1 = .polled (.ok outcome)) :
    match outcome with
    | none => s.parts.tickets[n]? = some .waiting
    | some result => ∃ ready, s.parts.tickets[n]? = some (.ready ready) ∧
        ready.map s.parts.bus.memory.get = result := by
  rw [System.step] at polled
  split at polled
  · have hpoll : (s.parts.poll n).1 = .ok outcome := Answer.polled.inj polled
    unfold Parts.poll at hpoll
    split at hpoll
    · next waiting =>
      cases hpoll
      exact waiting
    · next ready hready =>
      cases hpoll
      exact ⟨ready, hready, rfl⟩
    · cases hpoll
  · cases polled

end System

/-- In every run, whatever the hardware answers and whatever happens to it, every accepted request takes its
course: each command that went over the wire ends with the first interrupt that finds an error or finds it
ready, and with no other; what that interrupt reads tells its error and its response, which were as the
client handed them in until then. The first error of the two is that of the request. -/
theorem commands_end_as_read {H : Type} [Hardware H] (unit : UInt32) (board : Board)
    (options : Options) (hardware : H) (run : List ((H → H) × Operation)) :
    let s := (System.start unit board options ({ inner := hardware } : Recorder H)).afterProds run
    ∀ request n, (s.step (.submit request)).1 = .accepted n → ∀ later,
      let s' := (s.step (.submit request)).2.afterProds later
      let course := Course request (s.accesses (.submit request))
        ((s.step (.submit request)).2.traces later)
      (∀ a, s'.active? = some a → a.ticket = n → course (some a.phase) a.request.outcomes) ∧
      ((s'.step (.poll n)).1 = .polled (.ok none) → ∃ a, s'.active? = some a ∧ a.ticket = n) ∧
      ∀ result, (s'.step (.poll n)).1 = .polled (.ok (some result)) →
        course none result.outcomes ∧ result.error = match result.command.error with
          | some e => some e
          | none => result.stop.bind (·.error) := by
  intro s request n accepted later s' course
  obtain ⟨l, agrees⟩ := System.agrees_afterProds
    (.start unit board options ({ inner := hardware } : Recorder H)) run
  obtain ⟨l', -, -, agrees', -⟩ := agrees.step_accounted (.submit request)
  obtain ⟨placed, contents, hplaced, pursues⟩ := System.pursues_submit accepted
  obtain ⟨pursued, l'', agrees''⟩ := pursues.afterProds agrees' later
  rw [List.nil_append] at pursued
  have transport {phase : Option Phase} {outcomes : Outcome × Option Outcome}
      (h : Course placed (s.accesses (.submit request))
        ((s.step (.submit request)).2.traces later) phase outcomes) : course phase outcomes := by
    have := h.of_map (f := contents)
    rwa [hplaced] at this
  refine ⟨fun a ha hn => transport (pursued.wired a ha hn).course, fun polled => ?_, fun result polled => ?_⟩
  · have waiting := System.of_polled polled
    have hticket := agrees''.ticket n
    rw [waiting] at hticket
    obtain ⟨e, entry, he⟩ := Option.map_eq_some_iff.mp hticket.symm
    refine agrees''.outstanding n e entry ?_
    unfold Entry.ticket at he
    split at he
    · cases hf : e.fate <;> rw [hf] at he <;> cases he
      rfl
    · cases he
  · obtain ⟨ready, hready, rfl⟩ := System.of_polled polled
    refine ⟨?_, ?_⟩
    · rw [Request.outcomes_map]
      exact transport (pursued.done ready hready)
    · unfold Request.error
      split <;> next h => rw [h]; rfl

def Request.inquiry : Request Bytes :=
  { command := { opcode := 41, flags := .r3, error := some .fifo, response := #v[1, 2, 3, 4] }
    stop := some Request.stopTransmission }

def threeInterrupts : List ((Scripted → Scripted) × Operation) :=
  [(id, .interrupt),
    (fun h => { h with
      status := Status.responseCrc ||| Status.responseTimeout
      registers := h.registers.set Register.response 0x80ff8000 }, .interrupt),
    (fun h => { h with status := Status.dataTimeout ||| Status.dataCrc }, .interrupt)]

def System.fresh9260 : System (Recorder Scripted) :=
  start 0 (Board.reference .sam9260) .default { inner := {} }

theorem inquiry_forgiven_and_stop_late :
    let launch := System.fresh9260.accesses (.submit .inquiry)
    let s := (System.fresh9260.step (.submit .inquiry)).2
    (System.fresh9260.step (.submit .inquiry)).1 = .accepted 0 ∧
    (∃ a, (s.afterProds (threeInterrupts.take 1)).active? = some a ∧
      Course Request.inquiry launch (s.traces (threeInterrupts.take 1)) (some a.phase)
        a.request.outcomes) ∧
    ∃ result, ((s.afterProds threeInterrupts).step (.poll 0)).1 = .polled (.ok (some result)) ∧
      result.command.outcome = ⟨none, #v[0x80ff8000, 2, 3, 4]⟩ ∧ result.error = some .timeout ∧
      Course Request.inquiry launch (s.traces threeInterrupts) none result.outcomes := by
  have h := commands_end_as_read 0 (Board.reference .sam9260) .default ({} : Scripted) [] .inquiry 0 rfl
  have early := h (threeInterrupts.take 1)
  obtain ⟨a, ha, hn⟩ := early.2.1 rfl
  refine ⟨rfl, ⟨a, ha, early.1 a ha hn⟩, _, rfl, rfl, rfl, ?_⟩
  exact ((h threeInterrupts).2.2 _ rfl).1

end CardHost
