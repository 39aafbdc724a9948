import CardHost.Hardware.Scripted
import CardHost.Proofs.FailedStops
import CardHost.Proofs.Resemblance
import CardHost.Proofs.Serially

namespace CardHost

open Bus

def shifted (first count n : Nat) : Nat := if n < first then n else n + count

theorem shifted_injective {first count n m : Nat} (h : shifted first count n = shifted first count m) :
    n = m := by
  unfold shifted at h
  split at h <;> split at h <;> omega

theorem shifted_of_lt {first count n : Nat} (h : n < first) : shifted first count n = n := if_pos h

theorem shifted_of_le {first count n : Nat} (h : first ≤ n) : shifted first count n = n + count :=
  if_neg (Nat.not_lt_of_le h)

theorem shifted_lt {first count n : Nat} : shifted first count n < first + count ↔ n < first := by
  unfold shifted
  split <;> omega

theorem shifted_ne (first n : Nat) : shifted first 1 n ≠ first := by
  unfold shifted
  split <;> omega

def closedUp (first n : Nat) : Nat := if n < first then n else n - 1

theorem shifted_closedUp {first n : Nat} (other : n ≠ first) : shifted first 1 (closedUp first n) = n := by
  by_cases below : n < first
  · rw [closedUp, if_pos below, shifted_of_lt below]
  · rw [closedUp, if_neg below, shifted_of_le (by omega)]
    omega

def Renumbering.making (tickets count buffers : Nat) (bounce : BufferId) (there : bounce < buffers) :
    Renumbering where
  buffer := shifted buffers count
  ticket := shifted tickets 1
  bounce
  fixed := shifted_of_lt there
  buffer_injective _ _ := shifted_injective
  ticket_injective _ _ := shifted_injective

theorem Memory.get_beyond {m : Memory} {id : BufferId} (beyond : m.buffers.size ≤ id) : m.get id = [] := by
  rw [get, Array.getElem?_eq_none beyond, Option.getD_none]

section Making

variable {tickets tickets' : Array Ticket} {m m' : Memory} {bounce count n : Nat}

theorem Memory.Doubles.making (there : bounce < m.buffers.size)
    (size : m'.buffers.size = m.buffers.size + count)
    (length : (m'.get bounce).length = (m.get bounce).length)
    (others : ∀ id < m.buffers.size, id ≠ bounce → m'.get id = m.get id) :
    m.Doubles (.making n count m.buffers.size bounce there) m' := by
  refine ⟨fun id hid => ?_, length, there, fun id => ?_, fun i => ?_⟩
  · obtain old | new := Nat.lt_or_ge id m.buffers.size
    · rw [show (Renumbering.making n count m.buffers.size bounce there).buffer id = id from
        shifted_of_lt old, others id old hid]
    · rw [show (Renumbering.making n count m.buffers.size bounce there).buffer id = id + count from
        shifted_of_le new, m.get_beyond new, m'.get_beyond (by omega)]
  · rw [size]
    exact shifted_lt
  · change shifted m.buffers.size count _ = _
    rw [shifted_of_le (Nat.le_add_right _ _), size]
    omega

theorem Tickets.Doubles.making (there : bounce < m.buffers.size) (size : tickets'.size = tickets.size + 1)
    (others : ∀ n < tickets.size, tickets'[n]? = tickets[n]?)
    (own : ∀ (n : Nat) (r : Request BufferId), tickets[n]? = some (.ready r) →
      ∀ id ∈ r.buffers, id < m.buffers.size) :
    Tickets.Doubles (.making tickets.size count m.buffers.size bounce there) tickets tickets' := by
  refine ⟨fun n => ?_, fun i => ?_⟩
  · change tickets'[shifted tickets.size 1 n]? = tickets[n]?.map (Ticket.map (shifted m.buffers.size count))
    obtain old | new := Nat.lt_or_ge n tickets.size
    · rw [shifted_of_lt old, others n old]
      cases ht : tickets[n]? with
      | none => rfl
      | some ticket =>
        cases ticket with
        | ready r =>
          have same : r.map (shifted m.buffers.size count) = r :=
            (Request.map_congr fun id hid => shifted_of_lt (own n r ht id hid)).trans r.map_id
          rw [Option.map_some, Ticket.map, same]
        | _ => rfl
    · rw [shifted_of_le new, Array.getElem?_eq_none new, Array.getElem?_eq_none (by omega), Option.map_none]
  · change shifted tickets.size 1 _ = _
    rw [shifted_of_le (Nat.le_add_right _ _), size]
    omega

end Making

theorem delivered_new {tickets : Array Ticket} {a : Active} (new : a.ticket = tickets.size) (ticket : Ticket) :
    (delivered (tickets.push ticket) a).size = tickets.size + 1 ∧
      ∀ n < tickets.size, (delivered (tickets.push ticket) a)[n]? = tickets[n]? := by
  refine ⟨?_, fun n old => ?_⟩
  · rw [delivered, Array.size_modify, Array.size_push]
  · rw [delivered, Array.getElem?_modify, if_neg (by omega), Array.getElem?_push, if_neg (by omega)]

namespace Controller

variable {c : Controller Simulator}

theorem submit_failed_simulated (there : c.bounce < c.bus.memory.buffers.size) (attached : c.detached = false)
    (idle : c.active = none) {request : Request Bytes}
    (fails : (c.take request).Unmappable (c.accepted request).request.command) :
    ∃ length memory tickets failNextLoad,
      (c.submit request).2 = { c with
        bus := { c.bus with hardware := { c.bus.hardware.prepared length with failNextLoad }, memory }
        tickets } ∧
      (failNextLoad = true → c.bus.hardware.failNextLoad = true) ∧
      c.bus.memory.buffers.size ≤ memory.buffers.size ∧
      (memory.get c.bounce).length = (c.bus.memory.get c.bounce).length ∧
      (∀ id < c.bus.memory.buffers.size, id ≠ c.bounce → memory.get id = c.bus.memory.get id) ∧
      tickets.size = c.tickets.size + 1 ∧ ∀ n < c.tickets.size, tickets[n]? = c.tickets[n]? := by
  obtain ⟨data, e, hd, transfers, refused⟩ := fails
  obtain ⟨memory, alike, others, launches⟩ :=
    launch_failed_simulated (c := c.take request) rfl rfl hd transfers refused
  have extended := c.bus.memory.place_extends request
  refine ⟨((c.take request).buffer data.buffer).length, memory,
    delivered (c.take request).tickets
      ((c.accepted request).replace (unmapped (c.accepted request).request.command)),
    c.bus.hardware.failNextLoad && decide (0 < c.mapped ∨ (c.take request).overlong data),
    ?_, ?_, ?_, ?_, ?_, ?_⟩
  · rw [submit_idle attached idle, launches, ← idle]
    rfl
  · exact fun spent => (Bool.and_eq_true_iff.mp spent).1
  · exact Nat.le_trans extended.1 (Nat.le_of_eq alike.1.symm)
  · rw [alike.2, show (c.take request).bus.memory.get c.bounce = _ from extended.2 _ there]
  · exact fun id old other => (others id other).trans (extended.2 id old)
  · exact delivered_new (Active.ticket_replace _ _) .waiting

/-- A controller to which a request was never submitted, and one that the request has failed on, but that a forced
failure of the engine is used up for both. -/
theorem Doubles.without (there : c.bounce < c.bus.memory.buffers.size)
    (ready : ∀ (n : Nat) (r : Request BufferId), c.tickets[n]? = some (.ready r) →
      c.bounce ∉ r.buffers ∧ ∀ id ∈ r.buffers, id < c.bus.memory.buffers.size)
    (attached : c.detached = false) (idle : c.active = none) {request : Request Bytes}
    (fails : (c.take request).Unmappable (c.accepted request).request.command) :
    let failNextLoad := (c.submit request).2.bus.hardware.failNextLoad
    (failNextLoad = true → c.bus.hardware.failNextLoad = true) ∧
      ∃ N, N.ticket = shifted c.tickets.size 1 ∧ Doubles Simulator.likeness N
        { c with bus := { c.bus with hardware := { c.bus.hardware with failNextLoad } } }
        (c.submit request).2 := by
  obtain ⟨length, memory, tickets, failNextLoad, submitted, spent, size, bounce, others, new, old⟩ :=
    submit_failed_simulated there attached idle fails
  obtain ⟨count, size⟩ := Nat.exists_eq_add_of_le size
  rw [submitted]
  refine ⟨spent, .making c.tickets.size count c.bus.memory.buffers.size c.bounce there, rfl,
    ⟨?_, rfl, ⟨?_, rfl, .making there size bounce others⟩, .making there new old ?_, ?_, ?_⟩⟩
  · dsimp only
    rw [idle]
    exact ⟨_, _, rfl⟩
  · exact (Simulator.resembles_prepared _ length).change (f := fun sim => { sim with failNextLoad })
      (fun _ => rfl) fun _ => rfl
  · exact fun n r hr => (ready n r hr).2
  · rw [idle]
    rintro a ⟨⟩
  · exact fun n r hr => (ready n r hr).1

end Controller

section Besides

variable {H : Type} [Hardware H] [InterruptLine H] {L : Likeness H} {N : Renumbering} {n : Nat}

theorem Parts.Doubles.setOther {p p' : Parts H} (h : p.Doubles L N p') (other : ∀ m, N.ticket m ≠ n)
    (value : Ticket) : p.Doubles L N (p'.setTicket n value) := by
  refine ⟨h.bus, ⟨fun m => ?_, fun i => ?_⟩, h.ready⟩
  · rw [Parts.setTicket, Array.getElem?_setIfInBounds_ne (other m).symm, h.tickets.same]
  · rw [Parts.setTicket, Array.size_setIfInBounds, h.tickets.next]

theorem System.Doubles.besides {s s' : System H} (h : System.Doubles L N s s') (other : ∀ m, N.ticket m ≠ n)
    {operation : Operation} (about : operation = .poll n ∨ operation = .drop n) :
    System.Doubles L N s (s'.step operation).2 := by
  have done {p' : Parts H} (parts : s.parts.Doubles L N p') : System.Doubles L N s (s'.setParts p') := by
    have both := h.setParts parts
    rwa [System.setParts_parts] at both
  obtain rfl | rfl := about
  · simp only [System.step]
    split
    · unfold Parts.poll
      split
      · exact done h.parts
      · exact done (h.parts.setOther other .spent)
      · exact done h.parts
    · exact h
  · simp only [System.step]
    split
    · exact done (h.parts.setOther other .dropped)
    · exact h

end Besides

namespace Stimulus

def concerns (n : Nat) : Stimulus → Bool
  | operate (.poll m) | operate (.drop m) => m == n
  | _ => false

def renumber (f : Nat → Nat) : Stimulus → Stimulus
  | operate operation => operate (operation.renumber f)
  | stimulus => stimulus

def without (n : Nat) (stimulus : Stimulus) : Option Stimulus :=
  if stimulus.concerns n then none else some (stimulus.renumber (closedUp n))

theorem of_concerns {n : Nat} {stimulus : Stimulus} (about : stimulus.concerns n = true) :
    ∃ operation, stimulus = operate operation ∧ (operation = .poll n ∨ operation = .drop n) := by
  cases stimulus with
  | operate operation =>
    cases operation with
    | poll m => exact ⟨_, rfl, .inl (congrArg Operation.poll (eq_of_beq about))⟩
    | drop m => exact ⟨_, rfl, .inr (congrArg Operation.drop (eq_of_beq about))⟩
    | _ => cases about
  | _ => cases about

theorem event_renumber (stimulus : Stimulus) (f : Nat → Nat) :
    (stimulus.renumber f).event = stimulus.event.renumber f := by
  cases stimulus <;> rfl

theorem renumber_without {n : Nat} {stimulus : Stimulus} (other : stimulus.concerns n = false) :
    (stimulus.renumber (closedUp n)).renumber (shifted n 1) = stimulus := by
  have back {m : Nat} (other : (m == n) = false) : shifted n 1 (closedUp n m) = m :=
    shifted_closedUp (beq_eq_false_iff_ne.mp other)
  cases stimulus with
  | operate operation =>
    cases operation with
    | poll m => exact congrArg (fun m => operate (.poll m)) (back other)
    | drop m => exact congrArg (fun m => operate (.drop m)) (back other)
    | _ => rfl
  | _ => rfl

end Stimulus

namespace System

def responsesBesides (n : Nat) (s : System Simulator) (stimuli : List Stimulus) : List (Answer × Card) :=
  ((stimuli.zip (s.responses stimuli)).filter fun seen => !seen.1.concerns n).map (·.2)

theorem Doubles.responsesBesides {s s' : System Simulator} {N : Renumbering} {n : Nat}
    (h : Doubles Simulator.likeness N s s') (ticket : N.ticket = shifted n 1) (stimuli : List Stimulus) :
    s'.responsesBesides n stimuli = (s.responses (stimuli.filterMap (·.without n))).map fun seen =>
      (seen.1.renumber (shifted n 1), seen.2) := by
  induction stimuli generalizing s s' with
  | nil => rfl
  | cons stimulus rest ih =>
    have other (m : Nat) : N.ticket m ≠ n := ticket ▸ shifted_ne n m
    cases about : stimulus.concerns n with
    | true =>
      have skipped : s'.responsesBesides n (stimulus :: rest) =
          (s'.respond stimulus).2.responsesBesides n rest := by
        simp [System.responsesBesides, System.responses, about]
      have dropped : (stimulus :: rest).filterMap (·.without n) = rest.filterMap (·.without n) := by
        simp [Stimulus.without, about]
      rw [skipped, dropped]
      obtain ⟨operation, rfl, handle⟩ := Stimulus.of_concerns about
      exact ih (h.besides other handle)
    | false =>
      have kept : s'.responsesBesides n (stimulus :: rest) =
          ((s'.respond stimulus).1, (s'.respond stimulus).2.card) ::
            (s'.respond stimulus).2.responsesBesides n rest := by
        simp [System.responsesBesides, System.responses, about]
      have found : (stimulus :: rest).filterMap (·.without n) =
          stimulus.renumber (closedUp n) :: rest.filterMap (·.without n) := by
        simp [Stimulus.without, about]
      have met := h.meet (stimulus.renumber (closedUp n)).event (Stimulus.event_fair _)
      rw [ticket, ← Stimulus.event_renumber, Stimulus.renumber_without about, ← respond_meet, ← respond_meet]
        at met
      obtain ⟨answer, after⟩ := met
      have card : (s'.respond stimulus).2.card = (s.respond (stimulus.renumber (closedUp n))).2.card :=
        after.parts.bus.hardware.seen (f := (·.card)) fun _ => rfl
      rw [kept, found, System.responses, List.map_cons, answer, card, ih after]

end System

theorem agrees_afterStimuli (unit : UInt32) (board : Board) (options : Options) (sim : Simulator)
    (stimuli : List Stimulus) :
    ∃ l, Agrees ((System.start unit board options sim).afterStimuli stimuli) l := by
  have steady : (System.start unit board options sim).Holds Controller.Steady :=
    ⟨Controller.attach_still unit board options sim, false, Controller.balanced_attach unit board options sim⟩
  obtain ⟨l, agrees, -⟩ := Controller.steady_unmoved.afterStimuli (.start unit board options sim) steady stimuli
  exact ⟨l, agrees⟩

theorem responsesBesides_failed (unit : UInt32) (board : Board) (options : Options) (sim : Simulator)
    (before : List Stimulus) {c : Controller Simulator}
    (reached : (System.start unit board options sim).afterStimuli before = .whole c)
    (attached : c.detached = false) (idle : c.active = none) {request : Request Bytes}
    (fails : (c.take request).Unmappable (c.accepted request).request.command) :
    let failNextLoad := (c.submit request).2.bus.hardware.failNextLoad
    (failNextLoad = true → c.bus.hardware.failNextLoad = true) ∧
      ∀ later, (System.whole (c.submit request).2).responsesBesides c.tickets.size later =
        (((System.whole c).adjust fun sim => { sim with failNextLoad }).responses
          (later.filterMap (·.without c.tickets.size))).map fun seen =>
            (seen.1.renumber (shifted c.tickets.size 1), seen.2) := by
  have happened := System.afterStimuli_events (System.start unit board options sim) before
  rw [reached] at happened
  have itself := System.doubles_reached (L := Simulator.likeness) Simulator.Resembles.refl unit board options sim
    (fun change struck => by
      obtain ⟨stimulus, -, event⟩ := List.mem_map.mp struck
      exact stimulus.event_fair change event) happened.symm
  obtain ⟨l, agrees⟩ := agrees_afterStimuli unit board options sim before
  rw [reached] at agrees
  obtain ⟨spent, N, ticket, doubles⟩ := Controller.Doubles.without itself.bus.memory.there
    (fun n r hr => ⟨itself.ready n r hr, fun id hid => (agrees.ready_own hr id hid).1⟩) attached idle fails
  exact ⟨spent, (System.Doubles.whole doubles).responsesBesides ticket⟩

structure Controller.Fruitless {H : Type} (c c' : Controller (Recorder H)) : Prop where
  setup : ∃ l, c'.bus.hardware.log.toList = c.bus.hardware.log.toList ++ l ∧ l.all Access.prepares = true
  mapped : c'.mapped = c.mapped
  idle : c'.active = none

/-- A transfer that cannot be set up leaves nothing behind, whatever the hardware does. If it is that of a command,
the request is over when it is accepted, and only the command tells of it. If it is that of a stop, the request is
over at the interrupt that comes to it, and only the stop tells of it. On the simulator all goes on as if a request
that failed so had never been submitted, except that a forced failure is used up. -/
theorem failed_setups_are_clean {H : Type} [Hardware H] (unit : UInt32) (board : Board) (options : Options)
    (hardware : H) (run : List ((H → H) × Operation)) {c : Controller (Recorder H)}
    (reached : (System.start unit board options ({ inner := hardware } : Recorder H)).afterProds run = .whole c)
    (attached : c.detached = false) (idle : c.active = none) (request : Request Bytes) :
    ((c.take request).Obstructed (c.accepted request).request.command →
      (c.submit request).1 = .ok c.tickets.size ∧ c.Fruitless (c.submit request).2 ∧
        ((c.submit request).2.toParts.poll c.tickets.size).1 =
          .ok (some { request with command := request.command.unsent })) ∧
    (∀ (handed : Command Bytes) (later : List ((H → H) × Operation)) (d : Controller (Recorder H)) (a : Active),
      request.stop = some handed → (System.whole (c.submit request).2).afterProds later = .whole d →
      d.active = some a → a.ticket = c.tickets.size → a.phase = .command →
      anyBit d.observed (Status.errors ||| Status.commandReady) = true →
      ∃ stop primary last mid, d.ComesToStop a stop primary last mid ∧ stop.map mid.buffer = handed ∧
        (mid.Obstructed stop → mid.Fruitless d.interrupt ∧
          (d.toParts.held c.tickets.size = true → (d.interrupt.toParts.poll c.tickets.size).1 =
            .ok (some ⟨last.map d.interrupt.buffer, some handed.unsent⟩)) ∧
          ((∀ m, mid.bus.mapping = some m → m.buffer ∉ last.buffers) →
            last.map d.interrupt.buffer = last.map mid.buffer))) ∧
    ∀ (sim : Simulator) (before : List Stimulus) (c : Controller Simulator),
      (System.start unit board options sim).afterStimuli before = .whole c → c.detached = false →
      c.active = none → (c.take request).Obstructed (c.accepted request).request.command →
      let failNextLoad := (c.submit request).2.bus.hardware.failNextLoad
      (failNextLoad = true → c.bus.hardware.failNextLoad = true) ∧
        ∀ later, (System.whole (c.submit request).2).responsesBesides c.tickets.size later =
          (((System.whole c).adjust fun sim => { sim with failNextLoad }).responses
            (later.filterMap (·.without c.tickets.size))).map fun seen =>
              (seen.1.renumber (shifted c.tickets.size 1), seen.2) := by
  have contained : c.Contained := by
    have holds := Controller.contained_enduring.afterProds (.start unit board options _)
      (Controller.contained_attach unit board options ({ inner := hardware } : Recorder H)) run
    rwa [reached] at holds
  obtain ⟨l, agrees⟩ := System.agrees_afterProds
    (.start unit board options ({ inner := hardware } : Recorder H)) run
  rw [reached] at agrees
  refine ⟨fun obstructed => ?_, fun handed later d a hstop after ha hn first ending => ?_,
    fun sim before c reached attached idle obstructed => ?_⟩
  · obtain ⟨c', setup, submitted, performs, prepares, mapped, ended, answer⟩ :=
      Controller.submit_failed contained attached idle (obstructed.unmappable rfl rfl)
    have logged := Recorder.log_performs performs
    rw [submitted]
    exact ⟨rfl, ⟨⟨setup, logged, prepares⟩, mapped, ended⟩, answer⟩
  · obtain ⟨submitted, -, -, agreesSubmitted, -⟩ := agrees.step_accounted (.submit request)
    rw [Controller.step_submit] at agreesSubmitted
    have shelved := (Controller.shelves_enduring c.tickets.size handed).afterProds agreesSubmitted
      (Controller.shelves_submit contained attached idle hstop) later
    obtain ⟨ledger, agreesAfter⟩ := System.agrees_afterProds agreesSubmitted later
    rw [after] at shelved agreesAfter
    obtain ⟨stop, primary, last, mid, comes, bytes, failed⟩ :=
      Controller.stop_failed shelved agreesAfter ha hn first ending
    refine ⟨stop, primary, last, mid, comes, bytes, fun obstructed => ?_⟩
    obtain ⟨setup, performs, prepares, mapped, ended, answer, kept⟩ := failed obstructed
    exact ⟨⟨⟨setup, Recorder.log_performs performs, prepares⟩, mapped, ended⟩, answer, kept⟩
  · exact responsesBesides_failed unit board options sim before reached attached idle
      (obstructed.unmappable rfl rfl)

def Request.longStop : Request Bytes :=
  { command := Request.stopTransmission
    stop := some { shortWrite.command with data := some ⟨Bytes.zeros 513, .write, 0⟩ } }

namespace Controller

def refusing : Controller (Recorder Scripted) :=
  attach 0 (Board.reference .sam9260) .default
    { inner := { status := Status.commandReady, nextFailure := some .exhausted } }

def refusingOnSimulator : Controller Simulator :=
  attach 0 (Board.reference .sam9260) .default
    { soc := .sam9260, card := .ofMedium (.blank 512), failNextLoad := true }

end Controller

theorem refused_read_and_long_stop_forgotten :
    Controller.refusing.Fruitless (Controller.refusing.submit .readWord).2 ∧
    ((Controller.refusing.submit .readWord).2.toParts.poll 0).1 =
      .ok (some { Request.readWord with command := Request.readWord.command.unsent }) ∧
    (∃ command handed, Request.longStop.stop = some handed ∧
      ((Controller.refusing.submit .longStop).2.interrupt.toParts.poll 0).1 =
        .ok (some ⟨command, some handed.unsent⟩)) ∧
    (Controller.refusingOnSimulator.submit .readWord).2.bus.hardware.failNextLoad = false ∧
    ∀ later, (System.whole (Controller.refusingOnSimulator.submit .readWord).2).responsesBesides 0 later =
      (((System.whole .refusingOnSimulator).adjust fun sim => { sim with failNextLoad := false }).responses
        (later.filterMap (·.without 0))).map fun seen => (seen.1.renumber (shifted 0 1), seen.2) := by
  have h := failed_setups_are_clean (c := Controller.refusing) 0 (Board.reference .sam9260) .default _ [] rfl rfl rfl
  obtain ⟨refused, -, forgotten⟩ := h .readWord
  obtain ⟨-, clean, answer⟩ := refused ⟨_, rfl, rfl, .inr (.inr ⟨.exhausted, rfl⟩)⟩
  have spent : (Controller.refusingOnSimulator.submit .readWord).2.bus.hardware.failNextLoad = false := by
    decide +kernel
  refine ⟨clean, answer, ?_, spent, ?_⟩
  · obtain ⟨-, stopped, -⟩ := h .longStop
    obtain ⟨a, ha, ticket, first⟩ : ∃ a, (Controller.refusing.submit .longStop).2.active = some a ∧
        a.ticket = 0 ∧ a.phase = .command := ⟨_, rfl, rfl, rfl⟩
    obtain ⟨stop, _, last, mid, comes, bytes, failed⟩ :=
      stopped _ [] _ a rfl rfl ha ticket first (by decide +kernel)
    have obstructed := comes.obstructed bytes rfl rfl rfl (by decide +kernel)
    exact ⟨_, _, rfl, (failed obstructed).2.1 (by decide +kernel)⟩
  · obtain ⟨-, later⟩ := forgotten _ [] .refusingOnSimulator rfl rfl rfl
      ⟨_, rfl, rfl, .inr (.inr ⟨.exhausted, rfl⟩)⟩
    rwa [spent] at later

end CardHost
