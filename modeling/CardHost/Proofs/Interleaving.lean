import CardHost.Proofs.Guises
import CardHost.Proofs.Serially

namespace CardHost

open Controller

def Operation.isTraffic : Operation → Bool
  | submit _ | interrupt | poll _ | drop _ | readProperty _ | isBusy | countMappings | readSettings => true
  | _ => false

structure Exchange where
  operation : Operation
  answer : Answer

namespace Exchange

def accepted? : Exchange → Option (Nat × Request Bytes)
  | ⟨.submit request, .accepted ticket⟩ => some (ticket, request)
  | _ => none

def yielded? : Exchange → Option (Nat × Request Bytes)
  | ⟨.poll ticket, .polled (.ok (some result))⟩ => some (ticket, result)
  | _ => none

end Exchange

namespace System

variable {H : Type} [Hardware H]

def exchanges : System H → List Operation → List Exchange
  | _, [] => []
  | s, operation :: rest => ⟨operation, (s.step operation).1⟩ :: (s.step operation).2.exchanges rest

end System

def acceptances (history : List Exchange) : List (Nat × Request Bytes) :=
  history.filterMap Exchange.accepted?

def handouts (history : List Exchange) : List (Nat × Request Bytes) :=
  history.filterMap Exchange.yielded?

theorem acceptances_append (history : List Exchange) (e : Exchange) :
    acceptances (history ++ [e]) = acceptances history ++ e.accepted?.toList := by
  rw [acceptances, List.filterMap_append, List.filterMap_cons]
  cases e.accepted? <;> rfl

theorem handouts_append (history : List Exchange) (e : Exchange) :
    handouts (history ++ [e]) = handouts history ++ e.yielded?.toList := by
  rw [handouts, List.filterMap_append, List.filterMap_cons]
  cases e.yielded? <;> rfl

def requests (history : List Exchange) : List (Request Bytes) := (acceptances history).map (·.2)

namespace Controller

section Under

variable {H : Type} (c : Controller H) (g : Guise)

theorem setTicket_under (n : Nat) (mark : Mark) :
    { c.under g with toParts := (c.under g).toParts.setTicket n mark.ticket } =
      c.under (g.marked n mark) := by
  rw [under, under, g.tickets_marked]
  rfl

theorem ready_under {n : Nat} {result : Request BufferId}
    (ready : (c.under g).tickets[n]? = some (.ready result)) :
    c.tickets[n]? = some (.ready result) ∧ g.mark? n = none := by
  rw [show (c.under g).tickets[n]? = _ from g.getElem?_tickets c.tickets n] at ready
  obtain ⟨ticket, hticket, hready⟩ := Option.map_eq_some_iff.mp ready
  rw [Guise.ticket] at hready
  cases hmark : g.mark? n with
  | none =>
    rw [hmark] at hready
    exact ⟨hticket.trans (congrArg some hready), rfl⟩
  | some mark =>
    rw [hmark] at hready
    cases mark <;> cases hready

theorem held_under {n : Nat} (held : (c.under g).toParts.held n = true) : n < c.tickets.size := by
  refine Nat.lt_of_not_le fun beyond => ?_
  have none_there : (c.under g).toParts.tickets[n]? = none := by
    refine Array.getElem?_eq_none ?_
    rwa [show (c.under g).toParts.tickets.size = _ from g.size_tickets c.tickets]
  rw [Parts.held, none_there] at held
  cases held

theorem readProperty_under (attached : c.detached = false) (p : Property) :
    ∃ capabilities?, ((c.under g).readProperty p).2 = c.under { g with capabilities? } := by
  have hd : ¬ (c.under g).detached = true := by
    rw [show (c.under g).detached = _ from attached]
    decide
  rw [readProperty, if_neg hd]
  by_cases hp : p = .capabilities
  · simp only [hp, if_true]
    exact ⟨some (c.under g).settings.capabilities, rfl⟩
  · simp only [hp, if_false]
    exact ⟨g.capabilities?, rfl⟩

end Under

variable {core core' : Controller Simulator} {g g' : Guise} {limit : Nat} {start : Controller Simulator}
  {history : List Exchange} {e : Exchange}

/-- What a run so far says of a controller: it works off the requests that were accepted, in turn, and its
clients have it before them in the guise that they have made of it. -/
structure Interleaved (limit : Nat) (start : Controller Simulator) (history : List Exchange)
    (core : Controller Simulator) (g : Guise) : Prop where
  turn : InTurn limit start (requests history) core
  numbers : (acceptances history).map (·.1) = List.range' start.tickets.size (acceptances history).length
  submits : ∀ request answer, ⟨.submit request, answer⟩ ∈ history →
    (∃ ticket, answer = .accepted ticket) ∨ answer = .rejected ⟨.busy, request⟩
  fresh : ∀ n, core.tickets.size ≤ n → g.mark? n = none
  taken : ∀ n, g.mark? n = some .taken → n ∈ (handouts history).map (·.1)
  dropped : ∀ n, g.mark? n = some .dropped → ⟨.drop n, .silent⟩ ∈ history
  marked : ∀ n ∈ (handouts history).map (·.1), g.mark? n ≠ none
  once : ((handouts history).map (·.1)).Nodup
  results : ∀ i result, (start.tickets.size + i, result) ∈ handouts history →
    i < (requests history).length ∧
      ((start.serially limit ((requests history).take (i + 1))).toParts.poll
        (start.tickets.size + i)).1 = .ok (some result)

namespace Interleaved

theorem goesOn (h : Interleaved limit start history core g)
    (turn : InTurn limit start (requests history) core') (size : core'.tickets.size = core.tickets.size)
    (accepts : e.accepted? = none) (yields : e.yielded? = none)
    (rejects : ∀ request, e.operation = .submit request → e.answer = .rejected ⟨.busy, request⟩)
    (capabilities? : Option Capabilities) :
    Interleaved limit start (history ++ [e]) core' { g with capabilities? } := by
  have haccepted : acceptances (history ++ [e]) = acceptances history := by
    rw [acceptances_append, accepts, Option.toList_none, List.append_nil]
  have hyielded : handouts (history ++ [e]) = handouts history := by
    rw [handouts_append, yields, Option.toList_none, List.append_nil]
  have hrequests : requests (history ++ [e]) = requests history := by rw [requests, haccepted, requests]
  constructor
  case turn => rwa [hrequests]
  case numbers =>
    rw [haccepted]
    exact h.numbers
  case submits =>
    intro request answer hmem
    rcases List.mem_append.mp hmem with before | last
    · exact h.submits request answer before
    · cases List.mem_singleton.mp last
      exact .inr (rejects request rfl)
  case fresh => exact fun n hn => h.fresh n (size ▸ hn)
  case dropped => exact fun n hn => List.mem_append_left _ (h.dropped n hn)
  all_goals rw [hyielded]
  case taken => exact h.taken
  case marked => exact h.marked
  case once => exact h.once
  case results =>
    rw [hrequests]
    exact h.results

theorem accept (h : Interleaved limit start history core g) (enough : mostCalls ≤ limit)
    (idle : core.active = none) (request : Request Bytes) :
    Interleaved limit start (history ++ [⟨.submit request, .accepted core.tickets.size⟩])
      (core.submit request).2 g := by
  have haccepted : acceptances (history ++ [⟨.submit request, .accepted core.tickets.size⟩]) =
      acceptances history ++ [(core.tickets.size, request)] := acceptances_append history _
  have hyielded : handouts (history ++ [⟨.submit request, .accepted core.tickets.size⟩]) =
      handouts history := (handouts_append history _).trans (List.append_nil _)
  have hrequests : requests (history ++ [⟨.submit request, .accepted core.tickets.size⟩]) =
      requests history ++ [request] := by rw [requests, haccepted, List.map_append]; rfl
  have hlength : (requests history).length = (acceptances history).length := List.length_map _
  have turn := h.turn.submit enough idle request
  constructor
  case turn => rwa [hrequests]
  case numbers =>
    rw [haccepted, List.map_append, h.numbers, List.length_append, List.length_singleton,
      List.range'_concat, h.turn.size, hlength, Nat.one_mul]
    rfl
  case submits =>
    intro request' answer hmem
    rcases List.mem_append.mp hmem with before | last
    · exact h.submits request' answer before
    · cases List.mem_singleton.mp last
      exact .inl ⟨_, rfl⟩
  case fresh =>
    intro n hn
    apply h.fresh
    rw [turn.size, List.length_append] at hn
    rw [h.turn.size]
    omega
  case dropped => exact fun n hn => List.mem_append_left _ (h.dropped n hn)
  all_goals rw [hyielded]
  case taken => exact h.taken
  case marked => exact h.marked
  case once => exact h.once
  case results =>
    intro i result hmem
    obtain ⟨hi, hpoll⟩ := h.results i result hmem
    rw [hrequests, List.length_append, List.take_append_of_le_length hi]
    exact ⟨Nat.lt_add_right _ hi, hpoll⟩

theorem fresh_marked (h : Interleaved limit start history core g) {n : Nat} (there : n < core.tickets.size)
    (mark : Mark) {m : Nat} (beyond : core.tickets.size ≤ m) : (g.marked n mark).mark? m = none := by
  rw [g.mark?_marked, if_neg (Nat.ne_of_lt (Nat.lt_of_lt_of_le there beyond))]
  exact h.fresh m beyond

theorem drop (h : Interleaved limit start history core g) {n : Nat} (there : n < core.tickets.size)
    (dropped : ⟨.drop n, .silent⟩ ∈ history) :
    Interleaved limit start history core (g.marked n .dropped) := by
  constructor
  case turn => exact h.turn
  case numbers => exact h.numbers
  case submits => exact h.submits
  case once => exact h.once
  case results => exact h.results
  case fresh => exact fun m => h.fresh_marked there .dropped
  case taken =>
    intro m hm
    rw [g.mark?_marked] at hm
    split at hm
    · cases hm
    · exact h.taken m hm
  case dropped =>
    intro m hm
    rw [g.mark?_marked] at hm
    split at hm
    · next same => exact same ▸ dropped
    · exact h.dropped m hm
  case marked =>
    intro m hm
    rw [g.mark?_marked]
    split
    · nofun
    · exact h.marked m hm

theorem polled_in_turn (h : Interleaved limit start history core g) {i : Nat} {result : Request BufferId}
    (ready : core.tickets[start.tickets.size + i]? = some (.ready result)) :
    i < (requests history).length ∧
      ((start.serially limit ((requests history).take (i + 1))).toParts.poll (start.tickets.size + i)).1 =
        .ok (some (result.map core.bus.memory.get)) := by
  have there : start.tickets.size + i < core.tickets.size := (Array.getElem?_eq_some_iff.mp ready).1
  rw [h.turn.size] at there
  have hi : i < (requests history).length := Nat.lt_of_add_lt_add_left there
  refine ⟨hi, ?_⟩
  rcases h.turn.each i hi with pending | ⟨found, recorded⟩
  · rw [pending.waiting] at ready
    cases ready
  · have same : found = result := by
      have hready := recorded.ready
      rw [ready] at hready
      cases hready
      rfl
    rw [recorded.polled, same]

theorem take (h : Interleaved limit start history core g) {n : Nat} {result : Request BufferId}
    (ready : core.tickets[n]? = some (.ready result)) (unmarked : g.mark? n = none) :
    Interleaved limit start
      (history ++ [⟨.poll n, .polled (.ok (some (result.map core.bus.memory.get)))⟩]) core
      (g.marked n .taken) := by
  generalize hresult : result.map core.bus.memory.get = handed
  have haccepted : acceptances (history ++ [⟨.poll n, .polled (.ok (some handed))⟩]) =
      acceptances history := (acceptances_append history _).trans (List.append_nil _)
  have hyielded : handouts (history ++ [⟨.poll n, .polled (.ok (some handed))⟩]) =
      handouts history ++ [(n, handed)] := handouts_append history _
  have hrequests : requests (history ++ [⟨.poll n, .polled (.ok (some handed))⟩]) =
      requests history := by rw [requests, haccepted, requests]
  have there : n < core.tickets.size := (Array.getElem?_eq_some_iff.mp ready).1
  have hnumbers : (handouts history ++ [(n, handed)]).map (·.1) = (handouts history).map (·.1) ++ [n] :=
    List.map_append
  constructor
  case turn =>
    rw [hrequests]
    exact h.turn
  case numbers =>
    rw [haccepted]
    exact h.numbers
  case submits =>
    intro request answer hmem
    rcases List.mem_append.mp hmem with before | last
    · exact h.submits request answer before
    · cases List.mem_singleton.mp last
  case fresh => exact fun m => h.fresh_marked there .taken
  case taken =>
    intro m hm
    rw [hyielded, hnumbers]
    rw [g.mark?_marked] at hm
    split at hm
    · next same => exact List.mem_append_right _ (List.mem_singleton.mpr same.symm)
    · exact List.mem_append_left _ (h.taken m hm)
  case dropped =>
    intro m hm
    rw [g.mark?_marked] at hm
    split at hm
    · cases hm
    · exact List.mem_append_left _ (h.dropped m hm)
  case marked =>
    intro m hm
    rw [hyielded, hnumbers] at hm
    rw [g.mark?_marked]
    split
    · nofun
    · next other =>
      rcases List.mem_append.mp hm with before | last
      · exact h.marked m before
      · exact (other (List.mem_singleton.mp last).symm).elim
  case once =>
    rw [hyielded, hnumbers]
    refine List.nodup_append.mpr ⟨h.once, List.pairwise_singleton _ n, fun m hm m' hm' same => ?_⟩
    obtain rfl := same.trans (List.mem_singleton.mp hm')
    exact h.marked m hm unmarked
  case results =>
    intro i result' hmem
    rw [hrequests]
    rw [hyielded] at hmem
    rcases List.mem_append.mp hmem with before | last
    · exact h.results i result' before
    · obtain ⟨rfl, rfl⟩ := Prod.mk.inj (List.mem_singleton.mp last)
      rw [← hresult]
      exact h.polled_in_turn ready

theorem step (h : Interleaved limit start history core g) (enough : mostCalls ≤ limit)
    {operation : Operation} (traffic : operation.isTraffic = true) :
    ∃ core' g', ((System.whole (core.under g)).step operation).2 = .whole (core'.under g') ∧
      Interleaved limit start
        (history ++ [⟨operation, ((System.whole (core.under g)).step operation).1⟩]) core' g' := by
  -- Submissions and calls of the handler move the core on. All else changes at most the guise.
  have attached : core.detached = false := h.turn.regular.attached
  cases operation with
  | submit request =>
    have hsubmit := core.submit_under g (h.fresh _ (Nat.le_refl _)) request
    simp only [System.step, perform, hsubmit]
    cases busy : core.active with
    | none =>
      obtain ⟨submitted, hanswer, -⟩ := submit_progresses attached busy request
      refine ⟨(core.submit request).2, g, ?_⟩
      have accepts := h.accept enough busy request
      rw [hanswer] at accepts ⊢
      exact ⟨rfl, accepts⟩
    | some a =>
      rw [submit_of_busy attached busy]
      exact ⟨core, g, rfl, h.goesOn h.turn rfl rfl rfl (fun _ same => by cases same; rfl) _⟩
  | interrupt =>
    refine ⟨core.interrupt, g, congrArg System.whole (core.interrupt_under g), ?_⟩
    exact h.goesOn (h.turn.interrupt enough) core.interrupt_progresses.size rfl rfl (by rintro _ ⟨⟩) _
  | poll n =>
    simp only [System.step]
    split
    · have waits (outcome : Except Refusal (Option (Request Bytes)))
          (nothing : (⟨.poll n, .polled outcome⟩ : Exchange).yielded? = none) :
          Interleaved limit start (history ++ [⟨.poll n, .polled outcome⟩]) core g :=
        h.goesOn h.turn rfl rfl nothing (by rintro _ ⟨⟩) g.capabilities?
      rw [show (System.whole (core.under g)).parts = (core.under g).toParts from rfl, Parts.poll]
      cases hticket : (core.under g).toParts.tickets[n]? with
      | none => exact ⟨core, g, rfl, waits _ rfl⟩
      | some ticket =>
        cases ticket with
        | ready result =>
          obtain ⟨ready, unmarked⟩ := core.ready_under g hticket
          exact ⟨core, g.marked n .taken, congrArg System.whole (core.setTicket_under g n .taken),
            h.take ready unmarked⟩
        | waiting | spent | dropped => exact ⟨core, g, rfl, waits _ rfl⟩
    · exact ⟨core, g, rfl, h.goesOn h.turn rfl rfl rfl (by rintro _ ⟨⟩) _⟩
  | drop n =>
    simp only [System.step]
    split
    · next held =>
      refine ⟨core, g.marked n .dropped, congrArg System.whole (core.setTicket_under g n .dropped), ?_⟩
      have goes := h.goesOn (e := ⟨.drop n, .silent⟩) h.turn rfl rfl rfl (by rintro _ ⟨⟩) g.capabilities?
      exact goes.drop (core.held_under g held) (List.mem_append_right _ (List.mem_singleton_self _))
    · exact ⟨core, g, rfl, h.goesOn h.turn rfl rfl rfl (by rintro _ ⟨⟩) _⟩
  | readProperty p =>
    obtain ⟨capabilities?, hread⟩ := core.readProperty_under g attached p
    exact ⟨core, { g with capabilities? }, congrArg System.whole hread,
      h.goesOn h.turn rfl rfl rfl (by rintro _ ⟨⟩) _⟩
  | isBusy | countMappings | readSettings => exact ⟨core, g, rfl, h.goesOn h.turn rfl rfl rfl (by rintro _ ⟨⟩) _⟩
  | writeProperty | setOptions | update | setTiming | acquire | release | detach | takeApart =>
    cases traffic

theorem run (h : Interleaved limit start history core g) (enough : mostCalls ≤ limit)
    {operations : List Operation} (traffic : operations.all Operation.isTraffic = true) :
    ∃ core' g', (System.whole (core.under g)).after operations = .whole (core'.under g') ∧
      Interleaved limit start (history ++ (System.whole (core.under g)).exchanges operations) core' g' := by
  induction operations generalizing history core g with
  | nil =>
    refine ⟨core, g, rfl, ?_⟩
    rw [System.exchanges, List.append_nil]
    exact h
  | cons operation rest ih =>
    obtain ⟨first, others⟩ := Bool.and_eq_true_iff.mp traffic
    obtain ⟨core₁, g₁, hstep, h₁⟩ := h.step enough first
    obtain ⟨core', g', hafter, h'⟩ := ih h₁ others
    refine ⟨core', g', ?_, ?_⟩
    · rw [System.after_cons, hstep]
      exact hafter
    · rw [System.exchanges, hstep]
      rwa [List.append_assoc] at h'

theorem awaiting (h : Interleaved limit start history core g) {i : Nat}
    (accepted : i < (requests history).length)
    (kept : start.tickets.size + i ∉ (handouts history).map (·.1))
    (held : ⟨.drop (start.tickets.size + i), .silent⟩ ∉ history) :
    (core.active ≠ none ∧ i + 1 = (requests history).length ∧
      ((core.under g).toParts.poll (start.tickets.size + i)).1 = .ok none) ∨
    ∃ result, ((core.under g).toParts.poll (start.tickets.size + i)).1 = .ok (some result) ∧
      ((start.serially limit ((requests history).take (i + 1))).toParts.poll
        (start.tickets.size + i)).1 = .ok (some result) := by
  have unmarked : g.mark? (start.tickets.size + i) = none := by
    cases hmark : g.mark? (start.tickets.size + i) with
    | none => rfl
    | some mark =>
      cases mark with
      | taken => exact (kept (h.taken _ hmark)).elim
      | dropped => exact (held (h.dropped _ hmark)).elim
  have shown {ticket : Ticket} (hticket : core.tickets[start.tickets.size + i]? = some ticket) :
      (core.under g).toParts.tickets[start.tickets.size + i]? = some ticket := by
    rw [show (core.under g).toParts.tickets[_]? = _ from g.getElem?_tickets _ _, hticket, Option.map_some,
      Guise.ticket, unmarked]
    rfl
  rcases h.turn.each i accepted with pending | ⟨result, recorded⟩
  · obtain ⟨a, ha, -⟩ := pending.busy
    refine .inl ⟨by simp [ha], pending.last, ?_⟩
    rw [Parts.poll, shown pending.waiting]
  · refine .inr ⟨_, ?_, recorded.polled⟩
    rw [Parts.poll, shown recorded.ready]
    rfl

end Interleaved

end Controller

/-- However clients and the handler take turns on a simulated controller, the accepted requests are numbered
in the order of acceptance, every other is handed back as it was, and none is handed out twice. Each comes
back as it does when the accepted ones alone are handed in one after the other, each served to its end
before the next; and whenever all of them have finished, so does the hardware with its card. -/
theorem interleaving_makes_no_difference (unit : UInt32) (board : Board) (options : Options)
    (sim : Simulator) (soc : sim.soc = board.soc) (stimuli : List Stimulus) {c : Controller Simulator}
    (reached : (System.start unit board options sim).afterStimuli stimuli = .whole c)
    (attached : c.detached = false) (idle : c.active = none) {limit : Nat}
    (enough : Controller.mostCalls ≤ limit) {operations : List Operation}
    (traffic : operations.all Operation.isTraffic = true) :
    let history := (System.whole c).exchanges operations
    let alone (n : Nat) := c.serially limit ((requests history).take n)
    ∃ c', (System.whole c).after operations = .whole c' ∧
      (∀ request answer, ⟨.submit request, answer⟩ ∈ history →
        (∃ ticket, answer = .accepted ticket) ∨ answer = .rejected ⟨.busy, request⟩) ∧
      (acceptances history).map (·.1) = List.range' c.tickets.size (requests history).length ∧
      ((handouts history).map (·.1)).Nodup ∧
      (∀ i result, (c.tickets.size + i, result) ∈ handouts history →
        i < (requests history).length ∧
          ((alone (i + 1)).toParts.poll (c.tickets.size + i)).1 = .ok (some result)) ∧
      (∀ i < (requests history).length, c.tickets.size + i ∉ (handouts history).map (·.1) →
        ⟨.drop (c.tickets.size + i), .silent⟩ ∉ history →
        (c'.active ≠ none ∧ i + 1 = (requests history).length ∧
          (c'.toParts.poll (c.tickets.size + i)).1 = .ok none) ∨
        ∃ result, (c'.toParts.poll (c.tickets.size + i)).1 = .ok (some result) ∧
          ((alone (i + 1)).toParts.poll (c.tickets.size + i)).1 = .ok (some result)) ∧
      (c'.active = none → (alone (requests history).length).active = none ∧
        c'.bus.hardware = (alone (requests history).length).bus.hardware) := by
  intro history alone
  obtain ⟨l, agrees, -⟩ := Controller.steady_unmoved.afterStimuli (.start unit board options sim)
    ⟨Controller.attach_still unit board options sim, false,
      Controller.balanced_attach unit board options sim⟩ stimuli
  rw [reached] at agrees
  have regular : c.Regular :=
    ⟨attached, ⟨l, agrees⟩, Controller.steady_afterStimuli unit board options sim stimuli reached,
      Controller.settled_afterStimuli unit board options sim soc stimuli reached⟩
  have begins : Controller.Interleaved limit c [] c {} :=
    ⟨.nothing regular idle, rfl, fun _ _ hmem => (List.not_mem_nil hmem).elim, fun _ _ => rfl, nofun,
      nofun, fun _ hmem => (List.not_mem_nil hmem).elim, List.nodup_nil,
      fun _ _ hmem => (List.not_mem_nil hmem).elim⟩
  obtain ⟨core, g, hafter, h⟩ := begins.run enough traffic
  rw [c.under_none] at hafter h
  rw [List.nil_append] at h
  have hlength : (requests history).length = (acceptances history).length := List.length_map _
  refine ⟨core.under g, hafter, h.submits, ?_, h.once, h.results, fun i => h.awaiting, fun finished => ?_⟩
  · rw [hlength]
    exact h.numbers
  · have hcore : alone (requests history).length = core := by
      have all : (requests history).take (requests history).length = requests history := List.take_length
      exact (congrArg (c.serially limit) all).trans (h.turn.finished enough finished)
    rw [hcore]
    exact ⟨finished, rfl⟩

theorem rejected_request_makes_no_difference :
    let sim : Simulator := { soc := .sam9260, card := { medium := Medium.blank 1024 } }
    let start := System.start 0 (Board.reference .sam9260) .default sim
    let reset : Request Bytes := { command := { opcode := Opcode.goIdle } }
    let inquiry : Request Bytes :=
      { command := { opcode := Opcode.sendInterfaceCond, argument := 0x1aa, flags := .r7 } }
    let operations : List Operation :=
      [.interrupt, .submit reset, .submit inquiry, .interrupt, .poll 0, .submit inquiry, .interrupt]
    ∃ c c', start.afterStimuli [.operate (.writeProperty (.powerMode .on)), .operate .update] = .whole c ∧
      (System.whole c).after operations = .whole c' ∧ c'.active = none ∧
      requests ((System.whole c).exchanges operations) = [reset, inquiry] ∧
      c'.bus.hardware = (c.serially Controller.mostCalls [reset, inquiry]).bus.hardware := by
  intro sim start reset inquiry operations
  let c := ((Controller.attach 0 (Board.reference .sam9260) .default sim).writeProperty
    (.powerMode .on)).2.update.2
  obtain ⟨c', hafter, -, -, -, -, -, finished⟩ :=
    interleaving_makes_no_difference 0 (Board.reference .sam9260) .default sim rfl
      [.operate (.writeProperty (.powerMode .on)), .operate .update] (c := c) rfl rfl rfl
      (Nat.le_refl Controller.mostCalls) (show operations.all Operation.isTraffic = true from rfl)
  have accepts : requests ((System.whole c).exchanges operations) = [reset, inquiry] := by
    decide +kernel
  have idle : ((System.whole c).after operations).active? = none := by decide +kernel
  rw [hafter] at idle
  rw [accepts] at finished
  exact ⟨c, c', rfl, hafter, idle, accepts, (finished idle).2⟩

end CardHost
