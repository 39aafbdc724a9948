import CardHost.Proofs.ChipsAlike
import CardHost.Proofs.CommandFrames
import CardHost.Proofs.Outcomes

namespace CardHost

open Bus

/-- A request that has come back. Its stop is not sent after a command whose data could not be mapped, and comes
back as it was handed in. -/
structure Request.Returns (handed last : Request Bytes) : Prop where
  command : handed.command.Returns last.command
  stop : if last.command.error = some .noMemory then last.stop = handed.stop
    else Option.Rel Command.Returns handed.stop last.stop

theorem Request.Returns.of_unsent {handed last : Request Bytes} (command : handed.command.Returns last.command)
    (unsent : last.command.error = some .noMemory) (stop : last.stop = handed.stop) : handed.Returns last :=
  ⟨command, by rwa [if_pos unsent]⟩

theorem Request.Returns.of_sent {handed last : Request Bytes} (command : handed.command.Returns last.command)
    (sent : last.command.error ≠ some .noMemory) (stop : Option.Rel Command.Returns handed.stop last.stop) :
    handed.Returns last :=
  ⟨command, by rwa [if_neg sent]⟩

theorem Agrees.unready {H : Type} {c : Controller H} {l : Ledger} (h : Agrees (.whole c) l) {a : Active}
    (ha : c.active = some a) (result : Request BufferId) : c.tickets[a.ticket]? ≠ some (.ready result) := by
  intro ready
  obtain ⟨-, e, entry, matched⟩ := h.active a ha
  have ticket := h.ticket a.ticket
  rw [show (System.whole c).parts.tickets[a.ticket]? = _ from ready, entry, Option.map_some, Entry.ticket,
    matched.fate] at ticket
  split at ticket <;> cases ticket

namespace Controller

variable {c c' : Controller Simulator} {a : Active} {n : Nat} {request : Request Bytes} {l : Ledger}
  {command stop : Command BufferId} {handed : Command Bytes}

/-- The request in progress, beside the one that was handed in. The command that is not on the wire lies out of
reach: a stop as it was handed in, a command before its stop as it ended. -/
inductive Carries (c : Controller Simulator) (request : Request Bytes) (a : Active) : Prop
  | command (phase : a.phase = .command) (underway : c.Underway request.command a.request.command)
    (stop : a.request.stop.map (·.map c.buffer) = request.stop)
    (shelved : ∀ stop, a.request.stop = some stop → ∀ id ∈ stop.buffers, c.Sealed id)
  | stop (stop : Command BufferId) (handed : Command Bytes) (phase : a.phase = .stop)
    (current : a.request.stop = some stop) (asked : request.stop = some handed)
    (underway : c.Underway handed stop)
    (returns : request.command.Returns (a.request.command.map c.buffer))
    (mapped : a.request.command.error ≠ some .noMemory)
    (shelved : ∀ id ∈ a.request.command.buffers, c.Sealed id)

structure Serving (c : Controller Simulator) (n : Nat) (request : Request Bytes) : Prop where
  old : n < c.tickets.size
  beside : ∀ a, c.active = some a → c.bounce ∉ a.request.buffers
  wired : ∀ a, c.active = some a → a.ticket = n → c.Carries request a
  done : ∀ result, c.tickets[n]? = some (.ready result) →
    request.Returns (result.map c.buffer) ∧ ∀ id ∈ result.buffers, c.Sealed id

theorem serving_delivered {tickets : Array Ticket} (old : n < tickets.size)
    (unready : ∀ result, tickets[n]? ≠ some (.ready result)) (steady : c.Steady) (idle : c.active = none)
    (delivers : c.tickets = delivered tickets a) (beside : c.bounce ∉ a.request.buffers)
    (returns : request.Returns (a.request.map c.buffer)) : c.Serving n request := by
  have none {P : Active → Prop} : ∀ a, c.active = some a → P a := by
    intro a ha
    rw [idle] at ha
    cases ha
  refine ⟨?_, none, none, fun result ready => ?_⟩
  · rw [delivers, delivered, Array.size_modify]
    exact old
  · rw [delivers] at ready
    obtain before | ⟨-, rfl⟩ := ready_delivered ready
    · exact (unready result before).elim
    · exact ⟨returns, fun id hid => steady.sealed idle fun same => beside (same ▸ hid)⟩

theorem serving_carried (old : n < c.tickets.size) (unready : ∀ result, c.tickets[n]? ≠ some (.ready result))
    (ha : c.active = some a) (beside : c.bounce ∉ a.request.buffers) (carries : c.Carries request a) :
    c.Serving n request := by
  have only {P : Active → Prop} (h : P a) : ∀ a, c.active = some a → P a := by
    intro a' ha'
    rw [ha] at ha'
    exact Option.some.inj ha' ▸ h
  exact ⟨old, only beside, only fun _ => carries, fun result ready => (unready result ready).elim⟩

structure Launching (c : Controller Simulator) (a : Active) : Prop where
  clear : c.Clear
  orderly : c.bus.hardware.Orderly
  active : c.active = some a
  beside : c.bounce ∉ a.request.buffers
  old : a.ticket < c.tickets.size
  unready : ∀ result, c.tickets[a.ticket]? ≠ some (.ready result)

namespace Launching

theorem own (h : c.Launching a) (hc : a.current? = some command) : c.bounce ∉ command.buffers :=
  fun hid => h.beside (a.current?_buffers hc _ hid)

theorem retains (h : c.Launching a) (hc : a.current? = some command) {id : BufferId} (there : id ∈ a.request.buffers)
    (other : id ∉ command.buffers) : Retains id c (c.launch command) := by
  have rests : c.Rests c.bus.mapping.isSome := ⟨h.clear.count, h.clear.mask, rfl⟩
  exact rests.launch_retains (fun same => h.beside (same ▸ there)) h.active hc other

theorem beside_launch (h : c.Launching a) (hc : a.current? = some command) {command' : Command BufferId}
    (blank : command'.blank = command.blank) :
    (c.launch command).bounce ∉ (a.replace command').request.buffers := by
  obtain ⟨l, bus, -, hl⟩ := launch_launches h.active hc
  rw [(hl.progresses h.active hc).bounce, Request.buffers_of_blank (Active.blank_replace hc blank)]
  exact h.beside

theorem serves_command (h : c.Launching a) (first : a.phase = .command) (bytes : a.request.map c.buffer = request)
    (apart : ∀ stop, a.request.stop = some stop → ∀ id ∈ stop.buffers, id ∉ a.request.command.buffers)
    (steady : (c.launch a.request.command).Steady) :
    (c.launch a.request.command).Serving a.ticket request := by
  have hc : a.current? = some a.request.command := by rw [Active.current?, first]
  have retained (stop : Command BufferId) (hstop : a.request.stop = some stop) (id : BufferId)
      (hid : id ∈ stop.buffers) : Retains id c (c.launch a.request.command) :=
    h.retains hc (a.stop_buffers hstop id hid) (apart stop hstop id hid)
  have hstop : a.request.stop.map (·.map (c.launch a.request.command).buffer) = request.stop := by
    refine .trans ?_ (congrArg Request.stop bytes)
    refine Option.map_congr fun stop hstop => Command.map_congr fun id hid => ?_
    exact (retained stop hstop id hid).2
  obtain ⟨command', active, tickets, blank, underway⟩ | ⟨idle, tickets, unsent⟩ :=
    launch_underway h.clear h.orderly h.active hc (h.own hc) (congrArg Request.command bytes)
  · have carried : (c.launch a.request.command).Carries request (a.replace command') := by
      refine .command ((a.phase_replace _).trans first) ?_ ?_ ?_
      · rwa [Active.replace_command first]
      · rwa [Active.replace_stop first]
      · rw [Active.replace_stop first]
        exact fun stop hstop id hid => (retained stop hstop id hid).1
    exact serving_carried (tickets ▸ h.old) (tickets ▸ h.unready) active (h.beside_launch hc blank) carried
  · refine serving_delivered h.old h.unready steady idle tickets
      (h.beside_launch hc (blank_unmapped _)) ?_
    have returns := request.command.returns_unsent
    rw [← unsent] at returns
    rw [Request.map, Active.replace_command first, Active.replace_stop first]
    exact .of_unsent returns rfl hstop

theorem serves_stop (h : c.Launching a) (second : a.phase = .stop) (current : a.request.stop = some stop)
    (asked : request.stop = some handed) (bytes : stop.map c.buffer = handed)
    (returns : request.command.Returns (a.request.command.map c.buffer))
    (mapped : a.request.command.error ≠ some .noMemory)
    (apart : ∀ id ∈ stop.buffers, id ∉ a.request.command.buffers) (steady : (c.launch stop).Steady) :
    (c.launch stop).Serving a.ticket request := by
  have hc : a.current? = some stop := by rw [Active.current?, second, current]
  have retained (id : BufferId) (hid : id ∈ a.request.command.buffers) : Retains id c (c.launch stop) :=
    h.retains hc (List.mem_append_left _ hid) fun there => apart id there hid
  have hreturns : request.command.Returns (a.request.command.map (c.launch stop).buffer) := by
    rwa [Command.map_congr fun id hid => (retained id hid).2]
  have stopped := Active.replaced_stop second hc
  obtain ⟨stop', active, tickets, blank, underway⟩ | ⟨idle, tickets, unsent⟩ :=
    launch_underway h.clear h.orderly h.active hc (h.own hc) bytes
  · have carried : (c.launch stop).Carries request (a.replace stop') := by
      refine .stop stop' handed ((a.phase_replace _).trans second) (stopped stop') asked underway ?_ ?_ ?_
      all_goals rw [Active.command_replace second]
      · exact hreturns
      · exact mapped
      · exact fun id hid => (retained id hid).1
    exact serving_carried (tickets ▸ h.old) (tickets ▸ h.unready) active (h.beside_launch hc blank) carried
  · refine serving_delivered h.old h.unready steady idle tickets
      (h.beside_launch hc (blank_unmapped _)) ?_
    rw [Request.map, Active.command_replace second, stopped, Option.map_some, unsent]
    refine .of_sent hreturns mapped ?_
    rw [asked]
    exact .some handed.returns_unsent

end Launching

theorem Carries.goes_on (h : c.Carries request a) (agrees : Agrees (.whole c) l) (ha : c.active = some a)
    (hc : a.current? = some command) (continues : c.Continues a command c') :
    ∃ a', c'.active = some a' ∧ c'.tickets = c.tickets ∧ c'.Carries request a' := by
  cases h with
  | command first underway stop shelved =>
    have own := Active.command_of_current first hc
    rw [own] at underway
    obtain ⟨command', active, tickets, -, underway⟩ := continues.underway ha hc underway
    have retained (stop : Command BufferId) (hstop : a.request.stop = some stop) (id : BufferId)
        (hid : id ∈ stop.buffers) : Retains id c c' :=
      continues.retains ha (shelved stop hstop id hid) (own ▸ stop_apart agrees ha hstop id hid)
    refine ⟨_, active, tickets, .command ((a.phase_replace _).trans first) ?_ ?_ ?_⟩
    · rwa [Active.replace_command first]
    · rw [Active.replace_stop first, ← stop]
      refine Option.map_congr fun stop hstop => Command.map_congr fun id hid => ?_
      exact (retained stop hstop id hid).2
    · rw [Active.replace_stop first]
      exact fun stop hstop id hid => (retained stop hstop id hid).1
  | stop stop handed second current asked underway returns mapped shelved =>
    have own : stop = command := Option.some.inj (current.symm.trans (Active.stop_of_current second hc))
    rw [own] at underway
    obtain ⟨command', active, tickets, -, underway⟩ := continues.underway ha hc underway
    have retained (id : BufferId) (hid : id ∈ a.request.command.buffers) : Retains id c c' :=
      continues.retains ha (shelved id hid) fun there => stop_apart agrees ha current id (own ▸ there) hid
    refine ⟨_, active, tickets, .stop command' handed ((a.phase_replace _).trans second)
      (Active.replaced_stop second hc command') asked underway ?_ ?_ ?_⟩
    all_goals rw [Active.command_replace second]
    · rwa [Command.map_congr fun id hid => (retained id hid).2]
    · exact mapped
    · exact fun id hid => (retained id hid).1

theorem Carries.ends (h : c.Carries request a) (agrees : Agrees (.whole c) l) (settled : c.Settled)
    (orderly : c.bus.hardware.Orderly) (ha : c.active = some a) (hc : a.current? = some command)
    (beside : c.bounce ∉ a.request.buffers) (old : a.ticket < c.tickets.size) {mapping : Option Mapping}
    {error : Option CommandError} {words : List UInt32} (length : words.length = command.flags.words)
    (faulty : error ≠ none → anyBit c.bus.hardware.latched Status.errors = true)
    (mapped : error ≠ some .noMemory)
    (steady : (c.ended mapping (a.replace (answered command error words))).advance.Steady) :
    (c.ended mapping (a.replace (answered command error words))).advance.Serving a.ticket request := by
  have unready := agrees.unready ha
  have clear := ended_clear (a := a.replace (answered command error words)) settled mapping
  have blank : (answered command error words).blank = command.blank := rfl
  have apart : c.bounce ∉ (a.replace (answered command error words)).request.buffers := by
    rwa [Request.buffers_of_blank (Active.blank_replace hc blank)]
  rw [advance_eq (a := a.replace (answered command error words)) rfl, Active.pending?_replace] at steady ⊢
  cases h with
  | command first underway stop shelved =>
    have own := Active.command_of_current first hc
    rw [own] at underway
    have returns := underway.returns length faulty
    have pending : a.pending? = a.request.stop := by rw [Active.pending?, first]
    rw [pending] at steady ⊢
    cases hstop : a.request.stop with
    | none =>
      rw [hstop] at steady
      refine serving_delivered old unready steady rfl rfl apart ?_
      rw [Request.map, Active.replace_command first, Active.replace_stop first]
      refine .of_sent returns mapped ?_
      rw [← stop, hstop]
      exact .none
    | some last =>
      rw [hstop] at steady stop
      have shelf : ∀ id ∈ last.buffers, id ∉ (answered command error words).buffers :=
        own ▸ stop_apart agrees ha hstop
      have launching : Launching { c.ended mapping (a.replace (answered command error words)) with
          active := some { a.replace (answered command error words) with phase := .stop } }
          { a.replace (answered command error words) with phase := .stop } :=
        ⟨clear.active _, orderly.of_eq rfl rfl rfl, rfl, apart, by rwa [Active.ticket_replace],
          by rwa [Active.ticket_replace]⟩
      have served := launching.serves_stop rfl ((Active.replace_stop first _).trans hstop) stop.symm rfl
        (by rwa [Active.replace_command first]) (by rwa [Active.replace_command first])
        (by rwa [Active.replace_command first]) steady
      rwa [Active.ticket_replace] at served
  | stop stop handed second current asked underway returns sent shelved =>
    have own : stop = command := Option.some.inj (current.symm.trans (Active.stop_of_current second hc))
    rw [own] at underway
    have final : a.pending? = none := by rw [Active.pending?, second]
    rw [final] at steady ⊢
    refine serving_delivered old unready steady rfl rfl apart ?_
    rw [Request.map, Active.command_replace second, Active.replaced_stop second hc]
    refine .of_sent returns sent ?_
    rw [asked]
    exact .some (underway.returns length faulty)

theorem Progresses.others {H : Type} {c c' : Controller H} (h : c.Progresses c')
    (other : ∀ a, c.active = some a → a.ticket ≠ n) :
    c'.tickets[n]? = c.tickets[n]? ∧ ∀ a, c'.active = some a → a.ticket ≠ n := by
  cases h with
  | waits bus mapped active same =>
    refine ⟨rfl, fun a' ha' => ?_⟩
    rw [show active = some a' from ha'] at same
    obtain ⟨a, ha, going⟩ := Option.map_eq_some_iff.mp same.symm
    rw [← (Active.of_outline going).1]
    exact other a ha
  | ends bus mapped result served same =>
    refine ⟨?_, fun a' ha' => by cases ha'⟩
    have ticket : result.ticket ≠ n := by
      rw [(Active.of_outline same).1]
      exact other _ served
    change (delivered c.tickets result)[n]? = _
    rw [delivered, Array.getElem?_modify, if_neg ticket]

theorem Serving.retained (h : c.Serving n request) {result : Request BufferId}
    (ready : c.tickets[n]? = some (.ready result))
    (retains : ∀ id ∈ result.buffers, c.Sealed id → Retains id c c') :
    request.Returns (result.map c'.buffer) ∧ ∀ id ∈ result.buffers, c'.Sealed id := by
  obtain ⟨returns, closed⟩ := h.done result ready
  refine ⟨?_, fun id hid => (retains id hid (closed id hid)).1⟩
  rwa [Request.map_congr fun id hid => (retains id hid (closed id hid)).2]

theorem Serving.interrupt (h : c.Serving n request) (orderly : (System.whole c).Orderly) :
    c.interrupt.Serving n request := by
  obtain ⟨l, agrees⟩ := orderly.agrees
  have steady : c.Steady := orderly.steady
  by_cases hd : c.detached = true
  · rwa [Controller.interrupt, if_pos hd]
  have attached := Bool.eq_false_iff.mpr hd
  obtain ⟨left, balanced⟩ := steady.balanced
  cases ha : c.active with
  | none => rwa [interrupt_resting attached ha (balanced.rests ha)]
  | some a =>
    have progresses := c.interrupt_progresses
    have steady' := steady_unmoved.interrupt c steady agrees.current
    by_cases own : a.ticket = n
    · subst own
      obtain ⟨stage, works⟩ := balanced.works a ha
      obtain ⟨command, hc⟩ := Option.isSome_iff_exists.mp (agrees.current a ha)
      have carries := h.wired a ha rfl
      obtain continues | ⟨mapping, error, words, length, faulty, mapped, he⟩ :=
        interrupt_continues works attached ha hc
      · obtain ⟨a', active, tickets, carries⟩ := carries.goes_on agrees ha hc continues
        refine serving_carried ?_ ?_ active (progresses.clear h.beside a' active) carries
        · rw [tickets]
          exact h.old
        · rw [tickets]
          exact agrees.unready ha
      · rw [he] at steady' ⊢
        exact carries.ends agrees orderly.settled orderly.hardware ha hc (h.beside a ha) h.old length faulty mapped
          steady'
    · obtain ⟨same, others⟩ := progresses.others fun a' ha' => Option.some.inj (ha.symm.trans ha') ▸ own
      refine ⟨progresses.size ▸ h.old, progresses.clear h.beside, fun a' ha' hn => (others a' ha' hn).elim,
        fun result ready => ?_⟩
      rw [same] at ready
      refine h.retained ready fun id hid closed => closed.interrupt steady agrees.current ?_
      exact (agrees.ready_own ready id hid).2

theorem Serving.submit (h : c.Serving n request) (orderly : (System.whole c).Orderly)
    (another : Request Bytes) : (c.submit another).2.Serving n request := by
  by_cases hd : c.detached = true
  · rwa [submit_eq, if_pos hd]
  cases ha : c.active with
  | some a => rwa [submit_of_busy (Bool.eq_false_iff.mpr hd) ha]
  | none =>
    obtain ⟨submitted, hsubmit, progresses⟩ := submit_progresses (Bool.eq_false_iff.mpr hd) ha another
    obtain ⟨l, agrees⟩ := orderly.agrees
    obtain ⟨left, balanced⟩ := orderly.steady.balanced
    have closed (id : BufferId) (closed : c.Sealed id) (there : id < c.bus.memory.buffers.size) :
        Retains id c (c.submit another).2 := closed.submit balanced there another
    rw [congrArg Prod.snd hsubmit] at closed ⊢
    obtain ⟨same, others⟩ := progresses.others (n := n) fun a ha => by
      obtain rfl := Option.some.inj ha
      exact Nat.ne_of_gt h.old
    have before : (c.take another).tickets[n]? = c.tickets[n]? := by
      change (c.tickets.push .waiting)[n]? = _
      rw [Array.getElem?_push, if_neg (Nat.ne_of_lt h.old)]
    refine ⟨?_, progresses.clear (orderly.settled.take_clear another), fun a ha hn => (others a ha hn).elim,
      fun result ready => ?_⟩
    · rw [progresses.size]
      exact Nat.lt_of_lt_of_eq (Nat.lt_succ_of_lt h.old) (Array.size_push ..).symm
    · rw [same, before] at ready
      exact h.retained ready fun id hid sealed => closed id sealed (agrees.ready_own ready id hid).1

theorem Serving.stays (h : c.Serving n request) (active : c'.active = c.active) (bounce : c'.bounce = c.bounce)
    (memory : c'.bus.memory = c.bus.memory) (size : c'.tickets.size = c.tickets.size)
    (ready : ∀ result, c'.tickets[n]? = some (.ready result) → c.tickets[n]? = some (.ready result))
    (waits : ∀ a, c.active = some a → c'.bus.hardware.latched = c.bus.hardware.latched ∧
      c'.bus.hardware.mask = c.bus.hardware.mask)
    (closed : ∀ id, c.Sealed id → c'.Sealed id) : c'.Serving n request := by
  have buffer : c'.buffer = c.buffer := by
    unfold Controller.buffer
    rw [memory]
  constructor
  case old => exact size ▸ h.old
  case beside =>
    intro a ha
    rw [bounce]
    exact h.beside a (active ▸ ha)
  case wired =>
    intro a ha hn
    rw [active] at ha
    obtain ⟨latched, mask⟩ := waits a ha
    cases h.wired a ha hn with
    | command first underway stop shelved =>
      refine .command first (underway.of_eq memory latched mask) ?_ fun stop hstop id hid => ?_
      · rwa [buffer]
      · exact closed id (shelved stop hstop id hid)
    | stop stop handed second current asked underway returns sent shelved =>
      refine .stop stop handed second current asked (underway.of_eq memory latched mask) ?_ sent
        fun id hid => closed id (shelved id hid)
      rwa [buffer]
  case done =>
    intro result finished
    exact h.retained (ready result finished) fun id _ sealed => ⟨closed id sealed, by rw [buffer]⟩

theorem Serving.perform (h : c.Serving n request) {operation : Operation}
    (quiet : operation.isQuiet = true) : (c.perform operation).2.Holds (·.Serving n request) := by
  obtain ⟨c', l, performed, hq, hp, keeps, -⟩ := c.perform_quiet quiet
  rw [performed]
  have closed (id : BufferId) (closed : c.Sealed id) : c'.Sealed id := by
    obtain apart | left := closed.mapping
    · obtain ⟨apart', -⟩ := spares_perform quiet performed ⟨closed.bounce, apart⟩
      exact ⟨apart'.bounce, .inl apart'.mapping⟩
    · exact ⟨keeps.bounce ▸ closed.bounce, .inr (left.keeps keeps hq hp)⟩
  have stays (memory : c'.bus.memory = c.bus.memory) :=
    h.stays keeps.active keeps.bounce memory (congrArg Array.size keeps.tickets)
      (fun _ ready => keeps.tickets ▸ ready)
  obtain leaves | ⟨idle, memory⟩ := perform_leaves quiet performed
  · exact stays leaves.memory (fun _ _ => ⟨leaves.latched, leaves.mask⟩) closed
  · refine stays memory (fun a ha => ?_) closed
    rw [idle] at ha
    cases ha

theorem Serving.setTicket (h : c.Serving n request) (m : Nat) {value : Ticket}
    (other : ∀ result, value ≠ .ready result) :
    Serving { c with toParts := c.setTicket m value } n request :=
  h.stays rfl rfl rfl Array.size_setIfInBounds (fun _ ready => ready_marked other ready) (fun _ _ => ⟨rfl, rfl⟩)
    fun _ closed => ⟨closed.bounce, closed.mapping.imp_right (·.congr rfl rfl rfl rfl)⟩

theorem Serving.hardware (h : c.Serving n request) {sim : Simulator} (latched : sim.latched = c.bus.hardware.latched)
    (mask : sim.mask = c.bus.hardware.mask) :
    Serving { c with bus := { c.bus with hardware := sim } } n request :=
  h.stays rfl rfl rfl rfl (fun _ ready => ready) (fun _ _ => ⟨latched, mask⟩)
    fun _ closed => ⟨closed.bounce, closed.mapping.imp_right (·.congr rfl rfl rfl mask)⟩

theorem serving_submit (h : (System.whole c).Orderly) (attached : c.detached = false) (idle : c.active = none)
    (request : Request Bytes) : (c.submit request).2.Serving c.tickets.size request := by
  have steady : (c.submit request).2.Steady := steady_unmoved.submit c request h.steady
  obtain ⟨count, mask⟩ := h.steady.resting idle
  have settled := h.settled.take request
  have launching : (c.take request).Launching (c.accepted request) := by
    have beside := h.settled.take_clear request _ rfl
    refine ⟨⟨settled, count, mask⟩, h.hardware, rfl, beside, ?_, fun result ready => ?_⟩
    · exact Nat.lt_of_lt_of_eq (Nat.lt_succ_self _) (Array.size_push ..).symm
    · have waiting : (c.take request).tickets[c.tickets.size]? = some .waiting := Array.getElem?_push_size
      cases waiting.symm.trans ready
  rw [submit_idle attached idle] at steady ⊢
  exact launching.serves_command rfl (c.bus.memory.map_place request)
    (fun _ hstop _ hid => c.bus.memory.place_distinct request hstop hid) steady

end Controller

namespace System

variable {s : System Simulator} {c : Controller Simulator} {n : Nat} {request : Request Bytes}

inductive Serving (n : Nat) (request : Request Bytes) : System Simulator → Prop
  | whole {c : Controller Simulator} (serving : c.Serving n request) : Serving n request (whole c)
  | apart {p : Parts Simulator} (done : ∀ result, p.tickets[n]? = some (.ready result) →
      request.Returns (result.map p.bus.memory.get)) : Serving n request (apart p)

theorem Serving.done (h : s.Serving n request) {result : Request BufferId}
    (ready : s.parts.tickets[n]? = some (.ready result)) : request.Returns (result.map s.parts.bus.memory.get) := by
  cases h with
  | whole serving => exact (serving.done result ready).1
  | apart done => exact done result ready

theorem Serving.setTicket (h : s.Serving n request) (m : Nat) {value : Ticket}
    (other : ∀ result, value ≠ .ready result) : (s.setParts (s.parts.setTicket m value)).Serving n request := by
  cases h with
  | whole serving => exact .whole (serving.setTicket m other)
  | apart done => exact .apart fun result ready => done result (ready_marked other ready)

theorem Serving.adjust (h : s.Serving n request) {f : Simulator → Simulator}
    (same : ∀ sim, (f sim).latched = sim.latched ∧ (f sim).mask = sim.mask) : (s.adjust f).Serving n request := by
  cases h with
  | whole serving =>
    obtain ⟨latched, mask⟩ := same _
    exact .whole (serving.hardware latched mask)
  | apart done => exact .apart done

theorem Serving.takeApart (serving : c.Serving n request) : (System.apart c.takeApart).Serving n request := by
  refine .apart fun result ready => ?_
  rw [Controller.bus_takeApart]
  exact (serving.done result (Controller.ready_takeApart ready)).1

theorem Serving.perform (serving : c.Serving n request) {operation : Operation}
    (quiet : operation.isQuiet = true) : (c.perform operation).2.Serving n request := by
  obtain ⟨c', _, performed, -⟩ := c.perform_quiet quiet
  have serving := serving.perform quiet
  rw [performed] at serving ⊢
  exact .whole serving

theorem Serving.step (h : s.Serving n request) (orderly : s.Orderly) (operation : Operation) :
    (s.step operation).2.Serving n request := by
  by_cases handle : ∃ m, operation = .poll m ∨ operation = .drop m
  · obtain hs | ⟨m, value, other, hs⟩ := s.step_handle handle
    · rwa [hs]
    · rw [hs]
      exact h.setTicket m other
  cases h with
  | apart done =>
    rw [step_apart _ fun m => ⟨fun hm => handle ⟨m, .inl hm⟩, fun hm => handle ⟨m, .inr hm⟩⟩]
    exact .apart done
  | whole serving =>
    cases operation with
    | poll m => exact (handle ⟨m, .inl rfl⟩).elim
    | drop m => exact (handle ⟨m, .inr rfl⟩).elim
    | submit another =>
      rw [Controller.step_submit]
      exact .whole (serving.submit orderly another)
    | interrupt => exact .whole (serving.interrupt orderly)
    | takeApart => exact .takeApart serving
    | _ => exact .perform serving rfl

theorem Serving.respond (h : s.Serving n request) (orderly : s.Orderly) (stimulus : Stimulus) :
    (s.respond stimulus).2.Serving n request := by
  cases stimulus with
  | operate operation => exact h.step orderly operation
  | serve limit =>
    cases h with
    | apart done => exact .apart done
    | whole serving =>
      refine .whole (Controller.serveLine_keeps (P := fun c => (System.whole c).Orderly ∧ c.Serving n request)
        ?_ ⟨orderly, serving⟩ limit).2
      exact fun _ ⟨orderly, serving⟩ => ⟨orderly.interrupt, serving.interrupt orderly⟩
  | inject injected => exact h.adjust (f := fun sim => { sim with injected }) fun _ => ⟨rfl, rfl⟩
  | failLoad => exact h.adjust (f := fun sim => { sim with failNextLoad := true }) fun _ => ⟨rfl, rfl⟩
  | useCard call => exact h.adjust (f := fun sim => { sim with card := sim.card.after call }) fun _ => ⟨rfl, rfl⟩

theorem Serving.afterStimuli (h : s.Serving n request) (orderly : s.Orderly) {stimuli : List Stimulus}
    (errors : ∀ stimulus ∈ stimuli, stimulus.InjectsErrors) : (s.afterStimuli stimuli).Serving n request := by
  induction stimuli generalizing s with
  | nil => exact h
  | cons stimulus rest ih =>
    obtain ⟨first, errors⟩ := List.forall_mem_cons.mp errors
    exact ih (h.respond orderly stimulus) (orderly.respond first) errors

end System

theorem orderly_rig (unit masterClock : UInt32) (options : Options) (medium : Medium) (calls : List Card.Call)
    (soc : Soc) : (rig unit masterClock options (Card.used medium calls) soc).Orderly :=
  System.orderly_start unit ⟨soc, masterClock⟩ options rfl
    ⟨Card.consistent_used medium calls, show anyBit 0 Simulator.progress = false by decide, UInt32.and_zero⟩

/-- A request that comes back is as it was handed in, but for its results. -/
theorem finished_requests_differ_in_results (soc : Soc) (unit masterClock : UInt32) (options : Options)
    (medium : Medium) (calls : List Card.Call) (before : List Stimulus)
    (errors : ∀ stimulus ∈ before, stimulus.InjectsErrors) {c : Controller Simulator}
    (reached : (rig unit masterClock options (Card.used medium calls) soc).afterStimuli before = .whole c)
    (request : Request Bytes) {ticket : Nat} {submitted : Controller Simulator}
    (accepted : c.submit request = (.ok ticket, submitted)) (after : List Stimulus)
    (errors' : ∀ stimulus ∈ after, stimulus.InjectsErrors) {result : Request Bytes}
    (polled : (((System.whole submitted).afterStimuli after).step (.poll ticket)).1 =
      .polled (.ok (some result))) : request.Returns result := by
  have orderly := (orderly_rig unit masterClock options medium calls soc).afterStimuli errors
  rw [reached] at orderly
  obtain ⟨attached, idle, hticket, -⟩ := Controller.of_accepted accepted
  have serving := Controller.serving_submit orderly attached idle request
  have orderly' : (System.respond (.whole c) (.operate (.submit request))).2.Orderly := orderly.respond trivial
  rw [System.respond, Controller.step_submit] at orderly'
  rw [accepted] at serving orderly'
  have served := (System.Serving.whole serving).afterStimuli orderly' errors'
  obtain ⟨ready, hready, rfl⟩ := System.of_polled polled
  rw [hticket] at hready
  exact served.done hready

def Request.lostRead : Request Bytes :=
  { command :=
      { opcode := Opcode.readBlock
        flags := .r1
        data := some ⟨[1, 2, 3, 4], .read, 9⟩
        response := #v[5, 6, 7, 8] }
    stop := some Request.stopTransmission }

theorem lost_read_returned :
    ∃ c submitted result,
      (rig 0 60000000 .default (Card.used (.blank 1024) []) .rm9200).afterStimuli [.inject Status.dataTimeout] =
        .whole c ∧
      c.submit .lostRead = (.ok 0, submitted) ∧
      (((System.whole submitted).afterStimuli [.serve 16]).step (.poll 0)).1 = .polled (.ok (some result)) ∧
      result.command.error = some .timeout ∧ Request.lostRead.Returns result := by
  refine ⟨_, _, _, rfl, rfl, rfl, rfl, ?_⟩
  refine finished_requests_differ_in_results .rm9200 0 60000000 .default (.blank 1024) []
    [.inject Status.dataTimeout] ?_ rfl .lostRead rfl [.serve 16] ?_ rfl
  · exact List.forall_mem_singleton.mpr (show Status.errors &&& Status.dataTimeout = Status.dataTimeout by decide)
  · exact List.forall_mem_singleton.mpr trivial

end CardHost
