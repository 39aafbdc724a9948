import CardHost.Proofs.TransferCommands

namespace CardHost

namespace Controller

variable {c : Controller Simulator} {a : Active} {command : Command BufferId}

def concluded (c : Controller Simulator) (s : Simulator) (memory : Memory) (a : Active) :
    Controller Simulator :=
  { c with bus := ⟨s, memory, none⟩, tickets := delivered c.tickets a, mapped := 0, active := none }

structure Calm (c : Controller Simulator) : Prop where
  attached : c.detached = false
  idle : c.active = none
  count : c.mapped = 0
  mapping : c.bus.mapping = none
  mask : c.bus.hardware.mask = 0
  settled : c.Settled
  injected : c.bus.hardware.injected = 0
  loads : c.bus.hardware.failNextLoad = false

/-- A controller that is calm, but for the faults that may be armed. -/
structure Composed (c : Controller Simulator) : Prop where
  attached : c.detached = false
  idle : c.active = none
  count : c.mapped = 0
  mapping : c.bus.mapping = none
  mask : c.bus.hardware.mask = 0
  settled : c.Settled

theorem Calm.composed (h : c.Calm) : c.Composed :=
  ⟨h.attached, h.idle, h.count, h.mapping, h.mask, h.settled⟩

structure Finishes (c : Controller Simulator) (request : Request Bytes) (n : Nat)
    (served : Controller Simulator) (result : Request Bytes) : Prop where
  called : ∃ submitted, c.submit request = (.ok c.tickets.size, submitted) ∧ Called n submitted served
  quiet : InterruptLine.asserted served.bus.hardware = false
  polled : (served.toParts.poll c.tickets.size).1 = .ok (some result)
  calm : served.Calm

theorem Composed.submitted (h : c.Composed) (request : Request Bytes) :
    c.submit request = (.ok c.tickets.size,
      (c.take request).launch (c.accepted request).request.command) :=
  submit_idle h.attached h.idle request

theorem Composed.finishes (h : c.Composed) {request : Request Bytes} {n : Nat} {s : Simulator}
    {memory : Memory} {result : Active}
    (called : Called n ((c.take request).launch (c.accepted request).request.command)
      ((c.take request).concluded s memory result))
    (ticket : result.ticket = c.tickets.size)
    (settled : ((c.take request).concluded s memory result).Settled) (mask : s.mask = 0)
    (injected : s.injected = 0) (loads : s.failNextLoad = false) :
    c.Finishes request n ((c.take request).concluded s memory result)
      (result.request.map memory.get) where
  called := ⟨_, h.submitted request, called⟩
  quiet := Simulator.quiet_of_masked mask
  polled := by
    have hwaiting : (c.take request).tickets[result.ticket]? = some .waiting := by
      rw [ticket]
      exact Array.getElem?_push_size
    have hpoll := Parts.poll_delivered
      (p := ((c.take request).concluded s memory result).toParts) rfl hwaiting
    rw [ticket] at hpoll
    exact hpoll
  calm := ⟨h.attached, rfl, rfl, rfl, mask, settled, injected, loads⟩

theorem advance_ends {s : Simulator} {memory : Memory} (final : a.pending? = none) :
    (c.proceed ⟨s, memory, none⟩ 0 a).advance = c.concluded s memory a := by
  have h := advance_eq (c := c.proceed ⟨s, memory, none⟩ 0 a) rfl
  rw [final] at h
  exact h

theorem Poised.served (h : c.Poised a command) (selected : c.bus.hardware.card.state = .transfer)
    {t : Transfer} {argument : UInt32} {id : BufferId} (asks : t.IsCommand argument id command)
    (there : id < c.bus.memory.buffers.size) (apart : c.bounce ≠ id)
    (room : (c.buffer id).length ≤ if t.toCard then Staging.capacity else Simulator.maxMapping) :
    ∃ k s memory last, k ≤ 3 ∧
      Called k (c.launch command) (c.proceed ⟨s, memory, none⟩ 0 (a.replace last)).advance ∧
      c.Delivers t argument id s memory last := by
  cases ht : t.toCard with
  | false =>
    rw [if_neg (by rw [ht]; decide)] at room
    exact h.served_read selected asks ht there room
  | true =>
    rw [if_pos ht] at room
    exact h.served_write selected asks ht apart room

theorem Delivers.poised {t : Transfer} {argument : UInt32} {id : BufferId} {s : Simulator}
    {memory : Memory} {last stop : Command BufferId} (d : c.Delivers t argument id s memory last)
    (h : c.Poised a command) (pending : a.pending? = some stop) :
    (c.proceed ⟨s, memory, none⟩ 0 { a.replace last with phase := .stop }).Poised
      { a.replace last with phase := .stop } stop where
  attached := h.attached
  active := rfl
  current := Active.current?_stopping pending last
  count := rfl
  mapping := rfl
  mask := d.mask
  healthy := d.healthy
  soc := d.soc.trans h.soc
  bounce := (d.alike.2 c.bounce).trans h.bounce
  plain := d.card.applicationNext.trans h.plain

structure Closes (c : Controller Simulator) (t : Transfer) (argument : UInt32) (id : BufferId) (a : Active)
    (s : Simulator) (memory : Memory) (result : Active) : Prop where
  healthy : s.Healthy
  soc : s.soc = c.bus.hardware.soc
  alike : c.bus.memory.Alike memory
  mask : s.mask = 0
  card : ∃ latched, s.card =
    { c.bus.hardware.card with medium := s.card.medium, phase := none, state := .transfer, latched }
  ticket : result.ticket = a.ticket
  outcome : t.Outcome c.bus.hardware.card argument (c.buffer id) (result.request.command.map memory.get)
    s.card.medium
  stop : result.request.stop.map (·.error) = a.request.stop.map fun _ => none

section

variable {t : Transfer} {argument : UInt32} {id : BufferId} {s : Simulator} {memory : Memory}
  {last stop : Command BufferId}

theorem Delivers.closes_single (d : c.Delivers t argument id s memory last) (phase : a.phase = .command)
    (single : t.multiple = false) (alone : a.request.stop = none)
    (outcome : t.Outcome c.bus.hardware.card argument (c.buffer id) (last.map memory.get) s.card.medium) :
    (c.proceed ⟨s, memory, none⟩ 0 (a.replace last)).advance = c.concluded s memory (a.replace last) ∧
      c.Closes t argument id a s memory (a.replace last) := by
  obtain ⟨phase', state', latched, hcard⟩ := d.card.frame
  obtain ⟨hstate, hphase⟩ := d.card.closed single
  have hfinal : (a.replace last).pending? = none := by
    rw [Active.pending?_replace, Active.pending?, phase]
    exact alone
  have hkept : (a.replace last).request.stop = none := by
    rw [Active.pending?, Active.phase_replace, phase] at hfinal
    exact hfinal
  refine ⟨advance_ends hfinal, d.healthy, d.soc, d.alike, d.mask, ⟨latched, ?_⟩, Active.ticket_replace a last, ?_, ?_⟩
  · rw [hcard] at hstate hphase ⊢
    simp only at hstate hphase
    rw [hstate, hphase]
  · rw [Active.replace_command phase last]
    exact outcome
  · rw [hkept, alone]
    rfl

/-- The card may still be in the data phase of several blocks, which only the stop closes. -/
theorem Delivers.closes_multiple (d : c.Delivers t argument id s memory last)
    (h : c.Poised a a.request.command) (phase : a.phase = .command) (stops : a.request.stop = some stop)
    (opcode : stop.opcode = Opcode.stopTransmission) (data : stop.data = none)
    (outcome : t.Outcome c.bus.hardware.card argument (c.buffer id) (last.map memory.get) s.card.medium) :
    ∃ s' result, Called 1 (c.proceed ⟨s, memory, none⟩ 0 (a.replace last)).advance (c.concluded s' memory result) ∧
      c.Closes t argument id a s' memory result := by
  obtain ⟨phase', state', latched, hcard⟩ := d.card.frame
  have hmore : a.pending? = some stop := by
    rw [Active.pending?, phase]
    exact stops
  obtain ⟨s', answer, hended, hhealthy, hmask, hsoc, hcard'⟩ := (d.poised h hmore).served_stop
    d.card.transferring opcode data
  have hlast := (Active.pending?_replace a last).trans hmore
  rw [advance_stops rfl hlast]
  generalize hresult : ({ a.replace last with phase := .stop } : Active).replace (answered stop none answer) =
    result at hended
  have hfinal : result.pending? = none := by
    rw [← hresult, Active.pending?_replace]
    rfl
  rw [advance_ends hfinal] at hended
  have hmedium : s'.card.medium = s.card.medium := by
    rw [hcard']
    rfl
  refine ⟨s', result, hended, hhealthy, hsoc.trans d.soc, d.alike, hmask, ⟨0, ?_⟩, ?_, ?_, ?_⟩
  · rw [hmedium, hcard']
    change { s.card with phase := none, state := .transfer, latched := 0 } = _
    rw [hcard]
  · rw [← hresult, Active.ticket_replace]
    exact Active.ticket_replace a last
  · rw [← hresult, Active.command_replace rfl, hmedium]
    change t.Outcome _ _ _ ((a.replace last).request.command.map memory.get) _
    rw [Active.replace_command phase last]
    exact outcome
  · have hanswered : result.request.stop = some (answered stop none answer) := by
      rw [← hresult]
      change (a.replace last).request.stop.map _ = _
      rw [Active.stop_replace hmore]
      rfl
    rw [hanswered, stops]
    rfl

end

theorem Poised.served_request (h : c.Poised a a.request.command) (phase : a.phase = .command)
    (selected : c.bus.hardware.card.state = .transfer) {t : Transfer} {argument : UInt32}
    {id : BufferId} (asks : t.Asks argument id a.request)
    (there : id < c.bus.memory.buffers.size) (apart : c.bounce ≠ id)
    (words : (c.buffer id).length % 4 = 0)
    (short : if t.toCard then (c.buffer id).length ≤ Staging.capacity
      else (c.buffer id).length < 65536) :
    ∃ k s memory result, k ≤ 4 ∧
      Called k (c.launch a.request.command) (c.concluded s memory result) ∧
      c.Closes t argument id a s memory result := by
  have room : (c.buffer id).length ≤ if t.toCard then Staging.capacity else Simulator.maxMapping := by
    cases ht : t.toCard with
    | false =>
      rw [if_neg (by rw [ht]; decide)] at short
      exact Nat.le_trans (Nat.le_of_lt short) (by decide)
    | true =>
      rw [if_pos ht] at short
      exact short
  obtain ⟨k, s, memory, last, hk, hcalled, hdelivers⟩ := h.served selected asks.command there apart
    room
  have houtcome := hdelivers.account.whole (t.carried_words _ words short)
  cases hm : t.multiple with
  | false =>
    obtain ⟨hends, hcloses⟩ := hdelivers.closes_single phase hm (asks.single hm) houtcome
    rw [hends] at hcalled
    exact ⟨k, s, memory, _, Nat.le_succ_of_le hk, hcalled, hcloses⟩
  | true =>
    obtain ⟨stop, hstop, hopcode, hdata⟩ := asks.multiple hm
    obtain ⟨s', result, hended, hcloses⟩ := hdelivers.closes_multiple h phase hstop hopcode hdata houtcome
    exact ⟨k + 1, s', memory, result, Nat.succ_le_succ hk, hcalled.trans hended, hcloses⟩

theorem Calm.poised_take (h : c.Calm) (enabled : c.bus.hardware.enabled = true)
    (plain : c.bus.hardware.card.applicationNext = false) (request : Request Bytes) :
    (c.take request).Poised (c.accepted request) (c.accepted request).request.command where
  attached := h.attached
  active := rfl
  current := rfl
  count := h.count
  mapping := h.mapping
  mask := h.mask
  healthy := ⟨h.settled.still, enabled, h.injected, h.loads⟩
  soc := h.settled.soc
  bounce := (h.settled.take request).bounce
  plain := plain

theorem Calm.transfer_finishes (h : c.Calm) (enabled : c.bus.hardware.enabled = true)
    (selected : c.bus.hardware.card.state = .transfer)
    (plain : c.bus.hardware.card.applicationNext = false) {t : Transfer} {argument : UInt32}
    {buffer : Bytes} (words : buffer.length % 4 = 0)
    (short : if t.toCard then buffer.length ≤ 512 else buffer.length < 65536)
    {request : Request Bytes} (asks : t.Asks argument buffer request) :
    ∃ k served result medium latched, k ≤ 4 ∧ c.Finishes request k served result ∧
      t.Outcome c.bus.hardware.card argument buffer result.command medium ∧
      (result.stop.map (·.error) = request.stop.map fun _ => none) ∧
      served.bus.hardware.card =
        { c.bus.hardware.card with medium, phase := none, state := .transfer, latched } ∧
      served.bus.hardware.enabled = true := by
  obtain ⟨id, hasks, hbuffer, hnew, hthere⟩ := asks.place c.bus.memory
  have hbounce := Controller.bounce_lt h.settled.bounce
  have hpoised := h.poised_take enabled plain request
  have hplaced : (c.take request).buffer id = buffer := hbuffer
  obtain ⟨k, s, memory, result, hk, hcalled, hcloses⟩ := hpoised.served_request rfl selected hasks hthere
    (Nat.ne_of_lt (Nat.lt_of_lt_of_le hbounce hnew)) (by rw [hplaced]; exact words) (by rw [hplaced]; exact short)
  have houtcome := hcloses.outcome
  rw [hplaced] at houtcome
  have hsettled : ((c.take request).concluded s memory result).Settled :=
    ⟨hcloses.healthy.still, hcloses.soc.trans h.settled.soc,
      (hcloses.alike.2 c.bounce).trans (h.settled.take request).bounce⟩
  obtain ⟨latched, hcard⟩ := hcloses.card
  refine ⟨k, _, _, s.card.medium, latched, hk, h.composed.finishes hcalled hcloses.ticket hsettled hcloses.mask
    hcloses.healthy.injected hcloses.healthy.loads, houtcome, ?_, hcard, hcloses.healthy.enabled⟩
  have hsame : (c.accepted request).request.stop.map (fun _ => (none : Option CommandError)) =
      request.stop.map fun _ => none := by
    have h := congrArg (fun r : Request Bytes => r.stop.map fun _ => (none : Option CommandError))
      (c.bus.memory.map_place request)
    simp only [Request.map, Option.map_map, Function.comp_def] at h
    exact h
  rw [← hsame, ← hcloses.stop]
  simp [Request.map, Command.map, Function.comp_def]

theorem free_after (unit : UInt32) (board : Board) (options : Options) (sim : Simulator)
    (operations : List Operation)
    (reached : (System.start unit board options sim).after operations = .whole c)
    (idle : c.active = none) (count : c.mapped = 0) :
    c.bus.mapping = none ∧ c.bus.hardware.mask = 0 := by
  have hstart : (System.start unit board options sim).Balanced false :=
    balanced_attach unit board options sim
  have h := System.balanced_after hstart (.start unit board options sim) operations
  rw [reached] at h
  have hrests := Balanced.rests h idle
  have hcount := hrests.count
  refine ⟨?_, hrests.mask⟩
  rw [count] at hcount
  cases hm : c.bus.mapping with
  | none => rfl
  | some m =>
    rw [hm] at hcount
    cases hcount

end Controller

/-- A transfer of some bytes at an offset of a selected card, asked for at a free controller on a simulator
of its chip: at most four calls of the handler serve it, and its handle answers the result. If the card has
all of the bytes, a read brings them and a write replaces them, and there is no error. Otherwise an error is
reported, and the card stores what it stored before. The card is back between its transfers either way, and
the controller is free, with nothing mapped. -/
theorem block_transfer_served (unit : UInt32) (board : Board) (options : Options) (sim : Simulator)
    (soc : sim.soc = board.soc) (operations : List Operation) {c : Controller Simulator}
    (reached : (System.start unit board options sim).after operations = .whole c)
    (attached : c.detached = false) (idle : c.active = none) (unmapped : c.mapped = 0)
    (enabled : c.bus.hardware.enabled = true) (injected : c.bus.hardware.injected = 0)
    (loads : c.bus.hardware.failNextLoad = false)
    (selected : c.bus.hardware.card.state = .transfer)
    (plain : c.bus.hardware.card.applicationNext = false) (t : Transfer) (argument : UInt32)
    (buffer : Bytes) (words : buffer.length % 4 = 0)
    (short : if t.toCard then buffer.length ≤ 512 else buffer.length < 65536)
    {request : Request Bytes} (asks : t.Asks argument buffer request) {limit : Nat}
    (enough : 4 ≤ limit) :
    ∃ submitted calls served result medium latched,
      c.submit request = (.ok c.tickets.size, submitted) ∧
      submitted.serveLine limit = (calls, served) ∧ calls ≤ 4 ∧
      InterruptLine.asserted served.bus.hardware = false ∧
      (served.toParts.poll c.tickets.size).1 = .ok (some result) ∧
      t.Outcome c.bus.hardware.card argument buffer result.command medium ∧
      (result.stop.map (·.error) = request.stop.map fun _ => none) ∧
      served.bus.hardware.card =
        { c.bus.hardware.card with medium, phase := none, state := .transfer, latched } ∧
      served.active = none ∧ served.mapped = 0 ∧ served.bus.mapping = none := by
  obtain ⟨mapping, mask⟩ := Controller.free_after unit board options sim operations reached idle
    unmapped
  have hsettled := Controller.settled_after unit board options sim soc operations reached
  have hcalm : c.Calm := ⟨attached, idle, unmapped, mapping, mask, hsettled, injected, loads⟩
  obtain ⟨k, served, result, medium, latched, hk, hfinishes, houtcome, hstop, hcard, -⟩ :=
    hcalm.transfer_finishes enabled selected plain words short asks
  obtain ⟨submitted, hsubmit, hcalled⟩ := hfinishes.called
  exact ⟨submitted, k, served, result, medium, latched, hsubmit,
    hcalled.serveLine hfinishes.quiet (Nat.le_trans hk enough), hk, hfinishes.quiet, hfinishes.polled,
    houtcome, hstop, hcard, hfinishes.calm.idle, hfinishes.calm.count, hfinishes.calm.mapping⟩

theorem padded_words_written :
    let sim : Simulator :=
      { soc := .sam9260, card := { medium := Medium.blank 1024, state := .transfer } }
    let payload : Bytes := [1, 2, 3, 4, 5, 6, 7, 8]
    let write : Request Bytes :=
      { command :=
          { opcode := Opcode.writeBlocks
            argument := 512
            flags := .r1
            data := some ⟨payload, DataFlags.write.multiple, 0⟩ }
        stop := some Request.stopTransmission }
    ∃ c submitted calls served result,
      (System.start 0 (Board.reference .sam9260) .default sim).after
          [.writeProperty (.powerMode .on), .acquire] = .whole c ∧
        c.submit write = (.ok 0, submitted) ∧ submitted.serveLine 4 = (calls, served) ∧
        (served.toParts.poll 0).1 = .ok (some result) ∧ result.command.error = none ∧
        result.command.data = some ⟨payload, DataFlags.write.multiple, 8⟩ ∧
        served.bus.hardware.card.medium = sim.card.medium.patch 512 payload := by
  intro sim payload write
  have asks : (⟨true, true⟩ : Transfer).Asks 512 payload write :=
    ⟨⟨rfl, rfl, rfl, 0, rfl⟩, nofun, fun _ => ⟨_, rfl, rfl, rfl⟩⟩
  obtain ⟨submitted, calls, served, result, medium, latched, hsubmit, hserve, -, -, hpoll, houtcome, -,
    hcard, -⟩ := block_transfer_served 0 (Board.reference .sam9260) .default sim rfl
      [.writeProperty (.powerMode .on), .acquire] rfl rfl rfl rfl rfl rfl rfl rfl rfl
      ⟨true, true⟩ 512 payload (by decide) (by decide) asks (Nat.le_refl 4)
  obtain ⟨herror, hdata, hmedium⟩ := houtcome.done (by decide)
  refine ⟨_, submitted, calls, served, result, rfl, hsubmit, hserve, hpoll, herror, hdata, ?_⟩
  rw [hcard]
  exact hmedium

end CardHost
