import CardHost.Proofs.FailedSetups

namespace CardHost

open Bus

theorem Command.buffers_of_blank {B : Type} {c c' : Command B} (same : c'.blank = c.blank) :
    c'.buffers = c.buffers := by
  rw [← c'.buffers_blank, same, c.buffers_blank]

theorem Active.replace_at_stop {a : Active} {stop : Command BufferId} (pending : a.pending? = some stop)
    (command stop' : Command BufferId) :
    ({ a.replace command with phase := .stop } : Active).replace stop' =
      ⟨a.ticket, ⟨command, some stop'⟩, .stop⟩ := by
  obtain ⟨ticket, ⟨first, next⟩, phase⟩ := a
  cases phase with
  | command =>
    cases pending
    rfl
  | stop => cases pending

namespace Controller

variable {H : Type} [Hardware H] {c c' : Controller H} {a : Active} {command stop : Command BufferId}
  {id : BufferId} {n : Nat}

def Obstructed (c : Controller H) (command : Command BufferId) : Prop :=
  ∃ data, command.data = some data ∧ data.flags.transfers = true ∧
    (c.overlong data ∨ 0 < c.mapped ∨ ∃ e, ((c.staging data).mapData data).1 = .error e)

theorem Obstructed.unmappable (ha : c.active = some a) (hc : a.current? = some command)
    (h : c.Obstructed command) : c.Unmappable command := by
  obtain ⟨data, hd, transfers, reason⟩ := h
  by_cases obstacle : c.overlong data ∨ 0 < c.mapped
  · obtain ⟨l, bus, -, hl⟩ := launch_launches (c := c) ha hc
    refine (launch_active ha hc).mp ?_
    have same {data' : Payload BufferId} (hd' : command.data = some data') : data' = data :=
      Option.some.inj (hd'.symm.trans hd)
    generalize c.launch command = c' at hl ⊢
    cases hl with
    | plain none =>
      rw [hd] at none
      cases none
    | idle data' _ hd' still =>
      rw [same hd', transfers] at still
      cases still
    | read data' _ _ _ hd' isRead free =>
      rw [same hd'] at isRead
      rcases obstacle with ⟨isWrite, -⟩ | taken
      · rw [isRead] at isWrite
        cases isWrite
      · exact (Nat.ne_of_gt taken free).elim
    | write data' _ _ _ _ hd' _ _ free fits =>
      rw [same hd'] at fits
      rcases obstacle with overlong | taken
      · exact (fits overlong).elim
      · exact (Nat.ne_of_gt taken free).elim
    | unstaged => rfl
    | refused => rfl
  · rw [or_assoc.symm] at reason
    obtain ⟨e, fails⟩ := reason.resolve_left obstacle
    exact ⟨data, e, hd, transfers, fails⟩

theorem conclude_stop (ha : c.active = some a) (hc : a.current? = some command)
    (pending : a.pending? = some stop) (found : Command BufferId) (error : Option CommandError) :
    ∃ words bus, words.length = found.flags.words ∧ Performs c.bus (ending words) bus ∧
      c.conclude found error = (c.proceed bus c.mapped
        { a.replace (answered command error words) with phase := .stop }).launch stop ∧
      ∀ id, Spares id c (c.proceed bus c.mapped
        { a.replace (answered command error words) with phase := .stop }) := by
  have hm := modifyCurrent_eq (c := c) ha hc fun cmd => { cmd with error }
  obtain ⟨words, bus, hlen, hp, he⟩ := readResponse_eq
    (c := (c.modifyCurrent fun cmd => { cmd with error }).write Register.disable Status.all)
    (congrArg Controller.active hm) (Active.current?_replace hc _) 0 found.flags.words
  have spares (id : BufferId) : Spares id c
      (((c.modifyCurrent fun cmd => { cmd with error }).write Register.disable Status.all).readResponse 0
        found.flags.words) := by
    have noted : Spares id c (c.modifyCurrent fun cmd => { cmd with error }) := .of_eq rfl rfl
    exact noted.trans ((spares_write _ _ _).trans (spares_readResponse _ _ _))
  rw [he] at spares
  rw [hm] at hp
  refine ⟨words, bus, hlen, .write _ _ hp, ?_, fun id => (spares id).trans (.of_eq rfl ?_)⟩
  · have next : (a.replace (answered command error words)).pending? = some stop := by
      rw [Active.pending?_replace, pending]
    simp only [conclude]
    rw [he, hm, Active.replace_replace]
    exact advance_stops rfl next
  · rw [hm]
    rfl

/-- An interrupt that ends a command comes to its stop: the accesses so far, the command as they leave it, and the
controller that is about to launch the stop. -/
structure ComesToStop (c : Controller H) (a : Active) (stop : Command BufferId) (primary : List Access)
    (last : Command BufferId) (mid : Controller H) : Prop where
  launches : c.interrupt = mid.launch stop
  performs : Performs c.bus primary mid.bus
  same : ∃ bus mapped, mid = c.proceed bus mapped { a.replace last with phase := .stop }
  settles : Settles a.request.command primary last.outcome
  blank : last.blank = a.request.command.blank
  data : last.data = (if anyBit c.observed Status.errors then a.request.command
    else c.staged a.request.command c.observed).data
  balance : c.mapped ≤ 1 → Balance c.mapped primary mid.mapped
  spares : ∀ id, id ∉ a.request.command.buffers → Spares id c mid

theorem ComesToStop.obstructed {primary : List Access} {last : Command BufferId} {mid : Controller H}
    (h : c.ComesToStop a stop primary last mid) {handed : Command Bytes} (bytes : stop.map mid.buffer = handed)
    {data : Payload Bytes} (hd : handed.data = some data) (isWrite : data.flags.isRead = false)
    (transfers : data.flags.transfers = true) (long : (c.buffer c.bounce).length < data.buffer.length) :
    mid.Obstructed stop := by
  subst bytes
  obtain ⟨own, hown, rfl⟩ := Option.map_eq_some_iff.mp hd
  have bounce : (mid.buffer mid.bounce).length = (c.buffer c.bounce).length := by
    obtain ⟨bus, mapped, hmid⟩ := h.same
    rw [show mid.bounce = c.bounce by rw [hmid]; rfl]
    exact h.performs.alike.2 c.bounce
  refine ⟨own, hown, transfers, .inl ⟨isWrite, ?_⟩⟩
  rw [bounce]
  exact Nat.lt_of_lt_of_le long (Staging.le_length _ _ _)

omit [Hardware H] in
theorem Ends.data {status : UInt32} {l : List Access} {mapped : Nat} {last : Command BufferId}
    {error : Option CommandError} (h : c.Ends command status l mapped last error) :
    last.data = (if anyBit status Status.errors then command else c.staged command status).data := by
  cases h with
  | failed e faulty | forgiven faulty => rw [if_pos faulty]
  | ready clean => rw [clean, if_neg (by decide)]

theorem ends_come_to_stop {between : List Access} {bus : Bus H} {mapped : Nat} {last : Command BufferId}
    {error : Option CommandError} (pending : a.pending? = some stop)
    (hp : Performs c.bus (c.glance ++ between) bus)
    (ends : c.Ends a.request.command c.observed between mapped last error)
    (spares : ∀ id, id ∉ a.request.command.buffers → Spares id c (c.proceed bus mapped (a.replace last)))
    (launches : c.interrupt = (c.proceed bus mapped (a.replace last)).conclude a.request.command error) :
    ∃ primary last mid, c.ComesToStop a stop primary last mid := by
  obtain ⟨-, -, hc⟩ := Active.current?_of_pending pending
  obtain ⟨words, ended, hlen, hpe, he, later⟩ := conclude_stop
    (c := c.proceed bus mapped (a.replace last)) rfl (Active.current?_replace hc last)
    ((a.pending?_replace last).trans pending) a.request.command error
  rw [Active.replace_replace] at he later
  have silent (offset : Nat) (_ : offset ≠ Register.mode) : readings offset [] = [] := rfl
  obtain ⟨-, settles⟩ := ends.settles hlen silent
  rw [List.append_nil] at settles
  have hall := hp.trans hpe
  rw [List.append_assoc] at hall
  exact ⟨_, _, _, launches.trans he, hall, ⟨_, _, rfl⟩, settles, ends.blank,
    ends.data, fun count => ends.balance count words, fun id other => (spares id other).trans (later id)⟩

theorem interrupt_comes_to_stop (attached : c.detached = false) (ha : c.active = some a)
    (pending : a.pending? = some stop)
    (ending : anyBit c.observed (Status.errors ||| Status.commandReady) = true) :
    ∃ primary last mid, c.ComesToStop a stop primary last mid := by
  obtain ⟨-, -, hc⟩ := Active.current?_of_pending pending
  have hcur : c.current? = some a.request.command := current?_of_active ha hc
  have self : ({ c with bus := c.seen } : Controller H) =
      c.proceed c.seen c.mapped (a.replace a.request.command) := by
    rw [Active.replace_current hc, proceed, ← ha]
  have launches := interrupt_eq attached
  rw [hcur] at launches
  dsimp only at launches
  by_cases faulty : anyBit c.observed Status.errors = true
  · rw [if_pos faulty] at launches
    unfold serveError at launches
    cases error : CommandError.ofStatus? c.observed a.request.command.opcode with
    | none =>
      rw [error] at launches
      dsimp only at launches
      rw [self] at launches
      have forgiven : c.Ends a.request.command c.observed [] c.mapped a.request.command none :=
        .forgiven faulty error
      refine ends_come_to_stop pending (c.performs_glance (.done _)) forgiven (fun id _ => ?_) launches
      rw [← self]
      exact c.spares_seen
    | some e =>
      rw [error] at launches
      dsimp only at launches
      obtain ⟨bus, hp, hu⟩ := unload_eq ({ c with bus := c.seen } : Controller H)
      have released : ({ c with bus := c.seen } : Controller H).unload =
          c.proceed bus (c.mapped - 1) (a.replace a.request.command) := by
        rw [hu, Active.replace_current hc, proceed, ← ha]
      rw [released] at launches
      refine ends_come_to_stop pending (c.performs_glance hp) (.failed e faulty error) (fun id _ => ?_) launches
      rw [← released]
      exact c.spares_seen.trans (spares_unload _)
  · have clean := Bool.eq_false_iff.mpr faulty
    have ready : anyBit c.observed Status.commandReady = true := by
      rwa [anyBit_bits_or, clean, Bool.false_or] at ending
    obtain ⟨bus, hp, served⟩ := serveTransfer_eq (c := { c with bus := c.seen }) ha hc c.observed
    rw [if_neg faulty, serveStages_eq, if_pos ready, served] at launches
    refine ends_come_to_stop pending (c.performs_glance hp) (.ready clean ready) (fun id other => ?_) launches
    have spared := c.spares_seen.trans (spares_serveTransfer { c with bus := c.seen } other c.observed)
    rwa [served] at spared

/-- The stop of the request with a number, so long as its command is on the wire: out of reach, and as it was
handed in. -/
structure Shelves (c : Controller H) (n : Nat) (stop : Command Bytes) : Prop where
  old : n < c.tickets.size
  waits : ∀ a, c.active = some a → a.ticket = n → a.phase = .command → c.detached = false ∧
    c.bounce ∉ a.request.command.buffers ∧ ∃ placed, a.request.stop = some placed ∧
      placed.map c.buffer = stop ∧ ∀ id ∈ placed.buffers, c.Apart id

variable {handed : Command Bytes} {l : Ledger}

omit [Hardware H] in
theorem Shelves.keeps (h : c.Shelves n handed) (size : c'.tickets.size = c.tickets.size)
    (detached : c'.detached = c.detached)
    (active : ∀ a', c'.active = some a' → a'.phase = .command → c'.bounce = c.bounce ∧
      ∃ a, c.active = some a ∧ a.ticket = a'.ticket ∧ a.phase = .command ∧
        a'.request.command.buffers = a.request.command.buffers ∧ a'.request.stop = a.request.stop ∧
          ∀ placed, a.request.stop = some placed → ∀ id ∈ placed.buffers, Spares id c c') :
    c'.Shelves n handed := by
  refine ⟨size ▸ h.old, fun a' ha' hn first => ?_⟩
  obtain ⟨bounce, a, ha, ticket, phase, own, stop, spares⟩ := active a' ha' first
  obtain ⟨attached, beside, placed, hstop, bytes, apart⟩ := h.waits a ha (ticket.trans hn) phase
  have spared (id : BufferId) (hid : id ∈ placed.buffers) := spares placed hstop id hid (apart id hid)
  refine ⟨detached.trans attached, ?_, placed, stop.trans hstop, ?_, fun id hid => (spared id hid).1⟩
  · rwa [bounce, own]
  rw [← bytes]
  exact Command.map_congr fun id hid => (spared id hid).2

omit [Hardware H] in
theorem stop_apart (agrees : Agrees (.whole c) l) (ha : c.active = some a)
    (hstop : a.request.stop = some stop) : ∀ id ∈ stop.buffers, id ∉ a.request.command.buffers := by
  obtain ⟨-, e, entry, matched⟩ := agrees.active a ha
  have distinct : e.placed.buffers.Nodup :=
    (List.pairwise_flatMap.mp agrees.sound.distinct).1 _ (List.mem_map_of_mem (List.mem_of_getElem? entry))
  rw [← Request.buffers_of_blank matched.same, Request.buffers, hstop] at distinct
  exact fun id hid there => (List.nodup_append.mp distinct).2.2 id there id hid rfl

theorem Shelves.interrupt (h : c.Shelves n handed) (agrees : Agrees (.whole c) l) :
    c.interrupt.Shelves n handed := by
  by_cases hd : c.detached = true
  · rwa [Controller.interrupt, if_pos hd]
  have attached := Bool.eq_false_iff.mpr hd
  cases ha : c.active with
  | none =>
    obtain ⟨bus, -, he⟩ := interrupt_spurious attached (current?_of_idle ha)
    rw [he]
    refine h.keeps rfl rfl fun a' ha' => ?_
    rw [show ({ c with bus } : Controller H).active = c.active from rfl, ha] at ha'
    cases ha'
  | some a =>
    obtain ⟨command, hc⟩ := Option.isSome_iff_exists.mp (agrees.current a ha)
    have interrupted : ((System.whole c).step .interrupt).2 = .whole c.interrupt := rfl
    have detached : c.interrupt.detached = c.detached := step_detached ha hc interrupted
    obtain ⟨l, bus, -, hserves⟩ := interrupt_serves attached ha hc
    have spares (id : BufferId) (other : id ∉ command.buffers) := spares_between attached ha hc other
    generalize c.interrupt = c' at hserves detached spares
    cases hserves with
    | continues clean unready =>
      refine h.keeps rfl detached fun a' ha' first => ?_
      cases ha'
      rw [Active.phase_replace] at first
      have own := (Active.command_of_current first hc).symm
      have buffers : (a.replace (c.staged command c.observed)).request.command.buffers =
          a.request.command.buffers := by
        rw [Active.replace_command first, Command.buffers_of_blank (blank_staged _ _), own]
      refine ⟨rfl, a, ha, (a.ticket_replace _).symm, first, buffers, Active.replace_stop first _,
        fun placed hstop id hid => ?_⟩
      exact spares id (own ▸ stop_apart agrees ha hstop id hid) clean unready
    | finishes =>
      refine h.keeps ?_ detached fun a' ha' => ?_
      · rw [delivered, Array.size_modify]
      · cases ha'
    | @stops _ _ _ last stop error _ _ words pending _ _ _ _ launches =>
      have hstop := Active.current?_stopping pending (answered last error words)
      have size := launches.size_tickets rfl hstop
      refine h.keeps size detached fun a' ha' first => ?_
      obtain ⟨command', rfl, -⟩ := launches.stays rfl hstop ha'
      rw [Active.phase_replace] at first
      cases first

theorem Shelves.submit (h : c.Shelves n handed) (request : Request Bytes) :
    (c.submit request).2.Shelves n handed := by
  have hsubmits := c.submits request
  generalize (c.submit request).2 = c' at hsubmits ⊢
  cases hsubmits with
  | refuses => exact h
  | launches attached idle performs launches =>
    have size : (c.take request).tickets.size = c.tickets.size + 1 := Array.size_push _
    have newer : (c.accepted request).ticket ≠ n := Nat.ne_of_gt h.old
    refine ⟨?_, fun a' ha' hn => ?_⟩
    · rw [launches.size_tickets rfl rfl, size]
      exact Nat.lt_succ_of_lt h.old
    · obtain ⟨command', rfl, -⟩ := launches.stays rfl rfl ha'
      rw [Active.ticket_replace] at hn
      exact (newer hn).elim

theorem Shelves.perform (h : c.Shelves n handed) (current : ∀ a, c.active = some a → a.current?.isSome = true)
    (operation : Operation) (quiet : operation.isQuiet = true) :
    (c.perform operation).2.Holds (·.Shelves n handed) := by
  have handle (m : Nat) : operation ≠ .poll m ∧ operation ≠ .drop m := by
    constructor <;> rintro rfl <;> cases quiet
  obtain ⟨c', l, performed, -, -, keeps, -⟩ := c.perform_quiet quiet
  rw [performed]
  cases ha : c.active with
  | none =>
    refine ⟨keeps.tickets ▸ h.old, fun a' ha' => ?_⟩
    rw [keeps.active, ha] at ha'
    cases ha'
  | some a =>
    obtain ⟨command, hc⟩ := Option.isSome_iff_exists.mp (current a ha)
    have detached := step_detached ha hc ((congrArg Prod.snd (System.step_whole c handle)).trans performed)
    refine h.keeps (congrArg Array.size keeps.tickets) detached fun a' ha' first => ?_
    rw [keeps.active, ha] at ha'
    cases ha'
    exact ⟨keeps.bounce, a, ha, rfl, first, rfl, rfl, fun _ _ id _ => spares_perform quiet performed⟩

theorem shelves_submit (h : c.Contained) (attached : c.detached = false) (idle : c.active = none)
    {request : Request Bytes} (hstop : request.stop = some handed) :
    (c.submit request).2.Shelves c.tickets.size handed := by
  obtain ⟨l, bus, -, hl, -⟩ := c.submit_launches attached idle request
  have bytes := congrArg Request.stop (c.bus.memory.map_place request)
  rw [hstop] at bytes
  obtain ⟨placed, hplaced, bytes⟩ := Option.map_eq_some_iff.mp bytes
  have spares (id : BufferId) (hid : id ∈ placed.buffers) :
      Spares id (c.take request) ((c.take request).launch (c.accepted request).request.command) :=
    spares_launch _ (c.bus.memory.place_distinct request hplaced hid)
  have own (id : BufferId) (hid : id ∈ placed.buffers) : (c.take request).Apart id :=
    h.spares_new request id (Active.stop_buffers (c.accepted request) hplaced id hid)
  have launches : (c.submit request).2 =
      (c.take request).launch (c.accepted request).request.command := by
    rw [submit_idle attached idle]
  rw [← launches] at spares
  have size : (c.take request).tickets.size = c.tickets.size + 1 := Array.size_push _
  have frame : (c.submit request).2.detached = false ∧ (c.submit request).2.bounce = c.bounce := by
    generalize (c.submit request).2 = c' at hl
    cases hl <;> exact ⟨attached, rfl⟩
  generalize (c.submit request).2 = c' at hl spares frame
  refine ⟨?_, fun a ha _ _ => ?_⟩
  · rw [hl.size_tickets rfl rfl, size]
    exact Nat.lt_succ_self _
  obtain ⟨command', rfl, blank⟩ := hl.stays rfl rfl ha
  refine ⟨frame.1, ?_, placed, (Active.replace_stop (a := c.accepted request) rfl _).trans hplaced, ?_,
    fun id hid => (spares id hid (own id hid)).1⟩
  · rw [frame.2, Active.replace_command rfl, Command.buffers_of_blank blank]
    exact fun there => (h.spares_new request c.bounce (List.mem_append_left _ there)).bounce rfl
  · rw [← bytes]
    exact Command.map_congr fun id hid => (spares id hid (own id hid)).2

omit [Hardware H] in
theorem waiting_of_held (agrees : Agrees (.whole c) l) (ha : c.active = some a)
    (held : c.toParts.held a.ticket = true) : c.tickets[a.ticket]? = some .waiting := by
  obtain ⟨-, e, entry, matched⟩ := agrees.active a ha
  have ticket : c.tickets[a.ticket]? = some e.ticket := by
    have there := agrees.ticket a.ticket
    rwa [entry, Option.map_some] at there
  rw [Parts.held, ticket] at held
  rw [ticket]
  unfold Entry.ticket at held ⊢
  rw [matched.fate] at held ⊢
  cases hheld : e.held with
  | true => rfl
  | false =>
    rw [hheld] at held
    cases held

theorem stop_failed (h : c.Shelves n handed) (agrees : Agrees (.whole c) l) (ha : c.active = some a)
    (hn : a.ticket = n) (first : a.phase = .command)
    (ending : anyBit c.observed (Status.errors ||| Status.commandReady) = true) :
    ∃ stop primary last mid, c.ComesToStop a stop primary last mid ∧ stop.map mid.buffer = handed ∧
      (mid.Obstructed stop → ∃ setup, Performs mid.bus setup c.interrupt.bus ∧
        setup.all Access.prepares = true ∧ c.interrupt.mapped = mid.mapped ∧ c.interrupt.active = none ∧
        (c.toParts.held n = true → (c.interrupt.toParts.poll n).1 =
          .ok (some ⟨last.map c.interrupt.buffer, some handed.unsent⟩)) ∧
        ((∀ m, mid.bus.mapping = some m → m.buffer ∉ last.buffers) →
          last.map c.interrupt.buffer = last.map mid.buffer)) := by
  subst hn
  obtain ⟨attached, beside, stop, hstop, bytes, apart⟩ := h.waits a ha rfl first
  have pending : a.pending? = some stop := by
    rw [Active.pending?, first]
    exact hstop
  obtain ⟨primary, last, mid, comes⟩ := interrupt_comes_to_stop attached ha pending ending
  have left (id : BufferId) (hid : id ∈ stop.buffers) :=
    comes.spares id (stop_apart agrees ha hstop id hid) (apart id hid)
  have shelved : stop.map mid.buffer = handed :=
    (Command.map_congr fun id hid => (left id hid).2).trans bytes
  refine ⟨stop, primary, last, mid, comes, shelved, fun obstructed => ?_⟩
  obtain ⟨bus, mapped, hmid⟩ := comes.same
  have hactive : mid.active = some { a.replace last with phase := .stop } := by rw [hmid, proceed]
  have hcurrent := Active.current?_stopping pending last
  have fails := obstructed.unmappable hactive hcurrent
  obtain ⟨after, setup, hp, prepares, he⟩ := launch_failed hactive hcurrent fails
  have spares (id : BufferId) : Spares id mid c.interrupt := comes.launches ▸ spares_launch_failed fails
  have result := comes.launches.trans he
  refine ⟨setup, by rw [result]; exact hp, prepares, by rw [result], by rw [result], fun held => ?_,
    fun unmapped => Command.map_congr fun id hid => ?_⟩
  · have untouched : stop.map c.interrupt.buffer = handed :=
      (Command.map_congr fun id hid => (spares id (left id hid).1).2).trans shelved
    have tickets : c.interrupt.tickets =
        delivered c.tickets ⟨a.ticket, ⟨last, some (Controller.unmapped stop)⟩, .stop⟩ := by
      rw [result, hmid, proceed]
      dsimp only
      rw [Active.replace_at_stop pending]
    have waiting := waiting_of_held agrees ha held
    refine (Parts.poll_delivered (a := ⟨a.ticket, _, _⟩) tickets waiting).trans ?_
    rw [← untouched, ← Command.map_unmapped]
    rfl
  · refine (spares id ⟨?_, fun m hm there => unmapped m hm (there ▸ hid)⟩).2
    rw [hmid]
    rintro rfl
    exact beside (Command.buffers_of_blank comes.blank ▸ hid)

theorem shelves_enduring (n : Nat) (handed : Command Bytes) :
    Enduring (H := H) (·.Shelves n handed) where
  submit _ request h := h.submit request
  interrupt _ _ agrees h := h.interrupt agrees
  perform _ _ operation agrees quiet h := h.perform agrees.current operation quiet
  setTicket c m value h := by
    refine h.keeps Array.size_setIfInBounds rfl fun a ha first => ⟨rfl, a, ha, rfl, first, rfl, rfl, ?_⟩
    exact fun _ _ id _ => .of_eq rfl rfl
  prod c inner h :=
    h.keeps rfl rfl fun a ha first => ⟨rfl, a, ha, rfl, first, rfl, rfl, fun _ _ id _ apart =>
      ⟨⟨apart.bounce, apart.mapping⟩, rfl⟩⟩

end Controller

end CardHost
