import CardHost.Proofs.Likeness
import CardHost.Proofs.Retained

namespace CardHost

open Bus

theorem Staging.stage_congr {bounce bounce' : Bytes} (length : bounce'.length = bounce.length)
    (source : Bytes) (pad : Bool) (minimum : Nat) (swap : Bool) :
    (∃ e, stage bounce source pad minimum swap = .error e ∧
        stage bounce' source pad minimum swap = .error e) ∨
      ∃ n bytes bytes', stage bounce source pad minimum swap = .ok (n, bytes) ∧
        stage bounce' source pad minimum swap = .ok (n, bytes') ∧
        bytes'.length = bytes.length ∧ bytes'.take n = bytes.take n := by
  have staged (base : Bytes) (fits : Staging.length source pad minimum ≤ base.length) :
      ((layout source pad minimum swap).overlay base).take (Staging.length source pad minimum) =
        layout source pad minimum swap := by
    have whole := length_layout source pad minimum swap
    rw [← whole] at fits ⊢
    exact Bytes.take_overlay fits
  simp only [stage, length]
  split
  · exact .inl ⟨_, rfl, rfl⟩
  · next fits =>
    have fits := Nat.le_of_not_lt fits
    refine .inr ⟨_, _, _, rfl, rfl, ?_, ?_⟩
    · rw [Bytes.length_overlay, Bytes.length_overlay, length]
    · rw [staged bounce' (length ▸ fits), staged bounce fits]

namespace Controller

variable {H : Type} {N : Renumbering} {B B' : Bus H → Bus H → Prop} {c c' : Controller H}
  {command : Command BufferId} {data : Payload BufferId}

structure Related (N : Renumbering) (B : Bus H → Bus H → Prop) (c c' : Controller H) : Prop where
  same : ∃ bus tickets, c' = { c with bus, tickets, active := c.active.map N.active }
  site : c.bounce = N.bounce
  bus : B c.bus c'.bus
  tickets : Tickets.Doubles N c.tickets c'.tickets
  own : ∀ a, c.active = some a → N.bounce ∉ a.request.buffers
  ready : ∀ (n : Nat) (r : Request BufferId), c.tickets[n]? = some (.ready r) → N.bounce ∉ r.buffers

namespace Related

theorem active (h : Related N B c c') : c'.active = c.active.map N.active := by
  obtain ⟨bus, tickets, rfl⟩ := h.same
  rfl

theorem mapped (h : Related N B c c') : c'.mapped = c.mapped := by
  obtain ⟨bus, tickets, rfl⟩ := h.same
  rfl

theorem bounce (h : Related N B c c') : c'.bounce = c.bounce := by
  obtain ⟨bus, tickets, rfl⟩ := h.same
  rfl

theorem board (h : Related N B c c') : c'.board = c.board := by
  obtain ⟨bus, tickets, rfl⟩ := h.same
  rfl

theorem detached (h : Related N B c c') : c'.detached = c.detached := by
  obtain ⟨bus, tickets, rfl⟩ := h.same
  rfl

theorem busy (h : Related N B c c') : c'.busy = c.busy := by
  rw [Controller.busy, h.active, Option.isSome_map, Controller.busy]

theorem rebus (h : Related N B c c') {b b' : Bus H} (bus : B' b b') :
    Related N B' { c with bus := b } { c' with bus := b' } := by
  obtain ⟨_, _, rfl⟩ := h.same
  exact ⟨⟨_, _, rfl⟩, h.site, bus, h.tickets, h.own, h.ready⟩

theorem remap (h : Related N B c c') (mapped : Nat) :
    Related N B { c with mapped } { c' with mapped } := by
  obtain ⟨_, _, rfl⟩ := h.same
  exact ⟨⟨_, _, rfl⟩, h.site, h.bus, h.tickets, h.own, h.ready⟩

theorem of_bus (h : Related N B c c') (weaker : B c.bus c'.bus → B' c.bus c'.bus) :
    Related N B' c c' :=
  ⟨h.same, h.site, weaker h.bus, h.tickets, h.own, h.ready⟩

theorem modify (h : Related N B c c') {f g : Command BufferId → Command BufferId}
    (same : ∀ command, g (command.map N.buffer) = (f command).map N.buffer)
    (apart : ∀ command : Command BufferId, N.bounce ∉ command.buffers → N.bounce ∉ (f command).buffers) :
    Related N B (c.modifyCurrent f) (c'.modifyCurrent g) := by
  obtain ⟨bus, tickets, rfl⟩ := h.same
  refine ⟨⟨bus, tickets, ?_⟩, h.site, h.bus, h.tickets, fun a ha => ?_, h.ready⟩
  · simp only [modifyCurrent, Option.map_map]
    congr 2
    exact funext fun a => N.modify_active a same
  · obtain ⟨⟨ticket, ⟨first, stop⟩, phase⟩, hactive, rfl⟩ := Option.map_eq_some_iff.mp ha
    have own := h.own _ hactive
    simp only [Request.buffers, List.mem_append, not_or] at own
    cases phase with
    | command =>
      simp only [Active.modify, Request.buffers, List.mem_append, not_or]
      exact ⟨apart first own.1, own.2⟩
    | stop =>
      simp only [Active.modify, Request.buffers, List.mem_append, not_or]
      refine ⟨own.1, ?_⟩
      cases stop with
      | none => exact List.not_mem_nil
      | some stop => exact apart stop own.2

theorem finish (h : Related N B c c') : Related N B c.finish c'.finish := by
  cases ha : c.active with
  | none =>
    have idle : c.finish = c := by simp only [Controller.finish, ha]
    have idle' : c'.finish = c' := by simp only [Controller.finish, h.active, ha, Option.map_none]
    rwa [idle, idle']
  | some a =>
    have ha' : c'.active = some (N.active a) := by rw [h.active, ha, Option.map_some]
    rw [finish_eq ha, finish_eq ha']
    obtain ⟨bus, tickets, rfl⟩ := h.same
    refine ⟨⟨bus, _, rfl⟩, h.site, h.bus, h.tickets.deliver a, ?_, fun n r hr => ?_⟩
    · rintro _ ⟨⟩
    · obtain before | ⟨-, rfl⟩ := ready_delivered hr
      · exact h.ready n r before
      · exact h.own a ha

end Related

variable [Hardware H] [InterruptLine H] {L : Likeness H}

abbrev Doubles (L : Likeness H) (N : Renumbering) (c c' : Controller H) : Prop :=
  Related N (Bus.Doubles N L.rests) c c'

namespace Doubles

theorem write (h : Doubles L N c c') {w : Nat × UInt32} (inert : isInert w = true) :
    Doubles L N (c.write w.1 w.2) (c'.write w.1 w.2) := h.rebus (h.bus.write L inert)

theorem writeAll (h : Doubles L N c c') {l : List (Nat × UInt32)} (inert : l.all isInert = true) :
    Doubles L N (c.writeAll l) (c'.writeAll l) := by
  rw [writeAll_eq, writeAll_eq]
  exact h.rebus (h.bus.writeAll L inert)

theorem read (h : Doubles L N c c') (offset : Nat) (mode : offset ≠ Register.mode)
    (channels : offset ≠ Register.channelStatus) :
    (c'.read offset).1 = (c.read offset).1 ∧ Doubles L N (c.read offset).2 (c'.read offset).2 := by
  obtain ⟨value, hardware⟩ := L.read h.bus.hardware offset mode channels
  exact ⟨value, h.rebus ⟨hardware, h.bus.held, h.bus.memory⟩⟩

theorem sync (h : Doubles L N c c') (point : SyncPoint) : Doubles L N (c.sync point) (c'.sync point) :=
  h.rebus ⟨L.sync h.bus.hardware point, h.bus.held, h.bus.memory⟩

theorem unload (h : Doubles L N c c') : Doubles L N c.unload c'.unload := by
  unfold Controller.unload
  rw [h.mapped]
  split
  · exact h
  · exact (h.rebus ⟨L.unload h.bus.hardware, rfl, h.bus.memory⟩).remap _

end Doubles

omit [Hardware H] [InterruptLine H] in
theorem inert_still (c : Controller H) (command : Command BufferId) (still : command.transfers = false) :
    isInert (Register.command, c.wireWord command) = true := by
  have quiet := c.wireWord_starts_nothing command still
  simpa [isInert] using quiet

theorem prepareData_related (h : Doubles L N c c') (length : Nat) :
    Related N (Bus.Doubles N L.poised) (c.prepareData length) (c'.prepareData length) := by
  have prepared (c : Controller H) : c.prepareData length = { c with bus := c.bus.prepare length } := rfl
  rw [prepared, prepared]
  exact h.rebus (h.bus.prepare L length)

inductive Attempted {α : Type} (failed done : Controller H → Controller H → Prop) :
    Except MappingError α × Controller H → Except MappingError α × Controller H → Prop
  | fails {c c' : Controller H} (e : MappingError) (related : failed c c') :
    Attempted failed done (.error e, c) (.error e, c')
  | succeeds {c c' : Controller H} (value : α) (related : done c c') :
    Attempted failed done (.ok value, c) (.ok value, c')

theorem load_related (h : Related N (Bus.Doubles N L.poised) c c') {buffer : BufferId} {length : Nat}
    (same : (c'.buffer (N.buffer buffer)).take length = (c.buffer buffer).take length)
    (direction : Direction) :
    Attempted (Related N (Bus.Doubles N L.poised)) (Related N (Bus.Aimed N L.poised))
      (c.load buffer length direction) (c'.load (N.buffer buffer) length direction) := by
  rw [load_eq, load_eq, h.mapped]
  split
  · exact .fails _ h
  · obtain ⟨answer, doubles, aimed⟩ := h.bus.load L same direction
    rw [answer]
    cases hr : (c.bus.load buffer length direction).1 with
    | error e => exact .fails _ ((h.rebus doubles).remap _)
    | ok address => exact .succeeds _ ((h.rebus (aimed address hr)).remap _)

theorem mapData_related (h : Related N (Bus.Doubles N L.poised) c c') (apart : data.buffer ≠ N.bounce) :
    Attempted (Related N (Bus.Doubles N L.poised)) (Related N (Bus.Aimed N L.poised)) (c.mapData data)
      (c'.mapData (data.map N.buffer)) := by
  have contents : c'.buffer (N.buffer data.buffer) = c.buffer data.buffer := h.bus.memory.contents _ apart
  simp only [mapData, show (data.map N.buffer).flags = data.flags from rfl,
    show (data.map N.buffer).buffer = N.buffer data.buffer from rfl, contents, h.bounce, h.site, h.board]
  split
  · have loaded := load_related h (congrArg (List.take (c.buffer data.buffer).length) contents) .fromCard
    generalize c.load data.buffer _ .fromCard = r at loaded ⊢
    generalize c'.load (N.buffer data.buffer) _ .fromCard = r' at loaded ⊢
    cases loaded with
    | fails e related => exact .fails e related
    | succeeds address related => exact .succeeds _ related
  · have lengths : (c'.buffer N.bounce).length = (c.buffer N.bounce).length := h.bus.memory.length
    obtain ⟨e, he, he'⟩ | ⟨length, bytes, bytes', hs, hs', copied, same⟩ :=
      Staging.stage_congr lengths (c.buffer data.buffer) c.board.soc.secondRevision Staging.minLength
        c.board.soc.swapsBytes
    · simp only [he, he']
      exact .fails e h
    · simp only [hs, hs']
      -- what is staged is the same as far as it is mapped
      have set : Related N (Bus.Doubles N L.poised) (c.setBuffer N.bounce bytes)
          (c'.setBuffer (N.buffer N.bounce) bytes') :=
        h.rebus (h.bus.set N.bounce (fun other => (other rfl).elim) copied)
      have there := h.bus.memory.there
      have mapped : ((c'.setBuffer (N.buffer N.bounce) bytes').buffer (N.buffer N.bounce)).take length =
          ((c.setBuffer N.bounce bytes).buffer N.bounce).take length := by
        simp only [buffer, setBuffer, Memory.get_set, true_and, h.bus.memory.lt_size, there, if_true, same]
      have loaded := load_related set mapped .toCard
      rw [N.fixed] at loaded
      generalize (c.setBuffer N.bounce bytes).load N.bounce length .toCard = r at loaded ⊢
      generalize (c'.setBuffer N.bounce bytes').load N.bounce length .toCard = r' at loaded ⊢
      cases loaded with
      | fails e related => exact .fails e related
      | succeeds address related => exact .succeeds _ related

omit [Hardware H] [InterruptLine H] in
theorem wireWord_related (h : Related N B c c') (command : Command BufferId) :
    c'.wireWord (command.map N.buffer) = c.wireWord command := by
  obtain ⟨bus, tickets, rfl⟩ := h.same
  obtain ⟨opcode, argument, flags, data, error, response⟩ := command
  cases data <;> rfl

omit [InterruptLine H] in
theorem launch_still (hd : command.data = none) :
    c.launch command = c.writeAll (clearChannels ++ c.issuing command Status.commandReady) := by
  simp only [launch, hd, issuePlain, issuing, wireWord, Option.elim_none, UInt32.or_zero]

omit [InterruptLine H] in
theorem launch_waiting (hd : command.data = some data) (still : data.flags.transfers = false) :
    c.launch command =
      (c.prepareData (c.buffer data.buffer).length).writeAll (c.issuing command Status.commandReady) := by
  simp only [launch, hd, still, issueIdle, issuing, wireWord, Option.elim_some]
  rfl

omit [Hardware H] [InterruptLine H] in
theorem inert_issuing (c : Controller H) (command : Command BufferId) (still : command.transfers = false)
    (enabled : UInt32) : (c.issuing command enabled).all isInert = true := by
  simp only [issuing, List.all_cons, List.all_nil, c.inert_still command still]
  rfl

theorem writeAll_aimed (h : Related N (Bus.Aimed N L.poised) c c') (point : SyncPoint)
    (l : List (Nat × UInt32)) : Doubles L N ((c.sync point).writeAll l) ((c'.sync point).writeAll l) := by
  rw [writeAll_eq, writeAll_eq]
  exact (h.rebus ((h.bus.sync L point).writeAll L l)).of_bus fun aimed =>
    aimed.doubles L.rests_of_poised

theorem staging_related (h : Doubles L N c c') (apart : data.buffer ≠ N.bounce) :
    Related N (Bus.Doubles N L.poised) (c.staging data) (c'.staging (data.map N.buffer)) := by
  have contents : c'.buffer (N.buffer data.buffer) = c.buffer data.buffer := h.bus.memory.contents _ apart
  have prepared := prepareData_related h (c.buffer data.buffer).length
  rw [staging, staging, show (data.map N.buffer).buffer = N.buffer data.buffer from rfl, contents]
  refine prepared.modify (fun _ => rfl) fun _ _ there => ?_
  exact apart (List.mem_singleton.mp there).symm

theorem Doubles.launch (h : Doubles L N c c') (apart : N.bounce ∉ command.buffers) :
    Doubles L N (c.launch command) (c'.launch (command.map N.buffer)) := by
  have word := wireWord_related h command
  have issuing (enabled : UInt32) : c'.issuing (command.map N.buffer) enabled = c.issuing command enabled := by
    rw [Controller.issuing, Controller.issuing, word]
    rfl
  cases hd : command.data with
  | none =>
    have hd' : (command.map N.buffer).data = none := by rw [Command.map, hd, Option.map_none]
    have still : command.transfers = false := by rw [Command.transfers, hd, Option.elim_none]
    rw [launch_still hd, launch_still hd', issuing]
    refine h.writeAll ?_
    rw [List.all_append, c.inert_issuing command still]
    rfl
  | some data =>
    have hd' : (command.map N.buffer).data = some (data.map N.buffer) := by
      rw [Command.map, hd, Option.map_some]
    have other : data.buffer ≠ N.bounce := Command.buffer_ne apart hd
    have contents : c'.buffer (N.buffer data.buffer) = c.buffer data.buffer :=
      h.bus.memory.contents _ other
    cases transfers : data.flags.transfers with
    | false =>
      have still : command.transfers = false := by rw [Command.transfers, hd, Option.elim_some, transfers]
      rw [launch_waiting hd transfers, launch_waiting hd' transfers, issuing,
        show (data.map N.buffer).buffer = N.buffer data.buffer from rfl, contents]
      have prepared : Doubles L N (c.prepareData _) (c'.prepareData _) :=
        (prepareData_related h (c.buffer data.buffer).length).of_bus fun doubles =>
          doubles.of_alike L.rests_of_poised
      exact prepared.writeAll (c.inert_issuing command still _)
    | true =>
      have mapped := mapData_related (staging_related h other) other
      rw [launch_transfer hd transfers, launch_transfer hd' transfers, word,
        show (data.map N.buffer).flags = data.flags from rfl]
      generalize (c.staging data).mapData data = r at mapped ⊢
      generalize (c'.staging (data.map N.buffer)).mapData (data.map N.buffer) = r' at mapped ⊢
      cases mapped with
      | fails e related =>
        have failed := related.modify (f := fun cmd => { cmd with error := some .noMemory })
          (g := fun cmd => { cmd with error := some .noMemory }) (fun _ => rfl) fun _ own => own
        exact failed.finish.of_bus fun doubles => doubles.of_alike L.rests_of_poised
      | succeeds place related =>
        obtain ⟨address, length⟩ := place
        dsimp only
        split
        · exact writeAll_aimed related _ _
        · exact writeAll_aimed related _ _

namespace Doubles

theorem advance (h : Doubles L N c c') : Doubles L N c.advance c'.advance := by
  cases ha : c.active with
  | none =>
    have idle : c.advance = c := by simp only [Controller.advance, ha]
    have idle' : c'.advance = c' := by simp only [Controller.advance, h.active, ha, Option.map_none]
    rwa [idle, idle']
  | some a =>
    have ha' : c'.active = some (N.active a) := by rw [h.active, ha, Option.map_some]
    rw [advance_eq ha, advance_eq ha', N.pending?_active]
    cases hp : a.pending? with
    | none =>
      have finished := h.finish
      rwa [finish_eq ha, finish_eq ha'] at finished
    | some stop =>
      have stopping : Doubles L N { c with active := some { a with phase := .stop } }
          { c' with active := some { N.active a with phase := .stop } } := by
        obtain ⟨bus, tickets, rfl⟩ := h.same
        refine ⟨⟨bus, tickets, rfl⟩, h.site, h.bus, h.tickets, fun a' active => ?_, h.ready⟩
        obtain rfl := Option.some.inj active
        exact h.own a ha
      exact stopping.launch fun there => h.own a ha (a.pending?_buffers hp _ there)

theorem readResponse (h : Doubles L N c c') {i n : Nat} (inside : i + n ≤ 4) :
    Doubles L N (c.readResponse i n) (c'.readResponse i n) := by
  induction n generalizing i c c' with
  | zero => exact h
  | succ n ih =>
    have mode : Register.response + 4 * i ≠ Register.mode := by
      simp only [Register.response, Register.mode]
      omega
    have channels : Register.response + 4 * i ≠ Register.channelStatus := by
      simp only [Register.response, Register.channelStatus]
      omega
    obtain ⟨word, after⟩ := h.read _ mode channels
    have noted : Doubles L N
        ((c.read (Register.response + 4 * i)).2.modifyCurrent fun cmd =>
          { cmd with response := cmd.response.setIfInBounds i (c.read (Register.response + 4 * i)).1 })
        ((c'.read (Register.response + 4 * i)).2.modifyCurrent fun cmd =>
          { cmd with response := cmd.response.setIfInBounds i (c.read (Register.response + 4 * i)).1 }) :=
      after.modify (fun _ => rfl) fun _ own => own
    simp only [Controller.readResponse]
    rw [word]
    exact ih noted (by omega)

theorem conclude (h : Doubles L N c c') (command : Command BufferId) (error : Option CommandError) :
    Doubles L N (c.conclude command error) (c'.conclude (command.map N.buffer) error) := by
  have ended : Doubles L N (c.modifyCurrent fun cmd => { cmd with error })
      (c'.modifyCurrent fun cmd => { cmd with error }) := h.modify (fun _ => rfl) fun _ own => own
  have words : 0 + command.flags.words ≤ 4 := by
    rw [Nat.zero_add]
    exact command.flags.words_le
  exact ((ended.write (w := (Register.disable, Status.all)) rfl).readResponse words).advance

theorem accountMoved (h : Doubles L N c c') (apart : N.bounce ∉ command.buffers) :
    Doubles L N (c.accountMoved command) (c'.accountMoved (command.map N.buffer)) := by
  unfold Controller.accountMoved
  cases hd : command.data with
  | none =>
    simp only [Command.map, hd, Option.map_none]
    exact h
  | some data =>
    have length : (c'.buffer (N.buffer data.buffer)).length = (c.buffer data.buffer).length :=
      h.bus.memory.length_get data.buffer
    simp only [Command.map, hd, Option.map_some, Payload.map, length]
    refine h.modify (fun _ => rfl) fun _ _ there => apart ?_
    rw [Command.buffers, hd]
    exact there

theorem restoreOrder (h : Doubles L N c c') (apart : N.bounce ∉ command.buffers) :
    Doubles L N (c.restoreOrder command) (c'.restoreOrder (command.map N.buffer)) := by
  unfold Controller.restoreOrder
  cases hd : command.data with
  | none =>
    simp only [Command.map, hd, Option.map_none]
    exact h
  | some data =>
    have other : data.buffer ≠ N.bounce := Command.buffer_ne apart hd
    have contents : c'.buffer (N.buffer data.buffer) = c.buffer data.buffer :=
      h.bus.memory.contents _ other
    simp only [Command.map, hd, Option.map_some, Payload.map, contents, h.board]
    split
    · exact h.rebus (h.bus.set data.buffer (fun _ => rfl) rfl)
    · exact h

theorem serveSent (h : Doubles L N c c') (apart : N.bounce ∉ command.buffers) :
    Doubles L N (c.serveSent command) (c'.serveSent (command.map N.buffer)) := by
  have stopped := h.writeAll (l := [(Register.channelControl, Channel.stop),
    (Register.disable, Status.transmitEmpty), (Register.enable, Status.notBusy)]) (by decide)
  exact (stopped.sync .afterWrite).unload.accountMoved apart

theorem serveFull (h : Doubles L N c c') : Doubles L N c.serveFull c'.serveFull := h.writeAll (by decide)

theorem serveIdleLine (h : Doubles L N c c') : Doubles L N c.serveIdleLine c'.serveIdleLine :=
  h.writeAll (by decide)

theorem serveReceived (h : Doubles L N c c') (apart : N.bounce ∉ command.buffers) :
    Doubles L N (c.serveReceived command) (c'.serveReceived (command.map N.buffer)) :=
  (((h.sync .afterRead).unload.restoreOrder apart).accountMoved apart).writeAll (by decide)

theorem branch {d d' : Controller H} (p : Prop) [Decidable p] (h : Doubles L N c c')
    (h' : Doubles L N d d') : Doubles L N (if p then c else d) (if p then c' else d') := by
  split
  · exact h
  · exact h'

theorem serveStages (h : Doubles L N c c') (apart : N.bounce ∉ command.buffers) (status : UInt32) :
    Doubles L N (c.serveStages command status) (c'.serveStages (command.map N.buffer) status) := by
  have sent := branch (anyBit status Status.transmitEmpty = true) (h.serveSent apart) h
  have full := branch (anyBit status Status.receiveFull = true) sent.serveFull sent
  have received := branch (anyBit status Status.endReceive = true) (full.serveReceived apart) full
  have idle := branch (anyBit status Status.notBusy = true) received.serveIdleLine received
  exact branch _ (idle.conclude command none) idle

theorem serveError (h : Doubles L N c c') (command : Command BufferId) (status : UInt32) :
    Doubles L N (c.serveError command status) (c'.serveError (command.map N.buffer) status) := by
  unfold Controller.serveError
  rw [show (command.map N.buffer).opcode = command.opcode from rfl]
  cases CommandError.ofStatus? status command.opcode with
  | none => exact h.conclude command none
  | some e => exact h.unload.conclude command (some e)

theorem serve (h : Doubles L N c c') : Doubles L N c.serve c'.serve := by
  obtain ⟨status, after⟩ := h.read Register.status (by decide) (by decide)
  obtain ⟨mask, after'⟩ := after.read Register.mask (by decide) (by decide)
  have current : ((c'.read Register.status).2.read Register.mask).2.current? =
      ((c.read Register.status).2.read Register.mask).2.current?.map (·.map N.buffer) := by
    rw [current?, after'.active, Option.bind_map, current?, Option.map_bind]
    exact congrArg _ (funext N.current?_active)
  simp only [Controller.serve]
  rw [status, mask, current]
  cases hc : ((c.read Register.status).2.read Register.mask).2.current? with
  | none => exact after'.write (w := (Register.disable, Status.all)) rfl
  | some command =>
    obtain ⟨a, ha, hcurrent⟩ := Option.bind_eq_some_iff.mp hc
    have apart : N.bounce ∉ command.buffers := fun there =>
      h.own a ha (a.current?_buffers hcurrent _ there)
    exact branch _ (after'.serveError command _) (after'.serveStages apart _)

theorem interrupt (h : Doubles L N c c') : Doubles L N c.interrupt c'.interrupt := by
  unfold Controller.interrupt
  rw [h.detached]
  exact branch _ h h.serve

theorem asserted (h : Doubles L N c c') :
    InterruptLine.asserted c'.bus.hardware = InterruptLine.asserted c.bus.hardware := L.asserted h.bus.hardware

theorem serveLine (h : Doubles L N c c') (limit : Nat) :
    (c'.serveLine limit).1 = (c.serveLine limit).1 ∧
      Doubles L N (c.serveLine limit).2 (c'.serveLine limit).2 := by
  induction limit generalizing c c' with
  | zero => exact ⟨rfl, h⟩
  | succ limit ih =>
    simp only [Controller.serveLine, pump, h.asserted]
    split
    · obtain ⟨calls, after⟩ := ih h.interrupt
      exact ⟨congrArg (· + 1) calls, after⟩
    · exact ⟨rfl, h⟩

end Doubles

end Controller

end CardHost
