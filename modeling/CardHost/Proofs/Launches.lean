import CardHost.Proofs.Accesses

namespace CardHost

open Bus

namespace Active

def replace (a : Active) (command : Command BufferId) : Active := a.modify fun _ => command

@[simp] theorem ticket_replace (a : Active) (command : Command BufferId) :
    (a.replace command).ticket = a.ticket := by
  unfold replace modify
  split <;> rfl

@[simp] theorem phase_replace (a : Active) (command : Command BufferId) :
    (a.replace command).phase = a.phase := by
  unfold replace modify
  split <;> rfl

theorem modify_eq_replace {a : Active} {command : Command BufferId}
    (h : a.current? = some command) (f : Command BufferId → Command BufferId) :
    a.modify f = a.replace (f command) := by
  unfold current? at h
  unfold replace modify
  split <;> simp_all

theorem current?_replace {a : Active} {command : Command BufferId} (h : a.current? = some command)
    (command' : Command BufferId) : (a.replace command').current? = some command' := by
  unfold current? at h
  unfold replace modify
  split <;> simp_all [current?]

@[simp] theorem replace_replace (a : Active) (command command' : Command BufferId) :
    (a.replace command).replace command' = a.replace command' := by
  obtain ⟨ticket, ⟨first, stop⟩, phase⟩ := a
  cases phase <;> simp [replace, modify, Function.comp_def]

theorem replace_current {a : Active} {command : Command BufferId} (h : a.current? = some command) :
    a.replace command = a := by
  obtain ⟨ticket, ⟨first, stop⟩, phase⟩ := a
  cases phase <;> simp_all [current?, replace, modify]

end Active

def delivered (tickets : Array Ticket) (a : Active) : Array Ticket :=
  tickets.modify a.ticket fun
    | .waiting => .ready a.request
    | other => other

theorem ready_delivered {tickets : Array Ticket} {a : Active} {n : Nat} {result : Request BufferId}
    (h : (delivered tickets a)[n]? = some (.ready result)) :
    tickets[n]? = some (.ready result) ∨ a.ticket = n ∧ a.request = result := by
  rw [delivered, Array.getElem?_modify] at h
  split at h
  · next same =>
    obtain ⟨ticket, there, hready⟩ := Option.map_eq_some_iff.mp h
    cases ticket with
    | waiting => exact .inr ⟨same, Ticket.ready.inj hready⟩
    | ready => exact .inl (there.trans (congrArg some hready))
    | spent | dropped => cases hready
  · exact .inl h

theorem ready_marked {tickets : Array Ticket} {m n : Nat} {value : Ticket} {result : Request BufferId}
    (other : ∀ result, value ≠ .ready result)
    (h : (tickets.setIfInBounds m value)[n]? = some (.ready result)) : tickets[n]? = some (.ready result) := by
  rw [Array.getElem?_setIfInBounds] at h
  split at h
  · split at h
    · exact (other result (Option.some.inj h)).elim
    · cases h
  · exact h

namespace Staging

theorem length_congr {source source' : Bytes} (h : source.length = source'.length) (pad : Bool)
    (minimum : Nat) : length source pad minimum = length source' pad minimum := by
  simp only [length, h]

theorem stage_error {bounce source : Bytes} {pad swap : Bool} {minimum : Nat} {e : MappingError}
    (h : stage bounce source pad minimum swap = .error e) :
    bounce.length < length source pad minimum := by
  simp only [stage] at h
  split at h
  · next hlt => exact hlt
  · cases h

theorem stage_ok {bounce source bytes : Bytes} {pad swap : Bool} {minimum n : Nat}
    (h : stage bounce source pad minimum swap = .ok (n, bytes)) :
    n = length source pad minimum ∧ n ≤ bounce.length ∧
      bytes = (layout source pad minimum swap).overlay bounce := by
  simp only [stage] at h
  split at h
  · cases h
  · next hle =>
    obtain ⟨rfl, rfl⟩ := Prod.mk.inj (Except.ok.inj h)
    exact ⟨rfl, Nat.le_of_not_lt hle, rfl⟩

end Staging

namespace Controller

variable {H : Type} [Hardware H] {c : Controller H} {a : Active} {command : Command BufferId}

omit [Hardware H] in
theorem finish_eq (h : c.active = some a) :
    c.finish = { c with tickets := delivered c.tickets a, active := none } := by
  simp only [finish, h]
  rfl

omit [Hardware H] in
theorem modifyCurrent_eq (ha : c.active = some a) (hc : a.current? = some command)
    (f : Command BufferId → Command BufferId) :
    c.modifyCurrent f = { c with active := some (a.replace (f command)) } := by
  simp only [modifyCurrent, ha, Option.map_some, Active.modify_eq_replace hc]

def blockMode (mode : UInt32) (length : Nat) : UInt32 :=
  (mode &&& ~~~Mode.blockLength) ||| ((UInt32.ofNat length <<< 16) &&& Mode.blockLength) |||
    Mode.channels

def preparation (mode : UInt32) (length : Nat) : List Access :=
  .read Register.mode mode ::
    writes [(Register.mode, blockMode mode length), (Register.channelControl, Channel.stop)]

def wireWord (c : Controller H) (command : Command BufferId) : UInt32 :=
  CommandWord.ofCommand command c.host.bus.mode |||
    (command.data.elim 0 fun data => CommandWord.ofData data.flags)

def restaged (command : Command BufferId) : Command BufferId :=
  { command with data := command.data.map fun data => { data with moved := 0 } }

def unmapped (command : Command BufferId) : Command BufferId :=
  { restaged command with error := some .noMemory }

def overlong (c : Controller H) (data : Payload BufferId) : Prop :=
  data.flags.isRead = false ∧ (c.buffer c.bounce).length <
    Staging.length (c.buffer data.buffer) c.board.soc.secondRevision Staging.minLength

def issuing (c : Controller H) (command : Command BufferId) (enabled : UInt32) :
    List (Nat × UInt32) :=
  [(Register.argument, command.argument), (Register.command, c.wireWord command),
    (Register.enable, Status.errors ||| enabled)]

def issuingRead (c : Controller H) (command : Command BufferId) (address : UInt32) (length : Nat) :
    List (Nat × UInt32) :=
  [(Register.receivePointer, address), (Register.receiveCount, UInt32.ofNat (length / 4)),
    (Register.argument, command.argument), (Register.channelControl, Channel.receiveOn),
    (Register.command, c.wireWord command), (Register.enable, Status.errors ||| Status.endReceive)]

def issuingWrite (c : Controller H) (command : Command BufferId) (address : UInt32)
    (length : Nat) : List (Nat × UInt32) :=
  [(Register.transmitPointer, address), (Register.transmitCount, UInt32.ofNat (length / 4)),
    (Register.argument, command.argument), (Register.command, c.wireWord command),
    (Register.channelControl, Channel.transmitOn),
    (Register.enable, Status.errors ||| Status.transmitEmpty)]

/-- How a launch can go: its accesses, the bus that they lead to, and the state of the controller after
it. The command is the one on the wire. -/
inductive Launches (c : Controller H) (a : Active) (command : Command BufferId) (bus : Bus H) :
    List Access → Controller H → Prop
  | plain (data : command.data = none) :
    Launches c a command bus (writes (clearChannels ++ c.issuing command Status.commandReady))
      { c with bus }
  | idle (data : Payload BufferId) (mode : UInt32) (data_eq : command.data = some data)
    (still : data.flags.transfers = false) :
    Launches c a command bus
      (preparation mode (c.buffer data.buffer).length ++
        writes (c.issuing command Status.commandReady))
      { c with bus }
  | read (data : Payload BufferId) (mode address : UInt32) (bytes : Bytes)
    (data_eq : command.data = some data) (isRead : data.flags.isRead = true)
    (free : c.mapped = 0)
    (mapping : bus.mapping = some ⟨data.buffer, (c.buffer data.buffer).length⟩) :
    Launches c a command bus
      (preparation mode (c.buffer data.buffer).length ++
        .load bytes .fromCard (.ok address) :: .sync .beforeRead ::
        writes (c.issuingRead command address (c.buffer data.buffer).length))
      { c with bus, mapped := 1, active := some (a.replace (restaged command)) }
  | write (data : Payload BufferId) (mode address : UInt32) (bytes : Bytes) (length : Nat)
    (data_eq : command.data = some data) (isRead : data.flags.isRead = false)
    (isWrite : data.flags.isWrite = true) (free : c.mapped = 0) (fits : ¬ c.overlong data)
    (length_eq : length =
      Staging.length (c.buffer data.buffer) c.board.soc.secondRevision Staging.minLength)
    (mapping : bus.mapping = some ⟨c.bounce, length⟩) :
    Launches c a command bus
      (preparation mode (c.buffer data.buffer).length ++
        .load bytes .toCard (.ok address) :: .sync .beforeWrite ::
        writes (c.issuingWrite command address length))
      { c with bus, mapped := 1, active := some (a.replace (restaged command)) }
  | unstaged (data : Payload BufferId) (mode : UInt32) (data_eq : command.data = some data)
    (transfers : data.flags.transfers = true) (reason : 0 < c.mapped ∨ c.overlong data) :
    Launches c a command bus (preparation mode (c.buffer data.buffer).length)
      { c with
        bus, tickets := delivered c.tickets (a.replace (unmapped command)), active := none }
  | refused (data : Payload BufferId) (mode : UInt32) (bytes : Bytes) (direction : Direction)
    (error : MappingError) (data_eq : command.data = some data)
    (transfers : data.flags.transfers = true) (free : c.mapped = 0) (fits : ¬ c.overlong data) :
    Launches c a command bus
      (preparation mode (c.buffer data.buffer).length ++ [.load bytes direction (.error error)])
      { c with
        bus, tickets := delivered c.tickets (a.replace (unmapped command)), active := none }

theorem prepareData_eq (c : Controller H) (length : Nat) :
    ∃ bus mode, c.prepareData length = { c with bus } ∧
      Performs c.bus (preparation mode length) bus := by
  refine ⟨_, (c.bus.read Register.mode).1, writeAll_eq _ _, ?_⟩
  exact .read Register.mode (performs_writeAll _ _)

theorem load_eq (c : Controller H) (buffer : BufferId) (length : Nat) (direction : Direction) :
    c.load buffer length direction =
      if 0 < c.mapped then (.error .alreadyMapped, c)
      else
        ((c.bus.load buffer length direction).1,
          { c with
            bus := (c.bus.load buffer length direction).2
            mapped := if (c.bus.load buffer length direction).1.isOk then c.mapped + 1
              else c.mapped }) := by
  unfold load
  split
  · rfl
  · rcases h : c.bus.load buffer length direction with ⟨_ | _, _⟩ <;> rfl

theorem mapData_fromCard (c : Controller H) {data : Payload BufferId} (isRead : data.flags.isRead = true) :
    c.mapData data =
      match c.load data.buffer (c.buffer data.buffer).length .fromCard with
      | (.ok address, c') => (.ok (address, (c.buffer data.buffer).length), c')
      | (.error e, c') => (.error e, c') :=
  if_pos isRead

theorem mapData_toCard (c : Controller H) {data : Payload BufferId} (isRead : data.flags.isRead = false)
    {length : Nat} {bytes : Bytes}
    (staged : Staging.stage (c.buffer c.bounce) (c.buffer data.buffer) c.board.soc.secondRevision
      Staging.minLength c.board.soc.swapsBytes = .ok (length, bytes)) :
    c.mapData data =
      match (c.setBuffer c.bounce bytes).load c.bounce length .toCard with
      | (.ok address, c') => (.ok (address, length), c')
      | (.error e, c') => (.error e, c') := by
  rw [mapData, if_neg (by rw [isRead]; decide)]
  dsimp only
  rewrite [staged]
  rfl

theorem mapData_error {data : Payload BufferId} {e : MappingError} (fails : (c.mapData data).1 = .error e) :
    ¬ c.overlong data ∧
        c.load data.buffer (c.buffer data.buffer).length .fromCard = (.error e, (c.mapData data).2) ∨
      c.overlong data ∧ (c.mapData data).2 = c ∨
      ¬ c.overlong data ∧ ∃ length bytes, bytes.length = (c.buffer c.bounce).length ∧
        (c.setBuffer c.bounce bytes).load c.bounce length .toCard = (.error e, (c.mapData data).2) := by
  cases isRead : data.flags.isRead with
  | true =>
    left
    rw [c.mapData_fromCard isRead] at fails ⊢
    cases hl : c.load data.buffer (c.buffer data.buffer).length .fromCard with
    | mk result refused =>
      rw [hl] at fails
      cases result with
      | ok => cases fails
      | error =>
        cases fails
        exact ⟨fun overlong => Bool.noConfusion (isRead.symm.trans overlong.1), rfl⟩
  | false =>
    right
    cases hs : Staging.stage (c.buffer c.bounce) (c.buffer data.buffer) c.board.soc.secondRevision
      Staging.minLength c.board.soc.swapsBytes with
    | error =>
      left
      simp only [mapData, isRead, hs, Bool.false_eq_true, if_false, and_true]
      exact ⟨isRead, Staging.stage_error hs⟩
    | ok staged =>
      right
      obtain ⟨length, bytes⟩ := staged
      obtain ⟨hlength, hle, rfl⟩ := Staging.stage_ok hs
      rw [c.mapData_toCard isRead hs] at fails ⊢
      cases hl : (c.setBuffer c.bounce _).load c.bounce length .toCard with
      | mk result refused =>
        rw [hl] at fails
        cases result with
        | ok => cases fails
        | error =>
          cases fails
          exact ⟨fun overlong => Nat.not_lt_of_le (hlength ▸ hle) overlong.2, length, _,
            Bytes.length_overlay _ _, hl⟩

def staging (c : Controller H) (data : Payload BufferId) : Controller H :=
  (c.prepareData (c.buffer data.buffer).length).modifyCurrent fun cmd =>
    { cmd with data := some { data with moved := 0 } }

theorem staging_eq {data : Payload BufferId} {bus : Bus H} (ha : c.active = some a)
    (hc : a.current? = some command) (hd : command.data = some data)
    (he : c.prepareData (c.buffer data.buffer).length = { c with bus }) :
    c.staging data = { c with bus, active := some (a.replace (restaged command)) } := by
  rw [staging, he, modifyCurrent_eq (c := { c with bus }) ha hc]
  simp [restaged, hd]

theorem launch_transfer {data : Payload BufferId} (hd : command.data = some data)
    (transfers : data.flags.transfers = true) :
    c.launch command =
      match (c.staging data).mapData data with
      | (.error _, c) => (c.modifyCurrent fun cmd => { cmd with error := some .noMemory }).finish
      | (.ok (address, length), c') =>
        if data.flags.isRead then
          c'.issueRead address length command.argument (c.wireWord command)
        else c'.issueWrite address length command.argument (c.wireWord command) := by
  have hw : CommandWord.ofCommand command c.host.bus.mode ||| CommandWord.ofData data.flags =
      c.wireWord command := by
    simp [wireWord, hd]
  simp only [launch, hd, transfers, hw, if_true]
  rfl

omit [Hardware H] in
theorem refuse_eq (hc : a.current? = some command) (bus : Bus H) :
    (({ c with bus, active := some (a.replace (restaged command)) } : Controller H).modifyCurrent
      fun cmd => { cmd with error := some .noMemory }).finish =
      { c with
        bus, tickets := delivered c.tickets (a.replace (unmapped command)), active := none } := by
  rw [modifyCurrent_eq rfl (Active.current?_replace hc _), finish_eq rfl, Active.replace_replace]
  rfl

theorem launch_read {data : Payload BufferId} (ha : c.active = some a)
    (hc : a.current? = some command) (hd : command.data = some data)
    (isRead : data.flags.isRead = true) :
    ∃ l bus, Performs c.bus l bus ∧ Launches c a command bus l (c.launch command) := by
  obtain ⟨bus, mode, he, hp⟩ := c.prepareData_eq (c.buffer data.buffer).length
  have hl : (bus.memory.get data.buffer).length = (c.buffer data.buffer).length := hp.alike.2 _
  have transfers : data.flags.transfers = true := by simp [DataFlags.transfers, isRead]
  rw [launch_transfer hd transfers, staging_eq ha hc hd he]
  simp only [mapData, isRead, if_true, load_eq, buffer, hl]
  by_cases hm : 0 < c.mapped
  · simp only [hm, if_true, refuse_eq hc]
    exact ⟨_, bus, hp, .unstaged data mode hd transfers (.inl hm)⟩
  have free : c.mapped = 0 := by omega
  have hload := Performs.load (b := bus) data.buffer (c.bus.memory.get data.buffer).length .fromCard
    (.done _)
  have hmap := bus.load_mapping data.buffer (c.bus.memory.get data.buffer).length .fromCard
  simp only [hm, if_false]
  cases hr : (bus.load data.buffer (c.bus.memory.get data.buffer).length .fromCard).1 with
  | error e =>
    rw [hr] at hload
    simp only [Except.isOk, Except.toBool, Bool.false_eq_true, if_false, refuse_eq hc]
    refine ⟨_, _, hp.trans hload, .refused data mode _ _ e hd transfers free ?_⟩
    exact fun h => by simp [h.1] at isRead
  | ok address =>
    rw [hr] at hload hmap
    simp only [Except.isOk, Except.toBool, if_true, issueRead, sync, writeAll_eq, free]
    have hissue := Performs.sync (b := (bus.load data.buffer (c.buffer data.buffer).length
      .fromCard).2) .beforeRead (performs_writeAll _ (c.issuingRead command address
      (c.buffer data.buffer).length))
    refine ⟨_, _, hp.trans (hload.trans hissue), .read data mode address _ hd isRead free ?_⟩
    rw [writeAll_mapping]
    exact hmap

theorem launch_write {data : Payload BufferId} (ha : c.active = some a)
    (hc : a.current? = some command) (hd : command.data = some data)
    (isRead : data.flags.isRead = false) (isWrite : data.flags.isWrite = true) :
    ∃ l bus, Performs c.bus l bus ∧ Launches c a command bus l (c.launch command) := by
  obtain ⟨bus, mode, he, hp⟩ := c.prepareData_eq (c.buffer data.buffer).length
  have hl : (bus.memory.get data.buffer).length = (c.buffer data.buffer).length := hp.alike.2 _
  have hb : (bus.memory.get c.bounce).length = (c.buffer c.bounce).length := hp.alike.2 _
  have transfers : data.flags.transfers = true := by simp [DataFlags.transfers, isWrite]
  rw [launch_transfer hd transfers, staging_eq ha hc hd he]
  simp only [mapData, isRead, Bool.false_eq_true, if_false, buffer]
  cases hs : Staging.stage (bus.memory.get c.bounce) (bus.memory.get data.buffer)
    c.board.soc.secondRevision Staging.minLength c.board.soc.swapsBytes with
  | error e =>
    simp only [refuse_eq hc]
    refine ⟨_, bus, hp, .unstaged data mode hd transfers (.inr ⟨isRead, ?_⟩)⟩
    rw [← hb, ← Staging.length_congr hl]
    exact Staging.stage_error hs
  | ok staged =>
    obtain ⟨length, bytes⟩ := staged
    obtain ⟨hn, hle, rfl⟩ := Staging.stage_ok hs
    rw [Staging.length_congr hl] at hn
    have fits : ¬ c.overlong data := by
      intro h
      have hlt := h.2
      rw [← hn, ← hb] at hlt
      omega
    -- The bounce buffer is filled before it is mapped, which leaves all buffers as long as they were.
    have hedit := bus.memory.alike_set c.bounce _ (Bytes.length_overlay
      (Staging.layout (bus.memory.get data.buffer) c.board.soc.secondRevision Staging.minLength
        c.board.soc.swapsBytes) (bus.memory.get c.bounce))
    have hcopy := hp.trans (.edit _ hedit (.done _))
    rw [List.append_nil] at hcopy
    generalize hbus : ({ bus with memory := _ } : Bus H) = copied at hcopy
    simp only [load_eq, setBuffer, hbus]
    by_cases hm : 0 < c.mapped
    · simp only [hm, if_true, refuse_eq hc]
      exact ⟨_, _, hcopy, .unstaged data mode hd transfers (.inl hm)⟩
    have free : c.mapped = 0 := by omega
    have hload := Performs.load (b := copied) c.bounce length .toCard (.done _)
    have hmap := copied.load_mapping c.bounce length .toCard
    simp only [hm, if_false]
    cases hr : (copied.load c.bounce length .toCard).1 with
    | error e =>
      rw [hr] at hload
      simp only [Except.isOk, Except.toBool, Bool.false_eq_true, if_false, refuse_eq hc]
      exact ⟨_, _, hcopy.trans hload, .refused data mode _ _ e hd transfers free fits⟩
    | ok address =>
      rw [hr] at hload hmap
      simp only [Except.isOk, Except.toBool, if_true, issueWrite, sync, writeAll_eq, free]
      have hissue := Performs.sync (b := (copied.load c.bounce length .toCard).2) .beforeWrite
        (performs_writeAll _ (c.issuingWrite command address length))
      refine ⟨_, _, hcopy.trans (hload.trans hissue),
        .write data mode address _ length hd isRead isWrite free fits hn ?_⟩
      rw [writeAll_mapping]
      exact hmap

theorem launch_plain (data : command.data = none) :
    ∃ l bus, Performs c.bus l bus ∧ Launches c a command bus l (c.launch command) := by
  have hw : CommandWord.ofCommand command c.host.bus.mode = c.wireWord command := by
    simp [wireWord, data]
  refine ⟨_, _, performs_writeAll c.bus (clearChannels ++ c.issuing command Status.commandReady), ?_⟩
  simp only [launch, data, issuePlain, writeAll_eq, hw]
  exact .plain data

theorem launch_idle {data : Payload BufferId} (hd : command.data = some data)
    (still : data.flags.transfers = false) :
    ∃ l bus, Performs c.bus l bus ∧ Launches c a command bus l (c.launch command) := by
  have hw : CommandWord.ofCommand command c.host.bus.mode ||| CommandWord.ofData data.flags =
      c.wireWord command := by
    simp [wireWord, hd]
  obtain ⟨bus, mode, he, hp⟩ := c.prepareData_eq (c.buffer data.buffer).length
  refine ⟨_, _, hp.trans (performs_writeAll bus (c.issuing command Status.commandReady)), ?_⟩
  simp only [launch, hd, still, he, issueIdle, writeAll_eq, hw, Bool.false_eq_true, if_false]
  exact .idle data mode hd still

theorem launch_launches (ha : c.active = some a) (hc : a.current? = some command) :
    ∃ l bus, Performs c.bus l bus ∧ Launches c a command bus l (c.launch command) := by
  cases hd : command.data with
  | none => exact launch_plain hd
  | some data =>
    cases isRead : data.flags.isRead with
    | true => exact launch_read ha hc hd isRead
    | false =>
      cases isWrite : data.flags.isWrite with
      | true => exact launch_write ha hc hd isRead isWrite
      | false => exact launch_idle hd (by simp [DataFlags.transfers, isRead, isWrite])

end Controller

end CardHost
