import CardHost.Proofs.DeviceAccess
import CardHost.Proofs.Disturbances

namespace CardHost

namespace Session

variable {s s' : Session Simulator} {p : Plan} {t : Transfer} {buffer : Bytes} {cmd : Command Bytes}

structure Intact (s : Session Simulator) : Prop extends Ready s where
  phase : s.controller.bus.hardware.card.phase = none
  free : s.controller.owned = false

structure Leaves (s s' : Session Simulator) (kept : Prop) : Prop where
  intact : s'.Intact
  info : s'.info = s.info
  stored : kept → s'.stored = s.stored

theorem Intact.leaves (h : s.Intact) (kept : Prop) : s.Leaves s kept := ⟨h, rfl, fun _ => rfl⟩

theorem Leaves.mono {kept kept' : Prop} (h : s.Leaves s' kept) (less : kept' → kept) : s.Leaves s' kept' :=
  ⟨h.intact, h.info, fun holds => h.stored (less holds)⟩

theorem Leaves.trans {s'' : Session Simulator} {kept kept' : Prop} (h : s.Leaves s' kept)
    (h' : s'.Leaves s'' kept') (both : kept' → kept) : s.Leaves s'' kept' :=
  ⟨h'.intact, h'.info.trans h.info, fun case => (h'.stored case).trans (h.stored (both case))⟩

theorem Ready.fails (h : s.Ready) {fault : Fault} (strikes : fault ≠ .none) (shows : fault.Shows)
    {argument : UInt32} (size : buffer.length = blockSize) (asks : t.IsCommand argument buffer cmd) :
    ∃ opcode e s',
      (execute ⟨cmd, none⟩).run.run (s.behind fault.strike) = (.error (.command opcode e), s') ∧
      s.Accesses s' s.stored ∧ s'.controller.bus.hardware.card = s.controller.bus.hardware.card := by
  obtain ⟨n, served, few, hfails⟩ := h.calm.fails h.selected.enabled strikes shows
    (by rw [size]; decide) (by rw [size]; decide) asks
  obtain ⟨last, e, hfinishes, herror⟩ := hfails.finishes
  have hbehind : (s.controller.behind fault.strike).bus.hardware.card = s.controller.bus.hardware.card ∧
      (s.controller.behind fault.strike).bus.hardware.enabled = s.controller.bus.hardware.enabled := by
    cases fault <;> exact ⟨rfl, rfl⟩
  have hcard := hfails.card.trans hbehind.1
  obtain ⟨tickets, hrun⟩ := execute_run (s := s.behind fault.strike) h.attended hfinishes
    (Nat.le_trans few (by decide))
  rw [firstError_command, herror] at hrun
  have hselected := h.selected
  refine ⟨_, e, _, hrun, ⟨⟨.with_tickets hfinishes.calm h.attended tickets, ?_, ?_, ?_, ?_⟩, rfl, ?_⟩,
    hcard⟩
  · exact (hfails.enabled.trans hbehind.2).trans hselected.enabled
  · exact (congrArg Card.state hcard).trans hselected.state
  · exact (congrArg Card.applicationNext hcard).trans hselected.plain
  · exact (congrArg Card.highCapacity hcard).trans hselected.addressed
  · exact congrArg Card.medium hcard

theorem Ready.exchange_struck (h : s.Ready) (phase : s.controller.bus.hardware.card.phase = none)
    {fault : Fault} (shows : fault.Shows) (single : t.multiple = false) {argument : UInt32}
    (size : buffer.length = blockSize) (asks : t.IsCommand argument buffer cmd) :
    ∃ answer s', (execute ⟨cmd, none⟩).run.run (s.behind fault.strike) = (answer, s') ∧ s'.Ready ∧
      s'.info = s.info ∧ s'.controller.bus.hardware.card.phase = none ∧
      (answer.isOk = false ∨ t.toCard = false → s'.stored = s.stored) := by
  by_cases strikes : fault = .none
  · obtain ⟨last, s', medium, hrun, haccesses, hphase, houtcome⟩ := h.exchange single size asks
    subst strikes
    refine ⟨_, s', hrun, haccesses.ready, haccesses.info, hphase, fun kept => ?_⟩
    have hmedium : medium = s.stored := by
      rcases Nat.lt_or_ge s.controller.bus.hardware.card.medium.size
        (s.controller.bus.hardware.card.byteOffset argument + buffer.length) with out | fits
      · exact (houtcome.failed out).2.2
      · obtain ⟨hnone, hdone⟩ := houtcome.done fits
        rw [hnone] at kept
        have fromCard : ¬ t.toCard = true := by
          rcases kept with failed | fromCard
          · cases failed
          · rw [fromCard]
            decide
        rw [if_neg fromCard] at hdone
        exact hdone.2
    exact haccesses.medium.trans hmedium
  · obtain ⟨opcode, e, s', hrun, haccesses, hcard⟩ := h.fails strikes shows size asks
    exact ⟨_, s', hrun, haccesses.ready, haccesses.info, (congrArg Card.phase hcard).trans phase,
      fun _ => haccesses.medium⟩

theorem Intact.exchange_around {α : Type} (h : s.Intact) (sound : p.Sound) (single : t.multiple = false)
    (argument : CardInfo → UInt32) (size : buffer.length = blockSize) {cmd : UInt32 → Command Bytes}
    (asks : ∀ argument, t.IsCommand argument buffer (cmd argument)) (result : Command Bytes → α)
    (issued loaded : Nat) :
    ∃ answer s' issued' loaded',
      (owning (do return result (← command (cmd (argument (← get).info)))) : Action Disturbed α).run.run
          (s.behind (p.around issued loaded)) = (answer, s'.behind (p.around issued' loaded')) ∧
        s.Leaves s' (answer.isOk = false ∨ t.toCard = false) := by
  obtain ⟨owned, hacquire⟩ := acquire?_getD s.controller
  have hready := h.toReady.with_owned owned
  obtain ⟨fault, issued', loaded', shows, haround⟩ := execute_around sound hready.calm hready.attended
    (Nat.le_of_eq size) (asks (argument s.info)) issued loaded
  obtain ⟨answer, s', hrun, ready, hinfo, hphase, hstored⟩ := hready.exchange_struck h.phase shows single size
    (asks (argument s.info))
  rw [hrun] at haround
  have hacquired := s.controller.acquire?_behind (p.around issued loaded)
  rw [hacquire] at hacquired
  have hexecute : (execute ⟨cmd (argument (s.behind (p.around issued loaded)).info), none⟩).run.run
      { s.behind (p.around issued loaded) with
        controller := (s.behind (p.around issued loaded)).controller.acquire?.getD
          (s.behind (p.around issued loaded)).controller } =
        (answer, s'.behind (p.around issued' loaded')) := by
    rw [show (s.behind (p.around issued loaded)).controller =
      s.controller.behind (p.around issued loaded) from rfl, hacquired]
    exact haround
  refine ⟨answer.map fun request => result request.command,
    { s' with controller := s'.controller.release }, issued', loaded', ?_, ?_⟩
  · rw [run_exchange (fun info => cmd (argument info)), hexecute]
    rfl
  · refine ⟨⟨ready.with_owned false, hphase, rfl⟩, hinfo, fun kept => hstored ?_⟩
    refine kept.imp_left fun failed => ?_
    cases answer with
    | ok request => cases failed
    | error e => rfl

theorem Intact.readBlock_around (h : s.Intact) (sound : p.Sound) (block : UInt64) (buffer : Bytes)
    (issued loaded : Nat) :
    ∃ answer s' issued' loaded', (readBlock block buffer).run.run (s.behind (p.around issued loaded)) =
        (answer, s'.behind (p.around issued' loaded')) ∧ s.Leaves s' True := by
  unfold readBlock
  by_cases size : buffer.length = blockSize
  · rw [if_neg (not_not_intro size)]
    let cmd (argument : UInt32) : Command Bytes :=
      { opcode := Opcode.readBlock, argument, flags := .r1, data := some ⟨Bytes.zeros blockSize, .read, 0⟩ }
    have hasks (argument : UInt32) :
        (⟨false, false⟩ : Transfer).IsCommand argument (Bytes.zeros blockSize) (cmd argument) :=
      ⟨rfl, rfl, rfl, 0, rfl⟩
    obtain ⟨answer, s', issued', loaded', hrun, hleaves⟩ := h.exchange_around sound rfl
      (·.blockArgument block) List.length_replicate hasks
      (fun last => (last.data.map (·.buffer)).getD buffer) issued loaded
    exact ⟨answer, s', issued', loaded', hrun, hleaves.mono fun _ => .inr rfl⟩
  · rw [if_pos size]
    exact ⟨_, s, issued, loaded, rfl, h.leaves True⟩

theorem Intact.writeBlock_around (h : s.Intact) (sound : p.Sound) (block : UInt64) (buffer : Bytes)
    (issued loaded : Nat) :
    ∃ answer s' issued' loaded', (writeBlock block buffer).run.run (s.behind (p.around issued loaded)) =
        (answer, s'.behind (p.around issued' loaded')) ∧ s.Leaves s' (answer.isOk = false) := by
  unfold writeBlock
  by_cases size : buffer.length = blockSize
  · rw [if_neg (not_not_intro size)]
    let cmd (argument : UInt32) : Command Bytes :=
      { opcode := Opcode.writeBlock, argument, flags := .r1, data := some ⟨buffer, .write, 0⟩ }
    have hasks (argument : UInt32) :
        (⟨true, false⟩ : Transfer).IsCommand argument buffer (cmd argument) :=
      ⟨rfl, rfl, rfl, 0, rfl⟩
    obtain ⟨answer, s', issued', loaded', hrun, hleaves⟩ := h.exchange_around sound rfl
      (·.blockArgument block) size hasks (fun _ => ()) issued loaded
    exact ⟨answer, s', issued', loaded', hrun, hleaves.mono .inl⟩
  · rw [if_pos size]
    exact ⟨_, s, issued, loaded, rfl, h.leaves _⟩

end Session

inductive Deed where
  | readBlock (block : UInt64)
  | writeBlock (block : UInt64)
  | read
  | write
  | seek (target : SeekFrom)
  deriving Repr, DecidableEq

namespace Device

section Perform

variable {H K : Type}

def behind (d : Device H) (e : H → K) : Device K := { d with session := d.session.behind e }

@[simp] theorem block_behind (d : Device H) (e : H → K) : (d.behind e).block = d.block := rfl

@[simp] theorem within_behind (d : Device H) (e : H → K) : (d.behind e).within = d.within := rfl

@[simp] theorem span_behind (d : Device H) (e : H → K) : (d.behind e).span = d.span := rfl

variable [Hardware H] [InterruptLine H]

/-- Answers how many bytes have moved, or the new position, with the caller's buffer. -/
def perform (d : Device H) (deed : Deed) (buffer : Bytes) : Except DeviceError Nat × Bytes × Device H :=
  match deed with
  | .readBlock block =>
    match run (Session.readBlock block buffer) d with
    | (.ok bytes, d) => (.ok bytes.length, bytes, d)
    | (.error e, d) => (.error e, buffer, d)
  | .writeBlock block =>
    match run (Session.writeBlock block buffer) d with
    | (.ok (), d) => (.ok buffer.length, buffer, d)
    | (.error e, d) => (.error e, buffer, d)
  | .read =>
    match d.read buffer.length with
    | (.ok bytes, d) => (.ok bytes.length, bytes.overlay buffer, d)
    | (.error e, d) => (.error e, buffer, d)
  | .write =>
    match d.write buffer with
    | (.ok n, d) => (.ok n, buffer, d)
    | (.error e, d) => (.error e, buffer, d)
  | .seek target =>
    match d.seek target with
    | (.ok position, d) => (.ok position.toNat, buffer, d)
    | (.error e, d) => (.error e, buffer, d)

end Perform

def attempt (d : Device Simulator) (p : Plan) (deed : Deed) (buffer : Bytes) :
    Except DeviceError Nat × Bytes × Device Simulator :=
  match (d.behind (p.around 0 0)).perform deed buffer with
  | (answer, buffer, d') => (answer, buffer, d'.behind (·.inner))

def afterAll (d : Device Simulator) (deeds : List (Plan × Deed × Bytes)) : Device Simulator :=
  deeds.foldl (fun d step => (d.attempt step.1 step.2.1 step.2.2).2.2) d

section Around

variable {d : Device Simulator} {p : Plan}

theorem run_behind {H K α : Type} {act : Session.Action K α} {d : Device H} {e f : H → K}
    {answer : Except SessionError α} {session : Session H}
    (h : act.run.run (d.session.behind e) = (answer, session.behind f)) :
    run act (d.behind e) = (answer.mapError .session, ({ d with session } : Device H).behind f) := by
  rw [run, show (d.behind e).session = d.session.behind e from rfl, h]
  cases answer <;> rfl

theorem readBlock_around (h : d.session.Intact) (sound : p.Sound) (block : UInt64) (buffer : Bytes)
    (issued loaded : Nat) :
    ∃ answer session issued' loaded',
      run (Session.readBlock block buffer) (d.behind (p.around issued loaded)) =
        (answer, ({ d with session } : Device Simulator).behind (p.around issued' loaded')) ∧
      d.session.Leaves session True := by
  obtain ⟨answer, session, issued', loaded', hrun, hleaves⟩ := h.readBlock_around sound block buffer issued
    loaded
  exact ⟨_, session, issued', loaded', run_behind hrun, hleaves⟩

theorem writeBlock_around (h : d.session.Intact) (sound : p.Sound) (block : UInt64) (buffer : Bytes)
    (issued loaded : Nat) :
    ∃ answer session issued' loaded',
      run (Session.writeBlock block buffer) (d.behind (p.around issued loaded)) =
        (answer, ({ d with session } : Device Simulator).behind (p.around issued' loaded')) ∧
      d.session.Leaves session (answer.isOk = false) := by
  obtain ⟨answer, session, issued', loaded', hrun, hleaves⟩ := h.writeBlock_around sound block buffer issued
    loaded
  refine ⟨_, session, issued', loaded', run_behind hrun, hleaves.intact, hleaves.info, fun failed => ?_⟩
  cases answer with
  | ok => cases failed
  | error e => exact hleaves.stored rfl

theorem read_around (h : d.session.Intact) (sound : p.Sound) (count issued loaded : Nat) :
    ∃ answer d' issued' loaded', (d.behind (p.around issued loaded)).read count =
        (answer, behind d' (p.around issued' loaded')) ∧
      d.session.Leaves d'.session True ∧ (answer.isOk = false → d'.position = d.position) := by
  unfold Device.read
  split
  · exact ⟨_, d, issued, loaded, rfl, h.leaves True, fun _ => rfl⟩
  · obtain ⟨answer, session, issued', loaded', hrun, hleaves⟩ := readBlock_around h sound d.block
      (Bytes.zeros blockSize) issued loaded
    rw [block_behind, hrun]
    cases answer with
    | ok block =>
      let d' : Device Simulator := { d with session }
      exact ⟨_, d'.forward (d'.span count), issued', loaded', rfl, hleaves, nofun⟩
    | error e => exact ⟨_, { d with session }, issued', loaded', rfl, hleaves, fun _ => rfl⟩

theorem fetchRest_around (h : d.session.Intact) (sound : p.Sound) (count issued loaded : Nat) :
    ∃ answer session issued' loaded', (d.behind (p.around issued loaded)).fetchRest count =
        (answer, ({ d with session } : Device Simulator).behind (p.around issued' loaded')) ∧
      d.session.Leaves session True := by
  unfold Device.fetchRest
  split
  · exact ⟨_, d.session, issued, loaded, rfl, h.leaves True⟩
  · exact readBlock_around h sound d.block (Bytes.zeros blockSize) issued loaded

theorem write_around (h : d.session.Intact) (sound : p.Sound) (data : Bytes) (issued loaded : Nat) :
    ∃ answer d' issued' loaded', (d.behind (p.around issued loaded)).write data =
        (answer, behind d' (p.around issued' loaded')) ∧
      d.session.Leaves d'.session (answer.isOk = false) ∧
      (answer.isOk = false → d'.position = d.position) := by
  unfold Device.write
  split
  · exact ⟨_, d, issued, loaded, rfl, h.leaves _, fun _ => rfl⟩
  · split
    · exact ⟨_, d, issued, loaded, rfl, h.leaves _, fun _ => rfl⟩
    · obtain ⟨answer, session, issued', loaded', hfetch, hfetched⟩ := fetchRest_around h sound
        (d.span data.length) issued loaded
      simp only [span_behind, hfetch]
      cases answer with
      | error e =>
        exact ⟨_, { d with session }, issued', loaded', rfl, hfetched.mono fun _ => trivial, fun _ => rfl⟩
      | ok block =>
        generalize hn : d.span data.length = n
        generalize hd : ({ d with session } : Device Simulator) = fetched
        have hintact : fetched.session.Intact := hd ▸ hfetched.intact
        obtain ⟨answer, session', issued'', loaded'', hstore, hwritten⟩ := writeBlock_around hintact sound
          fetched.block (block.take fetched.within ++ data.take n ++ block.drop (fetched.within + n)) issued'
          loaded'
        simp only [block_behind, within_behind, hstore]
        have hleaves := hfetched.trans (hd ▸ hwritten) fun _ => trivial
        cases answer with
        | error e =>
          exact ⟨_, { fetched with session := session' }, issued'', loaded'', rfl, hleaves,
            fun _ => hd ▸ rfl⟩
        | ok =>
          let written : Device Simulator := { fetched with session := session' }
          exact ⟨_, written.forward n, issued'', loaded'', rfl, hleaves.mono nofun, nofun⟩

theorem perform_around (h : d.session.Intact) (sound : p.Sound) (deed : Deed) (buffer : Bytes)
    (issued loaded : Nat) :
    ∃ answer buffer' d' issued' loaded', (d.behind (p.around issued loaded)).perform deed buffer =
        (answer, buffer', behind d' (p.around issued' loaded')) ∧
      d.session.Leaves d'.session (answer.isOk = false) ∧
      (answer.isOk = false → d'.position = d.position ∧ buffer' = buffer) := by
  cases deed with
  | readBlock block =>
    obtain ⟨answer, session, issued', loaded', hrun, hleaves⟩ := readBlock_around h sound block buffer issued
      loaded
    simp only [perform, hrun]
    have hleft {kept : Prop} : d.session.Leaves session kept := hleaves.mono fun _ => trivial
    cases answer with
    | ok bytes => exact ⟨_, _, { d with session }, issued', loaded', rfl, hleft, nofun⟩
    | error e => exact ⟨_, _, { d with session }, issued', loaded', rfl, hleft, fun _ => ⟨rfl, rfl⟩⟩
  | writeBlock block =>
    obtain ⟨answer, session, issued', loaded', hrun, hleaves⟩ := writeBlock_around h sound block buffer issued
      loaded
    simp only [perform, hrun]
    cases answer with
    | ok =>
      exact ⟨_, _, { d with session }, issued', loaded', rfl, hleaves.mono nofun, nofun⟩
    | error e => exact ⟨_, _, { d with session }, issued', loaded', rfl, hleaves, fun _ => ⟨rfl, rfl⟩⟩
  | read =>
    obtain ⟨answer, d', issued', loaded', hrun, hleaves, hposition⟩ := read_around h sound buffer.length issued
      loaded
    simp only [perform, hrun]
    have hleft {kept : Prop} : d.session.Leaves d'.session kept := hleaves.mono fun _ => trivial
    cases answer with
    | ok bytes => exact ⟨_, _, d', issued', loaded', rfl, hleft, nofun⟩
    | error e => exact ⟨_, _, d', issued', loaded', rfl, hleft, fun _ => ⟨hposition rfl, rfl⟩⟩
  | write =>
    obtain ⟨answer, d', issued', loaded', hrun, hleaves, hposition⟩ := write_around h sound buffer issued
      loaded
    simp only [perform, hrun]
    cases answer with
    | ok n => exact ⟨_, _, d', issued', loaded', rfl, hleaves.mono nofun, nofun⟩
    | error e => exact ⟨_, _, d', issued', loaded', rfl, hleaves, fun _ => ⟨hposition rfl, rfl⟩⟩
  | seek target =>
    have hseek := (d.behind (p.around issued loaded)).seek_eq target
    have hdestination : (d.behind (p.around issued loaded)).destination target = d.destination target := by
      cases target <;> rfl
    rw [hdestination] at hseek
    by_cases legal : 0 ≤ d.destination target ∧ d.destination target < UInt64.size
    · rw [if_pos legal] at hseek
      simp only [perform, hseek]
      exact ⟨_, _, { d with position := UInt64.ofNat (d.destination target).toNat }, issued, loaded, rfl,
        h.leaves _, nofun⟩
    · rw [if_neg legal] at hseek
      simp only [perform, hseek]
      exact ⟨_, _, d, issued, loaded, rfl, h.leaves _, fun _ => ⟨rfl, rfl⟩⟩

theorem attempt_leaves (h : d.session.Intact) (sound : p.Sound) (deed : Deed) (buffer : Bytes) :
    d.session.Leaves (d.attempt p deed buffer).2.2.session ((d.attempt p deed buffer).1.isOk = false) ∧
      ((d.attempt p deed buffer).1.isOk = false →
        (d.attempt p deed buffer).2.2.position = d.position ∧ (d.attempt p deed buffer).2.1 = buffer) := by
  obtain ⟨answer, buffer', d', issued, loaded, hrun, hleft⟩ := perform_around h sound deed buffer 0 0
  have hattempt : d.attempt p deed buffer = (answer, buffer', d') := by
    rw [attempt, hrun]
    rfl
  rw [hattempt]
  exact hleft

theorem afterAll_intact (h : d.session.Intact) {deeds : List (Plan × Deed × Bytes)}
    (sound : ∀ step ∈ deeds, step.1.Sound) : (d.afterAll deeds).session.Intact := by
  induction deeds generalizing d with
  | nil => exact h
  | cons step rest ih =>
    have hleaves := (attempt_leaves h (sound step (List.mem_cons_self ..)) step.2.1 step.2.2).1
    exact ih hleaves.intact fun step member => sound step (List.mem_cons_of_mem _ member)

end Around

structure Effect where
  count : Nat
  buffer : Bytes
  stored : Medium
  position : UInt64

section Valid

variable (d : Device Simulator) (buffer : Bytes)

def effect : Deed → Effect
  | .readBlock block =>
    ⟨blockSize, d.session.stored.slice (blockSize * block.toNat) blockSize, d.session.stored, d.position⟩
  | .writeBlock block =>
    ⟨blockSize, buffer, d.session.stored.patch (blockSize * block.toNat) buffer, d.position⟩
  | .read =>
    ⟨d.span buffer.length,
      (d.session.stored.slice d.position.toNat (d.span buffer.length)).overlay buffer,
      d.session.stored, d.position + UInt64.ofNat (d.span buffer.length)⟩
  | .write =>
    ⟨d.span buffer.length, buffer,
      d.session.stored.patch d.position.toNat (buffer.take (d.span buffer.length)),
      d.position + UInt64.ofNat (d.span buffer.length)⟩
  | .seek target =>
    ⟨(d.destination target).toNat, buffer, d.session.stored, UInt64.ofNat (d.destination target).toNat⟩

def Valid : Deed → Prop
  | .readBlock block | .writeBlock block => buffer.length = blockSize ∧ d.session.Stores block
  | .read | .write => buffer ≠ [] ∧ d.position < d.size ∧ d.session.Stores d.block
  | .seek target => 0 ≤ d.destination target ∧ d.destination target < UInt64.size

def Succeeds (deed : Deed) : Prop :=
  ∃ d', d.perform deed buffer = (.ok (d.effect buffer deed).count, (d.effect buffer deed).buffer, d') ∧
    d'.session.stored = (d.effect buffer deed).stored ∧ d'.position = (d.effect buffer deed).position

variable {d buffer}

theorem Valid.succeeds (ready : d.session.Ready) {deed : Deed} (valid : d.Valid buffer deed) :
    d.Succeeds buffer deed := by
  cases deed with
  | readBlock block =>
    obtain ⟨size, stored⟩ := valid
    obtain ⟨session, hrun, haccesses⟩ := ready.readBlock_stored stored size
    refine ⟨{ d with session }, ?_, haccesses.medium, rfl⟩
    simp only [perform, Device.run, hrun, effect, Medium.length_slice]
  | writeBlock block =>
    obtain ⟨size, stored⟩ := valid
    obtain ⟨session, hrun, haccesses⟩ := ready.writeBlock_stored stored size
    refine ⟨{ d with session }, ?_, haccesses.medium, rfl⟩
    simp only [perform, Device.run, hrun, effect, size]
  | read =>
    obtain ⟨some, inside, stored⟩ := valid
    have hlength : buffer.length ≠ 0 := fun none => some (List.length_eq_zero_iff.mp none)
    obtain ⟨session, hrun, haccesses⟩ := read_stored ready stored inside hlength
    refine ⟨({ d with session } : Device Simulator).forward (d.span buffer.length), ?_, haccesses.medium, rfl⟩
    simp only [perform, hrun, effect, Medium.length_slice]
  | write =>
    obtain ⟨some, inside, stored⟩ := valid
    obtain ⟨session, hrun, haccesses⟩ := write_stored ready stored inside some
    refine ⟨({ d with session } : Device Simulator).forward (d.span buffer.length), ?_, haccesses.medium, rfl⟩
    simp only [perform, hrun, effect]
  | seek target =>
    have legal : 0 ≤ d.destination target ∧ d.destination target < UInt64.size := valid
    have hseek := d.seek_eq target
    rw [if_pos legal] at hseek
    refine ⟨{ d with position := UInt64.ofNat (d.destination target).toNat }, ?_, rfl, rfl⟩
    have hnumber : (UInt64.ofNat (d.destination target).toNat).toNat = (d.destination target).toNat := by
      unfold UInt64.size at legal
      rw [UInt64.toNat_ofNat']
      omega
    simp only [perform, hseek, effect, hnumber]

end Valid

structure Untouched (d d' : Device Simulator) : Prop where
  info : d'.session.info = d.session.info
  stored : d'.session.stored = d.session.stored
  position : d'.position = d.position
  state : d'.session.controller.bus.hardware.card.state = .transfer
  phase : d'.session.controller.bus.hardware.card.phase = none
  idle : d'.session.controller.active = none
  count : d'.session.controller.mapped = 0
  mapping : d'.session.controller.bus.mapping = none
  mask : d'.session.controller.bus.hardware.mask = 0
  free : d'.session.controller.owned = false

end Device

namespace Session

theorem start_intact {c : Controller Simulator} (vacant : c.Vacant)
    (consistent : c.bus.hardware.card.Consistent) {patience : Nat} {info : CardInfo} {s : Session Simulator}
    (started : start c patience true = (.ok info, s)) : s.Intact := by
  have hready := start_ready vacant.calm started
  obtain ⟨-, -, -, hconsistent⟩ := start_reports vacant.calm started
  refine ⟨hready, (hconsistent consistent).phase_eq_none (by rw [hready.selected.state]; rfl), ?_⟩
  obtain ⟨owned, hrun⟩ := run_owning identify
    ({ controller := c, patience, attended := true } : Session Simulator)
  unfold start at started
  rw [hrun] at started
  generalize (identify : Action Simulator CardInfo).run.run _ = identified at started
  rcases identified with ⟨e | info, s'⟩
  · cases started
  · cases started
    rfl

end Session

/-- A deed that fails leaves no trace: not on the card, in the caller's buffer or in the position, whatever the
session has been through before, and whatever has gone wrong. The controller is free, and any valid deed that
comes next succeeds. -/
theorem failed_deed_leaves_no_trace {c : Controller Simulator} (vacant : c.Vacant)
    (consistent : c.bus.hardware.card.Consistent) {patience : Nat} {info : CardInfo} {s : Session Simulator}
    (started : Session.start c patience true = (.ok info, s)) (position : UInt64)
    {history : List (Plan × Deed × Bytes)} (sound : ∀ step ∈ history, step.1.Sound) {plan : Plan}
    (planned : plan.Sound) (deed : Deed) (buffer : Bytes) {e : DeviceError} {buffer' : Bytes}
    {d d' : Device Simulator} (before : ({ session := s, position } : Device Simulator).afterAll history = d)
    (failed : d.attempt plan deed buffer = (.error e, buffer', d')) :
    buffer' = buffer ∧ d.Untouched d' ∧
      ∀ (next : Deed) (position : UInt64) (data : Bytes),
        Device.Valid { d' with position } data next → Device.Succeeds { d' with position } data next := by
  have hintact := Session.start_intact vacant consistent started
  have hd : d.session.Intact := by
    rw [← before]
    exact Device.afterAll_intact (d := { session := s, position }) hintact sound
  have hleaves := Device.attempt_leaves hd planned deed buffer
  rw [failed] at hleaves
  obtain ⟨⟨⟨ready, phase, free⟩, hinfo, hstored⟩, hkept⟩ := hleaves
  obtain ⟨hposition, hbuffer⟩ := hkept rfl
  refine ⟨hbuffer, ?_, fun next position data valid => ?_⟩
  · exact {
      info := hinfo
      stored := hstored rfl
      position := hposition
      state := ready.selected.state
      phase
      idle := ready.calm.idle
      count := ready.calm.count
      mapping := ready.calm.mapping
      mask := ready.calm.mask
      free }
  · exact Device.Valid.succeeds (d := { d' with position }) ready valid

theorem lost_write_leaves_no_trace :
    ∃ info s e d d', Session.start .onBlankCard 1000 true = (.ok info, s) ∧
      ({ session := s, position := 10 } : Device Simulator).afterAll
        [({ refusals := [1] }, .read, [0, 0])] = d ∧
      d.attempt { faults := [(2, Status.responseTimeout)] } .write [1, 2, 3] = (.error e, [1, 2, 3], d') ∧
      d.Untouched d' ∧ d'.Succeeds [1, 2, 3] .write := by
  obtain ⟨info, s, started, -, -⟩ := Session.start_onBlankCard
  have hplace : (fun d : Device Simulator => (d.size = 524288 ∧ d.position = 10 ∧
      d.session.info.highCapacity = true ∧ d.session.stored.size = 1024) ∧
        (d.attempt { faults := [(2, Status.responseTimeout)] } .write [1, 2, 3]).1.isOk = false)
          (({ session := (Session.start .onBlankCard 1000 true).2, position := 10 } :
            Device Simulator).afterAll [({ refusals := [1] }, .read, [0, 0])]) := by
    decide +kernel
  rw [started] at hplace
  have hhistory : ∀ step ∈ [(({ refusals := [1] }, .read, [0, 0]) : Plan × Deed × Bytes)], step.1.Sound := by
    intro step member
    rw [List.mem_singleton.mp member]
    nofun
  have hplanned : ({ faults := [(2, Status.responseTimeout)] } : Plan).Sound := by
    intro fault member
    rw [List.mem_singleton.mp member]
    decide
  generalize hd : ({ session := s, position := 10 } : Device Simulator).afterAll
    [({ refusals := [1] }, .read, [0, 0])] = d at hplace
  obtain ⟨⟨hsize, hposition, hblocks, hstored⟩, hfails⟩ := hplace
  rcases hfailed : d.attempt { faults := [(2, Status.responseTimeout)] } .write [1, 2, 3] with
    ⟨e | n, buffer, d'⟩
  · obtain ⟨rfl, huntouched, hnext⟩ := failed_deed_leaves_no_trace Controller.onBlankCard_vacant
      (Card.consistent_ofMedium _) started 10 hhistory hplanned .write [1, 2, 3] hd hfailed
    refine ⟨info, s, e, d, d', started, hd, hfailed, huntouched, hnext .write d'.position [1, 2, 3] ?_⟩
    have hblock : ({ d' with position := d'.position } : Device Simulator).block.toNat = 0 := by
      change (d'.position / _).toNat = 0
      rw [huntouched.position, hposition]
      rfl
    refine ⟨nofun, ?_, ?_, ?_⟩
    · change d'.position < d'.session.info.capacity
      rw [huntouched.position, huntouched.info, hposition]
      change 10 < d.size
      rw [hsize]
      decide
    · change _ < if d'.session.info.highCapacity then _ else _
      rw [hblock, huntouched.info, if_pos hblocks]
      decide
    · change _ ≤ d'.session.stored.size
      rw [hblock, huntouched.stored, hstored]
      decide
  · rw [hfailed] at hfails
    cases hfails

end CardHost
