import CardHost.Proofs.CommandOrder
import CardHost.Proofs.EngineUse
import CardHost.Proofs.Portability
import CardHost.Proofs.Retained
import CardHost.Proofs.Sightings

namespace CardHost

open Bus

def Access.prepares : Access → Bool
  | .write offset _ => offset == Register.mode || offset == Register.channelControl
  | .read _ _ | .load _ _ _ => true
  | .sync _ | .unload => false

def Command.unsent {B : Type} (command : Command B) : Command B :=
  { command with
    data := command.data.map fun data => { data with moved := 0 }
    error := some .noMemory }

theorem Command.map_unmapped {B : Type} (f : BufferId → B) (command : Command BufferId) :
    (Controller.unmapped command).map f = (command.map f).unsent := by
  obtain ⟨opcode, argument, flags, data, error, response⟩ := command
  cases data <;> rfl

namespace Controller

variable {H : Type} [Hardware H] {c c' : Controller H} {a : Active} {command : Command BufferId}
  {data : Payload BufferId} {id : BufferId}

theorem launch_failed (ha : c.active = some a) (hc : a.current? = some command)
    (fails : c.Unmappable command) :
    ∃ bus l, Performs c.bus l bus ∧ l.all Access.prepares = true ∧
      c.launch command =
        { c with
          bus, tickets := delivered c.tickets (a.replace (unmapped command)), active := none } := by
  have idle := (launch_active ha hc).mpr fails
  obtain ⟨l, bus, hp, hl⟩ := launch_launches ha hc
  generalize c.launch command = c' at idle hl ⊢
  cases hl with
  | plain | idle =>
    rw [ha] at idle
    cases idle
  | read | write => cases idle
  | unstaged => exact ⟨bus, _, hp, rfl, rfl⟩
  | refused => exact ⟨bus, _, hp, rfl, rfl⟩

section Failing

theorem spares_load_failed {buffer : BufferId} {length : Nat} {direction : Direction} {e : MappingError}
    (fails : (c.load buffer length direction).1 = .error e) :
    Spares id c (c.load buffer length direction).2 := by
  rw [load_eq] at fails ⊢
  split at fails
  · next taken =>
    rw [if_pos taken]
    exact .refl c
  · next free =>
    rw [if_neg free]
    dsimp only at fails
    refine fun apart => ⟨⟨apart.bounce, fun m hm => apart.mapping m ?_⟩, ?_⟩
    · change (c.bus.load buffer length direction).2.mapping = some m at hm
      rwa [c.bus.load_mapping, fails] at hm
    · change (c.bus.load buffer length direction).2.memory.get id = _
      rw [c.bus.load_memory]
      rfl

theorem spares_mapData_failed {e : MappingError} (fails : (c.mapData data).1 = .error e) :
    Spares id c (c.mapData data).2 := by
  have spared {d : Controller H} {buffer : BufferId} {length : Nat} {direction : Direction}
      (hl : d.load buffer length direction = (.error e, (c.mapData data).2)) :
      Spares id d (c.mapData data).2 := by
    have left : Spares id d _ := spares_load_failed (congrArg Prod.fst hl)
    rwa [hl] at left
  obtain ⟨-, hl⟩ | ⟨-, same⟩ | ⟨-, length, bytes, -, hl⟩ := mapData_error fails
  · exact spared hl
  · rw [same]
    exact .refl c
  · exact fun apart => ((c.spares_setBuffer apart.bounce bytes).trans (spared hl)) apart

theorem spares_launch_failed (fails : c.Unmappable command) : Spares id c (c.launch command) := by
  obtain ⟨data, e, hd, transfers, fails⟩ := fails
  have hstaging : Spares id c (c.staging data) := (c.spares_prepareData _).trans (.of_eq rfl rfl)
  have hmap := hstaging.trans (spares_mapData_failed fails)
  rw [launch_transfer hd transfers]
  generalize (c.staging data).mapData data = mapped at fails hmap
  obtain ⟨result, refused⟩ := mapped
  cases fails
  have noted : Spares id refused
      (refused.modifyCurrent fun cmd => { cmd with error := some .noMemory }) := .of_eq rfl rfl
  exact hmap.trans (noted.trans (spares_finish _))

end Failing

section Quiet

theorem spares_update (c : Controller H) : Spares id c c.update.2 := by
  unfold update
  split
  · exact .refl c
  · unfold applySettings
    dsimp only
    refine .trans ?_ (spares_write _ Register.mode _)
    refine .trans ?_ (spares_read _ Register.mode)
    refine .trans ?_ (spares_write _ Register.slot _)
    refine .trans ?_ (spares_read _ Register.slot)
    exact (c.spares_write Register.control _).trans (.of_eq rfl rfl)

theorem spares_setTiming (c : Controller H) (clock : UInt32) (width : BusWidth) :
    Spares id c (c.setTiming clock width).2 := by
  obtain ⟨bus, asks⟩ := c.ask_keeps clock width
  have asked : Spares id c (c.ask clock width) := .of_eq bus asks.bounce
  rw [setTiming_eq]
  split
  · exact .refl c
  · exact asked.trans (spares_update _)

theorem spares_detach (c : Controller H) : Spares id c c.detach.2 := by
  unfold detach
  split
  · exact .refl c
  split
  · exact .refl c
  · have closed (d : Controller H) : Spares id d { d with detached := true } := .of_eq rfl rfl
    exact (c.spares_writeAll quiesce).trans (closed _)

theorem spares_perform {operation : Operation} (quiet : operation.isQuiet = true)
    (performed : (c.perform operation).2 = .whole c') : Spares id c c' := by
  cases operation with
  | submit | interrupt | poll | drop | takeApart => cases quiet
  | readProperty p =>
    obtain ⟨bus, keeps⟩ := c.readProperty_keeps p
    cases performed
    exact .of_eq bus keeps.bounce
  | writeProperty value =>
    obtain ⟨bus, keeps⟩ := c.writeProperty_keeps value
    cases performed
    exact .of_eq bus keeps.bounce
  | setOptions | release | isBusy | countMappings | readSettings =>
    cases performed
    exact .of_eq rfl rfl
  | acquire =>
    obtain ⟨bus, keeps⟩ := c.acquire_keeps
    cases performed
    exact .of_eq bus keeps.bounce
  | update =>
    cases performed
    exact c.spares_update
  | setTiming clock width =>
    cases performed
    exact c.spares_setTiming clock width
  | detach =>
    cases performed
    exact c.spares_detach

end Quiet

/-- Neither the bounce buffer nor what is mapped is a buffer that is still to come. -/
def Contained (c : Controller H) : Prop := ∀ id, c.bus.memory.buffers.size ≤ id → c.Apart id

omit [Hardware H] in
theorem Contained.of_spares (h : c.Contained) (alike : c.bus.memory.Alike c'.bus.memory)
    (spares : ∀ id, c.bus.memory.buffers.size ≤ id → Spares id c c') : c'.Contained := by
  intro id beyond
  rw [alike.1] at beyond
  exact (spares id beyond (h id beyond)).1

omit [Hardware H] in
theorem Contained.take (h : c.Contained) (request : Request Bytes) :
    ∀ id, c.bus.memory.buffers.size ≤ id → (c.take request).Apart id :=
  fun id beyond => ⟨(h id beyond).bounce, (h id beyond).mapping⟩

theorem Contained.submit (h : c.Contained) (request : Request Bytes) : (c.submit request).2.Contained := by
  rw [submit_eq]
  split
  · exact h
  split
  · exact h
  · have taken : (c.take request).Contained := fun id beyond =>
      h.take request id (Nat.le_trans (c.bus.memory.place_extends request).1 beyond)
    obtain ⟨l, bus, hp, hl⟩ := launch_launches (c := c.take request) rfl rfl
    refine taken.of_spares ?_ fun id beyond => spares_launch _ fun placed => ?_
    · rw [(hl.outcome rfl rfl).1]
      exact hp.alike
    · have new : id ∈ (c.bus.memory.place request).1.buffers := List.mem_append_left _ placed
      rw [c.bus.memory.place_buffers, List.mem_range'_1] at new
      have extends' := (c.bus.memory.place_extends request).1
      have beyond : (c.bus.memory.place request).2.buffers.size ≤ id := beyond
      omega

theorem Contained.interrupt (h : c.Contained)
    (current : ∀ a, c.active = some a → a.current?.isSome = true)
    (own : ∀ a, c.active = some a → ∀ id ∈ a.request.buffers, id < c.bus.memory.buffers.size) :
    c.interrupt.Contained := by
  by_cases hd : c.detached = true
  · rwa [Controller.interrupt, if_pos hd]
  have attached := Bool.eq_false_iff.mpr hd
  cases ha : c.active with
  | none =>
    obtain ⟨bus, hp, he⟩ := interrupt_spurious attached (current?_of_idle ha)
    refine h.of_spares ?_ fun id _ => spares_spurious attached ha
    rw [he]
    exact hp.alike
  | some a =>
    obtain ⟨command, hc⟩ := Option.isSome_iff_exists.mp (current a ha)
    obtain ⟨l, hp, -⟩ := interrupt_resolves attached ha hc
    refine h.of_spares hp.alike fun id beyond => ?_
    have other : id ∉ a.request.buffers := fun there => Nat.not_lt_of_le beyond (own a ha id there)
    exact spares_interrupt attached ha hc (fun there => other (a.current?_buffers hc id there))
      fun stop pending there => other (a.pending?_buffers pending id there)

theorem Contained.perform (h : c.Contained) (operation : Operation) (quiet : operation.isQuiet = true) :
    (c.perform operation).2.Holds Contained := by
  obtain ⟨c', l, performed, -, hp, -⟩ := c.perform_quiet quiet
  rw [performed]
  exact h.of_spares hp.alike fun id _ => spares_perform quiet performed

omit [Hardware H] in
theorem Contained.spares_new (h : c.Contained) (request : Request Bytes) (id : BufferId)
    (placed : id ∈ (c.accepted request).request.buffers) : (c.take request).Apart id := by
  have new : id ∈ (c.bus.memory.place request).1.buffers := placed
  rw [c.bus.memory.place_buffers, List.mem_range'_1] at new
  exact h.take request id new.1

theorem submit_failed (h : c.Contained) (attached : c.detached = false) (idle : c.active = none)
    {request : Request Bytes}
    (fails : (c.take request).Unmappable (c.accepted request).request.command) :
    ∃ c' setup, c.submit request = (.ok c.tickets.size, c') ∧ Performs (c.take request).bus setup c'.bus ∧
      setup.all Access.prepares = true ∧ c'.mapped = c.mapped ∧ c'.active = none ∧
      (c'.toParts.poll c.tickets.size).1 =
        .ok (some { request with command := request.command.unsent }) := by
  obtain ⟨bus, setup, hp, prepares, he⟩ := launch_failed (c := c.take request) rfl rfl fails
  refine ⟨(c.take request).launch (c.accepted request).request.command, setup,
    submit_idle attached idle request, by rw [he]; exact hp, prepares, by rw [he]; rfl, by rw [he], ?_⟩
  have bytes : (c.accepted request).request.map
      ((c.take request).launch (c.accepted request).request.command).buffer = request := by
    refine .trans (Request.map_congr fun id placed => ?_) (c.bus.memory.map_place request)
    exact (spares_launch_failed fails (h.spares_new request id placed)).2
  have ready : ((c.take request).launch (c.accepted request).request.command).tickets =
      delivered (c.take request).tickets
        ((c.accepted request).replace (unmapped (c.accepted request).request.command)) := by
    rw [he]
  have outcome (f : BufferId → Bytes) :
      ((c.accepted request).replace (unmapped (c.accepted request).request.command)).request.map f =
        { (c.accepted request).request.map f with
          command := ((c.accepted request).request.map f).command.unsent } :=
    congrArg (Request.mk · _) (Command.map_unmapped f _)
  refine (Parts.poll_delivered ready Array.getElem?_push_size).trans ?_
  rw [outcome]
  exact congrArg (fun r : Request Bytes => Except.ok (some { r with command := r.command.unsent })) bytes

theorem contained_attach (unit : UInt32) (board : Board) (options : Options) (hardware : H) :
    (attach unit board options hardware).Contained := by
  have fresh : (Controller.fresh unit board options hardware).Contained :=
    fun id beyond => ⟨Nat.ne_of_lt beyond, by rintro m ⟨⟩⟩
  rw [attach_eq]
  refine fresh.of_spares ?_ fun id _ => spares_writeAll _ _
  rw [writeAll_eq]
  exact (performs_writeAll _ _).alike

end Controller

theorem Agrees.active_own {H : Type} {c : Controller H} {l : Ledger} (h : Agrees (.whole c) l) {a : Active}
    (ha : c.active = some a) : ∀ id ∈ a.request.buffers, id < c.bus.memory.buffers.size := by
  obtain ⟨-, e, entry, matched⟩ := h.active a ha
  rw [Request.buffers_of_blank matched.same]
  exact h.sound.own e (List.mem_of_getElem? entry)

namespace Controller

variable {H : Type} [Hardware H]

structure Enduring (P : Controller (Recorder H) → Prop) : Prop where
  submit : ∀ c request, P c → P (c.submit request).2
  interrupt : ∀ c l, Agrees (.whole c) l → P c → P c.interrupt
  perform : ∀ c l operation, Agrees (.whole c) l → operation.isQuiet = true → P c →
    (c.perform operation).2.Holds P
  setTicket : ∀ c m value, P c → P { c with toParts := c.setTicket m value }
  prod : ∀ (c : Controller (Recorder H)) (inner : H), P c →
    P { c with bus := { c.bus with hardware := { c.bus.hardware with inner } } }

variable {P : Controller (Recorder H) → Prop} {s : System (Recorder H)} {l : Ledger}

theorem Enduring.step (enduring : Enduring P) (agrees : Agrees s l) (h : s.Holds P) (operation : Operation) :
    (s.step operation).2.Holds P := by
  by_cases handle : ∃ m, operation = .poll m ∨ operation = .drop m
  · obtain hs | ⟨m, value, -, hs⟩ := s.step_handle handle
    · rwa [hs]
    · rw [hs]
      cases s with
      | apart => exact trivial
      | whole c => exact enduring.setTicket c m value h
  cases s with
  | apart p =>
    rw [System.step_apart p fun m => ⟨fun hm => handle ⟨m, .inl hm⟩, fun hm => handle ⟨m, .inr hm⟩⟩]
    exact trivial
  | whole c =>
    cases operation with
    | poll m => exact (handle ⟨m, .inl rfl⟩).elim
    | drop m => exact (handle ⟨m, .inr rfl⟩).elim
    | submit request =>
      rw [step_submit]
      exact enduring.submit c request h
    | interrupt => exact enduring.interrupt c l agrees h
    | takeApart => exact trivial
    | _ => exact enduring.perform c l _ agrees rfl h

theorem Enduring.afterProds (enduring : Enduring P) (agrees : Agrees s l) (h : s.Holds P)
    (run : List ((H → H) × Operation)) : (s.afterProds run).Holds P := by
  induction run generalizing s l with
  | nil => exact h
  | cons move rest ih =>
    have agrees := System.agrees_prod agrees move.1
    obtain ⟨l', -, -, agrees', -⟩ := agrees.step_accounted move.2
    have prodded : (s.prod move.1).Holds P := by
      cases s with
      | apart => exact trivial
      | whole c => exact enduring.prod c _ h
    exact ih agrees' (enduring.step agrees prodded move.2)

theorem contained_enduring : Enduring (Contained (H := Recorder H)) where
  submit _ request h := h.submit request
  interrupt _ _ agrees h := h.interrupt agrees.current fun _ => agrees.active_own
  perform _ _ operation _ quiet h := h.perform operation quiet
  setTicket _ _ _ h := fun id beyond => ⟨(h id beyond).bounce, (h id beyond).mapping⟩
  prod _ _ h := fun id beyond => ⟨(h id beyond).bounce, (h id beyond).mapping⟩

end Controller

end CardHost
