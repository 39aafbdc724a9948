import CardHost.Proofs.Placement

namespace CardHost

theorem Command.buffer_ne {command : Command BufferId} {id : BufferId} (apart : id ∉ command.buffers)
    {data : Payload BufferId} (hd : command.data = some data) : data.buffer ≠ id := by
  rintro rfl
  apply apart
  rw [buffers, hd]
  exact List.mem_singleton_self _

namespace Bus

variable {H : Type} [Hardware H]

theorem write_get {b : Bus H} {id : BufferId} (apart : ∀ m, b.mapping = some m → m.buffer ≠ id)
    (offset : Nat) (value : UInt32) : (b.write offset value).memory.get id = b.memory.get id := by
  unfold write
  dsimp only
  split
  · next hw =>
    obtain ⟨moved, -, hm⟩ := Option.bind_eq_some_iff.mp hw
    simp only [fill, Option.map_eq_some_iff] at hm
    obtain ⟨m, hmapping, hm⟩ := hm
    obtain ⟨-, rfl⟩ := Prod.mk.inj hm
    rw [Memory.get_set, if_neg fun h => apart m hmapping h.1]
  · rfl

theorem writeAll_get {b : Bus H} {id : BufferId} (apart : ∀ m, b.mapping = some m → m.buffer ≠ id)
    (l : List (Nat × UInt32)) : (b.writeAll l).memory.get id = b.memory.get id := by
  induction l generalizing b with
  | nil => rfl
  | cons w rest ih =>
    refine (ih (b := b.write w.1 w.2) ?_).trans (write_get apart _ _)
    rwa [(b.write_frame w.1 w.2).2.1]

end Bus

namespace Controller

variable {H : Type} [Hardware H] {c c' c'' : Controller H} {id : BufferId}

structure Apart (c : Controller H) (id : BufferId) : Prop where
  bounce : c.bounce ≠ id
  mapping : ∀ m, c.bus.mapping = some m → m.buffer ≠ id

def Spares (id : BufferId) (c c' : Controller H) : Prop :=
  c.Apart id → c'.Apart id ∧ c'.buffer id = c.buffer id

omit [Hardware H] in
theorem Spares.trans (h : Spares id c c') (h' : Spares id c' c'') : Spares id c c'' := by
  intro apart
  obtain ⟨between, hget⟩ := h apart
  obtain ⟨after, hget'⟩ := h' between
  exact ⟨after, hget'.trans hget⟩

omit [Hardware H] in
theorem Spares.of_eq (bus : c'.bus = c.bus) (bounce : c'.bounce = c.bounce) : Spares id c c' := by
  intro apart
  refine ⟨⟨by rw [bounce]; exact apart.bounce, by rw [bus]; exact apart.mapping⟩, ?_⟩
  rw [buffer, buffer, bus]

omit [Hardware H] in
theorem Spares.refl (c : Controller H) : Spares id c c := .of_eq rfl rfl

theorem spares_writeAll (c : Controller H) (l : List (Nat × UInt32)) :
    Spares id c (c.writeAll l) := by
  rw [writeAll_eq]
  intro apart
  refine ⟨⟨apart.bounce, fun m hm => apart.mapping m ?_⟩, Bus.writeAll_get apart.mapping l⟩
  rwa [← c.bus.writeAll_mapping l]

theorem spares_write (c : Controller H) (offset : Nat) (value : UInt32) :
    Spares id c (c.write offset value) :=
  c.spares_writeAll [(offset, value)]

theorem spares_read (c : Controller H) (offset : Nat) : Spares id c (c.read offset).2 :=
  fun apart => ⟨⟨apart.bounce, apart.mapping⟩, rfl⟩

theorem spares_sync (c : Controller H) (point : SyncPoint) : Spares id c (c.sync point) :=
  fun apart => ⟨⟨apart.bounce, apart.mapping⟩, rfl⟩

theorem spares_unload (c : Controller H) : Spares id c c.unload := by
  unfold unload
  split
  · exact .refl c
  · exact fun apart => ⟨⟨apart.bounce, nofun⟩, rfl⟩

omit [Hardware H] in
theorem spares_setBuffer (c : Controller H) {other : BufferId} (apart : other ≠ id) (bytes : Bytes) :
    Spares id c (c.setBuffer other bytes) := by
  refine fun h => ⟨⟨h.bounce, h.mapping⟩, ?_⟩
  change (c.bus.memory.set other bytes).get id = _
  rw [Memory.get_set, if_neg fun h => apart h.1]
  rfl

theorem spares_load (c : Controller H) {other : BufferId} (apart : other ≠ id) (length : Nat)
    (direction : Direction) : Spares id c (c.load other length direction).2 := by
  rw [load_eq]
  split
  · exact .refl c
  · have hmapping := c.bus.load_mapping other length direction
    refine fun h => ⟨⟨h.bounce, fun m hm => ?_⟩, ?_⟩
    · change (c.bus.load other length direction).2.mapping = some m at hm
      rw [hmapping] at hm
      split at hm
      · exact Option.some.inj hm ▸ apart
      · exact h.mapping m hm
    · change (c.bus.load other length direction).2.memory.get id = _
      rw [c.bus.load_memory]
      rfl

theorem spares_mapData (c : Controller H) {data : Payload BufferId} (apart : data.buffer ≠ id) :
    Spares id c (c.mapData data).2 := by
  intro h
  refine (?_ : Spares id c (c.mapData data).2) h
  simp only [mapData]
  split
  · have hload := c.spares_load apart (c.buffer data.buffer).length .fromCard
    split <;> next hl => rwa [hl] at hload
  · split
    · exact .refl c
    · next length bytes _ =>
      have hload := (c.spares_setBuffer h.bounce bytes).trans
        ((c.setBuffer c.bounce bytes).spares_load h.bounce length .toCard)
      split <;> next hl => rwa [hl] at hload

omit [Hardware H] in
theorem spares_finish (c : Controller H) : Spares id c c.finish := by
  unfold finish
  split
  · exact .refl c
  · exact .of_eq rfl rfl

theorem spares_prepareData (c : Controller H) (length : Nat) : Spares id c (c.prepareData length) :=
  (c.spares_read Register.mode).trans (spares_writeAll _ _)

theorem spares_launch (c : Controller H) {command : Command BufferId}
    (apart : id ∉ command.buffers) : Spares id c (c.launch command) := by
  have issued (c' : Controller H) (l : List (Nat × UInt32)) : Spares id c' (c'.writeAll l) :=
    c'.spares_writeAll l
  cases hd : command.data with
  | none =>
    simp only [launch, hd]
    exact issued _ _
  | some data =>
    cases transfers : data.flags.transfers with
    | false =>
      simp only [launch, hd, transfers, Bool.false_eq_true, if_false]
      exact (c.spares_prepareData _).trans (issued _ _)
    | true =>
      rw [launch_transfer hd transfers]
      have hstaging : Spares id c (c.staging data) :=
        (c.spares_prepareData _).trans (.of_eq rfl rfl)
      have hmap := hstaging.trans ((c.staging data).spares_mapData (command.buffer_ne apart hd))
      split
      · next hm =>
        rw [hm] at hmap
        have refused (c' : Controller H) : Spares id c'
            (c'.modifyCurrent fun cmd => { cmd with error := some .noMemory }) := .of_eq rfl rfl
        exact hmap.trans ((refused _).trans (spares_finish _))
      · next hm =>
        rw [hm] at hmap
        split
        · exact hmap.trans ((spares_sync _ _).trans (issued _ _))
        · exact hmap.trans ((spares_sync _ _).trans (issued _ _))

theorem spares_advance (c : Controller H)
    (apart : ∀ a stop, c.active = some a → a.pending? = some stop → id ∉ stop.buffers) :
    Spares id c c.advance := by
  cases ha : c.active with
  | none =>
    simp only [advance, ha]
    exact .refl c
  | some a =>
    rw [advance_eq ha]
    split
    · next stop pending =>
      have hstop : Spares id c { c with active := some { a with phase := .stop } } := .of_eq rfl rfl
      exact hstop.trans (spares_launch _ (apart a stop ha pending))
    · exact .of_eq rfl rfl

theorem spares_readResponse (c : Controller H) (i n : Nat) : Spares id c (c.readResponse i n) := by
  induction n generalizing c i with
  | zero => exact .refl c
  | succ n ih =>
    have hmodify (c' : Controller H) (f : Command BufferId → Command BufferId) :
        Spares id c' (c'.modifyCurrent f) := .of_eq rfl rfl
    exact (c.spares_read _).trans ((hmodify _ _).trans (ih _ (i + 1)))

omit [Hardware H] in
theorem spares_accountMoved (c : Controller H) (command : Command BufferId) :
    Spares id c (c.accountMoved command) := by
  unfold accountMoved
  split <;> exact .of_eq rfl rfl

omit [Hardware H] in
theorem spares_restoreOrder (c : Controller H) {command : Command BufferId}
    (apart : id ∉ command.buffers) : Spares id c (c.restoreOrder command) := by
  unfold restoreOrder
  split
  · exact .refl c
  · next data hd =>
    split
    · exact c.spares_setBuffer (command.buffer_ne apart hd) _
    · exact .refl c

theorem spares_serveTransfer (c : Controller H) {command : Command BufferId}
    (apart : id ∉ command.buffers) (status : UInt32) : Spares id c (c.serveTransfer command status) := by
  have optional (stage : Bool) (c : Controller H) {f : Controller H → Controller H}
      (h : Spares id c (f c)) : Spares id c (if stage then f c else c) := by
    cases stage with
    | false => exact .refl c
    | true => exact h
  have sent (c : Controller H) : Spares id c (c.serveSent command) :=
    ((c.spares_writeAll _).trans ((spares_sync _ _).trans (spares_unload _))).trans
      (spares_accountMoved _ command)
  have received (c : Controller H) : Spares id c (c.serveReceived command) :=
    ((((c.spares_sync .afterRead).trans (spares_unload _)).trans (spares_restoreOrder _ apart)).trans
      (spares_accountMoved _ command)).trans (spares_writeAll _ _)
  unfold serveTransfer
  dsimp only
  refine .trans ?_ (optional _ _ (f := serveIdleLine) (spares_writeAll _ _))
  refine .trans ?_ (optional _ _ (f := (·.serveReceived command)) (received _))
  refine .trans ?_ (optional _ _ (f := serveFull) (spares_writeAll _ _))
  exact optional _ c (f := (·.serveSent command)) (sent c)

variable {a : Active} {command : Command BufferId}

theorem spares_conclude (ha : c.active = some a) (hc : a.current? = some command)
    (apart : ∀ stop, a.pending? = some stop → id ∉ stop.buffers)
    (found : Command BufferId) (error : Option CommandError) :
    Spares id c (c.conclude found error) := by
  have hm := modifyCurrent_eq (c := c) ha hc fun cmd => { cmd with error }
  generalize hended : (c.modifyCurrent fun cmd => { cmd with error }).write Register.disable
    Status.all = ended
  have hactive : ended.active = some (a.replace { command with error }) := by
    rw [← hended]
    exact congrArg Controller.active hm
  obtain ⟨words, bus, -, -, hread⟩ := readResponse_eq hactive (Active.current?_replace hc _) 0
    found.flags.words
  have hbefore : Spares id c ended := by
    rw [← hended]
    have hmodify : Spares id c (c.modifyCurrent fun cmd => { cmd with error }) := .of_eq rfl rfl
    exact hmodify.trans (spares_write _ _ _)
  simp only [conclude, hended]
  refine hbefore.trans ((ended.spares_readResponse 0 found.flags.words).trans (spares_advance _ ?_))
  rw [hread]
  intro a' stop ha' pending
  cases ha'
  rw [Active.pending?_replace, Active.pending?_replace] at pending
  exact apart stop pending

theorem spares_seen (c : Controller H) : Spares id c { c with bus := c.seen } :=
  (c.spares_read Register.status).trans (spares_read _ Register.mask)

theorem spares_interrupt (attached : c.detached = false) (ha : c.active = some a)
    (hc : a.current? = some command) (apart : id ∉ command.buffers)
    (pending : ∀ stop, a.pending? = some stop → id ∉ stop.buffers) :
    Spares id c c.interrupt := by
  have hcur : c.current? = some command := current?_of_active ha hc
  generalize hbus : ({ c with bus := c.seen } : Controller H) = glanced
  have hseen : Spares id c glanced := by
    rw [← hbus]
    exact c.spares_seen
  have hactive : glanced.active = some a := by
    rw [← hbus]
    exact ha
  rw [interrupt_eq attached, hcur, hbus]
  refine hseen.trans ?_
  dsimp only
  split
  · unfold serveError
    split
    · have hunload : glanced.unload.active = some a := by
        unfold unload
        split <;> exact hactive
      exact (spares_unload _).trans (spares_conclude hunload hc pending _ _)
    · exact spares_conclude hactive hc pending _ _
  · have hstages := glanced.spares_serveTransfer apart c.observed
    obtain ⟨bus, -, he⟩ := serveTransfer_eq hactive hc c.observed
    rw [serveStages_eq]
    split
    · refine hstages.trans (spares_conclude (congrArg Controller.active he)
        (Active.current?_replace hc _) ?_ _ _)
      rwa [Active.pending?_replace]
    · exact hstages

theorem spares_spurious (attached : c.detached = false) (idle : c.active = none) :
    Spares id c c.interrupt := by
  rw [interrupt_eq attached, current?_of_idle idle]
  exact c.spares_seen.trans (spares_write _ _ _)

theorem spares_between (attached : c.detached = false) (ha : c.active = some a)
    (hc : a.current? = some command) (apart : id ∉ command.buffers)
    (clean : anyBit c.observed Status.errors = false)
    (unready : anyBit c.observed Status.commandReady = false) : Spares id c c.interrupt := by
  have hcur : c.current? = some command := current?_of_active ha hc
  rw [interrupt_eq attached, hcur]
  dsimp only
  rw [clean, if_neg (by decide), serveStages_eq, unready, if_neg (by decide)]
  exact c.spares_seen.trans (spares_serveTransfer { c with bus := c.seen } apart c.observed)

end Controller

end CardHost
