import CardHost.Proofs.BlockTransfers
import CardHost.Proofs.CommandOrder
import CardHost.Proofs.Latching

namespace CardHost

open Bus

namespace Transfer

def stage (t : Transfer) : Stage := if t.toCard then .sending else .receiving

/-- How many bytes have moved when no error is reported: none, if a fault took the place of the
command. -/
def moved (t : Transfer) (s : Simulator) (buffer : Bytes) : Nat :=
  if s.injected = 0 then t.carried s.soc buffer else 0

structure Moves (t : Transfer) (s : Simulator) (argument : UInt32) (buffer arrived : Bytes)
    (medium : Medium) : Prop where
  fits : s.injected = 0 → s.card.byteOffset argument + t.needed s.soc buffer ≤ s.card.medium.size
  arrived_eq : arrived =
    if t.toCard then buffer
    else s.inMemory (s.card.medium.slice (s.card.byteOffset argument) (t.moved s buffer)) ++
      buffer.drop (t.moved s buffer)
  medium_eq : medium =
    if t.toCard then
      s.card.medium.patch (s.card.byteOffset argument) (buffer.take (t.moved s buffer))
    else s.card.medium

end Transfer

theorem Medium.slice_patch (m : Medium) (offset : Nat) (data : Bytes) :
    (m.patch offset data).slice offset data.length = data := by
  apply List.ext_getElem (Medium.length_slice ..)
  intro i hi hdata
  simp [slice, byte_patch, List.getElem?_eq_getElem hdata]

theorem Transfer.moved_eq_iff (t : Transfer) (s : Simulator) (buffer : Bytes) :
    t.moved s buffer = buffer.length ↔ buffer = [] ∨ s.injected = 0 ∧
      if t.toCard then
        buffer.length % 4 = 0 ∨ s.soc.secondRevision = true ∧ buffer.length < Staging.minLength
      else buffer.length % 4 = 0 ∧ buffer.length < 65536 := by
  rw [moved, ← carried_eq_iff]
  by_cases fault : s.injected = 0
  · rw [if_pos fault]
    refine ⟨fun whole => .inr ⟨fault, whole⟩, ?_⟩
    rintro (rfl | ⟨-, whole⟩)
    · rw [carried_eq_iff]
      split
      · exact .inl rfl
      · exact ⟨rfl, by decide⟩
    · exact whole
  · rw [if_neg fault]
    refine ⟨fun none => .inl (List.eq_nil_of_length_eq_zero none.symm), ?_⟩
    rintro (rfl | ⟨sound, -⟩)
    · rfl
    · exact (fault sound).elim

theorem Transfer.moves_nothing {t : Transfer} {s : Simulator} (fault : s.injected ≠ 0)
    (argument : UInt32) (buffer : Bytes) : t.Moves s argument buffer buffer s.card.medium where
  fits none := (fault none).elim
  arrived_eq := by
    have hempty : s.inMemory (s.card.medium.slice (s.card.byteOffset argument) 0) = [] :=
      List.eq_nil_of_length_eq_zero ((s.length_inMemory _).trans (Medium.length_slice ..))
    rw [moved, if_neg fault, hempty]
    exact (ite_self _).symm
  medium_eq := by
    rw [moved, if_neg fault, List.take_zero, Medium.patch_nil]
    exact (ite_self _).symm

theorem Transfer.moves_unheard {t : Transfer} {s s' : Simulator} (argument : UInt32) (buffer : Bytes)
    (medium : s'.card.medium = s.card.medium)
    (unheard : anyBit s'.latched Status.errors = true ∨ s.injected ≠ 0)
    (clean : anyBit s'.latched Status.errors = false) :
    t.Moves s argument buffer buffer s'.card.medium := by
  rw [medium]
  refine moves_nothing (unheard.resolve_left ?_) argument buffer
  rw [clean]
  decide

namespace Simulator

structure Able (s : Simulator) : Prop where
  enabled : s.enabled = true
  injected : s.injected = 0
  selected : s.card.state = .transfer
  plain : s.card.applicationNext = false

theorem issue_unable {s : Simulator} {t : Transfer} {word : UInt32} (hw : t.IsWord word)
    (expected : anyBit word CommandWord.responseKind = true) (unable : ¬ s.Able)
    (mapped : Option Bytes) :
    ∃ latched injected card, s.issue word mapped = ({ s with latched, injected, card }, none) ∧
      card.medium = s.card.medium ∧ (anyBit latched Status.errors = true ∨ s.injected ≠ 0) := by
  have error (s : Simulator) {bits : UInt32} (hbits : anyBit bits Status.errors = true) :
      anyBit (s.latch bits).latched Status.errors = true := by
    rw [anyBit_latch, hbits, Bool.or_true]
  have timedOut (s : Simulator) :
      anyBit ((s.latch Status.responseTimeout).latch Status.commandReady).latched Status.errors =
        true :=
    (latches_latch _ _).anyBit (error s rfl)
  obtain ⟨goesOn, s', responds⟩ := s.responds word
  rw [responds.issue mapped]
  cases responds with
  | disabled => exact ⟨_, s.injected, s.card, rfl, rfl, .inl (error _ rfl)⟩
  | fault enabled fault => exact ⟨_, 0, s.card, rfl, rfl, .inr fault⟩
  | silent card enabled injected executes =>
    refine ⟨_, s.injected, card, rfl, ?_, .inl ?_⟩
    · have hmedium := s.card.execute_medium (word &&& CommandWord.number) (s.register Register.argument)
      rwa [executes] at hmedium
    · rw [expected]
      exact timedOut _
  | answers reply card enabled injected executes =>
    have hstate : ¬ (s.card.state = .transfer ∧ s.card.applicationNext = false) :=
      fun able => unable ⟨enabled, injected, able.1, able.2⟩
    have hsilent := Card.execute_unable t (s.register Register.argument) hstate
    rw [← hw.number] at hsilent
    cases hsilent.symm.trans executes

end Simulator

namespace Bus

theorem write_unable {b : Bus Simulator} (still : b.hardware.Still) {t : Transfer} {word : UInt32}
    (hw : t.IsWord word) (expected : anyBit word CommandWord.responseKind = true)
    (unable : ¬ b.hardware.Able) :
    ∃ s, b.write Register.command word = { b with hardware := s } ∧ s.Still ∧
      s.mask = b.hardware.mask ∧ s.card.medium = b.hardware.card.medium ∧
      (anyBit s.latched Status.errors = true ∨ b.hardware.injected ≠ 0) := by
  have hstill : (b.hardware.setRegister Register.command word).Still :=
    still.setRegister_other _ _ (by decide)
  obtain ⟨latched, injected, card, hissue, hmedium, herror⟩ := Simulator.issue_unable
    (s := b.hardware.setRegister Register.command word) hw expected
    (fun able => unable ⟨able.enabled, able.injected, able.selected, able.plain⟩) b.mapped
  have hwrite : b.hardware.write b.mapped Register.command word =
      (b.hardware.setRegister Register.command word).issue word b.mapped := rfl
  refine ⟨_, b.write_unmoved (hwrite.trans hissue), ?_, rfl, hmedium, herror⟩
  exact ⟨hstill.arrived, hstill.awaited, hstill.line, hstill.receiveNext, hstill.transmitNext⟩

theorem write_transmitOn {b : Bus Simulator} (still : b.hardware.Still) :
    b.write Register.channelControl Channel.transmitOn =
      { b with hardware := { b.hardware with transmitOn := true } } := by
  have on : ({ b.hardware with transmitOn := true } : Simulator).Still :=
    ⟨still.arrived, still.awaited, still.line, still.receiveNext, still.transmitNext⟩
  refine b.write_unmoved ((b.hardware.switchChannels_transmitOn b.mapped).trans ?_)
  rw [on.pumpTransmit]

end Bus

namespace Controller

variable {c c' : Controller Simulator} {a : Active} {command : Command BufferId}

structure Placed (c : Controller Simulator) (a : Active) (command : Command BufferId) : Prop where
  attached : c.detached = false
  active : c.active = some a
  current : a.current? = some command
  count : c.mapped = 0 → c.bus.mapping = none
  mask : c.bus.hardware.mask = 0
  settled : c.Settled

theorem Placed.launchable (h : c.Placed a command) {data : Payload BufferId}
    (hd : command.data = some data) (transfers : data.flags.transfers = true)
    (mappable : ¬ c.Unmappable command) :
    c.Launchable ∧
      if data.flags.isRead then (c.buffer data.buffer).length ≤ Simulator.maxMapping
      else c.fetched (c.buffer data.buffer) ≤ (c.buffer c.bounce).length := by
  have hstaging := staging_eq h.active h.current hd (c.prepareData_simulated _)
  rcases hmap : (c.staging data).mapData data with ⟨e | r, c'⟩
  · exact (mappable ⟨data, e, hd, transfers, congrArg Prod.fst hmap⟩).elim
  · rw [hstaging] at hmap
    obtain ⟨free, loads, room⟩ := mapData_ok_simulated hmap
    exact ⟨⟨free, h.count free, h.settled.still, loads⟩, room⟩

structure Moving (c c' : Controller Simulator) (a : Active) (t : Transfer) (argument : UInt32)
    (id : BufferId) (command : Command BufferId) : Prop where
  launched : ∃ bus, c' = c.proceed bus 1 (a.replace (restaged command))
  mask : c'.bus.hardware.mask = t.stage.mask
  still : c'.bus.hardware.Still
  alike : c.bus.memory.Alike c'.bus.memory
  moves : anyBit c'.bus.hardware.latched Status.errors = false →
    t.Moves c.bus.hardware argument (c.buffer id) (c'.buffer id) c'.bus.hardware.card.medium

theorem Placed.enabled (h : c.Placed a command) {s : Simulator} (mask : s.mask = c.bus.hardware.mask)
    (stage : Stage) : s.mask ||| stage.mask = stage.mask := by
  rw [mask, h.mask]
  exact UInt32.zero_or

section

variable {t : Transfer} {argument : UInt32} {id : BufferId}

theorem Placed.moving_unable_read (h : c.Placed a command) (asks : t.IsCommand argument id command)
    (fromCard : t.toCard = false) (unable : ¬ c.bus.hardware.Able) (mappable : ¬ c.Unmappable command) :
    c.Moving (c.launch command) a t argument id command := by
  obtain ⟨moved, hd⟩ := asks.data
  obtain ⟨launchable, room⟩ := h.launchable hd t.transfers_flags mappable
  have isRead : t.flags.isRead = true := by rw [t.isRead_flags, fromCard]; rfl
  rw [if_pos isRead] at room
  have hlaunch := launch_read_simulated launchable h.active h.current hd isRead room
  dsimp only at hlaunch
  obtain ⟨s, hwrite, still, mask, medium, unheard⟩ := write_unable
    (b := ({ c.bus with
      hardware := c.bus.hardware.armedRead (c.buffer id).length command.argument
      mapping := some ⟨id, (c.buffer id).length⟩ } : Bus Simulator))
    (Simulator.armedRead_still h.settled.still _ _) (asks.isWord c) (asks.expects c)
    fun able => unable ⟨able.enabled, able.injected, able.selected, able.plain⟩
  rw [writeAll_cons, hwrite, writeAll_cons, write_enable, writeAll_nil] at hlaunch
  rw [hlaunch]
  refine ⟨⟨_, rfl⟩, ?_, ?_, .refl _, Transfer.moves_unheard argument _ medium unheard⟩
  · rw [Transfer.stage, fromCard]
    exact h.enabled mask .receiving
  · exact ⟨still.arrived, still.awaited, still.line, still.receiveNext, still.transmitNext⟩

theorem Placed.moving_unable_write (h : c.Placed a command) (asks : t.IsCommand argument id command)
    (toCard : t.toCard = true) (unable : ¬ c.bus.hardware.Able) (apart : c.bounce ≠ id)
    (mappable : ¬ c.Unmappable command) :
    c.Moving (c.launch command) a t argument id command := by
  obtain ⟨moved, hd⟩ := asks.data
  obtain ⟨launchable, room⟩ := h.launchable hd t.transfers_flags mappable
  have isRead : t.flags.isRead = false := by rw [t.isRead_flags, toCard]; rfl
  have isWrite : t.flags.isWrite = true := by rw [t.isWrite_flags, toCard]
  rw [if_neg (by rw [isRead]; decide)] at room
  have hlaunch := launch_write_simulated launchable h.active h.current hd isRead isWrite room
    (Nat.le_trans room (by rw [h.settled.bounce]; decide))
  dsimp only at hlaunch
  obtain ⟨s, hwrite, still, mask, medium, unheard⟩ := write_unable
    (b := (⟨c.bus.hardware.armedWrite (c.buffer id).length (c.fetched (c.buffer id)) command.argument,
      c.bus.memory.set c.bounce (c.bounced (c.buffer id)),
      some ⟨c.bounce, c.fetched (c.buffer id)⟩⟩ : Bus Simulator))
    (Simulator.armedWrite_still h.settled.still _ _ _) (asks.isWord c) (asks.expects c)
    fun able => unable ⟨able.enabled, able.injected, able.selected, able.plain⟩
  -- Without a block that waits for it, the channel fetches nothing when it is switched on.
  rw [writeAll_cons, hwrite, writeAll_cons, write_transmitOn still, writeAll_cons, write_enable,
    writeAll_nil] at hlaunch
  have same : (c.bus.memory.set c.bounce (c.bounced (c.buffer id))).get id = c.buffer id := by
    rw [Memory.get_set, if_neg fun hb => apart hb.1]
    rfl
  rw [hlaunch]
  refine ⟨⟨_, rfl⟩, ?_, ?_, c.bus.memory.alike_set _ _ (Bytes.length_overlay _ _), fun clean => ?_⟩
  · rw [Transfer.stage, toCard]
    exact h.enabled mask .sending
  · exact ⟨still.arrived, still.awaited, still.line, still.receiveNext, still.transmitNext⟩
  · change t.Moves _ argument _ ((c.bus.memory.set c.bounce (c.bounced (c.buffer id))).get id) _
    rw [same]
    exact Transfer.moves_unheard argument _ medium unheard clean

theorem Placed.poised (h : c.Placed a command) (able : c.bus.hardware.Able) (launchable : c.Launchable) :
    c.Poised a command where
  attached := h.attached
  active := h.active
  current := h.current
  count := launchable.count
  mapping := launchable.mapping
  mask := h.mask
  healthy := ⟨h.settled.still, able.enabled, able.injected, launchable.loads⟩
  soc := h.settled.soc
  bounce := h.settled.bounce
  plain := able.plain

theorem Placed.moving_able_read (h : c.Placed a command) (asks : t.IsCommand argument id command)
    (fromCard : t.toCard = false) (able : c.bus.hardware.Able) (there : id < c.bus.memory.buffers.size)
    (mappable : ¬ c.Unmappable command) :
    c.Moving (c.launch command) a t argument id command := by
  obtain ⟨moved, hd⟩ := asks.data
  obtain ⟨launchable, room⟩ := h.launchable hd t.transfers_flags mappable
  rw [if_pos (by rw [t.isRead_flags, fromCard]; rfl)] at room
  obtain ⟨s, memory, hlaunch, hissued⟩ :=
    (h.poised able launchable).launched_read able.selected asks fromCard room
  have hmask : ({ s with mask := Stage.receiving.mask } : Simulator).mask = t.stage.mask := by
    rw [Transfer.stage, fromCard]
    rfl
  rw [hlaunch]
  rw [← Transfer.needed_from_card c.bus.hardware.soc (c.buffer id) fromCard] at hissued
  split at hissued
  · next fits =>
    obtain ⟨hended, -, rfl⟩ := hissued
    refine ⟨⟨_, rfl⟩, hmask, (hended.healthy.masked _).still,
      c.bus.memory.alike_set _ _ (Simulator.length_filled _ _ _ (Transfer.carried_le _ _)),
      fun _ => ⟨fun _ => fits, ?_, ?_⟩⟩
    · rw [fromCard, if_neg (by decide), Transfer.moved, if_pos able.injected]
      exact (Memory.get_set _ _ _ _).trans (if_pos ⟨rfl, there⟩)
    · rw [fromCard, if_neg (by decide)]
      exact hended.card.medium_eq
  · obtain ⟨hended, rfl⟩ := hissued
    refine ⟨⟨_, rfl⟩, hmask, (hended.healthy.masked _).still, .refl _, fun clean => ?_⟩
    cases hended.errors.symm.trans clean

theorem Placed.moving_able_write (h : c.Placed a command) (asks : t.IsCommand argument id command)
    (toCard : t.toCard = true) (able : c.bus.hardware.Able) (apart : c.bounce ≠ id)
    (mappable : ¬ c.Unmappable command) :
    c.Moving (c.launch command) a t argument id command := by
  obtain ⟨moved, hd⟩ := asks.data
  obtain ⟨launchable, room⟩ := h.launchable hd t.transfers_flags mappable
  rw [if_neg (by rw [t.isRead_flags, toCard]; decide), h.settled.bounce] at room
  have short := Nat.le_trans (Staging.le_length (c.buffer id) _ _) room
  obtain ⟨s, hlaunch, -, hissued⟩ :=
    (h.poised able launchable).launched_write able.selected asks toCard short
  have hmask : ({ s with mask := Stage.sending.mask } : Simulator).mask = t.stage.mask := by
    rw [Transfer.stage, toCard]
    rfl
  have halike : c.bus.memory.Alike (c.bus.memory.set c.bounce (c.bounced (c.buffer id))) :=
    c.bus.memory.alike_set _ _ (Bytes.length_overlay _ _)
  have hneeded := Transfer.needed_to_card c.bus.hardware.soc (c.buffer id) toCard
  rw [hlaunch]
  split at hissued
  · next fits =>
    refine ⟨⟨_, rfl⟩, hmask, (hissued.healthy.masked _).still, halike,
      fun _ => ⟨fun _ => by rwa [hneeded], ?_, ?_⟩⟩
    · rw [toCard, if_pos rfl]
      exact (Memory.get_set _ _ _ _).trans (if_neg fun hb => apart hb.1)
    · rw [toCard, if_pos rfl, Transfer.moved, if_pos able.injected]
      exact hissued.card.medium_eq
  · refine ⟨⟨_, rfl⟩, hmask, (hissued.healthy.masked _).still, halike, fun clean => ?_⟩
    cases hissued.errors.symm.trans clean

theorem Placed.moving (h : c.Placed a command) (asks : t.IsCommand argument id command)
    (there : id < c.bus.memory.buffers.size) (apart : c.bounce ≠ id)
    (mappable : ¬ c.Unmappable command) :
    c.Moving (c.launch command) a t argument id command := by
  cases direction : t.toCard with
  | false =>
    by_cases able : c.bus.hardware.Able
    · exact h.moving_able_read asks direction able there mappable
    · exact h.moving_unable_read asks direction able mappable
  | true =>
    by_cases able : c.bus.hardware.Able
    · exact h.moving_able_write asks direction able apart mappable
    · exact h.moving_unable_write asks direction able apart mappable

end

theorem Placed.launched (h : c.Placed a command) {t : Transfer} {argument : UInt32} {id : BufferId}
    (asks : t.IsCommand argument id command) (there : id < c.bus.memory.buffers.size)
    (apart : c.bounce ≠ id) :
    (c.launch command).active = none ∧
        (c.launch command).tickets = delivered c.tickets (a.replace (unmapped command)) ∨
      c.Moving (c.launch command) a t argument id command := by
  by_cases unmappable : c.Unmappable command
  · exact .inl ⟨(launch_active h.active h.current).mpr unmappable,
      launch_unmappable h.active h.current unmappable⟩
  · exact .inr (h.moving asks there apart unmappable)

end Controller

end CardHost
