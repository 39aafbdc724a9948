import CardHost.Proofs.Placement
import CardHost.Proofs.SimulatedService

namespace CardHost

open Bus

theorem Bytes.overlay_all {top base : Bytes} (h : top.length = base.length) :
    top.overlay base = top := by
  rw [overlay, ← h, List.take_length, List.drop_eq_nil_of_le (Nat.le_of_eq h.symm),
    List.append_nil]

theorem Bytes.take_overlay {top base : Bytes} (h : top.length ≤ base.length) :
    (top.overlay base).take top.length = top := by
  rw [overlay, List.take_of_length_le h]
  exact List.take_left

theorem Bytes.reverseWords_take (b : Bytes) (k : Nat) :
    Bytes.reverseWords (b.take (4 * k)) = (Bytes.reverseWords b).take (4 * k) := by
  fun_induction reverseWords b generalizing k with
  | case1 a b c d rest ih =>
    cases k with
    | zero => rfl
    | succ k => simp only [Nat.mul_succ, List.take_succ_cons, reverseWords, ih]
  | case2 rest short =>
    cases k with
    | zero => rfl
    | succ k =>
      have hlength : rest.length < 4 := by
        rcases rest with _ | ⟨a, _ | ⟨b, _ | ⟨c, _ | ⟨d, rest⟩⟩⟩⟩
        · decide
        · simp
        · simp
        · simp
        · exact (short a b c d rest rfl).elim
      have hall : rest.take (4 * (k + 1)) = rest := List.take_of_length_le (by omega)
      rw [hall, reverseWords]
      exact short

namespace Staging

theorem le_length (source : Bytes) (pad : Bool) (minimum : Nat) :
    source.length ≤ length source pad minimum := by
  unfold length
  split
  · next h => exact Nat.le_of_lt (of_decide_eq_true (Bool.and_eq_true_iff.mp h).2)
  · exact Nat.le_refl _

theorem minLength_le_length (source : Bytes) (minimum : Nat) : minimum ≤ length source true minimum := by
  unfold length
  split
  · exact Nat.le_refl _
  · next h => simpa using h

theorem length_eq (source : Bytes) (pad : Bool) (minimum : Nat) :
    length source pad minimum = minimum ∨ length source pad minimum = source.length := by
  unfold length
  split
  · exact .inl rfl
  · exact .inr rfl

theorem length_le {source : Bytes} (short : source.length ≤ capacity) (pad : Bool) :
    length source pad minLength ≤ capacity := by
  obtain h | h := length_eq source pad minLength
  · rw [h]
    decide
  · rwa [h]

theorem minLength_le_words (source : Bytes) {pad : Bool} (padded : pad = true) :
    minLength ≤ 4 * (length source pad minLength / 4) := by
  subst padded
  have hmin := minLength_le_length source minLength
  unfold minLength at hmin ⊢
  omega

theorem length_layout (source : Bytes) (pad : Bool) (minimum : Nat) (swap : Bool) :
    (layout source pad minimum swap).length = length source pad minimum := by
  have hle := le_length source pad minimum
  have hsource : (if swap then source.reverseWords else source).length = source.length := by
    split
    · exact Bytes.length_reverseWords source
    · rfl
  rw [layout, List.length_append, hsource, Bytes.zeros, List.length_replicate]
  exact Nat.add_sub_cancel' hle

theorem layout_carries (soc : Soc) (source : Bytes) (words : Nat) :
    let fetched := (layout source soc.secondRevision minLength soc.swapsBytes).take (4 * words)
    (if soc.swapsBytes then Bytes.reverseWords fetched else fetched).take source.length =
      source.take (4 * words) := by
  intro fetched
  cases h : soc.swapsBytes with
  | false =>
    simp only [fetched, layout, h, Bool.false_eq_true, if_false]
    rw [List.take_take, Nat.min_comm, ← List.take_take, List.take_left]
  | true =>
    -- The chip that reverses words is not one of those that need padding.
    have unpadded : soc.secondRevision = false := by
      rw [beq_iff_eq.mp h]
      rfl
    have hstaged : layout source soc.secondRevision minLength soc.swapsBytes = source.reverseWords := by
      simp only [layout, length, h, unpadded, if_true, Bool.false_and, Bool.false_eq_true,
        if_false, Nat.sub_self, Bytes.zeros, List.replicate_zero, List.append_nil]
    rw [if_pos rfl]
    simp only [fetched, hstaged]
    rw [← Bytes.reverseWords_take, Bytes.reverseWords_reverseWords, List.take_take, Nat.min_comm,
      ← List.take_take, List.take_length]

end Staging

namespace Transfer

theorem IsCommand.isWord {H : Type} {t : Transfer} {argument : UInt32} {buffer : BufferId}
    {command : Command BufferId} (h : t.IsCommand argument buffer command) (c : Controller H) :
    t.IsWord (c.wireWord command) := by
  obtain ⟨moved, hd⟩ := h.data
  constructor
  case number =>
    rw [c.wireWord_number, h.opcode]
    obtain ⟨toCard, multiple⟩ := t
    cases toCard <;> cases multiple <;> rfl
  case starts =>
    exact c.wireWord_starts command (by rw [hd]; exact t.transfers_flags)
      (by rw [h.opcode]; exact t.opcode_ne.1)
  case direction =>
    rw [c.wireWord_fromCard, hd]
    exact t.isRead_flags

theorem IsCommand.expects {H : Type} {t : Transfer} {argument : UInt32} {buffer : BufferId}
    {command : Command BufferId} (h : t.IsCommand argument buffer command) (c : Controller H) :
    anyBit (c.wireWord command) CommandWord.responseKind = true := by
  rw [c.wireWord_responseKind, h.flags]
  rfl

theorem IsCommand.place {t : Transfer} {argument : UInt32} {buffer : Bytes} {request : Request Bytes}
    (h : t.IsCommand argument buffer request.command) (m : Memory) :
    ∃ id, t.IsCommand argument id (m.place request).1.command ∧ (m.place request).2.get id = buffer ∧
      m.buffers.size ≤ id ∧ id < (m.place request).2.buffers.size ∧
      ∀ stop, (m.place request).1.stop = some stop → id ∉ stop.buffers := by
  obtain ⟨opcode, argument_eq, flags, moved, hd⟩ := h
  have hcommand := congrArg Request.command (m.map_place request)
  rw [← hcommand] at opcode argument_eq flags hd
  simp only [Request.map, Command.map, Option.map_eq_some_iff] at hd
  obtain ⟨data, hdata, hmapped⟩ := hd
  simp only [Payload.map, Payload.mk.injEq] at hmapped
  obtain ⟨hget, hflags, hmoved⟩ := hmapped
  have hbuffers := m.place_buffers request
  have hmem : data.buffer ∈ (m.place request).1.buffers := by
    rw [Request.buffers, Command.buffers, hdata]
    exact List.mem_append_left _ (List.mem_singleton_self _)
  have hnodup : (m.place request).1.buffers.Nodup := by
    rw [hbuffers]
    exact List.nodup_range'
  rw [hbuffers, List.mem_range'_1, Nat.add_sub_cancel' (m.place_extends request).1] at hmem
  refine ⟨data.buffer, ⟨opcode, argument_eq, flags, data.moved, ?_⟩, hget, hmem.1, hmem.2,
    fun stop hs => ?_⟩
  · rw [hdata, ← hflags]
  · rw [Request.buffers, Command.buffers, hdata, hs] at hnodup
    exact (List.nodup_cons.mp hnodup).1

theorem Asks.place {t : Transfer} {argument : UInt32} {buffer : Bytes} {request : Request Bytes}
    (h : t.Asks argument buffer request) (m : Memory) :
    ∃ id, t.Asks argument id (m.place request).1 ∧ (m.place request).2.get id = buffer ∧
      m.buffers.size ≤ id ∧ id < (m.place request).2.buffers.size := by
  obtain ⟨id, hcommand, hget, hnew, hthere, -⟩ := h.command.place m
  refine ⟨id, ⟨hcommand, fun single => ?_, fun multiple => ?_⟩, hget, hnew, hthere⟩
  · rw [Memory.place, h.single single]
  · obtain ⟨stop, hstop, hopcode, hdata⟩ := h.multiple multiple
    refine ⟨{ stop with data := none }, ?_, hopcode, rfl⟩
    simp only [Memory.place, hstop, Memory.placeCommand, hdata]

end Transfer

namespace Transfer

/-- How many bytes of its data a transfer moves. The channels count whole words, and the block length of the
card has sixteen bits. -/
def carried (t : Transfer) (soc : Soc) (buffer : Bytes) : Nat :=
  if t.toCard then
    min buffer.length (4 * (Staging.length buffer soc.secondRevision Staging.minLength / 4))
  else min (4 * (buffer.length / 4)) (buffer.length % 65536)

def needed (t : Transfer) (soc : Soc) (buffer : Bytes) : Nat :=
  if t.toCard then t.carried soc buffer else buffer.length % 65536

section

variable {t : Transfer} (soc : Soc) (buffer : Bytes)

theorem carried_to_card (toCard : t.toCard = true) : t.carried soc buffer =
    min buffer.length (4 * (Staging.length buffer soc.secondRevision Staging.minLength / 4)) := by
  rw [carried, if_pos toCard]

theorem carried_from_card (fromCard : t.toCard = false) :
    t.carried soc buffer = min (4 * (buffer.length / 4)) (buffer.length % 65536) := by
  rw [carried, fromCard, if_neg (by decide)]

theorem needed_to_card (toCard : t.toCard = true) : t.needed soc buffer = t.carried soc buffer := by
  rw [needed, if_pos toCard]

theorem needed_from_card (fromCard : t.toCard = false) :
    t.needed soc buffer = buffer.length % 65536 := by
  rw [needed, fromCard, if_neg (by decide)]

theorem carried_le : t.carried soc buffer ≤ buffer.length := by
  unfold carried
  split <;> omega

end

structure Account (t : Transfer) (s : Simulator) (argument : UInt32) (buffer : Bytes)
    (last : Command Bytes) (medium : Medium) : Prop where
  done : s.card.byteOffset argument + t.needed s.soc buffer ≤ s.card.medium.size →
    last.error = none ∧
      if t.toCard then
        last.data = some ⟨buffer, t.flags, buffer.length⟩ ∧
          medium = s.card.medium.patch (s.card.byteOffset argument) (buffer.take (t.carried s.soc buffer))
      else
        last.data = some ⟨s.inMemory
          (s.inMemory (s.card.medium.slice (s.card.byteOffset argument) (t.carried s.soc buffer)) ++
            buffer.drop (t.carried s.soc buffer)), t.flags, buffer.length⟩ ∧
          medium = s.card.medium
  failed : s.card.medium.size < s.card.byteOffset argument + t.needed s.soc buffer →
    last.error ≠ none ∧ last.data = some ⟨buffer, t.flags, 0⟩ ∧ medium = s.card.medium

theorem carried_eq_iff (t : Transfer) (soc : Soc) (buffer : Bytes) :
    t.carried soc buffer = buffer.length ↔
      if t.toCard then
        buffer.length % 4 = 0 ∨ soc.secondRevision = true ∧ buffer.length < Staging.minLength
      else buffer.length % 4 = 0 ∧ buffer.length < 65536 := by
  unfold carried
  split
  · unfold Staging.length Staging.minLength
    cases soc.secondRevision with
    | false =>
      simp only [Bool.false_and, Bool.false_eq_true, if_false, false_and, or_false]
      omega
    | true =>
      simp only [Bool.true_and, decide_eq_true_eq, true_and]
      split <;> omega
  · omega

theorem carried_words (t : Transfer) (soc : Soc) {buffer : Bytes} (words : buffer.length % 4 = 0)
    (short : if t.toCard then buffer.length ≤ Staging.capacity else buffer.length < 65536) :
    t.carried soc buffer = buffer.length := by
  rw [carried_eq_iff]
  split
  · exact .inl words
  · next toCard =>
    rw [if_neg toCard] at short
    exact ⟨words, short⟩

theorem Account.whole {t : Transfer} {s : Simulator} {argument : UInt32} {buffer : Bytes}
    {last : Command Bytes} {medium : Medium} (h : t.Account s argument buffer last medium)
    (whole : t.carried s.soc buffer = buffer.length) :
    t.Outcome s.card argument buffer last medium := by
  have hneeded : t.needed s.soc buffer = buffer.length := by
    have hiff := (t.carried_eq_iff s.soc buffer).mp whole
    unfold needed
    split
    · exact whole
    · next toCard =>
      rw [if_neg toCard] at hiff
      exact Nat.mod_eq_of_lt hiff.2
  obtain ⟨done, failed⟩ := h
  rw [whole, hneeded] at done
  rw [hneeded] at failed
  rw [List.take_length, List.drop_length, List.append_nil, s.inMemory_inMemory] at done
  exact ⟨done, failed⟩

theorem carried_staged {t : Transfer} (toCard : t.toCard = true) (s : Simulator) {source : Bytes}
    (short : source.length ≤ Staging.capacity) {staged : Bytes}
    (hstaged : Staging.layout source s.soc.secondRevision Staging.minLength s.soc.swapsBytes = staged) :
    (s.inMemory (staged.take (4 * (staged.length / 4)))).take (source.length % 65536) =
      source.take (t.carried s.soc source) := by
  have hlength : staged.length = Staging.length source s.soc.secondRevision Staging.minLength := by
    rw [← hstaged]
    exact Staging.length_layout source _ _ _
  have hblock : source.length % 65536 = source.length :=
    Nat.mod_eq_of_lt (Nat.lt_of_le_of_lt short (by decide))
  have hcarried : t.carried s.soc source = min source.length (4 * (staged.length / 4)) := by
    rw [carried_to_card _ _ toCard, hlength]
  calc (s.inMemory (staged.take (4 * (staged.length / 4)))).take (source.length % 65536)
    _ = source.take (4 * (staged.length / 4)) := by
      rw [hblock, Simulator.inMemory, ← hstaged]
      exact Staging.layout_carries s.soc source _
    _ = source.take (t.carried s.soc source) := by
      rw [hcarried, ← List.take_take, List.take_take, Nat.min_comm, ← List.take_take, List.take_length]

end Transfer

namespace CommandError

theorem ofStatus?_isSome {opcode : UInt32}
    (other : opcode ≠ Opcode.sendOpCond ∧ opcode ≠ AppOpcode.sendOpCond) (status : UInt32) :
    ∃ e, ofStatus? status opcode = some e := by
  have h : (anyBit status Status.responseCrc &&
      (opcode == Opcode.sendOpCond || opcode == AppOpcode.sendOpCond)) = false := by
    rw [beq_eq_false_iff_ne.mpr other.1, beq_eq_false_iff_ne.mpr other.2]
    exact Bool.and_false _
  rw [ofStatus?, if_neg (by rw [h]; decide)]
  split
  · exact ⟨_, rfl⟩
  · split
    · exact ⟨_, rfl⟩
    · split <;> exact ⟨_, rfl⟩

end CommandError

theorem Simulator.length_filled (s : Simulator) (medium : Medium) (offset : Nat) {buffer : Bytes}
    {count : Nat} (h : count ≤ buffer.length) :
    (s.inMemory (medium.slice offset count) ++ buffer.drop count).length = buffer.length := by
  rw [List.length_append, s.length_inMemory, Medium.length_slice, List.length_drop]
  exact Nat.add_sub_cancel' h

theorem Simulator.Ended.enabled {t : Transfer} {s s' : Simulator} {medium : Medium} {faulty : Bool}
    (h : s.Ended t s' medium faulty) (clear : s.mask = 0) (stage : Stage) :
    s'.mask ||| stage.mask = stage.mask := by
  rw [h.mask, clear]
  exact UInt32.zero_or

namespace Controller

structure Poised (c : Controller Simulator) (a : Active) (command : Command BufferId) : Prop where
  attached : c.detached = false
  active : c.active = some a
  current : a.current? = some command
  count : c.mapped = 0
  mapping : c.bus.mapping = none
  mask : c.bus.hardware.mask = 0
  healthy : c.bus.hardware.Healthy
  soc : c.bus.hardware.soc = c.board.soc
  bounce : (c.buffer c.bounce).length = Staging.capacity
  plain : c.bus.hardware.card.applicationNext = false

variable {c : Controller Simulator} {a : Active} {command : Command BufferId}

theorem Poised.launchable (h : c.Poised a command) : c.Launchable :=
  ⟨h.count, h.mapping, h.healthy.still, h.healthy.loads⟩

theorem Waits.concluded (h : c.Waits command .ready) (ha : c.active = some a)
    (hc : a.current? = some command) :
    ∃ words, Called 1 c
      (c.proceed { c.bus with hardware := { c.bus.hardware with mask := 0 } } c.mapped
        (a.replace (answered command none words))).advance := by
  have hcalled := h.called
  rw [serveStage, conclude_simulated command none ha hc] at hcalled
  exact ⟨_, hcalled⟩

theorem called_failed (stage : Stage) (attached : c.detached = false) (ha : c.active = some a)
    (hc : a.current? = some command) (mapped : c.mapped = 1)
    (mask : c.bus.hardware.mask = stage.mask)
    (faulty : anyBit c.bus.hardware.latched Status.errors = true)
    (other : command.opcode ≠ Opcode.sendOpCond ∧ command.opcode ≠ AppOpcode.sendOpCond) :
    ∃ e words, Called 1 c
      (c.proceed ⟨{ c.bus.hardware with mask := 0 }, c.bus.memory, none⟩ 0
        (a.replace (answered command (some e) words))).advance := by
  obtain ⟨e, he⟩ := CommandError.ofStatus?_isSome other c.observed
  have hcur : c.current? = some command := current?_of_active ha hc
  have hcall := called_error attached hcur mask faulty he
  have hconclude := conclude_simulated
    (c := { c with bus := { c.bus with mapping := none }, mapped := 0 }) command (some e) ha hc
  rw [unload_simulated mapped, hconclude] at hcall
  exact ⟨e, _, hcall⟩

structure Delivers (c : Controller Simulator) (t : Transfer) (argument : UInt32) (id : BufferId)
    (s : Simulator) (memory : Memory) (last : Command BufferId) : Prop where
  healthy : s.Healthy
  mask : s.mask = 0
  soc : s.soc = c.bus.hardware.soc
  alike : c.bus.memory.Alike memory
  card : Card.Transfers t c.bus.hardware.card s.card s.card.medium
  account : t.Account c.bus.hardware argument (c.buffer id) (last.map memory.get) s.card.medium

theorem Poised.launched_read (h : c.Poised a command)
    (selected : c.bus.hardware.card.state = .transfer) {t : Transfer} {argument : UInt32}
    {id : BufferId} (asks : t.IsCommand argument id command) (fromCard : t.toCard = false)
    (room : (c.buffer id).length ≤ Simulator.maxMapping) :
    ∃ s memory, c.launch command =
        c.proceed ⟨{ s with mask := Stage.receiving.mask }, memory, some ⟨id, (c.buffer id).length⟩⟩ 1
          (a.replace (restaged command)) ∧
      if c.bus.hardware.card.byteOffset argument + (c.buffer id).length % 65536 ≤
          c.bus.hardware.card.medium.size then
        c.bus.hardware.Ended t s c.bus.hardware.card.medium false ∧
          s.register Register.receiveCount = 0 ∧
          memory = c.bus.memory.set id
            (c.bus.hardware.inMemory (c.bus.hardware.card.medium.slice
              (c.bus.hardware.card.byteOffset argument)
              (t.carried c.bus.hardware.soc (c.buffer id))) ++
              (c.buffer id).drop (t.carried c.bus.hardware.soc (c.buffer id)))
      else
        c.bus.hardware.Ended t s c.bus.hardware.card.medium true ∧ memory = c.bus.memory := by
  obtain ⟨moved, hd⟩ := asks.data
  have isRead : t.flags.isRead = true := by rw [t.isRead_flags, fromCard]; rfl
  have hlaunch := launch_read_simulated h.launchable h.active h.current hd isRead room
  have hissued := Simulator.armedRead_issued h.healthy selected h.plain fromCard (asks.isWord c)
    argument room
  dsimp only at hlaunch hissued
  rw [asks.argument] at hlaunch
  rw [← Transfer.carried_from_card c.bus.hardware.soc (c.buffer id) fromCard] at hissued
  -- The simulator acts on the command only, with the mapping and the memory as they are there.
  generalize hbus : ({ c.bus with
    hardware := c.bus.hardware.armedRead (c.buffer id).length argument
    mapping := some ⟨id, (c.buffer id).length⟩ } : Bus Simulator) = bus at hlaunch
  have hhardware : bus.hardware = c.bus.hardware.armedRead (c.buffer id).length argument := by
    rw [← hbus]
  have hmapped : bus.mapped = some (c.buffer id) := by
    rw [← hbus]
    exact congrArg some List.take_length
  rw [← hhardware, ← hmapped] at hissued
  have hmapping : bus.mapping = some ⟨id, (c.buffer id).length⟩ := by rw [← hbus]
  have hmemory : bus.memory = c.bus.memory := by rw [← hbus]
  rw [writeAll_cons] at hlaunch
  split at hissued
  · next fits =>
    obtain ⟨s, hwrite, hended, hzero⟩ := hissued
    generalize hdata : c.bus.hardware.inMemory (c.bus.hardware.card.medium.slice
      (c.bus.hardware.card.byteOffset argument) (t.carried c.bus.hardware.soc (c.buffer id))) ++
        (c.buffer id).drop (t.carried c.bus.hardware.soc (c.buffer id)) = data at hwrite ⊢
    have hlength : data.length = (c.buffer id).length := by
      rw [← hdata]
      exact Simulator.length_filled _ _ _ (Transfer.carried_le _ _)
    have hfill : Bytes.overlay (data.take (c.buffer id).length) (c.bus.memory.get id) = data := by
      rw [← hlength, List.take_length]
      exact Bytes.overlay_all hlength
    have hmask : s.mask ||| (Status.errors ||| Status.endReceive) = Stage.receiving.mask :=
      hended.enabled h.mask .receiving
    refine ⟨s, c.bus.memory.set id data, ?_, ?_⟩
    · rw [hlaunch, bus.write_moved hwrite hmapping, writeAll_cons, write_enable, writeAll_nil]
      simp only [hmemory, hfill, hmask, hmapping]
    · rw [if_pos fits]
      exact ⟨hended, hzero, rfl⟩
  · next fits =>
    obtain ⟨s, hwrite, hended⟩ := hissued
    have hmask : s.mask ||| (Status.errors ||| Status.endReceive) = Stage.receiving.mask :=
      hended.enabled h.mask .receiving
    refine ⟨s, c.bus.memory, ?_, ?_⟩
    · rw [hlaunch, bus.write_unmoved hwrite, writeAll_cons, write_enable, writeAll_nil]
      simp only [hmask, hmemory, hmapping]
    · rw [if_neg fits]
      exact ⟨hended, rfl⟩

theorem called_settled (attached : c.detached = false) (hc : a.current? = some command)
    {s : Simulator} (healthy : s.Healthy) (clean : anyBit s.latched Status.errors = false)
    (ready : anyBit s.latched Status.commandReady = true) {stage : Stage}
    (last : stage = .filling ∨ stage = .settling) (ended : s.hasEnded stage) (m : Memory) :
    ∃ words, Called 2 (c.proceed ⟨s.turned stage, m, none⟩ 0 a)
      (c.proceed ⟨{ s.turned .ready with mask := 0 }, m, none⟩ 0
        (a.replace (answered command none words))).advance := by
  have hwaits : (c.proceed ⟨s.turned stage, m, none⟩ 0 a).Waits command stage := by
    refine ⟨attached, hc, healthy.turned _, rfl, clean, ?_⟩
    obtain rfl | rfl := last <;> exact ended
  have hnext := hwaits.called
  rw [serveStage_settles last rfl] at hnext
  have hready : (c.proceed ⟨s.turned .ready, m, none⟩ 0 a).Waits command .ready :=
    ⟨attached, hc, healthy.turned _, rfl, clean, ready⟩
  obtain ⟨words, hconcluded⟩ := hready.concluded rfl hc
  exact ⟨words, hnext.trans hconcluded⟩

theorem called_moved (attached : c.detached = false) (hc : a.current? = some command)
    {s : Simulator} (healthy : s.Healthy) (clean : anyBit s.latched Status.errors = false)
    (ready : anyBit s.latched Status.commandReady = true) (stage : Stage) (ended : s.hasEnded stage)
    (last : stage.next = .filling ∨ stage.next = .settling) (settled : s.hasEnded stage.next)
    {m m' : Memory} {mapping : Option Mapping} {moved : Command BufferId}
    (serves : (c.proceed ⟨{ s with mask := stage.mask }, m, mapping⟩ 1 a).serveStage command stage =
      c.proceed ⟨s.turned stage.next, m', none⟩ 0 (a.replace moved)) :
    ∃ words, Called 3 (c.proceed ⟨{ s with mask := stage.mask }, m, mapping⟩ 1 a)
      (c.proceed ⟨{ s.turned .ready with mask := 0 }, m', none⟩ 0
        (a.replace (answered moved none words))).advance := by
  have hwaits : (c.proceed ⟨{ s with mask := stage.mask }, m, mapping⟩ 1 a).Waits command stage := by
    refine ⟨attached, hc, healthy.masked _, rfl, clean, ?_⟩
    cases stage <;> exact ended
  have hmoved := hwaits.called
  rw [serves] at hmoved
  obtain ⟨words, hsettled⟩ := called_settled attached (Active.current?_replace hc moved) healthy clean
    ready last settled m'
  rw [Active.replace_replace] at hsettled
  exact ⟨words, hmoved.trans hsettled⟩

theorem serveReceived_moved (hc : a.current? = some command) {data : Payload BufferId}
    (hd : command.data = some data) (s : Simulator) (m : Memory) (mapping : Option Mapping) :
    (c.proceed ⟨{ s with mask := Stage.receiving.mask }, m, mapping⟩ 1 a).serveStage command .receiving =
      c.proceed ⟨s.turned .filling, m.restored c.board.soc data.buffer, none⟩ 0
        (a.replace { command with data := some { data with moved := (m.get data.buffer).length } }) := by
  have hserved := serveReceived_simulated
    (c := c.proceed ⟨{ s with mask := Stage.receiving.mask }, m, mapping⟩ 1 a) rfl hc hd rfl rfl
  rwa [accounted_moved _ hd] at hserved

theorem serveSent_moved (hc : a.current? = some command) {data : Payload BufferId}
    (hd : command.data = some data) (s : Simulator) (m : Memory) (mapping : Option Mapping) :
    (c.proceed ⟨{ s with mask := Stage.sending.mask }, m, mapping⟩ 1 a).serveStage command .sending =
      c.proceed ⟨s.turned .settling, m, none⟩ 0
        (a.replace { command with data := some { data with moved := (m.get data.buffer).length } }) := by
  have hserved := serveSent_simulated
    (c := c.proceed ⟨{ s with mask := Stage.sending.mask }, m, mapping⟩ 1 a) rfl hc rfl rfl
  rwa [accounted_moved _ hd] at hserved

theorem restored_get {s : Simulator} {soc : Soc} (same : s.soc = soc) {m : Memory} {id : BufferId}
    (there : id < m.buffers.size) : (m.restored soc id).get id = s.inMemory (m.get id) := by
  subst same
  unfold Memory.restored Simulator.inMemory
  split
  · rw [Memory.get_set, if_pos ⟨rfl, there⟩]
  · rfl

theorem Poised.fails (h : c.Poised a command) {t : Transfer} {argument : UInt32} {id : BufferId}
    (asks : t.IsCommand argument id command) (stage : Stage) (mapping : Option Mapping) {s : Simulator}
    {memory : Memory} (ended : c.bus.hardware.Ended t s c.bus.hardware.card.medium true)
    (alike : c.bus.memory.Alike memory) (same : memory.get id = c.buffer id)
    (beyond : ¬ c.bus.hardware.card.byteOffset argument + t.needed c.bus.hardware.soc (c.buffer id) ≤
      c.bus.hardware.card.medium.size) :
    ∃ last, Called 1
        (c.proceed ⟨{ s with mask := stage.mask }, memory, mapping⟩ 1 (a.replace (restaged command)))
        (c.proceed ⟨{ s with mask := 0 }, memory, none⟩ 0 (a.replace last)).advance ∧
      c.Delivers t argument id { s with mask := 0 } memory last := by
  obtain ⟨moved, hd⟩ := asks.data
  obtain ⟨e, answer, hcalled⟩ := called_failed
    (c := c.proceed ⟨{ s with mask := stage.mask }, memory, mapping⟩ 1 (a.replace (restaged command)))
    stage h.attached rfl (Active.current?_replace h.current (restaged command)) rfl rfl ended.errors
    (by rw [restaged, asks.opcode]; exact t.opcode_ne.2)
  rw [Active.replace_replace] at hcalled
  have hrestaged : (answered (restaged command) (some e) answer).data = some ⟨id, t.flags, 0⟩ := by
    simp [answered, restaged, hd]
  refine ⟨_, hcalled, ended.healthy.masked _, rfl, ended.soc, alike, ended.card_self,
    fun fits => absurd fits beyond, fun _ => ⟨Option.some_ne_none e, ?_, ended.card.medium_eq⟩⟩
  have hback := Command.data_map memory.get hrestaged
  rwa [same] at hback

theorem Poised.served_read (h : c.Poised a command)
    (selected : c.bus.hardware.card.state = .transfer) {t : Transfer} {argument : UInt32}
    {id : BufferId} (asks : t.IsCommand argument id command) (fromCard : t.toCard = false)
    (there : id < c.bus.memory.buffers.size)
    (room : (c.buffer id).length ≤ Simulator.maxMapping) :
    ∃ k s memory last, k ≤ 3 ∧
      Called k (c.launch command) (c.proceed ⟨s, memory, none⟩ 0 (a.replace last)).advance ∧
      c.Delivers t argument id s memory last := by
  obtain ⟨s, memory, hlaunch, hissued⟩ := h.launched_read selected asks fromCard room
  obtain ⟨moved, hd⟩ := asks.data
  have hrestaged : (restaged command).data = some ⟨id, t.flags, 0⟩ := by
    simp [restaged, hd]
  have hc := Active.current?_replace h.current (restaged command)
  rw [hlaunch]
  rw [← Transfer.needed_from_card c.bus.hardware.soc (c.buffer id) fromCard] at hissued
  split at hissued
  · next fits =>
    obtain ⟨hended, hzero, rfl⟩ := hissued
    generalize hdata : c.bus.hardware.inMemory (c.bus.hardware.card.medium.slice
      (c.bus.hardware.card.byteOffset argument) (t.carried c.bus.hardware.soc (c.buffer id))) ++
        (c.buffer id).drop (t.carried c.bus.hardware.soc (c.buffer id)) = data
    have hlength : data.length = (c.buffer id).length := by
      rw [← hdata]
      exact Simulator.length_filled _ _ _ (Transfer.carried_le _ _)
    obtain ⟨answer, hcalled⟩ := called_moved h.attached hc hended.healthy hended.errors hended.ready
      .receiving hzero (.inl rfl) hzero
      (serveReceived_moved hc hrestaged _ _ (some ⟨id, (c.buffer id).length⟩))
    rw [Active.replace_replace] at hcalled
    have halike : c.bus.memory.Alike (c.bus.memory.set id data) :=
      c.bus.memory.alike_set _ _ hlength
    have hmoved : ((c.bus.memory.set id data).get id).length = (c.buffer id).length := halike.2 id
    refine ⟨3, _, _, _, Nat.le_refl 3, hcalled, (hended.healthy.turned _).masked _, rfl, hended.soc,
      halike.trans (Memory.restored_alike _ _ _), hended.card_self, fun _ => ⟨rfl, ?_⟩,
      fun beyond => absurd fits (Nat.not_le_of_lt beyond)⟩
    rw [if_neg (by rw [fromCard]; decide)]
    refine ⟨?_, hended.card.medium_eq⟩
    have hget : (c.bus.memory.set id data).get id = data :=
      (Memory.get_set _ _ _ _).trans (if_pos ⟨rfl, there⟩)
    have hrestored : ((c.bus.memory.set id data).restored c.board.soc id).get id =
        c.bus.hardware.inMemory data := by
      rw [restored_get h.soc (halike.1 ▸ there), hget]
    rw [Command.data_map _ rfl, hmoved, hrestored, hdata]
  · next fits =>
    obtain ⟨hended, rfl⟩ := hissued
    obtain ⟨last, hfails⟩ := h.fails asks .receiving (some ⟨id, (c.buffer id).length⟩) hended (.refl _)
      rfl fits
    exact ⟨1, _, _, last, by decide, hfails⟩

theorem bounced_take (bounce : (c.buffer c.bounce).length = Staging.capacity) {source : Bytes}
    (short : source.length ≤ Staging.capacity) :
    ((c.bus.memory.set c.bounce (c.bounced source)).get c.bounce).take (c.fetched source) =
      Staging.layout source c.board.soc.secondRevision Staging.minLength c.board.soc.swapsBytes := by
  have hlength := Staging.length_layout source c.board.soc.secondRevision Staging.minLength
    c.board.soc.swapsBytes
  rw [Memory.get_set, if_pos ⟨rfl, bounce_lt bounce⟩, fetched, ← hlength]
  apply Bytes.take_overlay
  rw [hlength, bounce]
  exact Staging.length_le short _

theorem Poised.launched_write (h : c.Poised a command)
    (selected : c.bus.hardware.card.state = .transfer) {t : Transfer} {argument : UInt32}
    {id : BufferId} (asks : t.IsCommand argument id command) (toCard : t.toCard = true)
    (short : (c.buffer id).length ≤ Staging.capacity) :
    ∃ s, c.launch command =
        c.proceed ⟨{ s with mask := Stage.sending.mask },
          c.bus.memory.set c.bounce (c.bounced (c.buffer id)),
          some ⟨c.bounce, c.fetched (c.buffer id)⟩⟩ 1 (a.replace (restaged command)) ∧
      s.register Register.transmitCount = 0 ∧
      if c.bus.hardware.card.byteOffset argument + t.carried c.bus.hardware.soc (c.buffer id) ≤
          c.bus.hardware.card.medium.size then
        c.bus.hardware.Ended t s
          (c.bus.hardware.card.medium.patch (c.bus.hardware.card.byteOffset argument)
            ((c.buffer id).take (t.carried c.bus.hardware.soc (c.buffer id)))) false
      else c.bus.hardware.Ended t s c.bus.hardware.card.medium true := by
  obtain ⟨moved, hd⟩ := asks.data
  have isRead : t.flags.isRead = false := by rw [t.isRead_flags, toCard]; rfl
  have isWrite : t.flags.isWrite = true := by rw [t.isWrite_flags, toCard]
  generalize hsource : c.buffer id = source at short ⊢
  have hfetched : c.fetched source ≤ Staging.capacity := Staging.length_le short _
  have hlaunch := launch_write_simulated h.launchable h.active h.current hd isRead isWrite
    (by rw [h.bounce]; dsimp only; rw [hsource]; exact hfetched)
    (by dsimp only; rw [hsource]; exact Nat.le_trans hfetched (by decide))
  dsimp only at hlaunch
  rw [asks.argument, hsource] at hlaunch
  -- What the channel fetches is the staged data, which can be longer than the block of the card.
  generalize hstaged : Staging.layout source c.board.soc.secondRevision Staging.minLength
    c.board.soc.swapsBytes = staged
  have hlength : staged.length = c.fetched source := by
    rw [← hstaged]
    exact Staging.length_layout source _ _ _
  have enough : c.bus.hardware.soc.secondRevision = true →
      Staging.minLength ≤ 4 * (staged.length / 4) := by
    intro padded
    rw [hlength, fetched, ← h.soc]
    exact Staging.minLength_le_words source padded
  have hroom : staged.length ≤ Simulator.maxMapping := by
    rw [hlength]
    exact Nat.le_trans hfetched (by decide)
  have hcount : (source.take (t.carried c.bus.hardware.soc source)).length =
      t.carried c.bus.hardware.soc source :=
    List.length_take_of_le (Transfer.carried_le _ _)
  obtain ⟨waiting, s, hissue, hsend, hzero, hended⟩ := Simulator.armedWrite_issued h.healthy selected
    h.plain toCard (asks.isWord c) argument hroom enough
    (Transfer.carried_staged toCard c.bus.hardware short (by rw [h.soc, hstaged]))
  rw [hlength] at hissue
  rw [hcount] at hended
  generalize hbus : (⟨c.bus.hardware.armedWrite source.length (c.fetched source) argument,
    c.bus.memory.set c.bounce (c.bounced source), some ⟨c.bounce, c.fetched source⟩⟩ :
      Bus Simulator) = bus at hlaunch
  have hhardware : bus.hardware =
      c.bus.hardware.armedWrite source.length (c.fetched source) argument := by
    rw [← hbus]
  have hmapped : bus.mapped = some staged := by
    rw [← hbus, ← hstaged]
    exact congrArg some (bounced_take h.bounce short)
  have hmapping : bus.mapping = some ⟨c.bounce, c.fetched source⟩ := by rw [← hbus]
  have hmemory : bus.memory = c.bus.memory.set c.bounce (c.bounced source) := by rw [← hbus]
  have hmask : s.mask ||| (Status.errors ||| Status.transmitEmpty) = Stage.sending.mask := by
    split at hended
    · exact hended.enabled h.mask .sending
    · exact hended.enabled h.mask .sending
  rw [← hhardware, ← hmapped] at hissue
  rw [← hmapped] at hsend
  have hsend' : ({ bus with hardware := waiting } : Bus Simulator).hardware.write
      ({ bus with hardware := waiting } : Bus Simulator).mapped Register.channelControl
      Channel.transmitOn = (s, none) := hsend
  refine ⟨s, ?_, hzero, hended⟩
  rw [hlaunch, writeAll_cons, bus.write_unmoved hissue, writeAll_cons, write_unmoved _ hsend',
    writeAll_cons, write_enable, writeAll_nil]
  simp only [hmask, hmemory, hmapping]

theorem Poised.served_write (h : c.Poised a command)
    (selected : c.bus.hardware.card.state = .transfer) {t : Transfer} {argument : UInt32}
    {id : BufferId} (asks : t.IsCommand argument id command) (toCard : t.toCard = true)
    (apart : c.bounce ≠ id) (short : (c.buffer id).length ≤ Staging.capacity) :
    ∃ k s memory last, k ≤ 3 ∧
      Called k (c.launch command) (c.proceed ⟨s, memory, none⟩ 0 (a.replace last)).advance ∧
      c.Delivers t argument id s memory last := by
  obtain ⟨s, hlaunch, hzero, hissued⟩ := h.launched_write selected asks toCard short
  obtain ⟨moved, hd⟩ := asks.data
  have hrestaged : (restaged command).data = some ⟨id, t.flags, 0⟩ := by
    simp [restaged, hd]
  have hc := Active.current?_replace h.current (restaged command)
  have hneeded := Transfer.needed_to_card c.bus.hardware.soc (c.buffer id) toCard
  generalize hmemory : c.bus.memory.set c.bounce (c.bounced (c.buffer id)) = memory at hlaunch
  have halike : c.bus.memory.Alike memory := by
    rw [← hmemory]
    exact c.bus.memory.alike_set _ _ (Bytes.length_overlay _ _)
  have hget : memory.get id = c.buffer id := by
    rw [← hmemory, Memory.get_set, if_neg (fun hb => apart hb.1)]
    rfl
  rw [hlaunch]
  split at hissued
  · next fits =>
    obtain ⟨answer, hcalled⟩ := called_moved h.attached hc hissued.healthy hissued.errors hissued.ready
      .sending hzero (.inr rfl) trivial
      (serveSent_moved hc hrestaged _ _ (some ⟨c.bounce, c.fetched (c.buffer id)⟩))
    rw [Active.replace_replace] at hcalled
    refine ⟨3, _, _, _, Nat.le_refl 3, hcalled, (hissued.healthy.turned _).masked _, rfl, hissued.soc,
      halike, hissued.card_self, fun _ => ⟨rfl, ?_⟩,
      fun beyond => absurd (hneeded ▸ fits) (Nat.not_le_of_lt beyond)⟩
    rw [if_pos toCard]
    refine ⟨?_, hissued.card.medium_eq⟩
    rw [Command.data_map memory.get rfl, hget]
  · next fits =>
    obtain ⟨last, hfails⟩ := h.fails asks .sending (some ⟨c.bounce, c.fetched (c.buffer id)⟩) hissued
      halike hget (hneeded ▸ fits)
    exact ⟨1, _, _, last, by decide, hfails⟩

theorem Poised.served_stop (h : c.Poised a command)
    (transferring : c.bus.hardware.card.isTransferring)
    (opcode : command.opcode = Opcode.stopTransmission) (data : command.data = none) :
    ∃ s words, Called 1 (c.launch command)
        (c.proceed ⟨s, c.bus.memory, none⟩ 0 (a.replace (answered command none words))).advance ∧
      s.Healthy ∧ s.mask = 0 ∧ s.soc = c.bus.hardware.soc ∧
      s.card = { c.bus.hardware.card with phase := none, state := .transfer, latched := 0 } := by
  have number : c.wireWord command &&& CommandWord.number = Opcode.stopTransmission := by
    rw [c.wireWord_number, opcode]
    rfl
  have starts := c.wireWord_starts_nothing command (by rw [data]; rfl)
  have hlaunch := launch_plain_simulated (c := c) data
  generalize hbus : ({ c.bus with hardware := c.bus.hardware.armedPlain command.argument } :
    Bus Simulator) = bus at hlaunch
  have hhardware : bus.hardware = c.bus.hardware.armedPlain command.argument := by rw [← hbus]
  have hmemory : bus.memory = c.bus.memory := by rw [← hbus]
  have hmapping : bus.mapping = none := by rw [← hbus, h.mapping]
  obtain ⟨s, hissue, healthy, mask, soc, ready, clean, card⟩ := Simulator.armedPlain_issued h.healthy
    transferring h.plain command.argument number starts bus.mapped
  rw [← hhardware] at hissue
  have hmask : s.mask ||| (Status.errors ||| Status.commandReady) = Stage.ready.mask := by
    rw [mask, h.mask]
    exact UInt32.zero_or
  rw [writeAll_cons, bus.write_unmoved hissue, writeAll_cons, write_enable, writeAll_nil] at hlaunch
  simp only [hmask, hmemory, hmapping] at hlaunch
  rw [hlaunch]
  generalize hready : ({ c with bus :=
    ⟨{ s with mask := Stage.ready.mask }, c.bus.memory, none⟩ } : Controller Simulator) = c'
  have hwaits : c'.Waits command .ready := by
    rw [← hready]
    exact ⟨h.attached, current?_of_active h.active h.current, healthy.masked _, rfl,
      clean, ready⟩
  have hactive : c'.active = some a := by
    rw [← hready]
    exact h.active
  obtain ⟨words, hcalled⟩ := hwaits.concluded hactive h.current
  have hcount : c'.mapped = 0 := by
    rw [← hready]
    exact h.count
  rw [hcount] at hcalled
  subst hready
  exact ⟨{ s with mask := 0 }, words, hcalled, healthy.masked _, rfl, soc, card⟩

end Controller

end CardHost
