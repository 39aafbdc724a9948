import CardHost.Proofs.ChannelWords

namespace CardHost

theorem Bytes.overlay_range {front moved : Bytes} {place : Nat} (inside : place + moved.length ≤ front.length)
    (rest : Bytes) :
    overlay (front.take place ++ moved ++ front.drop (place + moved.length)) (front ++ rest) =
      (front ++ rest).take place ++ moved ++ (front ++ rest).drop (place + moved.length) := by
  have hlength : (front.take place ++ moved ++ front.drop (place + moved.length)).length = front.length := by
    rw [List.length_append, List.length_append, List.length_take, List.length_drop]
    omega
  have hshort : front.length ≤ (front ++ rest).length := by
    rw [List.length_append]
    exact Nat.le_add_right _ _
  rw [overlay, hlength, List.drop_left, List.take_of_length_le (hlength.trans_le hshort),
    List.take_append_of_le_length (by omega), List.drop_append_of_le_length inside, List.append_assoc _ _ rest]

namespace Simulator

variable {s s' : Simulator}

def fetched (s : Simulator) (word : UInt32) : Option Bytes :=
  if anyBit word CommandWord.fromCard && s.receiveOn then (s.card.readData s.blockLength).1.toOption else none

def incoming (s : Simulator) (offset : Nat) (value : UInt32) : Option Bytes :=
  if offset = Register.channelControl then
    if !anyBit value Channel.receiveOff && anyBit value Channel.receiveOn then s.arrived else none
  else if offset = Register.command ∧ s.enabled = true ∧ s.injected = 0 then
    match s.card.execute (value &&& CommandWord.number) (s.register Register.argument) with
    | (some _, card) =>
      if value &&& CommandWord.transfer == CommandWord.startTransfer then { s with card }.fetched value else none
    | (none, _) => none
  else none

theorem laid_congr (soc : s'.soc = s.soc)
    (pointer : s'.register Register.receivePointer = s.register Register.receivePointer)
    (count : s'.register Register.receiveCount = s.register Register.receiveCount) (data : Bytes)
    (mapped : Option Bytes) : s'.laid data mapped = s.laid data mapped := by
  simp only [laid, inMemory, soc, pointer, count]

theorem fetched_congr (card : s'.card = s.card) (on : s'.receiveOn = s.receiveOn)
    (mode : s'.register Register.mode = s.register Register.mode) (word : UInt32) :
    s'.fetched word = s.fetched word := by
  simp only [fetched, blockLength, card, on, mode]

theorem startData_moves (s : Simulator) (word : UInt32) (mapped : Option Bytes) :
    (s.startData word mapped).2 = (s.fetched word).bind (s.laid · mapped) := by
  unfold startData fetched
  cases fromCard : anyBit word CommandWord.fromCard with
  | false =>
    simp only [Bool.false_and, Bool.false_eq_true, if_false]
    split <;> rfl
  | true =>
    rw [if_pos rfl, Bool.true_and]
    rcases s.card.readData s.blockLength with ⟨_ | data, card⟩
    · cases s.receiveOn <;> rfl
    · refine (pumpReceive_moves _ mapped).trans ?_
      cases s.receiveOn with
      | false => rfl
      | true => exact laid_congr rfl rfl rfl data mapped

theorem incoming_command (s : Simulator) (word : UInt32) :
    s.incoming Register.command word =
      if s.enabled = true ∧ s.injected = 0 then
        match s.card.execute (word &&& CommandWord.number) (s.register Register.argument) with
        | (some _, card) =>
          if word &&& CommandWord.transfer == CommandWord.startTransfer then { s with card }.fetched word else none
        | (none, _) => none
      else none := by
  rw [incoming, if_neg (by decide)]
  simp only [true_and]

theorem incoming_other {offset : Nat} (command : offset ≠ Register.command)
    (channels : offset ≠ Register.channelControl) (s : Simulator) (value : UInt32) :
    s.incoming offset value = none := by
  rw [incoming, if_neg channels, if_neg fun h => command h.1]

theorem issue_moves (s : Simulator) (word : UInt32) (mapped : Option Bytes) :
    (s.issue word mapped).2 = (s.incoming Register.command word).bind (s.laid · mapped) := by
  obtain ⟨goesOn, s', responds⟩ := s.responds word
  rw [responds.issue, incoming_command]
  cases responds with
  | disabled enabled =>
    have off : ¬ (s.enabled = true ∧ s.injected = 0) := by
      rw [enabled]
      exact fun h => Bool.false_ne_true h.1
    rw [if_neg off]
    rfl
  | fault enabled injected =>
    have faulty : ¬ (s.enabled = true ∧ s.injected = 0) := fun h => injected h.2
    rw [if_neg faulty]
    rfl
  | silent card enabled injected executes =>
    have goes : s.enabled = true ∧ s.injected = 0 := ⟨enabled, injected⟩
    rw [if_pos goes, executes]
    rfl
  | answers reply card enabled injected executes =>
    have goes : s.enabled = true ∧ s.injected = 0 := ⟨enabled, injected⟩
    obtain ⟨latched, registers, haccept, hregisters⟩ := ({ s.cleared with card } : Simulator).accept_frame reply
      (anyBit word CommandWord.responseKind)
    rw [if_pos goes, executes, haccept]
    dsimp only
    cases word &&& CommandWord.transfer == CommandWord.startTransfer with
    | false => rfl
    | true =>
      rw [if_pos rfl, if_pos rfl, startData_moves]
      -- The answer is put into registers of its own.
      have hmode := hregisters Register.mode (.inl (by decide))
      have hpointer := hregisters Register.receivePointer (.inr (by decide))
      have hcount := hregisters Register.receiveCount (.inr (by decide))
      have hfetched : (Simulator.latch { s.cleared with card, latched, registers } Status.commandReady).fetched word =
          ({ s with card } : Simulator).fetched word := by
        refine fetched_congr ?_ ?_ ?_ word
        · rfl
        · rfl
        · exact hmode
      have hlaid (data : Bytes) : (Simulator.latch { s.cleared with card, latched, registers }
          Status.commandReady).laid data mapped = s.laid data mapped := by
        refine laid_congr ?_ ?_ ?_ data mapped
        · rfl
        · exact hpointer
        · exact hcount
      simp only [hlaid]
      rw [hfetched]

theorem switchReceive_moves (s : Simulator) (value : UInt32) (mapped : Option Bytes) :
    (s.switchReceive value mapped).2 = (s.incoming Register.channelControl value).bind (s.laid · mapped) := by
  rw [incoming, if_pos rfl]
  unfold switchReceive
  cases anyBit value Channel.receiveOff with
  | true => rfl
  | false =>
    cases anyBit value Channel.receiveOn with
    | false => rfl
    | true =>
      refine (pumpReceive_moves _ mapped).trans ?_
      rw [if_pos rfl]
      rfl

theorem register_setCommand (s : Simulator) (word : UInt32) {offset : Nat} (other : offset ≠ Register.command) :
    (s.setRegister Register.command word).register offset = s.register offset :=
  (register_setRegister ..).trans (if_neg other)

theorem incoming_setCommand (s : Simulator) (word : UInt32) :
    (s.setRegister Register.command word).incoming Register.command word =
      s.incoming Register.command word := by
  have hfetched (card : Card) : ({ s.setRegister Register.command word with card } : Simulator).fetched word =
      ({ s with card } : Simulator).fetched word := by
    refine fetched_congr ?_ ?_ ?_ word
    · rfl
    · rfl
    · exact s.register_setCommand word (by decide)
  rw [incoming_command, incoming_command, register_setCommand _ _ (by decide)]
  simp only [hfetched]
  rfl

theorem laid_setCommand (s : Simulator) (word : UInt32) (data : Bytes) (mapped : Option Bytes) :
    (s.setRegister Register.command word).laid data mapped = s.laid data mapped := by
  refine laid_congr ?_ ?_ ?_ data mapped
  · rfl
  · exact s.register_setCommand word (by decide)
  · exact s.register_setCommand word (by decide)

theorem write_moves (s : Simulator) (mapped : Option Bytes) (offset : Nat) (value : UInt32) :
    (s.write mapped offset value).2 = (s.incoming offset value).bind (s.laid · mapped) := by
  have written := s.written mapped offset value
  generalize s.write mapped offset value = after at written ⊢
  cases written with
  | issues =>
    refine ((s.setRegister Register.command value).issue_moves value mapped).trans ?_
    simp only [incoming_setCommand, laid_setCommand]
  | switches => exact s.switchReceive_moves value mapped
  | stores _ other | ignores _ other =>
    rw [incoming_other (fun h => other (by simp [h])) fun h => other (by simp [h])]
    rfl
  | _ => rfl

theorem card_load (s : Simulator) (loaded : Bool) (length : Nat) : (s.load loaded length).2.card = s.card := by
  unfold load
  repeat' split
  all_goals rfl

theorem length_le_of_load {loaded : Bool} {length : Nat} {address : UInt32}
    (loads : (s.load loaded length).1 = .ok address) : length ≤ maxMapping := by
  unfold load at loads
  split at loads
  · cases loads
  split at loads
  · cases loads
  · next fits => exact Nat.le_of_not_lt fits

end Simulator

inductive Traffic where
  | read (offset : Nat)
  | write (offset : Nat) (value : UInt32)
  | offer (bytes : Bytes)
  | load (buffer : BufferId) (length : Nat) (direction : Direction)
  | sync (point : SyncPoint)
  | unload
  | command (index argument : UInt32)
  | inject (bits : UInt32)
  | raise (bits : UInt32)
  | failLoad
  deriving DecidableEq

namespace Bus

def after (bus : Bus Simulator) : Traffic → Bus Simulator
  | .read offset => (bus.read offset).2
  | .write offset value => bus.write offset value
  | .offer bytes => { bus with memory := (bus.memory.add bytes).2 }
  | .load buffer length direction => (bus.load buffer (min length (bus.memory.get buffer).length) direction).2
  | .sync point => bus.sync point
  | .unload => bus.unload
  | .command index argument =>
    { bus with hardware.card := (bus.hardware.card.execute index argument).2 }
  | .inject bits => { bus with hardware.injected := bits }
  | .raise bits => { bus with hardware := bus.hardware.latch bits }
  | .failLoad => { bus with hardware.failNextLoad := true }

def after? (bus : Bus Simulator) : Traffic → Option (Bus Simulator)
  | .read offset => do
    let _ ← bus.hardware.read? offset
    return bus
  | .write offset value => do
    let (hardware, moved) ← bus.hardware.write? bus.mapped offset value
    let bus := { bus with hardware }
    return match moved.bind bus.fill with
      | some (_, bus) => bus
      | none => bus
  | .command index argument => do
    let (_, card) ← bus.hardware.card.execute? index argument
    return { bus with hardware.card := card }
  | step => some (bus.after step)

def afterAll (bus : Bus Simulator) (traffic : List Traffic) : Bus Simulator := traffic.foldl after bus

def afterAll? (bus : Bus Simulator) (traffic : List Traffic) : Option (Bus Simulator) := traffic.foldlM after? bus

structure Bounded (bus : Bus Simulator) : Prop where
  card : bus.hardware.card.Bounded
  mapping : ∀ m, bus.mapping = some m → m.length ≤ Simulator.maxMapping

variable {bus : Bus Simulator}

theorem Bounded.fits (h : bus.Bounded) : Simulator.Fits bus.mapped := by
  intro bytes mapped
  obtain ⟨m, at_mapping, rfl⟩ := Option.map_eq_some_iff.mp mapped
  rw [List.length_take]
  exact Nat.le_trans (Nat.min_le_left _ _) (h.mapping m at_mapping)

theorem after?_eq (h : bus.Bounded) (step : Traffic) : bus.after? step = some (bus.after step) := by
  cases step with
  | read offset =>
    rw [after?, Simulator.read?_eq]
    rfl
  | write offset value =>
    rw [after?, Simulator.write?_eq _ h.card h.fits]
    change _ = some (bus.write offset value)
    unfold Bus.write
    dsimp only [Hardware.write]
    rcases bus.hardware.write bus.mapped offset value with ⟨s, moved⟩
    dsimp only [Option.bind_eq_bind, Option.bind_some]
    cases moved.bind (fill { bus with hardware := s }) <;> rfl
  | command index argument =>
    rw [after?, Card.execute?_eq]
    rfl
  | offer | load | sync | unload | inject | raise | failLoad => rfl

theorem Bounded.load (h : bus.Bounded) {buffer : BufferId} {length : Nat}
    (inside : length ≤ (bus.memory.get buffer).length) (direction : Direction) :
    (bus.load buffer length direction).2.Bounded := by
  have hlength : ((bus.memory.get buffer).take length).length = length := List.length_take_of_le inside
  unfold Bus.load
  simp only [Hardware.load, hlength]
  have hcard := bus.hardware.card_load bus.mapping.isSome length
  rcases loads : bus.hardware.load bus.mapping.isSome length with ⟨e | address, hardware⟩
  · rw [loads] at hcard
    exact ⟨hcard.symm ▸ h.card, h.mapping⟩
  · rw [loads] at hcard
    refine ⟨hcard.symm ▸ h.card, ?_⟩
    rintro _ ⟨⟩
    exact Simulator.length_le_of_load (congrArg Prod.fst loads)

theorem Bounded.after (h : bus.Bounded) (step : Traffic) : (bus.after step).Bounded := by
  cases step with
  | write offset value =>
    obtain ⟨-, hmapping, hhardware⟩ := bus.write_frame offset value
    refine ⟨?_, ?_⟩
    · change (bus.write offset value).hardware.card.Bounded
      rw [hhardware]
      exact h.card.reaches (bus.hardware.reaches_write bus.mapped offset value)
    · change ∀ m, (bus.write offset value).mapping = some m → _
      rw [hmapping]
      exact h.mapping
  | load buffer length direction => exact h.load (Nat.min_le_right _ _) direction
  | command index argument => exact ⟨h.card.execute index argument, h.mapping⟩
  | unload => exact ⟨h.card, nofun⟩
  | read | offer | sync | inject | raise | failLoad => exact ⟨h.card, h.mapping⟩

theorem afterAll?_eq (h : bus.Bounded) (traffic : List Traffic) :
    bus.afterAll? traffic = some (bus.afterAll traffic) := by
  -- The bounds are all that a step needs, and it keeps them.
  induction traffic generalizing bus with
  | nil => rfl
  | cons step rest ih =>
    rw [afterAll?, List.foldlM_cons, after?_eq h, Option.bind_eq_bind, Option.bind_some]
    exact ih (h.after step)

/-- The channel writes into a buffer that is mapped: data that the card gives up, as many words of it as are counted,
lies in the buffer from the pointer on, all of it in the mapped part. -/
inductive Receives (bus : Bus Simulator) (id : BufferId) : Traffic → Bytes → Prop
  | write {offset : Nat} {value : UInt32} {length place : Nat} {data moved : Bytes}
    (mapped : bus.mapping = some ⟨id, length⟩)
    (comes : bus.hardware.incoming offset value = some data)
    (counted : moved = bus.hardware.inMemory
      (data.take ((bus.hardware.register Register.receiveCount).toNat * 4)))
    (pointer : (bus.hardware.register Register.receivePointer).toNat = Simulator.busBase.toNat + place)
    (inside : place + moved.length ≤ min length (bus.memory.get id).length) :
    Receives bus id (.write offset value)
      ((bus.memory.get id).take place ++ moved ++ (bus.memory.get id).drop (place + moved.length))

theorem Receives.mapped {id : BufferId} {step : Traffic} {bytes : Bytes} (h : bus.Receives id step bytes) :
    ∃ length, bus.mapping = some ⟨id, length⟩ := by
  cases h with
  | write mapped => exact ⟨_, mapped⟩

structure Spares (bus : Bus Simulator) (step : Traffic) : Prop where
  kept : bus.memory.buffers.size ≤ (bus.after step).memory.buffers.size
  contents : ∀ id < bus.memory.buffers.size,
    (bus.after step).memory.get id = bus.memory.get id ∨ bus.Receives id step ((bus.after step).memory.get id)

theorem write_memory (bus : Bus Simulator) (offset : Nat) (value : UInt32) :
    (bus.write offset value).memory =
      match (bus.hardware.incoming offset value).bind (bus.hardware.laid · bus.mapped), bus.mapping with
      | some moved, some m =>
        bus.memory.set m.buffer (Bytes.overlay (moved.take m.length) (bus.memory.get m.buffer))
      | _, _ => bus.memory := by
  rw [← Simulator.write_moves]
  unfold write fill
  dsimp only [Hardware.write]
  cases (bus.hardware.write bus.mapped offset value).2 with
  | none => rfl
  | some moved => cases bus.mapping <;> rfl

theorem receives_of_laid {bus : Bus Simulator} {m : Mapping} (at_mapping : bus.mapping = some m) {offset : Nat}
    {value : UInt32} {data moved : Bytes} (comes : bus.hardware.incoming offset value = some data)
    (lies : bus.hardware.laid data bus.mapped = some moved) :
    bus.Receives m.buffer (.write offset value)
      (Bytes.overlay (moved.take m.length) (bus.memory.get m.buffer)) := by
  have hmapped : bus.mapped = some ((bus.memory.get m.buffer).take m.length) := by
    rw [mapped, at_mapping]
    rfl
  rw [hmapped] at lies
  obtain ⟨front, hfront, hlength⟩ := Simulator.length_laid lies
  obtain ⟨place, found, hmoved⟩ := Option.map_eq_some_iff.mp lies
  obtain ⟨front', hfront', pointer, inside⟩ := Simulator.locate?_eq_some found
  obtain rfl := Option.some.inj hfront
  obtain rfl := Option.some.inj hfront'
  have hsize : (bus.hardware.inMemory (data.take ((bus.hardware.register Register.receiveCount).toNat * 4))).length =
      min ((bus.hardware.register Register.receiveCount).toNat * 4) data.length := by
    rw [Simulator.length_inMemory, List.length_take]
  rw [Option.getD_some, ← List.take_eq_take_min, ← hsize] at hmoved
  rw [← hsize] at inside
  -- The rest of the buffer, behind the mapped bytes, takes no part.
  obtain ⟨rest, hrest⟩ := List.take_prefix m.length (bus.memory.get m.buffer)
  have hwhole := Bytes.overlay_range inside rest
  rw [hmoved, hrest] at hwhole
  have hshort : moved.length ≤ m.length := hlength.trans_le (List.length_take_le _ _)
  rw [List.take_of_length_le hshort, hwhole]
  rw [List.length_take] at inside
  exact .write at_mapping comes rfl pointer inside

theorem spares (bus : Bus Simulator) (step : Traffic) : bus.Spares step := by
  have same {bus' : Bus Simulator} (h : bus.after step = bus') (memory : bus'.memory = bus.memory) :
      bus.Spares step := by
    subst h
    exact ⟨by rw [memory], fun id _ => .inl (by rw [memory])⟩
  cases step with
  | write offset value =>
    have hmemory := bus.write_memory offset value
    split at hmemory
    · next moved m moves at_mapping =>
      obtain ⟨data, comes, lies⟩ := Option.bind_eq_some_iff.mp moves
      have hget (id : BufferId) : ((bus.after (.write offset value)).memory.get id) =
          if m.buffer = id ∧ m.buffer < bus.memory.buffers.size then
            Bytes.overlay (moved.take m.length) (bus.memory.get m.buffer)
          else bus.memory.get id := (congrArg (·.get id) hmemory).trans (Memory.get_set ..)
      refine ⟨(bus.write_frame offset value).1.1.ge, fun id there => ?_⟩
      rw [hget]
      split
      · next this =>
        obtain ⟨rfl, -⟩ := this
        exact .inr (receives_of_laid at_mapping comes lies)
      · exact .inl rfl
    · exact same rfl hmemory
  | offer bytes =>
    refine ⟨?_, fun id there => .inl ?_⟩
    · exact (Array.size_push ..).ge.trans' (Nat.le_succ _)
    · exact (bus.memory.get_add bytes id).trans (if_neg (Nat.ne_of_lt there))
  | load buffer length direction => exact same rfl (load_memory _ _ _ _)
  | read | sync | unload | command | inject | raise | failLoad => exact same rfl rfl

theorem mapping_after (bus : Bus Simulator) (step : Traffic) :
    (bus.after step).mapping = bus.mapping ∨ (bus.after step).mapping = none ∨
      ∃ buffer asked direction length, step = .load buffer asked direction ∧
        (bus.after step).mapping = some ⟨buffer, length⟩ := by
  cases step with
  | write offset value => exact .inl (bus.write_frame offset value).2.1
  | load buffer asked direction =>
    have hmapping := bus.load_mapping buffer (min asked (bus.memory.get buffer).length) direction
    split at hmapping
    · exact .inr (.inr ⟨buffer, asked, direction, _, rfl, hmapping⟩)
    · exact .inl hmapping
  | unload => exact .inr (.inl rfl)
  | read | offer | sync | command | inject | raise | failLoad => exact .inl rfl

theorem get_afterAll {id : BufferId} {traffic : List Traffic}
    (never : ∀ length direction, Traffic.load id length direction ∉ traffic) (there : id < bus.memory.buffers.size)
    (apart : ∀ m, bus.mapping = some m → m.buffer ≠ id) :
    (bus.afterAll traffic).memory.get id = bus.memory.get id := by
  induction traffic generalizing bus with
  | nil => rfl
  | cons step rest ih =>
    have hspares := bus.spares step
    have hcontent : (bus.after step).memory.get id = bus.memory.get id := by
      refine (hspares.contents id there).resolve_right fun receives => ?_
      obtain ⟨length, mapped⟩ := receives.mapped
      exact apart _ mapped rfl
    have hapart (m : Mapping) (at_mapping : (bus.after step).mapping = some m) : m.buffer ≠ id := by
      rcases bus.mapping_after step with same | unmapped | ⟨buffer, asked, direction, length, rfl, loaded⟩
      · exact apart m (same.symm.trans at_mapping)
      · cases unmapped.symm.trans at_mapping
      · cases loaded.symm.trans at_mapping
        rintro rfl
        exact never asked direction List.mem_cons_self
    have hnever (length : Nat) (direction : Direction) : Traffic.load id length direction ∉ rest :=
      fun among => never length direction (List.mem_cons_of_mem _ among)
    exact (ih hnever (Nat.lt_of_lt_of_le there hspares.kept) hapart).trans hcontent

end Bus

/-- Whatever comes to a simulated controller in whatever order, with a card of less than 2^63 bytes that was used in any
way: no place outside the register file is asked for and nothing that is worked out leaves its word. A buffer changes
only while it is mapped, by data of the card that the receive channel writes inside the mapped part; one that is never
mapped keeps its content. -/
theorem raw_traffic_survived (soc : Soc) {medium : Medium} (small : medium.size < 2 ^ 63) (calls : List Card.Call)
    (memory : Memory) (traffic : List Traffic) :
    let start : Bus Simulator := { hardware := { soc, card := .used medium calls }, memory }
    start.afterAll? traffic = some (start.afterAll traffic) ∧
      (∀ earlier step later, traffic = earlier ++ step :: later → (start.afterAll earlier).Spares step) ∧
      ∀ id < memory.buffers.size, (∀ length direction, Traffic.load id length direction ∉ traffic) →
        (start.afterAll traffic).memory.get id = memory.get id := by
  intro start
  have hbounded : start.Bounded := ⟨Card.bounded_used small calls, nofun⟩
  refine ⟨Bus.afterAll?_eq hbounded traffic, fun earlier step _ _ => (start.afterAll earlier).spares step, ?_⟩
  exact fun id there never => Bus.get_afterAll never there nofun

theorem configuration_read_into_place :
    let identified : List Card.Call := [.execute Opcode.application 0, .execute AppOpcode.sendOpCond 0x40ff8000,
      .execute Opcode.application 0, .execute AppOpcode.sendOpCond 0x40ff8000, .execute Opcode.allSendCid 0,
      .execute Opcode.sendRelativeAddress 0, .execute Opcode.selectCard 0x12340000]
    let start : Bus Simulator :=
      { hardware := { soc := .rm9200, card := .used (.blank 1024) identified }
        memory := ⟨#[[1, 2, 3, 4], [5, 6, 7, 8, 9, 10]]⟩ }
    let word := AppOpcode.sendConfiguration ||| CommandWord.startTransfer ||| CommandWord.fromCard
    let fetch (pointer : UInt32) : List Traffic :=
      [.command Opcode.application 0, .write Register.receivePointer pointer, .write Register.receiveCount 0xffffffff,
        .write Register.command word]
    let traffic : List Traffic :=
      [.write Register.control Control.on, .write Register.mode 0x40000, .load 1 6 .fromCard,
        .write Register.channelControl Channel.receiveOn] ++
        fetch 0x20000002 ++ fetch 0x20000004 ++ fetch 0xffffffff ++ [.unload, .read 0xfffffffc]
    (start.afterAll? traffic).map (·.memory) = some ⟨#[[1, 2, 3, 4], [5, 6, 0x00, 0x80, 0x35, 0x02]]⟩ ∧
      (start.afterAll (traffic.take 7)).Spares (.write Register.command word) ∧
      (start.afterAll traffic).memory.get 0 = start.memory.get 0 := by
  intro identified start word fetch traffic
  obtain ⟨hwords, hspares, hkept⟩ := raw_traffic_survived .rm9200
    (show (Medium.blank 1024).size < 2 ^ 63 by decide) identified start.memory traffic
  refine ⟨?_, hspares (traffic.take 7) _ (traffic.drop 8) rfl, hkept 0 (by decide) ?_⟩
  · rw [hwords]
    decide +kernel
  · intro length direction
    simp [traffic, fetch]

end CardHost
