import CardHost.Proofs.Launches
import CardHost.Proofs.Renumbering

namespace CardHost

def isInert (w : Nat × UInt32) : Bool :=
  if w.1 = Register.command then w.2 &&& CommandWord.transfer != CommandWord.startTransfer
  else if w.1 = Register.channelControl then
    !anyBit w.2 Channel.receiveOn && !anyBit w.2 Channel.transmitOn
  else w.1 != Register.mode

theorem Bytes.take_overlay_congr (top : Bytes) {base base' : Bytes} {n : Nat}
    (length : base'.length = base.length) (same : base'.take n = base.take n) :
    (overlay top base').take n = (overlay top base).take n := by
  unfold overlay
  rw [length, List.take_append, List.take_append]
  congr 1
  by_cases inside : top.length ≤ base.length
  · rw [List.length_take, Nat.min_comm, Nat.min_eq_left inside, ← List.drop_take, ← List.drop_take, same]
  · have beyond : base.length ≤ top.length := Nat.le_of_not_le inside
    rw [List.drop_eq_nil_of_le beyond, List.drop_eq_nil_of_le (length ▸ beyond)]

section

variable {H : Type} [Hardware H]

def remode (h : H) (mapped : Option Bytes) (f : UInt32 → UInt32) : H × Option Bytes :=
  Hardware.write (Hardware.read h Register.mode).2 mapped Register.mode (f (Hardware.read h Register.mode).1)

/-- Which states of hardware a controller cannot tell apart: while no data moves, whatever the setup of the next
transfer sets anyhow, and while a transfer is set up and made. -/
structure Likeness (H : Type) [Hardware H] [InterruptLine H] where
  rests : H → H → Prop
  poised : H → H → Prop
  rests_of_poised : ∀ {h h' : H}, poised h h' → rests h h'
  quiet : ∀ (h : H) (mapped : Option Bytes) (w : Nat × UInt32), isInert w = true ∨ w.1 = Register.mode →
    (Hardware.write h mapped w.1 w.2).2 = none
  asserted : ∀ {h h' : H}, rests h h' → InterruptLine.asserted h' = InterruptLine.asserted h
  read : ∀ {h h' : H}, rests h h' → ∀ offset, offset ≠ Register.mode → offset ≠ Register.channelStatus →
    (Hardware.read h' offset).1 = (Hardware.read h offset).1 ∧
      rests (Hardware.read h offset).2 (Hardware.read h' offset).2
  write : ∀ {h h' : H}, rests h h' → ∀ (mapped mapped' : Option Bytes) (w : Nat × UInt32),
    isInert w = true → rests (Hardware.write h mapped w.1 w.2).1 (Hardware.write h' mapped' w.1 w.2).1
  divide : ∀ {h h' : H}, rests h h' → ∀ (mapped mapped' : Option Bytes) (divider : UInt32),
    rests (remode h mapped fun mode => (mode &&& ~~~Mode.divider) ||| divider).1
      (remode h' mapped' fun mode => (mode &&& ~~~Mode.divider) ||| divider).1
  sync : ∀ {h h' : H}, rests h h' → ∀ point, rests (Hardware.sync h point) (Hardware.sync h' point)
  unload : ∀ {h h' : H}, rests h h' → rests (Hardware.unload h) (Hardware.unload h')
  prepare : ∀ {h h' : H}, rests h h' → ∀ (mapped mapped' : Option Bytes) (length : Nat),
    poised
      (Hardware.write (remode h mapped (Controller.blockMode · length)).1 mapped
        Register.channelControl Channel.stop).1
      (Hardware.write (remode h' mapped' (Controller.blockMode · length)).1 mapped'
        Register.channelControl Channel.stop).1
  load : ∀ {h h' : H}, poised h h' → ∀ (held : Bool) (bytes : Bytes) (direction : Direction),
    (Hardware.load h' held bytes direction).1 = (Hardware.load h held bytes direction).1 ∧
      poised (Hardware.load h held bytes direction).2 (Hardware.load h' held bytes direction).2
  handOver : ∀ {h h' : H}, poised h h' → ∀ point,
    poised (Hardware.sync h point) (Hardware.sync h' point)
  drive : ∀ {h h' : H}, poised h h' → ∀ (mapped : Option Bytes) (w : Nat × UInt32),
    (Hardware.write h' mapped w.1 w.2).2 = (Hardware.write h mapped w.1 w.2).2 ∧
      poised (Hardware.write h mapped w.1 w.2).1 (Hardware.write h' mapped w.1 w.2).1

end

namespace Bus

variable {H : Type} {N : Renumbering} {alike : H → H → Prop} {b b' : Bus H}

structure Doubles (N : Renumbering) (alike : H → H → Prop) (b b' : Bus H) : Prop where
  hardware : alike b.hardware b'.hardware
  held : b'.mapping.isSome = b.mapping.isSome
  memory : b.memory.Doubles N b'.memory

structure Aimed (N : Renumbering) (alike : H → H → Prop) (b b' : Bus H) : Prop where
  hardware : alike b.hardware b'.hardware
  mapping : b'.mapping = b.mapping.map fun m => { m with buffer := N.buffer m.buffer }
  mapped : b'.mapped = b.mapped
  memory : b.memory.Doubles N b'.memory

theorem Doubles.of_alike {alike' : H → H → Prop} (h : Doubles N alike b b')
    (weaker : alike b.hardware b'.hardware → alike' b.hardware b'.hardware) : Doubles N alike' b b' :=
  ⟨weaker h.hardware, h.held, h.memory⟩

theorem Aimed.doubles {alike' : H → H → Prop} (h : Aimed N alike b b')
    (weaker : alike b.hardware b'.hardware → alike' b.hardware b'.hardware) :
    Doubles N alike' b b' := by
  refine ⟨weaker h.hardware, ?_, h.memory⟩
  rw [h.mapping, Option.isSome_map]

theorem Aimed.fill (h : Aimed N alike b b') (bytes : Bytes) :
    Aimed N alike ((b.fill bytes).elim b (·.2)) ((b'.fill bytes).elim b' (·.2)) := by
  cases hm : b.mapping with
  | none =>
    have hm' : b'.mapping = none := by rw [h.mapping, hm, Option.map_none]
    simp only [Bus.fill, hm, hm', Option.map_none, Option.elim_none]
    exact h
  | some m =>
    have hm' : b'.mapping = some { m with buffer := N.buffer m.buffer } := by
      rw [h.mapping, hm, Option.map_some]
    have length := h.memory.length_get m.buffer
    have prefixes : (b'.memory.get (N.buffer m.buffer)).take m.length =
        (b.memory.get m.buffer).take m.length := by
      have hmapped := h.mapped
      rw [Bus.mapped, Bus.mapped, hm, hm'] at hmapped
      exact Option.some.inj hmapped
    simp only [Bus.fill, hm, hm', Option.map_some, Option.elim_some]
    refine ⟨h.hardware, rfl, ?_, h.memory.set _ (fun other => ?_) ?_⟩
    · simp only [Bus.mapped, Option.map_some, Memory.get_set, true_and, h.memory.lt_size]
      split
      · exact congrArg some (Bytes.take_overlay_congr _ length prefixes)
      · exact congrArg some prefixes
    · rw [h.memory.contents _ other]
    · rw [Bytes.length_overlay, Bytes.length_overlay, length]

theorem Doubles.set (h : Doubles N alike b b') (id : BufferId) {bytes bytes' : Bytes}
    (same : id ≠ N.bounce → bytes' = bytes) (length : bytes'.length = bytes.length) :
    Doubles N alike { b with memory := b.memory.set id bytes }
      { b' with memory := b'.memory.set (N.buffer id) bytes' } :=
  ⟨h.hardware, h.held, h.memory.set id same length⟩

variable [Hardware H]

theorem write_eq (b : Bus H) (offset : Nat) (value : UInt32) :
    b.write offset value =
      (Hardware.write b.hardware b.mapped offset value).2.elim
        { b with hardware := (Hardware.write b.hardware b.mapped offset value).1 } fun bytes =>
          (({ b with hardware := (Hardware.write b.hardware b.mapped offset value).1 } : Bus H).fill
            bytes).elim { b with hardware := (Hardware.write b.hardware b.mapped offset value).1 } (·.2) := by
  simp only [write]
  generalize Hardware.write b.hardware b.mapped offset value = written
  obtain ⟨s, _ | bytes⟩ := written
  · rfl
  · dsimp only [Option.bind_some, Option.elim_some]
    cases ({ b with hardware := s } : Bus H).fill bytes <;> rfl

theorem write_quiet {offset : Nat} {value : UInt32}
    (quiet : (Hardware.write b.hardware b.mapped offset value).2 = none) :
    b.write offset value =
      { b with hardware := (Hardware.write b.hardware b.mapped offset value).1 } := by
  simp only [write, quiet]
  rfl

def prepare (b : Bus H) (length : Nat) : Bus H :=
  ((b.read Register.mode).2.write Register.mode
    (Controller.blockMode (b.read Register.mode).1 length)).write Register.channelControl Channel.stop

variable [InterruptLine H] (L : Likeness H)

namespace Doubles

theorem write (h : Doubles N L.rests b b') {w : Nat × UInt32} (inert : isInert w = true) :
    Doubles N L.rests (b.write w.1 w.2) (b'.write w.1 w.2) := by
  rw [write_quiet (L.quiet _ _ w (.inl inert)), write_quiet (L.quiet _ _ w (.inl inert))]
  exact ⟨L.write h.hardware _ _ w inert, h.held, h.memory⟩

theorem writeAll (h : Doubles N L.rests b b') {l : List (Nat × UInt32)}
    (inert : l.all isInert = true) : Doubles N L.rests (b.writeAll l) (b'.writeAll l) := by
  induction l generalizing b b' with
  | nil => exact h
  | cons w rest ih =>
    obtain ⟨first, others⟩ := Bool.and_eq_true_iff.mp inert
    exact ih (h.write L first) others

include L in
theorem remode (h : Doubles N alike b b') {alike' : H → H → Prop} (f : UInt32 → UInt32)
    (hardware : alike' (CardHost.remode b.hardware b.mapped f).1
      (CardHost.remode b'.hardware b'.mapped f).1) :
    Doubles N alike' ((b.read Register.mode).2.write Register.mode (f (b.read Register.mode).1))
      ((b'.read Register.mode).2.write Register.mode (f (b'.read Register.mode).1)) := by
  have quiet (b : Bus H) := L.quiet (b.read Register.mode).2.hardware (b.read Register.mode).2.mapped
    (Register.mode, f (b.read Register.mode).1) (.inr rfl)
  rw [write_quiet (quiet b), write_quiet (quiet b')]
  exact ⟨hardware, h.held, h.memory⟩

theorem prepare (h : Doubles N L.rests b b') (length : Nat) :
    Doubles N L.poised (b.prepare length) (b'.prepare length) := by
  have quiet (b : Bus H) := L.quiet (b.read Register.mode).2.hardware (b.read Register.mode).2.mapped
    (Register.mode, Controller.blockMode (b.read Register.mode).1 length) (.inr rfl)
  have stopped (h : H) (mapped : Option Bytes) :=
    L.quiet h mapped (Register.channelControl, Channel.stop) (.inl rfl)
  simp only [Bus.prepare]
  rw [write_quiet (quiet b), write_quiet (quiet b'), write_quiet (stopped _ _), write_quiet (stopped _ _)]
  exact ⟨L.prepare h.hardware b.mapped b'.mapped length, h.held, h.memory⟩

end Doubles

theorem Doubles.load (h : Doubles N L.poised b b') {buffer : BufferId} {length : Nat}
    (same : (b'.memory.get (N.buffer buffer)).take length = (b.memory.get buffer).take length)
    (direction : Direction) :
    (b'.load (N.buffer buffer) length direction).1 = (b.load buffer length direction).1 ∧
      Doubles N L.poised (b.load buffer length direction).2
        (b'.load (N.buffer buffer) length direction).2 ∧
      ∀ address, (b.load buffer length direction).1 = .ok address →
        Aimed N L.poised (b.load buffer length direction).2
          (b'.load (N.buffer buffer) length direction).2 := by
  obtain ⟨answer, hardware⟩ := L.load h.hardware b.mapping.isSome ((b.memory.get buffer).take length) direction
  simp only [Bus.load, h.held, same]
  generalize Hardware.load b.hardware b.mapping.isSome _ direction = loaded at answer hardware
  generalize Hardware.load b'.hardware b.mapping.isSome _ direction = loaded' at answer hardware
  obtain ⟨result, s⟩ := loaded
  obtain ⟨result', s'⟩ := loaded'
  dsimp only at answer hardware
  subst answer
  cases result' with
  | error e => exact ⟨rfl, ⟨hardware, h.held, h.memory⟩, fun _ found => by cases found⟩
  | ok address =>
    exact ⟨rfl, ⟨hardware, rfl, h.memory⟩, fun _ _ => ⟨hardware, rfl, congrArg some same, h.memory⟩⟩

theorem Aimed.sync (h : Aimed N L.poised b b') (point : SyncPoint) :
    Aimed N L.poised (b.sync point) (b'.sync point) :=
  ⟨L.handOver h.hardware point, h.mapping, h.mapped, h.memory⟩

theorem Aimed.write (h : Aimed N L.poised b b') (w : Nat × UInt32) :
    Aimed N L.poised (b.write w.1 w.2) (b'.write w.1 w.2) := by
  obtain ⟨moves, hardware⟩ := L.drive h.hardware b.mapped w
  rw [b.write_eq, b'.write_eq, h.mapped, moves]
  have after : Aimed N L.poised
      { b with hardware := (Hardware.write b.hardware b.mapped w.1 w.2).1 }
      { b' with hardware := (Hardware.write b'.hardware b.mapped w.1 w.2).1 } :=
    ⟨hardware, h.mapping, h.mapped, h.memory⟩
  cases (Hardware.write b.hardware b.mapped w.1 w.2).2 with
  | none => exact after
  | some bytes => exact after.fill bytes

theorem Aimed.writeAll (h : Aimed N L.poised b b') (l : List (Nat × UInt32)) :
    Aimed N L.poised (b.writeAll l) (b'.writeAll l) := by
  induction l generalizing b b' with
  | nil => exact h
  | cons w rest ih => exact ih (h.write L w)

end Bus

end CardHost
