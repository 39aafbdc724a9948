import CardHost.Proofs.ChipOperations
/-!
Faults that show as errors. Whatever is written to a simulator, only errors and the ends of commands are latched
then; and a command that is in error once it has been issued has moved no data.
-/
namespace CardHost

open Bus

namespace Simulator

variable {s : Simulator} {word : UInt32}

theorem Orderly.streams (h : s.Orderly) {s' : Simulator} (streams : s.Streams s') : s'.Orderly := by
  induction streams with
  | refl => exact h
  | hold _ _ _ _ _ ih => exact ih.of_eq rfl rfl rfl
  | spend _ _ _ ih => exact ih.of_eq rfl rfl rfl
  | read _ count ih => exact ih.replaceCard (ih.card.readData count)
  | write _ data ih => exact ih.replaceCard (ih.card.writeData data)
  | latch _ errors ih => exact ih.latch (anyBit_progress_of_errors errors)

theorem Orderly.issue (h : s.Orderly) (word : UInt32) (mapped : Option Bytes) :
    (s.issue word mapped).1.Orderly :=
  issue_induction (fun _ _ responds => h.responds responds) mapped
    fun s' orderly => orderly.streams (s'.streams_startData word mapped)

theorem Orderly.switchChannels (h : s.Orderly) (value : UInt32) (mapped : Option Bytes) :
    (s.switchChannels value mapped).1.Orderly :=
  switchChannels_induction h (fun _ _ _ h => h.of_eq rfl rfl rfl) (fun _ _ streams h => h.streams streams)
    value mapped

theorem Orderly.write (h : s.Orderly) (mapped : Option Bytes) (offset : Nat) (value : UInt32) :
    (s.write mapped offset value).1.Orderly := by
  have written := s.written mapped offset value
  generalize s.write mapped offset value = after at written ⊢
  cases written with
  | resets => exact (Controller.orderly_reset h).of_eq rfl rfl rfl
  | issues =>
    have stored : (s.setRegister Register.command value).Orderly := h.of_eq rfl rfl rfl
    exact stored.issue value mapped
  | switches => exact h.switchChannels value mapped
  | _ => exact h.of_eq rfl rfl rfl

theorem pumpReceive_moved (mapped : Option Bytes) (moved : (s.pumpReceive mapped).2.isSome = true) :
    (s.pumpReceive mapped).1.latched = s.latched := by
  unfold pumpReceive at moved ⊢
  split at moved
  · dsimp only at moved ⊢
    split at moved
    · cases moved
    · rfl
  · cases moved

theorem startData_moved (mapped : Option Bytes) (moved : (s.startData word mapped).2.isSome = true) :
    s.card.phase ≠ none ∧ (s.startData word mapped).1.latched = s.latched := by
  unfold startData at moved ⊢
  split at moved
  · next fromCard =>
    rw [if_pos fromCard]
    cases reads : s.card.readData s.blockLength with
    | mk result card =>
      rw [reads] at moved
      cases result with
      | error => cases moved
      | ok data =>
        refine ⟨fun unarmed => ?_, pumpReceive_moved mapped moved⟩
        rw [Card.readData, unarmed] at reads
        cases reads
  · split at moved <;> cases moved

theorem Orderly.issue_faulty (h : s.Orderly) (word : UInt32) (mapped : Option Bytes)
    (faulty : anyBit (s.issue word mapped).1.latched Status.errors = true) : (s.issue word mapped).2 = none := by
  obtain ⟨goesOn, answered, responds⟩ := s.responds word
  rw [responds.issue] at faulty ⊢
  cases goesOn with
  | false => rfl
  | true =>
    rw [if_pos rfl] at faulty ⊢
    refine Option.not_isSome_iff_eq_none.mp fun moved => ?_
    obtain ⟨armed, latched⟩ := startData_moved mapped moved
    rw [latched] at faulty
    exact armed (h.responds_unarmed responds faulty)

end Simulator

namespace Bus

variable {b b' : Bus Simulator} {l : List Access}

theorem Performs.orderly (h : Performs b l b') (start : b.hardware.Orderly) : b'.hardware.Orderly :=
  h.always start (fun _ mapped offset value orderly => orderly.write mapped offset value)
    fun _ _ orderly => orderly.of_eq rfl rfl rfl

theorem issued_faulty (orderly : b.hardware.Orderly) (word bits : UInt32)
    (faulty : anyBit (b.writeAll [(Register.command, word), (Register.enable, bits)]).hardware.latched
      Status.errors = true) :
    (b.writeAll [(Register.command, word), (Register.enable, bits)]).memory = b.memory := by
  have armed : (b.hardware.setRegister Register.command word).Orderly := orderly.of_eq rfl rfl rfl
  have unmoved := armed.issue_faulty word b.mapped
  rw [writeAll_cons, writeAll_cons, write_enable, writeAll_nil] at faulty ⊢
  have issued : (b.write Register.command word).hardware =
      ((b.hardware.setRegister Register.command word).issue word b.mapped).1 := (b.write_frame _ _).2.2
  rw [show anyBit _ Status.errors = anyBit (b.write Register.command word).hardware.latched Status.errors
    from rfl, issued] at faulty
  have none : b.hardware.write b.mapped Register.command word =
      (((b.hardware.setRegister Register.command word).issue word b.mapped).1, none) :=
    Prod.ext rfl (unmoved faulty)
  dsimp only
  rw [b.write_unmoved none]

end Bus

def Stimulus.InjectsErrors : Stimulus → Prop
  | .inject bits => Status.errors &&& bits = bits
  | _ => True

namespace System

open Controller

variable {s : System Simulator} {c : Controller Simulator} {l : Ledger}

structure Orderly (s : System Simulator) : Prop where
  agrees : ∃ l, Agrees s l
  hardware : s.parts.bus.hardware.Orderly
  steady : s.Holds Controller.Steady
  settled : s.Holds Controller.Settled

theorem orderly_step (agrees : Agrees s l) (h : s.parts.bus.hardware.Orderly) (operation : Operation) :
    (s.step operation).2.parts.bus.hardware.Orderly := by
  obtain ⟨_, _, _, _, ⟨_, performs⟩, -⟩ := agrees.step_accounted operation
  exact performs.orderly h

theorem Orderly.current (h : (whole c).Orderly) (a : Active) (ha : c.active = some a) :
    a.current?.isSome = true := by
  obtain ⟨l, agrees⟩ := h.agrees
  exact agrees.current a ha

theorem Orderly.interrupt (h : (whole c).Orderly) : (whole c.interrupt).Orderly := by
  obtain ⟨l, agrees⟩ := h.agrees
  obtain ⟨l', _, _, agrees', -⟩ := agrees.step_accounted .interrupt
  exact ⟨⟨l', agrees'⟩, orderly_step agrees h.hardware .interrupt,
    steady_unmoved.interrupt c h.steady h.current, settled_unmoved.interrupt c h.settled h.current⟩

theorem Orderly.respond (h : s.Orderly) {stimulus : Stimulus} (errors : stimulus.InjectsErrors) :
    (s.respond stimulus).2.Orderly := by
  obtain ⟨l, agrees⟩ := h.agrees
  obtain ⟨l', agrees', steady⟩ := steady_unmoved.respond agrees h.steady stimulus
  obtain ⟨-, -, settled⟩ := settled_unmoved.respond agrees h.settled stimulus
  refine ⟨⟨l', agrees'⟩, ?_, steady, settled⟩
  have adjust {f : Simulator → Simulator} (h : (f s.parts.bus.hardware).Orderly) :
      (s.adjust f).parts.bus.hardware.Orderly := by
    rwa [System.adjust, parts_setParts]
  cases stimulus with
  | operate operation => exact orderly_step agrees h.hardware operation
  | serve limit =>
    cases s with
    | apart p => exact h.hardware
    | whole c =>
      exact (serveLine_keeps (P := fun c => (whole c).Orderly) (fun _ h => h.interrupt) h limit).hardware
  | inject injected =>
    exact adjust (f := fun sim => { sim with injected }) ⟨h.hardware.card, h.hardware.latched, errors⟩
  | failLoad =>
    exact adjust (f := fun sim => { sim with failNextLoad := true }) (h.hardware.of_eq rfl rfl rfl)
  | useCard call =>
    exact adjust (f := fun sim => { sim with card := sim.card.after call })
      ⟨h.hardware.card.after call, h.hardware.latched, h.hardware.injected⟩

theorem Orderly.afterStimuli (h : s.Orderly) {stimuli : List Stimulus}
    (errors : ∀ stimulus ∈ stimuli, stimulus.InjectsErrors) : (s.afterStimuli stimuli).Orderly := by
  induction stimuli generalizing s with
  | nil => exact h
  | cons stimulus rest ih =>
    obtain ⟨first, errors⟩ := List.forall_mem_cons.mp errors
    exact ih (h.respond first) errors

theorem orderly_start (unit : UInt32) (board : Board) (options : Options) {sim : Simulator}
    (soc : sim.soc = board.soc) (h : sim.Orderly) : (start unit board options sim).Orderly := by
  refine ⟨⟨_, .start unit board options sim⟩, ?_, ?_, settled_attach unit board options sim soc⟩
  · change (attach unit board options sim).bus.hardware.Orderly
    rw [attach_eq, writeAll_eq]
    exact (performs_writeAll _ _).orderly h
  · exact ⟨attach_still unit board options sim, false, balanced_attach unit board options sim⟩

end System

end CardHost
