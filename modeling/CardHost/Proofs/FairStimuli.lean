import CardHost.Proofs.Bench
import CardHost.Proofs.Portability

namespace CardHost

def Stimulus.Fair (mixed : Prop) : Stimulus → Prop
  | .operate (.submit request) => request.Portable mixed List.length
  | .inject bits => Status.errors &&& bits = bits
  | _ => True

namespace Controller

theorem chip_unmoved (soc : Soc) : Unmoved fun c => c.board.soc = soc where
  submit c request h := by
    obtain ⟨bus, tickets, active, mapped, he⟩ := c.submit_frame request
    rwa [he]
  interrupt c h current := by
    obtain ⟨bus, tickets, active, mapped, he⟩ := c.interrupt_frame current
    rwa [he]
  quiet c c' l h _ _ keeps := by rwa [keeps.board]
  tickets _ _ h := h
  adjust _ _ _ _ h := h

end Controller

namespace System

open Controller

variable {s : System Simulator} {c : Controller Simulator} {soc : Soc} {mixed : Prop}

structure Sound (soc : Soc) (mixed : Prop) (s : System Simulator) : Prop where
  chip : s.Holds fun c => c.board.soc = soc
  agrees : ∃ l, Agrees s l
  steady : s.Holds Controller.Steady
  settled : s.Holds Controller.Settled
  tidy : s.Holds (Controller.Tidy mixed)

theorem Sound.current (h : (whole c).Sound soc mixed) (a : Active) (ha : c.active = some a) :
    a.current?.isSome = true := by
  obtain ⟨l, agrees⟩ := h.agrees
  exact agrees.current a ha

theorem Sound.interrupt (h : (whole c).Sound soc mixed) : (whole c.interrupt).Sound soc mixed := by
  obtain ⟨l, agrees⟩ := h.agrees
  obtain ⟨l', _, _, agrees', -⟩ := agrees.step_accounted .interrupt
  exact ⟨(chip_unmoved soc).interrupt c h.chip h.current, ⟨l', agrees'⟩,
    steady_unmoved.interrupt c h.steady h.current, settled_unmoved.interrupt c h.settled h.current,
    Tidy.interrupt h.tidy h.current⟩

theorem Sound.serveLine (h : (whole c).Sound soc mixed) (limit : Nat) :
    (whole (c.serveLine limit).2).Sound soc mixed :=
  serveLine_keeps (P := fun c => (whole c).Sound soc mixed) (fun _ h => h.interrupt) h limit

theorem Sound.tidy_perform (h : (whole c).Sound soc mixed) {operation : Operation}
    (quiet : operation.isQuiet = true) : (c.perform operation).2.Holds (Tidy mixed) := by
  obtain ⟨c', l, hc', -, hp, hk, -⟩ := c.perform_quiet quiet
  rw [hc']
  exact Tidy.keeps h.tidy hk.active hk.tickets hk.bounce hp.alike

theorem Sound.tidy_step (h : s.Sound soc mixed) {operation : Operation}
    (fair : (Stimulus.operate operation).Fair mixed) : (s.step operation).2.Holds (Tidy mixed) := by
  have setTicket (ticket : Nat) {value : Ticket} (other : ∀ r, value ≠ .ready r) :
      (s.setParts (s.parts.setTicket ticket value)).Holds (Tidy mixed) := by
    cases s with
    | apart p => trivial
    | whole c => exact Tidy.setTicket h.tidy ticket other
  cases operation with
  | poll ticket =>
    simp only [step]
    split
    · unfold Parts.poll
      split
      · rw [setParts_parts]
        exact h.tidy
      · exact setTicket ticket (by simp)
      · rw [setParts_parts]
        exact h.tidy
    · exact h.tidy
  | drop ticket =>
    simp only [step]
    split
    · exact setTicket ticket (by simp)
    · exact h.tidy
  | submit request =>
    cases s with
    | apart p => trivial
    | whole c =>
      rw [step_submit]
      exact Tidy.submit h.tidy (bounce_lt h.settled.bounce) fair
  | interrupt =>
    cases s with
    | apart p => trivial
    | whole c => exact Tidy.interrupt h.tidy h.current
  | takeApart => cases s <;> trivial
  | _ =>
    cases s with
    | apart p => trivial
    | whole c => exact h.tidy_perform rfl

theorem Sound.respond (h : s.Sound soc mixed) {stimulus : Stimulus} (fair : stimulus.Fair mixed) :
    (s.respond stimulus).2.Sound soc mixed := by
  obtain ⟨l, agrees⟩ := h.agrees
  obtain ⟨l', agrees', steady⟩ := steady_unmoved.respond agrees h.steady stimulus
  obtain ⟨-, -, settled⟩ := settled_unmoved.respond agrees h.settled stimulus
  obtain ⟨-, -, chip⟩ := (chip_unmoved soc).respond agrees h.chip stimulus
  refine ⟨chip, ⟨l', agrees'⟩, steady, settled, ?_⟩
  have adjust (f : Simulator → Simulator) : (s.adjust f).Holds (Tidy mixed) := by
    cases s with
    | apart p => trivial
    | whole c => exact Tidy.keeps h.tidy rfl rfl rfl (.refl _)
  cases stimulus with
  | operate operation => exact h.tidy_step fair
  | serve limit =>
    cases s with
    | apart p => trivial
    | whole c => exact (h.serveLine limit).tidy
  | inject injected => exact adjust fun sim => { sim with injected }
  | failLoad => exact adjust fun sim => { sim with failNextLoad := true }
  | useCard call => exact adjust fun sim => { sim with card := sim.card.after call }

theorem Sound.soc_eq (h : (whole c).Sound soc mixed) : c.board.soc = soc := h.chip

theorem sound_start (unit : UInt32) (board : Board) (options : Options) (sim : Simulator)
    (soc : sim.soc = board.soc) : (start unit board options sim).Sound board.soc mixed := by
  refine ⟨?_, ⟨_, .start unit board options sim⟩, ?_, settled_attach unit board options sim soc, ?_⟩
  · change (attach unit board options sim).board.soc = board.soc
    rw [attach_eq, writeAll_eq]
    rfl
  · exact ⟨attach_still unit board options sim, false, balanced_attach unit board options sim⟩
  · change (attach unit board options sim).Tidy mixed
    rw [attach_eq, writeAll_eq]
    refine ⟨fun a ha => ?_, fun a ha => ?_, fun n r hr => ?_⟩
    · cases ha
    · cases ha
    · cases hr

end System

end CardHost
