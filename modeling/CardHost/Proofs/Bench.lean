import CardHost.Proofs.Mappings
import CardHost.Proofs.Settled
/-!
A controller on a simulator with everything that may happen to them from outside: the operations of clients,
the interrupt line served, faults that are armed, and calls made to the card itself.
-/
namespace CardHost

namespace Card

inductive Call where
  | execute (index argument : UInt32)
  | read (count : Nat)
  | write (data : Bytes)
  | store (offset : Nat) (data : Bytes)

def after (card : Card) : Call → Card
  | .execute index argument => (card.execute index argument).2
  | .read count => (card.readData count).2
  | .write data => (card.writeData data).2
  | .store offset data => { card with medium := (card.medium.write offset data).toOption.getD card.medium }

end Card

inductive Stimulus where
  | operate (operation : Operation)
  | serve (limit : Nat)
  | inject (bits : UInt32)
  | failLoad
  | useCard (call : Card.Call)

namespace System

def adjust (s : System Simulator) (f : Simulator → Simulator) : System Simulator :=
  s.setParts { s.parts with bus := { s.parts.bus with hardware := f s.parts.bus.hardware } }

def respond (s : System Simulator) : Stimulus → Answer × System Simulator
  | .operate operation => s.step operation
  | .serve limit =>
    match s with
    | whole c => (.count (c.serveLine limit).1, .whole (c.serveLine limit).2)
    | apart _ => (.gone, s)
  | .inject injected => (.silent, s.adjust fun sim => { sim with injected })
  | .failLoad => (.silent, s.adjust fun sim => { sim with failNextLoad := true })
  | .useCard call => (.silent, s.adjust fun sim => { sim with card := sim.card.after call })

def afterStimuli (s : System Simulator) (stimuli : List Stimulus) : System Simulator :=
  stimuli.foldl (fun s stimulus => (s.respond stimulus).2) s

end System

theorem Agrees.adjust {s : System Simulator} {l : Ledger} (h : Agrees s l)
    (f : Simulator → Simulator) : Agrees (s.adjust f) l := by
  cases s <;> exact ⟨h.whole, h.tickets, h.active, h.outstanding, h.sound⟩

namespace Controller

/-- An invariant that does not depend on the faults that are armed, nor on the card. -/
structure Unmoved (P : Controller Simulator → Prop) : Prop extends Invariant P where
  adjust : ∀ (c : Controller Simulator) (injected : UInt32) (failNextLoad : Bool) (card : Card), P c →
    P { c with
      bus := { c.bus with hardware := { c.bus.hardware with injected, failNextLoad, card } } }

variable {P : Controller Simulator → Prop}

theorem serveLine_keeps {H : Type} [Hardware H] [InterruptLine H] {P : Controller H → Prop}
    (interrupt : ∀ c, P c → P c.interrupt) {c : Controller H} (h : P c) (limit : Nat) :
    P (c.serveLine limit).2 := by
  induction limit generalizing c with
  | zero => exact h
  | succ limit ih =>
    simp only [Controller.serveLine, pump]
    split
    · exact ih (interrupt c h)
    · exact h

theorem Invariant.serveLine {P : Controller Simulator → Prop} (invariant : Invariant P)
    {c : Controller Simulator} {l : Ledger} (agrees : Agrees (.whole c) l) (h : P c) (limit : Nat) :
    ∃ l', Agrees (.whole (c.serveLine limit).2) l' ∧ P (c.serveLine limit).2 := by
  refine serveLine_keeps (P := fun c => ∃ l, Agrees (.whole c) l ∧ P c) ?_ ⟨l, agrees, h⟩ limit
  rintro c ⟨l, agrees, h⟩
  obtain ⟨l', _, _, agrees', -⟩ := agrees.step_accounted .interrupt
  exact ⟨l', agrees', invariant.step agrees h .interrupt⟩

theorem Unmoved.respond (unmoved : Unmoved P) {s : System Simulator} {l : Ledger}
    (agrees : Agrees s l) (h : s.Holds P) (stimulus : Stimulus) :
    ∃ l', Agrees (s.respond stimulus).2 l' ∧ (s.respond stimulus).2.Holds P := by
  have adjust (f : Simulator → Simulator) (hf : ∀ sim : Simulator, ∃ injected failNextLoad card,
      f sim = { sim with injected, failNextLoad, card }) :
      ∃ l', Agrees (s.adjust f) l' ∧ (s.adjust f).Holds P := by
    refine ⟨l, agrees.adjust f, ?_⟩
    cases s with
    | apart p => trivial
    | whole c =>
      obtain ⟨injected, failNextLoad, card, he⟩ := hf c.bus.hardware
      have ha := unmoved.adjust c injected failNextLoad card h
      rw [← he] at ha
      exact ha
  cases stimulus with
  | operate operation =>
    obtain ⟨l', _, _, agrees', -⟩ := agrees.step_accounted operation
    exact ⟨l', agrees', unmoved.step agrees h operation⟩
  | serve limit =>
    cases s with
    | apart p => exact ⟨l, agrees, h⟩
    | whole c => exact unmoved.serveLine agrees h limit
  | inject injected =>
    exact adjust (fun sim => { sim with injected }) fun _ => ⟨_, _, _, rfl⟩
  | failLoad =>
    exact adjust (fun sim => { sim with failNextLoad := true }) fun _ => ⟨_, _, _, rfl⟩
  | useCard call =>
    exact adjust (fun sim => { sim with card := sim.card.after call }) fun _ => ⟨_, _, _, rfl⟩

theorem Unmoved.afterStimuli (unmoved : Unmoved P) {s : System Simulator} {l : Ledger}
    (agrees : Agrees s l) (h : s.Holds P) (stimuli : List Stimulus) :
    ∃ l', Agrees (s.afterStimuli stimuli) l' ∧ (s.afterStimuli stimuli).Holds P := by
  induction stimuli generalizing s l with
  | nil => exact ⟨l, agrees, h⟩
  | cons stimulus rest ih =>
    obtain ⟨l', agrees', h'⟩ := unmoved.respond agrees h stimulus
    exact ih agrees' h'

theorem settled_unmoved : Unmoved Settled where
  toInvariant := settled_invariant
  adjust _ _ _ _ h :=
    ⟨⟨h.still.arrived, h.still.awaited, h.still.line, h.still.receiveNext, h.still.transmitNext⟩,
      h.soc, h.bounce⟩

structure Steady (c : Controller Simulator) : Prop where
  still : c.bus.hardware.Still
  balanced : ∃ left, c.Balanced left

theorem steady_unmoved : Unmoved Steady where
  submit _ request h := by
    obtain ⟨left, hb⟩ := h.balanced
    exact ⟨submit_still h.still request, left, hb.submit request⟩
  interrupt _ h current := by
    obtain ⟨left, hb⟩ := h.balanced
    exact ⟨interrupt_still h.still current, _, hb.interrupt current⟩
  quiet _ _ _ h hq hp hk := by
    obtain ⟨left, hb⟩ := h.balanced
    exact ⟨hp.still hq.isStill h.still, left, hb.keeps hk hq hp⟩
  tickets c tickets h := by
    obtain ⟨left, hb⟩ := h.balanced
    exact ⟨h.still, left, hb.congr rfl rfl rfl rfl⟩
  adjust _ _ _ _ h := by
    obtain ⟨left, hb⟩ := h.balanced
    exact ⟨⟨h.still.arrived, h.still.awaited, h.still.line, h.still.receiveNext, h.still.transmitNext⟩,
      left, hb.congr rfl rfl rfl rfl⟩

theorem steady_afterStimuli (unit : UInt32) (board : Board) (options : Options) (sim : Simulator)
    (stimuli : List Stimulus) {c : Controller Simulator}
    (reached : (System.start unit board options sim).afterStimuli stimuli = .whole c) : c.Steady := by
  have hstart : (System.start unit board options sim).Holds Steady :=
    ⟨attach_still unit board options sim, false, balanced_attach unit board options sim⟩
  obtain ⟨l, -, h⟩ := steady_unmoved.afterStimuli (.start unit board options sim) hstart stimuli
  rwa [reached] at h

theorem settled_afterStimuli (unit : UInt32) (board : Board) (options : Options) (sim : Simulator)
    (soc : sim.soc = board.soc) (stimuli : List Stimulus) {c : Controller Simulator}
    (reached : (System.start unit board options sim).afterStimuli stimuli = .whole c) :
    c.Settled := by
  obtain ⟨l, -, h⟩ := settled_unmoved.afterStimuli (.start unit board options sim)
    (settled_attach unit board options sim soc) stimuli
  rwa [reached] at h

end Controller

end CardHost
