import CardHost.Proofs.Bench
import CardHost.Proofs.Channels
/-!
What the transfer channels can still reach, whatever happens to a controller. While a command is on the
wire, a channel that is on works in the mapped bytes only. A command that ends with an error gives its
mapping back, but leaves its channel on, until another request is taken.
-/
namespace CardHost

open Bus

namespace Controller

variable {c c' : Controller Simulator} {a : Active} {command : Command BufferId} {bus : Bus Simulator}
  {l : List Access} {left : Bool}

theorem preparation_append (mode : UInt32) (length : Nat) (l : List Access) :
    preparation mode length ++ l =
      [.read Register.mode mode, .write Register.mode (blockMode mode length)] ++
        .write Register.channelControl Channel.stop :: l := rfl

theorem confined_of_prepared {b b' : Bus Simulator} {mode : UInt32} {length : Nat}
    (h : Performs b (preparation mode length ++ l) b')
    (quiet : ∀ d : Direction, l.all (!·.starts d) = true) : b'.Confined := by
  rw [preparation_append] at h
  exact h.confined_of_stop quiet

theorem confined_of_aimed {d : Direction} {b b' : Bus Simulator} {mode address : UInt32} {block length : Nat}
    {bytes : Bytes} {point : SyncPoint} {m : Mapping}
    (h : Performs b (preparation mode block ++ .load bytes d (.ok address) :: .sync point ::
      .write d.pointer address :: .write d.count (UInt32.ofNat (length / 4)) :: l) b')
    (aimed : l.all (!·.aims d) = true) (others : ∀ e ≠ d, l.all (!·.starts e) = true)
    (mapping : b'.mapping = some m) (length_eq : m.length = length) : b'.Confined := by
  intro e live
  by_cases same : e = d
  · subst same
    obtain ⟨b₁, -, h₁⟩ := h.split
    obtain rfl := h₁.loaded_at
    obtain ⟨b₂, -, h₂⟩ := h₁.head
    obtain ⟨b₃, -, h₃⟩ := h₂.head
    exact h₃.covers aimed mapping length_eq live
  · rw [preparation_append] at h
    have off : b'.hardware.isOn e = false := by
      refine h.stopped e.stop_off ?_
      simp only [List.all_cons, Bool.and_eq_true]
      refine ⟨rfl, rfl, ?_, ?_, others e same⟩
      · cases d <;> cases e <;> rfl
      · cases d <;> cases e <;> rfl
    rw [((Simulator.live_iff _ _).mp live).1] at off
    cases off

theorem Launches.confined (h : Launches c a command bus l c') (hp : Performs c.bus l bus) :
    bus.Confined := by
  cases h with
  | plain data =>
    have hall : writes (clearChannels ++ c.issuing command Status.commandReady) =
        [] ++ .write Register.channelControl Channel.stop ::
          writes (clearChannels.tail ++ c.issuing command Status.commandReady) := rfl
    rw [hall] at hp
    exact hp.confined_of_stop fun d => rfl
  | idle data mode => exact confined_of_prepared hp fun d => rfl
  | read data mode address bytes data_eq isRead free mapping =>
    refine confined_of_aimed (d := .fromCard) hp rfl (fun e other => ?_) mapping rfl
    cases e with
    | fromCard => exact (other rfl).elim
    | toCard => rfl
  | write data mode address bytes length data_eq isRead isWrite free fits length_eq mapping =>
    refine confined_of_aimed (d := .toCard) hp rfl (fun e other => ?_) mapping rfl
    cases e with
    | fromCard => rfl
    | toCard => exact (other rfl).elim
  | unstaged data mode =>
    rw [← List.append_nil (preparation _ _)] at hp
    exact confined_of_prepared hp fun d => rfl
  | refused data mode bytes direction error => exact confined_of_prepared hp fun d => rfl

def failedAfter (c : Controller Simulator) (failed : Bool) : Bool :=
  if c.detached then failed
  else
    match c.current? with
    | none => failed
    | some command =>
      anyBit c.observed Status.errors && !c.forgives command &&
        (c.active.bind (·.pending?)).isNone

def failedServing (c : Controller Simulator) : Nat → Bool → Bool
  | 0, failed => failed
  | limit + 1, failed =>
    if InterruptLine.asserted c.bus.hardware then
      c.interrupt.failedServing limit (c.failedAfter failed)
    else failed

/-- The channels work in mapped bytes only, unless the last command has failed: then nothing is on the wire
and nothing is mapped. -/
structure Fenced (c : Controller Simulator) (failed : Bool) : Prop where
  confined : failed = false → c.bus.Confined
  released : failed = true → c.active = none ∧ c.bus.mapping = none

theorem Fenced.submit {failed : Bool} (h : c.Fenced failed) (request : Request Bytes) :
    (c.submit request).2.Fenced (failed && (c.detached || c.busy)) := by
  have hsubmits := c.submits request
  generalize (c.submit request).2 = c' at hsubmits ⊢
  cases hsubmits with
  | refuses refused =>
    rw [refused, Bool.and_true]
    exact h
  | launches attached idle performs launches =>
    rw [attached, busy, idle, Option.isSome_none, Bool.or_self, Bool.and_false]
    refine ⟨fun _ => ?_, (by cases ·)⟩
    rw [(launches.outcome rfl rfl).1]
    exact launches.confined performs

theorem calm_answering (c : Controller Simulator) (words : List UInt32) :
    (c.glance ++ ([] ++ ending words)).all Access.calm = true := by
  rw [List.all_append, List.all_append, all_ending rfl fun _ _ => rfl]
  rfl

theorem Works.confined_next {stage : Stage} (h : c.Works left stage) (confined : c.bus.Confined)
    (hp : Performs c.bus (c.glance ++ stageAccesses c.observed c.mapped) bus) : bus.Confined := by
  cases hs : anyBit c.seenStatus stage.bit with
  | false =>
    rw [(h.stage_waits hs c.mapped).1] at hp
    exact confined.performs hp rfl
  | true =>
    rw [(h.stage_ends hs).1] at hp
    cases stage with
    | receiving =>
      have hall : c.glance ++ Stage.receiving.accesses =
          (c.glance ++ [.sync .afterRead, .unload, .write Register.disable Status.endReceive,
            .write Register.enable Status.receiveFull]) ++
            .write Register.channelControl Channel.stop :: [] := rfl
      rw [hall] at hp
      exact hp.confined_of_stop fun d => rfl
    | sending =>
      have hall : c.glance ++ Stage.sending.accesses =
          c.glance ++ .write Register.channelControl Channel.stop ::
            [.write Register.disable Status.transmitEmpty, .write Register.enable Status.notBusy,
              .sync .afterWrite, .unload] := rfl
      rw [hall] at hp
      exact hp.confined_of_stop fun d => rfl
    | filling | settling | ready => exact confined.performs hp rfl

theorem Works.fenced_of_ends {stage : Stage} {mapped : Nat} {last : Command BufferId}
    {error : Option CommandError} (h : c.Works left stage) (attached : c.detached = false)
    (hc : c.current? = some command) (confined : c.bus.Confined)
    (ends : c.Ends command c.observed l mapped last error) (words : List UInt32)
    (hp : Performs c.bus (c.glance ++ (l ++ ending words)) bus) (tickets : Array Ticket) :
    ({ c with bus, mapped, active := none, tickets } : Controller Simulator).Fenced
      (anyBit c.observed Status.errors && !c.forgives command) := by
  -- Only a failure that is not forgiven gives the mapping back with the channel still on.
  cases ends with
  | failed e faulty error =>
    have rests : ({ c with bus, mapped := c.mapped - 1 } : Controller Simulator).Rests
        (c.leftAfter left) :=
      (Ends.failed e faulty error).rests h attached hc hp rfl rfl
    have forgives : c.forgives command = false := by rw [forgives, error]; rfl
    have hleft : c.leftAfter left = false := by
      simp only [leftAfter, attached, hc, faulty, forgives, Bool.false_and, Bool.false_eq_true, if_false,
        if_true]
    have hmapping := rests.mapping
    rw [hleft] at hmapping
    rw [faulty, forgives]
    exact ⟨(by cases ·), fun _ => ⟨rfl, Option.not_isSome_iff_eq_none.mp (by rw [hmapping]; decide)⟩⟩
  | forgiven faulty error =>
    have forgives : c.forgives command = true := by rw [forgives, error]; rfl
    rw [forgives, Bool.not_true, Bool.and_false]
    exact ⟨fun _ => confined.performs hp (c.calm_answering words), (by cases ·)⟩
  | ready clean ready =>
    rw [(h.stage_ready ready).2.2.1] at hp
    rw [clean]
    exact ⟨fun _ => confined.performs hp (c.calm_answering words), (by cases ·)⟩

theorem Fenced.interrupt {failed : Bool} (h : c.Fenced failed) (balanced : c.Balanced left)
    (current : ∀ a, c.active = some a → a.current?.isSome = true) :
    c.interrupt.Fenced (c.failedAfter failed) := by
  have hinterrupts := interrupts current
  generalize c.interrupt = c' at hinterrupts ⊢
  cases hinterrupts with
  | rests detached =>
    rw [failedAfter, if_pos detached]
    exact h
  | spurious attached idle performs =>
    have hfailed : c.failedAfter failed = failed := by
      simp only [failedAfter, attached, current?_of_idle idle, Bool.false_eq_true, if_false]
    rw [hfailed]
    refine ⟨fun hf => (h.confined hf).performs performs rfl, fun hf => ⟨idle, ?_⟩⟩
    exact (performs.mapping_eq rfl).trans (h.released hf).2
  | @serves a command l bus c' attached ha hc performs serves =>
    have hcur : c.current? = some command := current?_of_active ha hc
    obtain ⟨stage, hw⟩ := balanced.works a ha
    -- A request is in progress, so that none of its commands has failed for good before.
    have confined : c.bus.Confined := h.confined <| by
      cases failed with
      | false => rfl
      | true =>
        have idle := (h.released rfl).1
        rw [ha] at idle
        cases idle
    have hfailed : c.failedAfter failed =
        (anyBit c.observed Status.errors && !c.forgives command && a.pending?.isNone) := by
      simp only [failedAfter, attached, hcur, ha, Option.bind_some, Bool.false_eq_true, if_false]
    rw [hfailed]
    cases serves with
    | continues clean =>
      rw [clean]
      exact ⟨fun _ => hw.confined_next confined performs, (by cases ·)⟩
    | finishes words final ends =>
      rw [final, Option.isNone_none, Bool.and_true]
      exact hw.fenced_of_ends attached hcur confined ends words performs _
    | stops words pending ends _ reached launched launches =>
      have hbus := (launches.outcome rfl (Active.current?_stopping pending _)).1
      rw [pending, Option.isNone_some, Bool.and_false]
      refine ⟨fun _ => ?_, (by cases ·)⟩
      rw [hbus]
      exact launches.confined launched

theorem Fenced.keeps {failed : Bool} (h : c.Fenced failed) (hk : c.Keeps c') (hq : Quiet c l)
    (hp : Performs c.bus l c'.bus) : c'.Fenced failed := by
  refine ⟨fun hf => ?_, fun hf => ?_⟩
  · cases hq with
    | still => exact (h.confined hf).performs hp rfl
    | programs => exact (h.confined hf).performs hp rfl
    | quiesces =>
      have hall : writes quiesce = [.write Register.disable Status.all] ++
          .write Register.channelControl Channel.stop :: writes (quiesce.drop 2) := rfl
      rw [hall] at hp
      exact hp.confined_of_stop fun d => rfl
  · obtain ⟨idle, free⟩ := h.released hf
    have hmapping := hp.mapped
    rw [hq.mapped, free] at hmapping
    exact ⟨hk.active.trans idle, Option.not_isSome_iff_eq_none.mp (by rw [hmapping]; decide)⟩

theorem Fenced.quiet {failed : Bool} (h : c.Fenced failed) {operation : Operation}
    (quiet : operation.isQuiet = true) : (c.perform operation).2.Holds (·.Fenced failed) := by
  obtain ⟨c', l, hc', hq, hp, hk, -⟩ := c.perform_quiet quiet
  rw [hc']
  exact h.keeps hk hq hp

theorem Fenced.setTickets {failed : Bool} (h : c.Fenced failed) (tickets : Array Ticket) :
    ({ c with tickets } : Controller Simulator).Fenced failed := ⟨h.confined, h.released⟩

theorem fenced_attach (unit : UInt32) (board : Board) (options : Options) (sim : Simulator) :
    (attach unit board options sim).Fenced false := by
  have hp := performs_writeAll (Controller.fresh unit board options sim).bus
    (quiesce ++ powerOn board.soc)
  have hall : writes (quiesce ++ powerOn board.soc) = [.write Register.disable Status.all] ++
      .write Register.channelControl Channel.stop :: writes (quiesce.drop 2 ++ powerOn board.soc) := rfl
  rw [hall] at hp
  refine ⟨fun _ => ?_, nofun⟩
  rw [attach_eq, writeAll_eq]
  exact hp.confined_of_stop fun d => rfl

theorem Fenced.serveLine {failed : Bool} {ledger : Ledger} (h : c.Fenced failed) (steady : c.Steady)
    (agrees : Agrees (.whole c) ledger) (limit : Nat) :
    (c.serveLine limit).2.Fenced (c.failedServing limit failed) := by
  induction limit generalizing c failed ledger with
  | zero => exact h
  | succ limit ih =>
    simp only [Controller.serveLine, pump, failedServing]
    split
    · obtain ⟨ledger', _, _, agrees', -⟩ := agrees.step_accounted .interrupt
      obtain ⟨left, balanced⟩ := steady.balanced
      exact ih (h.interrupt balanced agrees.current)
        (steady_unmoved.interrupt c steady agrees.current) agrees'
    · exact h

end Controller

namespace System

def failedAfter : System Simulator → Stimulus → Bool → Bool
  | whole c, .operate .interrupt, failed => c.failedAfter failed
  | whole c, .operate (.submit _), failed => failed && (c.detached || c.busy)
  | whole c, .serve limit, failed => c.failedServing limit failed
  | _, _, failed => failed

def failed : System Simulator → List Stimulus → Bool → Bool
  | _, [], failed => failed
  | s, stimulus :: rest, failed => (s.respond stimulus).2.failed rest (s.failedAfter stimulus failed)

variable {s : System Simulator} {ledger : Ledger} {failed : Bool}

def Fenced (s : System Simulator) (failed : Bool) : Prop := s.Holds (·.Fenced failed)

theorem Fenced.setTicket (h : s.Fenced failed) (ticket : Nat) (value : Ticket) :
    (s.setParts (s.parts.setTicket ticket value)).Fenced failed := by
  cases s with
  | whole c => exact Controller.Fenced.setTickets h _
  | apart p => exact trivial

theorem Fenced.operate (h : s.Fenced failed) (steady : s.Holds Controller.Steady)
    (agrees : Agrees s ledger) (operation : Operation) :
    (s.step operation).2.Fenced (s.failedAfter (.operate operation) failed) := by
  cases operation with
  | poll ticket =>
    have hfailed : s.failedAfter (.operate (.poll ticket)) failed = failed := by cases s <;> rfl
    rw [hfailed]
    simp only [step]
    split
    · unfold Parts.poll
      split
      · rwa [setParts_parts]
      · exact h.setTicket ticket .spent
      · rwa [setParts_parts]
    · exact h
  | drop ticket =>
    have hfailed : s.failedAfter (.operate (.drop ticket)) failed = failed := by cases s <;> rfl
    rw [hfailed]
    simp only [step]
    split
    · exact h.setTicket ticket .dropped
    · exact h
  | submit request =>
    cases s with
    | apart p => exact trivial
    | whole c =>
      rw [c.step_submit]
      exact Controller.Fenced.submit h request
  | interrupt =>
    cases s with
    | apart p => exact trivial
    | whole c =>
      obtain ⟨left, balanced⟩ := steady.balanced
      exact Controller.Fenced.interrupt h balanced agrees.current
  | takeApart => cases s <;> exact trivial
  | _ =>
    cases s with
    | apart p => exact trivial
    | whole c => exact Controller.Fenced.quiet h rfl

theorem Fenced.respond (h : s.Fenced failed) (steady : s.Holds Controller.Steady)
    (agrees : Agrees s ledger) (stimulus : Stimulus) :
    (s.respond stimulus).2.Fenced (s.failedAfter stimulus failed) := by
  cases stimulus with
  | operate operation => exact h.operate steady agrees operation
  | serve limit =>
    cases s with
    | apart p => exact trivial
    | whole c => exact Controller.Fenced.serveLine h steady agrees limit
  | inject | failLoad | useCard =>
    cases s with
    | apart p => exact trivial
    | whole c => exact ⟨h.confined, h.released⟩

theorem Fenced.afterStimuli (h : s.Fenced failed) (steady : s.Holds Controller.Steady)
    (agrees : Agrees s ledger) (stimuli : List Stimulus) :
    (s.afterStimuli stimuli).Fenced (s.failed stimuli failed) := by
  induction stimuli generalizing s ledger failed with
  | nil => exact h
  | cons stimulus rest ih =>
    obtain ⟨ledger', agrees', steady'⟩ := Controller.steady_unmoved.respond agrees steady stimulus
    exact ih (h.respond steady agrees stimulus) steady' agrees'

end System

/-- On a simulator, whatever faults are armed: a channel that is on and has words left to move works in
the mapped bytes, unless the last command that was put on the wire has ended with an error. Then the
channel is still on, with nothing mapped, until another request is taken. -/
theorem live_channel_mapped_unless_failed (unit : UInt32) (board : Board) (options : Options)
    (sim : Simulator) (stimuli : List Stimulus) (d : Direction) :
    let start := System.start unit board options sim
    ∀ c, start.afterStimuli stimuli = .whole c → c.bus.hardware.live d = true →
      (start.failed stimuli false = false → c.mapped = 1 ∧ c.bus.Covers d) ∧
      (start.failed stimuli false = true → c.active = none ∧ c.mapped = 0 ∧ c.bus.mapping = none) := by
  intro start c hc live
  have hstart : start.Holds Controller.Steady :=
    ⟨Controller.attach_still unit board options sim, false,
      Controller.balanced_attach unit board options sim⟩
  have hfenced : start.Fenced false := Controller.fenced_attach unit board options sim
  have fenced := hfenced.afterStimuli hstart (.start unit board options sim) stimuli
  rw [hc] at fenced
  have fenced : c.Fenced (start.failed stimuli false) := fenced
  obtain ⟨left, balanced⟩ := (Controller.steady_afterStimuli unit board options sim stimuli hc).balanced
  have count : c.mapped = if c.bus.mapping.isSome then 1 else 0 := by
    cases ha : c.active with
    | none => exact (balanced.rests ha).count
    | some a =>
      obtain ⟨stage, hworks⟩ := balanced.works a ha
      exact hworks.count
  refine ⟨fun hf => ?_, fun hf => ?_⟩
  · obtain ⟨m, mapping, within⟩ := fenced.confined hf d live
    refine ⟨?_, m, mapping, within⟩
    rw [count, mapping]
    rfl
  · obtain ⟨idle, mapping⟩ := fenced.released hf
    refine ⟨idle, ?_, mapping⟩
    rw [count, mapping]
    rfl

def System.troubled : System Simulator :=
  (start 0 (Board.reference .sam9260) .default
    { soc := .sam9260, card := .ofMedium (.blank 1024) }).afterStimuli
      [.inject Status.responseTimeout, .operate (.submit
        { command := { opcode := 17, flags := .r1, data := some ⟨[0, 0, 0, 0], .read, 0⟩ } })]

theorem troubled_read_mapped :
    ∃ c, System.troubled = .whole c ∧ c.bus.hardware.live .fromCard = true ∧ c.mapped = 1 ∧
      c.bus.Covers .fromCard := by
  have hc : ∃ c, System.troubled = .whole c ∧ c.bus.hardware.live .fromCard = true := ⟨_, rfl, rfl⟩
  obtain ⟨c, hc, live⟩ := hc
  have h := live_channel_mapped_unless_failed 0 (Board.reference .sam9260) .default
    { soc := .sam9260, card := .ofMedium (.blank 1024) }
    [.inject Status.responseTimeout, .operate (.submit
      { command := { opcode := 17, flags := .r1, data := some ⟨[0, 0, 0, 0], .read, 0⟩ } })]
    .fromCard c hc live
  exact ⟨c, hc, live, h.1 rfl⟩

theorem failed_read_left_live :
    ∃ c, (System.troubled.respond (.serve 4)).2 = .whole c ∧
      c.bus.hardware.live .fromCard = true ∧ c.mapped = 0 ∧ c.bus.mapping = none :=
  ⟨_, rfl, rfl, rfl, rfl⟩

end CardHost
