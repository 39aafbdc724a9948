import CardHost.Hardware.Scripted
import CardHost.Proofs.Accounts

namespace CardHost

open Bus

namespace Controller

variable {H : Type} [Hardware H] {c : Controller H} {a : Active} {command : Command BufferId}

def Unmappable (c : Controller H) (command : Command BufferId) : Prop :=
  ∃ data e, command.data = some data ∧ data.flags.transfers = true ∧
    ((c.staging data).mapData data).1 = .error e

theorem load_active (c : Controller H) (buffer : BufferId) (length : Nat) (direction : Direction) :
    (c.load buffer length direction).2.active = c.active := by
  rw [load_eq]
  split <;> rfl

theorem mapData_active (c : Controller H) (data : Payload BufferId) :
    (c.mapData data).2.active = c.active := by
  simp only [mapData]
  split
  · have h := c.load_active data.buffer (c.buffer data.buffer).length .fromCard
    split <;> next hl => rwa [hl] at h
  · split
    · rfl
    · next length bytes _ =>
      have h := (c.setBuffer c.bounce bytes).load_active c.bounce length .toCard
      split <;> next hl => rwa [hl] at h

omit [Hardware H] in
theorem finish_active (c : Controller H) : c.finish.active = none := by
  cases ha : c.active with
  | none => simp only [finish, ha]
  | some a => rw [finish_eq ha]

theorem launch_active (ha : c.active = some a) (hc : a.current? = some command) :
    (c.launch command).active = none ↔ c.Unmappable command := by
  by_cases ht : ∃ data, command.data = some data ∧ data.flags.transfers = true
  · obtain ⟨data, hd, transfers⟩ := ht
    obtain ⟨bus, mode, he, -⟩ := c.prepareData_eq (c.buffer data.buffer).length
    have hactive := (c.staging data).mapData_active data
    have hsome : (c.staging data).active ≠ none := by
      rw [staging_eq ha hc hd he]
      exact Option.some_ne_none _
    have hun : c.Unmappable command ↔ ∃ e, ((c.staging data).mapData data).1 = .error e := by
      simp [Unmappable, hd, transfers]
    rw [hun, launch_transfer hd transfers]
    rw [← hactive] at hsome
    rcases hmap : (c.staging data).mapData data with ⟨e | ⟨address, length⟩, c'⟩
    · simp [finish_active]
    · have hissued : (if data.flags.isRead then
          c'.issueRead address length command.argument (c.wireWord command)
          else c'.issueWrite address length command.argument (c.wireWord command)).active =
          c'.active := by
        simp only [issueRead, issueWrite, writeAll_eq]
        split <;> rfl
      rw [hmap] at hsome
      rw [hissued]
      exact iff_of_false hsome (by simp)
  · have hun : ¬ c.Unmappable command := by
      rintro ⟨data, -, hd, transfers, -⟩
      exact ht ⟨data, hd, transfers⟩
    obtain ⟨accesses, bus, -, hl⟩ := launch_launches ha hc
    generalize c.launch command = c' at hl
    refine iff_of_false (fun idle => ?_) hun
    cases hl with
    | plain | idle =>
      rw [ha] at idle
      cases idle
    | read | write => cases idle
    | unstaged data _ hd transfers => exact ht ⟨data, hd, transfers⟩
    | refused data _ _ _ _ hd transfers => exact ht ⟨data, hd, transfers⟩

theorem launch_unmappable (ha : c.active = some a) (hc : a.current? = some command)
    (h : c.Unmappable command) :
    (c.launch command).tickets = delivered c.tickets (a.replace (unmapped command)) := by
  rw [← launch_active ha hc] at h
  obtain ⟨accesses, bus, -, hl⟩ := launch_launches ha hc
  obtain ⟨-, ⟨-, -, command', active, -⟩ | ⟨-, tickets, -⟩⟩ := hl.outcome ha hc
  · rw [h] at active
    cases active
  · exact tickets

end Controller

namespace Recorder

variable {H : Type} [Hardware H]

theorem log_reaches {b b' : Bus (Recorder H)} {accesses : List Access} (h : b.Reaches accesses b') :
    b'.hardware.log.toList = b.hardware.log.toList ++ accesses := by
  obtain ⟨memory, hp⟩ := h
  exact log_performs (b := { b with memory }) hp

end Recorder

def Ordered {H : Type} (s : System (Recorder H)) (l : Ledger) : Prop :=
  Agrees s l ∧ issued none s.parts.bus.hardware.log.toList = l.commands.map (·.wire)

namespace Ordered

variable {H : Type} [Hardware H]

theorem start (unit : UInt32) (board : Board) (options : Options) (hardware : H) :
    Ordered (System.start unit board options ({ inner := hardware } : Recorder H)) {} := by
  refine ⟨.start unit board options _, ?_⟩
  rw [System.start, Controller.attach_eq, Controller.writeAll_eq]
  have hlog := Recorder.log_performs (performs_writeAll
    (Controller.fresh unit board options ({ inner := hardware } : Recorder H)).bus
    (Controller.quiesce ++ Controller.powerOn board.soc))
  exact congrArg (issued none) hlog

theorem step {s : System (Recorder H)} {l : Ledger} (h : Ordered s l) (operation : Operation) :
    ∃ l', l.Step operation (s.step operation).1 l' ∧ Ordered (s.step operation).2 l' := by
  obtain ⟨l', accesses, rule, agrees, reaches, new, hl, hissued⟩ := h.1.step_accounted operation
  refine ⟨l', rule, agrees, ?_⟩
  rw [Recorder.log_reaches reaches, issued_append, h.2, hissued, hl, List.map_append]

end Ordered

/-- In every run, whatever the hardware does, the commands on the wire are those of the requests in the
order in which they were accepted, each command before its stop. A command is left out, and ends its
request, just if its data cannot be mapped. -/
theorem commands_in_order {H : Type} [Hardware H] (unit : UInt32) (board : Board)
    (options : Options) (hardware : H) (operations : List Operation) :
    let start := System.start unit board options ({ inner := hardware } : Recorder H)
    (∃ l, Accounts Ordered start {} operations (start.after operations) l) ∧
      ∀ (c : Controller H) (a : Active) (command : Command BufferId), c.active = some a →
        a.current? = some command →
        ((c.launch command).active = none ↔ c.Unmappable command) ∧
          (c.Unmappable command → (c.launch command).tickets =
            delivered c.tickets (a.replace (Controller.unmapped command))) := by
  intro start
  refine ⟨?_, fun c a command ha hc => ⟨Controller.launch_active ha hc,
    Controller.launch_unmappable ha hc⟩⟩
  exact Accounts.of_steps (fun s l operation h => h.step operation)
    (.start unit board options hardware) operations

/-- The first request cannot be mapped and is left out with its stop; of the second, the command goes over
the wire before its stop. -/
theorem commands_in_order_past_refused :
    let board := Board.reference .sam9g20
    let hardware : Scripted :=
      { status := Status.endReceive ||| Status.receiveFull ||| Status.commandReady
        nextFailure := some .exhausted }
    let transfer (argument : UInt32) : Request Bytes :=
      { command := {
          opcode := Opcode.readBlocks
          argument
          data := some { buffer := Bytes.zeros 512, flags := .read } }
        stop := some { opcode := Opcode.stopTransmission, argument := argument + 1 } }
    let operations := [.submit (transfer 1), .submit (transfer 3), .interrupt, .interrupt, .interrupt]
    let start := System.start 0 board .default ({ inner := hardware } : Recorder Scripted)
    let c := (Controller.attach 0 board .default hardware).take (transfer 1)
    let a := (Controller.attach 0 board .default hardware).accepted (transfer 1)
    let command := a.request.command
    (∃ l, Accounts Ordered start {} operations (start.after operations) l ∧
      l.commands.map (·.wire) = [(some 3, 18), (some 4, 12)]) ∧
      c.active = some a ∧ a.current? = some command ∧ c.Unmappable command ∧
      (c.launch command).active = none ∧
      (c.launch command).tickets = delivered c.tickets (a.replace (Controller.unmapped command)) := by
  intro board hardware transfer operations start c a command
  have h := commands_in_order 0 board .default hardware operations
  obtain ⟨l, run⟩ := h.1
  have wire : issued none (start.after operations).parts.bus.hardware.log.toList =
      [(some 3, 18), (some 4, 12)] := by decide +kernel
  have unmappable : c.Unmappable command := ⟨⟨1, .read, 0⟩, .exhausted, rfl, rfl, rfl⟩
  obtain ⟨ends, answers⟩ := h.2 c a command rfl rfl
  exact ⟨⟨l, run, run.final.2.symm.trans wire⟩, rfl, rfl, unmappable, ends.mpr unmappable,
    answers unmappable⟩

end CardHost
