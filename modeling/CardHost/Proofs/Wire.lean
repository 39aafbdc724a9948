import CardHost.Proofs.CommandWords
import CardHost.Proofs.Ledger

namespace CardHost

def Access.issues : Access → Bool
  | .write offset _ => offset == Register.command
  | _ => false

def issued : Option UInt32 → List Access → List (Option UInt32 × Nat)
  | _, [] => []
  | argument, .write offset value :: rest =>
    if offset = Register.argument then issued (some value) rest
    else if offset = Register.command then (argument, value.toNat % 64) :: issued argument rest
    else issued argument rest
  | argument, _ :: rest => issued argument rest

def lastArgument : Option UInt32 → List Access → Option UInt32
  | argument, [] => argument
  | argument, .write offset value :: rest =>
    lastArgument (if offset = Register.argument then some value else argument) rest
  | argument, _ :: rest => lastArgument argument rest

theorem issued_append (argument : Option UInt32) (l l' : List Access) :
    issued argument (l ++ l') = issued argument l ++ issued (lastArgument argument l) l' := by
  induction l generalizing argument with
  | nil => rfl
  | cons access rest ih =>
    cases access with
    | write offset value =>
      simp only [List.cons_append, issued, lastArgument]
      split
      · exact ih _
      · split
        · rw [ih, List.cons_append]
        · exact ih _
    | _ => exact ih _

def Mute (l : List Access) : Prop := ∀ argument, issued argument l = []

theorem Mute.append {l l' : List Access} (h : Mute l) (h' : Mute l') : Mute (l ++ l') := by
  intro argument
  rw [issued_append, h, h', List.append_nil]

theorem issued_mute {l l' : List Access} {commands : List (Option UInt32 × Nat)} (h : Mute l)
    (h' : ∀ argument, issued argument l' = commands) (argument : Option UInt32) :
    issued argument (l ++ l') = commands := by
  rw [issued_append, h, h', List.nil_append]

theorem mute_of_all {l : List Access} (h : l.all (!·.issues) = true) : Mute l := by
  induction l with
  | nil => exact fun _ => rfl
  | cons access rest ih =>
    obtain ⟨quiet, hrest⟩ := Bool.and_eq_true_iff.mp h
    intro argument
    cases access with
    | write offset value =>
      have other : offset ≠ Register.command := by simpa [Access.issues] using quiet
      simp only [issued, other, if_false]
      split <;> exact ih hrest _
    | _ => exact ih hrest _

theorem mute_of_serves {l : List Access} (h : l.all Access.serves = true) : Mute l :=
  mute_of_all (Access.all_of_serves (fun _ => rfl) (fun _ => rfl) rfl (fun _ _ => rfl)
    (fun _ _ _ => rfl) (fun _ => rfl) rfl h)

def Command.wire {B : Type} (command : Command B) : Option UInt32 × Nat :=
  (some command.argument, command.opcode.toNat % 64)

def Request.wires {B : Type} (r : Request B) : (Option UInt32 × Nat) × Option (Option UInt32 × Nat) :=
  (r.command.wire, r.stop.map (·.wire))

@[simp] theorem Request.wires_blank {B : Type} (r : Request B) : r.blank.wires = r.wires := by
  cases h : r.stop <;> simp [wires, blank, h, Command.wire, Command.blank]

@[simp] theorem Request.wires_map {B C : Type} (f : B → C) (r : Request B) :
    (r.map f).wires = r.wires := by
  cases h : r.stop <;> simp [wires, map, h, Command.wire, Command.map]

namespace Controller

variable {H : Type} {c : Controller H}

theorem mute_ending (words : List UInt32) : Mute (ending words) :=
  mute_of_serves (all_ending rfl (fun _ _ => rfl) words)

theorem mute_stageAccesses (status : UInt32) (mapped : Nat) : Mute (stageAccesses status mapped) :=
  mute_of_serves (Access.serves_of_tends (tends_stageAccesses status mapped))

theorem Ends.mute [Hardware H] {command last : Command BufferId} {status : UInt32}
    {l : List Access} {mapped : Nat} {error : Option CommandError}
    (h : c.Ends command status l mapped last error) : Mute l :=
  mute_of_serves (Access.serves_of_tends h.tends)

theorem Quiet.mute {l : List Access} (h : Quiet c l) : Mute l := by
  cases h with
  | still => exact fun _ => rfl
  | programs => exact fun _ => rfl
  | quiesces => exact fun _ => rfl

theorem wireWord_wire (c : Controller H) (command : Command BufferId) :
    (some command.argument, (c.wireWord command).toNat % 64) = command.wire := by
  rw [Command.wire, ← CommandWord.toNat_number, ← CommandWord.toNat_number, wireWord_number]

variable {c' : Controller H} {a : Active} {command : Command BufferId}

theorem Launches.outcome {bus : Bus H} {l : List Access} (ha : c.active = some a)
    (hc : a.current? = some command) (h : Launches c a command bus l c') :
    c'.bus = bus ∧
      ((∀ argument, issued argument l = [command.wire]) ∧
        c'.tickets = c.tickets ∧
        (∃ command', c'.active = some (a.replace command') ∧ command'.blank = command.blank) ∨
      (Mute l ∧ c'.tickets = delivered c.tickets (a.replace (unmapped command)) ∧
        c'.active = none)) := by
  have self : c.active = some (a.replace command) := by rw [ha, Active.replace_current hc]
  have wire : [(some command.argument, (c.wireWord command).toNat % 64)] = [command.wire] :=
    congrArg ([·]) (c.wireWord_wire command)
  cases h with
  | plain => exact ⟨rfl, .inl ⟨fun _ => wire, rfl, command, self, rfl⟩⟩
  | idle data mode =>
    refine ⟨rfl, .inl ⟨fun _ => wire, rfl, command, self, rfl⟩⟩
  | read data mode address bytes =>
    exact ⟨rfl, .inl ⟨fun _ => wire, rfl, _, rfl, blank_restaged command⟩⟩
  | write data mode address bytes length =>
    exact ⟨rfl, .inl ⟨fun _ => wire, rfl, _, rfl, blank_restaged command⟩⟩
  | unstaged data mode => exact ⟨rfl, .inr ⟨fun _ => rfl, rfl, rfl⟩⟩
  | refused data mode bytes direction error => exact ⟨rfl, .inr ⟨fun _ => rfl, rfl, rfl⟩⟩

theorem Launches.stays {bus : Bus H} {l : List Access} (ha : c.active = some a)
    (hc : a.current? = some command) (h : Launches c a command bus l c') {a' : Active}
    (ha' : c'.active = some a') : ∃ command', a' = a.replace command' ∧ command'.blank = command.blank := by
  obtain ⟨-, ⟨-, -, command', active, blank⟩ | ⟨-, -, idle⟩⟩ := h.outcome ha hc
  · rw [active] at ha'
    exact ⟨command', (Option.some.inj ha').symm, blank⟩
  · rw [idle] at ha'
    cases ha'

theorem Launches.size_tickets {bus : Bus H} {l : List Access} (ha : c.active = some a)
    (hc : a.current? = some command) (h : Launches c a command bus l c') :
    c'.tickets.size = c.tickets.size := by
  obtain ⟨-, ⟨-, tickets, -⟩ | ⟨-, tickets, -⟩⟩ := h.outcome ha hc
  · rw [tickets]
  · rw [tickets, delivered, Array.size_modify]

end Controller

end CardHost
