import CardHost.Proofs.ClockPlan
import CardHost.Proofs.ModeFields
import CardHost.Proofs.Refusals
import CardHost.Proofs.Retentive
import CardHost.Proofs.Settled

namespace CardHost

open Bus

def BusWidth.lines (width : BusWidth) : UInt32 := if width = .four then Slot.fourWire else 0

theorem BusWidth.lines_and (width : BusWidth) : width.lines &&& Slot.fourWire = width.lines := by
  cases width <;> decide

def Clock.Plan.control : Clock.Plan → UInt32
  | .stopped => Control.off
  | .running _ _ => Control.on ||| Control.powerSave

structure Timing where
  board : Board
  options : Options
  bus : BusSettings
  request : UInt32

namespace Timing

def plan (t : Timing) : Clock.Plan := Clock.plan t.request t.board.masterClock t.options.overclock

def applied (t : Timing) : Timing := { t with bus.clock := t.plan.rate }

theorem plan_divider_and (t : Timing) : t.plan.divider &&& Mode.divider = t.plan.divider :=
  Mode.and_divider (Clock.divider_le ..)

end Timing

namespace Controller

variable {H : Type} [Hardware H] {c c' : Controller H} {a : Active} {command : Command BufferId}
  {bus : Bus H} {l : List Access}

omit [Hardware H] in
def timing (c : Controller H) : Timing := ⟨c.board, c.options, c.host.bus, c.clockRequest⟩

theorem timing_applySettings (c : Controller H) : c.applySettings.timing = c.timing.applied := rfl

omit [Hardware H] in
theorem Launches.timing (h : Launches c a command bus l c') : c'.timing = c.timing := by
  obtain ⟨tickets, active, mapped, rfl⟩ := h.frame
  rfl

theorem submit_timing (c : Controller H) (request : Request Bytes) :
    (c.submit request).2.timing = c.timing := by
  obtain ⟨bus, tickets, active, mapped, he⟩ := c.submit_frame request
  rw [he]
  rfl

theorem interrupt_timing (c : Controller H)
    (current : ∀ a, c.active = some a → a.current?.isSome = true) :
    c.interrupt.timing = c.timing := by
  obtain ⟨bus, tickets, active, mapped, he⟩ := c.interrupt_frame current
  rw [he]
  rfl

omit [Hardware H] in
theorem readProperty_timing (c : Controller H) (property : Property) :
    (c.readProperty property).2.timing = c.timing := by
  unfold readProperty
  split
  · rfl
  · dsimp only
    split <;> rfl

section Stored

variable [Retentive H]

theorem applySettings_stored (c : Controller H) :
    c.applySettings.bus.stored Register.mode =
        (c.bus.stored Register.mode &&& ~~~Mode.divider) ||| c.timing.plan.divider ∧
      c.applySettings.bus.stored Register.slot =
        (c.bus.stored Register.slot &&& ~~~Slot.fourWire) ||| c.host.bus.width.lines := by
  let switched := c.bus.write Register.control c.timing.plan.control
  have hswitched (r : Nat) (shared : Register.isShared r = true) :
      switched.stored r = c.bus.stored r := by
    refine (c.bus.stored_write ?_ shared).trans (if_neg ?_)
    · exact plan_steady c.timing.plan
    · rintro rfl
      cases shared
  let wide := if c.host.bus.width = .four then switched.stored Register.slot ||| Slot.fourWire
    else switched.stored Register.slot &&& ~~~Slot.fourWire
  let widened := (switched.read Register.slot).2.write Register.slot wide
  have hwidened (r : Nat) (shared : Register.isShared r = true) :
      widened.stored r = if Register.slot = r then wide else c.bus.stored r := by
    rw [← hswitched r shared, ← switched.stored_read Register.slot shared]
    exact stored_write _ rfl shared
  let divided := (widened.stored Register.mode &&& ~~~Mode.divider) ||| c.timing.plan.divider
  have happlied (r : Nat) (shared : Register.isShared r = true) :
      c.applySettings.bus.stored r = if Register.mode = r then divided else widened.stored r := by
    rw [← widened.stored_read Register.mode shared]
    exact stored_write _ rfl shared
  constructor
  · rw [happlied _ rfl, if_pos rfl]
    change (widened.stored Register.mode &&& ~~~Mode.divider) ||| c.timing.plan.divider = _
    rw [hwidened _ rfl]
    rfl
  · rw [happlied _ rfl, if_neg (by decide), hwidened _ rfl, if_pos rfl]
    change (if c.host.bus.width = .four then switched.stored Register.slot ||| Slot.fourWire
      else switched.stored Register.slot &&& ~~~Slot.fourWire) = _
    rw [hswitched _ rfl, BusWidth.lines]
    split
    · exact Bits.or_eq_replace _ _
    · exact UInt32.or_zero.symm

def commandMode (mode : UInt32) (length? : Option Nat) : UInt32 := length?.elim mode (blockMode mode)

theorem stored_preparation {b b' : Bus H} {mode : UInt32} {length : Nat}
    (hp : Performs b (preparation mode length ++ l) b') (spared : l.all Access.spares = true) :
    b'.stored Register.mode = blockMode (b.stored Register.mode) length ∧
      b'.stored Register.slot = b.stored Register.slot := by
  have hmode : mode = b.stored Register.mode := Performs.read_stored hp
  have steady : (preparation mode length ++ l).any Access.resets = false := by
    rw [List.any_append, resets_of_spares spared]
    rfl
  rw [hp.stored steady rfl, hp.stored steady rfl, List.foldl_append, List.foldl_append,
    foldl_storedAfter_spared spared rfl, foldl_storedAfter_spared spared rfl, ← hmode]
  exact ⟨rfl, rfl⟩

theorem Launches.stored (h : Launches c a command bus l c') (hp : Performs c.bus l bus) :
    bus.stored Register.mode = commandMode (c.bus.stored Register.mode)
        (command.data.map fun data => (c.buffer data.buffer).length) ∧
      bus.stored Register.slot = c.bus.stored Register.slot := by
  cases h with
  | plain data =>
    rw [data]
    exact ⟨hp.stored_spared rfl rfl, hp.stored_spared rfl rfl⟩
  | idle data mode data_eq =>
    rw [data_eq]
    exact stored_preparation hp rfl
  | read data mode address bytes data_eq =>
    rw [data_eq]
    exact stored_preparation hp rfl
  | write data mode address bytes length data_eq =>
    rw [data_eq]
    exact stored_preparation hp rfl
  | unstaged data mode data_eq =>
    rw [data_eq]
    rw [← List.append_nil (preparation _ _)] at hp
    exact stored_preparation hp rfl
  | refused data mode bytes direction error data_eq =>
    rw [data_eq]
    exact stored_preparation hp rfl

end Stored

end Controller

end CardHost
