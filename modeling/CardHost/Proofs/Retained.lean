import CardHost.Proofs.ChipLaunches
import CardHost.Proofs.Untouched
/-!
The data of a finished request stays as it is, whatever the controller does next. Nothing reaches a buffer
that is not mapped; and while one is left mapped, every transfer is refused, so that nothing is moved.
-/
namespace CardHost

namespace Active

theorem stop_buffers (a : Active) {stop : Command BufferId} (h : a.request.stop = some stop) :
    ∀ id ∈ stop.buffers, id ∈ a.request.buffers := by
  intro id hid
  rw [Request.buffers, h]
  exact List.mem_append_right _ hid

theorem current?_buffers (a : Active) {command : Command BufferId} (h : a.current? = some command) :
    ∀ id ∈ command.buffers, id ∈ a.request.buffers := by
  unfold current? at h
  split at h
  · cases h
    exact fun id hid => List.mem_append_left _ hid
  · exact a.stop_buffers h

theorem pending?_buffers (a : Active) {stop : Command BufferId} (h : a.pending? = some stop) :
    ∀ id ∈ stop.buffers, id ∈ a.request.buffers :=
  a.stop_buffers (Active.current?_of_pending h).2.1

end Active

namespace Controller

variable {c : Controller Simulator} {a : Active} {command : Command BufferId} {id : BufferId}

theorem launch_keeps_of_mapped (ha : c.active = some a) (hc : a.current? = some command)
    (mask : c.bus.hardware.mask = 0) (mapped : 0 < c.mapped) (bounce : c.bounce ≠ id) :
    (c.launch command).buffer id = c.buffer id := by
  cases transfers : command.transfers with
  | false =>
    obtain ⟨armed, -, hlaunch⟩ := c.launch_quiet mask transfers
    obtain ⟨goesOn, t, responds⟩ := armed.responds (c.wireWord command)
    obtain rfl : goesOn = false := responds.quiet (c.wireWord_starts_nothing command transfers)
    rw [hlaunch t responds]
    rfl
  | true =>
    cases hd : command.data with
    | none =>
      rw [Command.transfers, hd] at transfers
      cases transfers
    | some data =>
      rw [Command.transfers, hd] at transfers
      obtain ⟨e, fails⟩ := staging_refused ha hc hd (.inl (.inl mapped))
      obtain ⟨memory, -, others, hlaunch⟩ := launch_failed_simulated ha hc hd transfers fails
      rw [hlaunch]
      exact others id bounce.symm

/-- A buffer that no transfer can reach: it is not the bounce buffer, and it is not mapped, unless it was
left mapped before. -/
structure Sealed (c : Controller Simulator) (id : BufferId) : Prop where
  bounce : c.bounce ≠ id
  mapping : (∀ m, c.bus.mapping = some m → m.buffer ≠ id) ∨ c.Balanced true

def Retains (id : BufferId) (c c' : Controller Simulator) : Prop :=
  c'.Sealed id ∧ c'.buffer id = c.buffer id

theorem Spares.retains {c' : Controller Simulator} (h : Spares id c c') (apart : c.Apart id) :
    Retains id c c' := by
  obtain ⟨apart', hget⟩ := h apart
  exact ⟨⟨apart'.bounce, .inl apart'.mapping⟩, hget⟩

theorem Rests.launch_retains {left : Bool} (rests : c.Rests left) (bounce : c.bounce ≠ id)
    (ha : c.active = some a) (hc : a.current? = some command) (other : id ∉ command.buffers) :
    Retains id c (c.launch command) := by
  cases left with
  | false =>
    have unmapped : c.bus.mapping = none :=
      Option.not_isSome_iff_eq_none.mp (Bool.eq_false_iff.mp rests.mapping)
    refine (c.spares_launch other).retains ⟨bounce, fun m hm => ?_⟩
    rw [unmapped] at hm
    cases hm
  | true =>
    obtain ⟨l, bus, hp, hl⟩ := launch_launches (c := c) ha hc
    have mapped : 0 < c.mapped := by
      rw [rests.count, rests.mapping]
      decide
    have hbounce : (c.launch command).bounce = c.bounce := by
      generalize c.launch command = c' at hl
      cases hl <;> rfl
    refine ⟨⟨by rw [hbounce]; exact bounce, .inr (hl.balanced rests hp ha)⟩, ?_⟩
    exact launch_keeps_of_mapped ha hc rests.mask mapped bounce

theorem Sealed.submit (h : c.Sealed id) {left : Bool} (balanced : c.Balanced left)
    (there : id < c.bus.memory.buffers.size) (request : Request Bytes) :
    Retains id c (c.submit request).2 := by
  rw [submit_eq]
  split
  · exact ⟨h, rfl⟩
  · split
    · exact ⟨h, rfl⟩
    · next free =>
      have hr := balanced.rests (Option.not_isSome_iff_eq_none.mp free)
      have taken : (c.take request).Rests left := ⟨hr.count, hr.mask, hr.mapping⟩
      have other : id ∉ (c.accepted request).request.command.buffers := by
        intro hid
        have placed : id ∈ (c.bus.memory.place request).1.buffers := List.mem_append_left _ hid
        rw [c.bus.memory.place_buffers, List.mem_range'_1] at placed
        exact Nat.not_lt_of_le placed.1 there
      obtain ⟨after, hget⟩ := taken.launch_retains h.bounce rfl rfl other
      exact ⟨after, hget.trans ((c.bus.memory.place_extends request).2 id there)⟩

theorem Works.conclude_retains {stage : Stage} (works : c.Works true stage) (bounce : c.bounce ≠ id)
    (ha : c.active = some a) (hc : a.current? = some command)
    (pending : ∀ stop, a.pending? = some stop → id ∉ stop.buffers) (found : Command BufferId)
    (error : Option CommandError) : Retains id c (c.conclude found error) := by
  rw [conclude_simulated found error ha hc]
  generalize answered command error _ = last
  generalize hended : c.proceed { c.bus with hardware := { c.bus.hardware with mask := 0 } } c.mapped
    (a.replace last) = ended
  have rests : ended.Rests true := by
    rw [← hended]
    exact ⟨works.count, rfl, works.mapping⟩
  have hactive : ended.active = some (a.replace last) := by rw [← hended]; rfl
  have hbounce : ended.bounce ≠ id := by rw [← hended]; exact bounce
  have hbuffer : ended.buffer id = c.buffer id := by rw [← hended]; rfl
  rw [advance_eq hactive]
  cases hpending : (a.replace last).pending? with
  | none => exact ⟨⟨hbounce, .inr (Rests.balanced ⟨rests.count, rests.mask, rests.mapping⟩ rfl)⟩, hbuffer⟩
  | some stop =>
    have hstop := (Active.current?_of_pending hpending).2.1
    rw [Active.pending?_replace] at hpending
    have stopping : ({ ended with active := some { a.replace last with phase := .stop } } :
        Controller Simulator).Rests true := ⟨rests.count, rests.mask, rests.mapping⟩
    have hcurrent : ({ a.replace last with phase := .stop } : Active).current? = some stop :=
      hstop
    obtain ⟨after, hget⟩ := stopping.launch_retains hbounce rfl hcurrent (pending stop hpending)
    exact ⟨after, hget.trans hbuffer⟩

theorem interrupt_resting {left : Bool} (attached : c.detached = false) (idle : c.active = none)
    (rests : c.Rests left) : c.interrupt = c := by
  rw [interrupt_idle attached idle, ← show c.bus.hardware.mask = 0 from rests.mask]

theorem Steady.sealed (h : c.Steady) (idle : c.active = none) (bounce : c.bounce ≠ id) : c.Sealed id := by
  obtain ⟨left, balanced⟩ := h.balanced
  refine ⟨bounce, ?_⟩
  cases left with
  | true => exact .inr balanced
  | false =>
    have unmapped := Option.not_isSome_iff_eq_none.mp (Bool.eq_false_iff.mp (balanced.rests idle).mapping)
    refine .inl fun m hm => ?_
    rw [unmapped] at hm
    cases hm

theorem interrupt_quiet (attached : c.detached = false) (steady : c.Steady)
    (current : ∀ a, c.active = some a → a.current?.isSome = true)
    (quiet : InterruptLine.asserted c.bus.hardware = false) : c.interrupt = c := by
  obtain ⟨left, balanced⟩ := steady.balanced
  cases ha : c.active with
  | none => exact interrupt_resting attached ha (balanced.rests ha)
  | some a =>
    obtain ⟨command, hc⟩ := Option.isSome_iff_exists.mp (current a ha)
    obtain ⟨stage, works⟩ := balanced.works a ha
    have hcurrent : c.current? = some command := current?_of_active ha hc
    rw [asserted_stage works.mask, Bool.or_eq_false_iff] at quiet
    rw [interrupt_stage attached hcurrent works.mask, quiet.1, quiet.2]
    rfl

theorem Works.interrupt_retains {stage : Stage} (works : c.Works true stage) (bounce : c.bounce ≠ id)
    (attached : c.detached = false) (ha : c.active = some a) (hc : a.current? = some command)
    (pending : ∀ stop, a.pending? = some stop → id ∉ stop.buffers) : Retains id c c.interrupt := by
  have hcurrent : c.current? = some command := current?_of_active ha hc
  have mapped : c.mapped = 1 := by
    rw [works.count, works.mapping]
    rfl
  have waits : stage.isData = false := Bool.eq_false_iff.mpr fun data =>
    Bool.noConfusion (works.free data)
  have proceeds (next : Stage) (late : next.isData = false) :
      Retains id c { c with bus := { c.bus with hardware := { c.bus.hardware with mask := next.mask } } } := by
    refine ⟨⟨bounce, .inr (Works.balanced next ⟨works.count, rfl, ?_, ?_⟩ ha)⟩, rfl⟩
    · exact works.mapping
    · rw [late]
      exact fun data => Bool.noConfusion data
  have hmask := works.mask
  rw [interrupt_stage attached hcurrent hmask]
  split
  · unfold serveError
    split
    · have unmapped : c.unload = { c with bus := { c.bus with mapping := none }, mapped := 0 } :=
        unload_simulated mapped
      have apart : c.unload.Apart id := by
        rw [unmapped]
        exact ⟨bounce, by simp⟩
      have hactive : c.unload.active = some a := by
        rw [unmapped]
        exact ha
      have hbuffer : c.unload.buffer id = c.buffer id := by
        rw [unmapped]
        rfl
      obtain ⟨after, hget⟩ := (spares_conclude hactive hc pending command _).retains apart
      exact ⟨after, hget.trans hbuffer⟩
    · exact works.conclude_retains bounce ha hc pending command none
  · split
    · cases stage with
      | receiving | sending => cases waits
      | filling =>
        rw [serveStage_settles (.inl rfl) hmask]
        exact proceeds .ready rfl
      | settling =>
        rw [serveStage_settles (.inr rfl) hmask]
        exact proceeds .ready rfl
      | ready => exact works.conclude_retains bounce ha hc pending command none
    · exact ⟨⟨bounce, .inr (works.balanced stage ha)⟩, rfl⟩

theorem Sealed.interrupt (h : c.Sealed id) (steady : c.Steady)
    (current : ∀ a, c.active = some a → a.current?.isSome = true)
    (other : ∀ a, c.active = some a → id ∉ a.request.buffers) : Retains id c c.interrupt := by
  by_cases hd : c.detached = true
  · rw [Controller.interrupt, if_pos hd]
    exact ⟨h, rfl⟩
  have attached : c.detached = false := Bool.of_not_eq_true hd
  cases ha : c.active with
  | none =>
    obtain ⟨left, balanced⟩ := steady.balanced
    rw [interrupt_resting attached ha (balanced.rests ha)]
    exact ⟨h, rfl⟩
  | some a =>
    obtain ⟨command, hc⟩ := Option.isSome_iff_exists.mp (current a ha)
    have hcommand : id ∉ command.buffers := fun hid => other a ha (a.current?_buffers hc id hid)
    have pending : ∀ stop, a.pending? = some stop → id ∉ stop.buffers :=
      fun stop hstop hid => other a ha (a.pending?_buffers hstop id hid)
    rcases h.mapping with mapping | left
    · exact (spares_interrupt attached ha hc hcommand pending).retains ⟨h.bounce, mapping⟩
    · obtain ⟨stage, works⟩ := left.works a ha
      exact works.interrupt_retains h.bounce attached ha hc pending

end Controller

end CardHost
