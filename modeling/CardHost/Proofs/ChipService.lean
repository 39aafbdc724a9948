import CardHost.Proofs.ChipPeers

namespace CardHost

open Bus

theorem Active.mem_buffers {a : Active} {command : Command BufferId} {data : Payload BufferId}
    (hc : a.current? = some command) (hd : command.data = some data) :
    data.buffer ∈ a.request.buffers := by
  have hmem : data.buffer ∈ command.buffers := by simp [Command.buffers, hd]
  obtain ⟨ticket, ⟨first, stop⟩, phase⟩ := a
  cases phase with
  | command =>
    cases hc
    exact List.mem_append_left _ hmem
  | stop =>
    obtain rfl : stop = some command := hc
    exact List.mem_append_right _ hmem

namespace Controller

open Simulator

variable {c c' : Controller Simulator} {a : Active} {command : Command BufferId}

def Counted (c : Controller Simulator) : Prop := c.mapped = if c.bus.mapping.isSome then 1 else 0

theorem Twins.advance (h : c.Twins c') (clear : c.Clear) (clear' : c'.Clear)
    (tidy : c.Tidy (c.board.soc.Unlike c'.board.soc)) (ha : c.active = some a) :
    c.advance.Peers c'.advance := by
  rw [advance_eq ha, advance_eq (h.active.trans ha)]
  obtain ⟨soc, bus, rfl⟩ := h.same
  cases pending : a.pending? with
  | none =>
    exact Twins.peers ⟨⟨⟨soc, bus, rfl⟩, h.view, h.size, h.orderly⟩, h.contents⟩ 0 clear.mask (by decide)
  | some stop =>
    have hstop : a.request.stop = some stop := by
      unfold Active.pending? at pending
      split at pending
      · exact pending
      · cases pending
    have twins : ({ c with active := some { a with phase := .stop } } : Controller Simulator).Twins _ :=
      ⟨⟨⟨soc, bus, rfl⟩, h.view, h.size, h.orderly⟩, h.contents⟩
    refine twins.launch ⟨⟨clear.settled.still, clear.settled.soc, clear.settled.bounce⟩, clear.count,
      clear.mask⟩ ⟨⟨clear'.settled.still, clear'.settled.soc, clear'.settled.bounce⟩, clear'.count,
      clear'.mask⟩ rfl (a.current?_stop.trans hstop) ((tidy.portable a ha).stop stop hstop) ?_
    intro data hd
    have hcurrent : ({ a with phase := .stop } : Active).current? = some stop :=
      a.current?_stop.trans hstop
    exact tidy.own a ha data.buffer (@Active.mem_buffers { a with phase := .stop } _ _ hcurrent hd)

theorem Twins.conclude (h : c.Twins c') (settled : c.Settled) (settled' : c'.Settled)
    (counted : c.Counted) (counted' : c'.Counted) (tidy : c.Tidy (c.board.soc.Unlike c'.board.soc))
    (ha : c.active = some a) (hc : a.current? = some command) (error : Option CommandError) :
    (c.conclude command error).Peers (c'.conclude command error) := by
  have hwords : responseWords { c'.bus.hardware with mask := 0 } 0 command.flags.words =
      responseWords { c.bus.hardware with mask := 0 } 0 command.flags.words := by
    have hview := congrArg View.response (view_mask h.view 0)
    rw [← responseWords_take _ command.flags.words_le, ← responseWords_take _ command.flags.words_le]
    exact congrArg (List.take command.flags.words) hview
  rw [conclude_simulated command error ha hc, conclude_simulated command error (h.active.trans ha) hc,
    hwords]
  generalize hlast : answered command error _ = last
  have blank : last.blank = command.blank := by rw [← hlast]; rfl
  have still {s : Simulator} (h : s.Still) : ({ s with mask := 0 } : Simulator).Still :=
    ⟨h.arrived, h.awaited, h.line, h.receiveNext, h.transmitNext⟩
  have clear {c : Controller Simulator} (settled : c.Settled) (counted : c.Counted) :
      (c.proceed { c.bus with hardware := { c.bus.hardware with mask := 0 } } c.mapped
        (a.replace last)).Clear :=
    ⟨⟨still settled.still, settled.soc, settled.bounce⟩, counted, rfl⟩
  refine Twins.advance ?_ (clear settled counted) (clear settled' counted') ?_ rfl
  · refine ⟨⟨?_, view_mask h.view 0, h.size, h.orderly.of_eq rfl rfl rfl⟩, h.contents⟩
    obtain ⟨soc, bus, rfl⟩ := h.same
    exact ⟨soc, _, rfl⟩
  · exact tidy.work ha rfl (Active.blank_replace hc blank) rfl rfl (.refl _)

theorem Peers.observed (h : c.Peers c') {stage : Stage} (mask : c.bus.hardware.mask = stage.mask)
    (opcode : UInt32) :
    CommandError.ofStatus? c'.observed opcode = CommandError.ofStatus? c.observed opcode := by
  rw [ofStatus?_observed mask, ofStatus?_observed (h.mask.trans mask), h.latched]

theorem Peers.anyBit_status (h : c.Peers c') (still : c.bus.hardware.Still)
    (still' : c'.bus.hardware.Still) {stage : Stage} (mask : c.bus.hardware.mask = stage.mask)
    (clean : anyBit c.bus.hardware.latched Status.errors = false) :
    anyBit c'.bus.hardware.status stage.bit = anyBit c.bus.hardware.status stage.bit := by
  have hcount : c'.bus.hardware.register Register.receiveCount =
      c.bus.hardware.register Register.receiveCount := congrArg View.receiveCount h.view
  rw [Bool.eq_iff_iff, still'.anyBit_status_iff, still.anyBit_status_iff, h.latched]
  have hended : c'.bus.hardware.hasEnded stage ↔ c.bus.hardware.hasEnded stage := by
    cases stage with
    | receiving | filling =>
      unfold Simulator.hasEnded
      rw [hcount]
    | sending => exact h.sent mask clean
    | settling => exact Iff.rfl
    | ready =>
      unfold Simulator.hasEnded
      rw [h.latched]
  rw [hended]

theorem Twins.unload (h : c.Twins c') : c.unload.Twins c'.unload := by
  unfold Controller.unload
  rw [h.mapped]
  split
  · exact h
  · refine ⟨⟨?_, h.view, h.size, h.orderly⟩, h.contents⟩
    obtain ⟨soc, bus, rfl⟩ := h.same
    exact ⟨soc, _, rfl⟩

theorem Counted.unload (h : c.Counted) : c.unload.Counted := by
  unfold Controller.unload
  split
  · exact h
  · next held =>
    unfold Counted at h ⊢
    split at h
    · rw [h]
      rfl
    · exact (held h).elim

theorem Settled.unload (h : c.Settled) : c.unload.Settled := by
  unfold Controller.unload
  split
  · exact h
  · exact ⟨h.still, h.soc, h.bounce⟩

theorem Tidy.unload {mixed : Prop} (h : c.Tidy mixed) : c.unload.Tidy mixed := by
  unfold Controller.unload
  split
  · exact h
  · exact h.keeps rfl rfl rfl (.refl _)

theorem active_unload (c : Controller Simulator) : c.unload.active = c.active := by
  unfold Controller.unload
  split <;> rfl

theorem board_unload (c : Controller Simulator) : c.unload.board = c.board := by
  unfold Controller.unload
  split <;> rfl

theorem Twins.serveError (h : c.Twins c') (settled : c.Settled) (settled' : c'.Settled)
    (counted : c.Counted) (counted' : c'.Counted) (tidy : c.Tidy (c.board.soc.Unlike c'.board.soc))
    (ha : c.active = some a) (hc : a.current? = some command)
    (observed : CommandError.ofStatus? c'.observed command.opcode =
      CommandError.ofStatus? c.observed command.opcode) :
    (c.serveError command c.observed).Peers (c'.serveError command c'.observed) := by
  unfold Controller.serveError
  rw [observed]
  cases CommandError.ofStatus? c.observed command.opcode with
  | none => exact h.conclude settled settled' counted counted' tidy ha hc none
  | some e =>
    have htidy : c.unload.Tidy (c.unload.board.soc.Unlike c'.unload.board.soc) := by
      rw [c.board_unload, c'.board_unload]
      exact tidy.unload
    exact h.unload.conclude settled.unload settled'.unload counted.unload counted'.unload htidy
      (c.active_unload.trans ha) hc (some e)

theorem accounted_eq {c c' : Controller Simulator}
    (length : ∀ data, command.data = some data →
      (c'.buffer data.buffer).length = (c.buffer data.buffer).length) :
    c'.accounted command = c.accounted command := by
  unfold accounted
  cases hd : command.data with
  | none => rfl
  | some data => rw [Option.map_some, Option.map_some, length data hd]

theorem arrived_of_ended (mask : c.bus.hardware.mask = Stage.receiving.mask)
    (clean : anyBit c.bus.hardware.latched Status.errors = false) (orderly : c.bus.hardware.Orderly)
    (still : c.bus.hardware.Still)
    (ended : anyBit c.bus.hardware.status Stage.receiving.bit = true) : c.bus.hardware.view.Arrived :=
  ⟨mask, clean, (orderly.anyBit_status still .receiving).mp ended⟩

theorem ordered_of_arrived (arrived : c.bus.hardware.view.Arrived) (ha : c.active = some a)
    (hc : a.current? = some command) :
    c.ordered = (command.data.map (·.buffer)).elim c.bus.memory (c.bus.memory.restored c.board.soc) := by
  rw [ordered, unordered?, if_pos arrived, current?, ha, Option.bind_some, hc, Option.bind_some]

theorem Peers.serveStage (h : c.Peers c') (settled : c.Settled) (settled' : c'.Settled)
    (counted : c.Counted) (counted' : c'.Counted) (tidy : c.Tidy (c.board.soc.Unlike c'.board.soc))
    (ha : c.active = some a) (hc : a.current? = some command) {stage : Stage}
    (mask : c.bus.hardware.mask = stage.mask) (data : stage.isData = true → c.mapped = 1)
    (clean : anyBit c.bus.hardware.latched Status.errors = false)
    (ended : anyBit c.bus.hardware.status stage.bit = true) :
    (c.serveStage command stage).Peers (c'.serveStage command stage) := by
  have mask' := h.mask.trans mask
  have ha' := h.active.trans ha
  have haccounted : c'.accounted command = c.accounted command :=
    accounted_eq fun data hd => h.length (tidy.own a ha _ (Active.mem_buffers hc hd)).1
  have hturned (stage : Stage) : (c'.bus.hardware.turned stage).view =
      (c.bus.hardware.turned stage).view := view_mask h.view stage.mask
  have waits (other : stage ≠ .receiving) : c.Twins c' := by
    refine h.twins fun arrived => ?_
    have hstage : stage.mask = Stage.receiving.mask := mask.symm.trans arrived.1
    cases stage with
    | receiving => exact other rfl
    | _ => exact absurd hstage (by decide)
  cases stage with
  | receiving =>
    -- the handler puts the buffer into the order that it was taken to be in already
    have arrived := arrived_of_ended mask clean h.orderly settled.still ended
    have hordered := ordered_of_arrived arrived ha hc
    have hordered' := ordered_of_arrived (h.view.symm ▸ arrived) ha' hc
    simp only [Controller.serveStage]
    rw [serveReceived_ordered ha hc (data rfl) mask,
      serveReceived_ordered ha' hc (h.mapped.trans (data rfl)) mask', haccounted, ← hordered, ← hordered']
    refine Twins.peers ⟨⟨?_, hturned .filling, ?_, h.orderly.of_eq rfl rfl rfl⟩, h.contents⟩
      Stage.filling.mask rfl (by decide)
    · obtain ⟨soc, bus, rfl⟩ := h.same
      exact ⟨soc, _, rfl⟩
    · exact (c'.ordered_alike.1.trans h.size).trans c.ordered_alike.1.symm
  | filling =>
    have twins := waits (by decide)
    rw [serveStage_settles (.inl rfl) mask, serveStage_settles (.inl rfl) mask']
    refine Twins.peers ⟨⟨?_, view_mask h.view _, h.size, h.orderly.of_eq rfl rfl rfl⟩, twins.contents⟩
      Stage.ready.mask rfl (by decide)
    obtain ⟨soc, bus, rfl⟩ := h.same
    exact ⟨soc, _, rfl⟩
  | sending =>
    have twins := waits (by decide)
    simp only [Controller.serveStage]
    rw [serveSent_simulated ha hc (data rfl) mask,
      serveSent_simulated ha' hc (h.mapped.trans (data rfl)) mask', haccounted]
    refine Twins.peers ⟨⟨?_, hturned .settling, h.size, h.orderly.of_eq rfl rfl rfl⟩, twins.contents⟩
      Stage.settling.mask rfl (by decide)
    obtain ⟨soc, bus, rfl⟩ := h.same
    exact ⟨soc, _, rfl⟩
  | settling =>
    have twins := waits (by decide)
    rw [serveStage_settles (.inr rfl) mask, serveStage_settles (.inr rfl) mask']
    refine Twins.peers ⟨⟨?_, view_mask h.view _, h.size, h.orderly.of_eq rfl rfl rfl⟩, twins.contents⟩
      Stage.ready.mask rfl (by decide)
    obtain ⟨soc, bus, rfl⟩ := h.same
    exact ⟨soc, _, rfl⟩
  | ready => exact (waits (by decide)).conclude settled settled' counted counted' tidy ha hc none

theorem Peers.interrupt (h : c.Peers c') (steady : c.Steady) (steady' : c'.Steady)
    (settled : c.Settled) (settled' : c'.Settled) (tidy : c.Tidy (c.board.soc.Unlike c'.board.soc))
    (current : ∀ a, c.active = some a → a.current?.isSome = true) :
    c.interrupt.Peers c'.interrupt := by
  by_cases hd : c.detached = true
  · rw [Controller.interrupt, Controller.interrupt, if_pos hd, if_pos (h.detached.trans hd)]
    exact h
  have attached : c.detached = false := Bool.eq_false_iff.mpr hd
  have attached' : c'.detached = false := h.detached.trans attached
  obtain ⟨left, balanced⟩ := steady.balanced
  obtain ⟨left', balanced'⟩ := steady'.balanced
  cases ha : c.active with
  | none =>
    have resting : ¬ c.bus.hardware.view.Arrived := fun arrived =>
      absurd ((balanced.rests ha).mask.symm.trans arrived.1) (by decide)
    have twins := h.twins resting
    rw [interrupt_idle attached ha, interrupt_idle attached' (h.active.trans ha)]
    refine Twins.peers ⟨⟨?_, view_mask h.view 0, h.size, h.orderly.of_eq rfl rfl rfl⟩, twins.contents⟩ 0 rfl
      (by decide)
    obtain ⟨soc, bus, rfl⟩ := h.same
    exact ⟨soc, _, rfl⟩
  | some a =>
    have ha' := h.active.trans ha
    obtain ⟨command, hc⟩ := Option.isSome_iff_exists.mp (current a ha)
    have hcurrent : c.current? = some command := current?_of_active ha hc
    have hcurrent' : c'.current? = some command := current?_of_active ha' hc
    obtain ⟨stage, works⟩ := balanced.works a ha
    obtain ⟨stage', works'⟩ := balanced'.works a ha'
    have mask : c.bus.hardware.mask = stage.mask := works.mask
    rw [interrupt_stage attached hcurrent mask, interrupt_stage attached' hcurrent' (h.mask.trans mask),
      h.latched]
    by_cases faulty : anyBit c.bus.hardware.latched Status.errors = true
    -- no data has arrived with an error, so every buffer lies in order
    · rw [if_pos faulty, if_pos faulty]
      have twins := h.twins fun arrived => by
        cases faulty.symm.trans arrived.2.1
      exact twins.serveError settled settled' works.count works'.count tidy ha hc
        (h.observed mask command.opcode)
    · have clean := Bool.eq_false_iff.mpr faulty
      rw [if_neg faulty, if_neg faulty, h.anyBit_status settled.still settled'.still mask clean]
      split
      · next ended =>
        have hdata (isData : stage.isData = true) : c.mapped = 1 := by
          rw [works.count, works.mapping, isData, Bool.or_true]
          rfl
        exact h.serveStage settled settled' works.count works'.count tidy ha hc mask hdata clean ended
      · exact h

end Controller

end CardHost
