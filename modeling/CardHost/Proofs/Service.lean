import CardHost.Proofs.Placement

namespace CardHost

namespace Active

def outline (a : Active) : Nat × Request BufferId := (a.ticket, a.request.blank)

theorem outline_replace {a : Active} {command command' : Command BufferId}
    (current : a.current? = some command) (same : command'.blank = command.blank) :
    (a.replace command').outline = a.outline :=
  Prod.ext (ticket_replace a command') (blank_replace current same)

theorem of_outline {a a' : Active} (h : a'.outline = a.outline) :
    a'.ticket = a.ticket ∧ a'.request.blank = a.request.blank := Prod.mk.inj h

end Active

namespace Controller

variable {H : Type} {c c' : Controller H}

inductive Progresses (c : Controller H) : Controller H → Prop
  | waits (bus : Bus H) (mapped : Nat) (active : Option Active)
    (same : active.map (·.outline) = c.active.map (·.outline)) :
    Progresses c { c with bus, mapped, active }
  | ends (bus : Bus H) (mapped : Nat) {a : Active} (result : Active) (served : c.active = some a)
    (same : result.outline = a.outline) :
    Progresses c { c with bus, mapped, active := none, tickets := delivered c.tickets result }

theorem Launches.progresses {a : Active} {command : Command BufferId} {bus : Bus H} {l : List Access}
    (active : c.active = some a) (current : a.current? = some command)
    (h : Launches c a command bus l c') : c.Progresses c' := by
  have same {last : Command BufferId} (blank : last.blank = command.blank) :
      (some (a.replace last)).map (·.outline) = c.active.map (·.outline) := by
    rw [active]
    exact congrArg some (Active.outline_replace current blank)
  cases h with
  | plain => exact .waits bus c.mapped c.active rfl
  | idle => exact .waits bus c.mapped c.active rfl
  | read => exact .waits bus 1 _ (same (blank_restaged command))
  | write => exact .waits bus 1 _ (same (blank_restaged command))
  | unstaged =>
    exact .ends bus c.mapped _ active (Active.outline_replace current (blank_unmapped command))
  | refused =>
    exact .ends bus c.mapped _ active (Active.outline_replace current (blank_unmapped command))

theorem Serves.progresses {a : Active} {command : Command BufferId} {status : UInt32}
    {before l : List Access} {bus : Bus H} [Hardware H] (active : c.active = some a)
    (current : a.current? = some command) (h : Serves c a command status before bus l c') :
    c.Progresses c' := by
  cases h with
  | continues =>
    refine .waits bus _ _ ?_
    rw [active]
    exact congrArg some (Active.outline_replace current (blank_staged command status))
  | finishes words final ends =>
    exact .ends bus _ _ active (Active.outline_replace current ends.blank)
  | @stops _ _ _ last stop error _ _ words pending ends words_length reached launched launches =>
    generalize hstop : ({ a.replace (answered last error words) with phase := .stop } : Active) =
      stopping at launches
    have same : stopping.outline = a.outline := by
      rw [← hstop]
      exact Active.outline_replace current ends.blank
    have hcurrent : stopping.current? = some stop := by
      rw [← hstop, Active.current?_stopping pending]
    cases launches.progresses rfl hcurrent with
    | waits bus mapped active' going =>
      refine .waits bus mapped active' (going.trans ?_)
      rw [active]
      exact congrArg some same
    | ends bus mapped result served going =>
      cases served
      exact .ends bus mapped result active (going.trans same)

variable [Hardware H]

theorem interrupt_progresses (c : Controller H) : c.Progresses c.interrupt := by
  by_cases hd : c.detached = true
  · rw [interrupt, if_pos hd]
    exact .waits c.bus c.mapped c.active rfl
  · have attached : c.detached = false := Bool.of_not_eq_true hd
    cases hcurrent : c.current? with
    | none =>
      obtain ⟨bus, -, hspurious⟩ := interrupt_spurious attached hcurrent
      rw [hspurious]
      exact .waits bus c.mapped c.active rfl
    | some command =>
      obtain ⟨a, active, current⟩ := Option.bind_eq_some_iff.mp hcurrent
      obtain ⟨l, bus, -, hserves⟩ := interrupt_serves attached active current
      exact hserves.progresses active current

theorem submit_progresses (attached : c.detached = false) (idle : c.active = none)
    (request : Request Bytes) : ∃ submitted,
      c.submit request = (.ok c.tickets.size, submitted) ∧ (c.take request).Progresses submitted := by
  obtain ⟨l, bus, -, hlaunches, hanswer⟩ := submit_launches attached idle request
  exact ⟨_, Prod.ext hanswer rfl, hlaunches.progresses rfl rfl⟩

omit [Hardware H] in
theorem Progresses.keeps (h : c.Progresses c') : c'.detached = c.detached ∧ c'.owned = c.owned := by
  cases h <;> exact ⟨rfl, rfl⟩

omit [Hardware H] in
theorem Progresses.idle (h : c.Progresses c') (idle : c.active = none) : c'.active = none := by
  cases h with
  | waits bus mapped active same =>
    rw [idle] at same
    exact Option.map_eq_none_iff.mp same
  | ends => rfl

inductive Awaits (c : Controller H) (ticket : Nat) : Prop
  | pending {a : Active} (active : c.active = some a) (named : a.ticket = ticket)
    (waiting : c.tickets[ticket]? = some .waiting)
  | ready {request : Request BufferId} (idle : c.active = none)
    (ready : c.tickets[ticket]? = some (.ready request))

omit [Hardware H] in
theorem Awaits.progresses {ticket : Nat} (h : c.Awaits ticket) (step : c.Progresses c') :
    c'.Awaits ticket := by
  cases h with
  | pending active named waiting =>
    cases step with
    | waits bus mapped active' same =>
      rw [active, Option.map_some] at same
      obtain ⟨a', hactive, going⟩ := Option.map_eq_some_iff.mp same
      exact .pending hactive ((Active.of_outline going).1.trans named) waiting
    | ends bus mapped result served same =>
      have hresult : result.ticket = ticket := by
        rw [active] at served
        rw [← named, Option.some.inj served]
        exact (Active.of_outline same).1
      have hready : (delivered c.tickets result)[ticket]? = some (.ready result.request) := by
        rw [delivered, hresult, Array.getElem?_modify, if_pos rfl, waiting]
        rfl
      exact .ready rfl hready
  | ready idle ready =>
    cases step with
    | waits bus mapped active' same =>
      rw [idle, Option.map_none] at same
      exact .ready (Option.map_eq_none_iff.mp same) ready
    | ends bus mapped result served same =>
      rw [idle] at served
      cases served

theorem submit_awaits (attached : c.detached = false) (idle : c.active = none)
    (request : Request Bytes) : ∃ submitted, c.submit request = (.ok c.tickets.size, submitted) ∧
      submitted.Awaits c.tickets.size ∧ submitted.detached = c.detached ∧ submitted.owned = c.owned := by
  obtain ⟨submitted, hsubmit, hprogresses⟩ := submit_progresses attached idle request
  have htaken : (c.take request).Awaits c.tickets.size :=
    .pending rfl rfl Array.getElem?_push_size
  exact ⟨submitted, hsubmit, htaken.progresses hprogresses, hprogresses.keeps⟩

end Controller

end CardHost
