import CardHost.Proofs.Sightings

namespace CardHost

structure EndedBy {B : Type} (command : Command B) (traces : List (List Access)) (last : List Access)
    (rest : List (List Access)) (outcome : Outcome) : Prop where
  first : ∃ early, traces = early ++ last :: rest ∧ ∀ l ∈ early, isEnding l = false
  ending : isEnding last = true
  settles : Settles command last outcome

/-- The course of a request, by the accesses that submitted it and those of each operation after: which of
its commands is on the wire, if it is not over, and what has come of them. -/
inductive Course {B : Type} (request : Request B) (launch : List Access) :
    List (List Access) → Option Phase → Outcome × Option Outcome → Prop
  | refused {traces : List (List Access)} (silent : Mute launch) :
    Course request launch traces none
      (⟨some .noMemory, request.outcomes.1.response⟩, request.outcomes.2)
  | waits {traces : List (List Access)} (wired : ¬ Mute launch)
    (more : ∀ l ∈ traces, isEnding l = false) :
    Course request launch traces (some .command) request.outcomes
  | finished {traces rest : List (List Access)} {last : List Access} {outcome : Outcome}
    (wired : ¬ Mute launch) (ended : EndedBy request.command traces last rest outcome)
    (only : request.stop = none) : Course request launch traces none (outcome, none)
  | unstopped {traces rest : List (List Access)} {last : List Access} {outcome : Outcome}
    {stop : Command B} (wired : ¬ Mute launch)
    (ended : EndedBy request.command traces last rest outcome) (next : request.stop = some stop)
    (silent : Mute last) :
    Course request launch traces none (outcome, some ⟨some .noMemory, stop.response⟩)
  | stopping {traces rest : List (List Access)} {last : List Access} {outcome : Outcome}
    {stop : Command B} (wired : ¬ Mute launch)
    (ended : EndedBy request.command traces last rest outcome) (next : request.stop = some stop)
    (stopWired : ¬ Mute last) (more : ∀ l ∈ rest, isEnding l = false) :
    Course request launch traces (some .stop) (outcome, some stop.outcome)
  | stopped {traces rest rest' : List (List Access)} {last last' : List Access}
    {outcome outcome' : Outcome} {stop : Command B} (wired : ¬ Mute launch)
    (ended : EndedBy request.command traces last rest outcome) (next : request.stop = some stop)
    (stopWired : ¬ Mute last) (stopEnded : EndedBy stop rest last' rest' outcome') :
    Course request launch traces none (outcome, some outcome')

namespace EndedBy

variable {B C : Type} {command : Command B} {traces rest : List (List Access)} {last : List Access}
  {outcome : Outcome}

theorem of_map {f : B → C} (h : EndedBy command traces last rest outcome) :
    EndedBy (command.map f) traces last rest outcome :=
  ⟨h.first, h.ending, h.settles.of_map⟩

theorem append (h : EndedBy command traces last rest outcome) (more : List (List Access)) :
    EndedBy command (traces ++ more) last (rest ++ more) outcome := by
  obtain ⟨early, rfl, hearly⟩ := h.first
  exact ⟨⟨early, by rw [List.append_assoc, List.cons_append], hearly⟩, h.ending, h.settles⟩

theorem concat (more : ∀ l ∈ traces, isEnding l = false) (ending : isEnding last = true)
    (settles : Settles command last outcome) : EndedBy command (traces ++ [last]) last [] outcome :=
  ⟨⟨traces, rfl, more⟩, ending, settles⟩

end EndedBy

theorem mem_concat {l last : List Access} {traces : List (List Access)}
    (more : ∀ l ∈ traces, isEnding l = false) (ending : isEnding last = false)
    (h : l ∈ traces ++ [last]) : isEnding l = false := by
  rcases List.mem_append.mp h with h | h
  · exact more l h
  · rw [List.mem_singleton.mp h, ending]

namespace Course

variable {B C : Type} {request : Request B} {launch last : List Access} {traces : List (List Access)}
  {phase : Option Phase} {outcomes : Outcome × Option Outcome} {outcome : Outcome}

theorem of_map {f : B → C} (h : Course request launch traces phase outcomes) :
    Course (request.map f) launch traces phase outcomes := by
  have stops {stop : Command B} (next : request.stop = some stop) :
      (request.map f).stop = some (stop.map f) := by rw [Request.map, next, Option.map_some]
  cases h with
  | refused silent =>
    rw [← Request.outcomes_map f]
    exact .refused silent
  | waits wired more =>
    rw [← Request.outcomes_map f]
    exact .waits wired more
  | finished wired ended only =>
    exact .finished wired ended.of_map (by rw [Request.map, only, Option.map_none])
  | unstopped wired ended next silent => exact .unstopped wired ended.of_map (stops next) silent
  | stopping wired ended next stopWired more =>
    exact .stopping wired ended.of_map (stops next) stopWired more
  | stopped wired ended next stopWired stopEnded =>
    exact .stopped wired ended.of_map (stops next) stopWired stopEnded.of_map

theorem append (h : Course request launch traces none outcomes) (more : List (List Access)) :
    Course request launch (traces ++ more) none outcomes := by
  cases h with
  | refused silent => exact .refused silent
  | finished wired ended only => exact .finished wired (ended.append more) only
  | unstopped wired ended next silent => exact .unstopped wired (ended.append more) next silent
  | stopped wired ended next stopWired stopEnded =>
    exact .stopped wired (ended.append more) next stopWired (stopEnded.append more)

theorem wait {current : Phase} (h : Course request launch traces (some current) outcomes)
    (ending : isEnding last = false) :
    Course request launch (traces ++ [last]) (some current) outcomes := by
  cases h with
  | waits wired more => exact .waits wired fun l => mem_concat more ending
  | stopping wired ended next stopWired more =>
    exact .stopping wired (ended.append [last]) next stopWired fun l => mem_concat more ending

theorem of_command (h : Course request launch traces (some .command) outcomes) :
    ¬ Mute launch ∧ (∀ l ∈ traces, isEnding l = false) ∧ outcomes = request.outcomes := by
  cases h with
  | waits wired more => exact ⟨wired, more, rfl⟩

theorem of_stop (h : Course request launch traces (some .stop) outcomes) :
    ∃ rest last outcome stop, ¬ Mute launch ∧ EndedBy request.command traces last rest outcome ∧
      request.stop = some stop ∧ ¬ Mute last ∧ (∀ l ∈ rest, isEnding l = false) ∧
      outcomes = (outcome, some stop.outcome) := by
  cases h with
  | stopping wired ended next stopWired more =>
    exact ⟨_, _, _, _, wired, ended, next, stopWired, more, rfl⟩

end Course

theorem Request.stop_of_blank {B : Type} {r r' : Request B} (h : r.blank = r'.blank)
    {stop stop' : Command B} (hs : r.stop = some stop) (hs' : r'.stop = some stop') :
    stop.blank = stop'.blank := by
  have hstop := congrArg Request.stop h
  simp only [Request.blank, hs, hs', Option.map_some, Option.some.injEq] at hstop
  exact hstop

namespace Active

theorem outcomes_replace_command {a : Active} (first : a.phase = .command)
    (command : Command BufferId) :
    (a.replace command).request.outcomes = (command.outcome, a.request.stop.map (·.outcome)) := by
  simp only [Request.outcomes, replace_command first, replace_stop first]

theorem outcomes_replace_stop {a : Active} {stop : Command BufferId} (second : a.phase = .stop)
    (current : a.current? = some stop) (command : Command BufferId) :
    (a.replace command).request.outcomes = (a.request.command.outcome, some command.outcome) := by
  have hstop := Active.current?_replace current command
  simp only [current?, phase_replace, second] at hstop
  rw [Request.outcomes, command_replace second, hstop, Option.map_some]

theorem outcomes_replace {a : Active} {command command' : Command BufferId}
    (current : a.current? = some command) (same : command'.outcome = command.outcome) :
    (a.replace command').request.outcomes = a.request.outcomes := by
  conv => rhs; rw [← replace_current current]
  cases phase : a.phase with
  | command => rw [outcomes_replace_command phase, outcomes_replace_command phase, same]
  | stop => rw [outcomes_replace_stop phase current, outcomes_replace_stop phase current, same]

structure Follows (a : Active) (placed : Request BufferId) (launch : List Access)
    (traces : List (List Access)) : Prop where
  same : a.request.blank = placed.blank
  course : Course placed launch traces (some a.phase) a.request.outcomes

namespace Follows

variable {a : Active} {placed : Request BufferId} {launch l : List Access}
  {traces : List (List Access)} {command last : Command BufferId}

theorem waits (h : a.Follows placed launch traces) (current : a.current? = some command)
    (more : isEnding l = false) (blank : last.blank = command.blank)
    (same : last.outcome = command.outcome) :
    (a.replace last).Follows placed launch (traces ++ [l]) := by
  refine ⟨(blank_replace current blank).trans h.same, ?_⟩
  rw [phase_replace, outcomes_replace current same]
  exact h.course.wait more

theorem command_ended (h : a.Follows placed launch traces) (first : a.phase = .command)
    (current : a.current? = some command) (concludes : isEnding l = true)
    (settles : Settles command l last.outcome) :
    ¬ Mute launch ∧ EndedBy placed.command (traces ++ [l]) l [] last.outcome ∧
      a.request.stop.map (·.outcome) = placed.stop.map (·.outcome) := by
  obtain ⟨wired, more, same⟩ := (first ▸ h.course).of_command
  obtain ⟨houtcome, hstop⟩ := Prod.mk.inj same
  obtain rfl := command_of_current first current
  refine ⟨wired, .concat more concludes (settles.congr ?_ houtcome), hstop⟩
  exact congrArg Request.command h.same

theorem stop_ended (h : a.Follows placed launch traces) (second : a.phase = .stop)
    (current : a.current? = some command) (concludes : isEnding l = true)
    (settles : Settles command l last.outcome) :
    Course placed launch (traces ++ [l]) none (a.replace last).request.outcomes := by
  obtain ⟨rest, first, outcome, stop, wired, ended, next, stopWired, more, same⟩ :=
    (second ▸ h.course).of_stop
  obtain ⟨hcommand, hstop⟩ := Prod.mk.inj same
  rw [outcomes_replace_stop second current, hcommand]
  simp only [current?, second] at current
  rw [current, Option.map_some, Option.some.injEq] at hstop
  refine .stopped wired (ended.append [l]) next stopWired (.concat more concludes ?_)
  exact settles.congr (Request.stop_of_blank h.same current next) hstop

end Follows

end Active

namespace Controller

variable {H : Type} {c c' : Controller H} {a : Active} {command : Command BufferId}
  {placed : Request BufferId} {launch l : List Access} {traces : List (List Access)}

theorem Resolves.follows (h : c.Resolves a command l c') (current : a.current? = some command) :
    ∃ a' : Active, a'.ticket = a.ticket ∧
      (c'.active = some a' ∧ c'.tickets = c.tickets ∧ (a.Follows placed launch traces →
          a'.Follows placed launch (traces ++ [l])) ∨
        c'.active = none ∧ c'.tickets = delivered c.tickets a' ∧ (a.Follows placed launch traces →
          Course placed launch (traces ++ [l]) none a'.request.outcomes)) := by
  cases h with
  | waits more command' blank same active tickets =>
    exact ⟨_, a.ticket_replace _, .inl ⟨active, tickets, (·.waits current more blank same)⟩⟩
  | finishes concludes last settles blank final active tickets =>
    refine ⟨_, a.ticket_replace _, .inr ⟨active, tickets, fun follows => ?_⟩⟩
    cases phase : a.phase with
    | stop => exact follows.stop_ended phase current concludes settles
    | command =>
      obtain ⟨wired, ended, hstop⟩ := follows.command_ended phase current concludes settles
      simp only [Active.pending?, phase] at final
      rw [final, Option.map_none, eq_comm, Option.map_eq_none_iff] at hstop
      rw [Active.outcomes_replace_command phase, final]
      exact .finished wired ended hstop
  | stops concludes last stop stop' settles blank pending wired same stopBlank active tickets =>
    obtain ⟨phase, next, -⟩ := Active.current?_of_pending pending
    have hcurrent := Active.current?_stopping pending last
    refine ⟨_, ?_, .inl ⟨active, tickets, fun follows => ?_⟩⟩
    · rw [Active.ticket_replace, Active.ticket_replace]
    obtain ⟨launched, ended, hstop⟩ := follows.command_ended phase current concludes settles
    rw [next, Option.map_some, eq_comm, Option.map_eq_some_iff] at hstop
    obtain ⟨stopPlaced, nextPlaced, hstop⟩ := hstop
    refine ⟨?_, ?_⟩
    · rw [Active.blank_replace hcurrent stopBlank]
      exact (Active.blank_replace current blank).trans follows.same
    · rw [Active.outcomes_replace_stop rfl hcurrent, same, ← hstop, Active.replace_command phase,
        Active.phase_replace]
      exact .stopping launched ended nextPlaced wired fun _ hl => (List.not_mem_nil hl).elim
  | refuses concludes last stop settles blank pending silent active tickets =>
    obtain ⟨phase, next, -⟩ := Active.current?_of_pending pending
    have hcurrent := Active.current?_stopping pending last
    refine ⟨_, ?_, .inr ⟨active, tickets, fun follows => ?_⟩⟩
    · rw [Active.ticket_replace, Active.ticket_replace]
    obtain ⟨launched, ended, hstop⟩ := follows.command_ended phase current concludes settles
    rw [next, Option.map_some, eq_comm, Option.map_eq_some_iff] at hstop
    obtain ⟨stopPlaced, nextPlaced, hstop⟩ := hstop
    have houtcome : (unmapped stop).outcome = ⟨some .noMemory, stopPlaced.response⟩ :=
      congrArg (Outcome.mk _) (congrArg Outcome.response hstop).symm
    rw [Active.outcomes_replace_stop rfl hcurrent, Active.replace_command phase, houtcome]
    exact .unstopped launched ended nextPlaced silent

end Controller

end CardHost
