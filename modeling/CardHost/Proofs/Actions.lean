import CardHost.Session

namespace CardHost

namespace Session

variable {H : Type} {α β : Type}

theorem run_bind (act : Action H α) (f : α → Action H β) (s : Session H) :
    (act >>= f).run.run s = match act.run.run s with
      | (.ok a, s') => (f a).run.run s'
      | (.error e, s') => (.error e, s') := by
  change (ExceptT.bindCont f (act.run.run s).1).run (act.run.run s).2 = _
  rcases act.run.run s with ⟨e | a, s'⟩ <;> rfl

theorem acquire?_getD (c : Controller H) :
    ∃ owned, c.acquire?.getD c = { c with owned } := by
  unfold Controller.acquire?
  split
  · exact ⟨_, rfl⟩
  · exact ⟨_, rfl⟩

theorem run_owning (act : Action H α) (s : Session H) :
    ∃ owned, (owning act).run.run s =
      match act.run.run { s with controller := { s.controller with owned } } with
      | (result, s') => (result, { s' with controller := s'.controller.release }) := by
  obtain ⟨owned, hacquire⟩ := acquire?_getD s.controller
  have hrun : (owning act).run.run s =
      match act.run.run { s with controller := s.controller.acquire?.getD s.controller } with
      | (result, s') => (result, { s' with controller := s'.controller.release }) := rfl
  rw [hacquire] at hrun
  exact ⟨owned, hrun⟩

theorem run_step (f : Controller H → Except Refusal α × Controller H)
    (s : Session H) :
    ((step f).run.run s).2 = { s with controller := (f s.controller).2 } := by
  change (refuse (f s.controller) s).2 = _
  rcases f s.controller with ⟨e | a, c⟩ <;> rfl

variable [Hardware H] [InterruptLine H]

def outcome (patience : Nat) :
    Except Refusal (Option (Request Bytes)) → Except SessionError (Request Bytes)
  | .error e => .error (.refused e)
  | .ok none => .error (.stalled patience)
  | .ok (some result) => (firstError result).elim (.ok result) .error

theorem run_execute {s : Session H} (attended : s.attended = true) {request : Request Bytes}
    {ticket : Nat} {c served : Controller H} {answer : Except Refusal (Option (Request Bytes))}
    {parts : Parts H} (submits : s.controller.submit request = (.ok ticket, c))
    (serves : (c.serveLine serviceLimit).2 = served)
    (polls : served.toParts.poll ticket = (answer, parts)) :
    (execute request).run.run s =
      (outcome s.patience answer, { s with controller := { served with toParts := parts.drop ticket } }) := by
  change execute request s = _
  unfold execute
  rw [submits]
  simp only [settle, attended, if_true, serves, polls]
  rcases answer with e | _ | result
  · rfl
  · rfl
  · dsimp only [outcome]
    cases firstError result <;> rfl

theorem run_command (cmd : Command Bytes) (s : Session H) :
    (command cmd).run.run s = match (execute ⟨cmd, none⟩).run.run s with
      | (result, s') => (result.map (·.command), s') := by
  rw [command, run_bind]
  rcases (execute ⟨cmd, none⟩).run.run s with ⟨e | r, s'⟩ <;> rfl

omit [Hardware H] [InterruptLine H] in
theorem run_owning_info (act : CardInfo → Action H α) (s : Session H) :
    (owning (do act (← get).info)).run.run s =
      match (act s.info).run.run
        { s with controller := s.controller.acquire?.getD s.controller } with
      | (result, s') => (result, { s' with controller := s'.controller.release }) := rfl

theorem run_exchange (cmd : CardInfo → Command Bytes) (f : Command Bytes → α) (s : Session H) :
    (owning (do return f (← command (cmd (← get).info))) : Action H α).run.run s =
      match (execute ⟨cmd s.info, none⟩).run.run
        { s with controller := s.controller.acquire?.getD s.controller } with
      | (result, s') =>
        (result.map fun request => f request.command,
          { s' with controller := s'.controller.release }) := by
  refine (run_owning_info (fun info => do return f (← command (cmd info))) s).trans ?_
  rw [run_bind, run_command]
  rcases (execute ⟨cmd s.info, none⟩).run.run _ with ⟨e | r, s'⟩ <;> rfl

end Session

end CardHost
