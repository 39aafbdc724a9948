import CardHost.Hardware.Scripted
import CardHost.Proofs.Guises

namespace CardHost

namespace Controller

variable {H : Type}

def letGo (c : Controller H) (n : Nat) : Controller H := { c with toParts := c.toParts.drop n }

theorem letGo_eq (c : Controller H) (n : Nat) :
    c.letGo n = c.under (({} : Guise).marked n .dropped) := by
  rw [under, Guise.tickets_marked, Guise.tickets_none]
  rfl

variable [Hardware H] (c : Controller H) (n : Nat)

theorem interrupt_letGo : (c.letGo n).interrupt = c.interrupt.letGo n := by
  rw [letGo_eq, letGo_eq, interrupt_under]

theorem submit_letGo (hn : n < c.tickets.size) (request : Request Bytes) :
    (c.letGo n).submit request = ((c.submit request).1, (c.submit request).2.letGo n) := by
  rw [letGo_eq, letGo_eq, submit_under]
  exact if_neg (Nat.ne_of_lt hn)

omit [Hardware H] in
theorem writeProperty_letGo (value : PropertyValue) :
    (c.letGo n).writeProperty value =
      ((c.writeProperty value).1, (c.writeProperty value).2.letGo n) := by
  have hd : (c.letGo n).detached = c.detached := rfl
  have hh : (c.letGo n).host = c.host := rfl
  simp only [writeProperty, hd, hh]
  split
  · rfl
  · split <;> rfl

omit [Hardware H] in
theorem readProperty_letGo (p : Property) :
    (c.letGo n).readProperty p = ((c.readProperty p).1, (c.readProperty p).2.letGo n) := by
  have hd : (c.letGo n).detached = c.detached := rfl
  have hh : (c.letGo n).settings = c.settings := rfl
  simp only [readProperty, hd, hh]
  split
  · rfl
  · split <;> rfl

theorem update_letGo : (c.letGo n).update = (c.update.1, c.update.2.letGo n) := by
  have hd : (c.letGo n).detached = c.detached := rfl
  simp only [update, hd]
  split <;> rfl

theorem setTiming_letGo (clock : UInt32) (width : BusWidth) :
    (c.letGo n).setTiming clock width =
      ((c.setTiming clock width).1, (c.setTiming clock width).2.letGo n) := by
  have hd : (c.letGo n).detached = c.detached := rfl
  rw [setTiming_eq, setTiming_eq, hd]
  split
  · rfl
  · exact (c.ask clock width).update_letGo n

theorem detach_eq : c.detach =
    if c.detached then (.error .detached, c)
    else if c.busy then (.error .busy, c)
    else (.ok (), { c with bus := c.bus.writeAll quiesce, detached := true }) := by
  rw [detach, writeAll_eq]

theorem detach_letGo : (c.letGo n).detach = (c.detach.1, c.detach.2.letGo n) := by
  have hd : (c.letGo n).detached = c.detached := rfl
  have hb : (c.letGo n).busy = c.busy := rfl
  have hbus : (c.letGo n).bus = c.bus := rfl
  rw [detach_eq, detach_eq, hd, hb, hbus]
  generalize c.bus.writeAll quiesce = bus
  split
  · rfl
  · split <;> rfl

omit [Hardware H] in
theorem takeApart_letGo : (c.letGo n).takeApart = c.takeApart.drop n := by
  have ha : (c.letGo n).active = c.active := rfl
  unfold takeApart
  rw [ha]
  cases c.active with
  | none => rfl
  | some a =>
    refine congrArg (fun tickets => ({ bus := c.bus, tickets } : Parts H)) ?_
    apply Array.ext_getElem?
    intro m
    simp only [letGo, Parts.drop, Parts.setTicket, Array.getElem?_modify,
      Array.getElem?_setIfInBounds, Array.size_modify]
    by_cases hm : n = m
    · subst hm
      by_cases hn : n < c.tickets.size <;> by_cases ha : a.ticket = n <;> simp [hn, ha]
    · simp [hm]

end Controller

namespace System

variable {H : Type}

def letGo (s : System H) (n : Nat) : System H := s.setParts (s.parts.drop n)

theorem held_letGo (s : System H) {n m : Nat} (hm : n ≠ m) :
    (s.letGo n).parts.held m = s.parts.held m := by
  rw [letGo, parts_setParts, Parts.drop, Parts.setTicket, Parts.held,
    Array.getElem?_setIfInBounds_ne hm]
  rfl

theorem setTicket_drop (p : Parts H) {n m : Nat} (hm : n ≠ m) (value : Ticket) :
    (p.drop n).setTicket m value = (p.setTicket m value).drop n := by
  exact congrArg (fun tickets => { p with tickets })
    (Array.setIfInBounds_comm _ _ hm)

theorem setParts_letGo (s : System H) (n : Nat) (p : Parts H) :
    (s.letGo n).setParts (p.drop n) = (s.setParts p).letGo n := by
  cases s <;> rfl

variable [Hardware H]

theorem perform_letGo {c : Controller H} {n : Nat} (hn : n < c.tickets.size) (operation : Operation) :
    (c.letGo n).perform operation = ((c.perform operation).1, (c.perform operation).2.letGo n) := by
  cases operation with
  | submit request =>
    simp only [Controller.perform, c.submit_letGo n hn]
    rcases c.submit request with ⟨_ | _, _⟩ <;> rfl
  | interrupt => exact congrArg (fun c => (Answer.silent, whole c)) (c.interrupt_letGo n)
  | readProperty p =>
    simp only [Controller.perform, c.readProperty_letGo n]
    rfl
  | writeProperty value =>
    simp only [Controller.perform, c.writeProperty_letGo n]
    rfl
  | update =>
    simp only [Controller.perform, c.update_letGo n]
    rfl
  | setTiming clock width =>
    simp only [Controller.perform, c.setTiming_letGo n]
    rfl
  | acquire =>
    simp only [Controller.perform, Controller.acquire?]
    rw [show (c.letGo n).owned = c.owned from rfl]
    split <;> rfl
  | detach =>
    simp only [Controller.perform, c.detach_letGo n]
    rfl
  | takeApart => exact congrArg (fun p => (Answer.silent, apart p)) (c.takeApart_letGo n)
  | setOptions | isBusy | countMappings | readSettings | release | poll | drop => rfl

theorem step_letGo {s : System H} {n : Nat} (hn : n < s.parts.tickets.size) {operation : Operation}
    (other : operation ≠ .poll n ∧ operation ≠ .drop n) :
    (s.letGo n).step operation = ((s.step operation).1, (s.step operation).2.letGo n) := by
  by_cases hh : ∃ m, operation = .poll m ∨ operation = .drop m
  · obtain ⟨m, rfl | rfl⟩ := hh
    · have hm : n ≠ m := fun h => other.1 (by rw [h])
      have hp : (s.letGo n).parts.poll m = ((s.parts.poll m).1, (s.parts.poll m).2.drop n) := by
        rw [letGo, parts_setParts]
        simp only [Parts.poll, setTicket_drop s.parts hm]
        rw [show (s.parts.drop n).tickets[m]? = s.parts.tickets[m]? from
          Array.getElem?_setIfInBounds_ne hm]
        split <;> rfl
      simp only [step, held_letGo s hm, hp, setParts_letGo]
      split <;> rfl
    · have hm : n ≠ m := fun h => other.2 (by rw [h])
      have hp : (s.letGo n).parts.drop m = (s.parts.drop m).drop n := by
        rw [letGo, parts_setParts]
        exact setTicket_drop s.parts hm .dropped
      simp only [step, held_letGo s hm, hp, setParts_letGo]
      split <;> rfl
  · have handle : ∀ m, operation ≠ .poll m ∧ operation ≠ .drop m :=
      fun m => ⟨fun h => hh ⟨m, .inl h⟩, fun h => hh ⟨m, .inr h⟩⟩
    cases s with
    | whole c =>
      rw [step_whole c handle]
      exact (step_whole (c.letGo n) handle).trans (perform_letGo hn operation)
    | apart p =>
      rw [step_apart p handle]
      exact step_apart (p.drop n) handle

end System

namespace Ledger

theorem Step.length_le {l l' : Ledger} {operation : Operation} {answer : Answer}
    (h : l.Step operation answer l') : l.entries.length ≤ l'.entries.length := by
  cases h <;> simp [enter, change, close]

end Ledger

theorem Agrees.run_letGo {H : Type} [Hardware H] {s : System H} {l : Ledger} {n : Nat}
    (h : Agrees s l) (hn : n < l.entries.length) (operations : List Operation)
    (others : ∀ operation ∈ operations, operation ≠ .poll n ∧ operation ≠ .drop n) :
    (s.letGo n).answers operations = s.answers operations ∧
      (s.letGo n).after operations = (s.after operations).letGo n := by
  induction operations generalizing s l with
  | nil => exact ⟨rfl, rfl⟩
  | cons operation rest ih =>
    have hstep := System.step_letGo (h.size ▸ hn) (others operation List.mem_cons_self)
    obtain ⟨l', _, rule, h', -⟩ := h.step_accounted operation
    obtain ⟨answers, after⟩ := ih h' (Nat.lt_of_lt_of_le hn rule.length_le) fun operation' hmem =>
      others operation' (List.mem_cons_of_mem _ hmem)
    simp only [System.answers, System.after_cons, hstep, answers, after, and_self]

def Settled {H : Type} (s : System H) (l : Ledger) : Prop :=
  Agrees s l ∧
    l.entries.countP (·.fate.isOutstanding) = if s.active?.isSome then 1 else 0

/-- Whatever the hardware does, every run keeps to the rules of the ledger, by which each request that was
accepted is finished at most once and goes to its own handle, and to it once. A handle that is let go of
makes no difference to the rest of the run. -/
theorem requests_resolved_once {H : Type} [Hardware H] (unit : UInt32) (board : Board)
    (options : Options) (hardware : H) (operations : List Operation) :
    let start := System.start unit board options hardware
    let s := start.after operations
    (∃ l, Accounts Settled start {} operations s l) ∧
      ∀ n later, s.parts.held n = true →
        (∀ operation ∈ later, operation ≠ .poll n ∧ operation ≠ .drop n) →
        (s.step (.drop n)).2.answers later = s.answers later ∧
          (s.step (.drop n)).2.after later = (s.after later).letGo n := by
  intro start s
  have hstart : Agrees start {} := .start unit board options hardware
  have hrun : ∃ l, Accounts Settled start {} operations s l := by
    refine Accounts.of_steps ?_ ⟨hstart, hstart.countP_outstanding⟩ operations
    rintro s l operation ⟨h, -⟩
    obtain ⟨l', -, rule, h', -⟩ := h.step_accounted operation
    exact ⟨l', rule, h', h'.countP_outstanding⟩
  refine ⟨hrun, fun n later held others => ?_⟩
  obtain ⟨l, run⟩ := hrun
  have h : Agrees s l := run.final.1
  have hs : (s.step (.drop n)).2 = s.letGo n := by
    rw [System.step, if_pos held]
    rfl
  rw [h.held, Ledger.holds, Option.any_eq_true] at held
  obtain ⟨e, entry, -⟩ := held
  rw [hs]
  exact h.run_letGo (List.getElem?_eq_some_iff.mp entry).1 later others

theorem handle_dropped_while_busy :
    let board := Board.reference .sam9g20
    let start := System.start 0 board .default ({ status := 1, mask := 1 } : Scripted)
    let s := start.after [.submit { command := { opcode := Opcode.sendStatus } }]
    s.parts.held 0 = true ∧
      (s.step (.drop 0)).2.answers [.interrupt, .isBusy] = s.answers [.interrupt, .isBusy] := by
  intro board start s
  have held : s.parts.held 0 = true := by rfl
  refine ⟨held, ?_⟩
  have h := requests_resolved_once 0 board .default ({ status := 1, mask := 1 } : Scripted)
    [.submit { command := { opcode := Opcode.sendStatus } }]
  refine (h.2 0 [.interrupt, .isBusy] held ?_).1
  simp

end CardHost
