import CardHost.Proofs.Actions
import CardHost.Proofs.Service
import CardHost.Simulator
/-!
Clients that share a controller, each with a session of its own. A call takes the bus, submits its
command, waits for the result and gives the bus back; between these steps the other clients and the
interrupt handler take theirs, in any order. The hardware is arbitrary.
-/
namespace CardHost

inductive Call where
  | read (block : UInt64) (buffer : Bytes)
  | write (block : UInt64) (buffer : Bytes)
  | status
  deriving Repr, DecidableEq

namespace Call

def command (info : CardInfo) : Call → Command Bytes
  | read block _ =>
    { opcode := Opcode.readBlock
      argument := info.blockArgument block
      flags := .r1
      data := some { buffer := Bytes.zeros blockSize, flags := .read } }
  | write block buffer =>
    { opcode := Opcode.writeBlock
      argument := info.blockArgument block
      flags := .r1
      data := some { buffer, flags := .write } }
  | status => { opcode := Opcode.sendStatus, argument := info.address.toUInt32 <<< 16, flags := .r1 }

def refusal? : Call → Option SessionError
  | read _ buffer | write _ buffer =>
    if buffer.length = blockSize then none else some (.unaligned buffer.length)
  | status => none

abbrev Answer := Except SessionError (Command Bytes)

def Proper : Answer → Prop
  | .ok _ | .error (.command _ _) | .error (.unaligned _) => True
  | .error _ => False

def answer (request : Request Bytes) : Answer :=
  match Session.firstError request with
  | some e => .error e
  | none => .ok request.command

def act {H : Type} [Hardware H] [InterruptLine H] (call : Call) : Session.Action H (Command Bytes) := do
  if let some e := call.refusal? then throw e
  Session.owning do Session.command (call.command (← get).info)

end Call

inductive Station where
  | outside
  | owning (call : Call)
  | waiting (call : Call) (ticket : Nat)
  | leaving (call : Call) (answer : Call.Answer)

def Station.Inside : Station → Prop
  | outside => False
  | _ => True

def Station.call? : Station → Option Call
  | outside => none
  | owning call | waiting call _ | leaving call _ => some call

structure Client where
  info : CardInfo
  calls : List Call
  station : Station := .outside
  answers : List (Call × Call.Answer) := []

namespace Client

variable {H : Type} [Hardware H]

def program (client : Client) : List Call :=
  client.answers.map Prod.fst ++ client.station.call?.toList ++ client.calls

def Done (client : Client) : Prop := client.calls = [] ∧ client.station = .outside

/-- The next step of a client; it stays where it is while the bus or its result is to be waited for. -/
def step (client : Client) (c : Controller H) : Client × Controller H :=
  match client.station with
  | .outside =>
    match client.calls with
    | [] => (client, c)
    | call :: calls =>
      match call.refusal? with
      | some e => ({ client with calls, answers := client.answers ++ [(call, .error e)] }, c)
      | none =>
        match c.acquire? with
        | none => (client, c)
        | some c => ({ client with calls, station := .owning call }, c)
  | .owning call =>
    match c.submit ⟨call.command client.info, none⟩ with
    | (.ok ticket, c) => ({ client with station := .waiting call ticket }, c)
    | (.error rejection, c) =>
      ({ client with station := .leaving call (.error (.refused rejection.reason)) }, c)
  | .waiting call ticket =>
    match c.toParts.poll ticket with
    | (.ok none, _) => (client, c)
    | (.ok (some request), parts) =>
      ({ client with station := .leaving call (Call.answer request) },
        { c with toParts := parts.drop ticket })
    | (.error e, parts) =>
      ({ client with station := .leaving call (.error (.refused e)) },
        { c with toParts := parts.drop ticket })
  | .leaving call answer =>
    ({ client with station := .outside, answers := client.answers ++ [(call, answer)] }, c.release)

end Client

structure SharedBus (H : Type) where
  controller : Controller H
  clients : List Client

namespace SharedBus

inductive Move where
  | client (i : Nat)
  | interrupt
  deriving Repr, DecidableEq

variable {H : Type} [Hardware H]

def step (b : SharedBus H) : Move → SharedBus H
  | .client i =>
    match b.clients[i]? with
    | none => b
    | some client =>
      let (client, controller) := client.step b.controller
      ⟨controller, b.clients.set i client⟩
  | .interrupt => { b with controller := b.controller.interrupt }

def run (b : SharedBus H) (moves : List Move) : SharedBus H := moves.foldl step b

omit [Hardware H] in
def start (controller : Controller H) (sessions : List (CardInfo × List Call)) : SharedBus H :=
  ⟨controller, sessions.map fun (info, calls) => { info, calls }⟩

end SharedBus

theorem Call.proper_answer (request : Request Bytes) : Proper (answer request) := by
  unfold answer
  split
  · next e h =>
    obtain ⟨cmd, -, herror⟩ := List.exists_of_findSome?_eq_some h
    obtain ⟨error, -, rfl⟩ := Option.map_eq_some_iff.mp herror
    trivial
  · trivial

theorem Call.proper_refusal {call : Call} {e : SessionError} (h : call.refusal? = some e) :
    Proper (.error e) := by
  unfold refusal? at h
  split at h
  · split at h
    · cases h
    · cases h
      trivial
  · split at h
    · cases h
    · cases h
      trivial
  · cases h

namespace Client

variable {H : Type} [Hardware H]

theorem program_step (client : Client) (c : Controller H) :
    (client.step c).1.program = client.program := by
  obtain ⟨info, calls, station, answers⟩ := client
  cases station with
  | outside =>
    cases calls with
    | nil => rfl
    | cons call calls =>
      simp only [step]
      split
      · simp [program, Station.call?]
      · split <;> simp [program, Station.call?]
  | owning call =>
    simp only [step]
    split <;> rfl
  | waiting call ticket =>
    simp only [step]
    split <;> rfl
  | leaving call answer => simp [step, program, Station.call?]

def Sound (client : Client) : Prop := ∀ entry ∈ client.answers, Call.Proper entry.2

theorem Sound.answered {client : Client} (h : client.Sound) (call : Call) {answer : Call.Answer}
    (proper : Call.Proper answer) : ∀ entry ∈ client.answers ++ [(call, answer)], Call.Proper entry.2 := by
  intro entry member
  rcases List.mem_append.mp member with old | new
  · exact h entry old
  · rw [List.mem_singleton.mp new]
    exact proper

end Client

namespace SharedBus

variable {H : Type} [Hardware H] {b : SharedBus H} {holder : Option Nat}

inductive Fits (c : Controller H) : Station → Prop
  | owning (call : Call) (idle : c.active = none) : Fits c (.owning call)
  | waiting (call : Call) {ticket : Nat} (awaits : c.Awaits ticket) : Fits c (.waiting call ticket)
  | leaving (call : Call) {answer : Call.Answer} (idle : c.active = none) (proper : Call.Proper answer) :
    Fits c (.leaving call answer)

/-- At most one client has the bus, and the controller does nothing but what that client waits for. -/
structure Shares (b : SharedBus H) (holder : Option Nat) : Prop where
  attached : b.controller.detached = false
  owned : b.controller.owned = holder.isSome
  idle : holder = none → b.controller.active = none
  outside : ∀ (i : Nat) (client : Client), b.clients[i]? = some client → holder ≠ some i →
    client.station = .outside
  inside : ∀ i, holder = some i →
    ∃ client, b.clients[i]? = some client ∧ Fits b.controller client.station
  sound : ∀ (i : Nat) (client : Client), b.clients[i]? = some client → client.Sound

omit [Hardware H] in
theorem Fits.inside {c : Controller H} {station : Station} (h : Fits c station) : station.Inside := by
  cases h <;> trivial

omit [Hardware H] in
theorem Fits.progresses {c c' : Controller H} {station : Station} (h : Fits c station)
    (step : c.Progresses c') : Fits c' station := by
  cases h with
  | owning call idle => exact .owning call (step.idle idle)
  | waiting call awaits => exact .waiting call (awaits.progresses step)
  | leaving call idle proper => exact .leaving call (step.idle idle) proper

theorem Shares.interrupt (h : b.Shares holder) : (b.step .interrupt).Shares holder where
  attached := (b.controller.interrupt_progresses.keeps.1).trans h.attached
  owned := (b.controller.interrupt_progresses.keeps.2).trans h.owned
  idle free := b.controller.interrupt_progresses.idle (h.idle free)
  outside := h.outside
  inside i held := by
    obtain ⟨client, found, fits⟩ := h.inside i held
    exact ⟨client, found, fits.progresses b.controller.interrupt_progresses⟩
  sound := h.sound

section Replace

variable {i : Nat} {client client' : Client} {c : Controller H}

theorem found_set {clients : List Client} (found : clients[i]? = some client) (client' : Client)
    {j : Nat} {other : Client} (h : (clients.set i client')[j]? = some other) :
    j = i ∧ other = client' ∨ j ≠ i ∧ clients[j]? = some other := by
  have hlength : i < clients.length := (List.getElem?_eq_some_iff.mp found).1
  rw [List.getElem?_set] at h
  split at h
  · next same =>
    exact .inl ⟨same.symm, (Option.some.inj h).symm⟩
  · next other => exact .inr ⟨fun same => other same.symm, h⟩

omit [Hardware H] in
theorem Shares.sound_set (h : b.Shares holder) (found : b.clients[i]? = some client)
    (sound : client'.Sound) (j : Nat) (other : Client)
    (h' : (b.clients.set i client')[j]? = some other) : other.Sound := by
  obtain ⟨-, rfl⟩ | ⟨-, hother⟩ := found_set found client' h'
  · exact sound
  · exact h.sound j other hother

omit [Hardware H] in
theorem Shares.enters (h : b.Shares holder) (found : b.clients[i]? = some client)
    (free : ∀ j, holder = some j → j = i) (attached : c.detached = false) (owned : c.owned = true)
    (fits : Fits c client'.station) (sound : client'.Sound) :
    Shares ⟨c, b.clients.set i client'⟩ (some i) where
  attached := attached
  owned := owned
  idle := nofun
  outside j other h' held := by
    obtain ⟨rfl, -⟩ | ⟨hj, hother⟩ := found_set found client' h'
    · exact (held rfl).elim
    · exact h.outside j other hother fun held => hj (free j held)
  inside j held := by
    have hlength : i < b.clients.length := (List.getElem?_eq_some_iff.mp found).1
    rw [← Option.some.inj held]
    exact ⟨client', List.getElem?_set_self hlength, fits⟩
  sound := h.sound_set found sound

omit [Hardware H] in
theorem Shares.leaves (h : b.Shares holder) (found : b.clients[i]? = some client)
    (free : ∀ j, holder = some j → j = i) (attached : c.detached = false) (owned : c.owned = false)
    (idle : c.active = none) (out : client'.station = .outside) (sound : client'.Sound) :
    Shares ⟨c, b.clients.set i client'⟩ none where
  attached := attached
  owned := owned
  idle _ := idle
  outside j other h' _ := by
    obtain ⟨-, rfl⟩ | ⟨hj, hother⟩ := found_set found client' h'
    · exact out
    · exact h.outside j other hother fun held => hj (free j held)
  inside := nofun
  sound := h.sound_set found sound

omit [Hardware H] in
theorem Shares.refuses (h : b.Shares holder) (found : b.clients[i]? = some client)
    (without : holder ≠ some i) (out : client'.station = .outside) (sound : client'.Sound) :
    Shares ⟨b.controller, b.clients.set i client'⟩ holder where
  attached := h.attached
  owned := h.owned
  idle := h.idle
  outside j other h' held := by
    obtain ⟨-, rfl⟩ | ⟨-, hother⟩ := found_set found client' h'
    · exact out
    · exact h.outside j other hother held
  inside j held := by
    obtain ⟨other, hother, fits⟩ := h.inside j held
    have hne : i ≠ j := fun same => without (same ▸ held)
    exact ⟨other, (List.getElem?_set_ne hne).trans hother, fits⟩
  sound := h.sound_set found sound

end Replace

theorem Shares.step_inside (h : b.Shares holder) {i : Nat} {client : Client}
    (found : b.clients[i]? = some client) (held : holder = some i)
    (fits : Fits b.controller client.station) :
    (client.step b.controller = (client, b.controller) ∧ b.controller.active.isSome = true) ∨
      (client.step b.controller).1.station ≠ client.station ∧ ∃ holder',
        Shares ⟨(client.step b.controller).2, b.clients.set i (client.step b.controller).1⟩ holder' := by
  have hsound := h.sound i client found
  have howned : b.controller.owned = true := by rw [h.owned, held]; rfl
  have hfree (j : Nat) (other : holder = some j) : j = i := by
    rw [held] at other
    exact (Option.some.inj other).symm
  generalize hs : client.station = station at fits
  cases fits with
  | owning call idle =>
    obtain ⟨submitted, hsubmit, hawaits, hdetached, howner⟩ := Controller.submit_awaits h.attached idle
      ⟨call.command client.info, none⟩
    right
    simp only [Client.step, hs, hsubmit]
    exact ⟨nofun, some i, h.enters found hfree (hdetached.trans h.attached) (howner.trans howned)
      (.waiting call hawaits) hsound⟩
  | waiting call awaits =>
    cases awaits with
    | pending active named waiting =>
      left
      simp only [Client.step, hs, Parts.poll, waiting, active]
      exact ⟨trivial, rfl⟩
    | ready idle ready =>
      right
      simp only [Client.step, hs, Parts.poll, ready]
      exact ⟨nofun, some i, h.enters found hfree h.attached howned
        (.leaving call idle (Call.proper_answer _)) hsound⟩
  | leaving call idle proper =>
    right
    simp only [Client.step, hs]
    exact ⟨nofun, none, h.leaves found hfree h.attached rfl idle rfl (hsound.answered call proper)⟩

theorem Shares.step_outside (h : b.Shares holder) {i : Nat} {client : Client}
    (found : b.clients[i]? = some client) (held : holder ≠ some i) :
    (client.step b.controller = (client, b.controller) ∧ (client.calls = [] ∨ holder ≠ none)) ∨
      (client.step b.controller).1.calls ≠ client.calls ∧ ∃ holder',
        Shares ⟨(client.step b.controller).2, b.clients.set i (client.step b.controller).1⟩ holder' := by
  have hsound := h.sound i client found
  have hs := h.outside i client found held
  cases hcalls : client.calls with
  | nil =>
    left
    simp only [Client.step, hs, hcalls]
    exact ⟨trivial, .inl trivial⟩
  | cons call calls =>
    cases hrefusal : call.refusal? with
    | some e =>
      right
      simp only [Client.step, hs, hcalls, hrefusal]
      exact ⟨by simp, holder, h.refuses found held rfl
        (hsound.answered call (Call.proper_refusal hrefusal))⟩
    | none =>
      cases holder with
      | none =>
        have hacquire : b.controller.acquire? = some { b.controller with owned := true } := by
          rw [Controller.acquire?, h.owned]
          rfl
        right
        simp only [Client.step, hs, hcalls, hrefusal, hacquire]
        exact ⟨by simp, some i, h.enters found nofun h.attached rfl (.owning call (h.idle rfl)) hsound⟩
      | some j =>
        have hacquire : b.controller.acquire? = none := by
          rw [Controller.acquire?, h.owned]
          rfl
        left
        simp only [Client.step, hs, hcalls, hrefusal, hacquire]
        exact ⟨trivial, .inr nofun⟩

theorem step_client {i : Nat} {client : Client} (found : b.clients[i]? = some client) :
    b.step (.client i) =
      ⟨(client.step b.controller).2, b.clients.set i (client.step b.controller).1⟩ := by
  rw [step, found]

theorem Shares.step (h : b.Shares holder) (move : Move) : ∃ holder', (b.step move).Shares holder' := by
  cases move with
  | interrupt => exact ⟨holder, h.interrupt⟩
  | client i =>
    cases found : b.clients[i]? with
    | none =>
      rw [SharedBus.step, found]
      exact ⟨holder, h⟩
    | some client =>
      have hself : Shares ⟨b.controller, b.clients.set i client⟩ holder := by
        obtain ⟨hlength, rfl⟩ := List.getElem?_eq_some_iff.mp found
        rw [List.set_getElem_self hlength]
        exact h
      rw [step_client found]
      by_cases held : holder = some i
      · obtain ⟨same, hsame, fits⟩ := h.inside i held
        rw [found] at hsame
        cases hsame
        rcases h.step_inside found held fits with ⟨hstep, -⟩ | ⟨-, hshares⟩
        · rw [hstep]
          exact ⟨holder, hself⟩
        · exact hshares
      · rcases h.step_outside found held with ⟨hstep, -⟩ | ⟨-, hshares⟩
        · rw [hstep]
          exact ⟨holder, hself⟩
        · exact hshares

theorem Shares.run (h : b.Shares holder) (moves : List Move) :
    ∃ holder', (b.run moves).Shares holder' := by
  induction moves generalizing b holder with
  | nil => exact ⟨holder, h⟩
  | cons move moves ih =>
    obtain ⟨holder', h'⟩ := h.step move
    exact ih h'

omit [Hardware H] in
theorem Shares.start {c : Controller H} (attached : c.detached = false) (idle : c.active = none)
    (free : c.owned = false) (sessions : List (CardInfo × List Call)) :
    (SharedBus.start c sessions).Shares none := by
  have hclient (i : Nat) (client : Client) (found : (SharedBus.start c sessions).clients[i]? = some client) :
      client.station = .outside ∧ client.answers = [] := by
    obtain ⟨session, -, rfl⟩ := List.mem_map.mp (List.mem_of_getElem? found)
    exact ⟨rfl, rfl⟩
  refine ⟨attached, free, fun _ => idle, fun i client found _ => (hclient i client found).1, nofun, ?_⟩
  intro i client found entry member
  rw [(hclient i client found).2] at member
  cases member

theorem map_program_step (b : SharedBus H) (move : Move) :
    (b.step move).clients.map Client.program = b.clients.map Client.program := by
  cases move with
  | interrupt => rfl
  | client i =>
    cases found : b.clients[i]? with
    | none => rw [step, found]
    | some client =>
      obtain ⟨hlength, rfl⟩ := List.getElem?_eq_some_iff.mp found
      have hsame : (b.clients.map Client.program)[i]? = some b.clients[i].program := by
        rw [List.getElem?_map, found]
        rfl
      obtain ⟨hmapped, hprogram⟩ := List.getElem?_eq_some_iff.mp hsame
      rw [step_client found, List.map_set, Client.program_step, ← hprogram]
      exact List.set_getElem_self hmapped

theorem map_program_run (b : SharedBus H) (moves : List Move) :
    (b.run moves).clients.map Client.program = b.clients.map Client.program := by
  induction moves generalizing b with
  | nil => rfl
  | cons move moves ih => exact (ih _).trans (map_program_step b move)

structure Orderly (b : SharedBus H) : Prop where
  exclusive : ∀ (i j : Nat) (client other : Client), b.clients[i]? = some client →
    b.clients[j]? = some other → client.station.Inside → other.station.Inside → i = j
  flagged : b.controller.owned = true ↔ ∃ client ∈ b.clients, client.station.Inside
  accepted : ∀ client ∈ b.clients, ∀ call, client.station = .owning call →
    (b.controller.submit ⟨call.command client.info, none⟩).1 = .ok b.controller.tickets.size
  proper : ∀ client ∈ b.clients, ∀ entry ∈ client.answers, Call.Proper entry.2
  released : (∀ client ∈ b.clients, client.Done) →
    b.controller.owned = false ∧ b.controller.active = none
  live : (∀ i, b.step (.client i) = b) → b.controller.active = none → ∀ client ∈ b.clients, client.Done

omit [Hardware H] in
theorem Shares.held (h : b.Shares holder) {i : Nat} {client : Client}
    (found : b.clients[i]? = some client) (inside : client.station.Inside) : holder = some i := by
  by_cases held : holder = some i
  · exact held
  · rw [h.outside i client found held] at inside
    exact inside.elim

omit [Hardware H] in
theorem Shares.exclusive (h : b.Shares holder) {i j : Nat} {client other : Client}
    (found : b.clients[i]? = some client) (found' : b.clients[j]? = some other)
    (inside : client.station.Inside) (inside' : other.station.Inside) : i = j := by
  have hi := h.held found inside
  rw [h.held found' inside'] at hi
  exact (Option.some.inj hi).symm

omit [Hardware H] in
theorem Shares.owned_iff (h : b.Shares holder) :
    b.controller.owned = true ↔ ∃ client ∈ b.clients, client.station.Inside := by
  rw [h.owned, Option.isSome_iff_exists]
  constructor
  · rintro ⟨i, held⟩
    obtain ⟨client, found, fits⟩ := h.inside i held
    exact ⟨client, List.mem_of_getElem? found, fits.inside⟩
  · rintro ⟨client, member, inside⟩
    obtain ⟨i, found⟩ := List.getElem?_of_mem member
    exact ⟨i, h.held found inside⟩

theorem Shares.accepts (h : b.Shares holder) {client : Client} (member : client ∈ b.clients) {call : Call}
    (owning : client.station = .owning call) :
    (b.controller.submit ⟨call.command client.info, none⟩).1 = .ok b.controller.tickets.size := by
  obtain ⟨i, found⟩ := List.getElem?_of_mem member
  have held := h.held found (by rw [owning]; trivial)
  obtain ⟨same, hsame, fits⟩ := h.inside i held
  rw [found] at hsame
  have hfits : Fits b.controller (.owning call) := by
    rw [← owning, Option.some.inj hsame]
    exact fits
  cases hfits with
  | owning call idle =>
    obtain ⟨submitted, hsubmit, -⟩ := Controller.submit_awaits h.attached idle
      ⟨call.command client.info, none⟩
    rw [hsubmit]

omit [Hardware H] in
theorem Shares.released (h : b.Shares holder) (done : ∀ client ∈ b.clients, client.Done) :
    b.controller.owned = false ∧ b.controller.active = none := by
  have hnone : holder = none := by
    refine Option.eq_none_iff_forall_ne_some.mpr fun i hholder => ?_
    obtain ⟨client, found, fits⟩ := h.inside i hholder
    have inside := fits.inside
    rw [(done client (List.mem_of_getElem? found)).2] at inside
    exact inside.elim
  rw [h.owned, hnone]
  exact ⟨rfl, h.idle hnone⟩

theorem step_client_stuck {i : Nat} {client : Client} (found : b.clients[i]? = some client)
    (stuck : b.step (.client i) = b) : (client.step b.controller).1 = client := by
  rw [step_client found] at stuck
  have hset := congrArg (fun b : SharedBus H => b.clients[i]?) stuck
  obtain ⟨hlength, -⟩ := List.getElem?_eq_some_iff.mp found
  dsimp only at hset
  rw [List.getElem?_set_self hlength, found] at hset
  exact Option.some.inj hset

theorem Shares.unheld_of_stuck (h : b.Shares holder) (stuck : ∀ i, b.step (.client i) = b)
    (idle : b.controller.active = none) : holder = none := by
  refine Option.eq_none_iff_forall_ne_some.mpr fun i hholder => ?_
  obtain ⟨client, found, fits⟩ := h.inside i hholder
  rcases h.step_inside found hholder fits with ⟨-, busy⟩ | ⟨moved, -⟩
  · rw [idle] at busy
    cases busy
  · exact moved (congrArg Client.station (step_client_stuck found (stuck i)))

theorem Shares.done_of_stuck (h : b.Shares holder) (stuck : ∀ i, b.step (.client i) = b)
    (idle : b.controller.active = none) {client : Client} (member : client ∈ b.clients) : client.Done := by
  have hnone := h.unheld_of_stuck stuck idle
  obtain ⟨i, found⟩ := List.getElem?_of_mem member
  have held : holder ≠ some i := by rw [hnone]; nofun
  refine ⟨?_, h.outside i client found held⟩
  rcases h.step_outside found held with ⟨-, calls | owned⟩ | ⟨moved, -⟩
  · exact calls
  · exact (owned hnone).elim
  · exact (moved (congrArg Client.calls (step_client_stuck found (stuck i)))).elim

theorem Shares.orderly (h : b.Shares holder) : b.Orderly where
  exclusive _ _ _ _ found found' inside inside' := h.exclusive found found' inside inside'
  flagged := h.owned_iff
  accepted _ member _ owning := h.accepts member owning
  proper client member := by
    obtain ⟨i, found⟩ := List.getElem?_of_mem member
    exact h.sound i client found
  released done := h.released done
  live stuck idle _ member := h.done_of_stuck stuck idle member

end SharedBus

section Alone

open Session

variable {H : Type} [Hardware H] [InterruptLine H]

theorem Call.act_refused {call : Call} {e : SessionError} (refused : call.refusal? = some e)
    (s : Session H) : call.act.run.run s = (.error e, s) := by
  rw [act, refused]
  rfl

theorem Call.act_executes {call : Call} (aligned : call.refusal? = none) (s : Session H) :
    call.act.run.run s =
      match (execute ⟨call.command s.info, none⟩).run.run
        { s with controller := s.controller.acquire?.getD s.controller } with
      | (result, s') =>
        (result.map (·.command), { s' with controller := s'.controller.release }) := by
  have hact : (call.act : Action H (Command Bytes)) =
      owning (do Session.command (call.command (← get).info)) := by
    rw [act, aligned]
  rw [hact, run_owning_info fun info => Session.command (call.command info), run_command]
  rcases (execute _).run.run _ with ⟨_ | _, _⟩ <;> rfl

/-- What a client calls is what a session offers, but for the form of the result. -/
theorem Call.run_act (s : Session H) (block : UInt64) (buffer : Bytes) :
    (readBlock block buffer).run.run s =
        (((read block buffer).act.run.run s).1.map fun last => (last.data.map (·.buffer)).getD buffer,
          ((read block buffer).act.run.run s).2) ∧
      (writeBlock block buffer).run.run s =
        (((write block buffer).act.run.run s).1.map fun _ => (),
          ((write block buffer).act.run.run s).2) ∧
      Session.status.run.run s =
        ((status.act.run.run s).1.map fun last => last.response.word 0, (status.act.run.run s).2) := by
  refine ⟨?_, ?_, ?_⟩
  · unfold readBlock
    by_cases size : buffer.length = blockSize
    · have aligned : (read block buffer).refusal? = none := if_pos size
      rw [if_neg (not_not_intro size), act_executes aligned]
      refine (run_exchange ((read block buffer).command ·) _ s).trans ?_
      rcases (execute _).run.run _ with ⟨_ | _, _⟩ <;> rfl
    · have refused : (read block buffer).refusal? = some (.unaligned buffer.length) := if_neg size
      rw [if_pos size, act_refused refused]
      rfl
  · unfold writeBlock
    by_cases size : buffer.length = blockSize
    · have aligned : (write block buffer).refusal? = none := if_pos size
      rw [if_neg (not_not_intro size), act_executes aligned]
      refine (run_exchange ((write block buffer).command ·) _ s).trans ?_
      rcases (execute _).run.run _ with ⟨_ | _, _⟩ <;> rfl
    · have refused : (write block buffer).refusal? = some (.unaligned buffer.length) := if_neg size
      rw [if_pos size, act_refused refused]
      rfl
  · rw [act_executes (show status.refusal? = none from rfl)]
    refine (run_exchange (status.command ·) _ s).trans ?_
    rcases (execute _).run.run _ with ⟨_ | _, _⟩ <;> rfl

omit [InterruptLine H] in
theorem SharedBus.run_append (b : SharedBus H) (moves moves' : List Move) :
    b.run (moves ++ moves') = (b.run moves).run moves' :=
  List.foldl_append

theorem SharedBus.run_serveLine (c : Controller H) (clients : List Client) (limit : Nat) :
    ∃ moves, SharedBus.run ⟨c, clients⟩ moves = ⟨(c.serveLine limit).2, clients⟩ := by
  induction limit generalizing c with
  | zero => exact ⟨[], rfl⟩
  | succ limit ih =>
    rw [Controller.serveLine, pump]
    split
    · obtain ⟨moves, h⟩ := ih c.interrupt
      exact ⟨.interrupt :: moves, h⟩
    · exact ⟨[], rfl⟩

/-- A client whose interrupts are served, and who has the controller to itself, does in its steps what the
call does in one go. -/
theorem Call.steps (call : Call) {s : Session H} (attended : s.attended = true)
    (free : s.controller.owned = false)
    (finishes : ∀ milliseconds, (call.act.run.run s).1 ≠ .error (.stalled milliseconds)) :
    ∃ moves, (SharedBus.start s.controller [(s.info, [call])]).run moves =
      ⟨(call.act.run.run s).2.controller,
        [{ info := s.info, calls := [], answers := [(call, (call.act.run.run s).1)] }]⟩ := by
  cases hrefusal : call.refusal? with
  | some e =>
    refine ⟨[.client 0], ?_⟩
    rw [act_refused hrefusal]
    simp [SharedBus.run, SharedBus.start, SharedBus.step, Client.step, hrefusal]
  | none =>
    let taken : Session H := { s with controller := { s.controller with owned := true } }
    have hacquire : s.controller.acquire? = some taken.controller := by
      rw [Controller.acquire?, free]
      rfl
    have hact := act_executes hrefusal s
    rw [hacquire, Option.getD_some] at hact
    rcases hsubmit : taken.controller.submit ⟨call.command s.info, none⟩ with ⟨rejection | ticket, c⟩
    · have hexecute : (execute ⟨call.command s.info, none⟩).run.run taken =
          (.error (.refused rejection.reason), { taken with controller := c }) := by
        change execute _ taken = _
        unfold execute
        rw [hsubmit]
      refine ⟨[.client 0, .client 0, .client 0], ?_⟩
      rw [hact, hexecute]
      simp [SharedBus.run, SharedBus.start, SharedBus.step, Client.step, hrefusal, hacquire, hsubmit,
        Except.map]
    · let waits : Client := { info := s.info, calls := [], station := .waiting call ticket }
      have hbegin : (SharedBus.start s.controller [(s.info, [call])]).run [.client 0, .client 0] =
          ⟨c, [waits]⟩ := by
        simp [SharedBus.run, SharedBus.start, SharedBus.step, Client.step, hrefusal, hacquire, hsubmit,
          waits]
      -- The client takes the bus and submits, the handler serves the request, and the client polls and lets go.
      obtain ⟨moves, hserve⟩ := SharedBus.run_serveLine c [waits] serviceLimit
      generalize hserved : (c.serveLine serviceLimit).2 = served at hserve
      refine ⟨[.client 0, .client 0] ++ moves ++ [.client 0, .client 0], ?_⟩
      rw [SharedBus.run_append, SharedBus.run_append, hbegin, hserve]
      rcases hpoll : served.toParts.poll ticket with ⟨result, parts⟩
      have hexecute := run_execute (s := taken) attended hsubmit hserved hpoll
      rw [hexecute] at hact
      rcases result with e | _ | request
      · rw [hact]
        simp [SharedBus.run, SharedBus.step, Client.step, waits, hpoll, outcome, Except.map]
      · exact (finishes taken.patience (congrArg Prod.fst hact)).elim
      · rw [hact]
        cases herror : firstError request <;>
          simp [SharedBus.run, SharedBus.step, Client.step, waits, hpoll, outcome, answer, herror,
            Except.map]

end Alone

/-- Sessions that share a controller which was idle and free when they began, on any hardware, with any
lists of calls, after any steps in any order: at most one client is between taking the bus and giving it
back, the bus is marked as owned just while one is, nobody's request is refused, and calls end in success
or in an error of their own. When every call has returned, the bus is free and no request is in progress.
Each client has answered its calls one by one, in order. -/
theorem sessions_never_collide {H : Type} [Hardware H] {c : Controller H} (attached : c.detached = false)
    (idle : c.active = none) (free : c.owned = false) (sessions : List (CardInfo × List Call))
    (moves : List SharedBus.Move) :
    ((SharedBus.start c sessions).run moves).Orderly ∧
      ((SharedBus.start c sessions).run moves).clients.map Client.program =
        sessions.map Prod.snd := by
  obtain ⟨holder, h⟩ := (SharedBus.Shares.start attached idle free sessions).run moves
  refine ⟨h.orderly, ?_⟩
  rw [SharedBus.map_program_run, SharedBus.start, List.map_map]
  rfl

theorem second_client_waits :
    let sim : Simulator := { soc := .sam9260, card := .ofMedium (.blank 512) }
    let c : Controller Simulator := .attach 0 (Board.reference .sam9260) .default sim
    let b := (SharedBus.start c [({}, [.status]), ({}, [.read 0 [], .status])]).run
      [.client 0, .client 1, .client 1, .client 0, .client 1, .interrupt, .client 0, .interrupt, .client 0,
        .client 1]
    c.detached = false ∧ c.active = none ∧ c.owned = false ∧ b.Orderly ∧
      b.controller.owned = true ∧ b.clients.map (·.answers.length) = [1, 1] := by
  intro sim c b
  have hattached : c.detached = false := by decide +kernel
  have hidle : c.active = none := by decide +kernel
  have hfree : c.owned = false := by decide +kernel
  exact ⟨hattached, hidle, hfree, (sessions_never_collide hattached hidle hfree _ _).1,
    by decide +kernel, by decide +kernel⟩

end CardHost
