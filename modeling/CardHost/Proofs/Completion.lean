import CardHost.Proofs.Bench
import CardHost.Proofs.Latching
import CardHost.Proofs.SimulatedService

namespace CardHost

open Bus

namespace Command

variable {B : Type}

def transfers (command : Command B) : Bool := command.data.elim false fun data => data.flags.transfers

/-- A command that comes back in some way from its data phase: the answer of the card is expected, and the
command is not the one that stops transfers. -/
def Declares (command : Command B) : Prop :=
  command.transfers = true → command.flags.present = true ∧ command.opcode ≠ Opcode.stopTransmission

def Takes (command : Command B) (n : Nat) : Prop :=
  if command.error = some .noMemory then n = 0
  else if command.transfers then 1 ≤ n ∧ n ≤ 3
  else n = 1

theorem transfers_blank (command : Command B) : command.blank.transfers = command.transfers := by
  cases h : command.data <;> simp [transfers, blank, h]

theorem transfers_map {C : Type} (f : B → C) (command : Command B) :
    (command.map f).transfers = command.transfers := by
  cases h : command.data <;> simp [transfers, map, Payload.map, h]

theorem declares_map {C : Type} (f : B → C) (command : Command B) :
    (command.map f).Declares ↔ command.Declares := by
  rw [Declares, transfers_map]
  rfl

theorem takes_map {C : Type} (f : B → C) (command : Command B) (n : Nat) :
    (command.map f).Takes n ↔ command.Takes n := by
  rw [Takes, transfers_map]
  rfl

end Command

def Request.Takes {B : Type} (request : Request B) (n : Nat) : Prop :=
  if request.command.error = some .noMemory then n = 0
  else ∃ first second, request.command.Takes first ∧ n = first + second ∧
    request.stop.elim (second = 0) (·.Takes second)

theorem Request.takes_map {B C : Type} (f : B → C) (request : Request B) (n : Nat) :
    (request.map f).Takes n ↔ request.Takes n := by
  have hstop (second : Nat) : (request.map f).stop.elim (second = 0) (·.Takes second) ↔
      request.stop.elim (second = 0) (·.Takes second) := by
    cases hs : request.stop with
    | none => simp only [map, hs, Option.map_none, Option.elim_none]
    | some stop => simp only [map, hs, Option.map_some, Option.elim_some, Command.takes_map]
  simp only [Takes, hstop]
  simp only [map, Command.takes_map]
  rfl

namespace Stage

def calls : Stage → Nat
  | receiving | sending => 3
  | filling | settling => 2
  | ready => 1

theorem calls_next {stage : Stage} (more : stage ≠ ready) : stage.calls = stage.next.calls + 1 := by
  cases stage with
  | ready => exact (more rfl).elim
  | _ => rfl

theorem calls_first (command : Command BufferId) :
    (first command).calls = if command.transfers then 3 else 1 := by
  unfold first Command.transfers DataFlags.transfers
  cases command.data with
  | none => rfl
  | some data =>
    simp only [Option.elim_some, Bool.or_eq_true]
    split
    · next isRead => rw [if_pos (.inl isRead)]; rfl
    · next isRead =>
      split
      · next isWrite => rw [if_pos (.inr isWrite)]; rfl
      · next isWrite => rw [if_neg (not_or.mpr ⟨isRead, isWrite⟩)]; rfl

end Stage

namespace Controller

variable {c c' : Controller Simulator} {a : Active} {command : Command BufferId} {left : Bool}
  {stage : Stage} {bus : Bus Simulator} {l : List Access}

/-- A controller whose hardware has something to report: an error, or the end of the stage, after which it
has the end of the command to report. -/
structure Due (left : Bool) (c : Controller Simulator) (stage : Stage) : Prop where
  attached : c.detached = false
  works : c.Works left stage
  still : c.bus.hardware.Still
  reports : c.bus.hardware.Reports
  due : anyBit c.bus.hardware.latched Status.errors = true ∨
    c.bus.hardware.hasEnded stage ∧ anyBit c.bus.hardware.latched Status.commandReady = true

def Free (c : Controller Simulator) : Prop := c.active = none ∧ c.bus.hardware.mask = 0

inductive Launched (c : Controller Simulator) (a : Active) (command : Command BufferId)
    (c' : Controller Simulator) : Prop
  | refused (transfers : command.transfers = true) (free : c'.Free)
    (alike : c.bus.memory.Alike c'.bus.memory)
    (tickets : c'.tickets = delivered c.tickets (a.replace (unmapped command)))
  | issued (left : Bool) (last : Command BufferId) (blank : last.blank = command.blank)
    (due : c'.Due left (Stage.first command)) (alike : c.bus.memory.Alike c'.bus.memory)
    (tickets : c'.tickets = c.tickets) (active : c'.active = some (a.replace last))

theorem Issues.due (h : c.Issues command bus c') (busy : c'.active ≠ none)
    (still : c.bus.hardware.Still) (reports : c.bus.hardware.Reports) (declares : command.Declares) :
    anyBit bus.hardware.latched Status.errors = true ∨
      bus.hardware.hasEnded (Stage.first command) ∧
        anyBit bus.hardware.latched Status.commandReady = true := by
  cases h with
  | plain quiet arms _ issues =>
    have hready := issues.issued rfl
    rw [Stage.first_quiet quiet]
    exact .inr ⟨hready, hready⟩
  | read data_eq isRead arms quiet issues =>
    have transfers : command.transfers = true := by
      rw [Command.transfers, data_eq, Option.elim_some, DataFlags.transfers, isRead, Bool.true_or]
    obtain ⟨present, other⟩ := declares transfers
    have hready : anyBit bus.hardware.latched Status.commandReady = true := by
      obtain ⟨b, -, hcommand⟩ := issues.head_write
      exact hcommand.issued rfl
    have hended := issues.received (arms.reports reports) (arms.still quiet still)
      (c.wireWord_starts command transfers other) (by rw [c.wireWord_responseKind, present])
      (by rw [c.wireWord_fromCard, data_eq]; exact isRead) rfl
    rw [Stage.first_read data_eq isRead]
    exact hended.imp_right fun ended => ⟨ended, hready⟩
  | write data_eq isRead isWrite arms quiet issues =>
    have transfers : command.transfers = true := by
      rw [Command.transfers, data_eq, Option.elim_some, DataFlags.transfers, isWrite, Bool.or_true]
    obtain ⟨present, other⟩ := declares transfers
    have hsent := issues.sent (arms.reports reports) (c.wireWord_starts command transfers other)
      (by rw [c.wireWord_responseKind, present])
      (by rw [c.wireWord_fromCard, data_eq]; exact isRead) rfl
    rw [Stage.first_write data_eq isRead isWrite]
    exact hsent.1.imp_right fun ended => ⟨ended, hsent.2⟩
  | nothing _ _ idle => exact (busy idle).elim

theorem Launches.launched (hl : Launches c a command bus l c') (hp : Performs c.bus l bus)
    (ha : c.active = some a) (hc : a.current? = some command) (attached : c.detached = false)
    (rests : c.Rests left) (still : c.bus.hardware.Still) (reports : c.bus.hardware.Reports)
    (declares : command.Declares) : c.Launched a command c' := by
  obtain ⟨hb, hway⟩ := hl.outcome ha hc
  have halike : c.bus.memory.Alike c'.bus.memory := by
    rw [hb]
    exact hp.alike
  have hworks := hl.works rests hp ha
  rcases hway with ⟨-, tickets, last, active, blank⟩ | ⟨-, tickets, idle⟩
  · have hends := (hl.issues hp).due (by rw [active]; nofun) still reports declares
    rcases hworks with ⟨none, -⟩ | ⟨a', -, hw⟩
    · rw [active] at none
      cases none
    · refine .issued left last blank ⟨?_, hw, ?_, ?_, ?_⟩ halike tickets active
      · cases hl <;> exact attached
      · rw [hb]
        exact hl.still hp still
      · rw [hb]
        exact hp.reports reports
      · rw [hb]
        exact hends
  · rcases hworks with ⟨-, hr⟩ | ⟨a', active, -⟩
    · refine .refused ?_ ⟨idle, hr.mask⟩ halike tickets
      cases hl with
      | unstaged data mode data_eq transfers => rwa [Command.transfers, data_eq]
      | refused data mode bytes direction error data_eq transfers =>
        rwa [Command.transfers, data_eq]
      | plain | idle => rw [ha] at idle; cases idle
      | read | write => cases idle
    · rw [idle] at active
      cases active

inductive Concluded (c : Controller Simulator) (a : Active) (command : Command BufferId)
    (c' : Controller Simulator) : Prop
  | finished (last : Command BufferId) (final : a.pending? = none) (blank : last.blank = command.blank)
    (error : last.error ≠ some .noMemory) (free : c'.Free) (alike : c.bus.memory.Alike c'.bus.memory)
    (tickets : c'.tickets = delivered c.tickets (a.replace last))
  | stopped (last stop : Command BufferId) (between : Controller Simulator)
    (pending : a.pending? = some stop) (blank : last.blank = command.blank)
    (error : last.error ≠ some .noMemory) (alike : c.bus.memory.Alike between.bus.memory)
    (tickets : between.tickets = c.tickets)
    (launched : between.Launched { a.replace last with phase := .stop } stop c')

theorem serves_stage (stage : Stage) : (c.glance ++ stage.accesses).all Access.serves = true := by
  cases stage <;> rfl

theorem Due.asserted (h : c.Due left stage) : InterruptLine.asserted c.bus.hardware = true := by
  change anyBit c.bus.hardware.status c.bus.mask = true
  rw [h.works.mask, Stage.mask, anyBit_bits_or, Bool.or_eq_true, Simulator.anyBit_status_errors]
  exact h.due.imp_right fun ended => h.still.anyBit_status ended.1

theorem Due.next (h : c.Due left stage) (clean : anyBit c.observed Status.errors = false)
    (more : stage ≠ .ready) (hp : Performs c.bus (c.glance ++ stage.accesses) c'.bus)
    (works : c'.Works left stage.next) (attached : c'.detached = false) : c'.Due left stage.next := by
  have hframe := hp.latched (serves_stage stage)
  rw [anyBit_observed_errors h.works.mask] at clean
  obtain ⟨ended, ready⟩ := h.due.resolve_left (by rw [clean]; decide)
  refine ⟨attached, works, hp.still ?_ h.still, hp.reports h.reports, .inr ⟨?_, ?_⟩⟩
  · cases stage <;> rfl
  · cases stage with
    | ready => exact (more rfl).elim
    | receiving =>
      change c'.bus.hardware.register Register.receiveCount = 0
      rw [Simulator.register, hframe.2]
      exact ended
    | sending => trivial
    | filling | settling =>
      change anyBit c'.bus.hardware.latched Status.commandReady = true
      rw [hframe.1]
      exact ready
  · rw [hframe.1]
    exact ready

theorem Due.interrupt (h : c.Due left stage) (ha : c.active = some a)
    (hc : a.current? = some command) (declares : ∀ stop, a.pending? = some stop → stop.Declares) :
    c.Concluded a command c.interrupt ∨
      stage ≠ .ready ∧ ∃ last : Command BufferId, last.blank = command.blank ∧
        c.interrupt.active = some (a.replace last) ∧ c.interrupt.tickets = c.tickets ∧
        c.bus.memory.Alike c.interrupt.bus.memory ∧ c.interrupt.Due left stage.next := by
  have hcur : c.current? = some command := current?_of_active ha hc
  obtain ⟨l, bus, hp, hserves⟩ := interrupt_serves h.attached ha hc
  generalize c.interrupt = c' at hserves
  cases hserves with
  | continues clean waits =>
    have herrors := clean
    rw [anyBit_observed_errors h.works.mask] at herrors
    have hbit : anyBit c.seenStatus stage.bit = true :=
      h.still.anyBit_status (h.due.resolve_left (by rw [herrors]; decide)).1
    have more : stage ≠ .ready := by
      rintro rfl
      have hb := h.works.anyBit_observed .ready
      rw [hbit, show anyBit c.observed Stage.ready.bit = false from waits] at hb
      cases hb
    obtain ⟨haccesses, hmapped⟩ := h.works.stage_ends hbit
    rw [haccesses] at hp
    refine .inr ⟨more, _, blank_staged command _, rfl, rfl, hp.alike, ?_⟩
    exact h.next clean more hp (h.works.next hp more hmapped rfl) h.attached
  | @finishes l mapped last error words final ends =>
    have hrests : ({ c with bus, mapped } : Controller Simulator).Rests (c.leftAfter left) :=
      ends.rests h.works h.attached hcur hp rfl rfl
    exact .inl (.finished (answered last error words) final ends.blank ends.error_ne
      ⟨rfl, hrests.mask⟩ hp.alike rfl)
  | @stops l l' mapped last stop error between c' words pending ends _ reached launched launches =>
    have hrests : (c.proceed between mapped
        { a.replace (answered last error words) with phase := .stop }).Rests (c.leftAfter left) :=
      ends.rests h.works h.attached hcur reached rfl rfl
    have hcurrent := Active.current?_stopping pending (answered last error words)
    refine .inl (.stopped (answered last error words) stop (c.proceed between mapped
      { a.replace (answered last error words) with phase := .stop }) pending ends.blank ends.error_ne
      reached.alike rfl ?_)
    exact launches.launched launched rfl hcurrent h.attached hrests
      (reached.still (ends.still words) h.still) (reached.reports h.reports) (declares stop pending)

theorem Concluded.after {c₁ : Controller Simulator} {last : Command BufferId}
    (h : c₁.Concluded (a.replace last) last c') (blank : last.blank = command.blank)
    (alike : c.bus.memory.Alike c₁.bus.memory) (tickets : c₁.tickets = c.tickets) :
    c.Concluded a command c' := by
  cases h with
  | finished last' final blank' error free alike' tickets' =>
    rw [Active.pending?_replace] at final
    rw [Active.replace_replace, tickets] at tickets'
    exact .finished last' final (blank'.trans blank) error free (alike.trans alike') tickets'
  | stopped last' stop between pending blank' error alike' tickets' launched =>
    rw [Active.pending?_replace] at pending
    rw [Active.replace_replace] at launched
    exact .stopped last' stop between pending (blank'.trans blank) error (alike.trans alike')
      (tickets'.trans tickets) launched

theorem Due.concludes (h : c.Due left stage) (ha : c.active = some a)
    (hc : a.current? = some command) (declares : ∀ stop, a.pending? = some stop → stop.Declares) :
    ∃ n c', Called n c c' ∧ 1 ≤ n ∧ n ≤ stage.calls ∧ c.Concluded a command c' := by
  generalize hn : stage.calls = n
  induction n generalizing c a command stage with
  | zero => cases stage <;> cases hn
  | succ n ih =>
    rcases h.interrupt ha hc declares with concluded |
      ⟨more, last, blank, active, tickets, alike, due⟩
    · exact ⟨1, _, .one h.asserted rfl, Nat.le_refl 1, Nat.le_add_left 1 n, concluded⟩
    · rw [Stage.calls_next more] at hn
      obtain ⟨k, c', hcalled, hpos, hk, concluded⟩ := ih due active (Active.current?_replace hc last)
        (by rwa [Active.pending?_replace]) (Nat.succ.inj hn)
      refine ⟨k + 1, c', .call h.asserted hcalled, Nat.le_add_left 1 k, Nat.succ_le_succ hk, ?_⟩
      exact concluded.after blank alike tickets

theorem Command.takes_of_calls {last command : Command BufferId} {n : Nat}
    (blank : last.blank = command.blank) (error : last.error ≠ some .noMemory) (positive : 1 ≤ n)
    (bound : n ≤ (Stage.first command).calls) : last.Takes n := by
  have htransfers : last.transfers = command.transfers := by
    rw [← last.transfers_blank, blank, command.transfers_blank]
  rw [Stage.calls_first, ← htransfers] at bound
  rw [Command.Takes, if_neg error]
  cases ht : last.transfers with
  | true =>
    rw [ht] at bound
    exact ⟨positive, bound⟩
  | false =>
    rw [ht] at bound
    exact Nat.le_antisymm bound positive

structure Served (c : Controller Simulator) (a : Active) (n : Nat) (served : Controller Simulator)
    (result : Active) : Prop where
  ticket : result.ticket = a.ticket
  blank : result.request.blank = a.request.blank
  takes : result.request.Takes n
  free : served.Free
  alike : c.bus.memory.Alike served.bus.memory
  tickets : served.tickets = delivered c.tickets result

theorem Launched.served_stop {first stop : Command BufferId} {first_calls : Nat}
    (h : c.Launched { a with phase := .stop } stop c') (command : a.request.command = first)
    (pending : a.request.stop = some stop) (error : first.error ≠ some .noMemory)
    (takes : first.Takes first_calls) :
    ∃ n served result, Called n c' served ∧ c.Served a (first_calls + n) served result := by
  have hcurrent : ({ a with phase := .stop } : Active).current? = some stop := pending
  have result (n : Nat) (last : Command BufferId) (blank : last.blank = stop.blank)
      (htakes : last.Takes n) {served : Controller Simulator} (free : served.Free)
      (alike : c.bus.memory.Alike served.bus.memory) (tickets : served.tickets = delivered c.tickets
        (({ a with phase := .stop } : Active).replace last)) :
      c.Served a (first_calls + n) served (({ a with phase := .stop } : Active).replace last) := by
    refine ⟨Active.ticket_replace _ _, Active.blank_replace hcurrent blank, ?_, free, alike, tickets⟩
    have hlast : (({ a with phase := .stop } : Active).replace last).request.stop = some last := by
      have hl := Active.current?_replace hcurrent last
      rwa [Active.current?, Active.phase_replace] at hl
    rw [Request.Takes, Active.command_replace rfl, command, if_neg error]
    refine ⟨first_calls, n, takes, rfl, ?_⟩
    rw [hlast]
    exact htakes
  cases h with
  | refused transfers free alike tickets =>
    refine ⟨0, c', _, .nothing c', result 0 _ (blank_unmapped stop) ?_ free alike tickets⟩
    rw [Command.Takes, if_pos (show (unmapped stop).error = some .noMemory from rfl)]
  | issued left last blank due alike tickets active =>
    obtain ⟨n, served, hcalled, positive, bound, concluded⟩ := due.concludes active
      (Active.current?_replace hcurrent last) (by simp [Active.pending?])
    cases concluded.after blank alike tickets with
    | finished last final blank error free alike tickets =>
      exact ⟨n, served, _, hcalled, result n last blank
        (Command.takes_of_calls blank error positive bound) free alike tickets⟩
    | stopped last stop between pending => cases pending

theorem Launched.served (h : c.Launched a a.request.command c') (phase : a.phase = .command)
    (declares : ∀ stop, a.request.stop = some stop → stop.Declares) :
    ∃ n served result, Called n c' served ∧ c.Served a n served result := by
  have hcurrent : a.current? = some a.request.command := by rw [Active.current?, phase]
  have hpending : a.pending? = a.request.stop := by rw [Active.pending?, phase]
  cases h with
  | refused transfers free alike tickets =>
    refine ⟨0, c', _, .nothing c', Active.ticket_replace _ _,
      Active.blank_replace hcurrent (blank_unmapped _), ?_, free, alike, tickets⟩
    rw [Request.Takes, Active.replace_command phase,
      if_pos (show (unmapped a.request.command).error = some .noMemory from rfl)]
  | issued left last blank due alike tickets active =>
    obtain ⟨n, served, hcalled, positive, bound, concluded⟩ := due.concludes active
      (Active.current?_replace hcurrent last) (by rwa [Active.pending?_replace, hpending])
    cases concluded.after blank alike tickets with
    | finished last final blank error free alike tickets =>
      have hstop : (a.replace last).request.stop = none := by
        rw [← Active.pending?_replace a last, Active.pending?, Active.phase_replace, phase] at final
        exact final
      refine ⟨n, served, _, hcalled, Active.ticket_replace _ _, Active.blank_replace hcurrent blank, ?_,
        free, alike, tickets⟩
      rw [Request.Takes, Active.replace_command phase, if_neg error, hstop]
      exact ⟨n, 0, Command.takes_of_calls blank error positive bound, rfl, rfl⟩
    | stopped last stop between pending blank error alike tickets launched =>
      obtain ⟨m, served', result, hrest, hserved⟩ := launched.served_stop
        (Active.replace_command phase last) (Active.stop_replace pending last) error
        (Command.takes_of_calls blank error positive bound)
      refine ⟨n + m, served', result, hcalled.trans hrest, hserved.ticket.trans (Active.ticket_replace _ _),
        hserved.blank.trans (Active.blank_replace hcurrent blank), hserved.takes, hserved.free,
        alike.trans hserved.alike, ?_⟩
      rw [hserved.tickets, tickets]

end Controller

/-- A request that a controller accepts on a simulator, after whatever has happened to them, is served to
its end: each call of the handler finds the line asserted, a command takes three at most, and then the
handle answers the request, the controller is free, and the line is quiet. A fault that is armed has to
show as an error, and a command with data has to expect an answer and not to be the stop. -/
theorem accepted_request_finishes (unit : UInt32) (board : Board) (options : Options) (sim : Simulator)
    (stimuli : List Stimulus) {c : Controller Simulator}
    (reached : (System.start unit board options sim).afterStimuli stimuli = .whole c)
    (faults : c.bus.hardware.injected = 0 ∨ anyBit c.bus.hardware.injected Status.errors = true)
    {request : Request Bytes}
    (declares : ∀ command ∈ request.command :: request.stop.toList, command.Declares)
    {ticket : Nat} {submitted : Controller Simulator}
    (accepted : c.submit request = (.ok ticket, submitted)) :
    ∃ calls served result,
      Controller.Called calls submitted served ∧ result.Takes calls ∧
      (∀ limit, calls ≤ limit → submitted.serveLine limit = (calls, served)) ∧
      (served.toParts.poll ticket).1 = .ok (some result) ∧ result.outline = request.outline ∧
      served.active = none ∧ InterruptLine.asserted served.bus.hardware = false := by
  have hsteady := Controller.steady_afterStimuli unit board options sim stimuli reached
  obtain ⟨left, hbalanced⟩ := hsteady.balanced
  obtain ⟨attached, idle, -, -⟩ := Controller.of_accepted accepted
  obtain ⟨l, bus, hp, hlaunches, hticket⟩ := c.submit_launches attached idle request
  rw [accepted] at hlaunches hticket
  cases hticket
  have hplaced := c.bus.memory.map_place request
  have hrests := hbalanced.rests idle
  have hcommand : (c.accepted request).request.command.Declares := by
    have h := declares request.command (List.mem_cons_self ..)
    rw [← congrArg Request.command hplaced] at h
    exact (Command.declares_map _ _).mp h
  have hstop : ∀ stop, (c.accepted request).request.stop = some stop → stop.Declares := by
    intro stop hs
    have hmap := (congrArg Request.stop hplaced).symm.trans (congrArg (Option.map _) hs)
    apply (Command.declares_map (c.bus.memory.place request).2.get _).mp
    apply declares
    rw [hmap]
    exact List.mem_cons_of_mem _ (List.mem_singleton_self _)
  have hfree : (c.take request).Rests left := ⟨hrests.count, hrests.mask, hrests.mapping⟩
  have hlaunched := hlaunches.launched hp rfl rfl attached hfree hsteady.still faults hcommand
  obtain ⟨calls, served, result, hcalled, hserved⟩ := hlaunched.served rfl hstop
  have hquiet : InterruptLine.asserted served.bus.hardware = false :=
    Simulator.quiet_of_masked hserved.free.2
  have hwaiting : (c.take request).tickets[result.ticket]? = some .waiting := by
    rw [hserved.ticket]
    exact Array.getElem?_push_size
  refine ⟨calls, served, result.request.map served.bus.memory.get, hcalled, ?_,
    fun limit enough => hcalled.serveLine hquiet enough, ?_, ?_, hserved.free.1, hquiet⟩
  · exact (Request.takes_map _ _ _).mpr hserved.takes
  · have hpoll := Parts.poll_delivered (p := served.toParts) hserved.tickets hwaiting
    rwa [hserved.ticket] at hpoll
  · rw [Request.outline, Request.map_map, Request.blank_map, hserved.blank, ← Request.blank_map]
    have hlength : List.length ∘ served.bus.memory.get =
        List.length ∘ (c.bus.memory.place request).2.get := by
      funext id
      exact hserved.alike.2 id
    rw [hlength, ← Request.map_map]
    exact congrArg (fun r : Request Bytes => (r.map List.length).blank) hplaced

theorem faulty_write_finishes :
    let sim : Simulator :=
      { soc := .sam9260, card := { medium := Medium.blank 1024, state := .transfer } }
    let write : Request Bytes :=
      { command :=
          { opcode := Opcode.writeBlocks
            flags := .r1
            data := some ⟨[1, 2, 3, 4], DataFlags.write.multiple, 0⟩ }
        stop := some Request.stopTransmission }
    ∃ c submitted calls served result,
      (System.start 0 (Board.reference .sam9260) .default sim).afterStimuli
          [.operate (.writeProperty (.powerMode .on)), .operate .update, .inject Status.dataCrc] =
        .whole c ∧
      anyBit c.bus.hardware.injected Status.errors = true ∧
      c.submit write = (.ok 0, submitted) ∧ Controller.Called calls submitted served ∧
      result.Takes calls ∧ (served.toParts.poll 0).1 = .ok (some result) ∧
      result.outline = write.outline ∧ served.active = none ∧
      InterruptLine.asserted served.bus.hardware = false := by
  intro sim write
  have declares : ∀ command ∈ write.command :: write.stop.toList, command.Declares := by
    intro command h
    rcases List.mem_cons.mp h with rfl | h
    · exact fun _ => ⟨by decide, by decide⟩
    · rcases List.mem_singleton.mp h with rfl
      exact nofun
  have faulty : anyBit Status.dataCrc Status.errors = true := by decide
  obtain ⟨calls, served, result, hcalled, htakes, -, hpoll, houtline, hidle, hquiet⟩ :=
    accepted_request_finishes 0 (Board.reference .sam9260) .default sim
      [.operate (.writeProperty (.powerMode .on)), .operate .update, .inject Status.dataCrc] rfl
      (.inr faulty) declares rfl
  exact ⟨_, _, calls, served, result, rfl, faulty, rfl, hcalled, htakes, hpoll, houtline, hidle, hquiet⟩

end CardHost
