import CardHost.Proofs.Launches

namespace CardHost

open Bus

namespace Access

/-- An access of the handler to a command that is on the wire. -/
def serves : Access → Bool
  | .write offset value =>
    offset == Register.enable || offset == Register.disable ||
      offset == Register.channelControl && value == Channel.stop
  | _ => true

/-- Serves a stage of a transfer: enables or disables interrupts, stops the channels, or takes the buffer
back. -/
def tends : Access → Bool
  | .write offset value =>
    offset == Register.enable || offset == Register.disable ||
      offset == Register.channelControl && value == Channel.stop
  | .sync _ | .unload => true
  | .read _ _ | .load _ _ _ => false

theorem serves_of_tends {l : List Access} (h : l.all tends = true) : l.all serves = true := by
  refine List.all_eq_true.mpr fun access member => ?_
  have htends := List.all_eq_true.mp h access member
  cases access with
  | write => exact htends
  | _ => rfl

theorem all_of_serves {p : Access → Bool} (enables : ∀ value, p (.write Register.enable value) = true)
    (disables : ∀ value, p (.write Register.disable value) = true)
    (stops : p (.write Register.channelControl Channel.stop) = true)
    (reads : ∀ offset value, p (.read offset value) = true)
    (loads : ∀ id length direction, p (.load id length direction) = true)
    (syncs : ∀ point, p (.sync point) = true) (unloads : p .unload = true) {l : List Access}
    (h : l.all serves = true) : l.all p = true := by
  refine List.all_eq_true.mpr fun access member => ?_
  have hserves := List.all_eq_true.mp h access member
  cases access with
  | write offset value =>
    simp only [serves, Bool.or_eq_true, beq_iff_eq, Bool.and_eq_true] at hserves
    rcases hserves with (rfl | rfl) | ⟨rfl, rfl⟩
    · exact enables value
    · exact disables value
    · exact stops
  | read offset value => exact reads offset value
  | load id length direction => exact loads id length direction
  | sync point => exact syncs point
  | unload => exact unloads

end Access

namespace Active

def pending? (a : Active) : Option (Command BufferId) :=
  match a.phase with
  | .command => a.request.stop
  | .stop => none

@[simp] theorem pending?_replace (a : Active) (command : Command BufferId) :
    (a.replace command).pending? = a.pending? := by
  obtain ⟨ticket, ⟨first, stop⟩, phase⟩ := a
  cases phase <;> rfl

theorem current?_stop (a : Active) :
    ({ a with phase := .stop } : Active).current? = a.request.stop := rfl

theorem stop_replace {a : Active} {stop : Command BufferId} (h : a.pending? = some stop)
    (command : Command BufferId) : (a.replace command).request.stop = some stop := by
  obtain ⟨ticket, request, phase⟩ := a
  cases phase with
  | command => exact h
  | stop => simp [pending?] at h

theorem current?_stopping {a : Active} {stop : Command BufferId} (h : a.pending? = some stop)
    (command : Command BufferId) : ({ a.replace command with phase := .stop } : Active).current? = some stop :=
  (current?_stop _).trans (stop_replace h command)

end Active

namespace Controller

variable {H : Type} [Hardware H] {c : Controller H} {a : Active} {command : Command BufferId}

def proceed (c : Controller H) (bus : Bus H) (mapped : Nat) (a : Active) : Controller H :=
  { c with bus, mapped, active := some a }

omit [Hardware H] in
theorem proceed_proceed (c : Controller H) (bus bus' : Bus H) (mapped mapped' : Nat)
    (a a' : Active) : (c.proceed bus mapped a).proceed bus' mapped' a' = c.proceed bus' mapped' a' :=
  rfl

omit [Hardware H] in
theorem current?_of_idle (idle : c.active = none) : c.current? = none := by
  rw [current?, idle, Option.bind_none]

omit [Hardware H] in
theorem current?_of_active (ha : c.active = some a) (hc : a.current? = some command) :
    c.current? = some command := by
  rw [current?, ha, Option.bind_some, hc]

omit [Hardware H] in
theorem proceed_self (ha : c.active = some a) (hc : a.current? = some command) :
    c.proceed c.bus c.mapped (a.replace command) = c := by
  rw [Active.replace_current hc, proceed, ← ha]

def fillResponse : Response → Nat → List UInt32 → Response
  | response, _, [] => response
  | response, i, word :: rest => fillResponse (response.setIfInBounds i word) (i + 1) rest

def responseReads : Nat → List UInt32 → List Access
  | _, [] => []
  | i, word :: rest => .read (Register.response + 4 * i) word :: responseReads (i + 1) rest

theorem readResponse_eq (ha : c.active = some a) (hc : a.current? = some command) (i n : Nat) :
    ∃ words bus, words.length = n ∧ Performs c.bus (responseReads i words) bus ∧
      c.readResponse i n = c.proceed bus c.mapped (a.replace
        { command with response := fillResponse command.response i words }) := by
  induction n generalizing c a command i with
  | zero =>
    refine ⟨[], c.bus, rfl, .done _, ?_⟩
    exact (proceed_self ha hc).symm
  | succ n ih =>
    have hm := modifyCurrent_eq (c := (c.read (Register.response + 4 * i)).2) ha hc fun cmd =>
      { cmd with
        response := cmd.response.setIfInBounds i (c.read (Register.response + 4 * i)).1 }
    obtain ⟨words, bus, hlen, hp, he⟩ := ih (congrArg Controller.active hm)
      (Active.current?_replace hc _) (i + 1)
    rw [hm] at hp
    refine ⟨_ :: words, bus, by rw [List.length_cons, hlen], .read _ hp, ?_⟩
    simp only [readResponse]
    rw [he, hm, Active.replace_replace]
    rfl

def releasing (mapped : Nat) : List Access := if mapped = 0 then [] else [.unload]

theorem unload_eq (c : Controller H) :
    ∃ bus, Performs c.bus (releasing c.mapped) bus ∧
      c.unload = { c with bus, mapped := c.mapped - 1 } := by
  by_cases hm : c.mapped = 0
  · refine ⟨c.bus, ?_, ?_⟩
    · rw [releasing, if_pos hm]
      exact .done _
    · rw [unload, if_pos hm, hm, Nat.zero_sub, ← hm]
  · refine ⟨c.bus.unload, ?_, ?_⟩
    · rw [releasing, if_neg hm]
      exact .unload (.done _)
    · rw [unload, if_neg hm]

def accounted (c : Controller H) (command : Command BufferId) : Command BufferId :=
  { command with
    data := command.data.map fun data => { data with moved := (c.buffer data.buffer).length } }

omit [Hardware H] in
theorem accounted_moved (c : Controller H) {data : Payload BufferId}
    (hd : command.data = some data) : c.accounted command =
      { command with data := some { data with moved := (c.buffer data.buffer).length } } := by
  rw [accounted, hd]
  rfl

omit [Hardware H] in
theorem accounted_congr {c c' : Controller H} (h : c.bus.memory.Alike c'.bus.memory)
    (command : Command BufferId) : c'.accounted command = c.accounted command := by
  simp only [accounted, buffer, h.2]

omit [Hardware H] in
/-- Accounting goes by the command as the interrupt found it, which may be accounted already. -/
theorem accountMoved_eq (found : Command BufferId) (ha : c.active = some a)
    (hc : a.current? = some command) (hf : command = found ∨ command = c.accounted found) :
    c.accountMoved found = { c with active := some (a.replace (c.accounted found)) } := by
  cases hd : found.data with
  | none =>
    have he : c.accounted found = found := by
      obtain ⟨opcode, argument, flags, data, error, response⟩ := found
      cases hd
      rfl
    rw [he, or_self] at hf
    simp only [accountMoved, hd]
    rw [he, ← hf, Active.replace_current hc, ← ha]
  | some data =>
    simp only [accountMoved, hd]
    rw [modifyCurrent_eq ha hc]
    rcases hf with rfl | rfl <;> simp [accounted, hd]

def sentStage (mapped : Nat) : List Access :=
  writes [(Register.channelControl, Channel.stop), (Register.disable, Status.transmitEmpty),
    (Register.enable, Status.notBusy)] ++ .sync .afterWrite :: releasing mapped

def fullStage : List Access :=
  writes [(Register.disable, Status.receiveFull), (Register.enable, Status.commandReady)]

def receivedStage (mapped : Nat) : List Access :=
  .sync .afterRead :: releasing mapped ++
    writes [(Register.disable, Status.endReceive), (Register.enable, Status.receiveFull),
      (Register.channelControl, Channel.stop)]

def idleLineStage : List Access :=
  writes [(Register.disable, Status.notBusy), (Register.enable, Status.commandReady)]

theorem serveSent_eq {found : Command BufferId} (ha : c.active = some a)
    (hc : a.current? = some command) (hf : command = found ∨ command = c.accounted found) :
    ∃ bus, Performs c.bus (sentStage c.mapped) bus ∧
      c.serveSent found = c.proceed bus (c.mapped - 1) (a.replace (c.accounted found)) := by
  let l := [(Register.channelControl, Channel.stop), (Register.disable, Status.transmitEmpty),
    (Register.enable, Status.notBusy)]
  obtain ⟨bus, hp, he⟩ := unload_eq ({ c with bus := (c.bus.writeAll l).sync .afterWrite })
  have hall := (performs_writeAll c.bus l).trans (.sync .afterWrite hp)
  have hm := accountMoved_eq (c := { c with bus, mapped := c.mapped - 1 }) found ha hc
    (by rwa [accounted_congr (c := c) hall.alike])
  rw [accounted_congr (c := c) hall.alike] at hm
  refine ⟨bus, hall, ?_⟩
  simp only [serveSent, writeAll_eq, sync]
  rw [he]
  exact hm

omit [Hardware H] in
theorem restoreOrder_eq (c : Controller H) (found : Command BufferId) :
    ∃ memory, c.bus.memory.Alike memory ∧
      c.restoreOrder found = { c with bus := { c.bus with memory } } := by
  cases hd : found.data with
  | none => exact ⟨c.bus.memory, .refl _, by simp only [restoreOrder, hd]⟩
  | some data =>
    by_cases hs : c.board.soc.swapsBytes = true
    · refine ⟨_, c.bus.memory.alike_set data.buffer _ (Bytes.length_reverseWords _), ?_⟩
      simp only [restoreOrder, hd, hs, if_true]
      rfl
    · refine ⟨c.bus.memory, .refl _, ?_⟩
      simp only [restoreOrder, hd, hs]
      rfl

theorem serveReceived_eq {found : Command BufferId} (ha : c.active = some a)
    (hc : a.current? = some command) (hf : command = found ∨ command = c.accounted found) :
    ∃ bus, Performs c.bus (receivedStage c.mapped) bus ∧
      c.serveReceived found =
        c.proceed bus (c.mapped - 1) (a.replace (c.accounted found)) := by
  obtain ⟨released, hp, he⟩ := unload_eq (c.sync .afterRead)
  obtain ⟨memory, hk, hr⟩ :=
    restoreOrder_eq ({ c with bus := released, mapped := c.mapped - 1 } : Controller H) found
  let l := [(Register.disable, Status.endReceive), (Register.enable, Status.receiveFull),
    (Register.channelControl, Channel.stop)]
  have hread := Performs.sync .afterRead (hp.trans (.edit memory hk (.done _)))
  have hm := accountMoved_eq
    (c := { c with bus := { released with memory }, mapped := c.mapped - 1 }) found ha hc
    (by rwa [accounted_congr (c := c) hread.alike])
  rw [accounted_congr (c := c) hread.alike] at hm
  refine ⟨_, (Performs.sync .afterRead (hp.trans (.edit memory hk (performs_writeAll _ l)))), ?_⟩
  simp only [serveReceived, writeAll_eq]
  rw [he]
  change (accountMoved (restoreOrder { c with bus := released, mapped := c.mapped - 1 } found)
    found).writeAll l = _
  rw [hr, hm, writeAll_eq]
  rfl

theorem optional_writes (c : Controller H) (stage : Bool) (l : List (Nat × UInt32)) :
    ∃ bus, Performs c.bus (if stage then writes l else []) bus ∧
      (if stage then c.writeAll l else c) = { c with bus } := by
  cases stage with
  | false => exact ⟨c.bus, .done _, rfl⟩
  | true => exact ⟨_, performs_writeAll c.bus l, writeAll_eq c l⟩

theorem optional_end {found : Command BufferId} {f : Controller H → Controller H}
    {l : List Access} (ha : c.active = some a) (hc : a.current? = some command) (stage : Bool)
    (hs : ∃ bus, Performs c.bus l bus ∧
      f c = c.proceed bus (c.mapped - 1) (a.replace (c.accounted found))) :
    ∃ bus, Performs c.bus (if stage then l else []) bus ∧ (if stage then f c else c) =
      c.proceed bus (if stage then c.mapped - 1 else c.mapped)
        (a.replace (if stage then c.accounted found else command)) := by
  cases stage with
  | false => exact ⟨c.bus, .done _, (proceed_self ha hc).symm⟩
  | true => exact hs

omit [Hardware H] in
theorem tends_releasing (mapped : Nat) : (releasing mapped).all Access.tends = true := by
  unfold releasing
  split <;> rfl

def stageMapped (status : UInt32) (mapped : Nat) : Nat :=
  let mapped := if anyBit status Status.transmitEmpty then mapped - 1 else mapped
  if anyBit status Status.endReceive then mapped - 1 else mapped

def stageAccesses (status : UInt32) (mapped : Nat) : List Access :=
  (if anyBit status Status.transmitEmpty then sentStage mapped else []) ++
    ((if anyBit status Status.receiveFull then fullStage else []) ++
    ((if anyBit status Status.endReceive then
      receivedStage (if anyBit status Status.transmitEmpty then mapped - 1 else mapped) else []) ++
    (if anyBit status Status.notBusy then idleLineStage else [])))

omit [Hardware H] in
theorem tends_stageAccesses (status : UInt32) (mapped : Nat) :
    (stageAccesses status mapped).all Access.tends = true := by
  have optional {stage : Bool} {l : List Access} (h : l.all Access.tends = true) :
      (if stage then l else []).all Access.tends = true := by
    split
    · exact h
    · rfl
  have sent : (sentStage mapped).all Access.tends = true := by
    rw [sentStage, List.all_append, List.all_cons, tends_releasing]
    rfl
  have received (mapped : Nat) : (receivedStage mapped).all Access.tends = true := by
    rw [receivedStage, List.cons_append, List.all_cons, List.all_append, tends_releasing]
    rfl
  have full : fullStage.all Access.tends = true := rfl
  have idleLine : idleLineStage.all Access.tends = true := rfl
  rw [stageAccesses, List.all_append, List.all_append, List.all_append, optional sent, optional full,
    optional (received _), optional idleLine]
  rfl

def staged (c : Controller H) (command : Command BufferId) (status : UInt32) : Command BufferId :=
  if anyBit status Status.transmitEmpty || anyBit status Status.endReceive then c.accounted command
  else command

def serveTransfer (c : Controller H) (command : Command BufferId) (status : UInt32) :
    Controller H :=
  let c := if anyBit status Status.transmitEmpty then c.serveSent command else c
  let c := if anyBit status Status.receiveFull then c.serveFull else c
  let c := if anyBit status Status.endReceive then c.serveReceived command else c
  if anyBit status Status.notBusy then c.serveIdleLine else c

theorem serveStages_eq (c : Controller H) (command : Command BufferId) (status : UInt32) :
    c.serveStages command status =
      if anyBit status Status.commandReady then (c.serveTransfer command status).conclude command none
      else c.serveTransfer command status := rfl

theorem serveTransfer_eq (ha : c.active = some a) (hc : a.current? = some command)
    (status : UInt32) :
    ∃ bus, Performs c.bus (stageAccesses status c.mapped) bus ∧
      c.serveTransfer command status =
        c.proceed bus (stageMapped status c.mapped) (a.replace (c.staged command status)) := by
  obtain ⟨bus₁, hp₁, he₁⟩ := optional_end (f := (·.serveSent command)) ha hc
    (anyBit status Status.transmitEmpty) (serveSent_eq ha hc (.inl rfl))
  generalize hm₁ : (if anyBit status Status.transmitEmpty then c.mapped - 1 else c.mapped) =
    mapped₁ at he₁
  generalize hc₁ : (if anyBit status Status.transmitEmpty then c.accounted command else command) =
    command₁ at he₁
  obtain ⟨bus₂, hp₂, he₂⟩ := optional_writes (c.proceed bus₁ mapped₁ (a.replace command₁))
    (anyBit status Status.receiveFull)
    [(Register.disable, Status.receiveFull), (Register.enable, Status.commandReady)]
  have hk : (c.proceed bus₂ mapped₁ (a.replace command₁)).accounted command = c.accounted command :=
    accounted_congr (hp₁.trans hp₂).alike command
  have hc₂ := Active.current?_replace hc command₁
  obtain ⟨bus₃, hp₃, he₃⟩ := optional_end (c := c.proceed bus₂ mapped₁ (a.replace command₁))
    (f := (·.serveReceived command)) rfl hc₂ (anyBit status Status.endReceive)
    (serveReceived_eq rfl hc₂ (by rw [hk, ← hc₁]; split <;> simp))
  rw [hk] at he₃
  obtain ⟨bus₄, hp₄, he₄⟩ := optional_writes
    (c.proceed bus₃ (stageMapped status c.mapped) (a.replace (c.staged command status)))
    (anyBit status Status.notBusy)
    [(Register.disable, Status.notBusy), (Register.enable, Status.commandReady)]
  refine ⟨bus₄, ?_, ?_⟩
  · subst hm₁
    exact hp₁.trans (hp₂.trans (hp₃.trans hp₄))
  · have hm₃ : (if anyBit status Status.endReceive then mapped₁ - 1 else mapped₁) =
        stageMapped status c.mapped := by
      rw [← hm₁]
      rfl
    have hc₃ : (if anyBit status Status.endReceive then c.accounted command else command₁) =
        c.staged command status := by
      rw [← hc₁, staged]
      cases anyBit status Status.endReceive <;> cases anyBit status Status.transmitEmpty <;> rfl
    have hfull : (if anyBit status Status.receiveFull then
        (c.proceed bus₁ mapped₁ (a.replace command₁)).serveFull
        else c.proceed bus₁ mapped₁ (a.replace command₁)) =
        c.proceed bus₂ mapped₁ (a.replace command₁) := he₂
    simp only [serveTransfer]
    rw [he₁, hfull, he₃]
    simp only [Active.replace_replace, proceed_proceed]
    change (if anyBit status Status.notBusy then (c.proceed bus₃
      (if anyBit status Status.endReceive then mapped₁ - 1 else mapped₁) _).writeAll _ else
      c.proceed bus₃ (if anyBit status Status.endReceive then mapped₁ - 1 else mapped₁) _) = _
    rw [hm₃, hc₃]
    exact he₄

def answered (command : Command BufferId) (error : Option CommandError) (words : List UInt32) :
    Command BufferId :=
  { command with error, response := fillResponse command.response 0 words }

def ending (words : List UInt32) : List Access :=
  .write Register.disable Status.all :: responseReads 0 words

omit [Hardware H] in
theorem all_ending {p : Access → Bool} (write : p (.write Register.disable Status.all) = true)
    (read : ∀ offset word, p (.read offset word) = true) (words : List UInt32) :
    (ending words).all p = true := by
  have reads (i : Nat) : (responseReads i words).all p = true := by
    induction words generalizing i with
    | nil => rfl
    | cons word rest ih =>
      rw [responseReads, List.all_cons, read, ih]
      rfl
  rw [ending, List.all_cons, write, reads]
  rfl

theorem conclude_eq (found : Command BufferId) (error : Option CommandError)
    (ha : c.active = some a) (hc : a.current? = some command) :
    ∃ words bus, words.length = found.flags.words ∧ Performs c.bus (ending words) bus ∧
      c.conclude found error =
        (c.proceed bus c.mapped (a.replace (answered command error words))).advance := by
  have hm := modifyCurrent_eq (c := c) ha hc fun cmd => { cmd with error }
  obtain ⟨words, bus, hlen, hp, he⟩ := readResponse_eq
    (c := (c.modifyCurrent fun cmd => { cmd with error }).write Register.disable Status.all)
    (congrArg Controller.active hm) (Active.current?_replace hc _) 0 found.flags.words
  rw [hm] at hp
  refine ⟨words, bus, hlen, .write _ _ hp, ?_⟩
  simp only [conclude]
  rw [he, hm, Active.replace_replace]
  rfl

theorem advance_eq (ha : c.active = some a) :
    c.advance = match a.pending? with
      | some stop => ({ c with active := some { a with phase := .stop } } : Controller H).launch stop
      | none => { c with tickets := delivered c.tickets a, active := none } := by
  simp only [advance, ha, Active.pending?]
  cases a.phase with
  | stop => exact finish_eq ha
  | command =>
    cases a.request.stop with
    | none => exact finish_eq ha
    | some stop => rfl

theorem advance_stops (ha : c.active = some a) {stop : Command BufferId} (pending : a.pending? = some stop) :
    c.advance = ({ c with active := some { a with phase := .stop } } : Controller H).launch stop := by
  rw [advance_eq ha, pending]

/-- How a status ends the command on the wire: the accesses up to there, the mappings that are left,
the command as the stages leave it, and the error. -/
inductive Ends (c : Controller H) (command : Command BufferId) (status : UInt32) :
    List Access → Nat → Command BufferId → Option CommandError → Prop
  | failed (e : CommandError) (faulty : anyBit status Status.errors = true)
    (error : CommandError.ofStatus? status command.opcode = some e) :
    Ends c command status (releasing c.mapped) (c.mapped - 1) command (some e)
  | forgiven (faulty : anyBit status Status.errors = true)
    (error : CommandError.ofStatus? status command.opcode = none) :
    Ends c command status [] c.mapped command none
  | ready (clean : anyBit status Status.errors = false)
    (ready : anyBit status Status.commandReady = true) :
    Ends c command status (stageAccesses status c.mapped) (stageMapped status c.mapped)
      (c.staged command status) none

omit [Hardware H] in
theorem Ends.tends {status : UInt32} {mapped : Nat} {last : Command BufferId}
    {error : Option CommandError} {l : List Access} (h : c.Ends command status l mapped last error) :
    l.all Access.tends = true := by
  cases h with
  | failed => exact tends_releasing _
  | forgiven => rfl
  | ready => exact tends_stageAccesses _ _

inductive Serves (c : Controller H) (a : Active) (command : Command BufferId) (status : UInt32)
    (before : List Access) (bus : Bus H) : List Access → Controller H → Prop
  | continues (clean : anyBit status Status.errors = false)
    (waits : anyBit status Status.commandReady = false) :
    Serves c a command status before bus (stageAccesses status c.mapped)
      (c.proceed bus (stageMapped status c.mapped) (a.replace (c.staged command status)))
  | finishes {l : List Access} {mapped : Nat} {last : Command BufferId}
    {error : Option CommandError} (words : List UInt32) (final : a.pending? = none)
    (ends : c.Ends command status l mapped last error)
    (words_length : words.length = command.flags.words) :
    Serves c a command status before bus (l ++ ending words)
      { c with
        bus, mapped, active := none,
        tickets := delivered c.tickets (a.replace (answered last error words)) }
  | stops {l l' : List Access} {mapped : Nat} {last stop : Command BufferId}
    {error : Option CommandError} {between : Bus H} {c' : Controller H} (words : List UInt32)
    (pending : a.pending? = some stop) (ends : c.Ends command status l mapped last error)
    (words_length : words.length = command.flags.words)
    (reached : Performs c.bus (before ++ (l ++ ending words)) between)
    (launched : Performs between l' bus)
    (launches : Launches
      (c.proceed between mapped { a.replace (answered last error words) with phase := .stop })
      { a.replace (answered last error words) with phase := .stop } stop bus l' c') :
    Serves c a command status before bus (l ++ ending words ++ l') c'

theorem conclude_serves (found : Command BufferId) {bus : Bus H} {l l₀ : List Access}
    {status : UInt32} {mapped : Nat} {last : Command BufferId} {error : Option CommandError}
    (hc : a.current? = some command) (hp : Performs c.bus (l₀ ++ l) bus)
    (ends : c.Ends command status l mapped last error)
    (words : found.flags.words = command.flags.words) :
    ∃ l' bus', Performs c.bus (l₀ ++ l') bus' ∧ Serves c a command status l₀ bus' l'
      ((c.proceed bus mapped (a.replace last)).conclude found error) := by
  obtain ⟨answer, ended, hlen, hpe, he⟩ := conclude_eq (c := c.proceed bus mapped (a.replace last))
    found error rfl (Active.current?_replace hc last)
  rw [he, advance_eq rfl]
  simp only [proceed_proceed, Active.replace_replace]
  have hall := hp.trans hpe
  rw [List.append_assoc] at hall
  have hfin : (a.replace (answered last error answer)).pending? = a.pending? := by simp
  rw [words] at hlen
  cases hs : a.pending? with
  | none =>
    simp only [hfin, hs]
    exact ⟨_, ended, hall, .finishes answer hs ends hlen⟩
  | some stop =>
    simp only [hfin, hs]
    have hstop := Active.current?_stopping hs (answered last error answer)
    obtain ⟨l', after, hpl, hl⟩ := launch_launches (c := c.proceed ended mapped
      { a.replace (answered last error answer) with phase := .stop }) rfl hstop
    refine ⟨_, after, ?_, .stops answer hs ends hlen hall hpl hl⟩
    have h := hall.trans hpl
    rwa [List.append_assoc] at h

def seenStatus (c : Controller H) : UInt32 := (c.bus.read Register.status).1

def seenMask (c : Controller H) : UInt32 := ((c.bus.read Register.status).2.read Register.mask).1

def observed (c : Controller H) : UInt32 := c.seenStatus &&& c.seenMask

def seen (c : Controller H) : Bus H := ((c.bus.read Register.status).2.read Register.mask).2

theorem interrupt_eq (attached : c.detached = false) :
    c.interrupt =
      match c.current? with
      | none => ({ c with bus := c.seen } : Controller H).write Register.disable Status.all
      | some command =>
        if anyBit c.observed Status.errors then
          ({ c with bus := c.seen } : Controller H).serveError command c.observed
        else ({ c with bus := c.seen } : Controller H).serveStages command c.observed := by
  rw [interrupt, if_neg (by simp [attached])]
  rfl

def glance (c : Controller H) : List Access :=
  [.read Register.status c.seenStatus, .read Register.mask c.seenMask]

theorem serves_continuing (c : Controller H) (status : UInt32) (mapped : Nat) :
    (c.glance ++ stageAccesses status mapped).all Access.serves = true := by
  rw [List.all_append, Access.serves_of_tends (tends_stageAccesses status mapped)]
  rfl

theorem Ends.serves {status : UInt32} {mapped : Nat} {last : Command BufferId}
    {error : Option CommandError} {l : List Access} (h : c.Ends command status l mapped last error)
    (words : List UInt32) : (c.glance ++ (l ++ ending words)).all Access.serves = true := by
  rw [List.all_append, List.all_append, Access.serves_of_tends h.tends, all_ending rfl fun _ _ => rfl]
  rfl

theorem performs_glance (c : Controller H) {l : List Access} {bus : Bus H}
    (h : Performs c.seen l bus) : Performs c.bus (c.glance ++ l) bus :=
  .read Register.status (.read Register.mask h)

theorem interrupt_serves (attached : c.detached = false) (ha : c.active = some a)
    (hc : a.current? = some command) :
    ∃ l bus, Performs c.bus (c.glance ++ l) bus ∧
      Serves c a command c.observed c.glance bus l c.interrupt := by
  have hcur : c.current? = some command := current?_of_active ha hc
  rw [interrupt_eq attached, hcur]
  by_cases hf : anyBit c.observed Status.errors = true
  · simp only [hf, if_true, serveError]
    cases he : CommandError.ofStatus? c.observed command.opcode with
    | none =>
      have h := conclude_serves (c := c) command (l := []) hc
        (c.performs_glance (.done c.seen)) (.forgiven hf he) rfl
      rwa [Active.replace_current hc, proceed, ← ha] at h
    | some e =>
      obtain ⟨bus, hp, hu⟩ := unload_eq ({ c with bus := c.seen } : Controller H)
      have h := conclude_serves (c := c) command hc (c.performs_glance hp)
        (.failed e hf he) rfl
      rw [Active.replace_current hc, proceed, ← ha] at h
      simp only [hu]
      exact h
  · have clean := Bool.eq_false_iff.mpr hf
    simp only [clean, Bool.false_eq_true, if_false, serveStages_eq]
    obtain ⟨bus, hp, ht⟩ := serveTransfer_eq (c := { c with bus := c.seen }) ha hc c.observed
    rw [ht]
    by_cases hr : anyBit c.observed Status.commandReady = true
    · rw [if_pos hr]
      exact conclude_serves (c := c) command hc (c.performs_glance hp) (.ready clean hr) rfl
    · rw [if_neg hr]
      exact ⟨_, bus, c.performs_glance hp, .continues clean (Bool.eq_false_iff.mpr hr)⟩

theorem interrupt_spurious (attached : c.detached = false) (hc : c.current? = none) :
    ∃ bus, Performs c.bus (c.glance ++ [.write Register.disable Status.all]) bus ∧
      c.interrupt = { c with bus } := by
  refine ⟨_, c.performs_glance (.write _ _ (.done _)), ?_⟩
  rw [interrupt_eq attached, hc]
  rfl

inductive Interrupts (c : Controller H) : Controller H → Prop
  | rests (detached : c.detached = true) : Interrupts c c
  | spurious {bus : Bus H} (attached : c.detached = false) (idle : c.active = none)
    (performs : Performs c.bus (c.glance ++ [.write Register.disable Status.all]) bus) :
    Interrupts c { c with bus }
  | serves {a : Active} {command : Command BufferId} {l : List Access} {bus : Bus H}
    {c' : Controller H} (attached : c.detached = false) (ha : c.active = some a)
    (hc : a.current? = some command) (performs : Performs c.bus (c.glance ++ l) bus)
    (serves : Serves c a command c.observed c.glance bus l c') : Interrupts c c'

theorem interrupts (current : ∀ a, c.active = some a → a.current?.isSome = true) :
    c.Interrupts c.interrupt := by
  cases hd : c.detached with
  | true =>
    rw [interrupt, if_pos hd]
    exact .rests hd
  | false =>
    cases ha : c.active with
    | none =>
      obtain ⟨bus, hp, he⟩ := interrupt_spurious hd (current?_of_idle ha)
      rw [he]
      exact .spurious hd ha hp
    | some a =>
      obtain ⟨command, hc⟩ := Option.isSome_iff_exists.mp (current a ha)
      obtain ⟨l, bus, hp, hserves⟩ := interrupt_serves hd ha hc
      exact .serves hd ha hc hp hserves

end Controller

end CardHost
