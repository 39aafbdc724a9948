import CardHost.Proofs.CommandOrder
import CardHost.Proofs.CommandStages

namespace CardHost

open Bus

structure Outcome where
  error : Option CommandError
  response : Response

def Command.outcome {B : Type} (c : Command B) : Outcome := ⟨c.error, c.response⟩

def Request.outcomes {B : Type} (r : Request B) : Outcome × Option Outcome :=
  (r.command.outcome, r.stop.map (·.outcome))

@[simp] theorem Request.outcomes_map {B C : Type} (f : B → C) (r : Request B) :
    (r.map f).outcomes = r.outcomes := by
  simp only [outcomes, map, Option.map_map]
  rfl

def readings (offset : Nat) (l : List Access) : List UInt32 :=
  l.filterMap fun
    | .read o value => if o = offset then some value else none
    | _ => none

def sighted? : List Access → Option UInt32
  | .read offset status :: .read offset' mask :: _ =>
    if offset = Register.status ∧ offset' = Register.mask then some (status &&& mask) else none
  | _ => none

def isEnding (l : List Access) : Bool :=
  (sighted? l).any (anyBit · (Status.errors ||| Status.commandReady))

/-- What the error bits stand for. The first line with a bit that is set counts. -/
def causes : List (UInt32 × CommandError) :=
  [(Status.responseTimeout ||| Status.dataTimeout, .timeout),
    (Status.responseCrc ||| Status.dataCrc, .badCrc), (Status.overrun ||| Status.underrun, .fifo),
    (Status.errors, .failed)]

def verdict (opcode status : UInt32) : Option CommandError :=
  if anyBit status Status.responseCrc ∧ (opcode = 1 ∨ opcode = 41) then none
  else (causes.find? (anyBit status ·.1)).map (·.2)

structure Settles {B : Type} (command : Command B) (l : List Access) (outcome : Outcome) : Prop where
  error : ∃ status, sighted? l = some status ∧ outcome.error = verdict command.opcode status
  replaced : ∀ i < command.flags.words,
    readings (Register.response + 4 * i) l = [outcome.response.word i]
  kept : ∀ i, command.flags.words ≤ i → outcome.response.word i = command.response.word i

section Readings

variable {l l' : List Access} {offset : Nat}

theorem readings_append (offset : Nat) (l l' : List Access) :
    readings offset (l ++ l') = readings offset l ++ readings offset l' :=
  List.filterMap_append

@[simp] theorem readings_read (offset o : Nat) (value : UInt32) (l : List Access) :
    readings offset (.read o value :: l) =
      if o = offset then value :: readings offset l else readings offset l := by
  unfold readings
  rw [List.filterMap_cons]
  dsimp only
  split <;> next h => split at h <;> simp_all

@[simp] theorem readings_write (offset o : Nat) (value : UInt32) (l : List Access) :
    readings offset (.write o value :: l) = readings offset l := rfl

@[simp] theorem readings_writes (offset : Nat) (l : List (Nat × UInt32)) :
    readings offset (writes l) = [] := by
  induction l with
  | nil => rfl
  | cons w rest ih => exact ih

@[simp] theorem readings_load (offset : Nat) (bytes : Bytes) (direction : Direction)
    (result : Except MappingError UInt32) (l : List Access) :
    readings offset (.load bytes direction result :: l) = readings offset l := rfl

@[simp] theorem readings_sync (offset : Nat) (point : SyncPoint) (l : List Access) :
    readings offset (.sync point :: l) = readings offset l := rfl

@[simp] theorem readings_unload (offset : Nat) (l : List Access) :
    readings offset (.unload :: l) = readings offset l := rfl

@[simp] theorem readings_nil (offset : Nat) : readings offset [] = [] := rfl

end Readings

namespace Settles

variable {B C : Type} {command command' : Command B} {l : List Access} {outcome : Outcome}

theorem of_map {f : B → C} (h : Settles command l outcome) : Settles (command.map f) l outcome :=
  ⟨h.error, h.replaced, h.kept⟩

theorem congr (h : Settles command l outcome) (blank : command.blank = command'.blank)
    (same : command.outcome = command'.outcome) : Settles command' l outcome := by
  have opcode : command.opcode = command'.opcode := congrArg (·.opcode) blank
  have flags : command.flags = command'.flags := congrArg (·.flags) blank
  have response : command.response = command'.response := congrArg (·.response) same
  exact ⟨opcode ▸ h.error, flags ▸ h.replaced, response ▸ flags ▸ h.kept⟩

end Settles

namespace Response

theorem word_set (response : Response) (i j : Nat) (word : UInt32) :
    Response.word (response.setIfInBounds i word) j = if i = j ∧ i < 4 then word else response.word j := by
  unfold Response.word
  rw [Vector.getElem?_setIfInBounds]
  by_cases hi : i = j
  · subst hi
    by_cases h4 : i < 4 <;> simp [h4]
  · simp [hi]

end Response

theorem readings_tends {l : List Access} (h : l.all Access.tends = true) (offset : Nat) :
    readings offset l = [] := by
  induction l with
  | nil => rfl
  | cons access rest ih =>
    obtain ⟨htends, hrest⟩ := Bool.and_eq_true_iff.mp h
    cases access with
    | write | sync | unload => exact ih hrest
    | read | load => cases htends

namespace Controller

theorem word_fillResponse (response : Response) (i : Nat) (words : List UInt32)
    (room : i + words.length ≤ 4) (j : Nat) :
    (fillResponse response i words).word j =
      if i ≤ j then (words[j - i]?).getD (response.word j) else response.word j := by
  induction words generalizing response i with
  | nil => simp [fillResponse]
  | cons word rest ih =>
    rw [List.length_cons] at room
    rw [fillResponse, ih _ _ (by omega), Response.word_set]
    rcases Nat.lt_trichotomy i j with lower | same | upper
    · obtain ⟨k, rfl⟩ := Nat.exists_eq_add_of_lt lower
      have hk : i + k + 1 - i = k + 1 := by omega
      have hk' : i + k + 1 - (i + 1) = k := by omega
      rw [if_pos (by omega), if_neg (by omega), if_pos (by omega), hk, hk', List.getElem?_cons_succ]
    · subst same
      rw [if_neg (by omega), if_pos (by omega), if_pos (by omega), Nat.sub_self,
        List.getElem?_cons_zero, Option.getD_some]
    · rw [if_neg (by omega), if_neg (by omega), if_neg (by omega)]

theorem readings_responseReads (i : Nat) (words : List UInt32) (j : Nat) :
    readings (Register.response + 4 * j) (responseReads i words) =
      if i ≤ j then (words[j - i]?).toList else [] := by
  induction words generalizing i with
  | nil => simp [responseReads]
  | cons word rest ih =>
    rw [responseReads, readings_read, ih (i + 1)]
    rcases Nat.lt_trichotomy i j with lower | same | upper
    · obtain ⟨k, rfl⟩ := Nat.exists_eq_add_of_lt lower
      have hk : i + k + 1 - i = k + 1 := by omega
      have hk' : i + k + 1 - (i + 1) = k := by omega
      rw [if_neg (by omega), if_pos (by omega), if_pos (by omega), hk, hk', List.getElem?_cons_succ]
    · subst same
      rw [if_pos rfl, if_neg (by omega), if_pos (by omega), Nat.sub_self, List.getElem?_cons_zero]
      rfl
    · rw [if_neg (by omega), if_neg (by omega), if_neg (by omega)]

variable {H : Type} {c c' : Controller H} {a : Active} {command : Command BufferId}
  {l : List Access} {offset : Nat}

theorem Launches.readless {bus : Bus H} (h : Launches c a command bus l c')
    (other : offset ≠ Register.mode) : readings offset l = [] := by
  have prepared (mode : UInt32) (length : Nat) : readings offset (preparation mode length) = [] := by
    rw [preparation, readings_read, if_neg other.symm, readings_writes]
  cases h <;>
    simp only [readings_append, prepared, readings_load, readings_sync, readings_writes, readings_nil,
      List.append_nil]

theorem Quiet.sighted {l : List Access} (h : Quiet c l) : isEnding l = false := by
  cases h with
  | still => rfl
  | programs => rfl
  | quiesces => rfl

inductive Resolves (c : Controller H) (a : Active) (command : Command BufferId) (l : List Access)
    (c' : Controller H) : Prop
  | waits (more : isEnding l = false) (command' : Command BufferId)
    (blank : command'.blank = command.blank) (same : command'.outcome = command.outcome)
    (active : c'.active = some (a.replace command')) (tickets : c'.tickets = c.tickets)
  | finishes (ending : isEnding l = true) (last : Command BufferId)
    (settles : Settles command l last.outcome) (blank : last.blank = command.blank)
    (final : a.pending? = none) (active : c'.active = none)
    (tickets : c'.tickets = delivered c.tickets (a.replace last))
  | stops (ending : isEnding l = true) (last stop stop' : Command BufferId)
    (settles : Settles command l last.outcome) (blank : last.blank = command.blank)
    (pending : a.pending? = some stop) (wired : ¬ Mute l) (same : stop'.outcome = stop.outcome)
    (stopBlank : stop'.blank = stop.blank)
    (active : c'.active = some (({ a.replace last with phase := .stop } : Active).replace stop'))
    (tickets : c'.tickets = c.tickets)
  | refuses (ending : isEnding l = true) (last stop : Command BufferId)
    (settles : Settles command l last.outcome) (blank : last.blank = command.blank)
    (pending : a.pending? = some stop) (silent : Mute l) (active : c'.active = none)
    (tickets : c'.tickets = delivered c.tickets
      (({ a.replace last with phase := .stop } : Active).replace (unmapped stop)))

theorem outcome_staged (command : Command BufferId) (status : UInt32) :
    (c.staged command status).outcome = command.outcome := by
  unfold staged
  split <;> rfl

theorem outcome_answered (command : Command BufferId) (error : Option CommandError)
    (words : List UInt32) :
    (answered command error words).outcome = ⟨error, fillResponse command.response 0 words⟩ := rfl

theorem words_le (flags : ResponseFlags) : flags.words ≤ 4 := by
  unfold ResponseFlags.words
  split
  · split <;> decide
  · decide

theorem ofStatus?_eq_verdict {opcode status : UInt32} (faulty : anyBit status Status.errors = true) :
    CommandError.ofStatus? status opcode = verdict opcode status := by
  unfold CommandError.ofStatus? verdict
  by_cases forgiven : anyBit status Status.responseCrc = true ∧ (opcode = 1 ∨ opcode = 41)
  · rw [if_pos forgiven, if_pos]
    simpa [Opcode.sendOpCond, AppOpcode.sendOpCond] using forgiven
  · rw [if_neg forgiven, if_neg (by simpa [Opcode.sendOpCond, AppOpcode.sendOpCond] using forgiven)]
    simp only [causes, List.find?_cons, faulty]
    cases anyBit status (Status.responseTimeout ||| Status.dataTimeout) <;>
      cases anyBit status (Status.responseCrc ||| Status.dataCrc) <;>
        cases anyBit status (Status.overrun ||| Status.underrun) <;> rfl

theorem verdict_clean {opcode status : UInt32} (clean : anyBit status Status.errors = false) :
    verdict opcode status = none := by
  have hclean := clean
  simp only [Status.errors, anyBit_bits_or, Bool.or_eq_false_iff] at clean
  obtain ⟨⟨⟨⟨⟨⟨⟨⟨-, -⟩, crc⟩, -⟩, timeout⟩, dataCrc⟩, dataTimeout⟩, overrun⟩, underrun⟩ := clean
  simp [verdict, causes, anyBit_bits_or, crc, timeout, dataCrc, dataTimeout, overrun, underrun, hclean]

theorem Ends.judged {status : UInt32} {mapped : Nat} {last : Command BufferId}
    {error : Option CommandError} (h : c.Ends command status l mapped last error) :
    error = verdict command.opcode status ∧
      anyBit status (Status.errors ||| Status.commandReady) = true ∧ last.outcome = command.outcome := by
  rw [anyBit_bits_or]
  cases h with
  | failed e faulty error =>
    exact ⟨error.symm.trans (ofStatus?_eq_verdict faulty), by rw [faulty, Bool.true_or], rfl⟩
  | forgiven faulty error =>
    exact ⟨error.symm.trans (ofStatus?_eq_verdict faulty), by rw [faulty, Bool.true_or], rfl⟩
  | ready clean ready =>
    exact ⟨(verdict_clean clean).symm, by rw [ready, Bool.or_true], outcome_staged command status⟩

theorem readings_ending (offset : Nat) (words : List UInt32) :
    readings offset (ending words) = readings offset (responseReads 0 words) := rfl

variable [Hardware H]

theorem readings_glance (c : Controller H) (offset : Nat) : readings offset (c.glance ++ l) =
    (if Register.status = offset then [c.seenStatus] else []) ++
      (if Register.mask = offset then [c.seenMask] else []) ++ readings offset l := by
  rw [glance, List.cons_append, readings_read, List.cons_append, readings_read, List.nil_append]
  split <;> split <;> rfl

theorem sighted?_glance (c : Controller H) (l : List Access) :
    sighted? (c.glance ++ l) = some c.observed := rfl

theorem Ends.settles {between after : List Access} {mapped : Nat} {last : Command BufferId}
    {error : Option CommandError} {words : List UInt32}
    (h : c.Ends command c.observed between mapped last error)
    (words_length : words.length = command.flags.words)
    (silent : ∀ offset, offset ≠ Register.mode → readings offset after = []) :
    isEnding (c.glance ++ (between ++ ending words ++ after)) = true ∧
      Settles command (c.glance ++ (between ++ ending words ++ after))
        (answered last error words).outcome := by
  obtain ⟨herror, ends, houtcome⟩ := h.judged
  have hresponse : last.response = command.response := congrArg Outcome.response houtcome
  have hread (offset : Nat) (other : offset ≠ Register.mode) :
      readings offset (between ++ ending words ++ after) =
        readings offset (responseReads 0 words) := by
    rw [readings_append, readings_append, readings_tends h.tends, silent offset other, List.nil_append,
      List.append_nil, readings_ending]
  have room : 0 + words.length ≤ 4 := by
    rw [Nat.zero_add, words_length]
    exact words_le _
  have sighted := sighted?_glance c (between ++ ending words ++ after)
  have hword (i : Nat) : (answered last error words).outcome.response.word i =
      (words[i]?).getD (command.response.word i) := by
    rw [outcome_answered, word_fillResponse _ _ _ room, hresponse, if_pos (Nat.zero_le i), Nat.sub_zero]
  refine ⟨by rw [isEnding, sighted]; exact ends, ⟨⟨c.observed, sighted, herror⟩, fun i hi => ?_, fun i hi => ?_⟩⟩
  · have hi' : i < words.length := words_length ▸ hi
    have h4 := Nat.lt_of_lt_of_le hi (words_le _)
    have hs : Register.status ≠ Register.response + 4 * i := by
      unfold Register.status Register.response
      omega
    have hm : Register.mask ≠ Register.response + 4 * i := by
      unfold Register.mask Register.response
      omega
    have hmode : Register.response + 4 * i ≠ Register.mode := by
      unfold Register.mode Register.response
      omega
    rw [readings_glance, if_neg hs, if_neg hm, hread _ hmode, readings_responseReads, hword,
      if_pos (Nat.zero_le i), Nat.sub_zero, List.getElem?_eq_getElem hi']
    rfl
  · rw [hword, List.getElem?_eq_none (words_length ▸ hi), Option.getD_none]

omit [Hardware H] in
theorem Launches.turns {bus : Bus H} (ha : c.active = some a) (hc : a.current? = some command)
    (h : Launches c a command bus l c') :
    c'.bus = bus ∧
      ((∀ argument, issued argument l ≠ []) ∧ c'.tickets = c.tickets ∧
        (∃ command', c'.active = some (a.replace command') ∧ command'.blank = command.blank ∧
          command'.outcome = command.outcome) ∨
      Mute l ∧ c'.tickets = delivered c.tickets (a.replace (unmapped command)) ∧ c'.active = none) := by
  have self : c.active = some (a.replace command) := by rw [ha, Active.replace_current hc]
  cases h with
  | plain => exact ⟨rfl, .inl ⟨fun _ => nofun, rfl, command, self, rfl, rfl⟩⟩
  | idle => exact ⟨rfl, .inl ⟨fun _ => nofun, rfl, command, self, rfl, rfl⟩⟩
  | read => exact ⟨rfl, .inl ⟨fun _ => nofun, rfl, _, rfl, blank_restaged command, rfl⟩⟩
  | write => exact ⟨rfl, .inl ⟨fun _ => nofun, rfl, _, rfl, blank_restaged command, rfl⟩⟩
  | unstaged => exact ⟨rfl, .inr ⟨fun _ => rfl, rfl, rfl⟩⟩
  | refused => exact ⟨rfl, .inr ⟨fun _ => rfl, rfl, rfl⟩⟩

theorem interrupt_resolves (attached : c.detached = false) (ha : c.active = some a)
    (hc : a.current? = some command) :
    ∃ l, Performs c.bus l c.interrupt.bus ∧ Resolves c a command l c.interrupt := by
  obtain ⟨l, bus, hp, hserves⟩ := interrupt_serves attached ha hc
  generalize c.interrupt = c' at hserves
  cases hserves with
  | continues clean waits =>
    refine ⟨_, hp, .waits ?_ _ (blank_staged command _) (outcome_staged command _) rfl rfl⟩
    rw [isEnding, sighted?_glance, Option.any_some, anyBit_bits_or, clean, waits, Bool.or_false]
  | finishes words final ends words_length =>
    have silent (offset : Nat) (_ : offset ≠ Register.mode) : readings offset [] = [] := rfl
    obtain ⟨ending, settles⟩ := ends.settles words_length silent
    rw [List.append_nil] at ending settles
    exact ⟨_, hp, .finishes ending _ settles ends.blank final rfl rfl⟩
  | @stops between' after _ last stop error _ _ words pending ends words_length _ launched launches =>
    have hstop := Active.current?_stopping pending (answered last error words)
    obtain ⟨concludes, settles⟩ := ends.settles words_length fun _ other => launches.readless other
    have silent : Mute (c.glance ++ (between' ++ ending words)) :=
      Mute.append (fun _ => rfl) (ends.mute.append (mute_ending words))
    have split : c.glance ++ (between' ++ ending words ++ after) =
        c.glance ++ (between' ++ ending words) ++ after := (List.append_assoc _ _ _).symm
    obtain ⟨hb, ⟨wired, tickets, stop', active, blank, same⟩ | ⟨mute, tickets, active⟩⟩ :=
      launches.turns rfl hstop
    · refine ⟨_, by rw [hb]; exact hp,
        .stops concludes _ stop stop' settles ends.blank pending ?_ same blank active tickets⟩
      intro mute
      have hissued := mute none
      rw [split, issued_append, silent, List.nil_append] at hissued
      exact wired _ hissued
    · refine ⟨_, by rw [hb]; exact hp,
        .refuses concludes _ stop settles ends.blank pending ?_ active tickets⟩
      rw [split]
      exact silent.append mute

end Controller

end CardHost
