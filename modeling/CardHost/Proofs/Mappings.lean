import CardHost.Proofs.Accounts
import CardHost.Proofs.Mask
/-!
When a buffer is mapped: while the data of a command on the wire is still to come or to go. A checksum
error that is forgiven ends a command without releasing its mapping, which then stays until some later
command ends with an error.
-/
namespace CardHost

open Bus

inductive Stage where
  | receiving
  | filling
  | sending
  | settling
  | ready
  deriving DecidableEq

namespace Stage

def bit : Stage → UInt32
  | receiving => Status.endReceive
  | filling => Status.receiveFull
  | sending => Status.transmitEmpty
  | settling => Status.notBusy
  | ready => Status.commandReady

def isData : Stage → Bool
  | receiving | sending => true
  | _ => false

def mask (stage : Stage) : UInt32 := Status.errors ||| stage.bit

def accesses : Stage → List Access
  | receiving => Controller.receivedStage 1
  | filling => Controller.fullStage
  | sending => Controller.sentStage 1
  | settling => Controller.idleLineStage
  | ready => []

def next : Stage → Stage
  | receiving => filling
  | sending => settling
  | filling | settling | ready => ready

def first (command : Command BufferId) : Stage :=
  match command.data with
  | none => ready
  | some data =>
    if data.flags.isRead then receiving else if data.flags.isWrite then sending else ready

section

variable {command : Command BufferId}

theorem first_quiet (quiet : (command.data.elim false fun data => data.flags.transfers) = false) :
    first command = ready := by
  unfold first
  cases hd : command.data with
  | none => rfl
  | some data =>
    rw [hd, Option.elim_some, DataFlags.transfers, Bool.or_eq_false_iff] at quiet
    simp only [quiet.1, quiet.2, Bool.false_eq_true, if_false]

theorem first_read {data : Payload BufferId} (hd : command.data = some data) (isRead : data.flags.isRead = true) :
    first command = receiving := by
  simp only [first, hd, isRead, if_true]

theorem first_write {data : Payload BufferId} (hd : command.data = some data) (isRead : data.flags.isRead = false)
    (isWrite : data.flags.isWrite = true) : first command = sending := by
  simp only [first, hd, isRead, isWrite, Bool.false_eq_true, if_false, if_true]

end

theorem mask_next {stage : Stage} (more : stage ≠ ready) :
    (stage.mask &&& ~~~stage.bit) ||| stage.next.bit = stage.next.mask := by
  cases stage with
  | ready => exact (more rfl).elim
  | _ => decide

theorem anyBit_mask (status : UInt32) (stage other : Stage) :
    anyBit (status &&& stage.mask) other.bit = (decide (stage = other) && anyBit status other.bit) := by
  have h : stage.mask &&& other.bit = if stage = other then other.bit else 0 := by
    cases stage <;> cases other <;> rfl
  rw [anyBit, UInt32.and_assoc, h, anyBit]
  by_cases he : stage = other
  · simp [he]
  · simp [he]

end Stage

namespace Controller

variable {H : Type}

/-- A controller that has nothing on the wire: nothing is enabled, and nothing is mapped, but for what
was left mapped before. -/
structure Rests [Hardware H] [HonestMask H] (left : Bool) (c : Controller H) : Prop where
  count : c.mapped = if c.bus.mapping.isSome then 1 else 0
  mask : c.bus.mask = 0
  mapping : c.bus.mapping.isSome = left

/-- A controller with a command on the wire, in one of its stages. What was left mapped before stands in
the way of every transfer. -/
structure Works [Hardware H] [HonestMask H] (left : Bool) (c : Controller H) (stage : Stage) :
    Prop where
  count : c.mapped = if c.bus.mapping.isSome then 1 else 0
  mask : c.bus.mask = stage.mask
  mapping : c.bus.mapping.isSome = (left || stage.isData)
  free : stage.isData = true → left = false

structure Balanced [Hardware H] [HonestMask H] (left : Bool) (c : Controller H) : Prop where
  rests : c.active = none → c.Rests left
  works : ∀ a, c.active = some a → ∃ stage, c.Works left stage

variable [Hardware H] [HonestMask H] {c c' : Controller H} {left : Bool}

theorem Works.balanced (stage : Stage) (h : c.Works left stage) {a : Active}
    (ha : c.active = some a) : c.Balanced left := by
  refine ⟨fun idle => ?_, fun _ _ => ⟨stage, h⟩⟩
  rw [ha] at idle
  cases idle

theorem Rests.balanced (h : c.Rests left) (idle : c.active = none) : c.Balanced left := by
  refine ⟨fun _ => h, fun a ha => ?_⟩
  rw [idle] at ha
  cases ha

theorem Rests.stays (h : c.Rests left) (count : c'.mapped = c.mapped)
    (mapping : c'.bus.mapping.isSome = c.bus.mapping.isSome) (mask : c'.bus.mask = 0) : c'.Rests left := by
  refine ⟨?_, mask, mapping.trans h.mapping⟩
  rw [count, h.count, mapping]

theorem Rests.works_ready (h : c.Rests left) (count : c'.mapped = c.mapped)
    (mapping : c'.bus.mapping.isSome = c.bus.mapping.isSome) (mask : c'.bus.mask = Stage.ready.mask) :
    c'.Works left .ready := by
  refine ⟨?_, mask, ?_, nofun⟩
  · rw [count, h.count, mapping]
  · rw [mapping, h.mapping]
    exact (Bool.or_false left).symm

theorem Rests.works_data (h : c.Rests left) (free : c.mapped = 0) (count : c'.mapped = 1)
    (mapping : c'.bus.mapping.isSome = true) {stage : Stage} (mask : c'.bus.mask = stage.mask)
    (data : stage.isData = true) : c'.Works left stage := by
  constructor
  case count => rw [count, mapping, if_pos rfl]
  case mask => exact mask
  case mapping => rw [mapping, data, Bool.or_true]
  case free =>
    intro _
    have unmapped := h.count
    rw [h.mapping, free] at unmapped
    cases left with
    | false => rfl
    | true => cases unmapped

theorem Launches.works {a : Active} {command : Command BufferId} {bus : Bus H} {l : List Access}
    (h : c.Rests left) (hp : Performs c.bus l bus) (ha : c.active = some a)
    (hl : Launches c a command bus l c') :
    (c'.active = none ∧ c'.Rests left) ∨
      ∃ a', c'.active = some a' ∧ c'.Works left (Stage.first command) := by
  have hmapped := hp.mapped
  have enabled (bits : UInt32) : c.bus.mask ||| bits = bits := by rw [h.mask, UInt32.zero_or]
  cases hl with
  | plain data =>
    rw [Stage.first_quiet (by rw [data]; rfl)]
    exact .inr ⟨a, ha, h.works_ready rfl hmapped ((hp.mask rfl).trans (enabled _))⟩
  | idle data mode data_eq still =>
    rw [Stage.first_quiet (by rw [data_eq]; exact still)]
    exact .inr ⟨a, ha, h.works_ready rfl hmapped ((hp.mask rfl).trans (enabled _))⟩
  | read data mode address bytes data_eq isRead free =>
    rw [Stage.first_read data_eq isRead]
    exact .inr ⟨_, rfl, h.works_data free rfl hmapped ((hp.mask rfl).trans (enabled _)) rfl⟩
  | write data mode address bytes length data_eq isRead isWrite free =>
    rw [Stage.first_write data_eq isRead isWrite]
    exact .inr ⟨_, rfl, h.works_data free rfl hmapped ((hp.mask rfl).trans (enabled _)) rfl⟩
  | unstaged data mode => exact .inl ⟨rfl, h.stays rfl hmapped ((hp.mask rfl).trans h.mask)⟩
  | refused data mode bytes direction error =>
    exact .inl ⟨rfl, h.stays rfl hmapped ((hp.mask rfl).trans h.mask)⟩

theorem Launches.balanced {a : Active} {command : Command BufferId} {bus : Bus H} {l : List Access}
    (h : c.Rests left) (hp : Performs c.bus l bus) (ha : c.active = some a)
    (hl : Launches c a command bus l c') : c'.Balanced left := by
  rcases hl.works h hp ha with ⟨idle, hr⟩ | ⟨a', ha', hw⟩
  · exact hr.balanced idle
  · exact Works.balanced _ hw ha'

theorem seenMask_eq (c : Controller H) : c.seenMask = c.bus.mask := by
  rw [seenMask, Bus.read_mask, Bus.mask_read]

theorem Works.anyBit_observed {stage : Stage} (h : c.Works left stage) (other : Stage) :
    anyBit c.observed other.bit = (decide (stage = other) && anyBit c.seenStatus other.bit) := by
  rw [observed, seenMask_eq, h.mask, Stage.anyBit_mask]

theorem Works.stage_waits {stage : Stage} (h : c.Works left stage)
    (waits : anyBit c.seenStatus stage.bit = false) (mapped : Nat) :
    stageAccesses c.observed mapped = [] ∧ stageMapped c.observed mapped = mapped := by
  have none (other : Stage) : anyBit c.observed other.bit = false := by
    rw [h.anyBit_observed]
    by_cases he : stage = other
    · rw [← he, waits, Bool.and_false]
    · rw [decide_eq_false he, Bool.false_and]
  have hsent : anyBit c.observed Status.transmitEmpty = false := none .sending
  have hfull : anyBit c.observed Status.receiveFull = false := none .filling
  have hreceived : anyBit c.observed Status.endReceive = false := none .receiving
  have hline : anyBit c.observed Status.notBusy = false := none .settling
  simp [stageAccesses, stageMapped, hsent, hfull, hreceived, hline]

theorem Works.stage_ends {stage : Stage} (h : c.Works left stage)
    (ends : anyBit c.seenStatus stage.bit = true) :
    stageAccesses c.observed c.mapped = stage.accesses ∧
      stageMapped c.observed c.mapped = if stage.isData then 0 else c.mapped := by
  have hsent : anyBit c.observed Status.transmitEmpty = _ := h.anyBit_observed .sending
  have hfull : anyBit c.observed Status.receiveFull = _ := h.anyBit_observed .filling
  have hreceived : anyBit c.observed Status.endReceive = _ := h.anyBit_observed .receiving
  have hline : anyBit c.observed Status.notBusy = _ := h.anyBit_observed .settling
  have hone (data : stage.isData = true) : c.mapped = 1 := by
    rw [h.count, h.mapping, data, Bool.or_true, if_pos rfl]
  simp only [stageAccesses, stageMapped, hsent, hfull, hreceived, hline]
  cases stage with
  | receiving | sending => simp [ends, hone rfl, Stage.accesses, Stage.isData]
  | filling | settling | ready => simp [ends, Stage.accesses, Stage.isData]

theorem Works.stage_ready {stage : Stage} (h : c.Works left stage)
    (ready : anyBit c.observed Status.commandReady = true) :
    stage = .ready ∧ anyBit c.seenStatus Status.commandReady = true ∧
      stageAccesses c.observed c.mapped = [] ∧ stageMapped c.observed c.mapped = c.mapped := by
  have hb := h.anyBit_observed .ready
  rw [show anyBit c.observed Stage.ready.bit = true from ready] at hb
  obtain ⟨hstage, hs⟩ := Bool.and_eq_true_iff.mp hb.symm
  obtain rfl := of_decide_eq_true hstage
  exact ⟨rfl, hs, h.stage_ends hs⟩

theorem Works.next {stage : Stage} {bus : Bus H} (h : c.Works left stage)
    (hp : Performs c.bus (c.glance ++ stage.accesses) bus) (more : stage ≠ .ready)
    (mapped : c'.mapped = if stage.isData then 0 else c.mapped) (hb : c'.bus = bus) :
    c'.Works left stage.next := by
  have hmask := hp.mask (by cases stage <;> rfl)
  have hmapping := hp.mapped
  rw [h.mask] at hmask
  rw [h.mapping] at hmapping
  subst hb
  have henabled : c'.bus.mask = stage.next.mask := by
    rw [hmask, ← Stage.mask_next more]
    cases stage <;> rfl
  cases stage with
  | ready => exact (more rfl).elim
  | receiving | sending =>
    have hleft := h.free rfl
    have hm : c'.bus.mapping.isSome = false := hmapping
    refine ⟨?_, henabled, ?_, nofun⟩
    · rw [mapped, hm]
      rfl
    · rw [hm, hleft]
      rfl
  | filling | settling =>
    have hm : c'.bus.mapping.isSome = (left || false) := hmapping
    refine ⟨?_, henabled, hm, nofun⟩
    rw [mapped, hm]
    exact h.count.trans (congrArg (if · = true then 1 else 0) h.mapping)

omit [HonestMask H] in
def forgives (c : Controller H) (command : Command BufferId) : Bool :=
  (CommandError.ofStatus? c.observed command.opcode).isNone

omit [HonestMask H] in
/-- Whether a mapping is left behind after an interrupt: one that is loaded when an error is forgiven
stays, and an error that is not forgiven releases it. -/
def leftAfter (c : Controller H) (left : Bool) : Bool :=
  if c.detached then left
  else
    match c.current? with
    | none => left
    | some command =>
      if anyBit c.observed Status.errors then c.forgives command && c.bus.mapping.isSome else left

theorem mask_ending (mask : UInt32) (words : List UInt32) :
    (ending words).foldl maskAfter mask = 0 ∧ (ending words).any Access.resets = false ∧
      ∀ mapped, (ending words).foldl mappedAfter mapped = mapped := by
  have reads (i : Nat) : (responseReads i words).foldl maskAfter 0 = 0 ∧
      (responseReads i words).any Access.resets = false ∧
      ∀ mapped, (responseReads i words).foldl mappedAfter mapped = mapped := by
    induction words generalizing i with
    | nil => exact ⟨rfl, rfl, fun _ => rfl⟩
    | cons word rest ih => exact ih (i + 1)
  have clear : mask &&& ~~~Status.all = 0 := UInt32.and_zero
  refine ⟨?_, (reads 0).2.1, (reads 0).2.2⟩
  change (responseReads 0 words).foldl maskAfter (mask &&& ~~~Status.all) = 0
  rw [clear]
  exact (reads 0).1

theorem Ends.rests {stage : Stage} {command last : Command BufferId} {l : List Access}
    {mapped : Nat} {error : Option CommandError} {words : List UInt32} {bus : Bus H}
    (h : c.Works left stage) (attached : c.detached = false) (hc : c.current? = some command)
    (ends : c.Ends command c.observed l mapped last error)
    (hp : Performs c.bus (c.glance ++ (l ++ ending words)) bus) (hb : c'.bus = bus)
    (hm : c'.mapped = mapped) : c'.Rests (c.leftAfter left) := by
  subst hb
  obtain ⟨hmask, hresets, hmapped⟩ := mask_ending (l.foldl maskAfter c.bus.mask) words
  have hcount := h.count
  have mapping : c'.bus.mapping.isSome = l.foldl mappedAfter c.bus.mapping.isSome := by
    have hall := hp.mapped
    rw [List.foldl_append, List.foldl_append, hmapped] at hall
    exact hall
  have mask (steady : l.any Access.resets = false) : c'.bus.mask = 0 := by
    have hall := hp.mask (by
      rw [List.any_append, List.any_append, steady, hresets]
      rfl)
    rw [List.foldl_append, List.foldl_append] at hall
    exact hall.trans hmask
  have hleft : c.leftAfter left = if anyBit c.observed Status.errors then
      c.forgives command && c.bus.mapping.isSome else left := by
    simp only [leftAfter, attached, hc, Bool.false_eq_true, if_false]
  cases ends with
  | failed e faulty error =>
    -- A mapping is unloaded at most once, for there is at most one.
    have hreleased : c'.bus.mapping.isSome = false ∧ c.mapped - 1 = 0 ∧
        (releasing c.mapped).any Access.resets = false := by
      cases hl : c.bus.mapping.isSome with
      | false =>
        rw [hl] at hcount mapping
        rw [show c.mapped = 0 from hcount] at mapping ⊢
        exact ⟨mapping, rfl, rfl⟩
      | true =>
        rw [hl] at hcount mapping
        rw [show c.mapped = 1 from hcount] at mapping ⊢
        exact ⟨mapping, rfl, rfl⟩
    refine ⟨?_, mask hreleased.2.2, ?_⟩
    · rw [hm, hreleased.1, hreleased.2.1]
      rfl
    · rw [hreleased.1, hleft, if_pos faulty, forgives, error]
      rfl
  | forgiven faulty error =>
    refine ⟨?_, mask rfl, ?_⟩
    · rw [hm, mapping]
      exact hcount
    · rw [mapping, hleft, if_pos faulty, forgives, error]
      rfl
  | ready clean ready =>
    obtain ⟨rfl, -, haccesses, hmapped⟩ := h.stage_ready ready
    rw [haccesses] at mapping mask
    refine ⟨?_, mask rfl, ?_⟩
    · rw [hm, hmapped, mapping]
      exact hcount
    · rw [mapping, hleft, if_neg (by rw [clean]; decide)]
      exact h.mapping.trans (Bool.or_false left)

theorem Balanced.interrupt (h : c.Balanced left)
    (current : ∀ a, c.active = some a → a.current?.isSome = true) :
    c.interrupt.Balanced (c.leftAfter left) := by
  have hinterrupts := interrupts current
  generalize c.interrupt = c' at hinterrupts ⊢
  cases hinterrupts with
  | rests detached =>
    rw [leftAfter, if_pos detached]
    exact h
  | spurious attached idle performs =>
    have hr := h.rests idle
    have hleft : c.leftAfter left = left := by
      simp only [leftAfter, attached, current?_of_idle idle, Bool.false_eq_true, if_false]
    rw [hleft]
    exact Rests.balanced (hr.stays rfl performs.mapped (performs.mask_zero hr.mask rfl)) idle
  | @serves a command l bus c' attached ha hc performs serves =>
    have hcur : c.current? = some command := current?_of_active ha hc
    obtain ⟨stage, hw⟩ := h.works a ha
    cases serves with
    | continues clean waits =>
      have hleft : c.leftAfter left = left := by
        simp only [leftAfter, attached, hcur, clean, Bool.false_eq_true, if_false]
      rw [hleft]
      cases hs : anyBit c.seenStatus stage.bit with
      | false =>
        obtain ⟨haccesses, hmapped⟩ := hw.stage_waits hs c.mapped
        rw [haccesses] at performs
        rw [hmapped]
        have hmapping := performs.mapped
        refine Works.balanced stage ⟨?_, ?_, hmapping.trans hw.mapping, hw.free⟩ rfl
        · exact hw.count.trans (congrArg (if · = true then 1 else 0) hmapping.symm)
        · exact (performs.mask rfl).trans hw.mask
      | true =>
        have more : stage ≠ .ready := by
          rintro rfl
          have hb := hw.anyBit_observed .ready
          rw [hs, show anyBit c.observed Stage.ready.bit = false from waits] at hb
          cases hb
        obtain ⟨haccesses, hmapped⟩ := hw.stage_ends hs
        rw [haccesses] at performs
        exact Works.balanced _ (hw.next performs more hmapped rfl) rfl
    | finishes words final ends =>
      exact Rests.balanced (ends.rests hw attached hcur performs rfl rfl) rfl
    | stops words pending ends _ reached launched launches =>
      exact launches.balanced (ends.rests hw attached hcur reached rfl rfl) launched rfl

theorem Balanced.submit (h : c.Balanced left) (request : Request Bytes) :
    (c.submit request).2.Balanced left := by
  have hsubmits := c.submits request
  generalize (c.submit request).2 = c' at hsubmits ⊢
  cases hsubmits with
  | refuses => exact h
  | launches attached idle performs launches =>
    have hr := h.rests idle
    exact launches.balanced (c := c.take request) ⟨hr.count, hr.mask, hr.mapping⟩ performs rfl

omit [Hardware H] [HonestMask H] in
theorem Quiet.mapped {l : List Access} (h : Quiet c l) (mapped : Bool) :
    l.foldl mappedAfter mapped = mapped := by
  cases h <;> rfl

theorem Quiet.mask {l : List Access} (h : Quiet c l) (busy : c.active ≠ none)
    (hp : Performs c.bus l c'.bus) : c'.bus.mask = c.bus.mask := by
  cases h with
  | still => exact hp.mask rfl
  | programs control slot wide mode divided steady =>
    refine hp.mask ?_
    simp [programming, Access.resets, steady, Register.slot, Register.mode, Register.control]
  | quiesces idle => exact (busy idle).elim

theorem Balanced.keeps {l : List Access} (h : c.Balanced left) (hk : c.Keeps c') (hq : Quiet c l)
    (hp : Performs c.bus l c'.bus) : c'.Balanced left := by
  have hmapping := hp.mapped
  rw [hq.mapped] at hmapping
  have hcount (count : c.mapped = if c.bus.mapping.isSome then 1 else 0) :
      c'.mapped = if c'.bus.mapping.isSome then 1 else 0 := by rw [hk.mapped, hmapping, count]
  have hclear (clear : c.bus.mask = 0) : c'.bus.mask = 0 := by
    refine hp.mask_zero clear ?_
    cases hq <;> rfl
  refine ⟨fun idle => ?_, fun a ha => ?_⟩
  · have hr := h.rests (hk.active ▸ idle)
    exact ⟨hcount hr.count, hclear hr.mask, hmapping.trans hr.mapping⟩
  · rw [hk.active] at ha
    obtain ⟨stage, hw⟩ := h.works a ha
    refine ⟨stage, hcount hw.count, ?_, hmapping.trans hw.mapping, hw.free⟩
    rw [hq.mask (by rw [ha]; nofun) hp, hw.mask]

theorem Balanced.congr (h : c.Balanced left) (active : c'.active = c.active) (mapped : c'.mapped = c.mapped)
    (mapping : c'.bus.mapping = c.bus.mapping) (mask : c'.bus.mask = c.bus.mask) : c'.Balanced left := by
  have count (count : c.mapped = if c.bus.mapping.isSome then 1 else 0) :
      c'.mapped = if c'.bus.mapping.isSome then 1 else 0 := by rw [mapped, mapping, count]
  refine ⟨fun idle => ?_, fun a ha => ?_⟩
  · have hr := h.rests (active ▸ idle)
    exact ⟨count hr.count, mask.trans hr.mask, mapping ▸ hr.mapping⟩
  · obtain ⟨stage, hw⟩ := h.works a (active ▸ ha)
    exact ⟨stage, count hw.count, mask.trans hw.mask, mapping ▸ hw.mapping, hw.free⟩

theorem balanced_attach (unit : UInt32) (board : Board) (options : Options) (hardware : H) :
    (attach unit board options hardware).Balanced false := by
  let fresh := Controller.fresh unit board options hardware
  rw [attach_eq, writeAll_eq]
  refine Rests.balanced ⟨?_, ?_, ?_⟩ rfl
  · rw [Bus.writeAll_mapping]
    rfl
  · have hclear : (fresh.bus.write Register.disable Status.all).mask = 0 := by
      rw [Bus.mask_write _ rfl]
      exact UInt32.and_zero
    exact (performs_writeAll (fresh.bus.write Register.disable Status.all)
      (clearChannels ++ [(Register.control, Control.off ||| Control.softReset)] ++
        powerOn board.soc)).mask_zero hclear rfl
  · rw [Bus.writeAll_mapping]
    rfl

end Controller

namespace System

variable {H : Type} [Hardware H] [HonestMask H]

def Balanced (left : Bool) : System H → Prop
  | whole c => c.Balanced left
  | apart _ => True

omit [HonestMask H] in
def leftAfter : System H → Operation → Bool → Bool
  | whole c, .interrupt, left => c.leftAfter left
  | _, _, left => left

omit [HonestMask H] in
def left : System H → List Operation → Bool → Bool
  | _, [], left => left
  | s, operation :: rest, left => (s.step operation).2.left rest (s.leftAfter operation left)

theorem Balanced.setTicket {left : Bool} {s : System H} (h : s.Balanced left) (ticket : Nat)
    (value : Ticket) : (s.setParts (s.parts.setTicket ticket value)).Balanced left := by
  cases s with
  | whole c => exact Controller.Balanced.congr h rfl rfl rfl rfl
  | apart p => exact trivial

theorem Balanced.poll {left : Bool} {s : System H} (h : s.Balanced left) (ticket : Nat) :
    (s.step (.poll ticket)).2.Balanced left := by
  simp only [step]
  split
  · unfold Parts.poll
    split
    · rwa [setParts_parts]
    · exact h.setTicket ticket .spent
    · rwa [setParts_parts]
  · exact h

theorem Balanced.drop {left : Bool} {s : System H} (h : s.Balanced left) (ticket : Nat) :
    (s.step (.drop ticket)).2.Balanced left := by
  simp only [step]
  split
  · exact h.setTicket ticket .dropped
  · exact h

theorem Balanced.quiet {left : Bool} {c : Controller H} (h : c.Balanced left)
    {operation : Operation} (quiet : operation.isQuiet = true) :
    (c.perform operation).2.Balanced left := by
  obtain ⟨c', l, hc', hq, hp, hk, -⟩ := c.perform_quiet quiet
  rw [hc']
  exact h.keeps hk hq hp

theorem Balanced.step {left : Bool} {s : System H} {l : Ledger} (h : s.Balanced left)
    (agrees : Agrees s l) (operation : Operation) :
    (s.step operation).2.Balanced (s.leftAfter operation left) := by
  cases s with
  | apart p =>
    cases operation with
    | poll ticket => exact h.poll ticket
    | drop ticket => exact h.drop ticket
    | _ => exact trivial
  | whole c =>
    cases operation with
    | submit request =>
      have hs : ((whole c).step (.submit request)).2 = whole (c.submit request).2 := by
        simp only [System.step, Controller.perform]
        rcases c.submit request with ⟨_ | _, _⟩ <;> rfl
      rw [hs]
      exact Controller.Balanced.submit h request
    | interrupt => exact Controller.Balanced.interrupt h agrees.current
    | poll ticket => exact h.poll ticket
    | drop ticket => exact h.drop ticket
    | takeApart => exact trivial
    | _ => exact Balanced.quiet h rfl

theorem balanced_after {left : Bool} {s : System H} {l : Ledger} (h : s.Balanced left)
    (agrees : Agrees s l) (operations : List Operation) :
    (s.after operations).Balanced (s.left operations left) := by
  induction operations generalizing s l left with
  | nil => exact h
  | cons operation rest ih =>
    obtain ⟨l', _, _, agrees', -⟩ := agrees.step_accounted operation
    exact ih (h.step agrees operation) agrees'

omit [HonestMask H] in
theorem left_eq_false {s : System H} {operations : List Operation}
    (sound : ∀ before rest c command, operations = before ++ .interrupt :: rest →
      s.after before = .whole c → c.current? = some command →
      anyBit c.observed Status.errors = true → c.forgives command = true →
      c.bus.mapping.isSome = false) :
    s.left operations false = false := by
  induction operations generalizing s with
  | nil => rfl
  | cons operation rest ih =>
    have hafter : s.leftAfter operation false = false := by
      cases s with
      | apart p => rfl
      | whole c =>
        cases operation with
        | interrupt =>
          simp only [leftAfter, Controller.leftAfter]
          split
          · rfl
          · split
            · rfl
            · next command hc =>
              split
              · next hf =>
                cases hforgives : c.forgives command with
                | false => rfl
                | true => exact sound [] rest c command rfl rfl hc hf hforgives
              · rfl
        | _ => rfl
    rw [left, hafter]
    refine ih fun before rest' c command hrest hc => ?_
    exact sound (operation :: before) rest' c command (by rw [hrest]; rfl) hc

end System

/-- In every run on hardware with an honest mask, a buffer is mapped just while the end of its transfer
is awaited, or where one was left behind: so it is when the controller is free, and so it stays when it is
taken apart. None is left behind where no error is forgiven while a buffer is mapped. -/
theorem mapped_iff_awaited_or_left {H : Type} [Hardware H] [HonestMask H] (unit : UInt32)
    (board : Board) (options : Options) (hardware : H) (operations : List Operation) :
    let start := System.start unit board options hardware
    let left := start.left operations false
    (∀ c, start.after operations = .whole c →
      c.mapped = (if c.bus.mapping.isSome then 1 else 0) ∧
        (c.active = none → c.bus.mapping.isSome = left) ∧
        (c.active ≠ none → c.bus.mapping.isSome =
          (left || anyBit c.bus.mask (Status.endReceive ||| Status.transmitEmpty))) ∧
        c.takeApart.bus.mapping = c.bus.mapping) ∧
      ((∀ before rest c command, operations = before ++ .interrupt :: rest →
        start.after before = .whole c → c.current? = some command →
        anyBit c.observed Status.errors = true → c.forgives command = true →
        c.bus.mapping.isSome = false) → left = false) := by
  intro start left
  refine ⟨fun c hc => ?_, System.left_eq_false⟩
  have hstart : start.Balanced false := Controller.balanced_attach unit board options hardware
  have h := System.balanced_after hstart (.start unit board options hardware) operations
  rw [hc] at h
  refine ⟨?_, fun idle => (h.rests idle).mapping, fun busy => ?_, by rw [Controller.bus_takeApart]⟩
  · cases ha : c.active with
    | none => exact (h.rests ha).count
    | some a =>
      obtain ⟨stage, hw⟩ := h.works a ha
      exact hw.count
  · obtain ⟨a, ha⟩ := Option.ne_none_iff_exists'.mp busy
    obtain ⟨stage, hw⟩ := h.works a ha
    rw [hw.mapping, hw.mask]
    cases stage <;> rfl

theorem mapped_while_awaited :
    let start := System.start 0 (Board.reference .sam9260) .default ({} : Scripted)
    let read : Request Bytes :=
      { command := { opcode := Opcode.readBlock, flags := .r1, data := some ⟨[0, 0, 0, 0], .read, 0⟩ } }
    ∃ c, start.after [.submit read] = .whole c ∧ c.active ≠ none ∧ c.bus.mapping.isSome =
      (start.left [.submit read] false ||
        anyBit c.bus.mask (Status.endReceive ||| Status.transmitEmpty)) := by
  intro start read
  refine ⟨_, rfl, by nofun, ?_⟩
  exact ((mapped_iff_awaited_or_left 0 (Board.reference .sam9260) .default ({} : Scripted)
    [.submit read]).1 _ rfl).2.2.1 (by nofun)

/-- A read as an inquiry for operating conditions, of which the missing checksum is forgiven, ends well
with its buffer still mapped. Taken apart before, the controller gives its mapping away as well. -/
theorem forgiven_read_left_mapped :
    let start := System.start 0 (Board.reference .sam9260) .default
      ({ status := Status.responseCrc } : Scripted)
    let read : Request Bytes :=
      { command :=
          { opcode := Opcode.sendOpCond, flags := .r3, data := some ⟨[0, 0, 0, 0], .read, 0⟩ } }
    let s := start.after [.submit read, .interrupt]
    s.active? = none ∧ s.parts.bus.mapping = some ⟨1, 4⟩ ∧
      s.parts.tickets[0]? = some (.ready
        ⟨{ opcode := Opcode.sendOpCond, flags := .r3, data := some ⟨1, .read, 0⟩ }, none⟩) ∧
      ((start.after [.submit read]).step .takeApart).2.parts.bus.mapping = some ⟨1, 4⟩ := by
  refine ⟨rfl, rfl, rfl, rfl⟩

end CardHost
