import CardHost.Proofs.Mappings
/-!
Which interrupts are enabled while a command is on the wire: the errors, and the one that ends the stage
that the command is in. A command goes through its stages in their order. It ends in the last of them, or
with an error.
-/
namespace CardHost

open Bus

namespace Stage

def onward : Stage → List Stage
  | receiving => [receiving, filling, ready]
  | filling => [filling, ready]
  | sending => [sending, settling, ready]
  | settling => [settling, ready]
  | ready => [ready]

theorem onward_eq (stage : Stage) :
    stage.onward = stage :: if stage = ready then [] else stage.next.onward := by
  cases stage <;> rfl

theorem onward_suffix {stage other : Stage} {passed left : List Stage}
    (h : stage.onward = passed ++ other :: left) : other.onward = other :: left := by
  induction passed generalizing stage with
  | nil =>
    rw [onward_eq] at h
    obtain ⟨rfl, -⟩ := List.cons.inj h
    rw [onward_eq, h, List.nil_append]
  | cons first rest ih =>
    rw [onward_eq] at h
    obtain ⟨-, h⟩ := List.cons.inj h
    split at h
    · cases rest <;> cases h
    · exact ih h

theorem onward_next {stage other : Stage} {passed left : List Stage}
    (h : stage.onward = passed ++ other :: left) (more : other ≠ ready) :
    ∃ rest, left = other.next :: rest := by
  have hother := onward_suffix h
  rw [onward_eq, if_neg more, onward_eq] at hother
  exact ⟨_, (List.cons.inj hother).2.symm⟩

theorem onward_last {stage : Stage} {passed left : List Stage}
    (h : stage.onward = passed ++ ready :: left) : left = [] :=
  (List.cons.inj (onward_suffix h)).2.symm

theorem mask_inj {stage other : Stage} : stage.mask = other.mask ↔ stage = other := by
  constructor
  · cases stage <;> cases other <;> first | exact fun _ => rfl | exact fun h => absurd h (by decide)
  · rintro rfl
    rfl

theorem next_ne {stage : Stage} (more : stage ≠ ready) : stage.next ≠ stage := by
  cases stage with
  | ready => exact (more rfl).elim
  | _ => nofun

theorem anyBit_errors (status : UInt32) (stage : Stage) :
    anyBit (status &&& stage.mask) Status.errors = anyBit status Status.errors := by
  have h : stage.mask &&& Status.errors = Status.errors := by cases stage <;> rfl
  rw [anyBit, UInt32.and_assoc, h, anyBit]

theorem first_blank (command : Command BufferId) : first command.blank = first command := by
  cases h : command.data <;> simp [first, Command.blank, h]

theorem first_congr {command command' : Command BufferId} (h : command'.blank = command.blank) :
    first command' = first command := by
  rw [← first_blank command', h, first_blank]

end Stage

namespace Controller

variable {H : Type} [Hardware H] {c c' : Controller H} {a : Active} {command : Command BufferId}
  {stage : Stage}

omit [Hardware H] in
def wire? (c : Controller H) : Option (Nat × Phase) := c.active.map fun a => (a.ticket, a.phase)

omit [Hardware H] in
theorem wire?_replace {command' : Command BufferId} (ha : c.active = some a)
    (active : c'.active = some (a.replace command')) : c'.wire? = c.wire? := by
  simp only [wire?, ha, active, Option.map_some, Active.ticket_replace, Active.phase_replace]

def Concludes (c : Controller H) (stage : Stage) : Prop :=
  anyBit c.seenStatus Status.errors = true ∨
    stage = .ready ∧ anyBit c.seenStatus Status.commandReady = true

def Advances (c : Controller H) (stage : Stage) : Prop :=
  anyBit c.seenStatus Status.errors = false ∧ anyBit c.seenStatus stage.bit = true ∧ stage ≠ .ready

variable [HonestMask H]

/-- What an operation can do to a command on the wire: it stays in its stage, or goes on to the next one,
or ends, and then its stop may come after it. -/
inductive Turns (c : Controller H) (a : Active) (command : Command BufferId) (stage : Stage)
    (operation : Operation) (c' : Controller H) : Prop
  | stays (command' : Command BufferId) (blank : command'.blank = command.blank)
    (active : c'.active = some (a.replace command')) (mask : c'.bus.mask = c.bus.mask)
  | advances (interrupt : operation = .interrupt) (command' : Command BufferId)
    (blank : command'.blank = command.blank) (active : c'.active = some (a.replace command'))
    (advances : c.Advances stage) (mask : c'.bus.mask = stage.next.mask)
  | ends (interrupt : operation = .interrupt) (concludes : c.Concludes stage)
    (idle : c'.active = none) (mask : c'.bus.mask = 0)
  | stops (interrupt : operation = .interrupt) (concludes : c.Concludes stage)
    (first : a.phase = .command) (stop : Command BufferId) (a' : Active) (phase : a'.phase = .stop)
    (active : c'.active = some a') (current : a'.current? = some stop)
    (mask : c'.bus.mask = (Stage.first stop).mask)

variable {left : Bool}

theorem Works.anyBit_errors (h : c.Works left stage) :
    anyBit c.observed Status.errors = anyBit c.seenStatus Status.errors := by
  rw [observed, seenMask_eq, h.mask, Stage.anyBit_errors]

theorem Works.concludes {l : List Access} {mapped : Nat} {last : Command BufferId}
    {error : Option CommandError} (h : c.Works left stage)
    (ends : c.Ends command c.observed l mapped last error) : c.Concludes stage := by
  cases ends with
  | failed _ faulty | forgiven faulty =>
    left
    rw [← h.anyBit_errors]
    exact faulty
  | ready clean ready =>
    obtain ⟨hstage, hs, -⟩ := h.stage_ready ready
    exact .inr ⟨hstage, hs⟩

theorem Works.interrupt (h : c.Works left stage) (attached : c.detached = false)
    (ha : c.active = some a) (hc : a.current? = some command) :
    Turns c a command stage .interrupt c.interrupt := by
  have hcur : c.current? = some command := current?_of_active ha hc
  obtain ⟨accesses, bus, hp, hserves⟩ := interrupt_serves attached ha hc
  generalize c.interrupt = c' at hserves
  cases hserves with
  | continues clean waits =>
    cases hs : anyBit c.seenStatus stage.bit with
    | false =>
      rw [(h.stage_waits hs c.mapped).1] at hp
      exact .stays _ (blank_staged command _) rfl (hp.mask rfl)
    | true =>
      have more : stage ≠ .ready := by
        rintro rfl
        have hb := h.anyBit_observed .ready
        rw [hs, show anyBit c.observed Stage.ready.bit = false from waits] at hb
        cases hb
      obtain ⟨haccesses, hmapped⟩ := h.stage_ends hs
      rw [haccesses] at hp
      rw [h.anyBit_errors] at clean
      have next : (c.proceed bus (stageMapped c.observed c.mapped)
          (a.replace (c.staged command c.observed))).Works left stage.next := h.next hp more hmapped rfl
      exact .advances rfl _ (blank_staged command _) rfl ⟨clean, hs, more⟩ next.mask
  | finishes words final ends =>
    exact .ends rfl (h.concludes ends) rfl (ends.rests h attached hcur hp rfl rfl).mask
  | @stops _ _ mapped last stop error between _ words pending ends _ reached launched launches =>
    have hstop := Active.current?_stopping pending (answered last error words)
    have hphase := (Active.current?_of_pending pending).1
    obtain ⟨hidle, hrests⟩ | ⟨a', ha', hworks⟩ :=
      launches.works (ends.rests h attached hcur reached rfl rfl) launched rfl
    · exact .ends rfl (h.concludes ends) hidle hrests.mask
    · obtain ⟨stop', rfl, blank⟩ := launches.stays rfl hstop ha'
      refine .stops rfl (h.concludes ends) hphase stop' _ ?_ ha' ?_ ?_
      · rw [Active.phase_replace]
      · exact Active.current?_replace hstop stop'
      · rw [hworks.mask, Stage.first_congr blank]

omit [HonestMask H] in
theorem submit_busy (busy : c.active ≠ none) (request : Request Bytes) :
    (c.submit request).2 = c := by
  rw [submit_eq]
  split
  · rfl
  · rw [if_pos (by rw [Controller.busy, Option.isSome_iff_ne_none]; exact busy)]

theorem Works.step (h : c.Works left stage) (attached : c.detached = false) (ha : c.active = some a)
    (hc : a.current? = some command) {operation : Operation}
    (hs : ((System.whole c).step operation).2 = .whole c') : Turns c a command stage operation c' := by
  have busy : c.active ≠ none := by
    rw [ha]
    nofun
  have stays (hactive : c'.active = c.active) (hmask : c'.bus.mask = c.bus.mask) :
      Turns c a command stage operation c' :=
    .stays command rfl (by rw [hactive, ha, Active.replace_current hc]) hmask
  cases operation with
  | submit request =>
    rw [step_submit, submit_busy busy] at hs
    cases hs
    exact stays rfl rfl
  | interrupt =>
    cases hs
    exact h.interrupt attached ha hc
  | poll ticket =>
    simp only [System.step] at hs
    split at hs
    · unfold Parts.poll at hs
      split at hs <;> cases hs <;> exact stays rfl rfl
    · cases hs
      exact stays rfl rfl
  | drop ticket =>
    simp only [System.step] at hs
    split at hs <;> cases hs <;> exact stays rfl rfl
  | takeApart => cases hs
  | _ =>
    obtain ⟨l, hq, hp, hk⟩ := step_quiet rfl hs
    exact stays hk.active (hq.mask busy hp)

omit [Hardware H] [HonestMask H] in
theorem writeProperty_detached (c : Controller H) (value : PropertyValue) :
    (c.writeProperty value).2.detached = c.detached := by
  unfold writeProperty
  split
  · rfl
  · split <;> rfl

omit [HonestMask H] in
theorem update_detached (c : Controller H) : c.update.2.detached = c.detached := by
  unfold update
  split <;> rfl

omit [HonestMask H] in
theorem setTiming_detached (c : Controller H) (clock : UInt32) (width : BusWidth) :
    (c.setTiming clock width).2.detached = c.detached := by
  rw [setTiming_eq]
  split
  · rfl
  · exact (c.ask clock width).update_detached

omit [HonestMask H] in
theorem interrupt_detached (ha : c.active = some a) (hc : a.current? = some command) :
    c.interrupt.detached = c.detached := by
  have current (a' : Active) (ha' : c.active = some a') : a'.current?.isSome = true := by
    rw [← Option.some.inj (ha.symm.trans ha'), hc]
    rfl
  obtain ⟨bus, tickets, active, mapped, he⟩ := c.interrupt_frame current
  rw [he]

omit [HonestMask H] in
theorem step_detached (ha : c.active = some a) (hc : a.current? = some command)
    {operation : Operation} (hs : ((System.whole c).step operation).2 = .whole c') :
    c'.detached = c.detached := by
  have busy : c.active ≠ none := by
    rw [ha]
    nofun
  cases operation with
  | submit request =>
    rw [step_submit, submit_busy busy] at hs
    cases hs
    rfl
  | interrupt =>
    cases hs
    exact interrupt_detached ha hc
  | poll ticket =>
    simp only [System.step] at hs
    split at hs <;> cases hs <;> rfl
  | drop ticket =>
    simp only [System.step] at hs
    split at hs <;> cases hs <;> rfl
  | takeApart => cases hs
  | readProperty p =>
    cases hs
    unfold readProperty
    split
    · rfl
    · dsimp only
      split <;> rfl
  | writeProperty value =>
    cases hs
    exact c.writeProperty_detached value
  | update =>
    cases hs
    exact c.update_detached
  | setTiming clock width =>
    cases hs
    exact c.setTiming_detached clock width
  | acquire =>
    cases hs
    unfold acquire?
    split <;> rfl
  | detach =>
    cases hs
    unfold detach
    split
    · rfl
    · rw [if_pos (by rw [Controller.busy, ha, Option.isSome_some])]
  | _ =>
    cases hs
    rfl

theorem Rests.step (h : c.Rests left) (idle : c.active = none) {operation : Operation}
    (hs : ((System.whole c).step operation).2 = .whole c') :
    c'.active = none ∨ ∃ a' command', c'.active = some a' ∧ a'.current? = some command' ∧
      c'.bus.mask = (Stage.first command').mask ∧ c'.detached = false := by
  cases operation with
  | submit request =>
    rw [step_submit] at hs
    cases hs
    cases hd : c.detached with
    | true =>
      left
      rw [submit_eq, if_pos hd]
      exact idle
    | false =>
      -- Of all operations, only a request that is accepted puts a command on the wire of a free controller.
      obtain ⟨l, bus, hp, hl, -⟩ := c.submit_launches hd idle request
      have hdetached : (c.submit request).2.detached = false := by
        obtain ⟨bus, tickets, active, mapped, he⟩ := c.submit_frame request
        rw [he]
        exact hd
      obtain ⟨hidle, -⟩ | ⟨a', ha', hworks⟩ :=
        hl.works (c := c.take request) ⟨h.count, h.mask, h.mapping⟩ hp rfl
      · exact .inl hidle
      · obtain ⟨command', rfl, blank⟩ := hl.stays rfl rfl ha'
        refine .inr ⟨_, command', ha', Active.current?_replace rfl command', ?_, hdetached⟩
        rw [hworks.mask, Stage.first_congr blank]
  | interrupt =>
    cases hs
    cases hd : c.detached with
    | true =>
      left
      rw [Controller.interrupt, if_pos hd]
      exact idle
    | false =>
      obtain ⟨bus, -, he⟩ := interrupt_spurious hd (current?_of_idle idle)
      rw [he]
      exact .inl idle
  | poll ticket =>
    simp only [System.step] at hs
    split at hs <;> cases hs <;> exact .inl idle
  | drop ticket =>
    simp only [System.step] at hs
    split at hs <;> cases hs <;> exact .inl idle
  | takeApart => cases hs
  | _ =>
    obtain ⟨l, -, -, hk⟩ := step_quiet rfl hs
    exact .inl (hk.active.trans idle)

theorem Balanced.works_of_mask (h : c.Balanced left) (ha : c.active = some a)
    (mask : c.bus.mask = stage.mask) : c.Works left stage := by
  obtain ⟨stage', hworks⟩ := h.works a ha
  have hstage : stage' = stage := Stage.mask_inj.mp (hworks.mask.symm.trans mask)
  rwa [hstage] at hworks

end Controller

namespace System

variable {H : Type} [Hardware H] [HonestMask H]

omit [Hardware H] [HonestMask H] in
def wire? : System H → Option (Nat × Phase)
  | whole c => c.wire?
  | apart _ => none

def masksAfter (s : System H) (operation : Operation) (masks : List UInt32) : List UInt32 :=
  let s' := (s.step operation).2
  if s'.wire? = s.wire? then
    if s'.parts.bus.mask = s.parts.bus.mask then masks else masks ++ [s'.parts.bus.mask]
  else [s'.parts.bus.mask]

/-- The masks that there were, one after the other, since the command on the wire was put there. -/
def masks : System H → List Operation → List UInt32 → List UInt32
  | _, [], masks => masks
  | s, operation :: rest, masks => (s.step operation).2.masks rest (s.masksAfter operation masks)

end System

namespace Controller

variable {H : Type} [Hardware H] [HonestMask H] {c c' : Controller H} {left : Bool}
  {masks : List UInt32}

structure Staged (c : Controller H) (masks : List UInt32) : Prop where
  detached : c.detached = true → c.active = none
  busy : ∀ a command, c.active = some a → a.current? = some command →
    ∃ passed stage rest, (Stage.first command).onward = passed ++ stage :: rest ∧
      c.bus.mask = stage.mask ∧ masks = (passed ++ [stage]).map Stage.mask

theorem Staged.attached (h : c.Staged masks) {a : Active} (ha : c.active = some a) :
    c.detached = false := by
  cases hd : c.detached with
  | false => rfl
  | true =>
    have idle := h.detached hd
    rw [ha] at idle
    cases idle

theorem staged_idle (idle : c.active = none) : c.Staged masks := by
  refine ⟨fun _ => idle, fun a command ha => ?_⟩
  rw [idle] at ha
  cases ha

theorem staged_first {a : Active} {command : Command BufferId} (ha : c.active = some a)
    (hc : a.current? = some command) (attached : c.detached = false)
    (mask : c.bus.mask = (Stage.first command).mask) : c.Staged [c.bus.mask] := by
  refine ⟨fun hd => ?_, fun a' command' ha' hc' => ?_⟩
  · rw [attached] at hd
    cases hd
  · rw [ha] at ha'
    cases ha'
    rw [hc] at hc'
    cases hc'
    refine ⟨[], Stage.first command, _, Stage.onward_eq _, mask, ?_⟩
    rw [mask]
    rfl

theorem Staged.step (h : c.Staged masks) (balanced : c.Balanced left)
    (current : ∀ a, c.active = some a → a.current?.isSome = true) {operation : Operation}
    (hs : ((System.whole c).step operation).2 = .whole c') :
    c'.Staged ((System.whole c).masksAfter operation masks) := by
  have hmasks : (System.whole c).masksAfter operation masks =
      if c'.wire? = c.wire? then
        if c'.bus.mask = c.bus.mask then masks else masks ++ [c'.bus.mask]
      else [c'.bus.mask] := by
    rw [System.masksAfter, hs]
    rfl
  rw [hmasks]
  cases ha : c.active with
  | none =>
    obtain hidle | ⟨a', command', ha', hc', mask, attached⟩ := (balanced.rests ha).step ha hs
    · exact staged_idle hidle
    · rw [if_neg (by rw [wire?, wire?, ha, ha']; nofun)]
      exact staged_first ha' hc' attached mask
  | some a =>
    obtain ⟨command, hc⟩ := Option.isSome_iff_exists.mp (current a ha)
    obtain ⟨passed, stage, rest, hroute, mask, rfl⟩ := h.busy a command ha hc
    have attached : c'.detached = false := (step_detached ha hc hs).trans (h.attached ha)
    have hcurrent {command' : Command BufferId} (active : c'.active = some (a.replace command'))
        {a'' : Active} {command'' : Command BufferId} (ha'' : c'.active = some a'')
        (hc'' : a''.current? = some command'') : command'' = command' := by
      rw [active] at ha''
      cases ha''
      rw [Active.current?_replace hc] at hc''
      exact (Option.some.inj hc'').symm
    cases (balanced.works_of_mask ha mask).step (h.attached ha) ha hc hs with
    | stays command' blank active mask' =>
      rw [if_pos (wire?_replace ha active), if_pos mask']
      refine ⟨fun hd => absurd hd (by rw [attached]; decide), fun a'' command'' ha'' hc'' => ?_⟩
      rw [hcurrent active ha'' hc'', Stage.first_congr blank]
      exact ⟨passed, stage, rest, hroute, mask'.trans mask, rfl⟩
    | advances _ command' blank active advances mask' =>
      -- Different stages enable different bits, so that the change shows in the mask.
      have hne : c'.bus.mask ≠ c.bus.mask := by
        rw [mask', mask]
        exact fun he => Stage.next_ne advances.2.2 (Stage.mask_inj.mp he)
      rw [if_pos (wire?_replace ha active), if_neg hne]
      refine ⟨fun hd => absurd hd (by rw [attached]; decide), fun a'' command'' ha'' hc'' => ?_⟩
      rw [hcurrent active ha'' hc'', Stage.first_congr blank]
      obtain ⟨rest', rfl⟩ := Stage.onward_next hroute advances.2.2
      refine ⟨passed ++ [stage], stage.next, rest', ?_, mask', ?_⟩
      · rw [hroute, List.append_assoc, List.singleton_append]
      · rw [mask', List.map_append, List.map_append, List.map_append]
        rfl
    | ends _ _ idle => exact staged_idle idle
    | stops _ _ first stop a' phase active current' mask' =>
      have hother : c'.wire? ≠ c.wire? := by
        intro he
        simp only [wire?, ha, active, Option.map_some, Option.some.injEq, Prod.mk.injEq, phase,
          first] at he
        exact absurd he.2 (by decide)
      rw [if_neg hother]
      exact staged_first active current' attached mask'

end Controller

namespace System

variable {H : Type} [Hardware H] [HonestMask H] {s : System H} {l : Ledger} {left : Bool}
  {masks : List UInt32}

def Staged (s : System H) (masks : List UInt32) : Prop :=
  s.Holds (·.Staged masks)

theorem Staged.step (h : s.Staged masks) (balanced : s.Balanced left) (agrees : Agrees s l)
    (operation : Operation) : (s.step operation).2.Staged (s.masksAfter operation masks) := by
  cases hs : (s.step operation).2 with
  | apart p => exact trivial
  | whole c' =>
    cases s with
    | apart p =>
      cases operation with
      | poll ticket =>
        simp only [System.step] at hs
        split at hs <;> cases hs
      | drop ticket =>
        simp only [System.step] at hs
        split at hs <;> cases hs
      | _ => cases hs
    | whole c =>
      exact Controller.Staged.step h balanced agrees.current hs

theorem Staged.after (h : s.Staged masks) (balanced : s.Balanced left) (agrees : Agrees s l)
    (operations : List Operation) :
    (s.after operations).Staged (s.masks operations masks) ∧
      (∃ left, (s.after operations).Balanced left) ∧ ∃ l, Agrees (s.after operations) l := by
  induction operations generalizing s l left masks with
  | nil => exact ⟨h, ⟨left, balanced⟩, l, agrees⟩
  | cons operation rest ih =>
    obtain ⟨l', _, _, agrees', -⟩ := agrees.step_accounted operation
    exact ih (h.step balanced agrees operation) (balanced.step agrees operation) agrees'

end System

/-- In every run on hardware with an honest mask, nothing is enabled while nothing is on the wire, and so it
is once the controller is detached. While a command is on the wire, the errors are enabled, and just one
stage of those that such a command goes through; it has passed those before it in their order. It goes on
to the next stage only when an interrupt finds the end of this one and no error. It leaves the wire only
when an interrupt finds an error, or finds it ready in the last stage, after all of its stages. -/
theorem one_stage_enabled {H : Type} [Hardware H] [HonestMask H] (unit : UInt32) (board : Board)
    (options : Options) (hardware : H) (operations : List Operation) :
    let start := System.start unit board options hardware
    let masks := start.masks operations []
    ∀ c, start.after operations = .whole c →
      (c.active = none ∨ c.detached = true → c.bus.mask = 0) ∧
      ∀ a, c.active = some a → ∃ command passed stage rest,
        a.current? = some command ∧ (Stage.first command).onward = passed ++ stage :: rest ∧
        (∀ other : Stage, c.bus.mask = Status.errors ||| other.bit ↔ other = stage) ∧
        masks = (passed ++ [stage]).map Stage.mask ∧
        ∀ operation c', ((System.whole c).step operation).2 = .whole c' →
          (c'.wire? = c.wire? → c'.bus.mask ≠ c.bus.mask →
            operation = .interrupt ∧ anyBit c.seenStatus Status.errors = false ∧
              anyBit c.seenStatus stage.bit = true ∧
              ∃ next later, rest = next :: later ∧ c'.bus.mask = Status.errors ||| next.bit) ∧
          (c'.wire? ≠ c.wire? →
            operation = .interrupt ∧ (anyBit c.seenStatus Status.errors = true ∨
              stage = .ready ∧ anyBit c.seenStatus Status.commandReady = true ∧
                masks = (Stage.first command).onward.map Stage.mask)) := by
  intro start masks c hc
  have hstart : start.Staged [] := Controller.staged_idle rfl
  have hbalanced : start.Balanced false := Controller.balanced_attach unit board options hardware
  obtain ⟨staged, ⟨left, balanced⟩, l, agrees⟩ :=
    hstart.after hbalanced (.start unit board options hardware) operations
  rw [hc] at staged balanced agrees
  have staged : c.Staged masks := staged
  have balanced : c.Balanced left := balanced
  refine ⟨?_, fun a ha => ?_⟩
  · rintro (idle | detached)
    · exact (balanced.rests idle).mask
    · exact (balanced.rests (staged.detached detached)).mask
  · obtain ⟨-, e, -, hm⟩ := agrees.active a ha
    obtain ⟨command, hcurrent⟩ := Option.isSome_iff_exists.mp hm.current
    obtain ⟨passed, stage, rest, hroute, mask, hmasks⟩ := staged.busy a command ha hcurrent
    refine ⟨command, passed, stage, rest, hcurrent, hroute, fun other => ?_, hmasks, ?_⟩
    · rw [mask]
      exact Stage.mask_inj.trans eq_comm
    · intro operation c' hs
      have concluded (concludes : c.Concludes stage) : anyBit c.seenStatus Status.errors = true ∨
          stage = .ready ∧ anyBit c.seenStatus Status.commandReady = true ∧
            masks = (Stage.first command).onward.map Stage.mask := by
        refine concludes.imp_right fun ⟨hready, seen⟩ => ⟨hready, seen, ?_⟩
        subst hready
        rw [hmasks, hroute, Stage.onward_last hroute]
      -- The mask tells the stage that the command is in, and so what an operation can do to it.
      cases (balanced.works_of_mask ha mask).step (staged.attached ha) ha hcurrent hs with
      | stays command' _ active mask' =>
        have same := Controller.wire?_replace ha active
        exact ⟨fun _ hne => absurd mask' hne, fun hne => absurd same hne⟩
      | advances interrupt command' _ active advances mask' =>
        have same := Controller.wire?_replace ha active
        refine ⟨fun _ _ => ⟨interrupt, advances.1, advances.2.1, ?_⟩, fun hne => absurd same hne⟩
        obtain ⟨later, hrest⟩ := Stage.onward_next hroute advances.2.2
        exact ⟨_, later, hrest, mask'⟩
      | ends interrupt concludes idle =>
        refine ⟨fun he => ?_, fun _ => ⟨interrupt, concluded concludes⟩⟩
        simp [Controller.wire?, ha, idle] at he
      | stops interrupt concludes first stop a' phase active =>
        refine ⟨fun he => ?_, fun _ => ⟨interrupt, concluded concludes⟩⟩
        simp [Controller.wire?, ha, active, phase, first] at he

def System.reading : System Scripted :=
  (start 0 (Board.reference .sam9260) .default { status := Status.endReceive }).after
    [.submit { command := { opcode := 17, flags := .r1, data := some ⟨[0, 0, 0, 0], .read, 0⟩ } }]

theorem read_enters_second_stage :
    ∃ c c', System.reading = .whole c ∧ ((System.whole c).step .interrupt).2 = .whole c' ∧
      c.active ≠ none ∧ c'.wire? = c.wire? ∧ c'.bus.mask ≠ c.bus.mask ∧
      ∃ (passed : List Stage) (stage next : Stage) (later : List Stage),
        Stage.receiving.onward = passed ++ stage :: next :: later ∧
        anyBit c.seenStatus stage.bit = true ∧ c'.bus.mask = Status.errors ||| next.bit := by
  have hc : ∃ c, System.reading = .whole c := ⟨_, rfl⟩
  obtain ⟨c, hc⟩ := hc
  have h := one_stage_enabled 0 (Board.reference .sam9260) .default
    ({ status := Status.endReceive } : Scripted)
    [.submit { command := { opcode := 17, flags := .r1, data := some ⟨[0, 0, 0, 0], .read, 0⟩ } }] c hc
  cases hc
  obtain ⟨command, passed, stage, rest, hcommand, hroute, -, -, hstep⟩ := h.2 _ rfl
  cases hcommand
  obtain ⟨-, -, hseen, next, later, rfl, hnext⟩ := (hstep .interrupt _ rfl).1 rfl (by decide)
  exact ⟨_, _, rfl, rfl, nofun, rfl, by decide, passed, stage, next, later, hroute, hseen, hnext⟩

end CardHost
