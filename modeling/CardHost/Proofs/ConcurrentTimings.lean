import CardHost.Proofs.AppliedTiming
/-!
Two callers that set the bus timing at the same time. Each takes the lock three times, for the clock, for
the width and for the update, so that a section of one may come between two sections of the other. The bus
then runs at the clock of the caller who came last with a clock, and over the lines of the caller who came
last with a width, which need not be the same one.
-/
namespace CardHost

open Bus

structure TimingCall where
  clock : UInt32
  width : BusWidth

inductive Section where
  | clock
  | width
  | update
  deriving DecidableEq

namespace Section

def inOrder : List Section := [clock, width, update]

def operation (call : TimingCall) : Section → Operation
  | clock => .writeProperty (.clock call.clock)
  | width => .writeProperty (.busWidth call.width)
  | update => .update

end Section

inductive Caller where
  | first
  | second
  deriving DecidableEq

def Caller.other : Caller → Caller
  | first => second
  | second => first

theorem Caller.agree {α : Type} (f : Caller → α) (same : f .first = f .second) (i j : Caller) :
    f i = f j := by
  cases i <;> cases j
  · rfl
  · exact same
  · exact same.symm
  · rfl

theorem Caller.agree_of_ne {α : Type} (f : Caller → α) {i j : Caller} (apart : i ≠ j)
    (same : f i = f j) : f .first = f .second := by
  cases i <;> cases j
  · exact absurd rfl apart
  · exact same
  · exact same.symm
  · exact absurd rfl apart

abbrev Schedule := List (Caller × Section)

namespace Schedule

def own (l : Schedule) (who : Caller) : List Section := (l.filter (·.1 = who)).map (·.2)

def Interleaves (l : Schedule) : Prop := ∀ who, own l who = Section.inOrder

def serial (last : Caller) : Schedule :=
  Section.inOrder.map (last.other, ·) ++ Section.inOrder.map (last, ·)

def operations (calls : Caller → TimingCall) (l : Schedule) : List Operation :=
  l.map fun (who, part) => part.operation (calls who)

def last? (part : Section) (l : Schedule) : Option Caller := (l.filter (·.2 = part)).getLast?.map (·.1)

theorem own_append (l l' : Schedule) (who : Caller) : own (l ++ l') who = own l who ++ own l' who := by
  simp [own]

theorem own_cons_self (who : Caller) (part : Section) (l : Schedule) :
    own ((who, part) :: l) who = part :: own l who := by
  simp [own]

theorem last?_append_singleton (part : Section) (l : Schedule) (next : Caller × Section) :
    last? part (l ++ [next]) = if next.2 = part then some next.1 else last? part l := by
  by_cases h : next.2 = part <;> simp [last?, h]

theorem last?_of_own {part : Section} {l : Schedule} {who : Caller} (h : part ∈ own l who) :
    ∃ i, last? part l = some i := by
  obtain ⟨⟨who', part'⟩, member, same⟩ := List.mem_map.mp h
  have kind : (who', part') ∈ l.filter (·.2 = part) :=
    List.mem_filter.mpr ⟨(List.mem_filter.mp member).1, by simpa using same⟩
  obtain ⟨next, last⟩ := Option.isSome_iff_exists.mp (List.getLast?_isSome.mpr (List.ne_nil_of_mem kind))
  exact ⟨next.1, by rw [last?, last]; rfl⟩

theorem own_before_update {l before after : Schedule} {who : Caller} (h : Interleaves l)
    (split : l = before ++ (who, .update) :: after) : own before who = [.clock, .width] := by
  have hown := h who
  rw [split, own_append, own_cons_self, Section.inOrder] at hown
  generalize own before who = sections at hown
  generalize own after who = later at hown
  rcases sections with _ | ⟨x, _ | ⟨y, _ | ⟨z, rest⟩⟩⟩
  · cases hown
  · cases hown
  · cases hown
    rfl
  · simp at hown

theorem ends_with_update {l : Schedule} (h : Interleaves l) :
    ∃ before who, l = before ++ [(who, .update)] := by
  obtain rfl | ⟨before, ⟨who, part⟩, rfl⟩ := l.eq_nil_or_concat
  · cases h .first
  · rw [List.concat_eq_append] at h ⊢
    have hown := h who
    rw [own_append, own_cons_self] at hown
    have last := congrArg List.getLast? hown
    rw [List.getLast?_append] at last
    cases last
    exact ⟨before, who, rfl⟩

theorem serial_interleaves (last : Caller) : Interleaves (serial last) := by
  intro who
  cases last <;> cases who <;> rfl

end Schedule

def BusSettings.timed (bus : BusSettings) (clock : UInt32) (width : BusWidth) : BusSettings :=
  { bus with clock, width }

structure TimingOutcome where
  request : UInt32
  bus : BusSettings
  divider : UInt32
  lines : UInt32
  deriving DecidableEq

namespace Controller

variable {H : Type} [Hardware H] {c c' : Controller H} {calls : Caller → TimingCall} {l : Schedule}

def timingOutcome (c : Controller H) : TimingOutcome where
  request := c.clockRequest
  bus := c.host.bus
  divider := (c.bus.read Register.mode).1 &&& Mode.divider
  lines := (c.bus.read Register.slot).1 &&& Slot.fourWire

omit [Hardware H] in
def timingFor (c : Controller H) (clock : UInt32) (width : BusWidth) : TimingOutcome :=
  let plan := Clock.plan clock c.board.masterClock c.options.overclock
  { request := clock
    bus := c.host.bus.timed plan.rate width
    divider := plan.divider
    lines := width.lines }

def setSerially (c : Controller H) (calls : Caller → TimingCall) (last : Caller) : Controller H :=
  ((c.setTiming (calls last.other).clock (calls last.other).width).2.setTiming
    (calls last).clock (calls last).width).2

theorem after_inOrder (c : Controller H) (call : TimingCall) :
    (System.whole c).after (Section.inOrder.map (·.operation call)) =
        .whole (c.setTiming call.clock call.width).2 ∧
      (((System.whole c).after [.writeProperty (.clock call.clock),
        .writeProperty (.busWidth call.width)]).step .update).1 =
          .timing (c.setTiming call.clock call.width).1 := by
  cases hd : c.detached with
  | false =>
    have asked : ((c.writeProperty (.clock call.clock)).2.writeProperty (.busWidth call.width)).2 =
        c.ask call.clock call.width := by
      let clocked : Controller H := { c with host.bus.clock := call.clock, clockRequest := call.clock }
      have hclock : c.writeProperty (.clock call.clock) = (.ok (), clocked) :=
        writeProperty_attached hd rfl
      have hwidth : clocked.writeProperty (.busWidth call.width) =
          (.ok (), c.ask call.clock call.width) := writeProperty_attached (c := clocked) hd rfl
      rw [hclock, hwidth]
    rw [setTiming_attached hd, ← asked]
    exact ⟨rfl, rfl⟩
  | true =>
    have hwrite (value : PropertyValue) : c.writeProperty value = (.error .detached, c) := if_pos hd
    have hasked : (System.whole c).after [.writeProperty (.clock call.clock),
        .writeProperty (.busWidth call.width)] = .whole c := by
      change System.whole ((c.writeProperty (.clock call.clock)).2.writeProperty
        (.busWidth call.width)).2 = .whole c
      rw [hwrite, hwrite]
    have hset : c.setTiming call.clock call.width = (.error .detached, c) := by
      rw [setTiming_eq, if_pos hd]
    have hupdate : (System.whole c).step .update = (.timing (.error .detached), .whole c) := by
      change (Answer.timing c.update.1, System.whole c.update.2) = _
      rw [show c.update = (.error .detached, c) from if_pos hd]
    rw [hset, hasked, hupdate]
    refine ⟨?_, rfl⟩
    change (((System.whole c).after [.writeProperty (.clock call.clock),
      .writeProperty (.busWidth call.width)]).step .update).2 = .whole c
    rw [hasked, hupdate]

structure Asked (c : Controller H) (calls : Caller → TimingCall) (l : Schedule) (c' : Controller H) :
    Prop where
  attached : c'.detached = false
  board : c'.board = c.board
  options : c'.options = c.options
  request : c'.clockRequest = ((l.last? .clock).map fun who => (calls who).clock).getD c.clockRequest
  width : c'.host.bus.width = ((l.last? .width).map fun who => (calls who).width).getD c.host.bus.width
  settings : c'.host.bus.timed 0 .one = c.host.bus.timed 0 .one
  mode : c'.bus.stored Register.mode &&& ~~~Mode.divider =
    c.bus.stored Register.mode &&& ~~~Mode.divider
  slot : c'.bus.stored Register.slot &&& ~~~Slot.fourWire =
    c.bus.stored Register.slot &&& ~~~Slot.fourWire

variable [Retentive H]

theorem Asked.step (h : c.Asked calls l c') (who : Caller) (part : Section) :
    ∃ c'', ((System.whole c').step (part.operation (calls who))).2 = .whole c'' ∧
      c.Asked calls (l ++ [(who, part)]) c'' := by
  have last (part' : Section) := Schedule.last?_append_singleton part' l (who, part)
  cases part with
  | clock =>
    let value := PropertyValue.clock (calls who).clock
    have wrote : c'.writeProperty value = (.ok (), _) := writeProperty_attached h.attached rfl
    refine ⟨(c'.writeProperty value).2, rfl, ?_⟩
    rw [wrote]
    refine ⟨h.attached, h.board, h.options, ?_, ?_, h.settings, h.mode, h.slot⟩
    · rw [last .clock]
      rfl
    · rw [last .width]
      exact h.width
  | width =>
    let value := PropertyValue.busWidth (calls who).width
    have wrote : c'.writeProperty value = (.ok (), _) := writeProperty_attached h.attached rfl
    refine ⟨(c'.writeProperty value).2, rfl, ?_⟩
    rw [wrote]
    refine ⟨h.attached, h.board, h.options, ?_, ?_, h.settings, h.mode, h.slot⟩
    · rw [last .clock]
      exact h.request
    · rw [last .width]
      rfl
  | update =>
    obtain ⟨hmode, hslot⟩ := c'.applySettings_stored
    refine ⟨c'.update.2, rfl, ?_⟩
    rw [update_attached h.attached]
    refine ⟨h.attached, h.board, h.options, ?_, ?_, h.settings, ?_, ?_⟩
    · rw [last .clock]
      exact h.request
    · rw [last .width]
      exact h.width
    · rw [hmode, Bits.rest_replace c'.timing.plan_divider_and, h.mode]
    · rw [hslot, Bits.rest_replace c'.host.bus.width.lines_and, h.slot]

theorem Asked.after {before : Schedule} (h : c.Asked calls before c') (rest : Schedule) :
    ∃ c'', (System.whole c').after (rest.operations calls) = .whole c'' ∧
      c.Asked calls (before ++ rest) c'' := by
  induction rest generalizing before c' with
  | nil =>
    refine ⟨c', rfl, ?_⟩
    rwa [List.append_nil]
  | cons next rest ih =>
    obtain ⟨between, hbetween, asked⟩ := h.step next.1 next.2
    obtain ⟨c'', hc'', asked'⟩ := ih asked
    refine ⟨c'', ?_, ?_⟩
    · rw [← hc'', ← hbetween]
      rfl
    · rwa [List.append_assoc] at asked'

omit [Retentive H] in
theorem Asked.nil (attached : c.detached = false) (calls : Caller → TimingCall) :
    c.Asked calls [] c :=
  ⟨attached, rfl, rfl, rfl, rfl, rfl, rfl, rfl⟩

theorem Asked.outcome {i j : Caller} (h : c.Asked calls l c') (clocked : l.last? .clock = some i)
    (widened : l.last? .width = some j) :
    c'.update.2.timingOutcome = c.timingFor (calls i).clock (calls j).width ∧
      c'.update.1 = .ok (c.timingFor (calls i).clock (calls j).width).bus := by
  obtain ⟨hmode, hslot⟩ := c'.applySettings_stored
  have request : c'.clockRequest = (calls i).clock := by
    rw [h.request, clocked]
    rfl
  have width : c'.host.bus.width = (calls j).width := by
    rw [h.width, widened]
    rfl
  have plan : c'.timing.plan =
      Clock.plan (calls i).clock c.board.masterClock c.options.overclock := by
    rw [← request, ← h.board, ← h.options]
    rfl
  have settings : c'.applySettings.host.bus =
      (c.timingFor (calls i).clock (calls j).width).bus := by
    have same := congrArg (fun bus => BusSettings.timed bus c'.timing.plan.rate c'.host.bus.width) h.settings
    refine Eq.trans (Eq.trans ?_ same) ?_
    · rfl
    · rw [plan, width]
      rfl
  rw [update_attached h.attached]
  refine ⟨?_, congrArg Except.ok settings⟩
  change TimingOutcome.mk _ _ _ _ = _
  rw [timingFor, TimingOutcome.mk.injEq]
  refine ⟨request, settings, ?_, ?_⟩
  · refine (congrArg (· &&& Mode.divider) hmode).trans ?_
    rw [Bits.field_replace c'.timing.plan_divider_and, plan]
  · refine (congrArg (· &&& Slot.fourWire) hslot).trans ?_
    rw [Bits.field_replace c'.host.bus.width.lines_and, width]

theorem update_mixes (attached : c.detached = false) (calls : Caller → TimingCall)
    (interleaves : Schedule.Interleaves l) {before after : Schedule} {who : Caller}
    (split : l = before ++ (who, .update) :: after) :
    ∃ (c₁ : Controller H) (i j : Caller), (System.whole c).after (before.operations calls) = .whole c₁ ∧
      c.Asked calls before c₁ ∧ before.last? .clock = some i ∧ before.last? .width = some j := by
  have own := Schedule.own_before_update interleaves split
  obtain ⟨c₁, hc₁, asked⟩ := (Asked.nil attached calls).after before
  have asks : Section.clock ∈ before.own who ∧ Section.width ∈ before.own who := by
    rw [own]
    decide
  obtain ⟨i, clocked⟩ := Schedule.last?_of_own asks.1
  obtain ⟨j, widened⟩ := Schedule.last?_of_own asks.2
  exact ⟨c₁, i, j, hc₁, asked, clocked, widened⟩

structure Mixed (c : Controller H) (calls : Caller → TimingCall) (l : Schedule) (i j : Caller)
    (c' : Controller H) : Prop where
  clocked : l.last? .clock = some i
  widened : l.last? .width = some j
  outcome : c'.timingOutcome = c.timingFor (calls i).clock (calls j).width
  mode : (c'.bus.read Register.mode).1 &&& ~~~Mode.divider =
    (c.bus.read Register.mode).1 &&& ~~~Mode.divider
  slot : (c'.bus.read Register.slot).1 &&& ~~~Slot.fourWire =
    (c.bus.read Register.slot).1 &&& ~~~Slot.fourWire

theorem after_mixed (attached : c.detached = false) (calls : Caller → TimingCall)
    (interleaves : Schedule.Interleaves l) :
    ∃ (c' : Controller H) (i j : Caller), (System.whole c).after (l.operations calls) = .whole c' ∧
      c.Mixed calls l i j c' := by
  obtain ⟨before, who, rfl⟩ := Schedule.ends_with_update interleaves
  obtain ⟨c₁, i, j, hc₁, asked, clocked, widened⟩ := update_mixes attached calls interleaves rfl
  obtain ⟨c', hc', updated⟩ := asked.step who .update
  obtain ⟨outcome, -⟩ := asked.outcome clocked widened
  have last (part : Section) := Schedule.last?_append_singleton part before (who, .update)
  refine ⟨c', i, j, ?_, (last .clock).trans clocked, (last .width).trans widened, ?_, updated.mode,
    updated.slot⟩
  · rw [← hc', ← hc₁, Schedule.operations, List.map_append, System.after, List.foldl_append]
    rfl
  · have same : System.whole c' = .whole c₁.update.2 := hc'.symm
    cases same
    exact outcome

theorem setSerially_outcome (attached : c.detached = false) (calls : Caller → TimingCall)
    (last : Caller) : (c.setSerially calls last).timingOutcome =
      c.timingFor (calls last).clock (calls last).width := by
  obtain ⟨c', i, j, hc', mixed⟩ := after_mixed attached calls (Schedule.serial_interleaves last)
  have hlast (part : Section) : (Schedule.serial last).last? part = some last := by
    cases last <;> cases part <;> rfl
  have hi : last = i := Option.some.inj ((hlast .clock).symm.trans mixed.clocked)
  have hj : last = j := Option.some.inj ((hlast .width).symm.trans mixed.widened)
  have serially : (System.whole c).after ((Schedule.serial last).operations calls) =
      .whole (c.setSerially calls last) := by
    rw [setSerially, ← (after_inOrder _ (calls last)).1, ← (after_inOrder c (calls last.other)).1]
    rfl
  rw [serially] at hc'
  cases hc'
  subst hi hj
  exact mixed.outcome

end Controller

open Schedule

/-- Whatever the order of the sections of two callers, the timing that is left is that of the caller who
came last with a clock and of the one who came last with a width, and each update answers for those that came
last before it. One caller after the other would have left it just if these are the same caller, or if the
callers agree in the clock or in the width. -/
theorem concurrent_timings_mix {H : Type} [Hardware H] [Retentive H] {c : Controller H}
    (attached : c.detached = false) (calls : Caller → TimingCall) {l : Schedule}
    (interleaves : Interleaves l) :
    (∀ call : TimingCall, (System.whole c).after (Section.inOrder.map (·.operation call)) =
      .whole (c.setTiming call.clock call.width).2) ∧
    ∃ (c' : Controller H) (i j : Caller),
      (System.whole c).after (operations calls l) = .whole c' ∧ c.Mixed calls l i j c' ∧
      ((∃ last, c'.timingOutcome = (c.setSerially calls last).timingOutcome) ↔
        i = j ∨ (calls .first).clock = (calls .second).clock ∨
          (calls .first).width = (calls .second).width) ∧
      ∀ (before after : Schedule) (who : Caller), l = before ++ (who, .update) :: after →
        ∃ i j, last? .clock before = some i ∧ last? .width before = some j ∧
          (((System.whole c).after (operations calls before)).step .update).1 =
            .timing (.ok (c.timingFor (calls i).clock (calls j).width).bus) := by
  obtain ⟨c', i, j, hc', mixed⟩ := Controller.after_mixed attached calls interleaves
  refine ⟨fun call => (c.after_inOrder call).1, c', i, j, hc', mixed, ?_, ?_⟩
  · simp only [mixed.outcome, Controller.setSerially_outcome attached]
    constructor
    · rintro ⟨last, same⟩
      have clock : (calls i).clock = (calls last).clock := congrArg TimingOutcome.request same
      have width : (calls j).width = (calls last).width := congrArg (·.bus.width) same
      by_cases apart : i = j
      · exact .inl apart
      · right
        obtain rfl | rfl : last = j ∨ last = i := by
          cases i <;> cases j <;> cases last <;> simp at apart ⊢
        · exact .inl (Caller.agree_of_ne (fun who => (calls who).clock) apart clock)
        · exact .inr (Caller.agree_of_ne (fun who => (calls who).width) apart width.symm)
    · rintro (rfl | clock | width)
      · exact ⟨i, rfl⟩
      · exact ⟨j, by rw [Caller.agree (fun who => (calls who).clock) clock i j]⟩
      · exact ⟨i, by rw [Caller.agree (fun who => (calls who).width) width j i]⟩
  · intro before after who split
    obtain ⟨c₁, i, j, hc₁, asked, clocked, widened⟩ :=
      Controller.update_mixes attached calls interleaves split
    refine ⟨i, j, clocked, widened, ?_⟩
    rw [hc₁]
    exact congrArg Answer.timing (asked.outcome clocked widened).2

def TimingCall.pair : Caller → TimingCall
  | .first => ⟨25000000, .one⟩
  | .second => ⟨400000, .four⟩

def Schedule.crossed : Schedule :=
  [(.first, .clock), (.second, .clock), (.second, .width), (.first, .width), (.first, .update),
    (.second, .update)]

def Controller.attached9260 : Controller Scripted := attach 0 (Board.reference .sam9260) .default {}

theorem crossed_timings_mix :
    let c := Controller.attached9260
    c.detached = false ∧ Interleaves Schedule.crossed ∧ ∃ c' : Controller Scripted,
      (System.whole c).after (operations TimingCall.pair Schedule.crossed) = .whole c' ∧
      c'.timingOutcome = c.timingFor 400000 .one ∧
      ∀ last, c'.timingOutcome ≠ (c.setSerially TimingCall.pair last).timingOutcome := by
  intro c
  have attached : c.detached = false := rfl
  have interleaves : Interleaves Schedule.crossed := by
    intro who
    cases who <;> rfl
  obtain ⟨-, c', i, j, hc', mixed, serial, -⟩ :=
    concurrent_timings_mix attached TimingCall.pair interleaves
  have hi : Caller.second = i := Option.some.inj mixed.clocked
  have hj : Caller.first = j := Option.some.inj mixed.widened
  subst hi hj
  refine ⟨attached, interleaves, c', hc', mixed.outcome, fun last same => ?_⟩
  have agree := serial.mp ⟨last, same⟩
  revert agree
  decide

theorem concurrent_timings_not_serial :
    let c := Controller.attached9260
    (¬ ∀ (calls : Caller → TimingCall) (l : Schedule) (c' : Controller Scripted), Interleaves l →
      (System.whole c).after (operations calls l) = .whole c' →
        ∃ last, c'.timingOutcome = (c.setSerially calls last).timingOutcome) ∧
    ¬ ∀ (calls : Caller → TimingCall) (before after : Schedule) (who : Caller),
      Interleaves (before ++ (who, .update) :: after) →
        ∃ bus, (((System.whole c).after (operations calls before)).step .update).1 =
            .timing (.ok bus) ∧ bus.width = (calls who).width ∧
          bus.clock = (c.timingFor (calls who).clock (calls who).width).bus.clock := by
  intro c
  have interleaves : Interleaves Schedule.crossed := by
    intro who
    cases who <;> rfl
  let asked := ((((c.writeProperty (.clock 25000000)).2.writeProperty (.clock 400000)).2.writeProperty
    (.busWidth .four)).2.writeProperty (.busWidth .one)).2
  constructor
  · intro claim
    obtain ⟨last, same⟩ := claim TimingCall.pair Schedule.crossed asked.update.2.update.2 interleaves rfl
    revert same
    cases last <;> decide +kernel
  · intro claim
    obtain ⟨bus, answered, -, clock⟩ := claim TimingCall.pair (Schedule.crossed.take 4)
      [(.second, .update)] .first interleaves
    have own : asked.update.1 = .ok bus := Answer.timing.inj answered
    rw [Controller.update_attached rfl] at own
    obtain rfl := Except.ok.inj own
    revert clock
    decide +kernel

end CardHost
