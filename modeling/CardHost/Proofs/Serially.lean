import CardHost.Proofs.Portability
import CardHost.Proofs.Retained
import CardHost.Proofs.Service

namespace CardHost

open Bus

theorem Stage.calls_pos (stage : Stage) : 1 ≤ stage.calls := by
  cases stage <;> decide

theorem Stage.calls_le (stage : Stage) : stage.calls ≤ 3 := by
  cases stage <;> decide

namespace Controller

variable {c c' : Controller Simulator}

structure Regular (c : Controller Simulator) : Prop where
  attached : c.detached = false
  agrees : ∃ l, Agrees (.whole c) l
  steady : c.Steady
  settled : c.Settled

namespace Regular

theorem current (h : c.Regular) (a : Active) (ha : c.active = some a) :
    a.current?.isSome = true := by
  obtain ⟨l, agrees⟩ := h.agrees
  exact agrees.current a ha

theorem step (h : c.Regular) (operation : Operation)
    (after : ((System.whole c).step operation).2 = .whole c') (attached : c'.detached = false) : c'.Regular := by
  obtain ⟨l, agrees⟩ := h.agrees
  obtain ⟨l', -, -, agrees', -⟩ := agrees.step_accounted operation
  have hsteady : ((System.whole c).step operation).2.Holds Steady :=
    steady_unmoved.step agrees h.steady operation
  have hsettled : ((System.whole c).step operation).2.Holds Settled :=
    settled_unmoved.step agrees h.settled operation
  rw [after] at agrees' hsteady hsettled
  exact ⟨attached, ⟨l', agrees'⟩, hsteady, hsettled⟩

theorem submit (h : c.Regular) (idle : c.active = none) (request : Request Bytes) :
    (c.submit request).2.Regular := by
  obtain ⟨submitted, hsubmit, -, hdetached, -⟩ := submit_awaits h.attached idle request
  refine h.step (.submit request) (c.step_submit request) ?_
  rw [hsubmit]
  exact hdetached.trans h.attached

theorem interrupt (h : c.Regular) : c.interrupt.Regular :=
  h.step .interrupt rfl (c.interrupt_progresses.keeps.1.trans h.attached)

theorem quiet (h : c.Regular) (idle : c.active = none) :
    InterruptLine.asserted c.bus.hardware = false := by
  obtain ⟨left, balanced⟩ := h.steady.balanced
  exact Simulator.quiet_of_masked (balanced.rests idle).mask

end Regular

def Within (n : Nat) (c : Controller Simulator) : Prop :=
  ∀ a, c.active = some a → ∃ left stage, c.Works left stage ∧
    stage.calls + (if a.pending?.isSome then 3 else 0) ≤ n

theorem Regular.within {n : Nat} (h : c.Regular)
    (enough : ∀ a, c.active = some a → 3 + (if a.pending?.isSome then 3 else 0) ≤ n) : c.Within n := by
  intro a ha
  obtain ⟨left, balanced⟩ := h.steady.balanced
  obtain ⟨stage, works⟩ := balanced.works a ha
  exact ⟨left, stage, works, Nat.le_trans (Nat.add_le_add_right stage.calls_le _) (enough a ha)⟩

theorem Within.interrupt {n : Nat} (h : c.Within (n + 1)) (regular : c.Regular)
    (asserted : InterruptLine.asserted c.bus.hardware = true) : c.interrupt.Within n := by
  cases ha : c.active with
  | none =>
    intro a' ha'
    rw [c.interrupt_progresses.idle ha] at ha'
    cases ha'
  | some a =>
    obtain ⟨command, hc⟩ := Option.isSome_iff_exists.mp (regular.current a ha)
    obtain ⟨left, stage, works, few⟩ := h a ha
    obtain ⟨l, bus, hp, hserves⟩ := interrupt_serves regular.attached ha hc
    have hregular := regular.interrupt
    generalize c.interrupt = c' at hserves hregular
    cases hserves with
    | continues clean waits =>
      -- The line was asserted for the end of the stage, since there is no error: this call is not in vain.
      have ends : anyBit c.seenStatus stage.bit = true := by
        have hclean := clean
        rw [anyBit_observed_errors works.mask] at hclean
        rwa [asserted_stage works.mask, hclean, Bool.false_or] at asserted
      have more : stage ≠ .ready := by
        rintro rfl
        have hready := works.anyBit_observed .ready
        rw [ends, show anyBit c.observed Stage.ready.bit = false from waits] at hready
        cases hready
      obtain ⟨haccesses, hmapped⟩ := works.stage_ends ends
      rw [haccesses] at hp
      intro a' ha'
      obtain rfl := Option.some.inj ha'
      refine ⟨left, stage.next, works.next hp more hmapped rfl, ?_⟩
      rw [Active.pending?_replace]
      rw [Stage.calls_next more] at few
      omega
    | finishes =>
      intro a' ha'
      cases ha'
    | stops words pending ends words_length reached launched launches =>
      -- The calls of the stop were counted when the request still had it before it.
      refine hregular.within fun a' ha' => ?_
      have hpending : a'.pending? = none := by
        obtain ⟨last, rfl, -⟩ := launches.stays rfl (Active.current?_stopping pending _) ha'
        rw [Active.pending?_replace]
        rfl
      rw [hpending]
      rw [pending] at few
      have := stage.calls_pos
      simp only [Option.isSome_some, Option.isSome_none, if_true, Bool.false_eq_true, if_false] at few ⊢
      omega

theorem Within.positive {n : Nat} (h : c.Within n) (regular : c.Regular)
    (asserted : InterruptLine.asserted c.bus.hardware = true) : ∃ m, n = m + 1 := by
  cases ha : c.active with
  | none =>
    rw [regular.quiet ha] at asserted
    cases asserted
  | some a =>
    obtain ⟨left, stage, -, few⟩ := h a ha
    have := stage.calls_pos
    exact ⟨n - 1, by omega⟩

def serially (limit : Nat) (c : Controller Simulator) (requests : List (Request Bytes)) :
    Controller Simulator :=
  requests.foldl (fun c request => ((c.submit request).2.serveLine limit).2) c

theorem serially_append (limit : Nat) (c : Controller Simulator) (requests : List (Request Bytes))
    (request : Request Bytes) :
    c.serially limit (requests ++ [request]) =
      (((c.serially limit requests).submit request).2.serveLine limit).2 := by
  rw [serially, List.foldl_append]
  rfl

def mostCalls : Nat := 6

inductive Midway (limit : Nat) (start : Controller Simulator) :
    List (Request Bytes) → Controller Simulator → Prop
  | nothing (idle : start.active = none) : Midway limit start [] start
  | served {before : List (Request Bytes)} {request : Request Bytes} {calls left : Nat}
    {c : Controller Simulator}
    (called : Called calls ((start.serially limit before).submit request).2 c) (within : c.Within left)
    (few : calls + left ≤ mostCalls) : Midway limit start (before ++ [request]) c

namespace Midway

variable {limit : Nat} {start : Controller Simulator} {requests : List (Request Bytes)}

theorem finished (h : Midway limit start requests c) (enough : mostCalls ≤ limit) (regular : c.Regular)
    (idle : c.active = none) : start.serially limit requests = c := by
  cases h with
  | nothing => rfl
  | served called within few =>
    rw [serially_append, called.serveLine (regular.quiet idle) (by omega)]

theorem submit (h : Midway limit start requests c) (enough : mostCalls ≤ limit) (regular : c.Regular)
    (idle : c.active = none) (request : Request Bytes) :
    Midway limit start (requests ++ [request]) (c.submit request).2 := by
  have within : (c.submit request).2.Within mostCalls := by
    refine (regular.submit idle request).within fun a _ => ?_
    unfold mostCalls
    split <;> omega
  have called : Called 0 ((start.serially limit requests).submit request).2 (c.submit request).2 := by
    rw [h.finished enough regular idle]
    exact .nothing _
  exact .served called within (Nat.le_of_eq (Nat.zero_add _))

theorem interrupt (h : Midway limit start requests c) (regular : c.Regular) :
    Midway limit start requests c.interrupt := by
  cases asserted : InterruptLine.asserted c.bus.hardware with
  | false =>
    rw [interrupt_quiet regular.attached regular.steady regular.current asserted]
    exact h
  | true =>
    cases h with
    | nothing idle =>
      rw [regular.quiet idle] at asserted
      cases asserted
    | served called within few =>
      obtain ⟨left, rfl⟩ := within.positive regular asserted
      refine .served (called.trans (.one asserted rfl)) (within.interrupt regular asserted) ?_
      omega

end Midway

end Controller

theorem Ledger.Sound.disjoint {memory : Memory} {l : Ledger} (h : Ledger.Sound memory l) {n m : Nat}
    {e e' : Entry} (entry : l.entries[n]? = some e) (entry' : l.entries[m]? = some e') (other : n ≠ m) :
    ∀ id ∈ e.placed.buffers, id ∉ e'.placed.buffers := by
  have hpairwise := (List.pairwise_flatMap.mp h.distinct).2
  rw [List.pairwise_map, List.pairwise_iff_getElem] at hpairwise
  obtain ⟨hn, rfl⟩ := List.getElem?_eq_some_iff.mp entry
  obtain ⟨hm, rfl⟩ := List.getElem?_eq_some_iff.mp entry'
  rcases Nat.lt_or_gt_of_ne other with lower | upper
  · exact fun id hid hid' => hpairwise n m hn hm lower id hid id hid' rfl
  · exact fun id hid hid' => hpairwise m n hm hn upper id hid' id hid rfl

theorem Agrees.ready_own {H : Type} {c : Controller H} {l : Ledger} (h : Agrees (.whole c) l) {n : Nat}
    {result : Request BufferId} (ready : c.tickets[n]? = some (.ready result)) :
    ∀ id ∈ result.buffers, id < c.bus.memory.buffers.size ∧
      ∀ a, c.active = some a → id ∉ a.request.buffers := by
  have hticket := h.ticket n
  rw [show (System.whole c).parts.tickets[n]? = _ from ready] at hticket
  obtain ⟨e, entry, he⟩ := Option.map_eq_some_iff.mp hticket.symm
  have fate : e.fate = .delivered result := by
    unfold Entry.ticket at he
    split at he
    · cases hf : e.fate <;> rw [hf] at he <;> cases he
      rfl
    · cases he
  have hmem := List.mem_of_getElem? entry
  have same : result.buffers = e.placed.buffers :=
    Request.buffers_of_blank (h.sound.results e hmem result (by rw [fate]; rfl))
  intro id hid
  rw [same] at hid
  refine ⟨h.sound.own e hmem id hid, fun a ha => ?_⟩
  obtain ⟨-, e', entry', hm⟩ := h.active a ha
  have other : n ≠ a.ticket := by
    rintro rfl
    have := hm.fate
    rw [entry] at entry'
    rw [← Option.some.inj entry', fate] at this
    cases this
  rw [Request.buffers_of_blank hm.same]
  exact h.sound.disjoint entry entry' other id hid

namespace Controller

theorem Progresses.ready {H : Type} {c c' : Controller H} (h : c.Progresses c') {n : Nat}
    {result : Request BufferId} (ready : c.tickets[n]? = some (.ready result)) :
    c'.tickets[n]? = some (.ready result) := by
  cases h with
  | waits => exact ready
  | ends bus mapped last served =>
    change (delivered c.tickets last)[n]? = _
    rw [delivered, Array.getElem?_modify, ready]
    split <;> rfl

theorem Progresses.size {H : Type} {c c' : Controller H} (h : c.Progresses c') :
    c'.tickets.size = c.tickets.size := by
  cases h with
  | waits => rfl
  | ends => exact Array.size_modify

theorem Progresses.bounce {H : Type} {c c' : Controller H} (h : c.Progresses c') :
    c'.bounce = c.bounce := by
  cases h <;> rfl

theorem Progresses.clear {H : Type} {c c' : Controller H} (h : c.Progresses c')
    (clear : ∀ a, c.active = some a → c.bounce ∉ a.request.buffers) :
    ∀ a, c'.active = some a → c'.bounce ∉ a.request.buffers := by
  cases h with
  | waits bus mapped active same =>
    intro a' ha'
    change active = some a' at ha'
    rw [ha'] at same
    obtain ⟨a, ha, going⟩ := Option.map_eq_some_iff.mp same.symm
    rw [← Request.buffers_of_blank (Active.of_outline going).2]
    exact clear a ha
  | ends =>
    intro a' ha'
    cases ha'

variable {c c' : Controller Simulator} {limit : Nat} {start : Controller Simulator}
  {requests : List (Request Bytes)}

theorem Settled.take_clear (h : c.Settled) (request : Request Bytes) :
    ∀ a, (c.take request).active = some a → (c.take request).bounce ∉ a.request.buffers := by
  intro a ha hid
  obtain rfl := Option.some.inj ha
  have placed : c.bounce ∈ (c.bus.memory.place request).1.buffers := hid
  rw [c.bus.memory.place_buffers, List.mem_range'_1] at placed
  exact Nat.not_lt_of_le placed.1 (bounce_lt h.bounce)

structure Recorded (limit : Nat) (start : Controller Simulator) (requests : List (Request Bytes))
    (c : Controller Simulator) (i : Nat) (result : Request BufferId) : Prop where
  ready : c.tickets[start.tickets.size + i]? = some (.ready result)
  alone : (start.serially limit (requests.take (i + 1))).tickets[start.tickets.size + i]? =
    some (.ready result)
  data : ∀ id ∈ result.buffers, c.Sealed id ∧
    c.buffer id = (start.serially limit (requests.take (i + 1))).buffer id

theorem Recorded.polled {i : Nat} {result : Request BufferId}
    (h : Recorded limit start requests c i result) :
    ((start.serially limit (requests.take (i + 1))).toParts.poll (start.tickets.size + i)).1 =
      .ok (some (result.map c.bus.memory.get)) := by
  rw [Parts.poll, h.alone]
  exact congrArg (fun result => Except.ok (some result))
    (Request.map_congr fun id hid => (h.data id hid).2.symm)

theorem Recorded.step {i : Nat} {result : Request BufferId} {requests' : List (Request Bytes)}
    (h : Recorded limit start requests c i result)
    (ready : c'.tickets[start.tickets.size + i]? = some (.ready result))
    (same : requests'.take (i + 1) = requests.take (i + 1))
    (retains : ∀ id ∈ result.buffers, c.Sealed id → Retains id c c') :
    Recorded limit start requests' c' i result := by
  refine ⟨ready, by rw [same]; exact h.alone, fun id hid => ?_⟩
  obtain ⟨closed, hbuffer⟩ := h.data id hid
  obtain ⟨closed', hretained⟩ := retains id hid closed
  exact ⟨closed', by rw [same, hretained, hbuffer]⟩

structure Pending (start : Controller Simulator) (requests : List (Request Bytes))
    (c : Controller Simulator) (i : Nat) : Prop where
  last : i + 1 = requests.length
  busy : ∃ a, c.active = some a ∧ a.ticket = start.tickets.size + i
  waiting : c.tickets[start.tickets.size + i]? = some .waiting

theorem Pending.progresses {i : Nat} (h : Pending start requests c i)
    (clear : ∀ a, c.active = some a → c.bounce ∉ a.request.buffers) (step : c.Progresses c')
    (regular : c'.Regular) (midway : Midway limit start requests c') (enough : mostCalls ≤ limit) :
    Pending start requests c' i ∨ ∃ result, Recorded limit start requests c' i result := by
  obtain ⟨a, ha, hticket⟩ := h.busy
  have hbounce := step.bounce
  cases step with
  | waits bus mapped active same =>
    rw [ha, Option.map_some] at same
    obtain ⟨a', ha', going⟩ := Option.map_eq_some_iff.mp same
    exact .inl ⟨h.last, ⟨a', ha', (Active.of_outline going).1.trans hticket⟩, h.waiting⟩
  | ends bus mapped last served same =>
    obtain rfl := Option.some.inj (ha.symm.trans served)
    have all : requests.take (i + 1) = requests := List.take_of_length_le (Nat.le_of_eq h.last.symm)
    have hlast : last.ticket = start.tickets.size + i := (Active.of_outline same).1.trans hticket
    have ready : (delivered c.tickets last)[start.tickets.size + i]? = some (.ready last.request) := by
      rw [delivered, Array.getElem?_modify, if_pos hlast, h.waiting]
      rfl
    have alone := midway.finished enough regular rfl
    refine .inr ⟨last.request, ready, ?_, fun id hid => ?_⟩
    · rw [all, alone]
      exact ready
    · rw [all, alone]
      refine ⟨regular.steady.sealed rfl ?_, rfl⟩
      rintro rfl
      rw [Request.buffers_of_blank (Active.of_outline same).2] at hid
      exact clear a ha hid

structure InTurn (limit : Nat) (start : Controller Simulator) (requests : List (Request Bytes))
    (c : Controller Simulator) : Prop where
  regular : c.Regular
  midway : Midway limit start requests c
  size : c.tickets.size = start.tickets.size + requests.length
  clear : ∀ a, c.active = some a → c.bounce ∉ a.request.buffers
  each : ∀ i < requests.length,
    Pending start requests c i ∨ ∃ result, Recorded limit start requests c i result

namespace InTurn

theorem nothing (regular : c.Regular) (idle : c.active = none) : InTurn limit c [] c where
  regular := regular
  midway := .nothing idle
  size := rfl
  clear a ha := by
    rw [idle] at ha
    cases ha
  each i hi := (Nat.not_lt_zero i hi).elim

theorem own (h : InTurn limit start requests c) {n : Nat} {result : Request BufferId}
    (ready : c.tickets[n]? = some (.ready result)) :
    ∀ id ∈ result.buffers, id < c.bus.memory.buffers.size ∧
      ∀ a, c.active = some a → id ∉ a.request.buffers := by
  obtain ⟨l, agrees⟩ := h.regular.agrees
  exact agrees.ready_own ready

theorem submit (h : InTurn limit start requests c) (enough : mostCalls ≤ limit)
    (idle : c.active = none) (request : Request Bytes) :
    InTurn limit start (requests ++ [request]) (c.submit request).2 := by
  obtain ⟨submitted, hsubmit, step⟩ := submit_progresses h.regular.attached idle request
  have regular := h.regular.submit idle request
  have midway := h.midway.submit enough h.regular idle request
  have retains {id : BufferId} (closed : c.Sealed id) (there : id < c.bus.memory.buffers.size) :
      Retains id c (c.submit request).2 := by
    obtain ⟨left, balanced⟩ := h.regular.steady.balanced
    exact closed.submit balanced there request
  have hsubmitted : (c.submit request).2 = submitted := congrArg Prod.snd hsubmit
  rw [hsubmitted] at regular midway retains ⊢
  have clear := h.regular.settled.take_clear request
  have size : submitted.tickets.size = start.tickets.size + (requests ++ [request]).length := by
    rw [step.size, show (c.take request).tickets.size = _ from Array.size_push .., h.size,
      List.length_append]
    rfl
  refine ⟨regular, midway, size, step.clear clear, fun i hi => ?_⟩
  rw [List.length_append, List.length_singleton] at hi
  rcases Nat.lt_succ_iff_lt_or_eq.mp hi with before | rfl
  · rcases h.each i before with pending | ⟨result, recorded⟩
    · obtain ⟨a, ha, -⟩ := pending.busy
      rw [idle] at ha
      cases ha
    · have ready : (c.take request).tickets[start.tickets.size + i]? = some (.ready result) := by
        have hlt : start.tickets.size + i < c.tickets.size := by rw [h.size]; omega
        change (c.tickets.push .waiting)[_]? = _
        rw [Array.getElem?_push, if_neg (Nat.ne_of_lt hlt)]
        exact recorded.ready
      refine .inr ⟨result, recorded.step (step.ready ready) ?_ fun id hid closed => ?_⟩
      · exact List.take_append_of_le_length before
      · exact retains closed (h.own recorded.ready id hid).1
  · have pending : Pending start (requests ++ [request]) (c.take request) requests.length := by
      refine ⟨by rw [List.length_append]; rfl, ⟨_, rfl, h.size⟩, ?_⟩
      rw [← h.size]
      exact Array.getElem?_push_size
    exact pending.progresses clear step regular midway enough

theorem interrupt (h : InTurn limit start requests c) (enough : mostCalls ≤ limit) :
    InTurn limit start requests c.interrupt := by
  have step := c.interrupt_progresses
  have regular := h.regular.interrupt
  have midway := h.midway.interrupt h.regular
  refine ⟨regular, midway, step.size.trans h.size, step.clear h.clear, fun i hi => ?_⟩
  rcases h.each i hi with pending | ⟨result, recorded⟩
  · exact pending.progresses h.clear step regular midway enough
  · refine .inr ⟨result, recorded.step (step.ready recorded.ready) rfl fun id hid closed => ?_⟩
    exact closed.interrupt h.regular.steady h.regular.current fun a ha =>
      (h.own recorded.ready id hid).2 a ha

theorem finished (h : InTurn limit start requests c) (enough : mostCalls ≤ limit)
    (idle : c.active = none) : start.serially limit requests = c :=
  h.midway.finished enough h.regular idle

end InTurn

end Controller

end CardHost
