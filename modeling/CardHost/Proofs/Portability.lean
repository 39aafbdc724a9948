import CardHost.Proofs.Completion

namespace CardHost

open Bus

/-- A command that every chip can carry out in the same way: its data comes in whole words and fits the field
of the block length. Where chips that pad short writes are mixed with chips that do not, its answer is expected
if it writes nothing at all. -/
structure Command.Portable {B : Type} (mixed : Prop) (length : B → Nat) (command : Command B) :
    Prop where
  words : ∀ data, command.data = some data → length data.buffer % 4 = 0
  short : ∀ data, command.data = some data → length data.buffer < 65536
  ends : mixed → ∀ data, command.data = some data → data.flags.isRead = false →
    length data.buffer = 0 → command.Declares

structure Request.Portable {B : Type} (mixed : Prop) (length : B → Nat) (request : Request B) :
    Prop where
  command : request.command.Portable mixed length
  stop : ∀ stop, request.stop = some stop → stop.Portable mixed length

namespace Command

variable {B C : Type} {mixed : Prop}

theorem declares_blank (command : Command B) : command.blank.Declares ↔ command.Declares := by
  rw [Declares, transfers_blank]
  rfl

theorem Portable.of_map {f : B → C} {length : C → Nat} {command : Command B}
    (h : (command.map f).Portable mixed length) : command.Portable mixed fun b => length (f b) := by
  refine ⟨fun data hd => ?_, fun data hd => ?_, fun apart data hd isRead empty => ?_⟩
  · exact h.words _ (command.data_map f hd)
  · exact h.short _ (command.data_map f hd)
  · exact (command.declares_map f).mp (h.ends apart _ (command.data_map f hd) isRead empty)

theorem data_blank {command : Command B} {data : Payload B} (h : command.data = some data) :
    command.blank.data = some { data with moved := 0 } := by
  rw [blank, h]
  rfl

theorem Portable.of_blank {length : B → Nat} {command command' : Command B}
    (h : command.Portable mixed length) (same : command'.blank = command.blank) :
    command'.Portable mixed length := by
  have found {data' : Payload B} (hd' : command'.data = some data') :
      ∃ data, command.data = some data ∧ data.buffer = data'.buffer ∧ data.flags = data'.flags := by
    have hblank := data_blank hd'
    rw [same] at hblank
    cases hd : command.data with
    | none =>
      rw [blank, hd] at hblank
      cases hblank
    | some data =>
      rw [data_blank hd, Option.some.injEq, Payload.mk.injEq] at hblank
      exact ⟨data, rfl, hblank.1, hblank.2.1⟩
  refine ⟨fun data' hd' => ?_, fun data' hd' => ?_, fun apart data' hd' isRead empty => ?_⟩
  · obtain ⟨data, hd, hbuffer, -⟩ := found hd'
    rw [← hbuffer]
    exact h.words data hd
  · obtain ⟨data, hd, hbuffer, -⟩ := found hd'
    rw [← hbuffer]
    exact h.short data hd
  · obtain ⟨data, hd, hbuffer, hflags⟩ := found hd'
    rw [← declares_blank, same, declares_blank]
    exact h.ends apart data hd (hflags ▸ isRead) (hbuffer ▸ empty)

end Command

namespace Request

variable {B C : Type} {mixed : Prop}

theorem Portable.of_map {f : B → C} {length : C → Nat} {request : Request B}
    (h : (request.map f).Portable mixed length) : request.Portable mixed fun b => length (f b) := by
  refine ⟨h.command.of_map, fun stop hs => ?_⟩
  exact (h.stop (stop.map f) (by rw [map, hs]; rfl)).of_map

theorem Portable.of_blank {length : B → Nat} {request request' : Request B}
    (h : request.Portable mixed length) (same : request'.blank = request.blank) :
    request'.Portable mixed length := by
  refine ⟨h.command.of_blank (congrArg Request.command same), fun stop' hs' => ?_⟩
  have hstop : request.stop.map (·.blank) = some stop'.blank := by
    have := (congrArg Request.stop same).symm
    rwa [blank, blank, hs'] at this
  obtain ⟨stop, hs, hblank⟩ := Option.map_eq_some_iff.mp hstop
  exact (h.stop stop hs).of_blank hblank.symm

theorem buffers_blank (request : Request B) : request.blank.buffers = request.buffers := by
  obtain ⟨command, stop⟩ := request
  cases stop <;> simp [blank, buffers]

theorem buffers_of_blank {request request' : Request B} (same : request'.blank = request.blank) :
    request'.buffers = request.buffers := by
  rw [← request'.buffers_blank, same, buffers_blank]

end Request

namespace Controller

structure Tidy {H : Type} (mixed : Prop) (c : Controller H) : Prop where
  portable : ∀ a, c.active = some a → a.request.Portable mixed fun id => (c.buffer id).length
  own : ∀ a, c.active = some a → ∀ id ∈ a.request.buffers,
    id ≠ c.bounce ∧ id < c.bus.memory.buffers.size
  ready : ∀ (n : Nat) (r : Request BufferId), c.tickets[n]? = some (.ready r) → ∀ id ∈ r.buffers,
    (id ≠ c.bounce ∧ id < c.bus.memory.buffers.size) ∧
      ∀ a, c.active = some a → id ∉ a.request.buffers

section

variable {H : Type} {mixed : Prop} {c c' : Controller H} {a a' : Active}
  {command : Command BufferId}

theorem Tidy.work (h : c.Tidy mixed) (ha : c.active = some a) (ha' : c'.active = some a')
    (same : a'.request.blank = a.request.blank) (tickets : c'.tickets = c.tickets)
    (bounce : c'.bounce = c.bounce) (alike : c.bus.memory.Alike c'.bus.memory) : c'.Tidy mixed := by
  have hbuffers := Request.buffers_of_blank same
  constructor
  case portable =>
    intro a'' ha''
    rw [ha'] at ha''
    cases ha''
    simp only [buffer, alike.2]
    exact (h.portable a ha).of_blank same
  case own =>
    intro a'' ha''
    rw [ha'] at ha''
    cases ha''
    rw [hbuffers, bounce, alike.1]
    exact h.own a ha
  case ready =>
    intro n r hr id hid
    rw [tickets] at hr
    obtain ⟨hown, hother⟩ := h.ready n r hr id hid
    rw [bounce, alike.1]
    refine ⟨hown, fun a'' ha'' => ?_⟩
    rw [ha'] at ha''
    cases ha''
    rw [hbuffers]
    exact hother a ha

theorem Tidy.deliver (h : c.Tidy mixed) (ha : c.active = some a) (idle : c'.active = none)
    (same : a'.request.blank = a.request.blank) (tickets : c'.tickets = delivered c.tickets a')
    (bounce : c'.bounce = c.bounce) (alike : c.bus.memory.Alike c'.bus.memory) : c'.Tidy mixed := by
  refine ⟨fun a'' ha'' => ?_, fun a'' ha'' => ?_, fun n r hr id hid => ⟨?_, fun a'' ha'' => ?_⟩⟩
  · cases idle.symm.trans ha''
  · cases idle.symm.trans ha''
  · rw [bounce, alike.1]
    rw [tickets] at hr
    obtain hr | ⟨-, rfl⟩ := ready_delivered hr
    · exact (h.ready n r hr id hid).1
    · rw [Request.buffers_of_blank same] at hid
      exact h.own a ha id hid
  · cases idle.symm.trans ha''

theorem Tidy.keeps (h : c.Tidy mixed) (active : c'.active = c.active) (tickets : c'.tickets = c.tickets)
    (bounce : c'.bounce = c.bounce) (alike : c.bus.memory.Alike c'.bus.memory) : c'.Tidy mixed := by
  constructor
  case portable =>
    simp only [active, buffer, alike.2]
    exact h.portable
  case own =>
    rw [active, bounce, alike.1]
    exact h.own
  case ready =>
    rw [active, tickets, bounce, alike.1]
    exact h.ready

theorem Tidy.setTicket (h : c.Tidy mixed) (n : Nat) {value : Ticket} (other : ∀ r, value ≠ .ready r) :
    ({ c with tickets := c.tickets.setIfInBounds n value } : Controller H).Tidy mixed :=
  ⟨h.portable, h.own, fun m r hr => h.ready m r (ready_marked other hr)⟩

variable [Hardware H]

omit [Hardware H] in
theorem Tidy.launch {bus : Bus H} {l : List Access} (h : c.Tidy mixed) (ha : c.active = some a)
    (hc : a.current? = some command) (hl : Launches c a command bus l c')
    (alike : c.bus.memory.Alike bus.memory) : c'.Tidy mixed := by
  have bounce : c'.bounce = c.bounce := by cases hl <;> rfl
  obtain ⟨hb, ⟨-, tickets, command', ha', blank⟩ | ⟨-, tickets, idle⟩⟩ := hl.outcome ha hc
  · exact h.work ha ha' (Active.blank_replace hc blank) tickets bounce (hb ▸ alike)
  · exact h.deliver ha idle (Active.blank_replace hc (blank_unmapped command)) tickets bounce (hb ▸ alike)

theorem Tidy.interrupt (h : c.Tidy mixed)
    (current : ∀ a, c.active = some a → a.current?.isSome = true) : c.interrupt.Tidy mixed := by
  have hinterrupts := interrupts current
  generalize c.interrupt = c' at hinterrupts ⊢
  cases hinterrupts with
  | rests => exact h
  | spurious _ _ performs => exact h.keeps rfl rfl rfl performs.alike
  | @serves a command l bus c' attached ha hc performs serves =>
    cases serves with
    | continues => exact h.work ha rfl (Active.blank_replace hc (blank_staged _ _)) rfl rfl performs.alike
    | @finishes accesses mapped after error words final ends =>
      have blank : (answered after error words).blank = command.blank := ends.blank
      exact h.deliver ha rfl (Active.blank_replace hc blank) rfl rfl performs.alike
    | @stops ended accesses mapped after stop error between _ words pending ends _ reached launched
        launches =>
      have blank : (answered after error words).blank = command.blank := ends.blank
      let a₁ : Active := { a.replace (answered after error words) with phase := .stop }
      have hcur : a₁.current? = some stop := Active.current?_stopping pending _
      have hproceed : (c.proceed between mapped a₁).Tidy mixed :=
        h.work ha rfl (Active.blank_replace hc blank) rfl rfl reached.alike
      exact hproceed.launch rfl hcur launches launched.alike

omit [Hardware H] in
theorem Tidy.take (h : c.Tidy mixed) (bounce : c.bounce < c.bus.memory.buffers.size)
    {request : Request Bytes} (portable : request.Portable mixed List.length) :
    (c.take request).Tidy mixed := by
  have hsize := (c.bus.memory.place_extends request).1
  have hbuffers {id : BufferId} (hid : id ∈ (c.accepted request).request.buffers) :
      c.bus.memory.buffers.size ≤ id ∧ id < (c.bus.memory.place request).2.buffers.size := by
    rw [show (c.accepted request).request.buffers = _ from c.bus.memory.place_buffers request,
      List.mem_range'_1] at hid
    exact ⟨hid.1, Nat.lt_of_lt_of_eq hid.2 (Nat.add_sub_cancel' hsize)⟩
  constructor
  case portable =>
    intro a ha
    cases ha
    rw [← c.bus.memory.map_place request] at portable
    exact portable.of_map
  case own =>
    intro a ha id hid
    cases ha
    obtain ⟨lower, upper⟩ := hbuffers hid
    exact ⟨Nat.ne_of_gt (Nat.lt_of_lt_of_le bounce lower), upper⟩
  case ready =>
    intro n r hr id hid
    have hold : c.tickets[n]? = some (.ready r) := by
      change (c.tickets.push .waiting)[n]? = _ at hr
      rw [Array.getElem?_push] at hr
      split at hr
      · cases hr
      · exact hr
    obtain ⟨⟨hbounce, hlt⟩, -⟩ := h.ready n r hold id hid
    refine ⟨⟨hbounce, Nat.lt_of_lt_of_le hlt hsize⟩, fun a ha hnew => ?_⟩
    cases ha
    exact Nat.not_lt_of_le (hbuffers hnew).1 hlt

theorem Tidy.submit (h : c.Tidy mixed) (bounce : c.bounce < c.bus.memory.buffers.size)
    {request : Request Bytes} (portable : request.Portable mixed List.length) :
    (c.submit request).2.Tidy mixed := by
  have hsubmits := c.submits request
  generalize (c.submit request).2 = c' at hsubmits ⊢
  cases hsubmits with
  | refuses => exact h
  | launches attached idle performs launches =>
    exact (h.take bounce portable).launch rfl rfl launches performs.alike

end

end Controller

end CardHost
