import CardHost.Proofs.Agreement

namespace CardHost

open Bus

namespace Bus

variable {H : Type} [Hardware H]

def Reaches (b : Bus H) (accesses : List Access) (b' : Bus H) : Prop :=
  ∃ memory, Performs { b with memory } accesses b'

theorem Performs.reaches {b b' : Bus H} {accesses : List Access} (h : Performs b accesses b') :
    b.Reaches accesses b' := ⟨b.memory, h⟩

end Bus

namespace Active

theorem command_replace {a : Active} (h : a.phase = .stop) (command : Command BufferId) :
    (a.replace command).request.command = a.request.command := by
  unfold replace modify
  rw [h]

theorem replace_command {a : Active} (h : a.phase = .command) (command : Command BufferId) :
    (a.replace command).request.command = command := by
  unfold replace modify
  rw [h]

theorem replace_stop {a : Active} (h : a.phase = .command) (command : Command BufferId) :
    (a.replace command).request.stop = a.request.stop := by
  unfold replace modify
  rw [h]

theorem command_of_current {a : Active} {command : Command BufferId} (first : a.phase = .command)
    (h : a.current? = some command) : a.request.command = command := by
  rw [current?, first] at h
  exact Option.some.inj h

theorem stop_of_current {a : Active} {command : Command BufferId} (second : a.phase = .stop)
    (h : a.current? = some command) : a.request.stop = some command := by
  rwa [current?, second] at h

theorem replaced_stop {a : Active} {command : Command BufferId} (second : a.phase = .stop)
    (h : a.current? = some command) (command' : Command BufferId) :
    (a.replace command').request.stop = some command' :=
  stop_of_current ((a.phase_replace _).trans second) (current?_replace h command')

theorem current?_of_pending {a : Active} {stop : Command BufferId} (h : a.pending? = some stop) :
    a.phase = .command ∧ a.request.stop = some stop ∧ a.current? = some a.request.command := by
  obtain ⟨ticket, request, phase⟩ := a
  cases phase with
  | command => exact ⟨rfl, h, rfl⟩
  | stop => cases h

end Active

namespace Agrees

variable {H : Type} {c c' : Controller H} {l : Ledger} {a : Active} {command command' : Command BufferId}

theorem replace (h : Agrees (.whole c) l) (ha : c.active = some a) (hc : a.current? = some command)
    (ha' : c'.active = some (a.replace command')) (blank : command'.blank = command.blank)
    (tickets : c'.tickets = c.tickets) (alike : c.bus.memory.Alike c'.bus.memory) :
    Agrees (.whole c') l := by
  obtain ⟨last, e, entry, hm⟩ := h.active a ha
  have agrees : (a.replace command').Matches (e.settle (.outstanding a.phase)) := by
    refine ⟨by simp [Entry.settle], ?_, ?_, ?_⟩
    · rw [Active.blank_replace hc blank]
      exact hm.same
    · rw [Active.current?_replace hc]
      rfl
    · intro hp
      rw [Active.phase_replace] at hp
      rw [Active.command_replace hp]
      exact hm.launched hp
  have hall := h.proceed ha ha' (a.ticket_replace _) entry (by rwa [a.phase_replace]) tickets alike
  rwa [a.phase_replace, Ledger.change_self] at hall
  intro e' he'
  rw [entry] at he'
  cases he'
  rw [Entry.settle, ← hm.fate]

theorem launch [Hardware H] {bus : Bus H} {accesses : List Access} (h : Agrees (.whole c) l)
    (ha : c.active = some a) (hc : a.current? = some command)
    (hl : Controller.Launches c a command bus accesses c') (alike : c.bus.memory.Alike bus.memory) :
    (Agrees (.whole c') l ∧ ∀ argument, issued argument accesses = [command.wire]) ∨
      (Agrees (.whole c') (l.change a.ticket
        (.settle (.delivered (a.replace (Controller.unmapped command)).request))) ∧
        Mute accesses) := by
  obtain ⟨hb, ⟨wire, tickets, command', ha', blank⟩ | ⟨mute, tickets, idle⟩⟩ := hl.outcome ha hc
  · exact .inl ⟨h.replace ha hc ha' blank tickets (by rwa [hb]), wire⟩
  · refine .inr ⟨h.finish ha idle tickets (a.ticket_replace _) ?_ (by rwa [hb]), mute⟩
    exact Active.blank_replace hc (Controller.blank_unmapped command)

theorem wires {s : System H} {e : Entry} (h : Agrees s l) (entry : l.entries[a.ticket]? = some e)
    (hm : a.Matches e) : a.request.wires = e.request.wires := by
  have hs := congrArg Request.wires (h.sound.stored e (List.mem_of_getElem? entry))
  rw [← a.request.wires_blank, hm.same]
  simpa [Request.outline] using hs

theorem block_finish {s : System H} {e : Entry} {last : Command BufferId}
    {error : Option CommandError} (words : List UInt32) (h : Agrees s l)
    (entry : l.entries[a.ticket]? = some e) (hm : a.Matches e) (final : a.pending? = none)
    (hne : error ≠ some .noMemory) :
    (e.settle (.delivered (a.replace (Controller.answered last error words)).request)).block =
      e.block := by
  have hw := congrArg (fun w => w.2.isSome) (h.wires entry hm)
  simp only [Request.wires, Option.isSome_map] at hw
  have hf := hm.fate
  have hl := hm.launched
  have hcur := hm.current
  obtain ⟨ticket, ⟨first, stop⟩, phase⟩ := a
  cases phase with
  | command =>
    have hs : stop = none := final
    subst hs
    have hstop : e.request.stop = none := by simpa using hw.symm
    simp [Entry.block, Entry.settle, hf, Active.replace, Active.modify, Controller.answered, hne, hstop]
  | stop =>
    have hfirst : first.error ≠ some .noMemory := hl rfl
    obtain ⟨stop, rfl⟩ := Option.isSome_iff_exists.mp hcur
    simp [Entry.block, Entry.settle, hf, Active.replace, Active.modify, Controller.answered, hne,
      hfirst]

end Agrees

theorem Entry.block_unsent_stop {e : Entry} {result : Request BufferId}
    (fate : e.fate = .outstanding .command) (sent : result.command.error ≠ some .noMemory)
    (unsent : result.stop.bind (·.error) = some .noMemory) :
    (e.settle (.delivered result)).block = e.block := by
  simp only [Entry.block, Entry.settle, fate, sent, unsent, if_false, if_true]

namespace Controller

theorem Ends.error_ne {H : Type} {c : Controller H} {command last : Command BufferId}
    {status : UInt32} {accesses : List Access} {mapped : Nat} {error : Option CommandError}
    (h : c.Ends command status accesses mapped last error) : error ≠ some .noMemory := by
  cases h with
  | failed e _ he =>
    rintro ⟨⟩
    simp only [CommandError.ofStatus?] at he
    repeat' split at he
    all_goals cases he
  | forgiven => nofun
  | ready => nofun

end Controller

def Accounted {H : Type} [Hardware H] (s : System H) (l : Ledger) (operation : Operation) : Prop :=
  ∃ l' accesses, Ledger.Step l operation (s.step operation).1 l' ∧
    Agrees (s.step operation).2 l' ∧
    s.parts.bus.Reaches accesses (s.step operation).2.parts.bus ∧ l.Gains accesses l'

namespace Agrees

variable {H : Type} [Hardware H] {c : Controller H} {l : Ledger}

omit [Hardware H] in
theorem fresh (h : Agrees (.whole c) l) (request : Request Bytes) :
    ∀ e ∈ l.entries, ∀ id ∈ e.placed.buffers, id ∉ (c.accepted request).request.buffers := by
  intro e he id hid hnew
  rw [show (c.accepted request).request.buffers = _ from c.bus.memory.place_buffers request,
    List.mem_range'_1] at hnew
  exact Nat.not_lt_of_le hnew.1 (h.sound.own e he id hid)

theorem submit_idle_accounted (h : Agrees (.whole c) l) (attached : c.detached = false)
    (idle : c.active = none) (request : Request Bytes) : Accounted (.whole c) l (.submit request) := by
  obtain ⟨accesses, bus, hp, hl, hok⟩ := c.submit_launches attached idle request
  have hs : (System.whole c).step (.submit request) =
      (.accepted l.entries.length, .whole (c.submit request).2) := by
    rw [← h.size]
    simp only [System.step, Controller.perform]
    cases hr : c.submit request with
    | mk result c' =>
      rw [hr] at hok
      cases hok
      rfl
  have whole : l.whole = true := h.whole.symm
  have free : l.busy = false := by rw [h.busy, System.active?, idle, Option.isSome_none]
  have copies := c.bus.memory.map_place request
  have hticket : (c.accepted request).ticket = l.entries.length := h.size
  have wire : (c.accepted request).request.command.wire = request.command.wire := by
    have hw := (c.bus.memory.place request).1.wires_map (c.bus.memory.place request).2.get
    rw [copies] at hw
    exact congrArg Prod.fst hw.symm
  have reaches : c.bus.Reaches accesses (c.submit request).2.bus := by
    refine ⟨(c.bus.memory.place request).2, ?_⟩
    rwa [(hl.outcome rfl rfl).1]
  rw [Accounted, hs]
  -- A launch that is refused settles the entry as soon as it has been made.
  obtain ⟨agrees, issues⟩ | ⟨agrees, mute⟩ := (h.take idle request).launch rfl rfl hl hp.alike
  · refine ⟨_, accesses, .accepts _ whole free copies (h.fresh request), agrees, reaches,
      [request.command], Ledger.commands_enter _ _, fun argument => ?_⟩
    rw [issues, wire]
    rfl
  · rw [hticket, Ledger.enter_settle] at agrees
    refine ⟨_, accesses, .refuses _ whole free copies (h.fresh request) ?_ rfl, agrees, reaches,
      .none ?_ mute⟩
    · exact Active.blank_replace (a := c.accepted request) rfl (Controller.blank_unmapped _)
    · rw [Ledger.commands_enter]
      exact List.append_nil _

theorem submit_accounted (h : Agrees (.whole c) l) (request : Request Bytes) :
    Accounted (.whole c) l (.submit request) := by
  have whole : l.whole = true := h.whole.symm
  have mute : Mute [] := fun _ => rfl
  cases attached : c.detached with
  | true =>
    have hs : (System.whole c).step (.submit request) =
        (.rejected ⟨.detached, request⟩, .whole c) := by
      simp only [System.step, Controller.perform, Controller.submit_eq, if_pos attached]
    rw [Accounted, hs]
    exact ⟨l, [], .detached whole, h, (Performs.done _).reaches, .none rfl mute⟩
  | false =>
    cases ha : c.active with
    | some a =>
      have hs : (System.whole c).step (.submit request) = (.rejected ⟨.busy, request⟩, .whole c) := by
        simp only [System.step, Controller.perform, Controller.submit_of_busy attached ha]
      have busy : l.busy = true := by rw [h.busy, System.active?, ha, Option.isSome_some]
      rw [Accounted, hs]
      exact ⟨l, [], .busy whole busy, h, (Performs.done _).reaches, .none rfl mute⟩
    | none => exact h.submit_idle_accounted attached ha request

variable {a : Active} {command stop : Command BufferId}

omit [Hardware H] in
theorem concluded (h : Agrees (.whole c) l) (ha : c.active = some a) (pending : a.pending? = some stop)
    {last : Command BufferId} (blank : last.blank = a.request.command.blank)
    (launched : last.error ≠ some .noMemory) {bus : Bus H} (mapped : Nat)
    (alike : c.bus.memory.Alike bus.memory) :
    Agrees (.whole (c.proceed bus mapped { a.replace last with phase := .stop }))
      (l.change a.ticket (.settle (.outstanding .stop))) := by
  obtain ⟨-, e, entry, hm⟩ := h.active a ha
  obtain ⟨first, -, hc⟩ := Active.current?_of_pending pending
  have hcur := Active.current?_stopping pending last
  have active : (c.proceed bus mapped { a.replace last with phase := .stop }).active =
      some { a.replace last with phase := .stop } := rfl
  refine h.proceed ha active (a.ticket_replace _) entry ⟨rfl, ?_, ?_, fun _ => ?_⟩ rfl alike
  · exact (Active.blank_replace hc blank).trans hm.same
  · rw [hcur, Option.isSome_some]
  · change (a.replace last).request.command.error ≠ some .noMemory
    rwa [Active.replace_command first]

theorem stop_accounted (h : Agrees (.whole c) l) (ha : c.active = some a)
    (pending : a.pending? = some stop) {last : Command BufferId}
    (blank : last.blank = a.request.command.blank) (clean : last.error ≠ some .noMemory)
    {between bus : Bus H} {before accesses : List Access} {mapped : Nat} {c' : Controller H}
    (silent : Mute before) (alike : c.bus.memory.Alike between.memory)
    (launched : Performs between accesses bus)
    (launches : Controller.Launches
      (c.proceed between mapped { a.replace last with phase := .stop })
      { a.replace last with phase := .stop } stop bus accesses c') :
    ∃ l', Ledger.Step l .interrupt .silent l' ∧ Agrees (.whole c') l' ∧
      l.Gains (before ++ accesses) l' := by
  have whole : l.whole = true := h.whole.symm
  obtain ⟨last_entry, e, entry, hm⟩ := h.active a ha
  obtain ⟨first, hstop, hc⟩ := Active.current?_of_pending pending
  have hcur := Active.current?_stopping pending last
  have fate : e.fate = .outstanding .command := first ▸ hm.fate
  have same := (Active.blank_replace hc blank).trans hm.same
  have agrees := h.concluded ha pending blank clean mapped alike
  -- A stop carries no data as a rule, but a client may give it some that cannot be mapped.
  obtain ⟨agrees', issues⟩ | ⟨agrees', mute⟩ := agrees.launch rfl hcur launches launched.alike
  · refine ⟨_, .stops whole entry fate ?_, agrees', e.request.stop.toList,
      Ledger.commands_change_last entry last_entry ?_, fun argument => ?_⟩
    · rw [← Request.stop_isSome_of_blank hm.same, hstop, Option.isSome_some]
    · simp only [Entry.block, Entry.settle, fate, List.singleton_append]
    · have hstops := congrArg (fun wires => wires.2.toList) (h.wires entry hm)
      simp only [Request.wires, hstop, Option.map_some, Option.toList_some] at hstops
      refine (issued_mute silent issues argument).trans ?_
      rw [hstops]
      cases e.request.stop <;> rfl
  · rw [show ({ a.replace last with phase := .stop } : Active).ticket = a.ticket from
      a.ticket_replace _, Ledger.settle_settle] at agrees'
    refine ⟨_, .finishes whole entry hm.fate ?_, agrees',
      .none (Ledger.commands_change ?_) (silent.append mute)⟩
    · exact (Active.blank_replace hcur (Controller.blank_unmapped stop)).trans same
    · intro e' he'
      rw [entry] at he'
      cases he'
      refine Entry.block_unsent_stop fate ?_ ?_
      · rw [Active.command_replace rfl]
        change (a.replace last).request.command.error ≠ some .noMemory
        rwa [Active.replace_command first]
      · rw [Active.replaced_stop rfl hcur]
        rfl

theorem interrupt_accounted (h : Agrees (.whole c) l) : Accounted (.whole c) l .interrupt := by
  have whole : l.whole = true := h.whole.symm
  have hs : (System.whole c).step .interrupt = (.silent, .whole c.interrupt) := rfl
  rw [Accounted, hs]
  by_cases hd : c.detached = true
  · rw [Controller.interrupt, if_pos hd]
    exact ⟨l, [], .serves whole, h, (Performs.done _).reaches, .none rfl fun _ => rfl⟩
  have attached : c.detached = false := Bool.eq_false_iff.mpr hd
  cases ha : c.active with
  | none =>
    obtain ⟨bus, hp, he⟩ := Controller.interrupt_spurious attached
      (Controller.current?_of_idle ha)
    rw [he]
    exact ⟨l, _, .serves whole, h.keeps rfl rfl hp.alike, hp.reaches, .none rfl fun _ => rfl⟩
  | some a =>
    obtain ⟨-, e, entry, hm⟩ := h.active a ha
    obtain ⟨command, hc⟩ := Option.isSome_iff_exists.mp hm.current
    obtain ⟨accesses, bus, hp, hserves⟩ := Controller.interrupt_serves attached ha hc
    generalize c.interrupt = c' at hserves
    cases hserves with
    | continues =>
      refine ⟨l, _, .serves whole, ?_, hp.reaches,
        .none rfl (Controller.mute_stageAccesses _ _)⟩
      exact h.replace ha hc rfl (Controller.blank_staged _ _) rfl hp.alike
    | @finishes accesses mapped after error words final ends =>
      have blank : (Controller.answered after error words).blank = command.blank := ends.blank
      refine ⟨_, _, .finishes whole entry hm.fate ?_,
        h.finish ha rfl rfl (a.ticket_replace _) ?_ hp.alike, hp.reaches,
        .none (Ledger.commands_change ?_) (ends.mute.append (Controller.mute_ending words))⟩
      · rw [Active.blank_replace hc blank, hm.same]
      · exact Active.blank_replace hc blank
      · intro e' he'
        rw [entry] at he'
        cases he'
        exact h.block_finish words entry hm final ends.error_ne
    | @stops ended accesses mapped after stop error between _ words pending ends _ reached launched
        launches =>
      obtain ⟨-, -, hfirst⟩ := Active.current?_of_pending pending
      rw [hc] at hfirst
      cases hfirst
      have blank : (Controller.answered after error words).blank = a.request.command.blank := ends.blank
      obtain ⟨l', step, agrees, gains⟩ := h.stop_accounted ha pending blank ends.error_ne
        (ends.mute.append (Controller.mute_ending words)) reached.alike launched launches
      have reaches := hp.reaches
      rw [← (launches.outcome rfl (Active.current?_stopping pending _)).1] at reaches
      exact ⟨l', _, step, agrees, reaches, gains⟩

variable {s : System H}

omit [Hardware H] in
theorem yield_agrees (h : Agrees s l) {n : Nat} {e : Entry} {result : Request BufferId}
    (entry : l.entries[n]? = some e) (held : e.held = true) (hf : e.fate = .delivered result) :
    Agrees (s.setParts { s.parts with tickets := s.parts.tickets.setIfInBounds n .spent })
      (l.change n (.settle (.yielded result))) := by
  have only {e' : Entry} (he' : l.entries[n]? = some e') : e' = e := by
    rw [entry] at he'
    exact (Option.some.inj he').symm
  refine h.setTicket ?_ (fun _ => rfl) (fun _ => rfl) ?_ ?_
  · intro e' he'
    simp [only he', Entry.ticket, Entry.settle, held]
  · intro e' he'
    refine .inr ⟨?_, rfl⟩
    rw [only he', hf]
    rfl
  · intro e' he'
    rw [only he', hf]
    rfl

theorem poll_accounted (h : Agrees s l) (n : Nat) : Accounted s l (.poll n) := by
  have mute : Mute [] := fun _ => rfl
  cases hh : l.holds n with
  | false =>
    have hs : s.step (.poll n) = (.gone, s) := by
      rw [System.step, if_neg (by rw [h.held, hh]; decide)]
    rw [Accounted, hs]
    exact ⟨l, [], .unheld hh (.inl rfl), h, (Performs.done _).reaches, .none rfl mute⟩
  | true =>
    have hs : s.step (.poll n) =
        (.polled (s.parts.poll n).1, s.setParts (s.parts.poll n).2) := by
      rw [System.step, if_pos (by rw [h.held, hh])]
    rw [Ledger.holds, Option.any_eq_true] at hh
    obtain ⟨e, entry, held⟩ := hh
    have ht := h.ticket n
    rw [entry, Option.map_some, Entry.ticket, if_pos held] at ht
    rw [Accounted, hs]
    cases hf : e.fate with
    | outstanding phase =>
      rw [hf] at ht
      simp only [Parts.poll, ht, System.setParts_parts]
      exact ⟨l, [], .pending entry held hf, h, (Performs.done _).reaches, .none rfl mute⟩
    | delivered result =>
      rw [hf] at ht
      simp only [Parts.poll, ht]
      have result? : e.fate.result? = some result := by rw [hf, Fate.result?]
      have same := h.sound.results e (List.mem_of_getElem? entry) result result?
      refine ⟨_, [], .yields s.parts.bus.memory.get entry held hf same
        (h.sound.outline_result entry result?), h.yield_agrees entry held hf, ?_,
        .none (Ledger.commands_change fun e' he' => ?_) mute⟩
      · rw [System.parts_setParts]
        exact (Performs.done _).reaches
      · rw [entry] at he'
        rw [← Option.some.inj he', Entry.block_yield hf]
    | yielded result =>
      rw [hf] at ht
      simp only [Parts.poll, ht, System.setParts_parts]
      exact ⟨l, [], .spent entry held (.inl ⟨result, hf⟩), h, (Performs.done _).reaches,
        .none rfl mute⟩
    | abandoned phase =>
      rw [hf] at ht
      simp only [Parts.poll, ht, System.setParts_parts]
      exact ⟨l, [], .spent entry held (.inr ⟨phase, hf⟩), h, (Performs.done _).reaches,
        .none rfl mute⟩

theorem drop_accounted (h : Agrees s l) (n : Nat) : Accounted s l (.drop n) := by
  have mute : Mute [] := fun _ => rfl
  cases hh : l.holds n with
  | false =>
    have hs : s.step (.drop n) = (.gone, s) := by
      rw [System.step, if_neg (by rw [h.held, hh]; decide)]
    rw [Accounted, hs]
    exact ⟨l, [], .unheld hh (.inr rfl), h, (Performs.done _).reaches, .none rfl mute⟩
  | true =>
    have hs : s.step (.drop n) = (.silent, s.setParts (s.parts.drop n)) := by
      rw [System.step, if_pos (by rw [h.held, hh])]
    rw [Accounted, hs]
    refine ⟨_, [], .drops hh, ?_, ?_, .none (Ledger.commands_change fun e _ => e.block_letGo) mute⟩
    · exact h.setTicket (fun _ _ => rfl) (fun _ => rfl) (fun _ => rfl) (fun _ _ => .inl rfl)
        fun _ _ => rfl
    · rw [System.parts_setParts]
      exact (Performs.done _).reaches

theorem takeApart_accounted (h : Agrees (.whole c) l) : Accounted (.whole c) l .takeApart := by
  refine ⟨l.close, [], .closes h.whole.symm, h.close, ?_, .none l.commands_close fun _ => rfl⟩
  change c.bus.Reaches [] c.takeApart.bus
  rw [Controller.bus_takeApart]
  exact (Performs.done _).reaches

theorem quiet_accounted (h : Agrees (.whole c) l) {operation : Operation}
    (quiet : operation.isQuiet = true) : Accounted (.whole c) l operation := by
  have handle : ∀ n, operation ≠ .poll n ∧ operation ≠ .drop n := by
    intro n
    constructor <;> rintro rfl <;> simp [Operation.isQuiet] at quiet
  obtain ⟨c', accesses, hc', hq, hp, hk, hne⟩ := c.perform_quiet quiet
  rw [Accounted, System.step_whole c handle, hc']
  refine ⟨l, accesses, .quiet h.whole.symm quiet hne ?_, h.keeps hk.active hk.tickets hp.alike,
    hp.reaches, .none rfl hq.mute⟩
  rintro rfl
  rw [h.busy]
  rfl

theorem apart_accounted {p : Parts H} (h : Agrees (.apart p) l) {operation : Operation}
    (handle : ∀ n, operation ≠ .poll n ∧ operation ≠ .drop n) :
    Accounted (.apart p) l operation := by
  rw [Accounted, System.step_apart p handle]
  exact ⟨l, [], .closed h.whole.symm handle, h, (Performs.done _).reaches, .none rfl fun _ => rfl⟩

theorem step_accounted (h : Agrees s l) (operation : Operation) : Accounted s l operation := by
  cases s with
  | whole c =>
    cases operation with
    | submit request => exact h.submit_accounted request
    | interrupt => exact h.interrupt_accounted
    | poll n => exact h.poll_accounted n
    | drop n => exact h.drop_accounted n
    | takeApart => exact h.takeApart_accounted
    | _ => exact h.quiet_accounted rfl
  | apart p =>
    cases operation with
    | poll n => exact h.poll_accounted n
    | drop n => exact h.drop_accounted n
    | _ => exact h.apart_accounted fun _ => ⟨nofun, nofun⟩

theorem start (unit : UInt32) (board : Board) (options : Options) (hardware : H) :
    Agrees (System.start unit board options hardware) {} := by
  rw [System.start, Controller.attach_eq, Controller.writeAll_eq]
  refine ⟨rfl, rfl, ?_, ?_, .empty _⟩
  · intro a ha
    cases ha
  · intro n e he
    simp at he

end Agrees

/-- A run of a system with the ledger's account of it, in states of which something holds. -/
inductive Accounts {H : Type} [Hardware H] (P : System H → Ledger → Prop) :
    System H → Ledger → List Operation → System H → Ledger → Prop
  | done {s : System H} {l : Ledger} (holds : P s l) : Accounts P s l [] s l
  | step {s s' : System H} {l l' l'' : Ledger} {operation : Operation} {rest : List Operation}
    (holds : P s l) (rule : l.Step operation (s.step operation).1 l')
    (run : Accounts P (s.step operation).2 l' rest s' l'') :
    Accounts P s l (operation :: rest) s' l''

theorem Accounts.of_steps {H : Type} [Hardware H] {P : System H → Ledger → Prop}
    (step : ∀ s l operation, P s l →
      ∃ l', Ledger.Step l operation (s.step operation).1 l' ∧ P (s.step operation).2 l')
    {s : System H} {l : Ledger} (h : P s l) (operations : List Operation) :
    ∃ l', Accounts P s l operations (s.after operations) l' := by
  induction operations generalizing s l with
  | nil => exact ⟨l, .done h⟩
  | cons operation rest ih =>
    obtain ⟨l', rule, h'⟩ := step s l operation h
    obtain ⟨l'', run⟩ := ih h'
    exact ⟨l'', .step h rule run⟩

theorem Accounts.final {H : Type} [Hardware H] {P : System H → Ledger → Prop} {s s' : System H}
    {l l' : Ledger} {operations : List Operation} (run : Accounts P s l operations s' l') :
    P s' l' := by
  induction run with
  | done holds => exact holds
  | step _ _ _ ih => exact ih

section Invariant

variable {H : Type} [Hardware H]

structure Controller.Invariant (P : Controller H → Prop) : Prop where
  submit : ∀ c request, P c → P (c.submit request).2
  interrupt : ∀ c, P c → (∀ a, c.active = some a → a.current?.isSome = true) → P c.interrupt
  quiet : ∀ c c' l, P c → Quiet c l → Performs c.bus l c'.bus → c.Keeps c' → P c'
  tickets : ∀ c tickets, P c → P { c with tickets }

def System.Holds (P : Controller H → Prop) : System H → Prop
  | whole c => P c
  | apart _ => True

variable {P : Controller H → Prop}

theorem Controller.Invariant.setTicket (invariant : Invariant P) {s : System H} (h : s.Holds P)
    (ticket : Nat) (value : Ticket) : (s.setParts (s.parts.setTicket ticket value)).Holds P := by
  cases s with
  | whole c => exact invariant.tickets c _ h
  | apart p => exact trivial

theorem Controller.Invariant.step (invariant : Invariant P) {s : System H} {l : Ledger}
    (agrees : Agrees s l) (h : s.Holds P) (operation : Operation) :
    (s.step operation).2.Holds P := by
  have perform (c : Controller H) (operation : Operation) (quiet : operation.isQuiet = true)
      (hc : P c) : (c.perform operation).2.Holds P := by
    obtain ⟨c', l, hc', hq, hp, hk, -⟩ := c.perform_quiet quiet
    rw [hc']
    exact invariant.quiet c c' l hc hq hp hk
  cases operation with
  | poll ticket =>
    simp only [System.step]
    split
    · unfold Parts.poll
      split
      · rwa [System.setParts_parts]
      · exact invariant.setTicket h ticket .spent
      · rwa [System.setParts_parts]
    · exact h
  | drop ticket =>
    simp only [System.step]
    split
    · exact invariant.setTicket h ticket .dropped
    · exact h
  | submit request =>
    cases s with
    | apart p => exact trivial
    | whole c =>
      have hs : ((System.whole c).step (.submit request)).2 = .whole (c.submit request).2 := by
        simp only [System.step, Controller.perform]
        rcases c.submit request with ⟨_ | _, _⟩ <;> rfl
      rw [hs]
      exact invariant.submit c request h
  | interrupt =>
    cases s with
    | apart p => exact trivial
    | whole c => exact invariant.interrupt c h agrees.current
  | takeApart => cases s <;> exact trivial
  | _ =>
    cases s with
    | apart p => exact trivial
    | whole c => exact perform c _ rfl h

theorem Controller.Invariant.after (invariant : Invariant P) {s : System H} {l : Ledger}
    (agrees : Agrees s l) (h : s.Holds P) (operations : List Operation) :
    (s.after operations).Holds P := by
  induction operations generalizing s l with
  | nil => exact h
  | cons operation rest ih =>
    obtain ⟨l', _, _, agrees', -⟩ := agrees.step_accounted operation
    exact ih agrees' (invariant.step agrees h operation)

end Invariant

end CardHost
