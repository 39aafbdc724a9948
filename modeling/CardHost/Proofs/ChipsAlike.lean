import CardHost.Proofs.ChipOperations
import CardHost.Proofs.FairStimuli

namespace CardHost

open Bus

structure Parts.Peers (p p' : Parts Simulator) : Prop where
  tickets : p'.tickets = p.tickets
  view : p'.bus.hardware.view = p.bus.hardware.view
  contents : ∀ (n : Nat) (r : Request BufferId), p.tickets[n]? = some (.ready r) →
    ∀ id ∈ r.buffers, p'.bus.memory.get id = p.bus.memory.get id

namespace Parts

variable {p p' : Parts Simulator}

theorem Peers.held (h : p.Peers p') (ticket : Nat) : p'.held ticket = p.held ticket := by
  rw [Parts.held, Parts.held, h.tickets]

theorem Peers.setTicket (h : p.Peers p') (ticket : Nat) {value : Ticket}
    (other : ∀ r, value ≠ .ready r) : (p.setTicket ticket value).Peers (p'.setTicket ticket value) := by
  refine ⟨by rw [Parts.setTicket, Parts.setTicket, h.tickets], h.view, fun n r hr => ?_⟩
  exact h.contents n r (ready_marked other hr)

theorem Peers.poll (h : p.Peers p') (ticket : Nat) :
    (p'.poll ticket).1 = (p.poll ticket).1 ∧
      (((p.poll ticket).2 = p ∧ (p'.poll ticket).2 = p') ∨
        ((p.poll ticket).2 = p.setTicket ticket .spent ∧
          (p'.poll ticket).2 = p'.setTicket ticket .spent)) := by
  unfold Parts.poll
  rw [h.tickets]
  cases ht : p.tickets[ticket]? with
  | none => exact ⟨rfl, .inl ⟨rfl, rfl⟩⟩
  | some value =>
    cases value with
    | ready r =>
      -- a finished request is read back from buffers that no command works on
      refine ⟨?_, .inr ⟨rfl, rfl⟩⟩
      dsimp only
      rw [Request.map_congr (h.contents ticket r ht)]
    | waiting => exact ⟨rfl, .inl ⟨rfl, rfl⟩⟩
    | spent => exact ⟨rfl, .inl ⟨rfl, rfl⟩⟩
    | dropped => exact ⟨rfl, .inl ⟨rfl, rfl⟩⟩

end Parts

namespace Controller

open Simulator

variable {c c' : Controller Simulator} {mixed : Prop}

theorem ordered_get {id : BufferId} (other : ∀ a, c.active = some a → id ∉ a.request.buffers) :
    c.ordered.get id = c.bus.memory.get id := by
  rw [ordered]
  cases hu : c.unordered? with
  | none => rfl
  | some buffer =>
    have apart : buffer ≠ id := by
      rintro rfl
      unfold unordered? at hu
      split at hu
      · obtain ⟨command, hcurrent, hdata⟩ := Option.bind_eq_some_iff.mp hu
        obtain ⟨a, ha, hc⟩ := Option.bind_eq_some_iff.mp hcurrent
        obtain ⟨data, hd, rfl⟩ := Option.map_eq_some_iff.mp hdata
        exact other a ha (Active.mem_buffers hc hd)
      · cases hu
    rw [Option.elim_some, Memory.restored]
    split
    · rw [Memory.get_set, if_neg fun hid => apart hid.1]
    · rfl

theorem Peers.parts (h : c.Peers c') (tidy : c.Tidy mixed) : c.toParts.Peers c'.toParts := by
  obtain ⟨soc, bus, hsame⟩ := h.same
  refine ⟨by rw [hsame], h.view, fun n r hr id hid => ?_⟩
  obtain ⟨⟨own, -⟩, other⟩ := tidy.ready n r hr id hid
  have other' (a : Active) (ha : c'.active = some a) : id ∉ a.request.buffers :=
    other a (h.active.symm.trans ha)
  have hcontents := h.contents id own
  rwa [ordered_get other, ordered_get other'] at hcontents

theorem Peers.takeApart (h : c.Peers c') (tidy : c.Tidy mixed) : c.takeApart.Peers c'.takeApart := by
  have hparts := h.parts tidy
  have tickets : c'.takeApart.tickets = c.takeApart.tickets := by
    unfold Controller.takeApart
    rw [h.active]
    cases c.active with
    | none => exact hparts.tickets
    | some a =>
      dsimp only
      rw [hparts.tickets]
  refine ⟨tickets, ?_, fun n r ready => ?_⟩
  · rw [Controller.bus_takeApart, Controller.bus_takeApart]
    exact hparts.view
  · rw [Controller.bus_takeApart, Controller.bus_takeApart]
    exact hparts.contents n r (Controller.ready_takeApart ready)

theorem Peers.setTicket (h : c.Peers c') (ticket : Nat) (value : Ticket) :
    ({ c with tickets := c.tickets.setIfInBounds ticket value } : Controller Simulator).Peers
      { c' with tickets := c'.tickets.setIfInBounds ticket value } := by
  refine ⟨⟨?_, h.view, h.size, h.orderly⟩, h.contents, h.sent⟩
  obtain ⟨soc, bus, rfl⟩ := h.same
  exact ⟨soc, bus, rfl⟩

theorem Peers.adjust (h : c.Peers c') {s s' : Simulator}
    (frame : ∃ injected failNextLoad card, s = { c.bus.hardware with injected, failNextLoad, card })
    (frame' : ∃ injected failNextLoad card, s' = { c'.bus.hardware with injected, failNextLoad, card })
    (view : s'.view = s.view) (orderly : s.Orderly) :
    ({ c with bus.hardware := s } : Controller Simulator).Peers { c' with bus.hardware := s' } := by
  obtain ⟨injected, failNextLoad, card, rfl⟩ := frame
  obtain ⟨injected', failNextLoad', card', rfl⟩ := frame'
  refine h.leave ⟨⟨rfl, rfl, rfl, rfl, rfl⟩, rfl, rfl, rfl, rfl, rfl⟩
    ⟨⟨rfl, rfl, rfl, rfl, rfl⟩, rfl, rfl, rfl, rfl, rfl⟩ ?_ view orderly
  obtain ⟨soc, bus, rfl⟩ := h.same
  exact ⟨soc, _, rfl⟩

theorem Peers.asserted (h : c.Peers c') (steady : c.Steady) (steady' : c'.Steady) :
    InterruptLine.asserted c'.bus.hardware = InterruptLine.asserted c.bus.hardware := by
  obtain ⟨left, balanced⟩ := steady.balanced
  cases ha : c.active with
  | none =>
    have mask := (steady.resting ha).2
    rw [Simulator.quiet_of_masked mask, Simulator.quiet_of_masked (h.mask.trans mask)]
  | some a =>
    obtain ⟨stage, works⟩ := balanced.works a ha
    rw [asserted_stage works.mask, asserted_stage (h.mask.trans works.mask), h.latched]
    cases clean : anyBit c.bus.hardware.latched Status.errors with
    | true => rfl
    | false => rw [h.anyBit_status steady.still steady'.still works.mask clean]

end Controller

namespace System

open Controller

variable {s s' : System Simulator} {c c' : Controller Simulator} {soc soc' : Soc} {mixed : Prop}

inductive Peers : System Simulator → System Simulator → Prop
  | whole {c c' : Controller Simulator} (h : c.Peers c') : Peers (.whole c) (.whole c')
  | apart {p p' : Parts Simulator} (h : p.Peers p') : Peers (.apart p) (.apart p')

theorem Sound.tidy_beside (sound : (System.whole c).Sound soc (soc.Unlike soc'))
    (sound' : (System.whole c').Sound soc' (soc.Unlike soc')) :
    c.Tidy (c.board.soc.Unlike c'.board.soc) := by
  rw [sound.soc_eq, sound'.soc_eq]
  exact sound.tidy

theorem Peers.interrupt (h : c.Peers c') (sound : (System.whole c).Sound soc (soc.Unlike soc'))
    (sound' : (System.whole c').Sound soc' (soc.Unlike soc')) : c.interrupt.Peers c'.interrupt :=
  h.interrupt sound.steady sound'.steady sound.settled sound'.settled (sound.tidy_beside sound')
    sound.current

theorem Peers.perform (h : c.Peers c') (sound : (System.whole c).Sound soc (soc.Unlike soc'))
    (sound' : (System.whole c').Sound soc' (soc.Unlike soc')) {operation : Operation}
    (fair : (Stimulus.operate operation).Fair (soc.Unlike soc')) :
    (c'.perform operation).1 = (c.perform operation).1 ∧
      (c.perform operation).2.Peers (c'.perform operation).2 := by
  obtain ⟨_, _, hsame⟩ := h.same
  cases operation with
  | submit request =>
    have portable : request.Portable (c.board.soc.Unlike c'.board.soc) List.length := by
      rw [sound.soc_eq, sound'.soc_eq]
      exact fair
    obtain ⟨answer, peers⟩ :=
      h.submit sound.steady sound'.steady sound.settled sound'.settled (sound.tidy_beside sound') portable
    simp only [Controller.perform]
    generalize c.submit request = submitted at answer peers ⊢
    generalize c'.submit request = submitted' at answer peers ⊢
    obtain ⟨result, d⟩ := submitted
    obtain ⟨result', d'⟩ := submitted'
    dsimp only at answer peers
    subst answer
    cases result' with
    | ok ticket => exact ⟨rfl, .whole peers⟩
    | error rejection => exact ⟨rfl, .whole peers⟩
  | interrupt => exact ⟨rfl, .whole (Peers.interrupt h sound sound')⟩
  | readProperty p =>
    obtain ⟨answer, peers⟩ := h.oblivious (oblivious_readProperty p)
    exact ⟨congrArg Answer.property answer, .whole peers⟩
  | writeProperty value =>
    obtain ⟨answer, peers⟩ := h.oblivious (oblivious_writeProperty value)
    exact ⟨congrArg Answer.outcome answer, .whole peers⟩
  | setOptions options =>
    have oblivious : Oblivious fun c : Controller Simulator => ((), c.setOptions options) :=
      ⟨fun c => ⟨rfl, rfl, rfl, rfl, rfl, rfl⟩, fun c soc bus => rfl⟩
    exact ⟨rfl, .whole (h.oblivious oblivious).2⟩
  | update =>
    obtain ⟨answer, peers⟩ := h.update
    exact ⟨congrArg Answer.timing answer, .whole peers⟩
  | setTiming clock width =>
    obtain ⟨answer, peers⟩ := h.setTiming clock width
    exact ⟨congrArg Answer.timing answer, .whole peers⟩
  | isBusy => exact ⟨by rw [hsame]; rfl, .whole h⟩
  | countMappings => exact ⟨by rw [hsame]; rfl, .whole h⟩
  | readSettings => exact ⟨by rw [hsame]; rfl, .whole h⟩
  | acquire =>
    obtain ⟨answer, peers⟩ := h.oblivious oblivious_acquire
    exact ⟨congrArg Answer.flag answer, .whole peers⟩
  | release =>
    have oblivious : Oblivious fun c : Controller Simulator => ((), c.release) :=
      ⟨fun c => ⟨rfl, rfl, rfl, rfl, rfl, rfl⟩, fun c soc bus => rfl⟩
    exact ⟨rfl, .whole (h.oblivious oblivious).2⟩
  | detach =>
    obtain ⟨answer, peers⟩ := h.detach sound.steady
    exact ⟨congrArg Answer.outcome answer, .whole peers⟩
  | takeApart => exact ⟨rfl, .apart (h.takeApart sound.tidy)⟩
  | poll => exact ⟨rfl, .whole h⟩
  | drop => exact ⟨rfl, .whole h⟩

theorem Peers.parts (h : s.Peers s') (sound : s.Sound soc (soc.Unlike soc')) : s.parts.Peers s'.parts := by
  cases h with
  | whole h => exact h.parts sound.tidy
  | apart h => exact h

theorem Peers.setTicket (h : s.Peers s') (ticket : Nat) {value : Ticket}
    (other : ∀ r, value ≠ .ready r) :
    (s.setParts (s.parts.setTicket ticket value)).Peers
      (s'.setParts (s'.parts.setTicket ticket value)) := by
  cases h with
  | whole h => exact .whole (h.setTicket ticket value)
  | apart h => exact .apart (h.setTicket ticket other)

theorem Peers.step (h : s.Peers s') (sound : s.Sound soc (soc.Unlike soc'))
    (sound' : s'.Sound soc' (soc.Unlike soc')) {operation : Operation}
    (fair : (Stimulus.operate operation).Fair (soc.Unlike soc')) :
    (s'.step operation).1 = (s.step operation).1 ∧ (s.step operation).2.Peers (s'.step operation).2 := by
  have parts := h.parts sound
  have perform (operation : Operation) (fair : (Stimulus.operate operation).Fair (soc.Unlike soc'))
      (handle : ∀ n, operation ≠ .poll n ∧ operation ≠ .drop n) :
      (s'.step operation).1 = (s.step operation).1 ∧
        (s.step operation).2.Peers (s'.step operation).2 := by
    cases h with
    | whole h =>
      rw [step_whole _ handle, step_whole _ handle]
      exact Peers.perform h sound sound' fair
    | apart h =>
      rw [step_apart _ handle, step_apart _ handle]
      exact ⟨rfl, .apart h⟩
  cases operation with
  | poll ticket =>
    simp only [System.step, parts.held]
    split
    · obtain ⟨answer, ⟨same, same'⟩ | ⟨spent, spent'⟩⟩ := parts.poll ticket
      · rw [same, same', setParts_parts, setParts_parts, answer]
        exact ⟨rfl, h⟩
      · rw [spent, spent', answer]
        exact ⟨rfl, h.setTicket ticket (by simp)⟩
    · exact ⟨rfl, h⟩
  | drop ticket =>
    simp only [System.step, parts.held]
    split
    · exact ⟨rfl, h.setTicket ticket (by simp)⟩
    · exact ⟨rfl, h⟩
  | _ => exact perform _ fair fun _ => by simp

theorem Peers.serveLine (h : c.Peers c') (sound : (System.whole c).Sound soc (soc.Unlike soc'))
    (sound' : (System.whole c').Sound soc' (soc.Unlike soc')) (limit : Nat) :
    (c'.serveLine limit).1 = (c.serveLine limit).1 ∧
      (c.serveLine limit).2.Peers (c'.serveLine limit).2 := by
  induction limit generalizing c c' with
  | zero => exact ⟨rfl, h⟩
  | succ limit ih =>
    have hnext := Peers.interrupt h sound sound'
    simp only [Controller.serveLine, pump, h.asserted sound.steady sound'.steady]
    split
    · obtain ⟨calls, peers⟩ := ih hnext sound.interrupt sound'.interrupt
      exact ⟨congrArg (· + 1) calls, peers⟩
    · exact ⟨rfl, h⟩

theorem Peers.adjust (h : s.Peers s') {f : Simulator → Simulator}
    (frame : ∀ sim : Simulator, ∃ injected failNextLoad card,
      f sim = { sim with injected, failNextLoad, card })
    (view : ∀ sim sim' : Simulator, sim'.view = sim.view → (f sim').view = (f sim).view)
    (orderly : ∀ sim : Simulator, sim.Orderly → (f sim).Orderly) : (s.adjust f).Peers (s'.adjust f) := by
  cases h with
  | whole h => exact .whole (h.adjust (frame _) (frame _) (view _ _ h.view) (orderly _ h.orderly))
  | apart h => exact .apart ⟨h.tickets, view _ _ h.view, h.contents⟩

theorem Peers.respond (h : s.Peers s') (sound : s.Sound soc (soc.Unlike soc'))
    (sound' : s'.Sound soc' (soc.Unlike soc')) {stimulus : Stimulus}
    (fair : stimulus.Fair (soc.Unlike soc')) :
    (s'.respond stimulus).1 = (s.respond stimulus).1 ∧
      (s.respond stimulus).2.Peers (s'.respond stimulus).2 := by
  cases stimulus with
  | operate operation => exact h.step sound sound' fair
  | serve limit =>
    cases h with
    | whole h =>
      obtain ⟨calls, peers⟩ := Peers.serveLine h sound sound' limit
      exact ⟨congrArg Answer.count calls, .whole peers⟩
    | apart h => exact ⟨rfl, .apart h⟩
  | inject injected =>
    refine ⟨rfl, h.adjust (fun _ => ⟨injected, _, _, rfl⟩)
      (fun _ _ same => Simulator.view_injected same injected)
      fun _ orderly => ⟨orderly.card, orderly.latched, fair⟩⟩
  | failLoad =>
    refine ⟨rfl, h.adjust (fun _ => ⟨_, true, _, rfl⟩)
      (fun _ _ same => Simulator.view_failNextLoad same true)
      fun _ orderly => orderly.of_eq rfl rfl rfl⟩
  | useCard call =>
    refine ⟨rfl, h.adjust (fun sim => ⟨_, _, sim.card.after call, rfl⟩) (fun sim sim' same => ?_)
      fun _ orderly => orderly.replaceCard (orderly.card.after call)⟩
    exact congrArg (fun v : Simulator.View => { v with card := v.card.after call }) same

def card (s : System Simulator) : Card := s.parts.bus.hardware.card

theorem Peers.card (h : s.Peers s') : s'.card = s.card := by
  cases h with
  | whole h => exact congrArg Simulator.View.card h.view
  | apart h => exact congrArg Simulator.View.card h.view

def responses : System Simulator → List Stimulus → List (Answer × Card)
  | _, [] => []
  | s, stimulus :: rest =>
    ((s.respond stimulus).1, (s.respond stimulus).2.card) :: (s.respond stimulus).2.responses rest

theorem Peers.responses (h : s.Peers s') (sound : s.Sound soc (soc.Unlike soc'))
    (sound' : s'.Sound soc' (soc.Unlike soc')) {stimuli : List Stimulus}
    (fair : ∀ stimulus ∈ stimuli, stimulus.Fair (soc.Unlike soc')) :
    s'.responses stimuli = s.responses stimuli := by
  induction stimuli generalizing s s' with
  | nil => rfl
  | cons stimulus rest ih =>
    obtain ⟨first, others⟩ := List.forall_mem_cons.mp fair
    obtain ⟨answer, peers⟩ := h.respond sound sound' first
    have hrest := ih peers (sound.respond first) (sound'.respond first) others
    rw [System.responses, System.responses, answer, peers.card, hrest]

end System

def rig (unit masterClock : UInt32) (options : Options) (card : Card) (soc : Soc) : System Simulator :=
  System.start unit ⟨soc, masterClock⟩ options { soc, card }

/-- Rigs on any two chips answer a client the same, and leave the same on the same card, whatever they are asked
and whatever fails. -/
theorem chips_alike (soc soc' : Soc) (unit masterClock : UInt32) (options : Options) (medium : Medium)
    (calls : List Card.Call) (stimuli : List Stimulus)
    (fair : ∀ stimulus ∈ stimuli, stimulus.Fair (soc.Unlike soc')) :
    (rig unit masterClock options (Card.used medium calls) soc').responses stimuli =
      (rig unit masterClock options (Card.used medium calls) soc).responses stimuli := by
  have peers := Controller.peers_attach soc soc' unit masterClock options
    (Card.consistent_used medium calls)
  have hpeers : System.Peers (rig unit masterClock options (Card.used medium calls) soc)
      (rig unit masterClock options (Card.used medium calls) soc') := .whole peers
  exact hpeers.responses (System.sound_start unit ⟨soc, masterClock⟩ options _ rfl)
    (System.sound_start unit ⟨soc', masterClock⟩ options _ rfl) fair

def Stimulus.serving (request : Request Bytes) : List Stimulus :=
  [.operate (.submit request), .serve 16, .operate (.poll 0)]

def Card.selecting : List Card.Call :=
  [.execute Opcode.goIdle 0, .execute Opcode.sendInterfaceCond 0x1aa,
    .execute Opcode.application 0, .execute AppOpcode.sendOpCond 0x40300000,
    .execute Opcode.application 0, .execute AppOpcode.sendOpCond 0x40300000,
    .execute Opcode.application 0, .execute AppOpcode.sendOpCond 0x40300000,
    .execute Opcode.allSendCid 0, .execute Opcode.sendRelativeAddress 0,
    .execute Opcode.selectCard 0x12340000]

def shortWrite : Request Bytes :=
  { command :=
      { opcode := Opcode.writeBlock
        flags := .r1
        data := some ⟨[1, 2, 3, 4], .write, 0⟩ } }

theorem short_write_alike :
    (∀ stimulus ∈ Stimulus.serving shortWrite, stimulus.Fair (Soc.sam9260.Unlike .rm9200)) ∧
      (rig 0 60000000 .default (Card.used (.blank 1024) Card.selecting) .rm9200).responses
          (Stimulus.serving shortWrite) =
        (rig 0 60000000 .default (Card.used (.blank 1024) Card.selecting) .sam9260).responses
          (Stimulus.serving shortWrite) ∧
      ((rig 0 60000000 .default (Card.used (.blank 1024) Card.selecting) .rm9200).afterStimuli
        (Stimulus.serving shortWrite)).card.medium.slice 0 6 = [1, 2, 3, 4, 0, 0] := by
  have fair : ∀ stimulus ∈ Stimulus.serving shortWrite,
      stimulus.Fair (Soc.sam9260.Unlike .rm9200) := by
    intro stimulus h
    rcases List.mem_cons.mp h with rfl | h
    · refine ⟨⟨?_, ?_, ?_⟩, nofun⟩
      · rintro data ⟨⟩
        rfl
      · rintro data ⟨⟩
        decide
      · rintro - data ⟨⟩ -
        nofun
    · rcases List.mem_cons.mp h with rfl | h
      · trivial
      · rcases List.mem_singleton.mp h with rfl
        trivial
  refine ⟨fair, chips_alike .sam9260 .rm9200 0 60000000 .default (.blank 1024) Card.selecting _ fair, ?_⟩
  decide +kernel

def Answer.yields : Answer → Bool
  | .polled (.ok (some _)) => true
  | _ => false

def emptyWrite (opcode : UInt32) (flags : ResponseFlags) : Request Bytes :=
  { command := { opcode, flags, data := some ⟨[], .write, 0⟩ } }

theorem portable_emptyWrite (opcode : UInt32) (flags : ResponseFlags) :
    (emptyWrite opcode flags).Portable False List.length := by
  refine ⟨⟨?_, ?_, False.elim⟩, nofun⟩
  · rintro data ⟨⟩
    rfl
  · rintro data ⟨⟩
    decide

/-- A padded write of nothing, to a card that says nothing, never ends; without the padding it does. -/
theorem empty_writes_differ :
    (emptyWrite Opcode.writeBlock .none).Portable False List.length ∧
      (rig 0 99328000 .default (Card.used (.blank 1024) []) .sam9260).responses
          (Stimulus.serving (emptyWrite Opcode.writeBlock .none)) ≠
        (rig 0 99328000 .default (Card.used (.blank 1024) []) .sam9261).responses
          (Stimulus.serving (emptyWrite Opcode.writeBlock .none)) ∧
      (emptyWrite Opcode.stopTransmission .r1).Portable False List.length ∧
      (rig 0 99328000 .default (Card.used (.blank 1024) []) .sam9260).responses
          (Stimulus.serving (emptyWrite Opcode.stopTransmission .r1)) ≠
        (rig 0 99328000 .default (Card.used (.blank 1024) []) .sam9261).responses
          (Stimulus.serving (emptyWrite Opcode.stopTransmission .r1)) := by
  have differ {l l' : List (Answer × Card)}
      (h : l.map (·.1.yields) ≠ l'.map (·.1.yields)) : l ≠ l' :=
    fun same => h (congrArg _ same)
  refine ⟨portable_emptyWrite _ _, differ ?_, portable_emptyWrite _ _, differ ?_⟩
  · decide +kernel
  · decide +kernel

end CardHost
