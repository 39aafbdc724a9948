import CardHost.Proofs.DataPhases
/-!
What a host can tell of a simulated controller, whichever chip it is on. How the chip lays out words in memory
and how many of them its channels fetch is not part of it.
-/
namespace CardHost

namespace Simulator

structure View where
  enabled : Bool
  mask : UInt32
  latched : UInt32
  injected : UInt32
  failNextLoad : Bool
  card : Card
  response : List UInt32
  receiveCount : UInt32

def view (s : Simulator) : View where
  enabled := s.enabled
  mask := s.mask
  latched := s.latched
  injected := s.injected
  failNextLoad := s.failNextLoad
  card := s.card
  response := Controller.responseWords s 0 4
  receiveCount := s.register Register.receiveCount

variable {s s' t t' : Simulator} {word : UInt32} {goesOn : Bool}

theorem view_latched (s : Simulator) (latched : UInt32) :
    ({ s with latched } : Simulator).view = { s.view with latched } := by
  simp only [view, Controller.responseWords_eq]
  rfl

theorem view_latch (same : s'.view = s.view) (bits : UInt32) : (s'.latch bits).view = (s.latch bits).view :=
  calc (s'.latch bits).view
    _ = { s'.view with latched := s'.view.latched ||| bits } := s'.view_latched _
    _ = { s.view with latched := s.view.latched ||| bits } := by rw [same]
    _ = (s.latch bits).view := (s.view_latched _).symm

theorem view_cleared (same : s'.view = s.view) : s'.cleared.view = s.cleared.view :=
  let clear (v : View) : View := { v with latched := v.latched &&& ~~~(Status.commandReady ||| Status.errors) }
  calc s'.cleared.view
    _ = clear s'.view := s'.view_latched _
    _ = clear s.view := congrArg clear same
    _ = s.cleared.view := (s.view_latched _).symm

theorem view_injected (same : s'.view = s.view) (injected : UInt32) :
    ({ s' with injected } : Simulator).view = ({ s with injected } : Simulator).view :=
  congrArg (fun v : View => { v with injected }) same

theorem view_failNextLoad (same : s'.view = s.view) (failNextLoad : Bool) :
    ({ s' with failNextLoad } : Simulator).view = ({ s with failNextLoad } : Simulator).view :=
  congrArg (fun v : View => { v with failNextLoad }) same

theorem view_card (same : s'.view = s.view) (card : Card) :
    ({ s' with card } : Simulator).view = ({ s with card } : Simulator).view :=
  congrArg (fun v : View => { v with card }) same

theorem view_mask (same : s'.view = s.view) (mask : UInt32) :
    ({ s' with mask } : Simulator).view = ({ s with mask } : Simulator).view :=
  congrArg (fun v : View => { v with mask }) same

theorem view_registers (s : Simulator) {registers : RegisterFile} {count : UInt32}
    (response : ∀ offset, Register.response ≤ offset → offset < Register.response + 16 →
      registers.get offset = s.register offset)
    (receiveCount : registers.get Register.receiveCount = count) (receiveOn transmitOn : Bool)
    (arrived : Option Bytes) (lastSent : Bytes) :
    ({ s with registers, receiveOn, transmitOn, arrived, lastSent } : Simulator).view =
      { s.view with receiveCount := count } := by
  have words : Controller.responseWords
      { s with registers, receiveOn, transmitOn, arrived, lastSent } 0 4 =
        Controller.responseWords s 0 4 := by
    rw [Controller.responseWords_eq, Controller.responseWords_eq]
    simp only [register]
    rw [response Register.response (by decide) (by decide),
      response (Register.response + 4) (by decide) (by decide),
      response (Register.response + 8) (by decide) (by decide),
      response (Register.response + 12) (by decide) (by decide)]
    rfl
  simp only [view, words]
  rw [← receiveCount]
  rfl

theorem view_channels (s : Simulator) (receiveOn transmitOn : Bool) :
    ({ s with receiveOn, transmitOn } : Simulator).view = s.view :=
  s.view_registers (fun _ _ _ => rfl) rfl receiveOn transmitOn s.arrived s.lastSent

theorem view_setRegister (s : Simulator) (offset : Nat) (value : UInt32)
    (other : offset < Register.response ∨ Register.response + 16 ≤ offset)
    (counter : offset ≠ Register.receiveCount) : (s.setRegister offset value).view = s.view := by
  refine s.view_registers (fun offset' lower upper => ?_) ?_ s.receiveOn s.transmitOn s.arrived s.lastSent
  · rw [RegisterFile.get_set, if_neg (by omega), register]
  · rw [RegisterFile.get_set, if_neg counter.symm]
    rfl

theorem view_setCount (s : Simulator) (count : UInt32) :
    (s.setRegister Register.receiveCount count).view = { s.view with receiveCount := count } := by
  refine s.view_registers (fun offset lower upper => ?_) ?_ s.receiveOn s.transmitOn s.arrived s.lastSent
  · have other : offset ≠ Register.receiveCount := Nat.ne_of_lt (Nat.lt_trans upper (by decide))
    rw [RegisterFile.get_set, if_neg other, register]
  · rw [RegisterFile.get_set, if_pos rfl]

def isUnseen (offset : Nat) : Bool :=
  (offset < Register.response || Register.response + 16 ≤ offset) && offset != Register.receiveCount

theorem view_setAll (s : Simulator) {l : List (Nat × UInt32)}
    (unseen : l.all (fun w => isUnseen w.1) = true) : (s.setAll l).view = s.view := by
  induction l generalizing s with
  | nil => rfl
  | cons w rest ih =>
    obtain ⟨hw, hrest⟩ := Bool.and_eq_true_iff.mp unseen
    simp only [isUnseen, Bool.and_eq_true, Bool.or_eq_true, decide_eq_true_eq, bne_iff_ne] at hw
    exact (ih (s.setRegister w.1 w.2) hrest).trans (s.view_setRegister w.1 w.2 hw.1 hw.2)

theorem view_setResponse (s : Simulator) (words : Response) :
    (s.setResponse words).view = { s.view with response := words.toList } := by
  have hcount : (s.setResponse words).register Register.receiveCount =
      s.register Register.receiveCount := s.register_setResponse_other words (by decide)
  simp only [view, Controller.responseWords_setResponse, hcount]
  rfl

theorem view_accept (same : s'.view = s.view) (reply : Reply) (expected : Bool) :
    (s'.accept reply expected).view = (s.accept reply expected).view := by
  have answered (words : Response) : (s'.setResponse words).view = (s.setResponse words).view := by
    rw [view_setResponse, view_setResponse, same]
  cases reply with
  | none => exact same
  | short => exact answered _
  | shortNoCrc => exact view_latch (answered _) _
  | long => exact answered _

theorem Responds.alike (h : s.Responds word goesOn t) (same : s'.view = s.view)
    (argument : s'.register Register.argument = s.register Register.argument) :
    ∃ t', s'.Responds word goesOn t' ∧ t'.view = t.view := by
  have henabled : s'.enabled = s.enabled := congrArg View.enabled same
  have hinjected : s'.injected = s.injected := congrArg View.injected same
  have hcard : s'.card = s.card := congrArg View.card same
  have hcleared := view_cleared same
  cases h with
  | disabled enabled =>
    exact ⟨_, .disabled (henabled.trans enabled), view_latch hcleared _⟩
  | fault enabled injected =>
    refine ⟨_, .fault (henabled.trans enabled) (hinjected ▸ injected), ?_⟩
    rw [hinjected]
    exact view_latch (view_injected hcleared 0) _
  | silent card enabled injected executes =>
    rw [← hcard, ← argument] at executes
    refine ⟨_, .silent card (henabled.trans enabled) (hinjected.trans injected) executes, ?_⟩
    exact view_latch (view_latch (view_card hcleared card) _) _
  | answers reply card enabled injected executes =>
    rw [← hcard, ← argument] at executes
    refine ⟨_, .answers reply card (henabled.trans enabled) (hinjected.trans injected) executes, ?_⟩
    exact view_latch (view_accept (view_card hcleared card) reply _) _

theorem Fetches.mask {count : Nat} {data : Option Bytes} (h : s.Fetches count goesOn t data) :
    t.mask = s.mask := by
  cases h <;> rfl

theorem Sends.mask {source : Bytes} (h : s.Sends source goesOn t) : t.mask = s.mask := by
  cases h <;> rfl

theorem view_fetched (s : Simulator) {registers : RegisterFile}
    (zero : registers.get Register.receiveCount = 0)
    (others : ∀ offset < Register.receivePointer, registers.get offset = s.register offset)
    (card : Card) :
    ({ s with card, arrived := none, registers } : Simulator).view =
      { s.view with card, receiveCount := 0 } :=
  view_registers { s with card } (fun offset _ upper => others offset (Nat.lt_trans upper (by decide)))
    zero s.receiveOn s.transmitOn none s.lastSent

theorem Fetches.alike {count : Nat} {data data' : Option Bytes} (h : s.Fetches count goesOn t data)
    (h' : s'.Fetches count goesOn t' data') (same : s'.view = s.view) :
    t'.view = t.view ∧ data' = data := by
  have hcard : s'.card = s.card := congrArg View.card same
  cases h with
  | nothing =>
    cases h'
    exact ⟨same, rfl⟩
  | failed error card fails =>
    cases h' with
    | failed error' card' fails' =>
      rw [hcard, fails] at fails'
      cases fails'
      exact ⟨view_latch (view_card same card) _, rfl⟩
    | fetched data' card' registers' reads' =>
      rw [hcard, fails] at reads'
      cases reads'
  | fetched data card registers reads zero others =>
    cases h' with
    | failed error' card' fails' =>
      rw [hcard, reads] at fails'
      cases fails'
    | fetched data' card' registers' reads' zero' others' =>
      rw [hcard, reads] at reads'
      cases reads'
      rw [view_fetched s' zero' others', view_fetched s zero others, same]
      exact ⟨rfl, rfl⟩

theorem view_transmits (s : Simulator) : ({ s with transmitOn := true } : Simulator).view = s.view :=
  s.view_channels s.receiveOn true

theorem view_sent (s : Simulator) {registers : RegisterFile}
    (others : ∀ offset < Register.transmitPointer, registers.get offset = s.register offset)
    (card : Card) (lastSent : Bytes) :
    ({ s with transmitOn := true, registers, lastSent, card } : Simulator).view =
      { s.view with card } :=
  view_registers { s with card } (fun offset _ upper => others offset (Nat.lt_trans upper (by decide)))
    (others Register.receiveCount (by decide)) s.receiveOn true s.arrived lastSent

theorem Sends.alike {source : Bytes} (h : s.Sends source goesOn t) (h' : s'.Sends source goesOn t')
    (same : s'.view = s.view) : t'.view = t.view := by
  have hcard : s'.card = s.card := congrArg View.card same
  cases h with
  | nothing =>
    cases h'
    rw [view_transmits, view_transmits, same]
  | unready idle =>
    cases h' with
    | unready => rw [view_transmits, view_transmits, view_latch same]
    | failed _ _ _ _ ready' =>
      rw [hcard, idle] at ready'
      cases ready'
    | sent _ _ _ ready' =>
      rw [hcard, idle] at ready'
      cases ready'
  | failed error card registers lastSent ready fails zero others =>
    cases h' with
    | unready idle' =>
      rw [hcard, ready] at idle'
      cases idle'
    | failed error' card' registers' lastSent' ready' fails' zero' others' =>
      rw [hcard, fails] at fails'
      cases fails'
      refine view_latch ?_ _
      rw [view_sent s' others', view_sent s others, same]
    | sent card' registers' lastSent' ready' takes' =>
      rw [hcard, fails] at takes'
      cases takes'
  | sent card registers lastSent ready takes zero others =>
    cases h' with
    | unready idle' =>
      rw [hcard, ready] at idle'
      cases idle'
    | failed error' card' registers' lastSent' ready' fails' =>
      rw [hcard, takes] at fails'
      cases fails'
    | sent card' registers' lastSent' ready' takes' zero' others' =>
      rw [hcard, takes] at takes'
      cases takes'
      rw [view_sent s' others', view_sent s others, same]

end Simulator

end CardHost
