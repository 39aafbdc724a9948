import CardHost.Proofs.BlockTransfers
import CardHost.Proofs.ChipLaunches
import CardHost.Proofs.Guises

namespace CardHost

inductive Fault where
  | none
  | refusal
  | status (bits : UInt32)

namespace Fault

def strike : Fault → Simulator → Simulator
  | none, s => s
  | refusal, s => { s with failNextLoad := true }
  | status bits, s => { s with injected := bits }

def Shows : Fault → Prop
  | status bits => anyBit bits Status.errors = true
  | _ => True

end Fault

namespace Simulator

def marked (s : Simulator) (injected : UInt32 → UInt32) (failNextLoad : Bool → Bool) : Simulator :=
  { s with injected := injected s.injected, failNextLoad := failNextLoad s.failNextLoad }

variable (s : Simulator) (i : UInt32 → UInt32) (f : Bool → Bool) (mapped : Option Bytes)

theorem pumpReceive_marked :
    (s.marked i f).pumpReceive mapped =
      ((s.pumpReceive mapped).1.marked i f, (s.pumpReceive mapped).2) := by
  unfold pumpReceive
  dsimp only [marked]
  split
  · dsimp only [register]
    split <;> rfl
  · rfl

theorem deliver_marked (fetched : Bytes) (block : Nat) :
    (s.marked i f).deliver fetched block = (s.deliver fetched block).marked i f := by
  by_cases short : (s.soc.secondRevision && fetched.length < Staging.minLength) = true
  · rw [deliver, deliver, if_pos short]
    exact if_pos short
  · rw [deliver, deliver, if_neg short]
    refine (if_neg short).trans ?_
    have hcard : (s.marked i f).card = s.card := rfl
    have hsoc : (s.marked i f).soc = s.soc := rfl
    simp only [hcard, hsoc]
    generalize s.card.writeData _ = written
    rcases written with ⟨_ | _, _⟩ <;> rfl

theorem pumpTransmit_waiting {s : Simulator} {block : Nat} (on : s.transmitOn = true)
    (awaited : s.awaited = some block) (mapped : Option Bytes) :
    s.pumpTransmit mapped =
      match locate? mapped (s.register Register.transmitPointer)
        ((s.register Register.transmitCount).toNat * 4) with
      | none => { s with awaited := none, cardBusy := false }.latch Status.underrun
      | some start =>
        let length := (s.register Register.transmitCount).toNat * 4
        let fetched := ((mapped.getD []).drop start).take length
        let advanced := ({ s with awaited := none, cardBusy := false }.setRegister Register.transmitPointer
          (s.register Register.transmitPointer + UInt32.ofNat length)).setRegister
            Register.transmitCount 0
        { advanced with lastSent := fetched }.deliver fetched block := by
  unfold pumpTransmit
  rw [on, awaited]
  rfl

theorem pumpTransmit_marked :
    (s.marked i f).pumpTransmit mapped = (s.pumpTransmit mapped).marked i f := by
  by_cases waits : s.transmitOn = true ∧ s.awaited.isSome = true
  · obtain ⟨on, waits⟩ := waits
    obtain ⟨block, awaited⟩ := Option.isSome_iff_exists.mp waits
    have hregister (offset : Nat) : (s.marked i f).register offset = s.register offset := rfl
    rw [pumpTransmit_waiting on awaited, pumpTransmit_waiting (s := s.marked i f) on awaited, hregister,
      hregister]
    generalize locate? mapped (s.register Register.transmitPointer)
      ((s.register Register.transmitCount).toNat * 4) = place
    cases place with
    | none => rfl
    | some start =>
      refine Eq.trans ?_ (deliver_marked _ i f _ _)
      rfl
  · rw [pumpTransmit_idle waits, pumpTransmit_idle (s := s.marked i f) waits]

theorem setControl_marked (value : UInt32) :
    (s.marked i f).setControl value = (s.setControl value).marked i f := by
  unfold setControl
  cases anyBit value Control.softReset <;> cases anyBit value Control.off <;>
    cases anyBit value Control.on <;> rfl

theorem switchReceive_marked (value : UInt32) :
    (s.marked i f).switchReceive value mapped =
      ((s.switchReceive value mapped).1.marked i f, (s.switchReceive value mapped).2) := by
  unfold switchReceive
  split
  · rfl
  · split
    · exact pumpReceive_marked { s with receiveOn := true } i f mapped
    · rfl

theorem switchTransmit_marked (value : UInt32) :
    (s.marked i f).switchTransmit value mapped = (s.switchTransmit value mapped).marked i f := by
  unfold switchTransmit
  split
  · rfl
  · split
    · exact pumpTransmit_marked { s with transmitOn := true } i f mapped
    · rfl

theorem write_marked {offset : Nat} (other : offset ≠ Register.command) (value : UInt32) :
    (s.marked i f).write mapped offset value =
      ((s.write mapped offset value).1.marked i f, (s.write mapped offset value).2) := by
  unfold write
  rw [if_neg other, if_neg other]
  split
  · exact congrArg (·, none) (s.setControl_marked i f value)
  · split
    · rfl
    · split
      · rfl
      · split
        · rw [switchChannels_eq, switchChannels_eq, switchReceive_marked, switchTransmit_marked]
        · split
          · rfl
          · split <;> rfl

theorem load_marked (loaded : Bool) (length : Nat) :
    (s.marked i id).load loaded length =
      ((s.load loaded length).1, (s.load loaded length).2.marked i id) := by
  by_cases fails : s.failNextLoad = true
  · rw [load, load, if_pos fails]
    exact if_pos fails
  · rw [load, load, if_neg fails]
    refine (if_neg fails).trans ?_
    split
    · rfl
    · split <;> rfl

end Simulator

namespace Fault

open Simulator

theorem strike_eq (fault : Fault) : ∃ i f, fault.strike = (·.marked i f) := by
  cases fault with
  | none => exact ⟨id, id, rfl⟩
  | refusal => exact ⟨id, fun _ => true, rfl⟩
  | status bits => exact ⟨fun _ => bits, id, rfl⟩

instance (fault : Fault) : Face fault.strike where
  read s offset := by cases fault <;> rfl
  write s mapped offset value other := by
    obtain ⟨i, f, hstrike⟩ := fault.strike_eq
    rw [hstrike]
    exact s.write_marked i f mapped other value
  sync _ _ := rfl
  unload _ := rfl

theorem mappingFace {fault : Fault} (maps : fault ≠ refusal) : MappingFace fault.strike where
  load s loaded bytes direction := by
    cases fault with
    | none => rfl
    | refusal => exact absurd rfl maps
    | status bits => exact s.load_marked (fun _ => bits) loaded bytes.length

end Fault

namespace Controller

open Simulator

variable {c : Controller Simulator} {a : Active} {command : Command BufferId}

theorem Calm.struck (h : c.Calm) (fault : Fault) : (c.behind fault.strike).Composed := by
  have hstill := h.settled.still
  cases fault
  all_goals
    exact ⟨h.attached, h.idle, h.count, h.mapping, h.mask,
      ⟨⟨hstill.arrived, hstill.awaited, hstill.line, hstill.receiveNext, hstill.transmitNext⟩,
        h.settled.soc, h.settled.bounce⟩⟩

structure Fails (c : Controller Simulator) (request : Request Bytes) (n : Nat)
    (served : Controller Simulator) : Prop where
  finishes : ∃ last e, c.Finishes request n served ⟨last, none⟩ ∧ last.error = some e
  card : served.bus.hardware.card = c.bus.hardware.card
  enabled : served.bus.hardware.enabled = c.bus.hardware.enabled

theorem concluded_eq (count : c.mapped = 0) (mapping : c.bus.mapping = none) (s : Simulator)
    (memory : Memory) (a : Active) :
    { c with
      bus := { c.bus with hardware := s, memory }
      tickets := delivered c.tickets a, active := none } = c.concluded s memory a := by
  rw [concluded, ← count, ← mapping]

theorem Called.of_eq {c c' c'' : Controller Simulator} {n : Nat} (launched : c = c')
    (h : Called n c' c'') : Called n c c'' :=
  launched ▸ h

theorem Composed.places (h : c.Composed) {t : Transfer} {argument : UInt32} {buffer : Bytes}
    (short : t.toCard = true → buffer.length ≤ Staging.capacity) {request : Request Bytes}
    (asks : t.IsCommand argument buffer request.command) :
    ∃ data, (c.accepted request).request.command.data = some data ∧ data.flags = t.flags ∧
      ¬ (0 < (c.take request).mapped ∨ (c.take request).overlong data) := by
  obtain ⟨id, ⟨-, -, -, moved, hd⟩, hbuffer, -⟩ := asks.place c.bus.memory
  refine ⟨⟨id, t.flags, moved⟩, hd, rfl, ?_⟩
  rintro (mapped | ⟨isRead, long⟩)
  · exact Nat.lt_irrefl 0 (h.count ▸ mapped)
  · rw [t.isRead_flags, Bool.not_eq_false'] at isRead
    have hplaced : (c.take request).buffer id = buffer := hbuffer
    rw [(h.settled.take request).bounce, hplaced] at long
    exact Nat.not_lt_of_le (Staging.length_le (short isRead) _) long

theorem Composed.refuses (h : c.Composed) (healthy : c.bus.hardware.injected = 0)
    (refuses : c.bus.hardware.failNextLoad = true) {t : Transfer} {argument : UInt32} {buffer : Bytes}
    (short : t.toCard = true → buffer.length ≤ Staging.capacity) {cmd : Command Bytes}
    (asks : t.IsCommand argument buffer cmd) : ∃ served, c.Fails ⟨cmd, none⟩ 0 served := by
  have hasks : t.IsCommand argument buffer (⟨cmd, none⟩ : Request Bytes).command := asks
  obtain ⟨data, hd, hflags, hfits⟩ := h.places short hasks
  generalize hrequest : (⟨cmd, none⟩ : Request Bytes) = request at hd hfits
  obtain ⟨e, fails⟩ := staging_refused (c := c.take request) (a := c.accepted request) rfl rfl hd
    (.inr refuses)
  obtain ⟨memory, -, -, hlaunch⟩ := launch_failed_simulated rfl rfl hd (hflags ▸ t.transfers_flags) fails
  rw [decide_eq_false hfits, Bool.and_false] at hlaunch
  replace hlaunch := hlaunch.trans (concluded_eq (c := c.take request) h.count h.mapping _ memory _)
  have hsettled := h.settled.submit request
  rw [h.submitted request, hlaunch] at hsettled
  have hfinishes := h.finishes (.of_eq hlaunch (.nothing _)) (Active.ticket_replace _ _) hsettled h.mask
    healthy rfl
  subst hrequest
  exact ⟨_, ⟨_, .noMemory, hfinishes, rfl⟩, rfl, rfl⟩

theorem fields_armedView (c : Controller Simulator) (command : Command BufferId) :
    ∃ receiveCount, c.armedView command = { c.bus.hardware.view with receiveCount } := by
  unfold armedView
  split
  · exact ⟨_, rfl⟩
  · split <;> exact ⟨_, rfl⟩

theorem launch_struck (h : c.Launchable) (settled : c.Settled) (mask : c.bus.hardware.mask = 0)
    (ha : c.active = some a) (hc : a.current? = some command)
    (enabled : c.bus.hardware.enabled = true)
    (shows : anyBit c.bus.hardware.injected Status.errors = true) {t : Transfer} {argument : UInt32}
    {id : BufferId} (asks : t.IsCommand argument id command) (words : (c.buffer id).length % 4 = 0)
    (short : if t.toCard then (c.buffer id).length ≤ Staging.capacity
      else (c.buffer id).length < 65536) :
    ∃ (stage : Stage) (s : Simulator) (memory : Memory) (mapping : Mapping), c.launch command =
        c.proceed ⟨{ s with mask := stage.mask }, memory, some mapping⟩ 1
          (a.replace (restaged command)) ∧
      s.card = c.bus.hardware.card ∧ s.enabled = true ∧ s.injected = 0 ∧ s.failNextLoad = false ∧
      anyBit s.latched Status.errors = true := by
  obtain ⟨-, -, -, moved, hd⟩ := asks
  have hstruck : c.bus.hardware.injected ≠ 0 := fun none => by
    rw [none] at shows
    cases shows
  have responds {armed : Simulator} (arms : armed.Arms (c.armedView command) command.argument) :
      ∃ s, armed.Responds (c.wireWord command) false s ∧ s.card = c.bus.hardware.card ∧
        s.enabled = true ∧ s.injected = 0 ∧ s.failNextLoad = false ∧
        anyBit s.latched Status.errors = true := by
    obtain ⟨receiveCount, hfields⟩ := c.fields_armedView command
    have hview := arms.view.trans hfields
    have henabled : armed.enabled = true := (congrArg View.enabled hview).trans enabled
    have hinjected : armed.injected = c.bus.hardware.injected := congrArg View.injected hview
    refine ⟨_, .fault henabled (hinjected ▸ hstruck), congrArg View.card hview, henabled, rfl,
      (congrArg View.failNextLoad hview).trans h.loads, ?_⟩
    rw [hinjected, Simulator.latch, anyBit_or, anyBit_or, shows, Bool.true_or, Bool.or_true]
  cases ht : t.toCard with
  | false =>
    rw [if_neg (by rw [ht]; decide)] at short
    obtain ⟨armed, arms, hlaunch⟩ := launch_reads h mask ha hc hd (by rw [t.isRead_flags, ht]; rfl)
      words short
    obtain ⟨s, hresponds, hs⟩ := responds arms
    obtain ⟨u, received, hfetches, hlaunched⟩ := hlaunch false s hresponds
    cases hfetches
    exact ⟨.receiving, s, _, _, hlaunched, hs⟩
  | true =>
    rw [if_pos ht] at short
    obtain ⟨armed, arms, hlaunch⟩ := launch_writes h mask settled.soc settled.bounce ha hc hd
      (by rw [t.isRead_flags, ht]; rfl) (by rw [t.isWrite_flags, ht]) words short
    obtain ⟨s, hresponds, hs⟩ := responds arms
    obtain ⟨-, u, hsends, hlaunched⟩ := hlaunch false s hresponds
    cases hsends
    exact ⟨.sending, { s with transmitOn := true }, _, _, hlaunched, hs⟩

theorem Composed.strikes (h : c.Composed) (enabled : c.bus.hardware.enabled = true)
    (shows : anyBit c.bus.hardware.injected Status.errors = true)
    (loads : c.bus.hardware.failNextLoad = false) {t : Transfer} {argument : UInt32} {buffer : Bytes}
    (words : buffer.length % 4 = 0)
    (short : if t.toCard then buffer.length ≤ Staging.capacity else buffer.length < 65536)
    {cmd : Command Bytes} (asks : t.IsCommand argument buffer cmd) :
    ∃ served, c.Fails ⟨cmd, none⟩ 1 served := by
  have hasks : t.IsCommand argument buffer (⟨cmd, none⟩ : Request Bytes).command := asks
  obtain ⟨id, hplaced, hbuffer, -⟩ := hasks.place c.bus.memory
  have hstop : (c.accepted ⟨cmd, none⟩).pending? = none := rfl
  generalize hrequest : (⟨cmd, none⟩ : Request Bytes) = request at hplaced hbuffer hstop
  have hbytes : (c.take request).buffer id = buffer := hbuffer
  have hlaunchable : (c.take request).Launchable := ⟨h.count, h.mapping, h.settled.still, loads⟩
  obtain ⟨stage, s, memory, mapping, hlaunch, hcard, henabled, hinjected, hloads, hfaulty⟩ :=
    launch_struck hlaunchable (h.settled.take request) h.mask (a := c.accepted request) rfl rfl enabled shows
      hplaced (by rw [hbytes]; exact words) (by rw [hbytes]; exact short)
  have hsettled := h.settled.submit request
  rw [h.submitted request, hlaunch] at hsettled
  have hother : (restaged (c.accepted request).request.command).opcode ≠ Opcode.sendOpCond ∧
      (restaged (c.accepted request).request.command).opcode ≠ AppOpcode.sendOpCond := by
    have hopcode : (restaged (c.accepted request).request.command).opcode = t.opcode := hplaced.opcode
    rw [hopcode]
    exact t.opcode_ne.2
  obtain ⟨e, words, hcalled⟩ := called_failed stage
    (c := (c.take request).proceed ⟨{ s with mask := stage.mask }, memory, some mapping⟩ 1
      ((c.accepted request).replace (restaged (c.accepted request).request.command)))
    h.attached rfl (Active.current?_replace rfl _) rfl rfl hfaulty hother
  rw [Active.replace_replace, proceed_proceed] at hcalled
  rw [advance_ends ((Active.pending?_replace _ _).trans hstop)] at hcalled
  have hended : ((c.take request).concluded { s with mask := 0 } memory ((c.accepted request).replace
      (answered (restaged (c.accepted request).request.command) (some e) words))).Settled := by
    obtain ⟨hstill, hsoc, hbounce⟩ := hsettled
    exact ⟨⟨hstill.arrived, hstill.awaited, hstill.line, hstill.receiveNext, hstill.transmitNext⟩,
      hsoc, hbounce⟩
  have hfinishes := h.finishes (.of_eq hlaunch hcalled) (Active.ticket_replace _ _) hended rfl hinjected
    hloads
  subst hrequest
  exact ⟨_, ⟨_, e, hfinishes, rfl⟩, hcard, henabled.trans enabled.symm⟩

theorem Calm.fails (h : c.Calm) (enabled : c.bus.hardware.enabled = true) {fault : Fault}
    (strikes : fault ≠ .none) (shows : fault.Shows) {t : Transfer} {argument : UInt32} {buffer : Bytes}
    (words : buffer.length % 4 = 0) (short : buffer.length ≤ Staging.capacity) {cmd : Command Bytes}
    (asks : t.IsCommand argument buffer cmd) :
    ∃ n served, n ≤ 1 ∧ (c.behind fault.strike).Fails ⟨cmd, none⟩ n served := by
  have hcomposed := h.struck fault
  cases fault with
  | none => exact absurd rfl strikes
  | refusal =>
    obtain ⟨served, hfails⟩ := hcomposed.refuses h.injected rfl (fun _ => short) asks
    exact ⟨0, served, Nat.zero_le _, hfails⟩
  | status bits =>
    have hshort : if t.toCard then buffer.length ≤ Staging.capacity else buffer.length < 65536 := by
      split
      · exact short
      · exact Nat.lt_of_le_of_lt short (by decide)
    obtain ⟨served, hfails⟩ := hcomposed.strikes enabled shows h.loads words hshort asks
    exact ⟨1, served, Nat.le_refl _, hfails⟩

end Controller

end CardHost
