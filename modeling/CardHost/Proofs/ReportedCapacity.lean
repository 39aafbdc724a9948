import CardHost.Proofs.BringUp
import CardHost.Proofs.CardPhases

namespace CardHost

namespace Bits

theorem toNat_upper (word : UInt32) : (word >>> 16).toNat = word.toNat / 65536 := by
  rw [UInt32.toNat_shiftRight, Nat.shiftRight_eq_div_pow]
  rfl

theorem toNat_lower (word : UInt32) : (word &&& 0xffff).toNat = word.toNat % 65536 := by
  rw [UInt32.toNat_and]
  exact Nat.and_two_pow_sub_one_eq_mod _ 16

theorem toNat_raised (word : UInt32) : (word <<< 16).toNat = word.toNat % 65536 * 65536 := by
  have hcount : (16 : UInt32).toNat % 32 = 16 := rfl
  rw [UInt32.toNat_shiftLeft, Nat.shiftLeft_eq, hcount]
  omega

theorem upper_or_lower (word : UInt32) : ((word >>> 16) <<< 16) ||| (word &&& 0xffff) = word := by
  have hjoin := Nat.shiftLeft_add_eq_or_of_lt (show word.toNat % 65536 < 2 ^ 16 by omega)
    (word.toNat / 65536)
  have hupper : word.toNat / 65536 % 65536 = word.toNat / 65536 := by
    have := word.toNat_lt
    omega
  rw [Nat.shiftLeft_eq] at hjoin
  apply UInt32.toNat_inj.mp
  rw [UInt32.toNat_or, toNat_raised, toNat_upper, toNat_lower, hupper]
  refine hjoin.symm.trans ?_
  omega

theorem or_upper (a b : UInt32) : (a ||| b) >>> 16 = a >>> 16 ||| b >>> 16 := by
  apply UInt32.toNat_inj.mp
  simp only [UInt32.toNat_shiftRight, UInt32.toNat_or]
  exact Nat.shiftRight_or_distrib

end Bits

namespace Card

def reportedCapacity (size : Nat) : Nat := (min (size / 524288 - 1) 0x3fffff + 1) * 524288

theorem reportedCapacity_le_size {size : Nat} (large : 524288 ≤ size) :
    reportedCapacity size ≤ size := by
  unfold reportedCapacity
  omega

theorem reportedCapacity_le (size : Nat) : reportedCapacity size ≤ UInt32.size * blockSize := by
  unfold reportedCapacity UInt32.size blockSize
  omega

theorem blockSize_dvd_reportedCapacity (size : Nat) : blockSize ∣ reportedCapacity size :=
  Nat.dvd_mul_left_of_dvd (by decide) _

theorem toNat_sizeField (medium : Medium) :
    (sizeField medium).toNat = min (medium.size / 524288 - 1) 0x3fffff :=
  UInt32.toNat_ofNat_of_lt' (Nat.lt_of_le_of_lt (Nat.min_le_right _ _) (by decide))

theorem csd_upper {size : UInt32} (small : size.toNat ≤ 0x3fffff) :
    ((0x5b590000 : UInt32) ||| (size >>> 16)) &&& (0x3f : UInt32) = size >>> 16 := by
  have hsize : size >>> 16 &&& (0x3f : UInt32) = size >>> 16 := by
    apply UInt32.toNat_inj.mp
    rw [UInt32.toNat_and, Bits.toNat_upper]
    exact (Nat.and_two_pow_sub_one_eq_mod _ 6).trans (Nat.mod_eq_of_lt (by omega))
  have hrest : (0x5b590000 : UInt32) &&& 0x3f = 0 := by decide
  rw [Bits.or_and, hsize, hrest, UInt32.zero_or]

theorem csd_lower (size : UInt32) :
    (((size &&& 0xffff) <<< 16) ||| 0x7f80) >>> 16 = size &&& 0xffff := by
  have hsize : (size &&& 0xffff) <<< 16 >>> 16 = size &&& 0xffff := by
    have hlower := Bits.toNat_lower size
    apply UInt32.toNat_inj.mp
    rw [Bits.toNat_upper, Bits.toNat_raised]
    omega
  have hrest : (0x7f80 : UInt32) >>> 16 = 0 := by decide
  rw [Bits.or_upper, hsize, hrest, UInt32.or_zero]

theorem capacityOfCsd_csd (card : Card) :
    (CardInfo.capacityOfCsd card.csd).toNat = reportedCapacity card.medium.size := by
  have hsize := toNat_sizeField card.medium
  have hsmall : (sizeField card.medium).toNat ≤ 0x3fffff := by omega
  have hlayout : ((0x400e0032 : UInt32) >>> 30 == 1) = true := by decide
  have hfield : ((card.csd[1] &&& 0x3f) <<< 16) ||| (card.csd[2] >>> 16) = sizeField card.medium := by
    have hupper := csd_upper hsmall
    have hlower := csd_lower (sizeField card.medium)
    have hwhole := Bits.upper_or_lower (sizeField card.medium)
    rw [← hupper, ← hlower] at hwhole
    exact hwhole
  have hcapacity : CardInfo.capacityOfCsd card.csd = ((sizeField card.medium).toUInt64 + 1) * 512 * 1024 := by
    rw [← hfield]
    exact if_pos hlayout
  have hunit : (512 : UInt64).toNat = 512 ∧ (1024 : UInt64).toNat = 1024 ∧ (1 : UInt64).toNat = 1 := by
    decide
  obtain ⟨h512, h1024, h1⟩ := hunit
  rw [hcapacity, UInt64.toNat_mul, UInt64.toNat_mul, UInt64.toNat_add, UInt32.toNat_toUInt64, h512, h1024,
    h1, hsize]
  unfold reportedCapacity
  omega

theorem execute_sendCsd {card card' : Card} {argument : UInt32} {r : Reply}
    (h : card.execute Opcode.sendCsd argument = (some r, card')) : r = .long card.csd := by
  rw [execute] at h
  by_cases application : card.applicationNext = true
  · rw [if_pos application] at h
    have hsilent : ({ card with applicationNext := false }).executeApplication Opcode.sendCsd argument =
        if card.state ≠ .transfer then (none, { card with applicationNext := false })
          else (none, { card with applicationNext := false }) := rfl
    rw [hsilent, ite_self] at h
    cases h
  · rw [if_neg application] at h
    have hplain : card.executePlain Opcode.sendCsd argument =
        if card.isAddressed argument ∧ card.state = .standby then (some (.long card.csd), card)
          else (none, card) := rfl
    rw [hplain] at h
    split at h
    · cases h
      rfl
    · cases h

end Card

namespace Session

variable {α β : Type} {s : Session Simulator}

def stored (s : Session Simulator) : Medium := s.controller.bus.hardware.card.medium

structure GoesOn (s s' : Session Simulator) : Prop extends Served s' where
  stored : s'.stored = s.stored
  consistent : s.controller.bus.hardware.card.Consistent → s'.controller.bus.hardware.card.Consistent

theorem Served.goesOn (served : s.Served) : s.GoesOn s := ⟨served, rfl, id⟩

theorem GoesOn.trans {s' s'' : Session Simulator} (h : s.GoesOn s') (h' : s'.GoesOn s'') : s.GoesOn s'' :=
  ⟨h'.toServed, h'.stored.trans h.stored, h'.consistent ∘ h.consistent⟩

theorem Served.tunes {c : Controller Simulator} (served : s.Served) (tunes : s.controller.Tunes c) :
    s.GoesOn { s with controller := c } :=
  ⟨⟨tunes.calm served.calm, served.attended⟩, congrArg Card.medium tunes.card, fun h => tunes.card ▸ h⟩

def Keeps (act : Action Simulator α) : Prop :=
  ∀ s : Session Simulator, s.Served → s.GoesOn (act.run.run s).2

namespace Keeps

variable {act : Action Simulator α}

theorem pure (a : α) : Keeps (Pure.pure a) := fun _ served => served.goesOn

theorem throw (e : SessionError) : Keeps (throwThe SessionError e : Action Simulator α) :=
  fun _ served => served.goesOn

theorem get : Keeps (MonadState.get : Action Simulator (Session Simulator)) :=
  fun _ served => served.goesOn

theorem bind {f : α → Action Simulator β} (h : Keeps act) (h' : ∀ a, Keeps (f a)) :
    Keeps (act >>= f) := by
  intro s served
  have hact := h s served
  rw [run_bind]
  rcases hrun : act.run.run s with ⟨e | a, s'⟩
  · rw [hrun] at hact
    exact hact
  · rw [hrun] at hact
    exact hact.trans (h' a s' hact.toServed)

theorem command {cmd : Command Bytes} (data : cmd.data = none) : Keeps (command cmd) := by
  intro s served
  obtain ⟨last, s', hrun, hserved, -, -, hattempts, -⟩ := served.command data
  rw [hrun]
  exact ⟨hserved, hattempts.medium, fun consistent => consistent.attempts hattempts⟩

theorem step {f : Controller Simulator → Except Refusal α × Controller Simulator}
    (tunes : ∀ c : Controller Simulator, c.Tunes (f c).2) : Keeps (step f) := by
  intro s served
  rw [run_step]
  exact served.tunes (tunes s.controller)

theorem owning (h : Keeps act) : Keeps (owning act) := by
  intro s served
  have hown (s : Session Simulator) (owned : Bool) (served : s.Served) :
      s.GoesOn { s with controller := { s.controller with owned } } :=
    served.tunes (.adjust s.controller s.controller.host s.controller.clockRequest owned)
  obtain ⟨owned, hrun⟩ := run_owning act s
  have hacquired := hown s owned served
  have hact := h _ hacquired.toServed
  rw [hrun]
  rcases hrun' : act.run.run { s with controller := { s.controller with owned } } with ⟨result, s'⟩
  rw [hrun'] at hact
  exact (hacquired.trans hact).trans (hown s' false hact.toServed)

theorem ensures {P : Medium → Prop} (h : Keeps act) :
    Ensures (fun sim => P sim.card.medium) act fun _ sim => P sim.card.medium := by
  intro s served hp
  have hact := h s served
  refine ⟨hact.toServed, fun _ _ => ?_⟩
  have hmedium : P s.stored := hp
  rwa [← hact.stored] at hmedium

end Keeps

theorem keeps_writeProperty (value : PropertyValue) : Keeps (writeProperty value) :=
  .step fun c => .writeProperty c value

theorem keeps_setTiming (clock : UInt32) (width : BusWidth) : Keeps (setTiming clock width) :=
  .step fun c => .setTiming c clock width

theorem keeps_announce (argument : UInt32) : Keeps (announce argument) :=
  (Keeps.command rfl).bind fun _ => .pure ()

theorem keeps_probeVersion : Keeps probeVersion := by
  intro s served
  have hcommand : Keeps (command (H := Simulator)
      { opcode := Opcode.sendInterfaceCond, argument := interfaceCheck, flags := .r7 }) := .command rfl
  rw [run_probeVersion]
  exact hcommand s served

theorem keeps_awaitReady (opCond : UInt32) (attempts : Nat) :
    Keeps (awaitReady (H := Simulator) opCond attempts) := by
  induction attempts with
  | zero => exact .throw _
  | succ attempts ih =>
    refine (keeps_announce 0).bind fun _ => (Keeps.command rfl).bind fun cmd => ?_
    split
    · exact .pure _
    · exact ih

theorem keeps_powerUp (host : HostSettings) : Keeps (powerUp (H := Simulator) host) := by
  refine (keeps_writeProperty _).bind fun _ => (keeps_writeProperty _).bind fun _ => ?_
  refine (keeps_writeProperty _).bind fun _ => (keeps_writeProperty _).bind fun _ => ?_
  exact (keeps_setTiming _ _).bind fun _ => .pure ()

theorem keeps_negotiate (host : HostSettings) : Keeps (negotiate (H := Simulator) host) := by
  refine (Keeps.command rfl).bind fun _ => keeps_probeVersion.bind fun versionTwo => ?_
  refine (keeps_awaitReady _ _).bind fun opCond => (keeps_writeProperty _).bind fun _ => ?_
  exact (keeps_writeProperty _).bind fun _ => .pure _

theorem keeps_widen (host : HostSettings) (addressed : UInt32) (narrow : BusSettings) :
    Keeps (widen (H := Simulator) host addressed narrow) := by
  refine (Keeps.step fun c => .readProperty c .capabilities).bind fun value => ?_
  split
  · split
    · refine (keeps_announce _).bind fun _ => (Keeps.command rfl).bind fun _ => ?_
      exact keeps_setTiming _ _
    · exact .pure _
  · exact .pure _

def Holds (size : Nat) (sim : Simulator) : Prop := sim.card.medium.size = size

theorem ensures_sendCsd {size : Nat} (argument : UInt32) :
    Ensures (Holds size) (command { opcode := Opcode.sendCsd, argument, flags := .r2 })
      fun last _ => (CardInfo.capacityOfCsd last.response).toNat = Card.reportedCapacity size := by
  refine (Ensures.command rfl).weaken (fun _ => id) ?_
  rintro last after ⟨before, hbefore, -, hexecutes⟩
  obtain ⟨reply, hexecution, hanswer⟩ := hexecutes.execution
  obtain ⟨r, rfl, hwords⟩ := hanswer (show ResponseFlags.r2.present = true by decide)
  have hnumber : Opcode.sendCsd &&& CommandWord.number = Opcode.sendCsd := by decide
  rw [hnumber] at hexecution
  rw [Card.execute_sendCsd hexecution] at hwords
  have hresponse : last.response = before.card.csd := by
    have hcount : ResponseFlags.r2.words = 4 := by decide
    change before.card.csd.toList.take ResponseFlags.r2.words <+: _ at hwords
    rw [hcount, List.take_of_length_le (Nat.le_of_eq Vector.length_toList)] at hwords
    have hwhole := hwords.eq_of_length (Vector.length_toList.trans Vector.length_toList.symm)
    exact (Vector.toList_inj.mp hwhole).symm
  rw [hresponse, Card.capacityOfCsd_csd, hbefore]

theorem ensures_discover_capacity {size : Nat} :
    Ensures (Holds size) discover fun found _ =>
      (CardInfo.capacityOfCsd found.2).toNat = Card.reportedCapacity size := by
  have hcommand {cmd : Command Bytes} (data : cmd.data = none) :
      Ensures (Holds size) (command cmd) fun _ => Holds size :=
    (Keeps.command data).ensures (P := fun medium => medium.size = size)
  refine (hcommand rfl).bind fun _ => (hcommand rfl).bind fun published => ?_
  exact (ensures_sendCsd _).bind fun described => .pure fun _ h => h

theorem ensures_identify_capacity {size : Nat} :
    Ensures (Holds size) identify fun info _ => info.capacity.toNat = Card.reportedCapacity size := by
  have hbefore {α : Type} {act : Action Simulator α} (keeps : Keeps act) :
      Ensures (Holds size) act fun _ => Holds size :=
    keeps.ensures (P := fun medium => medium.size = size)
  have hafter {α : Type} {p : Prop} {act : Action Simulator α} (keeps : Keeps act) :
      Ensures (fun _ => p) act fun _ _ => p :=
    keeps.ensures (P := fun _ => p)
  refine (hbefore .get).bind fun s => (hbefore (keeps_powerUp _)).bind fun _ => ?_
  refine (hbefore (keeps_negotiate _)).bind fun opCond => ?_
  refine ensures_discover_capacity.bind fun (address, csd) => ?_
  refine (hafter (keeps_writeProperty _)).bind fun _ => (hafter (keeps_setTiming _ _)).bind fun narrow => ?_
  refine (hafter (.command rfl)).bind fun _ => (hafter (keeps_widen _ _ _)).bind fun bus => ?_
  exact (hafter (.command rfl)).bind fun _ => .pure fun _ h => h

theorem keeps_discover : Keeps (discover (H := Simulator)) := by
  refine (Keeps.command rfl).bind fun _ => (Keeps.command rfl).bind fun published => ?_
  exact (Keeps.command rfl).bind fun described => .pure _

theorem keeps_identify : Keeps (identify (H := Simulator)) := by
  refine Keeps.get.bind fun s => (keeps_powerUp _).bind fun _ => (keeps_negotiate _).bind fun opCond => ?_
  refine keeps_discover.bind fun (address, csd) => (keeps_writeProperty _).bind fun _ => ?_
  refine (keeps_setTiming _ _).bind fun narrow => (Keeps.command rfl).bind fun _ => ?_
  exact (keeps_widen _ _ _).bind fun bus => (Keeps.command rfl).bind fun _ => .pure _

theorem start_reports {c : Controller Simulator} (calm : c.Calm) {patience : Nat} {info : CardInfo}
    (started : start c patience true = (.ok info, s)) :
    s.info = info ∧ s.stored = c.bus.hardware.card.medium ∧
      info.capacity.toNat = Card.reportedCapacity c.bus.hardware.card.medium.size ∧
      (c.bus.hardware.card.Consistent → s.controller.bus.hardware.card.Consistent) := by
  have served : ({ controller := c, patience, attended := true } : Session Simulator).Served :=
    ⟨calm, rfl⟩
  have hkeeps := keeps_identify.owning _ served
  obtain ⟨-, hcapacity⟩ := ensures_identify_capacity.owning _ served rfl
  unfold start at started
  split at started
  · next h =>
    rw [h] at hkeeps hcapacity
    cases started
    exact ⟨rfl, hkeeps.stored, hcapacity _ rfl, hkeeps.consistent⟩
  · cases started

end Session

end CardHost
