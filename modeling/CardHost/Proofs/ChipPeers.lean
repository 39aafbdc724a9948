import CardHost.Proofs.ChipLaunches
import CardHost.Proofs.Portability

namespace CardHost

open Bus

/-- One of the chips pads short writes, and the other does not. -/
def Soc.Unlike (soc soc' : Soc) : Prop := soc'.secondRevision ≠ soc.secondRevision

namespace Simulator

def View.Arrived (v : View) : Prop :=
  v.mask = Stage.receiving.mask ∧ anyBit v.latched Status.errors = false ∧ v.receiveCount = 0

instance (v : View) : Decidable v.Arrived := inferInstanceAs (Decidable (_ ∧ _))

end Simulator

namespace Controller

open Simulator

/-- The buffer that lies as the channel stores it, until the handler puts it into order. -/
def unordered? (c : Controller Simulator) : Option BufferId :=
  if c.bus.hardware.view.Arrived then c.current?.bind fun command => command.data.map (·.buffer)
  else none

def ordered (c : Controller Simulator) : Memory :=
  c.unordered?.elim c.bus.memory (c.bus.memory.restored c.board.soc)

structure Beside (c c' : Controller Simulator) : Prop where
  same : ∃ soc bus, c' = { c with bus, board := { c.board with soc } }
  view : c'.bus.hardware.view = c.bus.hardware.view
  size : c'.bus.memory.buffers.size = c.bus.memory.buffers.size
  orderly : c.bus.hardware.Orderly

/-- Controllers on two chips that differ in nothing a client can see: not in its buffers, put into order, and not
in whether a write that is clean so far is over. -/
structure Peers (c c' : Controller Simulator) : Prop extends Beside c c' where
  contents : ∀ id ≠ c.bounce, c'.ordered.get id = c.ordered.get id
  sent : c.bus.hardware.mask = Stage.sending.mask →
    anyBit c.bus.hardware.latched Status.errors = false →
      (c'.bus.hardware.register Register.transmitCount = 0 ↔
        c.bus.hardware.register Register.transmitCount = 0)

/-- Peers whose memory is the same, as it lies there. -/
structure Twins (c c' : Controller Simulator) : Prop extends Beside c c' where
  contents : ∀ id ≠ c.bounce, c'.buffer id = c.buffer id

variable {c c' : Controller Simulator} {a : Active} {command : Command BufferId} {mixed : Prop}

theorem Beside.active (h : c.Beside c') : c'.active = c.active := by
  obtain ⟨soc, bus, rfl⟩ := h.same
  rfl

theorem Beside.mapped (h : c.Beside c') : c'.mapped = c.mapped := by
  obtain ⟨soc, bus, rfl⟩ := h.same
  rfl

theorem Beside.detached (h : c.Beside c') : c'.detached = c.detached := by
  obtain ⟨soc, bus, rfl⟩ := h.same
  rfl

theorem Beside.bounce (h : c.Beside c') : c'.bounce = c.bounce := by
  obtain ⟨soc, bus, rfl⟩ := h.same
  rfl

theorem Beside.wireWord (h : c.Beside c') (command : Command BufferId) :
    c'.wireWord command = c.wireWord command := by
  obtain ⟨soc, bus, rfl⟩ := h.same
  rfl

theorem Beside.mask (h : c.Beside c') : c'.bus.hardware.mask = c.bus.hardware.mask :=
  congrArg View.mask h.view

theorem Beside.latched (h : c.Beside c') : c'.bus.hardware.latched = c.bus.hardware.latched :=
  congrArg View.latched h.view

theorem Beside.loads (h : c.Beside c') :
    c'.bus.hardware.failNextLoad = c.bus.hardware.failNextLoad := congrArg View.failNextLoad h.view

theorem ordered_waiting (waiting : ¬ c.bus.hardware.view.Arrived) : c.ordered = c.bus.memory := by
  rw [ordered, unordered?, if_neg waiting]
  rfl

theorem ordered_of_mask (other : c.bus.hardware.mask ≠ Stage.receiving.mask) :
    c.ordered = c.bus.memory := ordered_waiting fun arrived => other arrived.1

theorem ordered_alike (c : Controller Simulator) : c.bus.memory.Alike c.ordered := by
  unfold ordered
  cases c.unordered? with
  | none => exact .refl _
  | some id => exact c.bus.memory.restored_alike c.board.soc id

theorem Peers.length (h : c.Peers c') {id : BufferId} (other : id ≠ c.bounce) :
    (c'.buffer id).length = (c.buffer id).length := by
  rw [buffer, buffer, ← c'.ordered_alike.2, ← c.ordered_alike.2, h.contents id other]

theorem Peers.twins (h : c.Peers c') (waiting : ¬ c.bus.hardware.view.Arrived) : c.Twins c' := by
  refine ⟨h.toBeside, fun id hid => ?_⟩
  have hcontents := h.contents id hid
  rwa [ordered_waiting waiting, ordered_waiting (h.view ▸ waiting)] at hcontents

theorem Twins.peers (h : c.Twins c') (mask : UInt32) (stage : c.bus.hardware.mask = mask)
    (other : mask ≠ Stage.receiving.mask ∧ mask ≠ Stage.sending.mask) : c.Peers c' := by
  have stage' : c'.bus.hardware.mask = mask := h.mask.trans stage
  refine ⟨h.toBeside, fun id hid => ?_, fun sending => ?_⟩
  · have hordered : c.ordered = c.bus.memory := ordered_of_mask (by rw [stage]; exact other.1)
    have hordered' : c'.ordered = c'.bus.memory := ordered_of_mask (by rw [stage']; exact other.1)
    rw [hordered, hordered']
    exact h.contents id hid
  · rw [stage] at sending
    exact (other.2 sending).elim

structure Clear (c : Controller Simulator) : Prop where
  settled : c.Settled
  count : c.mapped = if c.bus.mapping.isSome then 1 else 0
  mask : c.bus.hardware.mask = 0

theorem Clear.active (h : c.Clear) (active : Option Active) : ({ c with active } : Controller Simulator).Clear :=
  ⟨⟨h.settled.still, h.settled.soc, h.settled.bounce⟩, h.count, h.mask⟩

theorem Clear.launchable (h : c.Clear) (free : c.mapped = 0)
    (loads : c.bus.hardware.failNextLoad = false) : c.Launchable := by
  refine ⟨free, ?_, h.settled.still, loads⟩
  have hcount := h.count
  rw [free] at hcount
  cases hm : c.bus.mapping with
  | none => rfl
  | some m =>
    rw [hm] at hcount
    cases hcount

theorem overlong_iff (bounce : (c.buffer c.bounce).length = Staging.capacity)
    (data : Payload BufferId) :
    c.overlong data ↔
      data.flags.isRead = false ∧ Staging.capacity < (c.buffer data.buffer).length := by
  rw [overlong, bounce]
  constructor
  · rintro ⟨isRead, long⟩
    refine ⟨isRead, Nat.lt_of_not_le fun short => ?_⟩
    exact Nat.not_lt_of_le (Staging.length_le short _) long
  · rintro ⟨isRead, long⟩
    exact ⟨isRead, Nat.lt_of_lt_of_le long (Staging.le_length _ _ _)⟩

theorem orderly_armed {armed : Simulator} (h : c.bus.hardware.Orderly)
    (arms : armed.Arms (c.armedView command) command.argument) : armed.Orderly := by
  have hview := arms.view
  have kept : (c.armedView command).card = c.bus.hardware.card ∧
      (c.armedView command).latched = c.bus.hardware.latched ∧
      (c.armedView command).injected = c.bus.hardware.injected := by
    unfold armedView
    split
    · exact ⟨rfl, rfl, rfl⟩
    · split <;> exact ⟨rfl, rfl, rfl⟩
  rw [← hview] at kept
  exact h.of_eq kept.1 kept.2.1 kept.2.2

theorem Twins.armedView (h : c.Twins c') (command : Command BufferId)
    (apart : ∀ data, command.data = some data → data.buffer ≠ c.bounce) :
    c'.armedView command = c.armedView command := by
  unfold Controller.armedView
  split
  · rw [h.view]
  · next data hd => rw [h.view, h.contents _ (apart data hd)]

theorem Twins.launch_quiet (h : c.Twins c') (clear : c.Clear) (clear' : c'.Clear)
    (quiet : command.transfers = false)
    (apart : ∀ data, command.data = some data → data.buffer ≠ c.bounce) :
    (c.launch command).Peers (c'.launch command) := by
  have hview := h.armedView command apart
  obtain ⟨armed, arms, hlaunch⟩ := Controller.launch_quiet clear.mask quiet
  obtain ⟨armed', arms', hlaunch'⟩ := Controller.launch_quiet clear'.mask quiet
  rw [hview] at arms'
  obtain ⟨goesOn, t, responds⟩ := armed.responds (c.wireWord command)
  obtain rfl : goesOn = false := responds.quiet (c.wireWord_starts_nothing command quiet)
  obtain ⟨t', responds', same⟩ := arms.alike arms' responds
  obtain ⟨soc, bus, rfl⟩ := h.same
  rw [hlaunch t responds, hlaunch' t' responds']
  have orderly : ({ t with mask := Stage.ready.mask } : Simulator).Orderly :=
    ((orderly_armed h.orderly arms).responds responds).of_eq rfl rfl rfl
  exact Twins.peers ⟨⟨⟨soc, _, rfl⟩, view_mask same Stage.ready.mask, h.size, orderly⟩, h.contents⟩
    Stage.ready.mask rfl (by decide)

theorem Twins.launch_refused (h : c.Twins c') (clear : c.Clear) (clear' : c'.Clear)
    {data : Payload BufferId} (ha : c.active = some a) (hc : a.current? = some command)
    (hd : command.data = some data) (transfers : data.flags.transfers = true)
    (apart : data.buffer ≠ c.bounce)
    (reason : (0 < c.mapped ∨ c.overlong data) ∨ c.bus.hardware.failNextLoad = true) :
    (c.launch command).Peers (c'.launch command) := by
  have hlong : c'.overlong data ↔ c.overlong data := by
    rw [overlong_iff clear'.settled.bounce, overlong_iff clear.settled.bounce, h.contents _ apart]
  have reason' : (0 < c'.mapped ∨ c'.overlong data) ∨ c'.bus.hardware.failNextLoad = true := by
    rwa [h.mapped, hlong, h.loads]
  obtain ⟨e, fails⟩ := staging_refused ha hc hd reason
  obtain ⟨e', fails'⟩ := staging_refused (h.active.trans ha) hc hd reason'
  obtain ⟨memory, halike, hothers, hlaunch⟩ := launch_failed_simulated ha hc hd transfers fails
  obtain ⟨memory', halike', hothers', hlaunch'⟩ :=
    launch_failed_simulated (h.active.trans ha) hc hd transfers fails'
  have hfails : (c'.bus.hardware.failNextLoad && decide (0 < c'.mapped ∨ c'.overlong data)) =
      (c.bus.hardware.failNextLoad && decide (0 < c.mapped ∨ c.overlong data)) := by
    simp only [h.loads, h.mapped, hlong]
  have hprepared : (c'.bus.hardware.prepared (c'.buffer data.buffer).length).view =
      (c.bus.hardware.prepared (c.buffer data.buffer).length).view := by
    rw [view_prepared, view_prepared, h.view]
  rw [hlaunch, hlaunch', hfails]
  refine Twins.peers ⟨⟨?_, view_failNextLoad hprepared _, ?_, h.orderly.of_eq rfl rfl rfl⟩, ?_⟩ 0 clear.mask
    (by decide)
  · obtain ⟨soc, bus, rfl⟩ := h.same
    exact ⟨soc, _, rfl⟩
  · exact (halike'.1.trans h.size).trans halike.1.symm
  · intro id hid
    have hid' : id ≠ c'.bounce := by rwa [h.bounce]
    exact ((hothers' id hid').trans (h.contents id hid)).trans (hothers id hid).symm

theorem ordered_arrived (arrived : c.bus.hardware.view.Arrived) {buffer : BufferId}
    (current : (c.current?.bind fun command => command.data.map (·.buffer)) = some buffer)
    (there : buffer < c.bus.memory.buffers.size) {s : Simulator} (soc : s.soc = c.board.soc)
    (id : BufferId) :
    c.ordered.get id = if id = buffer then s.inMemory (c.buffer id) else c.buffer id := by
  rw [ordered, unordered?, if_pos arrived, current, Option.elim_some]
  split
  · next h =>
    rw [h]
    exact restored_get soc there
  · next h =>
    unfold Memory.restored
    split
    · rw [Memory.get_set, if_neg fun hid => h hid.1.symm]
      rfl
    · rfl

theorem empty_of_arrived {data : Payload BufferId} (hd : command.data = some data)
    (isRead : data.flags.isRead = true) (words : (c.buffer data.buffer).length % 4 = 0)
    (short : (c.buffer data.buffer).length < 65536) {armed t u : Simulator} {word : UInt32}
    {goesOn : Bool} (arms : armed.Arms (c.armedView command) command.argument)
    (responds : armed.Responds word goesOn t)
    (fetches : t.Fetches (c.buffer data.buffer).length goesOn u none)
    (clean : anyBit u.latched Status.errors = false)
    (ended : u.register Register.receiveCount = 0) : c.buffer data.buffer = [] := by
  cases fetches with
  | failed error card =>
    rw [Simulator.latch, anyBit_or, show anyBit Status.dataTimeout Status.errors = true from rfl,
      Bool.or_true] at clean
    cases clean
  | nothing =>
    obtain ⟨latched, injected, card, registers, rfl, hregisters⟩ := responds.frame
    have hcount : armed.register Register.receiveCount =
        UInt32.ofNat ((c.buffer data.buffer).length / 4) := by
      have hview := congrArg View.receiveCount arms.view
      simp only [Controller.armedView, hd, isRead, if_true] at hview
      exact hview
    have hzero : UInt32.ofNat ((c.buffer data.buffer).length / 4) = 0 := by
      rw [← hcount, ← hregisters _ (by decide)]
      exact ended
    have hwords := toNat_words (Nat.le_trans (Nat.le_of_lt short) (by decide))
    rw [hzero] at hwords
    apply List.eq_nil_of_length_eq_zero
    rw [UInt32.toNat_zero] at hwords
    omega

theorem ordered_read {data : Payload BufferId} (soc : c.bus.hardware.soc = c.board.soc)
    (hc : a.current? = some command) (hd : command.data = some data)
    (there : data.buffer < c.bus.memory.buffers.size) {u : Simulator} {received : Option Bytes}
    (clean : received.isSome = true →
      anyBit u.latched Status.errors = false ∧ u.register Register.receiveCount = 0)
    (empty : received = none → anyBit u.latched Status.errors = false →
      u.register Register.receiveCount = 0 → c.buffer data.buffer = [])
    (mapping : Option Mapping) (id : BufferId) :
    (c.proceed ⟨{ u with mask := Stage.receiving.mask },
        received.elim c.bus.memory fun bytes =>
          c.bus.memory.set data.buffer (c.bus.hardware.inMemory bytes), mapping⟩ 1
      (a.replace (restaged command))).ordered.get id =
        if id = data.buffer then received.getD (c.buffer id) else c.buffer id := by
  generalize hlaunched : c.proceed ⟨{ u with mask := Stage.receiving.mask }, _, mapping⟩ 1
    (a.replace (restaged command)) = launched
  have hcurrent : (launched.current?.bind fun command => command.data.map (·.buffer)) =
      some data.buffer := by
    rw [← hlaunched]
    simp only [proceed, current?, Option.bind_some, Active.current?_replace hc, restaged, hd,
      Option.map_some]
  have hsoc : c.bus.hardware.soc = launched.board.soc := by rw [soc, ← hlaunched]; rfl
  have harrived : launched.bus.hardware.view.Arrived ↔ anyBit u.latched Status.errors = false ∧
      u.register Register.receiveCount = 0 := by
    rw [← hlaunched]
    exact and_iff_right rfl
  cases received with
  | none =>
    have hbuffer (id : BufferId) : launched.buffer id = c.buffer id := by rw [← hlaunched]; rfl
    have hthere : data.buffer < launched.bus.memory.buffers.size := by rw [← hlaunched]; exact there
    rw [Option.getD_none, ite_self]
    by_cases arrived : launched.bus.hardware.view.Arrived
    · obtain ⟨hclean, hended⟩ := harrived.mp arrived
      have hempty := empty rfl hclean hended
      rw [ordered_arrived arrived hcurrent hthere hsoc, hbuffer]
      split
      · next h =>
        rw [h, hempty, inMemory]
        split <;> rfl
      · rfl
    · rw [ordered_waiting arrived]
      exact hbuffer id
  | some bytes =>
    have hbuffer : launched.buffer id =
        if id = data.buffer then c.bus.hardware.inMemory bytes else c.buffer id := by
      rw [← hlaunched]
      change (c.bus.memory.set data.buffer (c.bus.hardware.inMemory bytes)).get id = _
      rw [Memory.get_set]
      by_cases h : id = data.buffer
      · rw [if_pos h, if_pos ⟨h.symm, there⟩]
      · rw [if_neg h, if_neg fun hid => h hid.1.symm]
        rfl
    have hthere : data.buffer < launched.bus.memory.buffers.size := by
      rw [← hlaunched]
      exact Nat.lt_of_lt_of_eq there (Array.size_setIfInBounds ..).symm
    rw [ordered_arrived (harrived.mpr (clean rfl)) hcurrent hthere hsoc, hbuffer, Option.getD_some]
    split
    -- the channel has stored the words in the order that the handler undoes
    · exact inMemory_inMemory _ _
    · rfl

theorem Twins.launch_read (h : c.Twins c') (clear : c.Clear) (clear' : c'.Clear)
    {data : Payload BufferId} (ha : c.active = some a) (hc : a.current? = some command)
    (hd : command.data = some data) (isRead : data.flags.isRead = true)
    (portable : command.Portable mixed fun id => (c.buffer id).length) (apart : data.buffer ≠ c.bounce)
    (there : data.buffer < c.bus.memory.buffers.size) (free : c.mapped = 0)
    (loads : c.bus.hardware.failNextLoad = false) :
    (c.launch command).Peers (c'.launch command) := by
  have contents := h.contents
  have hview := h.armedView command fun data' hd' => by
    rw [hd] at hd'
    cases hd'
    exact apart
  have hlength := congrArg List.length (contents _ apart)
  have words := portable.words data hd
  have short := portable.short data hd
  obtain ⟨armed, arms, hlaunch⟩ := launch_reads (clear.launchable free loads) clear.mask ha hc hd isRead
    words short
  obtain ⟨armed', arms', hlaunch'⟩ := launch_reads
    (clear'.launchable (h.mapped.trans free) (h.loads.trans loads)) clear'.mask (h.active.trans ha) hc hd
    isRead (by rw [hlength]; exact words) (by rw [hlength]; exact short)
  rw [hview] at arms'
  rw [h.wireWord, hlength] at hlaunch'
  obtain ⟨goesOn, t, responds⟩ := armed.responds (c.wireWord command)
  obtain ⟨t', responds', same⟩ := arms.alike arms' responds
  obtain ⟨u, received, fetches, hlaunched⟩ := hlaunch goesOn t responds
  obtain ⟨u', received', fetches', hlaunched'⟩ := hlaunch' goesOn t' responds'
  -- The cards answer alike, so that the data phases begin on both chips or on neither, and end alike.
  obtain ⟨hu, rfl⟩ := fetches.alike fetches' same
  have clean (hr : received'.isSome = true) : anyBit u.latched Status.errors = false ∧
      u.register Register.receiveCount = 0 := by
    obtain ⟨bytes, rfl⟩ := Option.isSome_iff_exists.mp hr
    exact ⟨(orderly_armed h.orderly arms).fetches_clean responds fetches, fetches.ended⟩
  have empty (hr : received' = none) (hclean : anyBit u.latched Status.errors = false)
      (hended : u.register Register.receiveCount = 0) : c.buffer data.buffer = [] := by
    subst hr
    exact empty_of_arrived hd isRead words short arms responds fetches hclean hended
  have hlatched : u'.latched = u.latched := congrArg View.latched hu
  have hcount : u'.register Register.receiveCount = u.register Register.receiveCount :=
    congrArg View.receiveCount hu
  have size (m : Memory) (f : Bytes → Bytes) : (received'.elim m fun bytes =>
      m.set data.buffer (f bytes)).buffers.size = m.buffers.size := by
    cases received' with
    | none => rfl
    | some bytes => exact Array.size_setIfInBounds ..
  rw [hlaunched, hlaunched']
  refine ⟨⟨?_, view_mask hu _, ?_, ?_⟩, fun id hid => ?_, nofun⟩
  · obtain ⟨soc, bus, rfl⟩ := h.same
    exact ⟨soc, _, rfl⟩
  · exact (size _ _).trans (h.size.trans (size _ _).symm)
  · exact (((orderly_armed h.orderly arms).responds responds).fetches fetches).of_eq rfl rfl rfl
  · have hempty' : received' = none → anyBit u'.latched Status.errors = false →
        u'.register Register.receiveCount = 0 → c'.buffer data.buffer = [] := by
      rw [hlatched, hcount, contents _ apart]
      exact empty
    rw [ordered_read clear'.settled.soc hc hd (h.size ▸ there) (by rw [hlatched, hcount]; exact clean)
      hempty', ordered_read clear.settled.soc hc hd there clean empty, contents id hid]

theorem fetched_ne_zero (c : Controller Simulator) {source : Bytes} (words : source.length % 4 = 0)
    (short : source.length ≤ Staging.capacity) (nonempty : source.length ≠ 0) :
    UInt32.ofNat (c.fetched source / 4) ≠ 0 := by
  have hcovers : source.length ≤ c.fetched source := Staging.le_length _ _ _
  have hfits : c.fetched source ≤ Staging.capacity := Staging.length_le short _
  have hwords := toNat_words (Nat.le_trans hfits (by decide))
  intro hzero
  rw [hzero, UInt32.toNat_zero] at hwords
  omega

theorem waits_of_clean {data : Payload BufferId} (hd : command.data = some data)
    (isRead : data.flags.isRead = false) (isWrite : data.flags.isWrite = true)
    (portable : command.Portable mixed fun id => (c.buffer id).length) (unlike : mixed)
    {armed t : Simulator}
    (orderly : armed.Orderly) (responds : armed.Responds (c.wireWord command) false t)
    (clean : anyBit t.latched Status.errors = false) : (c.buffer data.buffer).length ≠ 0 := by
  intro hempty
  have transfers : command.transfers = true := by
    simp [Command.transfers, hd, DataFlags.transfers, isWrite]
  obtain ⟨present, other⟩ := portable.ends unlike data hd isRead hempty transfers
  have faulty := orderly.responds_faulty responds ((c.wireWord_responseKind command).trans present)
    (c.wireWord_starts command transfers other)
  cases faulty.symm.trans clean

theorem Twins.launch_write (h : c.Twins c') (clear : c.Clear) (clear' : c'.Clear)
    {data : Payload BufferId} (ha : c.active = some a) (hc : a.current? = some command)
    (hd : command.data = some data) (isRead : data.flags.isRead = false)
    (isWrite : data.flags.isWrite = true)
    (portable : command.Portable (c.board.soc.Unlike c'.board.soc) fun id => (c.buffer id).length)
    (apart : data.buffer ≠ c.bounce) (free : c.mapped = 0) (fits : ¬ c.overlong data)
    (loads : c.bus.hardware.failNextLoad = false) :
    (c.launch command).Peers (c'.launch command) := by
  have contents := h.contents
  have hview := h.armedView command fun data' hd' => by
    rw [hd] at hd'
    cases hd'
    exact apart
  have words := portable.words data hd
  have short : (c.buffer data.buffer).length ≤ Staging.capacity := by
    rw [overlong_iff clear.settled.bounce] at fits
    exact Nat.le_of_not_lt fun long => fits ⟨isRead, long⟩
  obtain ⟨armed, arms, hlaunch⟩ := launch_writes (clear.launchable free loads) clear.mask
    clear.settled.soc clear.settled.bounce ha hc hd isRead isWrite words short
  obtain ⟨armed', arms', hlaunch'⟩ := launch_writes
    (clear'.launchable (h.mapped.trans free) (h.loads.trans loads)) clear'.mask clear'.settled.soc
    clear'.settled.bounce (h.active.trans ha) hc hd isRead isWrite
    (by rw [contents _ apart]; exact words) (by rw [contents _ apart]; exact short)
  rw [hview] at arms'
  rw [h.wireWord, contents _ apart] at hlaunch'
  obtain ⟨goesOn, t, responds⟩ := armed.responds (c.wireWord command)
  obtain ⟨t', responds', same⟩ := arms.alike arms' responds
  obtain ⟨hcount, u, sends, hlaunched⟩ := hlaunch goesOn t responds
  obtain ⟨hcount', u', sends', hlaunched'⟩ := hlaunch' goesOn t' responds'
  have hu := sends.alike sends' same
  have orderly := orderly_armed h.orderly arms
  rw [hlaunched, hlaunched']
  refine ⟨⟨?_, view_mask hu _, ?_, ?_⟩, fun id hid => ?_, fun _ clean => ?_⟩
  · obtain ⟨soc, bus, rfl⟩ := h.same
    exact ⟨soc, _, rfl⟩
  · exact (Array.size_setIfInBounds ..).trans (h.size.trans (Array.size_setIfInBounds ..).symm)
  · exact ((orderly.responds responds).sends sends).of_eq rfl rfl rfl
  · have hid' : id ≠ c'.bounce := by rwa [h.bounce]
    have hkept := Memory.get_set c.bus.memory c.bounce id (c.bounced (c.buffer data.buffer))
    have hkept' := Memory.get_set c'.bus.memory c'.bounce id (c'.bounced (c.buffer data.buffer))
    rw [if_neg fun hb => hid hb.1.symm] at hkept
    rw [if_neg fun hb => hid' hb.1.symm] at hkept'
    rw [ordered_of_mask (show Stage.sending.mask ≠ Stage.receiving.mask by decide),
      ordered_of_mask (show Stage.sending.mask ≠ Stage.receiving.mask by decide)]
    exact hkept'.trans ((contents id hid).trans hkept.symm)
  · change u'.register Register.transmitCount = 0 ↔ u.register Register.transmitCount = 0
    have hlatched : u'.latched = u.latched := congrArg View.latched hu
    cases goesOn with
    | true =>
      have clean' : anyBit u'.latched Status.errors = false := hlatched ▸ clean
      exact iff_of_true (sends'.ended clean') (sends.ended clean)
    | false =>
      -- the channels may have different lengths to fetch, as long as neither has nothing
      have clean : anyBit t.latched Status.errors = false := sends.waits.1 ▸ clean
      rw [sends.waits.2, sends'.waits.2, hcount, hcount']
      by_cases hpads : c'.board.soc.secondRevision = c.board.soc.secondRevision
      · rw [fetched, fetched, hpads]
      · have nonempty := waits_of_clean hd isRead isWrite portable hpads orderly responds clean
        exact iff_of_false (c'.fetched_ne_zero words short nonempty)
          (c.fetched_ne_zero words short nonempty)

theorem Twins.launch (h : c.Twins c') (clear : c.Clear) (clear' : c'.Clear) (ha : c.active = some a)
    (hc : a.current? = some command)
    (portable : command.Portable (c.board.soc.Unlike c'.board.soc) fun id => (c.buffer id).length)
    (own : ∀ data, command.data = some data →
      data.buffer ≠ c.bounce ∧ data.buffer < c.bus.memory.buffers.size) :
    (c.launch command).Peers (c'.launch command) := by
  cases hd : command.data with
  | none =>
    have quiet : command.transfers = false := by rw [Command.transfers, hd]; rfl
    exact h.launch_quiet clear clear' quiet fun data hdata => (own data hdata).1
  | some data =>
    obtain ⟨apart, there⟩ := own data hd
    cases transfers : data.flags.transfers with
    | false =>
      refine h.launch_quiet clear clear' ?_ fun data hdata => (own data hdata).1
      rw [Command.transfers, hd]
      exact transfers
    | true =>
      -- a padded write is no longer than the bounce buffer if the write itself is not
      by_cases reason : (0 < c.mapped ∨ c.overlong data) ∨ c.bus.hardware.failNextLoad = true
      · exact h.launch_refused clear clear' ha hc hd transfers apart reason
      · simp only [not_or, Nat.pos_iff_ne_zero, Decidable.not_not, Bool.not_eq_true] at reason
        obtain ⟨⟨free, fits⟩, loads⟩ := reason
        cases isRead : data.flags.isRead with
        | true => exact h.launch_read clear clear' ha hc hd isRead portable apart there free loads
        | false =>
          have isWrite : data.flags.isWrite = true := by
            rwa [DataFlags.transfers, isRead, Bool.false_or] at transfers
          exact h.launch_write clear clear' ha hc hd isRead isWrite portable apart free fits loads

end Controller

end CardHost
