import CardHost.Proofs.Accounts
/-!
What clients have done with their handles, which capabilities were shown to them last, and what surrounds the
hardware. A controller looks at none of it, so that what it does for one guise, and on one face of the hardware,
is what it does for every other.
-/
namespace CardHost

inductive Mark where
  | taken
  | dropped

def Mark.ticket : Mark → Ticket
  | taken => .spent
  | dropped => .dropped

structure Guise where
  mark? : Nat → Option Mark := fun _ => none
  capabilities? : Option Capabilities := none

namespace Guise

def ticket (g : Guise) (n : Nat) (ticket : Ticket) : Ticket := (g.mark? n).elim ticket Mark.ticket

def tickets (g : Guise) (tickets : Array Ticket) : Array Ticket := tickets.mapIdx g.ticket

def marked (g : Guise) (n : Nat) (mark : Mark) : Guise :=
  { g with mark? := fun m => if n = m then some mark else g.mark? m }

@[simp] theorem size_tickets (g : Guise) (tickets : Array Ticket) :
    (g.tickets tickets).size = tickets.size := Array.size_mapIdx

theorem getElem?_tickets (g : Guise) (tickets : Array Ticket) (n : Nat) :
    (g.tickets tickets)[n]? = tickets[n]?.map (g.ticket n) := Array.getElem?_mapIdx

theorem delivered_tickets (g : Guise) (tickets : Array Ticket) (a : Active) :
    delivered (g.tickets tickets) a = g.tickets (delivered tickets a) := by
  apply Array.ext_getElem?
  intro n
  simp only [delivered, Array.getElem?_modify, getElem?_tickets]
  by_cases hn : a.ticket = n
  · rw [if_pos hn, if_pos hn, Option.map_map, Option.map_map]
    refine congrArg (tickets[n]?.map ·) (funext fun ticket => ?_)
    simp only [Function.comp, Guise.ticket]
    rcases g.mark? n with _ | _ | _ <;> rfl
  · rw [if_neg hn, if_neg hn]

theorem tickets_push (g : Guise) (tickets : Array Ticket) (new : g.mark? tickets.size = none)
    (ticket : Ticket) : g.tickets (tickets.push ticket) = (g.tickets tickets).push ticket := by
  rw [Guise.tickets, Array.mapIdx_push, Guise.ticket, new]
  rfl

theorem mark?_marked (g : Guise) (n m : Nat) (mark : Mark) :
    (g.marked n mark).mark? m = if n = m then some mark else g.mark? m := rfl

theorem ticket_marked (g : Guise) (n : Nat) (mark : Mark) (ticket : Ticket) :
    (g.marked n mark).ticket n ticket = mark.ticket := by
  rw [Guise.ticket, mark?_marked, if_pos rfl]
  rfl

theorem ticket_marked_other (g : Guise) {n m : Nat} (hm : n ≠ m) (mark : Mark) :
    (g.marked n mark).ticket m = g.ticket m := by
  funext ticket
  rw [Guise.ticket, mark?_marked, if_neg hm]
  rfl

theorem tickets_marked (g : Guise) (tickets : Array Ticket) (n : Nat) (mark : Mark) :
    (g.marked n mark).tickets tickets = (g.tickets tickets).setIfInBounds n mark.ticket := by
  apply Array.ext_getElem?
  intro m
  rw [getElem?_tickets, Array.getElem?_setIfInBounds, getElem?_tickets, size_tickets]
  by_cases hm : n = m
  · subst hm
    rw [if_pos rfl]
    by_cases hn : n < tickets.size
    · rw [if_pos hn, Array.getElem?_eq_getElem hn, Option.map_some, ticket_marked]
    · rw [if_neg hn, Array.getElem?_eq_none (Nat.le_of_not_lt hn)]
      rfl
  · rw [if_neg hm, ticket_marked_other g hm]

@[simp] theorem tickets_none (tickets : Array Ticket) : ({} : Guise).tickets tickets = tickets := by
  apply Array.ext_getElem?
  intro n
  rw [getElem?_tickets]
  exact Option.map_id'

end Guise

/-- A face of hardware that lets everything through but commands and mappings. -/
class Face {H K : Type} [Hardware H] [Hardware K] (e : H → K) : Prop where
  read : ∀ h offset,
    Hardware.read (e h) offset = ((Hardware.read h offset).1, e (Hardware.read h offset).2)
  write : ∀ h mapped offset value, offset ≠ Register.command →
    Hardware.write (e h) mapped offset value =
      (e (Hardware.write h mapped offset value).1, (Hardware.write h mapped offset value).2)
  sync : ∀ h point, Hardware.sync (e h) point = e (Hardware.sync h point)
  unload : ∀ h, Hardware.unload (e h) = e (Hardware.unload h)

/-- A face that lets mappings through as well. -/
class MappingFace {H K : Type} [Hardware H] [Hardware K] (e : H → K) : Prop extends Face e where
  load : ∀ h loaded bytes direction,
    Hardware.load (e h) loaded bytes direction =
      ((Hardware.load h loaded bytes direction).1, e (Hardware.load h loaded bytes direction).2)

class WholeFace {H K : Type} [Hardware H] [Hardware K] (e : H → K) : Prop extends MappingFace e where
  issue : ∀ h mapped value,
    Hardware.write (e h) mapped Register.command value =
      (e (Hardware.write h mapped Register.command value).1,
        (Hardware.write h mapped Register.command value).2)

instance {H : Type} [Hardware H] : WholeFace (id : H → H) where
  read _ _ := rfl
  write _ _ _ _ _ := rfl
  sync _ _ := rfl
  unload _ := rfl
  load _ _ _ _ := rfl
  issue _ _ _ := rfl

namespace Bus

variable {H K : Type}

def behind (b : Bus H) (e : H → K) : Bus K := ⟨e b.hardware, b.memory, b.mapping⟩

variable [Hardware H] [Hardware K] (b : Bus H) (e : H → K)

theorem read_behind [Face e] (offset : Nat) :
    (b.behind e).read offset = ((b.read offset).1, (b.read offset).2.behind e) := by
  simp only [read, behind, Face.read]

omit [Hardware H] in
theorem write_behind_of {L : Type} [Hardware L] {b : Bus H} {e : H → K} {f : H → L} {g : L → K}
    {offset : Nat} {value : UInt32}
    (passes : Hardware.write (e b.hardware) b.mapped offset value =
      (g (Hardware.write (f b.hardware) b.mapped offset value).1,
        (Hardware.write (f b.hardware) b.mapped offset value).2)) :
    (b.behind e).write offset value = ((b.behind f).write offset value).behind g := by
  have hmapped : (b.behind e).mapped = b.mapped := rfl
  have hmapped' : (b.behind f).mapped = b.mapped := rfl
  simp only [write, hmapped, hmapped']
  rw [show (b.behind e).hardware = e b.hardware from rfl, passes,
    show (b.behind f).hardware = f b.hardware from rfl]
  rcases Hardware.write (f b.hardware) b.mapped offset value with ⟨hardware, _ | bytes⟩
  · rfl
  · cases hm : b.mapping <;> simp only [Option.bind_some, fill, behind, hm, Option.map_none, Option.map_some]

theorem write_behind [Face e] {offset : Nat} (other : offset ≠ Register.command) (value : UInt32) :
    (b.behind e).write offset value = (b.write offset value).behind e :=
  write_behind_of (f := id) (Face.write _ _ _ _ other)

theorem issue_behind [WholeFace e] (value : UInt32) :
    (b.behind e).write Register.command value = (b.write Register.command value).behind e :=
  write_behind_of (f := id) (WholeFace.issue _ _ _)

theorem writeAll_behind [Face e] {l : List (Nat × UInt32)}
    (others : l.all (fun w => w.1 != Register.command) = true) :
    (b.behind e).writeAll l = (b.writeAll l).behind e := by
  induction l generalizing b with
  | nil => rfl
  | cons w rest ih =>
    obtain ⟨other, hrest⟩ := Bool.and_eq_true_iff.mp others
    change ((b.behind e).write w.1 w.2).writeAll rest = _
    rw [b.write_behind e (bne_iff_ne.mp other), ih _ hrest]
    rfl

theorem sync_behind [Face e] (point : SyncPoint) : (b.behind e).sync point = (b.sync point).behind e := by
  simp only [sync, behind, Face.sync]

theorem unload_behind [Face e] : (b.behind e).unload = b.unload.behind e := by
  simp only [unload, behind, Face.unload]

omit [Hardware H] in
theorem load_behind_of {L : Type} [Hardware L] {b : Bus H} {e : H → K} {f : H → L} {g : L → K}
    {direction : Direction}
    (passes : ∀ loaded bytes, Hardware.load (e b.hardware) loaded bytes direction =
      ((Hardware.load (f b.hardware) loaded bytes direction).1,
        g (Hardware.load (f b.hardware) loaded bytes direction).2))
    (buffer : BufferId) (length : Nat) :
    (b.behind e).load buffer length direction =
      (((b.behind f).load buffer length direction).1,
        ((b.behind f).load buffer length direction).2.behind g) := by
  simp only [load, behind, passes]
  rcases Hardware.load (f b.hardware) b.mapping.isSome ((b.memory.get buffer).take length) direction
    with ⟨_ | _, _⟩ <;> rfl

theorem load_behind [MappingFace e] (buffer : BufferId) (length : Nat) (direction : Direction) :
    (b.behind e).load buffer length direction =
      ((b.load buffer length direction).1, (b.load buffer length direction).2.behind e) :=
  load_behind_of (f := id) (fun _ _ => MappingFace.load _ _ _ _) buffer length

end Bus

namespace Controller

variable {H K : Type}

def behind (c : Controller H) (e : H → K) : Controller K := { c with bus := c.bus.behind e }

def under (c : Controller H) (g : Guise) : Controller H :=
  { c with
    tickets := g.tickets c.tickets
    host := { c.host with capabilities := g.capabilities?.getD c.host.capabilities } }

@[simp] theorem under_none (c : Controller H) : c.under {} = c := by
  rw [under, Guise.tickets_none]
  rfl

def shown (c : Controller H) (e : H → K) (g : Guise) : Controller K := (c.behind e).under g

def Final (c : Controller H) : Prop := c.active.bind (·.pending?) = none

theorem Final.modifyCurrent {c : Controller H} (h : c.Final) (f : Command BufferId → Command BufferId) :
    (c.modifyCurrent f).Final := by
  cases ha : c.active with
  | none =>
    rw [Final, Controller.modifyCurrent, ha]
    rfl
  | some a =>
    rw [Final, ha, Option.bind_some] at h
    rw [Final, Controller.modifyCurrent, ha]
    obtain ⟨ticket, request, phase⟩ := a
    cases phase with
    | command => exact h
    | stop => rfl

variable [Hardware H] [Hardware K]

theorem Final.readResponse {c : Controller H} (h : c.Final) (i n : Nat) : (c.readResponse i n).Final := by
  induction n generalizing c i with
  | zero => exact h
  | succ n ih =>
    have hread : (c.read (Register.response + 4 * i)).2.Final := h
    exact ih (hread.modifyCurrent _) (i + 1)

omit [Hardware H] in
theorem Final.accountMoved {c : Controller H} (h : c.Final) (command : Command BufferId) :
    (c.accountMoved command).Final := by
  unfold Controller.accountMoved
  split
  · exact h
  · exact h.modifyCurrent _

theorem Final.unload {c : Controller H} (h : c.Final) : c.unload.Final := by
  unfold Controller.unload
  split <;> exact h

theorem Final.writeAll {c : Controller H} (h : c.Final) (l : List (Nat × UInt32)) : (c.writeAll l).Final := by
  rw [writeAll_eq]
  exact h

omit [Hardware H] in
theorem Final.restoreOrder {c : Controller H} (h : c.Final) (command : Command BufferId) :
    (c.restoreOrder command).Final := by
  unfold Controller.restoreOrder
  split
  · exact h
  · split <;> exact h

omit [Hardware H] in
theorem Final.ite {c c' : Controller H} (h : c.Final) (h' : c'.Final) (p : Bool) :
    (if p then c else c').Final := by
  cases p
  · exact h'
  · exact h

theorem Final.serveTransfer {c : Controller H} (h : c.Final) (command : Command BufferId)
    (status : UInt32) : (c.serveTransfer command status).Final := by
  have sent {c : Controller H} (h : c.Final) : (c.serveSent command).Final := by
    have hwrites : ((c.writeAll [(Register.channelControl, Channel.stop),
      (Register.disable, Status.transmitEmpty), (Register.enable, Status.notBusy)]).sync
        .afterWrite).Final := h.writeAll _
    exact hwrites.unload.accountMoved command
  have received {c : Controller H} (h : c.Final) : (c.serveReceived command).Final := by
    have hsync : (c.sync .afterRead).Final := h
    exact ((hsync.unload.restoreOrder command).accountMoved command).writeAll _
  have h₁ := (sent h).ite h (anyBit status Status.transmitEmpty)
  have h₂ := (h₁.writeAll [(Register.disable, Status.receiveFull),
    (Register.enable, Status.commandReady)]).ite h₁ (anyBit status Status.receiveFull)
  have h₃ := (received h₂).ite h₂ (anyBit status Status.endReceive)
  exact (h₃.writeAll _).ite h₃ (anyBit status Status.notBusy)

variable (c : Controller H) (e : H → K) (g : Guise)

@[simp] theorem read_shown [Face e] (offset : Nat) :
    (c.shown e g).read offset = ((c.read offset).1, (c.read offset).2.shown e g) := by
  have hread := c.bus.read_behind e offset
  rw [read, show (c.shown e g).bus = c.bus.behind e from rfl, hread]
  rfl

@[simp] theorem write_shown [Face e] {offset : Nat} (other : offset ≠ Register.command)
    (value : UInt32) : (c.shown e g).write offset value = (c.write offset value).shown e g := by
  have hwrite := c.bus.write_behind e other value
  rw [write, show (c.shown e g).bus = c.bus.behind e from rfl, hwrite]
  rfl

theorem writeAll_shown [Face e] {l : List (Nat × UInt32)}
    (others : l.all (fun w => w.1 != Register.command) = true) :
    (c.shown e g).writeAll l = (c.writeAll l).shown e g := by
  have hwrites := c.bus.writeAll_behind e others
  rw [writeAll_eq, writeAll_eq, show (c.shown e g).bus = c.bus.behind e from rfl, hwrites]
  rfl

theorem issueAll_shown [WholeFace e] (l : List (Nat × UInt32)) :
    (c.shown e g).writeAll l = (c.writeAll l).shown e g := by
  induction l generalizing c with
  | nil => rfl
  | cons w rest ih =>
    have hwrite : (c.shown e g).write w.1 w.2 = (c.write w.1 w.2).shown e g := by
      by_cases issues : w.1 = Register.command
      · have hissue := c.bus.issue_behind e w.2
        rw [issues, write, show (c.shown e g).bus = c.bus.behind e from rfl, hissue]
        rfl
      · exact c.write_shown e g issues w.2
    change ((c.shown e g).write w.1 w.2).writeAll rest = _
    rw [hwrite, ih]
    rfl

@[simp] theorem sync_shown [Face e] (point : SyncPoint) :
    (c.shown e g).sync point = (c.sync point).shown e g := by
  have hsync := c.bus.sync_behind e point
  rw [sync, show (c.shown e g).bus = c.bus.behind e from rfl, hsync]
  rfl

@[simp] theorem load_shown [MappingFace e] (buffer : BufferId) (length : Nat) (direction : Direction) :
    (c.shown e g).load buffer length direction =
      ((c.load buffer length direction).1, (c.load buffer length direction).2.shown e g) := by
  have hload := c.bus.load_behind e buffer length direction
  rw [load_eq, load_eq]
  by_cases hm : 0 < c.mapped
  · rw [if_pos hm]
    exact if_pos hm
  · rw [if_neg hm, show (c.shown e g).bus = c.bus.behind e from rfl, hload]
    exact if_neg hm

@[simp] theorem unload_shown [Face e] : (c.shown e g).unload = c.unload.shown e g := by
  have hunload := c.bus.unload_behind e
  unfold unload
  by_cases hm : c.mapped = 0
  · rw [if_pos hm]
    exact if_pos hm
  · rw [if_neg hm, show (c.shown e g).bus = c.bus.behind e from rfl, hunload]
    exact if_neg hm

omit [Hardware H] [Hardware K] in
@[simp] theorem modifyCurrent_shown (f : Command BufferId → Command BufferId) :
    (c.shown e g).modifyCurrent f = (c.modifyCurrent f).shown e g := rfl

omit [Hardware H] [Hardware K] in
@[simp] theorem setBuffer_shown (id : BufferId) (bytes : Bytes) :
    (c.shown e g).setBuffer id bytes = (c.setBuffer id bytes).shown e g := rfl

omit [Hardware H] [Hardware K] in
@[simp] theorem buffer_shown (id : BufferId) : (c.shown e g).buffer id = c.buffer id := rfl

omit [Hardware H] [Hardware K] in
@[simp] theorem finish_shown : (c.shown e g).finish = c.finish.shown e g := by
  cases ha : c.active with
  | none =>
    have hf : c.finish = c := by simp only [finish, ha]
    have hf' : (c.shown e g).finish = c.shown e g := by simp only [finish, shown, under, behind, ha]
    rw [hf, hf']
  | some a =>
    rw [finish_eq ha, finish_eq (c := c.shown e g) ha]
    exact congrArg (fun tickets => { c.shown e g with tickets, active := none })
      (g.delivered_tickets c.tickets a)

@[simp] theorem prepareData_shown [Face e] (length : Nat) :
    (c.shown e g).prepareData length = (c.prepareData length).shown e g := by
  rw [prepareData, read_shown]
  exact writeAll_shown _ e g rfl

@[simp] theorem mapData_shown [MappingFace e] (data : Payload BufferId) :
    (c.shown e g).mapData data = ((c.mapData data).1, (c.mapData data).2.shown e g) := by
  have hboard : (c.shown e g).board = c.board := rfl
  have hbounce : (c.shown e g).bounce = c.bounce := rfl
  simp only [mapData, buffer_shown, load_shown, setBuffer_shown, hboard, hbounce]
  split
  · rcases c.load data.buffer (c.buffer data.buffer).length .fromCard with ⟨_ | _, _⟩ <;> rfl
  · split
    · rfl
    · rcases (c.setBuffer c.bounce _).load c.bounce _ .toCard with ⟨_ | _, _⟩ <;> rfl

theorem launch_shown [WholeFace e] (command : Command BufferId) :
    (c.shown e g).launch command = (c.launch command).shown e g := by
  have hmode : (c.shown e g).host.bus.mode = c.host.bus.mode := rfl
  simp only [launch, hmode, buffer_shown, prepareData_shown, modifyCurrent_shown, mapData_shown]
  split
  · simp only [issuePlain, issueAll_shown]
  · next data _ =>
    split
    · generalize ((c.prepareData (c.buffer data.buffer).length).modifyCurrent _).mapData data = r
      rcases r with ⟨_ | ⟨address, length⟩, c'⟩
      · simp only [modifyCurrent_shown, finish_shown]
      · simp only [issueRead, issueWrite, sync_shown, issueAll_shown]
        split <;> rfl
    · simp only [issueIdle, issueAll_shown]

theorem advance_shown [Face e] (passes : WholeFace e ∨ c.Final) :
    (c.shown e g).advance = c.advance.shown e g := by
  cases ha : c.active with
  | none =>
    have hf : c.advance = c := by simp only [advance, ha]
    have hf' : (c.shown e g).advance = c.shown e g := by simp only [advance, shown, under, behind, ha]
    rw [hf, hf']
  | some a =>
    rw [advance_eq ha, advance_eq (c := c.shown e g) ha]
    cases hp : a.pending? with
    | none =>
      exact congrArg (fun tickets => { c.shown e g with tickets, active := none })
        (g.delivered_tickets c.tickets a)
    | some stop =>
      rcases passes with whole | final
      · exact launch_shown { c with active := some { a with phase := .stop } } e g stop
      · rw [Final, ha, Option.bind_some, hp] at final
        cases final

@[simp] theorem readResponse_shown [Face e] (i k : Nat) :
    (c.shown e g).readResponse i k = (c.readResponse i k).shown e g := by
  induction k generalizing c i with
  | zero => rfl
  | succ k ih => simp only [readResponse, read_shown, modifyCurrent_shown, ih]

theorem conclude_shown [Face e] (passes : WholeFace e ∨ c.Final) (command : Command BufferId)
    (error : Option CommandError) :
    (c.shown e g).conclude command error = (c.conclude command error).shown e g := by
  have hmasked := fun c : Controller H => c.write_shown e g (show Register.disable ≠ Register.command by decide)
    Status.all
  simp only [conclude, modifyCurrent_shown, hmasked, readResponse_shown]
  refine advance_shown _ e g (passes.imp_right fun final => ?_)
  have hmarked : ((c.modifyCurrent fun cmd => { cmd with error }).write Register.disable
    Status.all).Final := final.modifyCurrent _
  exact hmarked.readResponse 0 command.flags.words

omit [Hardware H] [Hardware K] in
@[simp] theorem accountMoved_shown (command : Command BufferId) :
    (c.shown e g).accountMoved command = (c.accountMoved command).shown e g := by
  simp only [accountMoved, buffer_shown, modifyCurrent_shown]
  split <;> rfl

omit [Hardware H] [Hardware K] in
@[simp] theorem restoreOrder_shown (command : Command BufferId) :
    (c.shown e g).restoreOrder command = (c.restoreOrder command).shown e g := by
  have hboard : (c.shown e g).board = c.board := rfl
  simp only [restoreOrder, hboard, buffer_shown, setBuffer_shown]
  split
  · rfl
  · split <;> rfl

omit [Hardware H] [Hardware K] in
theorem if_shown (p : Bool) (c' : Controller H) :
    (if p then c.shown e g else c'.shown e g) = (if p then c else c').shown e g := by
  cases p <;> rfl

@[simp] theorem serveSent_shown [Face e] (command : Command BufferId) :
    (c.shown e g).serveSent command = (c.serveSent command).shown e g := by
  rw [serveSent, writeAll_shown, sync_shown, unload_shown, accountMoved_shown]
  · rfl
  · rfl

@[simp] theorem serveFull_shown [Face e] : (c.shown e g).serveFull = c.serveFull.shown e g :=
  c.writeAll_shown e g rfl

@[simp] theorem serveReceived_shown [Face e] (command : Command BufferId) :
    (c.shown e g).serveReceived command = (c.serveReceived command).shown e g := by
  rw [serveReceived, sync_shown, unload_shown, restoreOrder_shown, accountMoved_shown]
  exact writeAll_shown _ e g rfl

@[simp] theorem serveIdleLine_shown [Face e] :
    (c.shown e g).serveIdleLine = c.serveIdleLine.shown e g :=
  c.writeAll_shown e g rfl

theorem serveTransfer_shown [Face e] (command : Command BufferId) (status : UInt32) :
    (c.shown e g).serveTransfer command status = (c.serveTransfer command status).shown e g := by
  simp only [serveTransfer, serveSent_shown, serveFull_shown, serveReceived_shown, serveIdleLine_shown,
    if_shown]

theorem serveError_shown [Face e] (passes : WholeFace e ∨ c.Final) (command : Command BufferId)
    (status : UInt32) :
    (c.shown e g).serveError command status = (c.serveError command status).shown e g := by
  simp only [serveError, unload_shown]
  split
  · exact conclude_shown _ e g (passes.imp_right Final.unload) command _
  · exact conclude_shown _ e g passes command none

theorem serveStages_shown [Face e] (passes : WholeFace e ∨ c.Final) (command : Command BufferId)
    (status : UInt32) :
    (c.shown e g).serveStages command status = (c.serveStages command status).shown e g := by
  have hconclude := (c.serveTransfer command status).conclude_shown e g
    (passes.imp_right (·.serveTransfer command status)) command none
  simp only [serveStages_eq, serveTransfer_shown, hconclude, if_shown]

theorem interrupt_shown [Face e] (passes : WholeFace e ∨ c.Final) :
    (c.shown e g).interrupt = c.interrupt.shown e g := by
  by_cases hd : c.detached = true
  · have hd' : (c.shown e g).detached = true := hd
    rw [interrupt, if_pos hd', interrupt, if_pos hd]
  · have hd' : ¬ (c.shown e g).detached = true := hd
    have hcur : ((c.read Register.status).2.read Register.mask).2.current? = c.current? := rfl
    have hcur' : (((c.read Register.status).2.read Register.mask).2.shown e g).current? = c.current? := rfl
    have hpasses : WholeFace e ∨ ((c.read Register.status).2.read Register.mask).2.Final := passes
    rw [interrupt, if_neg hd', interrupt, if_neg hd]
    simp only [serve, read_shown, hcur, hcur']
    generalize ((c.read Register.status).2.read Register.mask).2 = looked at hpasses ⊢
    cases c.current? with
    | none => exact looked.write_shown e g (by decide) Status.all
    | some command =>
      dsimp only
      split
      · exact looked.serveError_shown e g hpasses command _
      · exact looked.serveStages_shown e g hpasses command _

theorem submit_under (new : g.mark? c.tickets.size = none) (request : Request Bytes) :
    (c.under g).submit request = ((c.submit request).1, (c.submit request).2.under g) := by
  have hd : (c.under g).detached = c.detached := rfl
  have hb : (c.under g).busy = c.busy := rfl
  have hsize : (c.under g).tickets.size = c.tickets.size := g.size_tickets c.tickets
  have haccepted : (c.under g).accepted request = c.accepted request := by
    simp only [accepted, hsize]
    rfl
  have htake : (c.under g).take request = (c.take request).under g := by
    simp only [take, haccepted]
    exact congrArg (fun tickets => { c.under g with
      bus.memory := (c.bus.memory.place request).2, tickets, active := some (c.accepted request) })
      (g.tickets_push c.tickets new .waiting).symm
  have hlaunch := (c.take request).launch_shown id g (c.accepted request).request.command
  rw [submit_eq, submit_eq, hd, hb, hsize, htake, haccepted]
  split
  · rfl
  · split
    · rfl
    · exact congrArg (Prod.mk (Except.ok c.tickets.size)) hlaunch

theorem interrupt_under : (c.under g).interrupt = c.interrupt.under g :=
  c.interrupt_shown id g (.inl inferInstance)

end Controller

end CardHost
