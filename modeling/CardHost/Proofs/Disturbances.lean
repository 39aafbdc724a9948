import CardHost.Hardware.Disturbed
import CardHost.Proofs.Actions
import CardHost.Proofs.Faults
import CardHost.Proofs.Service
/-!
Disturbances that are planned, and come up while operations run. A request of one command meets at most one
of them, and fares as if that fault had been armed before it.
-/
namespace CardHost

/-- The commands that status bits take the place of, and the mappings that fail, each by its number. -/
structure Plan where
  faults : List (Nat × UInt32) := []
  refusals : List Nat := []

namespace Plan

def around (p : Plan) (issued loaded : Nat) (s : Simulator) : Disturbed :=
  { inner := s, issued, faults := p.faults, loaded, refusals := p.refusals }

def atCommand (p : Plan) (n : Nat) : Fault := (p.faults.lookup n).elim .none .status

def atMapping (p : Plan) (n : Nat) : Fault := if p.refusals.contains n then .refusal else .none

/-- A host can tell all that is planned from commands that went well. -/
def Sound (p : Plan) : Prop := ∀ fault ∈ p.faults, anyBit fault.2 Status.errors = true

variable (p : Plan) (issued loaded : Nat)

theorem Sound.atCommand {p : Plan} (h : p.Sound) (n : Nat) : (p.atCommand n).Shows := by
  unfold Plan.atCommand
  cases hl : p.faults.lookup n with
  | none => trivial
  | some bits =>
    obtain ⟨before, after, hfaults, -⟩ := List.lookup_eq_some_iff.mp hl
    refine h (n, bits) ?_
    rw [hfaults]
    exact List.mem_append_right _ (List.mem_cons_self ..)

instance : Face (p.around issued loaded) where
  read s offset := by
    have hread : (p.around issued loaded s).read offset = s.read offset := by
      unfold Disturbed.read
      split <;> rfl
    exact congrArg (·, p.around issued loaded s) hread
  write s mapped offset value other := by
    change Disturbed.write _ _ _ _ = _
    unfold Disturbed.write
    rw [if_neg other]
    rfl
  sync _ _ := rfl
  unload _ := rfl

theorem count_around (s : Simulator) :
    (p.around issued loaded s).count =
      p.around (issued + 1) loaded ((p.atCommand (issued + 1)).strike s) := by
  unfold Disturbed.count atCommand
  dsimp only [around]
  cases p.faults.lookup (issued + 1) <;> rfl

theorem countLoad_around (s : Simulator) :
    (p.around issued loaded s).countLoad =
      p.around issued (loaded + 1) ((p.atMapping (loaded + 1)).strike s) := by
  by_cases refused : p.refusals.contains (loaded + 1) = true
  · rw [atMapping, if_pos refused]
    exact if_pos refused
  · rw [atMapping, if_neg refused]
    exact if_neg refused

theorem issue_around (s : Simulator) (mapped : Option Bytes) (value : UInt32) :
    Hardware.write (p.around issued loaded s) mapped Register.command value =
      (p.around (issued + 1) loaded
        (Hardware.write ((p.atCommand (issued + 1)).strike s) mapped Register.command value).1,
        (Hardware.write ((p.atCommand (issued + 1)).strike s) mapped Register.command value).2) := by
  change Disturbed.write _ _ _ _ = _
  unfold Disturbed.write
  rw [if_pos rfl, count_around]
  rfl

theorem load_around (s : Simulator) (taken : Bool) (bytes : Bytes) (direction : Direction) :
    Hardware.load (p.around issued loaded s) taken bytes direction =
      ((Hardware.load ((p.atMapping (loaded + 1)).strike s) taken bytes direction).1,
        p.around issued (loaded + 1)
          (Hardware.load ((p.atMapping (loaded + 1)).strike s) taken bytes direction).2) := by
  have hload : Hardware.load (p.around issued loaded s) taken bytes direction =
      (((p.around issued loaded s).countLoad.inner.load taken bytes.length).1,
        { (p.around issued loaded s).countLoad with
          inner := ((p.around issued loaded s).countLoad.inner.load taken bytes.length).2 }) := rfl
  rw [hload, countLoad_around]
  rfl

instance (n : Nat) : MappingFace (p.atCommand n).strike := by
  apply Fault.mappingFace
  unfold atCommand
  cases p.faults.lookup n with
  | none => nofun
  | some bits => nofun

end Plan

namespace Controller

section Faces

variable {H K L : Type} [Hardware H] [Hardware K] [Hardware L] (c : Controller H)
  {e : H → K} {f : H → L} {g : L → K}

omit [Hardware H] [Hardware K] in
theorem shown_none : c.shown e {} = c.behind e := under_none _

theorem writeAll_behind [Face e] {l : List (Nat × UInt32)}
    (others : l.all (fun w => w.1 != Register.command) = true) :
    (c.behind e).writeAll l = (c.writeAll l).behind e := by
  have h := c.writeAll_shown e {} others
  rwa [shown_none, shown_none] at h

theorem sync_behind [Face e] (point : SyncPoint) :
    (c.behind e).sync point = (c.sync point).behind e := by
  have h := c.sync_shown e {} point
  rwa [shown_none, shown_none] at h

theorem staging_behind [Face e] (data : Payload BufferId) :
    (c.behind e).staging data = (c.staging data).behind e := by
  have h := c.prepareData_shown e {} (c.buffer data.buffer).length
  rw [shown_none, shown_none] at h
  exact congrArg (·.modifyCurrent fun cmd => { cmd with data := some { data with moved := 0 } }) h

theorem launch_transfer_behind [Face e] {command : Command BufferId} {data : Payload BufferId}
    (hd : command.data = some data) (transfers : data.flags.transfers = true) :
    (c.behind e).launch command =
      match ((c.staging data).behind e).mapData data with
      | (.error _, c) => (c.modifyCurrent fun cmd => { cmd with error := some .noMemory }).finish
      | (.ok (address, length), c') =>
        if data.flags.isRead then
          c'.issueRead address length command.argument (c.wireWord command)
        else c'.issueWrite address length command.argument (c.wireWord command) := by
  rw [launch_transfer hd transfers, staging_behind]
  rfl

omit [Hardware H] [Hardware K] in
theorem finish_behind : (c.behind e).finish = c.finish.behind e := by
  have h := c.finish_shown e {}
  rwa [shown_none, shown_none] at h

theorem writeAll_issuing [Face e] [Face f] [Face g]
    (issues : ∀ h mapped value, Hardware.write (e h) mapped Register.command value =
      (g (Hardware.write (f h) mapped Register.command value).1,
        (Hardware.write (f h) mapped Register.command value).2))
    (before after : List (Nat × UInt32)) (word : UInt32)
    (others : before.all (fun w => w.1 != Register.command) = true)
    (others' : after.all (fun w => w.1 != Register.command) = true) :
    (c.behind e).writeAll (before ++ (Register.command, word) :: after) =
      ((c.behind f).writeAll (before ++ (Register.command, word) :: after)).behind g := by
  have hbus : ((c.behind e).writeAll before).write Register.command word =
      ((((c.behind f).writeAll before).write Register.command word)).behind g := by
    rw [c.writeAll_behind others, c.writeAll_behind others]
    have hwrite := Bus.write_behind_of (b := (c.writeAll before).bus) (issues _ _ word)
    exact congrArg (fun bus => ({ c.writeAll before with bus } : Controller K)) hwrite
  have split {M : Type} [Hardware M] (x : Controller M) :
      x.writeAll (before ++ (Register.command, word) :: after) =
        ((x.writeAll before).write Register.command word).writeAll after := by
    unfold writeAll
    rw [List.foldl_append]
    rfl
  rw [split, split, hbus, writeAll_behind _ others']

omit [Hardware H] in
theorem mapData_behind_of
    (passes : ∀ h taken bytes direction, Hardware.load (e h) taken bytes direction =
      ((Hardware.load (f h) taken bytes direction).1, g (Hardware.load (f h) taken bytes direction).2))
    {data : Payload BufferId} (fits : ¬ (0 < c.mapped ∨ c.overlong data)) :
    (c.behind e).mapData data =
      (((c.behind f).mapData data).1, ((c.behind f).mapData data).2.behind g) := by
  obtain ⟨free, short⟩ := not_or.mp fits
  have hload (c : Controller H) (free : ¬ 0 < c.mapped) (buffer : BufferId) (length : Nat)
      (direction : Direction) : (c.behind e).load buffer length direction =
        (((c.behind f).load buffer length direction).1,
          ((c.behind f).load buffer length direction).2.behind g) := by
    have hbus := Bus.load_behind_of (b := c.bus) (fun taken bytes => passes _ taken bytes direction)
      buffer length
    have hbehind {M : Type} [Hardware M] (i : H → M) :=
      (load_eq (c.behind i) buffer length direction).trans (if_neg free)
    rw [hbehind e, hbehind f, show (c.behind e).bus = c.bus.behind e from rfl, hbus]
    rfl
  cases isRead : data.flags.isRead with
  | true =>
    have hbuffer {M : Type} (i : H → M) : (c.behind i).buffer data.buffer = c.buffer data.buffer := rfl
    rw [mapData_fromCard _ isRead, mapData_fromCard _ isRead, hbuffer e, hbuffer f, hload c free]
    rcases (c.behind f).load data.buffer _ .fromCard with ⟨_ | _, _⟩ <;> rfl
  | false =>
    cases hs : Staging.stage (c.buffer c.bounce) (c.buffer data.buffer) c.board.soc.secondRevision
      Staging.minLength c.board.soc.swapsBytes with
    | error e => exact absurd ⟨isRead, Staging.stage_error hs⟩ short
    | ok staged =>
      obtain ⟨length, bytes⟩ := staged
      have hbounce {M : Type} (i : H → M) : (c.behind i).bounce = c.bounce := rfl
      have hbounced {M : Type} (i : H → M) :
        (c.behind i).setBuffer c.bounce bytes = (c.setBuffer c.bounce bytes).behind i := rfl
      rw [mapData_toCard (c.behind e) isRead hs, mapData_toCard (c.behind f) isRead hs, hbounce e,
        hbounce f, hbounced e, hbounced f, hload (c.setBuffer c.bounce bytes) free]
      rcases ((c.setBuffer c.bounce bytes).behind f).load c.bounce length .toCard with ⟨_ | _, _⟩ <;> rfl

theorem issueRead_issuing [Face e] [Face f] [Face g]
    (issues : ∀ h mapped value, Hardware.write (e h) mapped Register.command value =
      (g (Hardware.write (f h) mapped Register.command value).1,
        (Hardware.write (f h) mapped Register.command value).2))
    (address : UInt32) (length : Nat) (argument word : UInt32) :
    (c.behind e).issueRead address length argument word =
      ((c.behind f).issueRead address length argument word).behind g := by
  unfold issueRead
  rw [sync_behind, sync_behind]
  exact writeAll_issuing (c.sync .beforeRead) issues
    [(Register.receivePointer, address), (Register.receiveCount, UInt32.ofNat (length / 4)),
      (Register.argument, argument), (Register.channelControl, Channel.receiveOn)]
    [(Register.enable, Status.errors ||| Status.endReceive)] word rfl rfl

theorem issueWrite_issuing [Face e] [Face f] [Face g]
    (issues : ∀ h mapped value, Hardware.write (e h) mapped Register.command value =
      (g (Hardware.write (f h) mapped Register.command value).1,
        (Hardware.write (f h) mapped Register.command value).2))
    (address : UInt32) (length : Nat) (argument word : UInt32) :
    (c.behind e).issueWrite address length argument word =
      ((c.behind f).issueWrite address length argument word).behind g := by
  unfold issueWrite
  rw [sync_behind, sync_behind]
  exact writeAll_issuing (c.sync .beforeWrite) issues
    [(Register.transmitPointer, address), (Register.transmitCount, UInt32.ofNat (length / 4)),
      (Register.argument, argument)]
    [(Register.channelControl, Channel.transmitOn),
      (Register.enable, Status.errors ||| Status.transmitEmpty)] word rfl rfl

end Faces

section Around

variable {p : Plan} {c : Controller Simulator} {command : Command BufferId} {data : Payload BufferId}

theorem mapData_fails (fails : c.bus.hardware.failNextLoad = true) (data : Payload BufferId) :
    ∃ e left, c.mapData data = (.error e, left) := by
  obtain ⟨e, hrefused⟩ := @mapData_refused _ data (.inr fails)
  exact ⟨e, _, Prod.ext hrefused rfl⟩

theorem launch_around (sound : p.Sound) (hd : command.data = some data)
    (transfers : data.flags.transfers = true) (fits : ¬ (0 < c.mapped ∨ c.overlong data))
    (issued loaded : Nat) :
    ∃ fault issued' loaded', Fault.Shows fault ∧ (c.behind (p.around issued loaded)).launch command =
      ((c.behind fault.strike).launch command).behind (p.around issued' loaded') := by
  have hstaged {K : Type} [Hardware K] (e : Simulator → K) [Face e] :=
    launch_transfer_behind (c := c) (e := e) hd transfers
  have hfits : ¬ (0 < (c.staging data).mapped ∨ (c.staging data).overlong data) := by
    have hprepared := c.prepareData_simulated (c.buffer data.buffer).length
    rw [staging, hprepared]
    exact fits
  have hmap := mapData_behind_of (c.staging data) (p.load_around issued loaded) hfits
  by_cases refused : p.refusals.contains (loaded + 1) = true
  · have hfault : p.atMapping (loaded + 1) = .refusal := if_pos refused
    rw [hfault] at hmap
    obtain ⟨e, left, hrefused⟩ := mapData_fails (c := (c.staging data).behind Fault.refusal.strike) rfl
      data
    refine ⟨.refusal, issued, loaded + 1, trivial, ?_⟩
    rw [hstaged, hstaged, hmap, hrefused]
    exact finish_behind (left.modifyCurrent _)
  · have hfault : p.atMapping (loaded + 1) = .none := if_neg refused
    rw [hfault] at hmap
    have hclear : (c.staging data).behind Fault.none.strike = c.staging data := rfl
    rw [hclear] at hmap
    rcases hmapped : (c.staging data).mapData data with ⟨e | ⟨address, length⟩, mapped⟩
    · refine ⟨.none, issued, loaded + 1, trivial, ?_⟩
      rw [hstaged, hstaged, hmap, hclear, hmapped]
      exact finish_behind (mapped.modifyCurrent _)
    · refine ⟨p.atCommand (issued + 1), issued + 1, loaded + 1, sound.atCommand _, ?_⟩
      have hstruck := (c.staging data).mapData_shown (p.atCommand (issued + 1)).strike {} data
      rw [shown_none, shown_none, hmapped] at hstruck
      have hissues := p.issue_around issued (loaded + 1)
      rw [hstaged, hstaged, hmap, hmapped, hstruck]
      dsimp only
      split
      · exact mapped.issueRead_issuing hissues ..
      · exact mapped.issueWrite_issuing hissues ..

end Around

def Single {H : Type} (c : Controller H) : Prop := ∀ a, c.active = some a → a.request.stop = none

theorem Single.final {H : Type} {c : Controller H} (h : c.Single) : c.Final := by
  unfold Final
  cases ha : c.active with
  | none => rfl
  | some a =>
    obtain ⟨ticket, request, phase⟩ := a
    cases phase with
    | command => exact h _ ha
    | stop => rfl

theorem Progresses.single {H : Type} {c c' : Controller H} (progress : c.Progresses c') (h : c.Single) :
    c'.Single := by
  cases progress with
  | ends =>
    intro a' ha'
    cases ha'
  | waits bus mapped active same =>
    intro a' ha'
    obtain rfl : active = some a' := ha'
    obtain ⟨a, ha, houtline⟩ := Option.map_eq_some_iff.mp same.symm
    have hblank := Request.stop_isSome_of_blank (Active.of_outline houtline).2
    rw [h a ha] at hblank
    exact Option.isNone_iff_eq_none.mp (Option.isSome_eq_false_iff.mp hblank.symm)

section Faces

variable {H K : Type} [Hardware H] [InterruptLine H] [Hardware K] [InterruptLine K] {c : Controller H}
  {e : H → K}

theorem Single.serveLine [Face e] (line : ∀ h, InterruptLine.asserted (e h) = InterruptLine.asserted h)
    (single : c.Single) (limit : Nat) :
    (c.behind e).serveLine limit = ((c.serveLine limit).1, (c.serveLine limit).2.behind e) := by
  induction limit generalizing c with
  | zero => rfl
  | succ limit ih =>
    have hline : InterruptLine.asserted (c.behind e).bus.hardware =
        InterruptLine.asserted c.bus.hardware := line _
    have hserved := c.interrupt_shown e {} (.inr single.final)
    rw [shown_none, shown_none] at hserved
    have hrest := ih (c.interrupt_progresses.single single)
    unfold Controller.serveLine at hrest ⊢
    simp only [pump, hline, hserved, hrest]
    split <;> rfl

end Faces

theorem acquire?_behind {H K : Type} (c : Controller H) (e : H → K) :
    (c.behind e).acquire?.getD (c.behind e) = (c.acquire?.getD c).behind e := by
  by_cases owned : c.owned = true
  · have hnone : c.acquire? = none := if_pos owned
    have hnone' : (c.behind e).acquire? = none := if_pos owned
    rw [hnone, hnone']
    rfl
  · have hsome : c.acquire? = some { c with owned := true } := if_neg owned
    have hsome' : (c.behind e).acquire? = some { c.behind e with owned := true } := if_neg owned
    rw [hsome, hsome']
    rfl

theorem submit_behind {H K : Type} [Hardware K] {c : Controller H} (attached : c.detached = false)
    (idle : c.active = none) (e : H → K) (request : Request Bytes) :
    (c.behind e).submit request = (.ok c.tickets.size,
      ((c.take request).behind e).launch (c.accepted request).request.command) :=
  submit_idle (c := c.behind e) attached idle request

theorem poll_behind {H K : Type} (c : Controller H) (e : H → K) (ticket : Nat) :
    ∃ answer tickets, c.toParts.poll ticket = (answer, { c.toParts with tickets }) ∧
      (c.behind e).toParts.poll ticket = (answer, { (c.behind e).toParts with tickets }) := by
  have htickets : (c.behind e).toParts.tickets = c.toParts.tickets := rfl
  simp only [Parts.poll, htickets]
  rcases c.toParts.tickets[ticket]? with _ | _ | _ | _ | _
  all_goals exact ⟨_, _, rfl, rfl⟩

end Controller

namespace Session

open Controller

variable {H K : Type} {s : Session H}

def behind (s : Session H) (e : H → K) : Session K := { s with controller := s.controller.behind e }

theorem execute_behind [Hardware H] [InterruptLine H] [Hardware K] [InterruptLine K] {e : H → K} [Face e]
    (line : ∀ h, InterruptLine.asserted (e h) = InterruptLine.asserted h)
    (attended : s.attended = true) {request : Request Bytes} {submitted : Controller H} {c : Controller K}
    {ticket : Nat} (submits : s.controller.submit request = (.ok ticket, submitted))
    (submits' : c.submit request = (.ok ticket, submitted.behind e)) (single : submitted.Single) :
    (execute request).run.run { s with controller := c } =
      (((execute request).run.run s).1, ((execute request).run.run s).2.behind e) := by
  obtain ⟨answer, tickets, hpoll, hpoll'⟩ := (submitted.serveLine serviceLimit).2.poll_behind e ticket
  have hserves := congrArg Prod.snd (single.serveLine line serviceLimit)
  have hattended : ({ s with controller := c } : Session K).attended = true := attended
  rw [run_execute attended submits rfl hpoll, run_execute hattended submits' hserves hpoll']
  rfl

theorem execute_around {s : Session Simulator} {p : Plan} (sound : p.Sound) (calm : s.controller.Calm)
    (attended : s.attended = true) {t : Transfer} {argument : UInt32} {buffer : Bytes}
    (short : buffer.length ≤ Staging.capacity) {cmd : Command Bytes} (asks : t.IsCommand argument buffer cmd)
    (issued loaded : Nat) :
    ∃ fault issued' loaded', Fault.Shows fault ∧
      (execute ⟨cmd, none⟩).run.run (s.behind (p.around issued loaded)) =
        (((execute ⟨cmd, none⟩).run.run (s.behind fault.strike)).1,
          ((execute ⟨cmd, none⟩).run.run (s.behind fault.strike)).2.behind (p.around issued' loaded')) := by
  have hasks : t.IsCommand argument buffer (⟨cmd, none⟩ : Request Bytes).command := asks
  obtain ⟨data, hd, hflags, hfits⟩ := calm.composed.places (fun _ => short) hasks
  obtain ⟨fault, issued', loaded', shows, hlaunch⟩ := launch_around sound hd (hflags ▸ t.transfers_flags)
    hfits issued loaded
  have hsubmit := submit_behind calm.attached calm.idle fault.strike ⟨cmd, none⟩
  have hsubmit' := submit_behind calm.attached calm.idle (p.around issued loaded) ⟨cmd, none⟩
  rw [hlaunch] at hsubmit'
  have hsingle : (((s.controller.take ⟨cmd, none⟩).behind fault.strike).launch
      (s.controller.accepted ⟨cmd, none⟩).request.command).Single := by
    obtain ⟨submitted, hsubmitted, progress⟩ := submit_progresses (c := s.controller.behind fault.strike)
      calm.attached calm.idle ⟨cmd, none⟩
    rw [hsubmit] at hsubmitted
    cases hsubmitted
    exact progress.single fun a ha => by cases ha; rfl
  refine ⟨fault, issued', loaded', shows, ?_⟩
  exact execute_behind (e := p.around issued' loaded') (s := s.behind fault.strike) (fun _ => rfl) attended
    hsubmit hsubmit' hsingle

end Session

end CardHost
