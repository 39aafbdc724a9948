import CardHost.Proofs.Channels
import CardHost.Proofs.CommandOrder
import CardHost.Proofs.EngineUse
import CardHost.Proofs.Sightings

namespace CardHost

open Bus Controller

namespace Access

def switchesOn (d : Direction) : Access → Bool
  | .write offset value => offset == Register.channelControl && anyBit value d.on
  | _ => false

def switches : Access → Bool
  | .write offset _ => offset == Register.channelControl
  | _ => false

def passive (access : Access) : Bool :=
  !access.issues && !access.switchesOn .fromCard && !access.switchesOn .toCard

theorem not_issues_of_passive {access : Access} (h : access.passive = true) :
    access.issues = false := by
  simp only [passive, Bool.and_eq_true, Bool.not_eq_true'] at h
  exact h.1.1

theorem not_switchesOn_of_passive {access : Access} (h : access.passive = true) (d : Direction) :
    access.switchesOn d = false := by
  simp only [passive, Bool.and_eq_true, Bool.not_eq_true'] at h
  cases d with
  | fromCard => exact h.1.2
  | toCard => exact h.2

end Access

def Direction.handover : Direction → SyncPoint
  | fromCard => .beforeRead
  | toCard => .beforeWrite

def aiming (d : Direction) (mode : UInt32) (block : Nat) (bytes : Bytes) (address argument : UInt32) :
    List Access :=
  preparation mode block ++ .load bytes d (.ok address) :: .sync d.handover ::
    writes [(d.pointer, address), (d.count, UInt32.ofNat (bytes.length / 4)),
      (Register.argument, argument)]

/-- How a command goes over the wire. The number of bytes that are mapped is that of its data, or the least
that a chip with the erratum sends. -/
inductive Wires (erratum : Bool) (command : Command Bytes) : List Access → Prop
  | plain (word enabled : UInt32) (data : command.data = none) :
    Wires erratum command (writes (clearChannels ++
      [(Register.argument, command.argument), (Register.command, word), (Register.enable, enabled)]))
  | idle (data : Payload Bytes) (mode word enabled : UInt32) (data_eq : command.data = some data)
    (still : data.flags.transfers = false) :
    Wires erratum command (preparation mode data.buffer.length ++
      writes [(Register.argument, command.argument), (Register.command, word), (Register.enable, enabled)])
  | read (data : Payload Bytes) (mode : UInt32) (bytes : Bytes) (address word enabled : UInt32)
    (data_eq : command.data = some data) (isRead : data.flags.isRead = true)
    (length : bytes.length = data.buffer.length) :
    Wires erratum command
      (aiming .fromCard mode data.buffer.length bytes address command.argument ++
        writes [(Register.channelControl, Channel.receiveOn), (Register.command, word),
          (Register.enable, enabled)])
  | write (data : Payload Bytes) (mode : UInt32) (bytes : Bytes) (address word enabled : UInt32)
    (data_eq : command.data = some data) (isRead : data.flags.isRead = false)
    (isWrite : data.flags.isWrite = true)
    (length : bytes.length = Staging.length data.buffer erratum Staging.minLength) :
    Wires erratum command
      (aiming .toCard mode data.buffer.length bytes address command.argument ++
        writes [(Register.command, word), (Register.channelControl, Channel.transmitOn),
          (Register.enable, enabled)])

inductive Orderly (erratum : Bool) : List Access → List (Command Bytes) → Prop
  | nothing : Orderly erratum [] []
  | passes {log l : List Access} {commands : List (Command Bytes)} (before : Orderly erratum log commands)
    (passive : l.all Access.passive = true) : Orderly erratum (log ++ l) commands
  | wires {log l : List Access} {commands : List (Command Bytes)} {command : Command Bytes}
    (before : Orderly erratum log commands) (wires : Wires erratum command l) :
    Orderly erratum (log ++ l) (commands ++ [command])

/-- Why the channel of a direction may be switched on between these accesses: it was made ready for the
command that comes next, or has come just now. As many commands have gone before as precede it. -/
inductive Armed (erratum : Bool) (commands : List (Command Bytes)) :
    Direction → List Access → List Access → Prop
  | read {earlier rest : List Access} {command : Command Bytes} {data : Payload Bytes}
    {mode : UInt32} {bytes : Bytes} {address word : UInt32}
    (its : commands[earlier.countP Access.issues]? = some command) (data_eq : command.data = some data)
    (isRead : data.flags.isRead = true) (length : bytes.length = data.buffer.length)
    (within : (UInt32.ofNat (bytes.length / 4)).toNat * 4 ≤ bytes.length) :
    Armed erratum commands .fromCard
      (earlier ++ aiming .fromCard mode data.buffer.length bytes address command.argument)
      (.write Register.command word :: rest)
  | write {earlier rest : List Access} {command : Command Bytes} {data : Payload Bytes}
    {mode : UInt32} {bytes : Bytes} {address word : UInt32}
    (its : commands[earlier.countP Access.issues]? = some command) (data_eq : command.data = some data)
    (isRead : data.flags.isRead = false) (isWrite : data.flags.isWrite = true)
    (length : bytes.length = Staging.length data.buffer erratum Staging.minLength)
    (within : (UInt32.ofNat (bytes.length / 4)).toNat * 4 ≤ bytes.length) :
    Armed erratum commands .toCard
      (earlier ++ aiming .toCard mode data.buffer.length bytes address command.argument ++
        [.write Register.command word]) rest

/-- The accesses before a command goes over the wire: since both channels were stopped no other command did,
and no channel was switched on but that for its own data. -/
inductive Stopped : List Access → Prop
  | intro (earlier between own : List Access) (still : ∀ a ∈ between, a.issues = false ∧ a.switches = false)
    (own_eq : own = [] ∨ own = [.write Register.channelControl Channel.receiveOn]) :
    Stopped (earlier ++ .write Register.channelControl Channel.stop :: (between ++ own))

structure Disciplined (erratum : Bool) (log : List Access) (commands : List (Command Bytes)) : Prop where
  order : issued none log = commands.map (·.wire)
  armed : ∀ (d : Direction) (before after : List Access) (value : UInt32),
    log = before ++ .write Register.channelControl value :: after → anyBit value d.on = true →
      value = d.on ∧ Armed erratum commands d before after
  stopped : ∀ (before after : List Access) (word : UInt32),
    log = before ++ .write Register.command word :: after → Stopped before

theorem append_eq_append_cons {α : Type} {l l' before after : List α} {x : α}
    (h : l ++ l' = before ++ x :: after) :
    (∃ rest, l = before ++ x :: rest ∧ after = rest ++ l') ∨
      ∃ between, before = l ++ between ∧ l' = between ++ x :: after := by
  rcases List.append_eq_append_iff.mp h with ⟨between, hbefore, hl'⟩ | ⟨rest, hl, hafter⟩
  · exact .inr ⟨between, hbefore, hl'⟩
  · cases rest with
    | nil => exact .inr ⟨[], by rw [hl, List.append_nil, List.append_nil], hafter.symm⟩
    | cons y rest =>
      obtain ⟨rfl, htail⟩ := List.cons.inj hafter
      exact .inl ⟨rest, hl, htail⟩

theorem unique_place {α : Type} {p : α → Bool} (before : List α) (x : α) (after : List α)
    {before' after' : List α} {x' : α} (h : before ++ x :: after = before' ++ x' :: after')
    (none_before : before.all (!p ·) = true) (none_after : after.all (!p ·) = true) (hx' : p x' = true) :
    before' = before ∧ x' = x ∧ after' = after := by
  have absent {l : List α} (none_in : l.all (!p ·) = true) (there : x' ∈ l) : False := by
    have := List.all_eq_true.mp none_in x' there
    rw [hx'] at this
    cases this
  rcases append_eq_append_cons h with ⟨rest, hbefore, -⟩ | ⟨between, hbefore', hrest⟩
  · exact (absent none_before (by rw [hbefore]; simp)).elim
  · cases between with
    | nil =>
      obtain ⟨rfl, rfl⟩ := List.cons.inj hrest
      exact ⟨by rw [hbefore', List.append_nil], rfl, rfl⟩
    | cons y between =>
      obtain ⟨rfl, hafter⟩ := List.cons.inj hrest
      exact (absent none_after (by rw [hafter]; simp)).elim

namespace Wires

variable {erratum : Bool} {command : Command Bytes} {l : List Access}

theorem issued_length (h : Wires erratum command l) (argument : Option UInt32) :
    (issued argument l).length = 1 := by
  cases h <;> rfl

theorem countP_issues (h : Wires erratum command l) : l.countP Access.issues = 1 := by
  cases h <;> rfl

end Wires

theorem mute_passive {l : List Access} (h : l.all Access.passive = true) : Mute l :=
  mute_of_all (List.all_eq_true.mpr fun access member => by
    rw [Access.not_issues_of_passive (List.all_eq_true.mp h access member)]
    rfl)

theorem countP_passive {l : List Access} (h : l.all Access.passive = true) :
    l.countP Access.issues = 0 := by
  rw [List.countP_eq_zero]
  intro access there
  rw [Access.not_issues_of_passive (List.all_eq_true.mp h access there)]
  decide

namespace Armed

variable {erratum : Bool} {commands : List (Command Bytes)} {d : Direction}
  {before after : List Access}

theorem append (h : Armed erratum commands d before after) (more : List (Command Bytes))
    (l : List Access) : Armed erratum (commands ++ more) d before (after ++ l) := by
  have there {n : Nat} {command : Command Bytes} (its : commands[n]? = some command) :
      (commands ++ more)[n]? = some command := by
    rw [List.getElem?_append_left (List.getElem?_eq_some_iff.mp its).1, its]
  cases h with
  | read its data_eq isRead length within =>
    exact .read (there its) data_eq isRead length within
  | write its data_eq isRead isWrite length within =>
    exact .write (there its) data_eq isRead isWrite length within

end Armed

theorem words_within (bytes : Bytes) :
    (UInt32.ofNat (bytes.length / 4)).toNat * 4 ≤ bytes.length := by
  rw [UInt32.toNat_ofNat']
  have := Nat.mod_le (bytes.length / 4) (2 ^ 32)
  omega

namespace Wires

variable {erratum : Bool} {command : Command Bytes} {log l before after : List Access}
  {commands : List (Command Bytes)} {d : Direction} {value word : UInt32}

theorem armed (h : Wires erratum command l) (count : log.countP Access.issues = commands.length)
    (place : l = before ++ .write Register.channelControl value :: after)
    (on : anyBit value d.on = true) :
    value = d.on ∧ Armed erratum (commands ++ [command]) d (log ++ before) after := by
  have its : (commands ++ [command])[log.countP Access.issues]? = some command := by
    rw [count, List.getElem?_append_right (Nat.le_refl _), Nat.sub_self]
    rfl
  have switches : (Access.write Register.channelControl value).switchesOn d = true := on
  have absent (none_in : l.all (!·.switchesOn d) = true) : False := by
    rw [place, List.all_append, List.all_cons, switches, Bool.not_true, Bool.false_and,
      Bool.and_false] at none_in
    cases none_in
  cases h with
  | plain | idle => cases d <;> exact (absent rfl).elim
  | read data mode bytes address word enabled data_eq isRead length =>
    cases d with
    | toCard => exact (absent rfl).elim
    | fromCard =>
      obtain ⟨rfl, hvalue, rfl⟩ := unique_place (p := (·.switchesOn .fromCard)) _ _ _ place rfl rfl switches
      obtain ⟨-, rfl⟩ := Access.write.inj hvalue
      exact ⟨rfl, .read its data_eq isRead length (words_within bytes)⟩
  | write data mode bytes address word enabled data_eq isRead isWrite length =>
    cases d with
    | fromCard => exact (absent rfl).elim
    | toCard =>
      have place' : (aiming .toCard mode data.buffer.length bytes address command.argument ++
          [.write Register.command word]) ++ .write Register.channelControl Channel.transmitOn ::
            [.write Register.enable enabled] = before ++ .write Register.channelControl value :: after := by
        rw [← place, List.append_assoc]
        rfl
      obtain ⟨rfl, hvalue, rfl⟩ := unique_place (p := (·.switchesOn .toCard)) _ _ _ place' rfl rfl switches
      obtain ⟨-, rfl⟩ := Access.write.inj hvalue
      rw [← List.append_assoc]
      exact ⟨rfl, .write its data_eq isRead isWrite length (words_within bytes)⟩

theorem stopped (h : Wires erratum command l) (log : List Access)
    (place : l = before ++ .write Register.command word :: after) : Stopped (log ++ before) := by
  have issues : (Access.write Register.command word).issues = true := rfl
  have still {l : List Access} (h : l.all (fun a => !a.issues && !a.switches) = true) :
      ∀ a ∈ l, a.issues = false ∧ a.switches = false := by
    simpa using h
  cases h with
  | plain word' enabled =>
    obtain ⟨rfl, -, -⟩ := unique_place (p := Access.issues)
      (writes (clearChannels ++ [(Register.argument, command.argument)]))
      (.write Register.command word') ([.write Register.enable enabled]) place rfl rfl issues
    exact .intro log (writes (clearChannels.tail ++ [(Register.argument, command.argument)])) []
      (still rfl) (.inl rfl)
  | idle data mode word' enabled =>
    obtain ⟨rfl, -, -⟩ := unique_place (p := Access.issues)
      (preparation mode data.buffer.length ++ [.write Register.argument command.argument])
      (.write Register.command word') ([.write Register.enable enabled]) place rfl rfl issues
    have h := Stopped.intro (log ++ (preparation mode data.buffer.length).take 2)
      [.write Register.argument command.argument] [] (still rfl) (.inl rfl)
    rwa [List.append_assoc] at h
  | read data mode bytes address word' enabled =>
    obtain ⟨rfl, -, -⟩ := unique_place (p := Access.issues)
      (aiming .fromCard mode data.buffer.length bytes address command.argument ++
        [.write Register.channelControl Channel.receiveOn])
      (.write Register.command word') ([.write Register.enable enabled]) place rfl rfl issues
    have h := Stopped.intro (log ++ (preparation mode data.buffer.length).take 2)
      ((aiming .fromCard mode data.buffer.length bytes address command.argument).drop 3)
      [.write Register.channelControl Channel.receiveOn] (still rfl) (.inr rfl)
    rwa [List.append_assoc] at h
  | write data mode bytes address word' enabled =>
    obtain ⟨rfl, -, -⟩ := unique_place (p := Access.issues)
      (aiming .toCard mode data.buffer.length bytes address command.argument)
      (.write Register.command word')
      (writes [(Register.channelControl, Channel.transmitOn), (Register.enable, enabled)])
      place rfl rfl issues
    have h := Stopped.intro (log ++ (preparation mode data.buffer.length).take 2)
      ((aiming .toCard mode data.buffer.length bytes address command.argument).drop 3) [] (still rfl)
      (.inl rfl)
    rwa [List.append_assoc] at h

end Wires

namespace Orderly

variable {erratum : Bool} {log : List Access} {commands : List (Command Bytes)}

theorem count (h : Orderly erratum log commands) : log.countP Access.issues = commands.length := by
  induction h with
  | nothing => rfl
  | passes before passive ih => rw [List.countP_append, ih, countP_passive passive, Nat.add_zero]
  | wires before wires ih =>
    rw [List.countP_append, ih, wires.countP_issues, List.length_append, List.length_singleton]

theorem disciplined (h : Orderly erratum log commands)
    (order : issued none log = commands.map (·.wire)) : Disciplined erratum log commands := by
  refine ⟨order, fun d before after value place on => ?_, fun before after word place => ?_⟩
  · clear order
    induction h generalizing before after with
    | nothing => exact absurd place (by simp)
    | @passes log l commands _ passive ih =>
      rcases append_eq_append_cons place with ⟨rest, hlog, rfl⟩ | ⟨between, -, rfl⟩
      · obtain ⟨hvalue, armed⟩ := ih before rest hlog
        have h := armed.append [] l
        rw [List.append_nil] at h
        exact ⟨hvalue, h⟩
      · have hpassive := List.all_eq_true.mp passive (.write Register.channelControl value) (by simp)
        have := Access.not_switchesOn_of_passive hpassive d
        rw [show (Access.write Register.channelControl value).switchesOn d = anyBit value d.on from rfl,
          on] at this
        cases this
    | @wires log l commands command hlog wires ih =>
      rcases append_eq_append_cons place with ⟨rest, hlog, rfl⟩ | ⟨between, rfl, hl⟩
      · obtain ⟨hvalue, armed⟩ := ih before rest hlog
        exact ⟨hvalue, armed.append [command] l⟩
      · exact wires.armed hlog.count hl on
  · clear order
    induction h generalizing before after with
    | nothing => exact absurd place (by simp)
    | passes _ passive ih =>
      rcases append_eq_append_cons place with ⟨rest, hlog, -⟩ | ⟨between, -, rfl⟩
      · exact ih before rest hlog
      · have hpassive := List.all_eq_true.mp passive (.write Register.command word) (by simp)
        cases Access.not_issues_of_passive hpassive
    | wires _ wires ih =>
      rcases append_eq_append_cons place with ⟨rest, hlog, -⟩ | ⟨between, rfl, hl⟩
      · exact ih before rest hlog
      · exact wires.stopped _ hl

end Orderly

namespace Bus.Performs

variable {H : Type} [Hardware H] {b b' : Bus H} {l l' : List Access}

theorem same_mapping (h : Performs b l b') (keeps : l.all (fun a => !a.maps && !a.releases) = true) :
    b'.mapping = b.mapping := by
  induction h with
  | done => rfl
  | read offset _ ih => exact ih keeps
  | @write b _ _ offset value _ ih =>
    rw [ih keeps, (b.write_frame offset value).2.1]
  | @load b _ _ buffer length direction _ ih =>
    obtain ⟨hload, hrest⟩ := Bool.and_eq_true_iff.mp keeps
    rw [ih hrest, b.load_mapping]
    revert hload
    cases (b.load buffer length direction).1 with
    | error e => exact fun _ => rfl
    | ok address => exact nofun
  | sync point _ ih => exact ih keeps
  | unload => cases keeps
  | edit memory alike _ ih => exact ih keeps

theorem loaded {bytes : Bytes} {direction : Direction} {address : UInt32}
    (h : Performs b (.load bytes direction (.ok address) :: l) b')
    (keeps : l.all (fun a => !a.maps && !a.releases) = true) {m : Mapping}
    (mapping : b'.mapping = some m) : bytes.length = min m.length (b.memory.get m.buffer).length := by
  generalize hall : Access.load bytes direction (.ok address) :: l = all at h
  induction h with
  | edit memory alike _ ih => rw [ih mapping hall, alike.2]
  | @load b _ _ buffer length direction' next =>
    obtain ⟨hload, rfl⟩ := List.cons.inj hall
    obtain ⟨rfl, -, hresult⟩ := Access.load.inj hload
    have hmapping := b.load_mapping buffer length direction'
    rw [← hresult, ← next.same_mapping keeps, mapping] at hmapping
    obtain rfl := Option.some.inj hmapping
    exact List.length_take
  | done | read | write | sync | unload => cases hall

end Bus.Performs

namespace Controller

variable {H : Type} [Hardware H] {c c' : Controller H} {a : Active} {command : Command BufferId}
  {client : Command Bytes} {bus : Bus H} {l : List Access}

omit [Hardware H] in
theorem of_same_outline (same : (command.map fun id => (c.buffer id).length).blank =
    (client.map List.length).blank) :
    client.argument = command.argument ∧ (command.data = none → client.data = none) ∧
      ∀ data, command.data = some data → ∃ data', client.data = some data' ∧ data'.flags = data.flags ∧
        data'.buffer.length = (c.buffer data.buffer).length := by
  have argument : command.argument = client.argument := congrArg (·.argument) same
  have hdata := congrArg (·.data) same
  simp only [Command.blank, Command.map, Option.map_map] at hdata
  refine ⟨argument.symm, fun none_there => ?_, fun data there => ?_⟩
  · rw [none_there, Option.map_none, eq_comm, Option.map_eq_none_iff] at hdata
    exact hdata
  · rw [there, Option.map_some, eq_comm, Option.map_eq_some_iff] at hdata
    obtain ⟨data', hclient, hsame⟩ := hdata
    obtain ⟨length, flags⟩ := Payload.mk.inj hsame
    exact ⟨data', hclient, flags.1, length⟩

inductive Shaped (erratum : Bool) (c' : Controller H) : List Access → Prop
  | passive {l : List Access} (all : l.all Access.passive = true) : Shaped erratum c' l
  | wires {before l : List Access} {a : Active} {command : Command BufferId}
    (quiet : before.all Access.passive = true) (active : c'.active = some a)
    (current : a.current? = some command)
    (wires : ∀ client : Command Bytes,
      (command.map fun id => (c'.buffer id).length).blank = (client.map List.length).blank →
        Wires erratum client l) : Shaped erratum c' (before ++ l)

omit [Hardware H] in
theorem Shaped.starts {erratum : Bool} (active : c'.active = some a) (current : a.current? = some command)
    (wires : ∀ client : Command Bytes,
      (command.map fun id => (c'.buffer id).length).blank = (client.map List.length).blank →
        Wires erratum client l) : Shaped erratum c' l :=
  List.nil_append l ▸ .wires List.all_nil active current wires

omit [Hardware H] in
theorem Shaped.after {erratum : Bool} {before : List Access} (h : Shaped erratum c' l)
    (quiet : before.all Access.passive = true) : Shaped erratum c' (before ++ l) := by
  cases h with
  | passive all => exact .passive (by rw [List.all_append, quiet, all]; rfl)
  | wires quiet' active current wires =>
    rw [← List.append_assoc]
    exact .wires (by rw [List.all_append, quiet, quiet']; rfl) active current wires

theorem Launches.shaped (ha : c.active = some a) (hc : a.current? = some command)
    (h : Launches c a command bus l c') (hp : Performs c.bus l bus) :
    Shaped c.board.soc.secondRevision c' l := by
  have hbus := (h.outcome ha hc).1
  have outline {command' : Command BufferId} (blank : command'.blank = command.blank)
      {client : Command Bytes}
      (same : (command'.map fun id => (c'.buffer id).length).blank = (client.map List.length).blank) :
      client.argument = command.argument ∧ (command.data = none → client.data = none) ∧
        ∀ data, command.data = some data → ∃ data', client.data = some data' ∧
          data'.flags = data.flags ∧ data'.buffer.length = (c.buffer data.buffer).length := by
    refine of_same_outline (c := c) (same ▸ ?_)
    rw [Command.blank_map, Command.blank_map, blank]
    simp only [buffer, hbus, hp.alike.2]
  have self : c.active = some (a.replace command) := by rw [ha, Active.replace_current hc]
  cases h with
  | plain data =>
    refine .starts self (Active.current?_replace hc _) fun client same => ?_
    obtain ⟨argument, no_data, -⟩ := outline rfl same
    have h : Wires c.board.soc.secondRevision client _ := .plain (c.wireWord command)
      (Status.errors ||| Status.commandReady) (no_data data)
    rwa [argument] at h
  | idle data mode data_eq still =>
    refine .starts self (Active.current?_replace hc _) fun client same => ?_
    obtain ⟨argument, -, some_data⟩ := outline rfl same
    obtain ⟨data', hdata, flags, length⟩ := some_data data data_eq
    have h : Wires c.board.soc.secondRevision client _ := .idle data' mode (c.wireWord command)
      (Status.errors ||| Status.commandReady) hdata (flags ▸ still)
    rwa [argument, length] at h
  | read data mode address bytes data_eq isRead free mapping =>
    refine .starts rfl (Active.current?_replace hc _) fun client same => ?_
    obtain ⟨argument, -, some_data⟩ := outline (blank_restaged command) same
    obtain ⟨data', hdata, flags, length⟩ := some_data data data_eq
    obtain ⟨b, hprepared, hloaded⟩ := hp.split
    have bytes_length : bytes.length = data'.buffer.length := by
      rw [hloaded.loaded rfl mapping, hprepared.alike.2, length]
      exact Nat.min_self _
    have h : Wires c.board.soc.secondRevision client _ := .read data' mode bytes address
      (c.wireWord command) (Status.errors ||| Status.endReceive) hdata (flags ▸ isRead) bytes_length
    rw [aiming, bytes_length, argument, length, List.append_assoc] at h
    exact h
  | write data mode address bytes length data_eq isRead isWrite free fits length_eq mapping =>
    refine .starts rfl (Active.current?_replace hc _) fun client same => ?_
    obtain ⟨argument, -, some_data⟩ := outline (blank_restaged command) same
    obtain ⟨data', hdata, flags, hlength⟩ := some_data data data_eq
    obtain ⟨b, hprepared, hloaded⟩ := hp.split
    have staged : length = Staging.length data'.buffer c.board.soc.secondRevision Staging.minLength :=
      length_eq.trans (Staging.length_congr hlength.symm _ _)
    have bytes_length : bytes.length = length := by
      rw [hloaded.loaded rfl mapping, hprepared.alike.2]
      refine Nat.min_eq_left (length_eq ▸ Nat.le_of_not_lt fun long => ?_)
      exact fits ⟨isRead, long⟩
    have h : Wires c.board.soc.secondRevision client _ := .write data' mode bytes address
      (c.wireWord command) (Status.errors ||| Status.transmitEmpty) hdata (flags ▸ isRead)
      (flags ▸ isWrite) (bytes_length.trans staged)
    rw [aiming, bytes_length, argument, hlength, List.append_assoc] at h
    exact h
  | unstaged => exact .passive rfl
  | refused => exact .passive rfl

omit [Hardware H] in
theorem passive_of_serves (h : l.all Access.serves = true) : l.all Access.passive = true :=
  Access.all_of_serves (fun _ => rfl) (fun _ => rfl) rfl (fun _ _ => rfl) (fun _ _ _ => rfl)
    (fun _ => rfl) rfl h

omit [Hardware H] in
theorem Quiet.passive (h : Quiet c l) : l.all Access.passive = true := by
  cases h <;> rfl

theorem interrupt_shaped (current : ∀ a, c.active = some a → a.current?.isSome = true) :
    ∃ l, Performs c.bus l c.interrupt.bus ∧ Shaped c.board.soc.secondRevision c.interrupt l := by
  have h := interrupts current
  generalize c.interrupt = c' at h ⊢
  cases h with
  | rests => exact ⟨[], .done _, .passive rfl⟩
  | spurious _ _ performs => exact ⟨_, performs, .passive rfl⟩
  | serves attached ha hc performs serves =>
    cases serves with
    | continues => exact ⟨_, performs, .passive (passive_of_serves (c.serves_continuing _ _))⟩
    | finishes words final ends => exact ⟨_, performs, .passive (passive_of_serves (ends.serves words))⟩
    | @stops _ _ _ last stop error between _ words pending ends _ reached launched launches =>
      have hstop := Active.current?_stopping pending (answered last error words)
      have hbus := (launches.outcome rfl hstop).1
      refine ⟨_, reached.trans (hbus ▸ launched), ?_⟩
      exact (launches.shaped rfl hstop launched).after (passive_of_serves (ends.serves words))

theorem submit_shaped (c : Controller H) (request : Request Bytes) :
    ∃ l, c.bus.Reaches l (c.submit request).2.bus ∧
      Shaped c.board.soc.secondRevision (c.submit request).2 l := by
  have h := c.submits request
  generalize (c.submit request).2 = c' at h ⊢
  cases h with
  | refuses => exact ⟨[], (Performs.done _).reaches, .passive rfl⟩
  | @launches l bus c' attached idle performs launches =>
    refine ⟨l, ⟨(c.bus.memory.place request).2, ?_⟩, ?_⟩
    · rw [(launches.outcome rfl rfl).1]
      exact performs
    · exact Launches.shaped (c := c.take request) rfl rfl launches performs

end Controller

namespace Agrees

variable {H : Type} {c : Controller H} {l : Ledger} {a : Active} {command : Command BufferId}

theorem last_command (h : Agrees (.whole c) l) (active : c.active = some a)
    (current : a.current? = some command) :
    ∃ earlier client, l.commands = earlier ++ [client] ∧
      (command.map fun id => (c.buffer id).length).blank = (client.map List.length).blank := by
  obtain ⟨last, e, entry, hm⟩ := h.active a active
  obtain ⟨before, hl, -⟩ := Ledger.last_entry entry last
  have stored : (a.request.map fun id => (c.buffer id).length).blank = e.request.outline := by
    rw [← h.sound.stored e (List.mem_of_getElem? entry), Request.blank_map, Request.blank_map, hm.same]
    rfl
  have hcommands : l.commands = before.flatMap Entry.block ++ e.block := by
    simp [Ledger.commands, hl]
  have hfate := hm.fate
  obtain ⟨ticket, request, phase⟩ := a
  cases phase with
  | command =>
    obtain rfl := Option.some.inj current
    refine ⟨before.flatMap Entry.block, e.request.command, ?_, congrArg (·.command) stored⟩
    simp only [hcommands, Entry.block, hfate]
  | stop =>
    have hstop := congrArg (·.stop) stored
    simp only [Request.blank, Request.outline, Request.map, Option.map_map] at hstop
    rw [show request.stop = some command from current, Option.map_some, eq_comm,
      Option.map_eq_some_iff] at hstop
    obtain ⟨client, hclient, same⟩ := hstop
    refine ⟨before.flatMap Entry.block ++ [e.request.command], client, ?_, same.symm⟩
    simp only [hcommands, Entry.block, hfate, hclient, Option.toList_some, List.append_assoc,
      List.singleton_append]

end Agrees

namespace Controller

variable {H : Type} [Hardware H]

theorem site_invariant (board : Board) : Invariant fun c : Controller H => c.board = board where
  submit c request h := by
    obtain ⟨bus, tickets, active, mapped, he⟩ := c.submit_frame request
    rwa [he]
  interrupt c h current := by
    obtain ⟨bus, tickets, active, mapped, he⟩ := c.interrupt_frame current
    rwa [he]
  quiet c c' l h _ _ keeps := keeps.board.trans h
  tickets c tickets h := h

end Controller

namespace System

variable {H : Type} [Hardware H] {s : System H} {l : Ledger} {board : Board}

theorem step_shaped (agrees : Agrees s l) (site : s.Holds (·.board = board)) (operation : Operation) :
    ∃ accesses, s.parts.bus.Reaches accesses (s.step operation).2.parts.bus ∧
      (accesses.all Access.passive = true ∨ ∃ c, (s.step operation).2 = .whole c ∧
        c.Shaped board.soc.secondRevision accesses) := by
  by_cases handle : ∃ n, operation = .poll n ∨ operation = .drop n
  · exact ⟨[], s.bus_handle handle ▸ (Performs.done _).reaches, .inl rfl⟩
  have other (n : Nat) : operation ≠ .poll n ∧ operation ≠ .drop n :=
    ⟨fun hn => handle ⟨n, .inl hn⟩, fun hn => handle ⟨n, .inr hn⟩⟩
  cases s with
  | apart p =>
    rw [System.step_apart p other]
    exact ⟨[], (Performs.done _).reaches, .inl rfl⟩
  | whole c =>
    by_cases quiet : operation.isQuiet = true
    · obtain ⟨c', accesses, hc', hq, hp, -⟩ := c.perform_quiet quiet
      rw [System.step_whole c other, hc']
      exact ⟨accesses, hp.reaches, .inl hq.passive⟩
    cases operation with
    | submit request =>
      rw [c.step_submit request]
      obtain ⟨accesses, reaches, shaped⟩ := c.submit_shaped request
      exact ⟨accesses, reaches, .inr ⟨_, rfl, site ▸ shaped⟩⟩
    | interrupt =>
      obtain ⟨accesses, hp, shaped⟩ := c.interrupt_shaped agrees.current
      exact ⟨accesses, hp.reaches, .inr ⟨_, rfl, site ▸ shaped⟩⟩
    | takeApart => exact ⟨[], c.bus_takeApart ▸ (Performs.done _).reaches, .inl rfl⟩
    | poll n => exact (handle ⟨n, .inl rfl⟩).elim
    | drop n => exact (handle ⟨n, .inr rfl⟩).elim
    | _ => exact (quiet rfl).elim

end System

structure Conducts {H : Type} (board : Board) (s : System (Recorder H)) (l : Ledger) : Prop where
  ordered : Ordered s l
  site : s.Holds (·.board = board)
  orderly : Orderly board.soc.secondRevision s.parts.bus.hardware.log.toList l.commands

namespace Conducts

variable {H : Type} [Hardware H] {s : System (Recorder H)} {l : Ledger} {board : Board}

theorem start (unit : UInt32) (board : Board) (options : Options) (hardware : H) :
    Conducts board (System.start unit board options ({ inner := hardware } : Recorder H)) {} := by
  refine ⟨.start unit board options hardware, ?_, ?_⟩
  · rfl
  · rw [System.start, Controller.attach_eq, Controller.writeAll_eq]
    have hlog := Recorder.log_performs (performs_writeAll
      (Controller.fresh unit board options ({ inner := hardware } : Recorder H)).bus
      (Controller.quiesce ++ Controller.powerOn board.soc))
    have passive : (writes (Controller.quiesce ++ Controller.powerOn board.soc)).all
        Access.passive = true := rfl
    exact hlog ▸ .passes .nothing passive

theorem step (h : Conducts board s l) (operation : Operation) :
    ∃ l', l.Step operation (s.step operation).1 l' ∧ Conducts board (s.step operation).2 l' := by
  obtain ⟨l', accesses, rule, agrees, reaches, new, gained, issues⟩ := h.ordered.1.step_accounted operation
  have log := Recorder.log_reaches reaches
  have ordered : Ordered (s.step operation).2 l' := by
    refine ⟨agrees, ?_⟩
    rw [log, issued_append, h.ordered.2, issues, gained, List.map_append]
  refine ⟨l', rule, ordered, (Controller.site_invariant board).step h.ordered.1 h.site operation, ?_⟩
  obtain ⟨accesses', reaches', shaped⟩ := System.step_shaped h.ordered.1 h.site operation
  obtain rfl : accesses = accesses' := List.append_cancel_left (log.symm.trans (Recorder.log_reaches reaches'))
  rw [log, gained]
  have passes (passive : accesses.all Access.passive = true) : Orderly board.soc.secondRevision
      (s.parts.bus.hardware.log.toList ++ accesses) (l.commands ++ new) := by
    have hnew := issues none
    rw [mute_passive passive, eq_comm, List.map_eq_nil_iff] at hnew
    rw [hnew, List.append_nil]
    exact h.orderly.passes passive
  rcases shaped with passive | ⟨c, hc, shaped⟩
  · exact passes passive
  cases shaped with
  | passive passive => exact passes passive
  | @wires before wire a command quiet active current wires =>
    rw [hc] at agrees
    obtain ⟨earlier, client, hcommands, same⟩ := agrees.last_command active current
    have one : new.length = 1 := by
      rw [← List.length_map (f := (·.wire)), ← issues none, issued_append, mute_passive quiet,
        List.nil_append, (wires client same).issued_length]
    obtain ⟨command', rfl⟩ := List.length_eq_one_iff.mp one
    obtain ⟨-, hlast⟩ := List.append_inj' (gained.symm.trans hcommands) rfl
    obtain rfl := List.singleton_inj.mp hlast
    rw [← List.append_assoc]
    exact (h.orderly.passes quiet).wires (wires command' same)

omit [Hardware H] in
theorem disciplined (h : Conducts board s l) : Disciplined board.soc.secondRevision
    s.parts.bus.hardware.log.toList l.commands :=
  h.orderly.disciplined h.ordered.2

end Conducts

theorem Accounts.mono {H : Type} [Hardware H] {P Q : System H → Ledger → Prop}
    (weaker : ∀ s l, P s l → Q s l) {s s' : System H} {l l' : Ledger} {operations : List Operation}
    (run : Accounts P s l operations s' l') : Accounts Q s l operations s' l' := by
  induction run with
  | done holds => exact .done (weaker _ _ holds)
  | step holds rule _ ih => exact .step (weaker _ _ holds) rule ih

/-- In every run, whatever the hardware and its engine answer, the controller switches a channel on just for
the data of the command that it puts on the wire then, after it stopped both and pointed that one at the data
that is mapped, at no more words than are mapped. With a read it does so just before it issues the command,
with a write just after. -/
theorem channels_on_for_their_command {H : Type} [Hardware H] (unit : UInt32) (board : Board)
    (options : Options) (hardware : H) (operations : List Operation) :
    let start := System.start unit board options ({ inner := hardware } : Recorder H)
    ∃ l, Accounts (fun s l => Agrees s l ∧ Disciplined board.soc.secondRevision
        s.parts.bus.hardware.log.toList l.commands) start {} operations (start.after operations) l := by
  intro start
  obtain ⟨l, run⟩ := Accounts.of_steps (fun s l operation h => h.step operation)
    (Conducts.start unit board options hardware) operations
  exact ⟨l, run.mono fun s l h => ⟨h.ordered.1, h.disciplined⟩⟩

end CardHost
