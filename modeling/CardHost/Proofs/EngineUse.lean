import CardHost.Hardware.Scripted
import CardHost.Proofs.Accounts
import CardHost.Simulator

namespace CardHost

open Bus

namespace Access

def isLoad : Access → Bool
  | .load _ _ _ => true
  | _ => false

def maps : Access → Bool
  | .load _ _ (.ok _) => true
  | _ => false

def releases : Access → Bool
  | .unload => true
  | _ => false

end Access

/-- Accesses that begin with so many mappings and end with so many. A mapping is asked for only while there
is none, and given back only while there is one. -/
def Balance : Nat → List Access → Nat → Prop
  | n, [], n' => n' = n
  | n, .load _ _ (.ok _) :: rest, n' => n = 0 ∧ Balance 1 rest n'
  | n, .load _ _ (.error _) :: rest, n' => n = 0 ∧ Balance 0 rest n'
  | n, .unload :: rest, n' => n = 1 ∧ Balance 0 rest n'
  | n, .read _ _ :: rest, n' | n, .write _ _ :: rest, n' | n, .sync _ :: rest, n' => Balance n rest n'

namespace Balance

variable {n n' n'' : Nat} {l l' : List Access}

theorem append (h : Balance n l n') (h' : Balance n' l' n'') : Balance n (l ++ l') n'' := by
  induction l generalizing n with
  | nil =>
    cases h
    exact h'
  | cons access rest ih =>
    cases access with
    | read | write | sync => exact ih h
    | unload => exact ⟨h.1, ih h.2⟩
    | load bytes direction result =>
      cases result with
      | ok => exact ⟨h.1, ih h.2⟩
      | error => exact ⟨h.1, ih h.2⟩

theorem split (h : Balance n (l ++ l') n'') : ∃ n', Balance n l n' ∧ Balance n' l' n'' := by
  induction l generalizing n with
  | nil => exact ⟨n, rfl, h⟩
  | cons access rest ih =>
    cases access with
    | read | write | sync => exact ih h
    | unload =>
      obtain ⟨n', hrest, hl'⟩ := ih h.2
      exact ⟨n', ⟨h.1, hrest⟩, hl'⟩
    | load bytes direction result =>
      cases result with
      | ok | error =>
        obtain ⟨n', hrest, hl'⟩ := ih h.2
        exact ⟨n', ⟨h.1, hrest⟩, hl'⟩

theorem le_one (h : Balance n l n') (start : n ≤ 1) : n' ≤ 1 := by
  induction l generalizing n with
  | nil =>
    cases h
    exact start
  | cons access rest ih =>
    cases access with
    | read | write | sync => exact ih h start
    | unload => exact ih h.2 (Nat.zero_le 1)
    | load bytes direction result =>
      cases result with
      | ok => exact ih h.2 (Nat.le_refl 1)
      | error => exact ih h.2 (Nat.zero_le 1)

theorem count (h : Balance n l n') :
    n + l.countP Access.maps = l.countP Access.releases + n' := by
  induction l generalizing n with
  | nil =>
    cases h
    simp
  | cons access rest ih =>
    cases access with
    | read | write | sync =>
      have hrest := ih h
      simpa [Access.maps, Access.releases] using hrest
    | unload =>
      obtain ⟨rfl, hrest⟩ := h
      have hcount := ih hrest
      simp only [List.countP_cons, Access.maps, Access.releases, Bool.false_eq_true, if_false, if_true]
      omega
    | load bytes direction result =>
      cases result with
      | ok =>
        obtain ⟨rfl, hrest⟩ := h
        have hcount := ih hrest
        simp only [List.countP_cons, Access.maps, Access.releases, Bool.false_eq_true, if_false, if_true]
        omega
      | error =>
        obtain ⟨rfl, hrest⟩ := h
        have hcount := ih hrest
        simpa [Access.maps, Access.releases] using hcount

theorem asked {access : Access} {rest : List Access} (h : Balance 0 (l ++ access :: rest) n') :
    (access.isLoad = true → l.countP Access.maps = l.countP Access.releases) ∧
      (access = .unload → l.countP Access.maps = l.countP Access.releases + 1) := by
  obtain ⟨n, before, after⟩ := h.split
  have hcount := before.count
  rw [Nat.zero_add] at hcount
  constructor
  · intro load
    cases access with
    | load bytes direction result =>
      have free : n = 0 := by
        cases result with
        | ok => exact after.1
        | error => exact after.1
      rw [hcount, free, Nat.add_zero]
    | read | write | sync | unload => cases load
  · rintro rfl
    rw [hcount, after.1]

theorem writes (n : Nat) (l : List (Nat × UInt32)) : Balance n (writes l) n := by
  induction l with
  | nil => rfl
  | cons w rest ih => exact ih

theorem releasing (h : n ≤ 1) : Balance n (Controller.releasing n) (n - 1) := by
  match n with
  | 0 => rfl
  | 1 => exact ⟨rfl, rfl⟩

theorem ending (n : Nat) (words : List UInt32) : Balance n (Controller.ending words) n := by
  have reads (i : Nat) : Balance n (Controller.responseReads i words) n := by
    induction words generalizing i with
    | nil => rfl
    | cons word rest ih => exact ih (i + 1)
  exact reads 0

theorem optional (stage : Bool) (h : Balance n l n') :
    Balance n (if stage then l else []) (if stage then n' else n) := by
  cases stage with
  | false => rfl
  | true => exact h

theorem optional_writes (n : Nat) (stage : Bool) (l : List (Nat × UInt32)) :
    Balance n (if stage then CardHost.writes l else []) n := by
  cases stage with
  | false => rfl
  | true => exact writes n l

theorem stages (status : UInt32) (h : n ≤ 1) :
    Balance n (Controller.stageAccesses status n) (Controller.stageMapped status n) := by
  have sent : Balance n (Controller.sentStage n) (n - 1) := (writes n _).append (releasing h)
  have received {m : Nat} (hm : m ≤ 1) : Balance m (Controller.receivedStage m) (m - 1) :=
    (releasing hm).append (writes _ _)
  have hsent : (if anyBit status Status.transmitEmpty then n - 1 else n) ≤ 1 := by
    split
    · exact Nat.le_trans (Nat.sub_le n 1) h
    · exact h
  apply (optional _ sent).append
  apply (optional_writes _ _ _).append
  apply (optional _ (received hsent)).append
  apply optional_writes

end Balance

namespace Controller

variable {H : Type} {c c' : Controller H} {a : Active} {command : Command BufferId} {bus : Bus H}
  {l : List Access}

theorem Launches.balance (h : Launches c a command bus l c') : Balance c.mapped l c'.mapped := by
  cases h with
  | plain | idle | unstaged => rfl
  | read data mode address bytes data_eq isRead free => exact ⟨free, rfl⟩
  | write data mode address bytes length data_eq isRead isWrite free => exact ⟨free, rfl⟩
  | refused data mode bytes direction error data_eq transfers free => exact ⟨free, free⟩

theorem Quiet.balance (h : Quiet c l) (n : Nat) : Balance n l n := by
  cases h with
  | still | programs => rfl
  | quiesces => exact .writes n quiesce

variable [Hardware H]

theorem Ends.balance {status : UInt32} {mapped : Nat} {last : Command BufferId}
    {error : Option CommandError} (h : c.Ends command status l mapped last error)
    (count : c.mapped ≤ 1) (words : List UInt32) :
    Balance c.mapped (c.glance ++ (l ++ ending words)) mapped := by
  have hl : Balance c.mapped l mapped := by
    cases h with
    | failed => exact .releasing count
    | forgiven => rfl
    | ready => exact .stages status count
  exact hl.append (.ending mapped words)

theorem interrupt_balance (count : c.mapped ≤ 1)
    (current : ∀ a, c.active = some a → a.current?.isSome = true) :
    ∃ l, Performs c.bus l c.interrupt.bus ∧ Balance c.mapped l c.interrupt.mapped := by
  have h := interrupts current
  generalize c.interrupt = c' at h ⊢
  cases h with
  | rests => exact ⟨[], .done _, rfl⟩
  | spurious _ _ performs => exact ⟨_, performs, rfl⟩
  | serves attached ha hc performs serves =>
    cases serves with
    | continues => exact ⟨_, performs, .stages c.observed count⟩
    | finishes words final ends => exact ⟨_, performs, ends.balance count words⟩
    | stops words pending ends _ reached launched launches =>
      have hb := (launches.outcome rfl (Active.current?_stopping pending _)).1
      refine ⟨_, reached.trans (hb ▸ launched), ?_⟩
      exact (ends.balance count words).append launches.balance

end Controller

def Exclusive (H : Type) [Hardware H] : Prop :=
  ∀ (h : H) (bytes : Bytes) (direction : Direction),
    (Hardware.load h false bytes direction).1 ≠ .error .alreadyMapped

theorem simulator_exclusive : Exclusive Simulator := by
  intro sim bytes direction
  simp only [Hardware.load, Simulator.load]
  split
  · nofun
  · split
    · nofun
    · nofun

namespace Bus

variable {H : Type} [Hardware H] {b b' : Bus H} {l : List Access} {n : Nat}

omit [Hardware H] in
def held (b : Bus H) : Nat := if b.mapping.isSome then 1 else 0

omit [Hardware H] in
theorem mapping_eq_none (h : b.held = 0) : b.mapping = none := by
  unfold held at h
  cases hm : b.mapping with
  | none => rfl
  | some m =>
    rw [hm] at h
    cases h

theorem held_load (b : Bus H) (buffer : BufferId) (length : Nat) (direction : Direction) :
    (b.load buffer length direction).2.held =
      match (b.load buffer length direction).1 with
      | .ok _ => 1
      | .error _ => b.held := by
  unfold held
  rw [b.load_mapping]
  cases (b.load buffer length direction).1 <;> rfl

theorem load_unrefused (exclusive : Exclusive H) (free : b.held = 0) (buffer : BufferId) (length : Nat)
    (direction : Direction) : (b.load buffer length direction).1 ≠ .error .alreadyMapped := by
  have hload := exclusive b.hardware ((b.memory.get buffer).take length) direction
  unfold load
  rw [mapping_eq_none free]
  dsimp only [Option.isSome_none]
  cases hr : Hardware.load b.hardware false ((b.memory.get buffer).take length) direction with
  | mk result hardware =>
    rw [hr] at hload
    cases result with
    | ok address => nofun
    | error e => exact hload

theorem Performs.held (h : Performs b l b') (balance : Balance b.held l n) :
    b'.held = n ∧ (Exclusive H → ∀ bytes direction,
      .load bytes direction (.error .alreadyMapped) ∉ l) := by
  induction h with
  | done =>
    cases balance
    exact ⟨rfl, fun _ _ _ => List.not_mem_nil⟩
  | read offset _ ih =>
    obtain ⟨hheld, hnone⟩ := ih balance
    exact ⟨hheld, fun exclusive bytes direction => by simpa using hnone exclusive bytes direction⟩
  | @write b _ _ offset value _ ih =>
    have hwrite : (b.write offset value).held = b.held := by
      unfold Bus.held
      rw [(b.write_frame offset value).2.1]
    obtain ⟨hheld, hnone⟩ := ih (by rw [hwrite]; exact balance)
    exact ⟨hheld, fun exclusive bytes direction => by simpa using hnone exclusive bytes direction⟩
  | @load b _ rest buffer length direction _ ih =>
    have hload := b.held_load buffer length direction
    have hunrefused (exclusive : Exclusive H) (free : b.held = 0) :=
      b.load_unrefused exclusive free buffer length direction
    generalize (b.load buffer length direction).1 = result at balance hload hunrefused ⊢
    have free : b.held = 0 := by cases result <;> exact balance.1
    have hrest : Balance (b.load buffer length direction).2.held rest n := by
      rw [hload]
      cases result with
      | ok => exact balance.2
      | error =>
        rw [free]
        exact balance.2
    obtain ⟨hheld, hnone⟩ := ih hrest
    refine ⟨hheld, fun exclusive bytes direction' member => ?_⟩
    rcases List.mem_cons.mp member with same | member
    · cases same
      exact hunrefused exclusive free rfl
    · exact hnone exclusive bytes direction' member
  | sync point _ ih =>
    obtain ⟨hheld, hnone⟩ := ih balance
    exact ⟨hheld, fun exclusive bytes direction => by simpa using hnone exclusive bytes direction⟩
  | @unload b _ _ _ ih =>
    obtain ⟨hheld, hnone⟩ := ih balance.2
    exact ⟨hheld, fun exclusive bytes direction => by simpa using hnone exclusive bytes direction⟩
  | edit memory alike _ ih => exact ih balance

end Bus

namespace Controller

variable {H : Type} [Hardware H]

structure Accountable (c : Controller (Recorder H)) : Prop where
  balance : Balance 0 c.bus.hardware.log.toList c.mapped
  held : c.bus.held = c.mapped
  unrefused : Exclusive H → ∀ bytes direction,
    .load bytes direction (.error .alreadyMapped) ∉ c.bus.hardware.log.toList

variable {c c' : Controller (Recorder H)} {l : List Access}

theorem Accountable.performs (h : c.Accountable) (hp : Performs c.bus l c'.bus)
    (balance : Balance c.mapped l c'.mapped) : c'.Accountable := by
  have hlog := Recorder.log_performs hp
  obtain ⟨hheld, hnone⟩ := hp.held (by rwa [h.held])
  constructor
  · rw [hlog]
    exact h.balance.append balance
  · exact hheld
  · intro exclusive bytes direction member
    rw [hlog] at member
    rcases List.mem_append.mp member with member | member
    · exact h.unrefused exclusive bytes direction member
    · exact hnone (fun r => exclusive r.inner) bytes direction member

theorem accountable_invariant : Invariant (Accountable (H := H)) where
  submit c request h := by
    have hsubmits := c.submits request
    generalize (c.submit request).2 = c' at hsubmits ⊢
    cases hsubmits with
    | refuses => exact h
    | launches attached idle performs launches =>
      have taken : (c.take request).Accountable := ⟨h.balance, h.held, h.unrefused⟩
      have hb := (launches.outcome rfl rfl).1
      exact taken.performs (hb ▸ performs) launches.balance
  interrupt c h current := by
    obtain ⟨l, hp, balance⟩ := interrupt_balance (h.balance.le_one (Nat.zero_le 1)) current
    exact h.performs hp balance
  quiet c c' l h hq hp hk := h.performs hp (hk.mapped ▸ hq.balance c.mapped)
  tickets c tickets h := ⟨h.balance, h.held, h.unrefused⟩

theorem accountable_attach (unit : UInt32) (board : Board) (options : Options) (hardware : H) :
    (attach unit board options ({ inner := hardware } : Recorder H)).Accountable := by
  have hfresh : (fresh unit board options ({ inner := hardware } : Recorder H)).Accountable :=
    ⟨rfl, rfl, fun _ _ _ => List.not_mem_nil⟩
  rw [attach_eq, writeAll_eq]
  exact hfresh.performs (performs_writeAll _ _) (.writes 0 _)

end Controller

namespace System

variable {H : Type} [Hardware H]

def prod (s : System (Recorder H)) (f : H → H) : System (Recorder H) :=
  s.setParts { s.parts with bus := { s.parts.bus with
    hardware := { s.parts.bus.hardware with inner := f s.parts.bus.hardware.inner } } }

def afterProds (s : System (Recorder H)) (run : List ((H → H) × Operation)) : System (Recorder H) :=
  run.foldl (fun s move => ((s.prod move.1).step move.2).2) s

theorem step_handle (s : System H) {operation : Operation}
    (handle : ∃ m, operation = .poll m ∨ operation = .drop m) :
    (s.step operation).2 = s ∨ ∃ m value, (∀ result, value ≠ Ticket.ready result) ∧
      (s.step operation).2 = s.setParts (s.parts.setTicket m value) := by
  obtain ⟨m, rfl | rfl⟩ := handle
  · simp only [System.step]
    split
    · unfold Parts.poll
      split
      · exact .inl s.setParts_parts
      · exact .inr ⟨m, .spent, fun _ h => Ticket.noConfusion h, rfl⟩
      · exact .inl s.setParts_parts
    · exact .inl rfl
  · simp only [System.step]
    split
    · exact .inr ⟨m, .dropped, fun _ h => Ticket.noConfusion h, rfl⟩
    · exact .inl rfl

theorem bus_handle (s : System H) {operation : Operation}
    (handle : ∃ m, operation = .poll m ∨ operation = .drop m) :
    (s.step operation).2.parts.bus = s.parts.bus := by
  obtain hs | ⟨m, value, -, hs⟩ := s.step_handle handle
  · rw [hs]
  · rw [hs, parts_setParts]
    rfl

theorem step_whole_or_bus (s : System H) (operation : Operation) :
    (∃ c, (s.step operation).2 = .whole c) ∨ (s.step operation).2.parts.bus = s.parts.bus := by
  have poll (p : Parts H) (ticket : Nat) : (p.poll ticket).2.bus = p.bus := by
    unfold Parts.poll
    split <;> rfl
  cases s with
  | apart p =>
    right
    cases operation with
    | poll ticket =>
      simp only [step]
      split
      · exact poll p ticket
      · rfl
    | drop ticket =>
      simp only [step]
      split <;> rfl
    | _ => rfl
  | whole c =>
    cases operation with
    | takeApart =>
      right
      exact c.bus_takeApart
    | submit request =>
      left
      simp only [step, Controller.perform]
      rcases c.submit request with ⟨_ | _, c'⟩ <;> exact ⟨c', rfl⟩
    | poll ticket =>
      left
      simp only [step]
      split <;> exact ⟨_, rfl⟩
    | drop ticket =>
      left
      simp only [step]
      split <;> exact ⟨_, rfl⟩
    | _ => exact .inl ⟨_, rfl⟩

def Recorded (s : System (Recorder H)) : Prop :=
  s.Holds Controller.Accountable ∧
    ∃ n, Balance 0 s.parts.bus.hardware.log.toList n ∧ (Exclusive H → ∀ bytes direction,
      .load bytes direction (.error .alreadyMapped) ∉ s.parts.bus.hardware.log.toList)

variable {s : System (Recorder H)} {l : Ledger}

theorem Recorded.prod (h : s.Recorded) (f : H → H) : (s.prod f).Recorded := by
  cases s with
  | apart p => exact h
  | whole c =>
    obtain ⟨haccountable, n, balance, hnone⟩ := h
    exact ⟨⟨haccountable.balance, haccountable.held, haccountable.unrefused⟩, n, balance, hnone⟩

omit [Hardware H] in
theorem agrees_prod (h : Agrees s l) (f : H → H) : Agrees (s.prod f) l := by
  cases s <;> exact ⟨h.whole, h.tickets, h.active, h.outstanding, h.sound⟩

theorem agrees_afterProds (h : Agrees s l) (run : List ((H → H) × Operation)) :
    ∃ l, Agrees (s.afterProds run) l := by
  induction run generalizing s l with
  | nil => exact ⟨l, h⟩
  | cons move rest ih =>
    obtain ⟨l', _, _, agrees', -⟩ := (agrees_prod h move.1).step_accounted move.2
    exact ih agrees'

theorem Recorded.step (h : s.Recorded) (agrees : Agrees s l) (operation : Operation) :
    (s.step operation).2.Recorded := by
  have holds := Controller.accountable_invariant.step agrees h.1 operation
  refine ⟨holds, ?_⟩
  rcases s.step_whole_or_bus operation with ⟨c, hc⟩ | hbus
  · rw [hc] at holds ⊢
    exact ⟨c.mapped, holds.balance, holds.unrefused⟩
  · rw [hbus]
    exact h.2

theorem Recorded.afterProds (h : s.Recorded) (agrees : Agrees s l) (run : List ((H → H) × Operation)) :
    (s.afterProds run).Recorded := by
  induction run generalizing s l with
  | nil => exact h
  | cons move rest ih =>
    have agrees := agrees_prod agrees move.1
    obtain ⟨l', _, _, agrees', -⟩ := agrees.step_accounted move.2
    exact ih ((h.prod move.1).step agrees move.2) agrees'

theorem recorded_start (unit : UInt32) (board : Board) (options : Options) (hardware : H) :
    (start unit board options ({ inner := hardware } : Recorder H)).Recorded := by
  have h := Controller.accountable_attach unit board options hardware
  exact ⟨h, 0, h.balance, h.unrefused⟩

end System

/-- Whatever the hardware answers, and whatever happens to it between two operations, there is at most one
mapping at a time: as many as were loaded and not unloaded. The engine is asked to load only while nothing is
mapped, and to unload only while something is. The simulated engine never finds a buffer mapped already. -/
theorem loads_and_unloads_balanced {H : Type} [Hardware H] (unit : UInt32) (board : Board)
    (options : Options) (hardware : H) (run : List ((H → H) × Operation)) :
    let s := (System.start unit board options ({ inner := hardware } : Recorder H)).afterProds run
    let log := s.parts.bus.hardware.log.toList
    (∀ c, s = .whole c →
      c.mapped ≤ 1 ∧ log.countP Access.maps = log.countP Access.releases + c.mapped) ∧
    (∀ before access rest, log = before ++ access :: rest →
      (access.isLoad = true → before.countP Access.maps = before.countP Access.releases) ∧
      (access = .unload → before.countP Access.maps = before.countP Access.releases + 1)) ∧
    ∀ (sim : Simulator) (run : List ((Simulator → Simulator) × Operation)),
      let s := (System.start unit board options ({ inner := sim } : Recorder Simulator)).afterProds run
      (∀ c, s = .whole c → (c.mapped = 1 ↔ c.bus.mapping.isSome = true)) ∧
      ∀ bytes direction,
        .load bytes direction (.error .alreadyMapped) ∉ s.parts.bus.hardware.log.toList := by
  intro s log
  have h : s.Recorded := (System.recorded_start unit board options hardware).afterProds
    (.start unit board options _) run
  refine ⟨?_, ?_, ?_⟩
  · intro c hc
    have haccountable : c.Accountable := by
      have hholds := h.1
      rwa [hc] at hholds
    have hlog : log = c.bus.hardware.log.toList := by simp only [log, hc, System.parts]
    rw [hlog]
    have hcount := haccountable.balance.count
    rw [Nat.zero_add] at hcount
    exact ⟨haccountable.balance.le_one (Nat.zero_le 1), hcount⟩
  · intro before access rest hlog
    obtain ⟨-, n, balance, -⟩ := h
    have balance : Balance 0 log n := balance
    rw [hlog] at balance
    exact balance.asked
  · intro sim run s
    have h : s.Recorded := (System.recorded_start unit board options sim).afterProds
      (.start unit board options _) run
    refine ⟨?_, ?_⟩
    · intro c hc
      have haccountable : c.Accountable := by
        have hholds := h.1
        rwa [hc] at hholds
      rw [← haccountable.held, Bus.held]
      cases c.bus.mapping <;> simp
    · obtain ⟨-, -, -, unrefused⟩ := h
      exact unrefused simulator_exclusive

def Request.readWord : Request Bytes :=
  { command := { opcode := Opcode.readBlock, flags := .r1, data := some ⟨[0, 0, 0, 0], .read, 0⟩ } }

def System.retried : System (Recorder Scripted) :=
  (start 0 (Board.reference .sam9260) .default { inner := {} }).afterProds
    [(fun h => { h with nextFailure := some .exhausted }, .submit .readWord), (id, .submit .readWord)]

def System.retriedOnSimulator : System (Recorder Simulator) :=
  (start 0 (Board.reference .sam9260) .default
    { inner := { soc := .sam9260, card := .ofMedium (.blank 512) } }).afterProds
      [(fun sim => { sim with failNextLoad := true }, .submit .readWord), (id, .submit .readWord)]

theorem retried_read_balanced :
    let log := System.retried.parts.bus.hardware.log.toList
    (∃ c, System.retried = .whole c ∧ c.mapped ≤ 1 ∧
      log.countP Access.maps = log.countP Access.releases + c.mapped) ∧
    (∃ before rest, log = before ++ .load [0, 0, 0, 0] .fromCard (.ok 0) :: rest ∧
      before.countP Access.maps = before.countP Access.releases) ∧
    ∃ c, System.retriedOnSimulator = .whole c ∧ (c.mapped = 1 ↔ c.bus.mapping.isSome = true) := by
  intro log
  obtain ⟨hcount, hasked, hsimulated⟩ := loads_and_unloads_balanced 0 (Board.reference .sam9260) .default
    ({} : Scripted)
    [(fun h => { h with nextFailure := some .exhausted }, .submit .readWord), (id, .submit .readWord)]
  have hlog : System.retried.parts.bus.hardware.log.toList =
      System.retried.parts.bus.hardware.log.toList.take 23 ++ .load [0, 0, 0, 0] .fromCard (.ok 0) ::
        System.retried.parts.bus.hardware.log.toList.drop 24 := rfl
  refine ⟨⟨_, rfl, hcount _ rfl⟩, ⟨_, _, hlog, (hasked _ _ _ hlog).1 rfl⟩, ⟨_, rfl, ?_⟩⟩
  exact (hsimulated { soc := .sam9260, card := .ofMedium (.blank 512) } [(fun sim => { sim with failNextLoad := true },
    .submit .readWord), (id, .submit .readWord)]).1 _ rfl

end CardHost
