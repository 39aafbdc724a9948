import CardHost.Controller.Client
/-!
A controller together with its clients and its interrupt line, as a system that takes one operation
after the other. The operations come in any order and number. Taking the controller apart leaves its
parts, which answer the handles that are still held.
-/
namespace CardHost

inductive Operation where
  | submit (request : Request Bytes)
  | interrupt
  | poll (ticket : Nat)
  | drop (ticket : Nat)
  | readProperty (property : Property)
  | writeProperty (value : PropertyValue)
  | setOptions (options : Options)
  | update
  | setTiming (clock : UInt32) (width : BusWidth)
  | isBusy
  | countMappings
  | readSettings
  | acquire
  | release
  | detach
  | takeApart

inductive Answer where
  | accepted (ticket : Nat)
  | rejected (rejection : Rejection)
  | polled (outcome : Except Refusal (Option (Request Bytes)))
  | property (outcome : Except Refusal PropertyValue)
  | timing (outcome : Except Refusal BusSettings)
  | outcome (outcome : Except Refusal Unit)
  | settings (settings : HostSettings)
  | flag (value : Bool)
  | count (value : Nat)
  | silent
  | gone

inductive System (H : Type) where
  | whole (controller : Controller H)
  | apart (parts : Parts H)

namespace Controller

variable {H : Type} [Hardware H]

def perform (c : Controller H) : Operation → Answer × System H
  | .submit request =>
    match c.submit request with
    | (.ok ticket, c) => (.accepted ticket, .whole c)
    | (.error rejection, c) => (.rejected rejection, .whole c)
  | .interrupt => (.silent, .whole c.interrupt)
  | .readProperty p => (.property (c.readProperty p).1, .whole (c.readProperty p).2)
  | .writeProperty value => (.outcome (c.writeProperty value).1, .whole (c.writeProperty value).2)
  | .setOptions options => (.silent, .whole (c.setOptions options))
  | .update => (.timing c.update.1, .whole c.update.2)
  | .setTiming clock width =>
    (.timing (c.setTiming clock width).1, .whole (c.setTiming clock width).2)
  | .isBusy => (.flag c.busy, .whole c)
  | .countMappings => (.count c.mapped, .whole c)
  | .readSettings => (.settings c.settings, .whole c)
  | .acquire => (.flag c.acquire?.isSome, .whole (c.acquire?.getD c))
  | .release => (.silent, .whole c.release)
  | .detach => (.outcome c.detach.1, .whole c.detach.2)
  | .takeApart => (.silent, .apart c.takeApart)
  | .poll _ | .drop _ => (.silent, .whole c)

end Controller

namespace System

variable {H : Type}

def parts : System H → Parts H
  | whole c => c.toParts
  | apart p => p

def setParts : System H → Parts H → System H
  | whole c, p => .whole { c with toParts := p }
  | apart _, p => .apart p

def active? : System H → Option Active
  | whole c => c.active
  | apart _ => none

def isWhole : System H → Bool
  | whole _ => true
  | apart _ => false

variable [Hardware H]

def step (s : System H) : Operation → Answer × System H
  | .poll ticket =>
    if s.parts.held ticket then
      (.polled (s.parts.poll ticket).1, s.setParts (s.parts.poll ticket).2)
    else (.gone, s)
  | .drop ticket =>
    if s.parts.held ticket then (.silent, s.setParts (s.parts.drop ticket)) else (.gone, s)
  | operation =>
    match s with
    | whole c => c.perform operation
    | apart _ => (.gone, s)

theorem step_whole (c : Controller H) {operation : Operation}
    (handle : ∀ n, operation ≠ .poll n ∧ operation ≠ .drop n) :
    (whole c).step operation = c.perform operation := by
  cases operation with
  | poll n => exact ((handle n).1 rfl).elim
  | drop n => exact ((handle n).2 rfl).elim
  | _ => rfl

theorem step_apart (p : Parts H) {operation : Operation}
    (handle : ∀ n, operation ≠ .poll n ∧ operation ≠ .drop n) :
    (apart p).step operation = (.gone, apart p) := by
  cases operation with
  | poll n => exact ((handle n).1 rfl).elim
  | drop n => exact ((handle n).2 rfl).elim
  | _ => rfl

theorem apart_step (parts : Parts H) (operation : Operation) :
    ∃ parts', ((apart parts).step operation).2 = .apart parts' := by
  cases operation with
  | poll ticket =>
    rw [step]
    split <;> exact ⟨_, rfl⟩
  | drop ticket =>
    rw [step]
    split <;> exact ⟨_, rfl⟩
  | _ => exact ⟨parts, rfl⟩

def after (s : System H) (operations : List Operation) : System H :=
  operations.foldl (fun s operation => (s.step operation).2) s

def answers : System H → List Operation → List Answer
  | _, [] => []
  | s, operation :: rest => (s.step operation).1 :: (s.step operation).2.answers rest

def start (unit : UInt32) (board : Board) (options : Options) (hardware : H) : System H :=
  whole (Controller.attach unit board options hardware)

omit [Hardware H] in
@[simp] theorem parts_setParts (s : System H) (p : Parts H) : (s.setParts p).parts = p := by
  cases s <;> rfl

omit [Hardware H] in
@[simp] theorem setParts_parts (s : System H) : s.setParts s.parts = s := by
  cases s <;> rfl

omit [Hardware H] in
@[simp] theorem active?_setParts (s : System H) (p : Parts H) :
    (s.setParts p).active? = s.active? := by
  cases s <;> rfl

omit [Hardware H] in
@[simp] theorem isWhole_setParts (s : System H) (p : Parts H) :
    (s.setParts p).isWhole = s.isWhole := by
  cases s <;> rfl

theorem after_cons (s : System H) (operation : Operation) (rest : List Operation) :
    s.after (operation :: rest) = (s.step operation).2.after rest := rfl

end System

end CardHost
