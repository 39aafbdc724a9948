import CardHost.Clock
import CardHost.Controller.Interrupt

namespace CardHost

namespace Memory

def placeCommand (m : Memory) (command : Command Bytes) : Command BufferId × Memory :=
  match command.data with
  | none => ({ command with data := none }, m)
  | some data =>
    let (id, m) := m.add data.buffer
    ({ command with data := some { data with buffer := id } }, m)

def place (m : Memory) (request : Request Bytes) : Request BufferId × Memory :=
  let (command, m) := m.placeCommand request.command
  match request.stop with
  | none => (⟨command, none⟩, m)
  | some stop =>
    let (stop, m) := m.placeCommand stop
    (⟨command, some stop⟩, m)

end Memory

namespace Parts

variable {H : Type}

def setTicket (p : Parts H) (ticket : Nat) (value : Ticket) : Parts H :=
  { p with tickets := p.tickets.setIfInBounds ticket value }

/-- What a handle answers: the finished request once, nothing before, and an error ever after. -/
def poll (p : Parts H) (ticket : Nat) : Except Refusal (Option (Request Bytes)) × Parts H :=
  match p.tickets[ticket]? with
  | some .waiting => (.ok none, p)
  | some (.ready request) =>
    (.ok (some (request.map p.bus.memory.get)), p.setTicket ticket .spent)
  | _ => (.error .abandoned, p)

def drop (p : Parts H) (ticket : Nat) : Parts H := p.setTicket ticket .dropped

def held (p : Parts H) (ticket : Nat) : Bool :=
  match p.tickets[ticket]? with
  | none | some .dropped => false
  | _ => true

end Parts

namespace Controller

variable {H : Type} [Hardware H]

omit [Hardware H] in
def busy (c : Controller H) : Bool := c.active.isSome

def submit (c : Controller H) (request : Request Bytes) : Except Rejection Nat × Controller H :=
  if c.detached then (.error ⟨.detached, request⟩, c)
  else if c.busy then (.error ⟨.busy, request⟩, c)
  else
    let (placed, memory) := c.bus.memory.place request
    let ticket := c.tickets.size
    let c := { c with
      bus.memory := memory
      tickets := c.tickets.push .waiting
      active := some ⟨ticket, placed, .command⟩ }
    (.ok ticket, c.launch placed.command)

omit [Hardware H] in
def takeApart (c : Controller H) : Parts H :=
  match c.active with
  | none => c.toParts
  | some a =>
    { c.toParts with
      tickets := c.tickets.modify a.ticket fun
        | .dropped => .dropped
        | _ => .spent }

omit [Hardware H] in
def acquire? (c : Controller H) : Option (Controller H) :=
  if c.owned then none else some { c with owned := true }

omit [Hardware H] in
def release (c : Controller H) : Controller H := { c with owned := false }

def writeProtected : Bool := false

omit [Hardware H] in
def setOptions (c : Controller H) (options : Options) : Controller H := { c with options }

omit [Hardware H] in
def settings (c : Controller H) : HostSettings :=
  { c.host with capabilities := c.host.capabilities.setFourWire c.options.fourWire }

omit [Hardware H] in
def readProperty (c : Controller H) (p : Property) : Except Refusal PropertyValue × Controller H :=
  if c.detached then (.error .detached, c)
  else
    let c := if p = .capabilities then { c with host := c.settings } else c
    (.ok (c.host.get p), c)

omit [Hardware H] in
def writeProperty (c : Controller H) (value : PropertyValue) : Except Refusal Unit × Controller H :=
  if c.detached then (.error .detached, c)
  else
    match c.host.set? value with
    | none => (.error (.readOnly value.property), c)
    | some host =>
      let clockRequest := match value with
        | .clock hz => hz
        | _ => c.clockRequest
      (.ok (), { c with host, clockRequest })

/-- Programs clock and bus width. The divider comes from the clock last asked for; the settings take
the rate that it gives. -/
def applySettings (c : Controller H) : Controller H :=
  let plan := Clock.plan c.clockRequest c.board.masterClock c.options.overclock
  let c := c.write Register.control <| match plan with
    | .stopped => Control.off
    | .running _ _ => Control.on ||| Control.powerSave
  let c := { c with host.bus.clock := plan.rate }
  let (slot, c) := c.read Register.slot
  let wide := if c.host.bus.width = .four then slot ||| Slot.fourWire else slot &&& ~~~Slot.fourWire
  let c := c.write Register.slot wide
  let (mode, c) := c.read Register.mode
  c.write Register.mode ((mode &&& ~~~Mode.divider) ||| plan.divider)

def update (c : Controller H) : Except Refusal BusSettings × Controller H :=
  if c.detached then (.error .detached, c)
  else
    let c := c.applySettings
    (.ok c.host.bus, c)

def setTiming (c : Controller H) (clock : UInt32) (width : BusWidth) :
    Except Refusal BusSettings × Controller H :=
  match c.writeProperty (.clock clock) with
  | (.error e, c) => (.error e, c)
  | (.ok (), c) =>
    match c.writeProperty (.busWidth width) with
    | (.error e, c) => (.error e, c)
    | (.ok (), c) => c.update

def detach (c : Controller H) : Except Refusal Unit × Controller H :=
  if c.detached then (.error .detached, c)
  else if c.busy then (.error .busy, c)
  else (.ok (), { c.writeAll quiesce with detached := true })

end Controller

end CardHost
