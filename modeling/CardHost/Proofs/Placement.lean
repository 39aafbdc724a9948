import CardHost.Proofs.Operations

namespace CardHost

namespace Command

variable {B C : Type}

/-- A command without its outcome: no error, no response, and no data accounted as moved. -/
def blank (c : Command B) : Command B :=
  { c with
    data := c.data.map fun data => { data with moved := 0 }
    error := none
    response := Vector.replicate 4 0 }

def buffers (c : Command B) : List B := c.data.toList.map (·.buffer)

theorem map_map {D : Type} (f : B → C) (g : C → D) (c : Command B) :
    (c.map f).map g = c.map (g ∘ f) := by
  cases h : c.data <;> simp [map, Payload.map, h]

theorem map_congr {f g : B → C} {c : Command B} (h : ∀ b ∈ c.buffers, f b = g b) :
    c.map f = c.map g := by
  cases hd : c.data with
  | none => simp [map, hd]
  | some data =>
    have hb := h data.buffer (by simp [buffers, hd])
    simp [map, Payload.map, hd, hb]

theorem data_map (f : B → C) {c : Command B} {data : Payload B} (h : c.data = some data) :
    (c.map f).data = some { data with buffer := f data.buffer } := by
  rw [map, h]
  rfl

theorem blank_map (f : B → C) (c : Command B) : (c.map f).blank = c.blank.map f := by
  cases h : c.data <;> simp [blank, map, Payload.map, h]

@[simp] theorem buffers_blank (c : Command B) : c.blank.buffers = c.buffers := by
  cases h : c.data <;> simp [blank, buffers, h]

end Command

namespace Request

variable {B C : Type}

def blank (r : Request B) : Request B := ⟨r.command.blank, r.stop.map (·.blank)⟩

def buffers (r : Request B) : List B := r.command.buffers ++ (r.stop.elim [] (·.buffers))

def outline (r : Request Bytes) : Request Nat := (r.map List.length).blank

theorem map_map {D : Type} (f : B → C) (g : C → D) (r : Request B) :
    (r.map f).map g = r.map (g ∘ f) := by
  cases h : r.stop <;> simp [map, h, Command.map_map]

theorem map_congr {f g : B → C} {r : Request B} (h : ∀ b ∈ r.buffers, f b = g b) :
    r.map f = r.map g := by
  have hc := Command.map_congr (f := f) (g := g) (c := r.command) fun b hb => h b (by
    simp [buffers, hb])
  cases hs : r.stop with
  | none => simp [map, hs, hc]
  | some stop =>
    have hstop := Command.map_congr (f := f) (g := g) (c := stop) fun b hb => h b (by
      simp [buffers, hs, hb])
    simp [map, hs, hc, hstop]

theorem blank_map (f : B → C) (r : Request B) : (r.map f).blank = r.blank.map f := by
  cases h : r.stop <;> simp [blank, map, h, Command.blank_map]

theorem stop_isSome_of_blank {r r' : Request B} (h : r.blank = r'.blank) :
    r.stop.isSome = r'.stop.isSome := by
  have hs := congrArg (fun r => r.stop.isSome) h
  simpa [blank] using hs

end Request

namespace Active

theorem blank_replace {a : Active} {command command' : Command BufferId}
    (hc : a.current? = some command) (h : command'.blank = command.blank) :
    (a.replace command').request.blank = a.request.blank := by
  obtain ⟨ticket, ⟨first, stop⟩, phase⟩ := a
  cases phase with
  | command =>
    cases hc
    simp [replace, modify, Request.blank, h]
  | stop =>
    cases hc
    simp [replace, modify, Request.blank, h]

end Active

namespace Controller

variable {H : Type} {c : Controller H}

@[simp] theorem blank_restaged (command : Command BufferId) :
    (restaged command).blank = command.blank := by
  simp [restaged, Command.blank, Function.comp_def]

@[simp] theorem blank_unmapped (command : Command BufferId) :
    (unmapped command).blank = command.blank := by
  simp [unmapped, restaged, Command.blank, Function.comp_def]

@[simp] theorem blank_accounted (command : Command BufferId) :
    (c.accounted command).blank = command.blank := by
  simp [accounted, Command.blank, Function.comp_def]

@[simp] theorem blank_staged (command : Command BufferId) (status : UInt32) :
    (c.staged command status).blank = command.blank := by
  unfold staged
  split <;> simp

theorem Ends.blank [Hardware H] {command last : Command BufferId} {status : UInt32}
    {l : List Access} {mapped : Nat} {error : Option CommandError}
    (h : c.Ends command status l mapped last error) : last.blank = command.blank := by
  cases h <;> simp

end Controller

namespace Memory

theorem range'_join {p q r : Nat} (h : p ≤ q) (h' : q ≤ r) :
    List.range' p (q - p) ++ List.range' q (r - q) = List.range' p (r - p) := by
  obtain ⟨k, rfl⟩ := Nat.exists_eq_add_of_le h
  rw [Nat.add_sub_cancel_left, List.range'_append_1]
  congr 1
  omega

theorem placeCommand_extends (m : Memory) (command : Command Bytes) :
    m.Extends (m.placeCommand command).2 := by
  unfold placeCommand
  split
  · exact .refl m
  · exact m.extends_add _

theorem placeCommand_buffers (m : Memory) (command : Command Bytes) :
    (m.placeCommand command).1.buffers =
      List.range' m.buffers.size ((m.placeCommand command).2.buffers.size - m.buffers.size) := by
  unfold placeCommand
  split <;> simp [Command.buffers, add]

theorem map_placeCommand (m : Memory) (command : Command Bytes) :
    (m.placeCommand command).1.map (m.placeCommand command).2.get = command := by
  obtain ⟨opcode, argument, flags, data, error, response⟩ := command
  cases data with
  | none => rfl
  | some data =>
    simp [placeCommand, Command.map, Payload.map, add, get]

theorem place_extends (m : Memory) (request : Request Bytes) : m.Extends (m.place request).2 := by
  have h := m.placeCommand_extends request.command
  unfold place
  dsimp only
  split
  · exact h
  · exact h.trans (placeCommand_extends _ _)

theorem place_buffers (m : Memory) (request : Request Bytes) :
    (m.place request).1.buffers =
      List.range' m.buffers.size ((m.place request).2.buffers.size - m.buffers.size) := by
  have h := (m.placeCommand_extends request.command).1
  unfold place
  dsimp only
  split
  · simp [Request.buffers, placeCommand_buffers]
  · next stop _ =>
    have h' := ((m.placeCommand request.command).2.placeCommand_extends stop).1
    simp only [Request.buffers, placeCommand_buffers, Option.elim_some]
    exact range'_join h h'

theorem place_distinct (m : Memory) (request : Request Bytes) {stop : Command BufferId}
    (hstop : (m.place request).1.stop = some stop) {id : BufferId} (hid : id ∈ stop.buffers) :
    id ∉ (m.place request).1.command.buffers := by
  have distinct : (m.place request).1.buffers.Nodup := by
    rw [m.place_buffers]
    exact List.nodup_range'
  rw [Request.buffers, hstop] at distinct
  exact fun there => (List.nodup_append.mp distinct).2.2 id there id hid rfl

theorem map_place (m : Memory) (request : Request Bytes) :
    (m.place request).1.map (m.place request).2.get = request := by
  have hc := m.map_placeCommand request.command
  obtain ⟨command, stop⟩ := request
  cases stop with
  | none =>
    simp only [place, Request.map, Option.map_none]
    rw [hc]
  | some stop =>
    simp only [place, Request.map, Option.map_some]
    have hold := (m.placeCommand command).2.placeCommand_extends stop
    rw [map_placeCommand, Command.map_congr (g := (m.placeCommand command).2.get), hc]
    intro id hid
    apply hold.2 id
    rw [placeCommand_buffers, List.mem_range'_1] at hid
    omega

end Memory

end CardHost
