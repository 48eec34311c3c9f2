import SampleRecorder.Log.Event
import SampleRecorder.Source.Reader
import SampleRecorder.Source.Settings

/-!
# The manager of line sources

Starts and stops readers, one at a time, and holds what they share: the number of the current reader, the writer in
place, and the events that were sent.  Each start and stop makes the readers before it stale; an action of a stale
reader has no effect (`perform_stale`).
-/

namespace SampleRecorder.Source

/-- What readers and the manager share. -/
structure Shared where
  generation : Nat := 0
  writer : Option Writer := none
  events : Array Event := #[]
  deriving DecidableEq, Repr

/-- The event that an action sends, if it sends one. -/
def Action.event? : Action → Option Event
  | .emit event => some event
  | .install _ => none
  | .close => some .sourceClosed

namespace Shared

/-- An action of the reader with the given number. -/
def perform (s : Shared) (generation : Nat) (a : Action) : Shared :=
  if generation = s.generation then
    match a with
    | .emit event => { s with events := s.events.push event }
    | .install writer => { s with writer }
    | .close => { s with writer := none, events := s.events.push .sourceClosed }
  else s

/-- Several actions of one reader, in order. -/
def performAll (s : Shared) (generation : Nat) (actions : List Action) : Shared :=
  actions.foldl (·.perform generation ·) s

theorem perform_stale {s : Shared} {generation : Nat} (h : generation ≠ s.generation) (a : Action) :
    s.perform generation a = s := by
  simp [perform, h]

@[simp] theorem generation_perform (s : Shared) (generation : Nat) (a : Action) :
    (s.perform generation a).generation = s.generation := by
  unfold perform
  split
  · cases a <;> rfl
  · rfl

/-- What the current reader does is sent. -/
theorem events_perform (s : Shared) (a : Action) :
    (s.perform s.generation a).events.toList = s.events.toList ++ a.event?.toList := by
  cases a <;> simp [perform, Action.event?]

@[simp] theorem generation_performAll (s : Shared) (generation : Nat) (actions : List Action) :
    (s.performAll generation actions).generation = s.generation := by
  induction actions generalizing s with
  | nil => rfl
  | cons a actions ih => exact (ih _).trans (generation_perform s generation a)

theorem events_performAll (s : Shared) (actions : List Action) :
    (s.performAll s.generation actions).events.toList = s.events.toList ++ actions.filterMap Action.event? := by
  induction actions generalizing s with
  | nil => simp [performAll]
  | cons a actions ih =>
    have hrest := ih (s.perform s.generation a)
    rw [generation_perform, events_perform, List.append_assoc] at hrest
    refine hrest.trans ?_
    cases h : a.event? <;> simp [h]

end Shared

/-- The manager; `readers` holds every reader that was started, and `written` the bytes that writers took. -/
structure Manager where
  isActive : Bool := false
  shared : Shared := {}
  encoding : Frame.Encoding := .utf8
  lineEnding : String := "\n"
  readers : List Reader := []
  written : List (Nat × List UInt8) := []

/-- A source that can be opened: how it is called, what opening it yields for the reader with a given place, and
whether it is worth to connect again. -/
structure Opener where
  target : String
  connect : Nat → Except Fault (Option Writer)
  reconnects : Bool := false

namespace Manager

/-- Stops the current reader. -/
def stop (m : Manager) : Traced Manager := do
  Traced.logIf m.isActive .info "Line source stop requested"
  pure { m with isActive := false, shared := { m.shared with generation := m.shared.generation + 1, writer := none } }

/-- Takes what a reader did: its actions, and its new state in its place. -/
def accept (m : Manager) (place : Nat) (answer : List Action × Reader) : Manager where
  isActive := m.isActive
  shared := m.shared.performAll answer.2.generation answer.1
  encoding := m.encoding
  lineEnding := m.lineEnding
  readers := m.readers.set place answer.2
  written := m.written

/-- Stops the current reader and adds one for another source, which has done nothing yet and stands behind the others. -/
def launch (m : Manager) (opener : Opener) (settings : Settings) : Traced (Except Fault Reader × Manager) := do
  let m ← m.stop
  match Frame.Encoding.ofName? settings.encoding with
  | none => pure (.error (.unsupportedEncoding settings.encoding), m)
  | some encoding =>
    let generation := m.shared.generation
    let reader : Reader := ⟨generation, .new settings.delimiter encoding, opener.reconnects, .reading⟩
    Traced.log .info "Line source started" [("source", .str opener.target), ("generation", .int generation)]
    pure (.ok reader,
      { m with isActive := true, encoding, lineEnding := settings.lineEnding, readers := m.readers ++ [reader] })

/-- Stops the current reader and starts one for another source. -/
def start (m : Manager) (opener : Opener) (settings : Settings) : Traced (Except Fault Unit × Manager) := do
  let place := m.readers.length
  match ← m.launch opener settings with
  | (.error fault, m) => pure (.error fault, m)
  | (.ok reader, m) => pure (.ok (), m.accept place (reader.start (opener.connect place)))

theorem value_stop (m : Manager) :
    m.stop.value =
      { m with isActive := false, shared := { m.shared with generation := m.shared.generation + 1, writer := none } } :=
  rfl

/-- Only the encoding can keep a source from being started; what was before is stopped in any case. -/
theorem value_launch (m : Manager) (opener : Opener) (settings : Settings) :
    (m.launch opener settings).value =
      match Frame.Encoding.ofName? settings.encoding with
      | none => (.error (.unsupportedEncoding settings.encoding), m.stop.value)
      | some encoding =>
        let reader : Reader :=
          ⟨m.shared.generation + 1, .new settings.delimiter encoding, opener.reconnects, .reading⟩
        (.ok reader,
          { m.stop.value with
            isActive := true, encoding, lineEnding := settings.lineEnding, readers := m.readers ++ [reader] }) := by
  unfold launch
  cases Frame.Encoding.ofName? settings.encoding <;> rfl

/-- A new reader stands behind the others. -/
theorem getElem?_launch {m m' : Manager} {opener : Opener} {settings : Settings} {reader : Reader}
    (h : (m.launch opener settings).value = (.ok reader, m')) : m'.readers[m.readers.length]? = some reader := by
  rw [value_launch] at h
  cases he : Frame.Encoding.ofName? settings.encoding with
  | none =>
    rw [he] at h
    cases h
  | some encoding =>
    rw [he] at h
    cases h
    exact List.getElem?_concat_length

theorem value_start (m : Manager) (opener : Opener) (settings : Settings) :
    (m.start opener settings).value =
      match (m.launch opener settings).value with
      | (.error fault, m') => (.error fault, m')
      | (.ok reader, m') => (.ok (), m'.accept m.readers.length (reader.start (opener.connect m.readers.length))) := by
  simp only [start, Traced.value_bind]
  obtain ⟨answer, m'⟩ := (m.launch opener settings).value
  cases answer <;> rfl

/-- Lets the reader in a place take what reading yields. -/
def read (m : Manager) (place : Nat) (input : Read) : Manager :=
  match m.readers[place]? with
  | some r => m.accept place (r.read input)
  | none => m

/-- Lets the reader in a place take several things that reading yields, in order. -/
def readAll (m : Manager) (place : Nat) (inputs : List Read) : Manager :=
  inputs.foldl (·.read place ·) m

/-- Sends bytes through the writer in place, which is not asked to take none. -/
def writeBytes (m : Manager) (bytes : List UInt8) : Except Fault Unit × Manager :=
  match m.shared.writer with
  | none => (.error .notWritable, m)
  | some ⟨_, some reason⟩ => (if bytes = [] then .ok () else .error (.notWritten reason), m)
  | some ⟨reader, none⟩ => (.ok (), { m with written := m.written ++ [(reader, bytes)] })

/-- Sends a text with the line ending behind it. -/
def write (m : Manager) (text : String) : Traced (Except Fault Unit × Manager) :=
  if !m.isActive then pure (.error .notConnected, m)
  else
    let bytes := m.encoding.encode (text.toList ++ m.lineEnding.toList)
    match m.writeBytes bytes with
    | (.ok (), m) => do
      Traced.log .debug "TX" [("bytes", .int bytes.length), ("data", .str text)]
      pure (.ok (), m)
    | (.error fault, m) => pure (.error fault, m)

end Manager

end SampleRecorder.Source
