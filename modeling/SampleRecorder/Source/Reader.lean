import SampleRecorder.Frame.Framer
import SampleRecorder.Source.Event
import SampleRecorder.Source.Fault

/-!
# Readers of line sources

A reader opens a source, reads it, and tells about both.  It never touches what others share: it answers each step
with a list of actions, which take effect one by one and only while the reader is the current one.
-/

namespace SampleRecorder.Source

/-- The outbound side of a connection: the reader that it belongs to, and why it takes no bytes, if it does not. -/
structure Writer where
  reader : Nat
  fault : Option String := none
  deriving DecidableEq, Repr

/-- What a reader does to the shared state: it tells something, puts a writer in place, or closes the source. -/
inductive Action where
  | emit (event : Event)
  | install (writer : Option Writer)
  | close
  deriving DecidableEq, Repr

/-- What reading yields: bytes, nothing yet, the end, or a failure. -/
inductive Read where
  | bytes (bytes : List UInt8)
  | idle
  | ended
  | failed (reason : String)
  deriving DecidableEq, Repr

/-- The kinds of errors of a read; some of them only mean that there is nothing to read yet. -/
inductive ErrorKind where
  | timedOut
  | wouldBlock
  | interrupted
  | other
  deriving DecidableEq, Repr

/-- Whether it is worth to read again after an error. -/
def ErrorKind.passes : ErrorKind → Bool
  | timedOut | wouldBlock | interrupted => true
  | other => false

/-- What the system answers to a read: bytes, of which there are none at the end of the source, or an error with its
report. -/
abbrev ReadResult := Except (ErrorKind × String) (List UInt8)

/-- What an answer of the system means to a reader. -/
def Read.ofResult : ReadResult → Read
  | .ok [] => .ended
  | .ok data => .bytes data
  | .error (kind, reason) => if kind.passes then .idle else .failed reason

/-- Where a reader stands: it reads, waits before an attempt to connect again, or is done. -/
inductive Phase where
  | reading
  | waiting (attempt : Nat)
  | done
  deriving DecidableEq, Repr

/-- A reader with the number under which it was started. -/
structure Reader where
  generation : Nat
  framer : Frame.Framer
  reconnects : Bool := false
  phase : Phase := .reading
  deriving DecidableEq, Repr

/-- Attempts to connect again after a failure. -/
def attemptLimit : Nat := 3

/-- The news that an attempt to connect again is due. -/
def retrying (attempt : Nat) : Event :=
  .status .connecting (some s!"Reconnecting ({attempt}/{attemptLimit})")

namespace Reader

/-- Opens the source; the connection has a writer or none, or there is no connection. -/
def start (r : Reader) (connection : Except Fault (Option Writer)) : List Action × Reader :=
  match connection with
  | .ok writer =>
    ([.emit (.status .connecting none), .install writer, .emit (.status .connected none)], { r with phase := .reading })
  | .error fault =>
    ([.emit (.status .connecting none), .emit (.status .error (some fault.message)), .close], { r with phase := .done })

/-- Answers to what reading yields; a reader that does not read takes nothing. -/
def read (r : Reader) (input : Read) : List Action × Reader :=
  match r.phase with
  | .reading =>
    match input with
    | .bytes bytes =>
      let (lines, framer) := (r.framer.pushBytes bytes).value
      (lines.map fun l => .emit (.line l), { r with framer })
    | .idle => ([], r)
    | .ended =>
      let (line, framer) := r.framer.flush
      (line.toList.map (fun l => .emit (.line l)) ++ [.emit (.status .disconnected none), .close],
        { r with framer, phase := .done })
    | .failed reason =>
      if r.reconnects then ([.install none, .emit (retrying 1)], { r with phase := .waiting 1 })
      else ([.install none, .emit (.status .error (some reason)), .close], { r with phase := .done })
  | _ => ([], r)

theorem generation_read (r : Reader) (input : Read) : (r.read input).2.generation = r.generation := by
  unfold read
  cases r.phase with
  | reading =>
    cases input with
    | failed reason => cases r.reconnects <;> rfl
    | _ => rfl
  | _ => rfl

/-- Tries to connect again, when the time before the attempt is over. -/
def retry (r : Reader) (connection : Except Fault (Option Writer)) : List Action × Reader :=
  match r.phase with
  | .waiting attempt =>
    match connection with
    | .ok writer =>
      ([.install writer, .emit (.status .connected none)], { r with framer := r.framer.reset, phase := .reading })
    | .error _ =>
      if attempt < attemptLimit then
        ([.emit (retrying (attempt + 1))], { r with phase := .waiting (attempt + 1) })
      else ([.emit (.status .error (some "Connection lost")), .close], { r with phase := .done })
  | _ => ([], r)

theorem generation_retry (r : Reader) (connection : Except Fault (Option Writer)) :
    (r.retry connection).2.generation = r.generation := by
  unfold retry
  cases r.phase with
  | waiting attempt =>
    cases connection with
    | ok writer => rfl
    | error fault =>
      dsimp only
      split <;> rfl
  | _ => rfl

/-- Finds that it was told to stop: a reader that reads just leaves, one that waits gives the source up. -/
def heed (r : Reader) : List Action × Reader :=
  match r.phase with
  | .reading => ([], { r with phase := .done })
  | .waiting _ => ([.close], { r with phase := .done })
  | .done => ([], r)

theorem generation_heed (r : Reader) : r.heed.2.generation = r.generation := by
  unfold heed
  cases r.phase <;> rfl

end Reader

/-- The greatest number of bytes that one read yields. -/
def readLimit : Nat := 4096

/-- Bytes in pieces of at most `n + 1`. -/
def pieces (n : Nat) (bytes : List UInt8) : List (List UInt8) :=
  match bytes with
  | [] => []
  | b :: rest => (b :: rest.take n) :: pieces n (rest.drop n)
termination_by bytes.length
decreasing_by simp only [List.length_drop, List.length_cons]; omega

/-- What reading yields for bytes that arrive together. -/
def reads (bytes : List UInt8) : List Read :=
  (pieces (readLimit - 1) bytes).map .bytes

end SampleRecorder.Source
