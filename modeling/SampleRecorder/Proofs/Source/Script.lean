import SampleRecorder.Proofs.Frame.Stream
import SampleRecorder.Source.Manager

/-!
# What a source tells

The events of a reader that reads a source to its end without being stopped.  The answers of the system are a script:
data, errors that pass, and at last the end or a failure.  Errors that pass change nothing (`readAll_filter`), and the
main fact is which events a script leads to (`events_script`).
-/

namespace SampleRecorder.Source

open SampleRecorder.Frame (Framer)

/-! ### Scripts -/

/-- Whether an answer is an error that passes: nothing came in time, or the read was interrupted. -/
def ReadResult.passes : ReadResult → Bool
  | .error (.timedOut, _) | .error (.wouldBlock, _) | .error (.interrupted, _) => true
  | .error (.other, _) => false
  | .ok _ => false

/-- Whether a reader reads on behind an answer. -/
def ReadResult.goesOn : ReadResult → Bool
  | .ok data => !data.isEmpty
  | .error e => ReadResult.passes (.error e)

/-- The data of a script: what is read before the end or a failure. -/
def dataOf (script : List ReadResult) : List (List UInt8) :=
  (script.takeWhile (·.goesOn)).filterMap Except.toOption

/-- The answer with which a script ends: the end of the source or a failure. -/
def ending? (script : List ReadResult) : Option ReadResult :=
  script.find? fun result => !result.goesOn

/-- The events of a script for a reader with a framer. -/
def told (f : Framer) (script : List ReadResult) : List Event :=
  let (lines, left) := f.pushAll (dataOf script)
  lines.map .line ++
    match ending? script with
    | none => []
    | some (.ok _) => left.flush.1.toList.map .line ++ [.status .disconnected none, .sourceClosed]
    | some (.error (_, reason)) => [.status .error (some reason), .sourceClosed]

theorem ReadResult.passes_error (kind : ErrorKind) (reason : String) :
    ReadResult.passes (.error (kind, reason)) = kind.passes := by
  cases kind <;> rfl

section Told

variable {f : Framer} {script : List ReadResult}

/-- Data gives its lines, and the rest of the script goes on with what is left of it. -/
theorem told_data {data : List UInt8} (h : data ≠ []) :
    told f (.ok data :: script) =
      (f.pushBytes data).value.1.map .line ++ told (f.pushBytes data).value.2 script := by
  have hgoes : ReadResult.goesOn (.ok data) = true := by simpa [ReadResult.goesOn] using h
  have hdata : dataOf (.ok data :: script) = data :: dataOf script := by
    rw [dataOf, List.takeWhile_cons_of_pos hgoes]
    rfl
  have hending : ending? (.ok data :: script) = ending? script := List.find?_cons_of_neg (by simp [hgoes])
  simp only [told, hdata, hending, Framer.pushAll_cons, List.map_append, List.append_assoc]

theorem told_passing {kind : ErrorKind} (h : kind.passes = true) (reason : String) :
    told f (.error (kind, reason) :: script) = told f script := by
  have hgoes : ReadResult.goesOn (.error (kind, reason)) = true := (ReadResult.passes_error kind reason).trans h
  have hdata : dataOf (.error (kind, reason) :: script) = dataOf script := by
    rw [dataOf, List.takeWhile_cons_of_pos hgoes]
    rfl
  have hending : ending? (.error (kind, reason) :: script) = ending? script :=
    List.find?_cons_of_neg (by simp [hgoes])
  rw [told, told, hdata, hending]

theorem told_end :
    told f (.ok [] :: script) = f.flush.1.toList.map .line ++ [.status .disconnected none, .sourceClosed] :=
  rfl

theorem told_failure {kind : ErrorKind} (h : kind.passes = false) (reason : String) :
    told f (.error (kind, reason) :: script) = [.status .error (some reason), .sourceClosed] := by
  have hgoes : ReadResult.goesOn (.error (kind, reason)) = false := (ReadResult.passes_error kind reason).trans h
  have hdata : dataOf (.error (kind, reason) :: script) = [] := by
    rw [dataOf, List.takeWhile_cons_of_neg (by simp [hgoes])]
    rfl
  have hending : ending? (.error (kind, reason) :: script) = some (.error (kind, reason)) :=
    List.find?_cons_of_pos (by simp [hgoes])
  rw [told, hdata, hending]
  rfl

end Told

namespace Manager

/-! ### One answer -/

theorem readAll_cons (m : Manager) (place : Nat) (input : Read) (inputs : List Read) :
    m.readAll place (input :: inputs) = (m.read place input).readAll place inputs :=
  rfl

variable {m : Manager} {place : Nat} {r : Reader}

theorem accept_nothing (h : m.readers[place]? = some r) : m.accept place ([], r) = m := by
  have hset : m.readers.set place r = m.readers := by
    obtain ⟨hlt, rfl⟩ := List.getElem?_eq_some_iff.mp h
    exact List.set_getElem_self hlt
  rw [accept, hset]
  rfl

theorem read_idle (m : Manager) (place : Nat) : m.read place .idle = m := by
  unfold read
  split
  · next r h =>
    have hread : r.read .idle = ([], r) := by
      unfold Reader.read
      cases r.phase <;> rfl
    rw [hread]
    exact accept_nothing h
  · rfl

/-- A reader that is done takes nothing. -/
theorem readAll_done (h : m.readers[place]? = some r) (hr : r.phase = .done) (inputs : List Read) :
    m.readAll place inputs = m := by
  induction inputs with
  | nil => rfl
  | cons input inputs ih =>
    have hread : m.read place input = m := by
      have hnothing : r.read input = ([], r) := by simp only [Reader.read, hr]
      simp only [read, h, hnothing]
      exact accept_nothing h
    rw [readAll_cons, hread, ih]

/-- What the current reader answers is sent, and it stays the current one. -/
theorem read_current (h : m.readers[place]? = some r) (hg : r.generation = m.shared.generation) (input : Read) :
    (m.read place input).readers[place]? = some (r.read input).2 ∧
      (m.read place input).shared.generation = m.shared.generation ∧
      (m.read place input).shared.events.toList =
        m.shared.events.toList ++ (r.read input).1.filterMap Action.event? := by
  obtain ⟨hlt, -⟩ := List.getElem?_eq_some_iff.mp h
  have hread : m.read place input = m.accept place (r.read input) := by rw [read, h]
  rw [hread]
  refine ⟨List.getElem?_set_self hlt, Shared.generation_performAll _ _ _, ?_⟩
  have hgeneration : (r.read input).2.generation = m.shared.generation := (r.generation_read input).trans hg
  rw [accept, hgeneration]
  exact Shared.events_performAll _ _

/-! ### Scripts -/

theorem filterMap_event?_lines (lines : List String) :
    (lines.map fun l => Action.emit (.line l)).filterMap Action.event? = lines.map .line := by
  rw [List.filterMap_map, ← List.filterMap_eq_map]
  rfl

/-- The events of a script follow those that were sent before. -/
theorem events_readAll (h : m.readers[place]? = some r) (hg : r.generation = m.shared.generation)
    (hp : r.phase = .reading) (hr : r.reconnects = false) (script : List ReadResult) :
    (m.readAll place (script.map Read.ofResult)).shared.events.toList =
      m.shared.events.toList ++ told r.framer script := by
  induction script generalizing m r with
  | nil => exact (List.append_nil _).symm
  | cons result script ih =>
    obtain ⟨hreader, hgeneration, hevents⟩ := read_current h hg (Read.ofResult result)
    rw [List.map_cons, readAll_cons]
    -- behind the end and behind a failure the reader is done
    have hlast (hdone : (r.read (Read.ofResult result)).2.phase = .done) :
        ((m.read place (Read.ofResult result)).readAll place (script.map Read.ofResult)).shared.events.toList =
          m.shared.events.toList ++ (r.read (Read.ofResult result)).1.filterMap Action.event? := by
      rw [readAll_done hreader hdone, hevents]
    rcases result with ⟨kind, reason⟩ | _ | ⟨b, data⟩
    · cases hpass : kind.passes with
      | true =>
        have hidle : Read.ofResult (.error (kind, reason)) = .idle := if_pos hpass
        rw [hidle, read_idle, told_passing hpass]
        exact ih h hg hp hr
      | false =>
        have hfailed : Read.ofResult (.error (kind, reason)) = .failed reason := if_neg (by simp [hpass])
        have hanswer : r.read (.failed reason) =
            ([.install none, .emit (.status .error (some reason)), .close], { r with phase := .done }) := by
          simp only [Reader.read, hp, hr, Bool.false_eq_true, ↓reduceIte]
        rw [hfailed, hanswer] at hlast
        rw [hfailed, hlast rfl, told_failure hpass]
        rfl
    · have hanswer : r.read .ended =
          (r.framer.flush.1.toList.map (fun l => .emit (.line l)) ++ [.emit (.status .disconnected none), .close],
            { r with framer := r.framer.flush.2, phase := .done }) := by
        simp only [Reader.read, hp]
      have hended : Read.ofResult (.ok []) = .ended := rfl
      rw [hended, hanswer] at hlast
      rw [hended, hlast rfl, told_end, List.filterMap_append, filterMap_event?_lines]
      rfl
    · have hanswer : r.read (.bytes (b :: data)) =
          ((r.framer.pushBytes (b :: data)).value.1.map (fun l => .emit (.line l)),
            { r with framer := (r.framer.pushBytes (b :: data)).value.2 }) := by
        simp only [Reader.read, hp]
      have hbytes : Read.ofResult (.ok (b :: data)) = .bytes (b :: data) := rfl
      rw [hbytes, hanswer] at hreader hevents
      rw [hbytes] at hgeneration
      rw [hbytes, ih hreader (hg.trans hgeneration.symm) hp hr, hevents, filterMap_event?_lines,
        told_data (List.cons_ne_nil b data), List.append_assoc]

/-- Errors that pass change nothing. -/
theorem readAll_filter (m : Manager) (place : Nat) (script : List ReadResult) :
    m.readAll place ((script.filter (!·.passes)).map Read.ofResult) = m.readAll place (script.map Read.ofResult) := by
  induction script generalizing m with
  | nil => rfl
  | cons result script ih =>
    rw [List.map_cons, readAll_cons]
    cases hpass : result.passes with
    | false =>
      rw [List.filter_cons_of_pos (by simp [hpass]), List.map_cons, readAll_cons]
      exact ih _
    | true =>
      have hidle : Read.ofResult result = .idle := by
        rcases result with ⟨kind, reason⟩ | data
        · exact if_pos ((ReadResult.passes_error kind reason).symm.trans hpass)
        · cases hpass
      rw [List.filter_cons_of_neg (by simp [hpass]), hidle, read_idle]
      exact ih m

/-- A source that is started and not connected again tells that it connects, and then either why it could not be opened,
or that it is connected, the lines of its data in order, and how it ended: with the line that was left and the news of
the disconnection, or with the failure.  Its last event is that it is closed.  Errors that pass change nothing, wherever
they stand in the script. -/
theorem events_script (m : Manager) (opener : Opener) (hr : opener.reconnects = false) (settings : Settings)
    {e : Frame.Encoding} (he : Frame.Encoding.ofName? settings.encoding = some e) (script : List ReadResult) :
    let place := m.readers.length
    let started := (m.start opener settings).value
    started.1 = .ok () ∧
      (started.2.readAll place (script.map Read.ofResult)).shared.events.toList =
        m.shared.events.toList ++ .status .connecting none ::
          (match opener.connect place with
            | .error fault => [.status .error (some fault.message), .sourceClosed]
            | .ok _ => .status .connected none :: told (.new settings.delimiter e) script) ∧
      ∀ script' : List ReadResult, script'.filter (!·.passes) = script.filter (!·.passes) →
        started.2.readAll place (script'.map Read.ofResult) = started.2.readAll place (script.map Read.ofResult) := by
  intro place started
  let reader : Reader := ⟨m.shared.generation + 1, .new settings.delimiter e, false, .reading⟩
  obtain ⟨launched, hlaunched, hreaders, hshared⟩ : ∃ launched : Manager, started = (.ok (),
      launched.accept place (reader.start (opener.connect place))) ∧ launched.readers = m.readers ++ [reader] ∧
      launched.shared = m.stop.value.shared := by
    refine ⟨{ m.stop.value with
      isActive := true, encoding := e, lineEnding := settings.lineEnding, readers := m.readers ++ [reader] }, ?_, rfl, rfl⟩
    simp only [started, value_start, value_launch, he, hr, reader, place]
  have hplace : place < launched.readers.length := by simp [hreaders, place]
  refine ⟨by rw [hlaunched], ?_, fun script' hsame => ?_⟩
  · rw [hlaunched]
    have hsent (answer : List Action × Reader) (hgeneration : answer.2.generation = launched.shared.generation) :
        (launched.accept place answer).shared.events.toList =
          m.shared.events.toList ++ answer.1.filterMap Action.event? := by
      rw [accept, hgeneration, Shared.events_performAll, hshared]
      rfl
    cases hc : opener.connect place with
    | error fault =>
      have hreader : (launched.accept place (reader.start (.error fault))).readers[place]? =
          some (reader.start (.error fault)).2 := List.getElem?_set_self hplace
      rw [readAll_done hreader rfl, hsent _ (by rw [hshared]; rfl)]
      rfl
    | ok writer =>
      have hreader : (launched.accept place (reader.start (.ok writer))).readers[place]? =
          some (reader.start (.ok writer)).2 := List.getElem?_set_self hplace
      have hcurrent : (reader.start (.ok writer)).2.generation =
          (launched.accept place (reader.start (.ok writer))).shared.generation := by
        rw [accept, Shared.generation_performAll, hshared]
        rfl
      rw [events_readAll hreader hcurrent rfl rfl, hsent _ (by rw [hshared]; rfl), List.append_assoc]
      rfl
  · rw [← readAll_filter, hsame, readAll_filter]

/-- A file whose first line comes in two parts, with an interruption between them, and whose last line has no end; and
one that fails in another way before its line is complete. -/
theorem events_script_interrupted :
    let opener : Opener := { target := "file", connect := fun _ => .ok none }
    let script : List ReadResult :=
      [.ok [0x31, 0x2C], .error (.interrupted, "interrupted"), .ok [0x32, 0x0A, 0x33], .ok []]
    let failing : List ReadResult :=
      [.error (.timedOut, "timed out"), .ok [0x31, 0x0A, 0x32], .error (.wouldBlock, "would block"),
        .error (.other, "gone"), .ok [0x33, 0x0A]]
    opener.reconnects = false ∧ Frame.Encoding.ofName? ({} : Settings).encoding = some .utf8 ∧
      ((({} : Manager).start opener {}).value.2.readAll 0 (script.map Read.ofResult)).shared.events.toList =
        [.status .connecting none, .status .connected none, .line "1,2", .line "3", .status .disconnected none,
          .sourceClosed] ∧
      ((({} : Manager).start opener {}).value.2.readAll 0 (failing.map Read.ofResult)).shared.events.toList =
        [.status .connecting none, .status .connected none, .line "1", .status .error (some "gone"), .sourceClosed] := by
  intro opener script failing
  have he : Frame.Encoding.ofName? ({} : Settings).encoding = some .utf8 := by decide +kernel
  have htold : told (.new "\n" .utf8) script =
      [.line "1,2", .line "3", .status .disconnected none, .sourceClosed] := by
    decide +kernel
  have hfailing : told (.new "\n" .utf8) failing = [.line "1", .status .error (some "gone"), .sourceClosed] := by
    decide +kernel
  obtain ⟨-, hevents, -⟩ := events_script {} opener rfl {} he script
  obtain ⟨-, hevents', -⟩ := events_script {} opener rfl {} he failing
  dsimp only [List.length_nil] at hevents hevents'
  rw [htold] at hevents
  rw [hfailing] at hevents'
  exact ⟨rfl, he, hevents, hevents'⟩

end Manager

end SampleRecorder.Source
