import SampleRecorder.Recorder.Pending

/-!
# Outcomes of commands

What becomes of a command.  It stands for a text or for none (`Pending.text?`), and four obstacles may keep a text from
being sent (`Transmitter.obstacles`).  The key facts: the answer is the first obstacle that applies, and then nothing
has changed but that a port that was asked has answered (`value_send_of_obstacle`); without one the text is sent and
remembered (`value_send_of_clear`).  From these follows what every command leads to in every run (`send_after`).

A port answers each write for itself, and a run also says when it changes its mind about those to come.
-/

namespace SampleRecorder

namespace Pending

/-- The text of a configured command, which stands for none when it is blank. -/
def configured? (command : String) : Option String :=
  match Text.trim command.toList with
  | [] => none
  | trimmed => some (String.ofList trimmed)

/-- The text that a command stands for under settings, if it stands for one. -/
def text? (s : Transmit.Settings) : Pending → Option String
  | text t => some t
  | quick id => (s.quickCommands.find? fun c => c.id == id && c.enabled).map (·.command)
  | automated trigger => configured? (s.automated.command trigger)
  | classCommand id => (s.classCommands.find? fun c => c.classId == id && c.enabled).bind fun c => configured? c.command

/-- The answer to a command that stands for no text; only a quick command has to stand for one. -/
def idleAnswer : Pending → Except Transmit.Fault Unit
  | quick id => .error (.unknownCommand id)
  | _ => .ok ()

/-- The bytes that a command hands to the port in place, one entry for each write: what a port takes that takes
everything. -/
def handed (t : Transmit.Transmitter) (p : Pending) : List (List UInt8) :=
  (p.send { t with port := t.port.map fun _ => {} }).value.2.wire.drop t.wire.length

/-- The port in place behind a command, when it has answered what it was handed. -/
def portAfter (t : Transmit.Transmitter) (p : Pending) : Option Transmit.Port :=
  if p.handed t = [] then t.port else t.port.map Transmit.Port.next

/-- The bytes that the port in place takes from a command. -/
def taken (t : Transmit.Transmitter) (p : Pending) : List (List UInt8) :=
  match (p.send t).value.1 with
  | .ok _ => p.handed t
  | .error _ => []

theorem portAfter_of_handed {t : Transmit.Transmitter} {p : Pending} (h : p.handed t ≠ []) :
    p.portAfter t = t.port.map Transmit.Port.next :=
  if_neg h

theorem portAfter_of_not_handed {t : Transmit.Transmitter} {p : Pending} (h : p.handed t = []) :
    p.portAfter t = t.port :=
  if_pos h

theorem taken_eq_nil {t : Transmit.Transmitter} {p : Pending} (h : p.handed t = []) : p.taken t = [] := by
  unfold taken
  rw [h]
  cases (p.send t).value.1 <;> rfl

end Pending

namespace Transmit.Transmitter

/-! ### One text -/

/-- What may keep a text from being sent, each for itself: the settings, the text, the lack of a port, and the port. -/
def obstacles (t : Transmitter) (text : String) : List (Option Fault) :=
  [if t.settings.enabled then none else some .disabled,
    if (encode t.settings.encoding t.settings.lineEnding text).toOption.isSome then none else some (.notHex text),
    if t.port.isSome then none else some (.port .notConnected),
    t.port.bind fun port => port.fault.map .port]

theorem eq_notHex_of_encode {e : Encoding} {lineEnding text : String} {fault : Fault}
    (h : encode e lineEnding text = .error fault) : fault = .notHex text := by
  cases e with
  | utf8 => cases h
  | ascii => cases h
  | raw =>
    simp only [encode] at h
    split at h
    · cases h
    · cases h
      rfl

theorem value_send (t : Transmitter) (text : String) :
    (t.send text).value =
      if t.settings.enabled then
        match encode t.settings.encoding t.settings.lineEnding text with
        | .error fault => (.error fault, t)
        | .ok bytes =>
          match t.port with
          | none => (.error (.port .notConnected), t)
          | some port =>
            match port.fault with
            | some fault => (.error (.port fault), t.answered)
            | none => (.ok (), t.answered.remember text bytes)
      else (.error .disabled, t) := by
  unfold send
  cases t.settings.enabled with
  | false => rfl
  | true =>
    cases encode t.settings.encoding t.settings.lineEnding text with
    | error fault => rfl
    | ok bytes =>
      cases t.port with
      | none => rfl
      | some port =>
        dsimp only
        cases port.fault <;> rfl

theorem obstacles_clear_iff (t : Transmitter) (text : String) :
    (t.obstacles text).findSome? id = none ↔
      t.settings.enabled = true ∧ (∃ bytes, encode t.settings.encoding t.settings.lineEnding text = .ok bytes) ∧
        ∃ port, t.port = some port ∧ port.fault = none := by
  cases he : t.settings.enabled with
  | false => simp [obstacles, he]
  | true =>
    cases hb : encode t.settings.encoding t.settings.lineEnding text with
    | error fault => simp [obstacles, he, hb, Except.toOption]
    | ok bytes => cases hp : t.port <;> simp [obstacles, he, hb, hp, Except.toOption]

/-- The first obstacle that applies is the answer, and nothing has changed; if it is the port, then this has answered. -/
theorem value_send_of_obstacle {t : Transmitter} {text : String} {fault : Fault}
    (h : (t.obstacles text).findSome? id = some fault) :
    (t.send text).value =
      (.error fault, if ((t.obstacles text).take 3).findSome? id = none then t.answered else t) := by
  rw [value_send]
  cases he : t.settings.enabled with
  | false =>
    simp only [obstacles, he, Bool.false_eq_true, ↓reduceIte, List.findSome?_cons, id, Option.some.injEq] at h
    simp [obstacles, he, ← h]
  | true =>
    cases hb : encode t.settings.encoding t.settings.lineEnding text with
    | error cause =>
      have hcause := eq_notHex_of_encode hb
      simp_all [obstacles, Except.toOption]
    | ok bytes =>
      cases hp : t.port with
      | none => simp_all [obstacles, Except.toOption]
      | some port => cases hf : port.fault <;> simp_all [obstacles, Except.toOption]

/-- Without an obstacle the text is sent and remembered. -/
theorem value_send_of_clear {t : Transmitter} {text : String} (h : (t.obstacles text).findSome? id = none) :
    ∃ bytes, encode t.settings.encoding t.settings.lineEnding text = .ok bytes ∧
      (t.send text).value = (.ok (), t.answered.remember text bytes) := by
  obtain ⟨he, ⟨bytes, hb⟩, port, hp, hf⟩ := (t.obstacles_clear_iff text).mp h
  refine ⟨bytes, hb, ?_⟩
  rw [value_send, if_pos he]
  simp only [hb, hp, hf]

/-! ### One command -/

theorem value_sendNamed (t : Transmitter) (command message : String) (data : List (String × Json)) :
    (t.sendNamed command message data).value =
      match Pending.configured? command with
      | some text => (t.send text).value
      | none => (.ok (), t) := by
  unfold sendNamed Pending.configured?
  cases Text.trim command.toList <;> rfl

end Transmit.Transmitter

namespace Pending

open Transmit (Transmitter Fault Port encode)

/-- A command is sent as its text, or not at all. -/
theorem value_send (t : Transmitter) (p : Pending) :
    (p.send t).value =
      match p.text? t.settings with
      | some content => (t.send content).value
      | none => (p.idleAnswer, t) := by
  cases p with
  | text content => rfl
  | quick id =>
    simp only [send, text?, Transmitter.sendQuick]
    cases t.settings.quickCommands.find? fun c => c.id == id && c.enabled <;> rfl
  | automated trigger =>
    simp only [send, text?, Transmitter.sendAutomated, Transmitter.value_sendNamed]
    rfl
  | classCommand id =>
    simp only [send, text?, Transmitter.sendClass, Transmitter.value_sendNamed]
    cases t.settings.classCommands.find? fun c => c.classId == id && c.enabled <;> rfl

theorem value_send_of_text {t : Transmitter} {p : Pending} {content : String} (h : p.text? t.settings = some content) :
    (p.send t).value = (t.send content).value := by
  rw [value_send, h]

theorem value_send_of_no_text {t : Transmitter} {p : Pending} (h : p.text? t.settings = none) :
    (p.send t).value = (p.idleAnswer, t) := by
  rw [value_send, h]

/-- The port is handed the bytes of a text, provided that it is reached: the transmitter is enabled, the text has
bytes, and there is a port. -/
theorem handed_of_text {t : Transmitter} {p : Pending} {content : String} (h : p.text? t.settings = some content) :
    p.handed t =
      if t.settings.enabled ∧ t.port.isSome then
        (encode t.settings.encoding t.settings.lineEnding content).toOption.toList
      else [] := by
  have htext : p.text? ({ t with port := t.port.map fun _ => {} } : Transmitter).settings = some content := h
  rw [handed, value_send_of_text htext, Transmitter.value_send]
  cases he : t.settings.enabled with
  | false => simp
  | true =>
    cases hb : encode t.settings.encoding t.settings.lineEnding content with
    | error fault => simp [Except.toOption]
    | ok bytes => cases t.port <;> simp [Except.toOption, Transmitter.remember, Transmitter.answered]

theorem handed_of_no_text {t : Transmitter} {p : Pending} (h : p.text? t.settings = none) : p.handed t = [] := by
  have htext : p.text? ({ t with port := t.port.map fun _ => {} } : Transmitter).settings = none := h
  rw [handed, value_send_of_no_text htext, List.drop_length]

theorem handed_of_disabled {t : Transmitter} (h : t.settings.enabled = false) (p : Pending) : p.handed t = [] := by
  cases htext : p.text? t.settings with
  | none => exact handed_of_no_text htext
  | some content => rw [handed_of_text htext, h]; simp

/-- Where the port is handed nothing, it does not matter how it would answer. -/
theorem value_send_turned {t : Transmitter} {p : Pending} (h : p.handed t = []) (port : Port) :
    (p.send { t with port := t.port.map fun _ => port }).value =
      ((p.send t).value.1, { t with port := t.port.map fun _ => port }) := by
  have htext (s : Transmitter) (hs : s.settings = t.settings) : p.text? s.settings = p.text? t.settings := by rw [hs]
  cases hc : p.text? t.settings with
  | none => rw [value_send_of_no_text hc, value_send_of_no_text (by exact hc)]
  | some content =>
    rw [value_send_of_text hc, value_send_of_text (by exact hc), Transmitter.value_send, Transmitter.value_send]
    rw [handed_of_text hc] at h
    cases he : t.settings.enabled with
    | false => simp
    | true =>
      cases hb : encode t.settings.encoding t.settings.lineEnding content with
      | error fault => simp
      | ok bytes =>
        cases hp : t.port with
        | none => simp
        | some port => simp [he, hb, hp, Except.toOption] at h

end Pending

end SampleRecorder
