import SampleRecorder.Proofs.Recording.Session
import SampleRecorder.Recorder.Run

/-!
# Operations on a recorder

Everything that can be done to a recorder, as one type, and the state after a list of operations.  A setup is the part
of the state that only a change of settings touches: the settings and what is compiled from them or handed on to the
session and the transmitter.  The key facts: each operation but `configure` keeps the setup (`setup_apply`), and a
setup that agrees with its settings goes on to agree with them (`inForce_after`).
-/

namespace SampleRecorder.Recorder

/-- An operation on a recorder; times are those at which it takes place. -/
inductive Op where
  | line (now : Int) (text : String)
  | run (now : Int) (events : List Event) (stopOnAutoStop : Bool)
  | start (now : Int) (classId : Option String)
  | stop
  | clear
  | configure (settings : Settings)
  | dispose
  | attach (port : Transmit.Port)
  | detach
  | queue (command : Pending)
  | send (text : String)
  | sendQuick (id : String)
  | clearLive
  | clearHistory

/-- The recorder after an operation. -/
def Op.apply (r : Recorder) : Op → Recorder
  | .line now text => (r.takeLine now text).value.2
  | .run now events stopOnAutoStop => (r.run now events stopOnAutoStop).value.2
  | .start now classId => (r.start now classId).value.2
  | .stop => r.stop.value
  | .clear => r.clear.value
  | .configure s => (r.configure s).value.2
  | .dispose => r.dispose.value
  | .attach port => r.attach port
  | .detach => r.detach.value
  | .queue command => r.queue command
  | .send text => (r.send text).value.2
  | .sendQuick id => (r.sendQuick id).value.2
  | .clearLive => r.clearLive
  | .clearHistory => r.clearHistory

/-- The recorder after operations, one after the other. -/
def after (r : Recorder) (ops : List Op) : Recorder :=
  ops.foldl Op.apply r

@[simp] theorem after_nil (r : Recorder) : r.after [] = r := rfl

@[simp] theorem after_cons (r : Recorder) (op : Op) (ops : List Op) :
    r.after (op :: ops) = (op.apply r).after ops := rfl

/-! ### What operations leave alone -/

/-- The part of the state that only a change of settings touches. -/
structure Setup where
  settings : Settings
  parser : Line.Parser
  rules : Ruleset
  template : Export.Template
  recording : Recording.Settings
  transmit : Transmit.Settings

/-- The setup of a recorder. -/
def setup (r : Recorder) : Setup where
  settings := r.settings
  parser := r.parser
  rules := r.rules
  template := r.template
  recording := r.session.settings
  transmit := r.transmitter.settings

end SampleRecorder.Recorder

namespace SampleRecorder.Transmit.Transmitter

theorem settings_send (t : Transmitter) (text : String) : (t.send text).value.2.settings = t.settings := by
  unfold send
  split
  · rfl
  · split
    · rfl
    · split
      · rfl
      · split <;> rfl

theorem settings_sendNamed (t : Transmitter) (command message : String) (data : List (String × Json)) :
    (t.sendNamed command message data).value.2.settings = t.settings := by
  unfold sendNamed
  split
  · rfl
  · exact settings_send t _

@[simp] theorem settings_sendAutomated (t : Transmitter) (trigger : Trigger) :
    (t.sendAutomated trigger).value.2.settings = t.settings :=
  settings_sendNamed t _ _ _

@[simp] theorem settings_sendClass (t : Transmitter) (classId : String) :
    (t.sendClass classId).value.2.settings = t.settings :=
  settings_sendNamed t _ _ _

@[simp] theorem settings_sendQuick (t : Transmitter) (id : String) :
    (t.sendQuick id).value.2.settings = t.settings := by
  unfold sendQuick
  split
  · exact settings_send t _
  · rfl

attribute [simp] settings_send

end SampleRecorder.Transmit.Transmitter

namespace SampleRecorder.Pending

theorem settings_sendPending (t : Transmit.Transmitter) (p : Pending) :
    (p.send t).value.2.settings = t.settings := by
  cases p <;> simp [Pending.send]

@[simp] theorem settings_sendAll (commands : List Pending) (t : Transmit.Transmitter) :
    (sendAll commands t).value.settings = t.settings := by
  induction commands generalizing t with
  | nil => rfl
  | cons p rest ih =>
    simp only [sendAll, Traced.value_bind]
    split <;> simp [ih, settings_sendPending]

end SampleRecorder.Pending

namespace SampleRecorder.Recorder

/-- What sending commands leaves alone: the setup and the session. -/
structure Sends (r r' : Recorder) : Prop where
  setup : r'.setup = r.setup
  session : r'.session = r.session

namespace Sends

theorem refl (r : Recorder) : Sends r r := ⟨rfl, rfl⟩

theorem trans {r₁ r₂ r₃ : Recorder} (h : Sends r₁ r₂) (h' : Sends r₂ r₃) : Sends r₁ r₃ :=
  ⟨h'.setup.trans h.setup, h'.session.trans h.session⟩

/-- A transmitter with the same settings takes the place of the old one. -/
theorem transmitter {r : Recorder} {t : Transmit.Transmitter} (h : t.settings = r.transmitter.settings) :
    Sends r { r with transmitter := t } := by
  refine ⟨?_, rfl⟩
  simp [Recorder.setup, h]

end Sends

theorem sends_automate (r : Recorder) (trigger : Transmit.Trigger) : Sends r (r.automate trigger).value := by
  unfold automate
  split
  · simp only [Traced.value_bind]
    split <;> exact .transmitter (by simp)
  · exact .refl r

theorem sends_setStatus (r : Recorder) (status : Source.Status) (message : Option String) :
    Sends r (r.setStatus status message).value := by
  simp only [setStatus, Traced.value_bind]
  split
  · have noted : Sends r { r with status, statusMessage := message } := ⟨rfl, rfl⟩
    refine (noted.trans (sends_automate _ .connect)).trans ?_
    exact ⟨by simp [setup], rfl⟩
  · exact ⟨rfl, rfl⟩

theorem sends_sendClass (r : Recorder) (classId : String) : Sends r (r.sendClass classId).value := by
  simp only [sendClass, Traced.value_bind]
  split <;> exact .transmitter (by simp)

theorem sends_announceStart (r : Recorder) (classId : Option String) :
    Sends r (r.announceStart classId).value := by
  unfold announceStart
  split
  · exact .refl r
  · split
    · cases classId <;> exact ⟨rfl, rfl⟩
    · rw [Traced.value_bind]
      cases classId with
      | none => exact sends_automate r .recordingStart
      | some c => exact (sends_automate r .recordingStart).trans (sends_sendClass _ c)

/-! ### The setup is kept -/

theorem setup_withSession (r : Recorder) {s : Recording.Session} (h : s.settings = r.session.settings) :
    ({ r with session := s } : Recorder).setup = r.setup := by
  simp [setup, h]

theorem setup_store (r : Recorder) (now : Int) (data : Reading) (label : Option String) :
    (r.store now data label).2.setup = r.setup := by
  unfold store Recording.Session.record
  cases r.session.isRecording <;> rfl

theorem setup_takeLine (r : Recorder) (now : Int) (line : String) :
    (r.takeLine now line).value.2.setup = r.setup := by
  simp only [takeLine, Traced.value_bind]
  split
  · rfl
  · simp only [Traced.value_bind]
    split
    · rfl
    · rfl
    · exact setup_store (r.remember line) _ _ _
    · exact setup_store (r.remember line) _ _ _

theorem setup_takeEvent (r : Recorder) (now : Int) (stopOnAutoStop : Bool) (e : Event) :
    (r.takeEvent now stopOnAutoStop e).value.2.setup = r.setup := by
  cases e with
  | line text => exact setup_takeLine r now text
  | status status message => exact (sends_setStatus r status message).setup
  | autoStop generation =>
    simp only [takeEvent, Traced.value_bind]
    have hs : ({ r with session := (r.session.expire generation).value.2 } : Recorder).setup = r.setup :=
      setup_withSession r (r.session.settings_expire generation)
    -- only an end in time is announced
    split
    · exact (sends_automate _ .recordingStop).setup.trans hs
    · exact hs
  | sourceClosed => rfl
  | shutdown => rfl

theorem setup_takeEvents (r : Recorder) (now : Int) (stopOnAutoStop : Bool) (lines : Nat) (events : List Event) :
    (takeEvents now stopOnAutoStop r lines events).value.2.2.setup = r.setup := by
  induction events generalizing r lines with
  | nil => rfl
  | cons e rest ih =>
    have he := setup_takeEvent r now stopOnAutoStop e
    simp only [takeEvents, Traced.value_bind]
    split
    · exact he
    · exact (ih _ _).trans he

/-- Every operation but a change of settings keeps the setup. -/
theorem setup_apply (r : Recorder) (op : Op) (h : ∀ s, op ≠ .configure s) : (op.apply r).setup = r.setup := by
  cases op with
  | line now text => exact setup_takeLine r now text
  | run now events stopOnAutoStop => exact setup_takeEvents r now stopOnAutoStop 0 events
  | start now classId =>
    have hs : ({ r with session := (r.session.start now classId).value.2 } : Recorder).setup = r.setup :=
      setup_withSession r (r.session.settings_start now classId)
    simp only [Op.apply, start, Traced.value_bind]
    split
    · exact (sends_announceStart _ classId).setup.trans hs
    · exact hs
  | stop =>
    have hs : ({ r with session := r.session.stop.value } : Recorder).setup = r.setup :=
      setup_withSession r r.session.settings_stop
    simp only [Op.apply, stop, Traced.value_bind]
    split
    · exact (sends_automate _ .recordingStop).setup.trans hs
    · exact hs
  | clear => rfl
  | configure s => exact absurd rfl (h s)
  | dispose => simp [Op.apply, dispose, setup, Transmit.Transmitter.disconnect]
  | attach port => rfl
  | detach => exact (sends_automate r .disconnect).setup
  | queue command => rfl
  | send text => simp [Op.apply, send, setup]
  | sendQuick id => simp [Op.apply, sendQuick, setup]
  | clearLive => rfl
  | clearHistory => rfl

/-! ### Settings in force -/

/-- Whether a setup is what its settings ask for. -/
structure Setup.InForce (c : Setup) : Prop where
  parser : Line.Parser.compile? c.settings.line c.settings.fields = .ok c.parser
  rules : c.rules = ⟨c.settings.rules.map Rule.compiled⟩
  template : c.template = Export.Template.compile c.settings.exports.template c.settings.fields
  recording : c.recording = c.settings.recording
  transmit : c.transmit = c.settings.transmit

/-- Compiling settings succeeds when the parser can be compiled. -/
theorem value_compile (s : Settings) :
    (compile s).value =
      (Line.Parser.compile? s.line s.fields).map fun parser =>
        ⟨parser, ⟨s.rules.map Rule.compiled⟩, Export.Template.compile s.exports.template s.fields⟩ := by
  simp only [compile, Line.Parser.compile, Traced.value_bind]
  cases Line.Parser.compile? s.line s.fields with
  | error fault => rfl
  | ok parser => simp [Except.map]

/-- A new recorder consists of its settings, what they are compiled into, and an empty session. -/
theorem eq_of_value_new {s : Settings} {r : Recorder} (h : (new s).value = .ok r) :
    ∃ parser, Line.Parser.compile? s.line s.fields = .ok parser ∧
      r =
        { settings := s
          parser
          rules := ⟨s.rules.map Rule.compiled⟩
          template := Export.Template.compile s.exports.template s.fields
          session := { settings := s.recording }
          transmitter := { settings := s.transmit } } := by
  simp only [new, Traced.value_bind, value_compile] at h
  cases hp : Line.Parser.compile? s.line s.fields with
  | error fault => simp [hp, Except.map] at h
  | ok parser =>
    simp only [hp, Except.map, Traced.value_bind, Traced.value_pure, Except.ok.injEq] at h
    exact ⟨parser, rfl, h.symm⟩

theorem inForce_new {s : Settings} {r : Recorder} (h : (new s).value = .ok r) : r.setup.InForce := by
  obtain ⟨parser, hp, rfl⟩ := eq_of_value_new h
  exact ⟨hp, rfl, rfl, rfl, rfl⟩

theorem session_new {s : Settings} {r : Recorder} (h : (new s).value = .ok r) :
    r.session = { settings := s.recording } := by
  obtain ⟨parser, -, rfl⟩ := eq_of_value_new h
  rfl

/-- New settings are taken as a whole, or not at all. -/
theorem value_configure (r : Recorder) (s : Settings) :
    (r.configure s).value =
      match Line.Parser.compile? s.line s.fields with
      | .error fault => (.error fault, r)
      | .ok parser =>
        (.ok (),
          { r with
            settings := s
            parser
            rules := ⟨s.rules.map Rule.compiled⟩
            template := Export.Template.compile s.exports.template s.fields
            session := (r.session.configure s.recording).value
            transmitter := (r.transmitter.configure s.transmit).value }) := by
  simp only [configure, Traced.value_bind, value_compile]
  cases Line.Parser.compile? s.line s.fields <;> rfl

theorem inForce_configure {r : Recorder} (h : r.setup.InForce) (s : Settings) :
    (r.configure s).value.2.setup.InForce := by
  rw [value_configure]
  cases hp : Line.Parser.compile? s.line s.fields with
  | error fault => exact h
  | ok parser => exact ⟨hp, rfl, rfl, rfl, rfl⟩

theorem inForce_apply {r : Recorder} (h : r.setup.InForce) (op : Op) : (op.apply r).setup.InForce := by
  by_cases hop : ∃ s, op = .configure s
  · obtain ⟨s, rfl⟩ := hop
    exact inForce_configure h s
  · rw [setup_apply r op fun s hs => hop ⟨s, hs⟩]
    exact h

/-- After any operations the parts of a recorder are those of the settings in force. -/
theorem inForce_after {r : Recorder} (h : r.setup.InForce) (ops : List Op) : (r.after ops).setup.InForce := by
  induction ops generalizing r with
  | nil => exact h
  | cons op ops ih => exact ih (inForce_apply h op)

end SampleRecorder.Recorder
