import SampleRecorder.Proofs.Recorder.Active

/-!
# Samples of a run

Which lines become samples.  `Arrival.sample?` says it of one line from what is in force at that moment: the settings,
whether a recording is active, and its class.  The main fact: after any operations the samples are those of the lines
that have arrived since they were last cleared, in order (`samples_after`).  Each of them arrives at a step of the run,
and a recording is active there if the latest start before it has not been ended since.
-/

namespace SampleRecorder.Recorder

/-- A line at the moment at which a recorder takes it. -/
structure Arrival where
  recorder : Recorder
  now : Int
  text : String

namespace Arrival

/-- What a parser of the settings in force makes of the line. -/
def reading? (a : Arrival) : Option Reading :=
  match Line.Parser.compile? a.recorder.settings.line a.recorder.settings.fields with
  | .ok parser => (parser.read a.now a.text).value
  | .error _ => none

/-- The first enabled rule of the settings in force whose condition holds. -/
def rule? (a : Arrival) (data : Reading) : Option Rule :=
  a.recorder.settings.rules.find? fun r => r.enabled && (Rule.Condition.ofText r.condition).holds data

/-- The sample of a reading under the label of a rule, or else under the class of the recording. -/
def labeled (a : Arrival) (data : Reading) (label : Option String) : Sample where
  reading := data
  recordedAt := a.now
  label := label <|> a.recorder.session.currentClass

/-- The sample that the line is to become, if any. -/
def sample? (a : Arrival) : Option Sample :=
  if a.recorder.session.isRecording then
    a.reading?.bind fun data =>
      match a.rule? data with
      | none => some (a.labeled data none)
      | some rule => if rule.action = .label then some (a.labeled data rule.value) else none
  else none

end Arrival

/-- The line that an event brings. -/
def eventArrival (r : Recorder) (now : Int) : Event → List Arrival
  | .line text => [⟨r, now, text⟩]
  | _ => []

/-- The lines among events that are taken, each at its moment. -/
def eventArrivals (now : Int) (stopOnAutoStop : Bool) (r : Recorder) : List Event → List Arrival
  | [] => []
  | e :: rest =>
    match (r.takeEvent now stopOnAutoStop e).value with
    | (some _, _) => eventArrival r now e
    | (none, r') => eventArrival r now e ++ eventArrivals now stopOnAutoStop r' rest

/-- The lines that an operation takes. -/
def Op.arrivals (r : Recorder) : Op → List Arrival
  | .line now text => [⟨r, now, text⟩]
  | .run now events stopOnAutoStop => eventArrivals now stopOnAutoStop r events
  | _ => []

/-- The lines that operations take after the samples were last cleared, behind those that were `seen` before. -/
def arrivalsSinceClear (r : Recorder) (seen : List Arrival) : List Op → List Arrival
  | [] => seen
  | .clear :: ops => arrivalsSinceClear (Op.clear.apply r) [] ops
  | op :: ops => arrivalsSinceClear (op.apply r) (seen ++ op.arrivals r) ops

/-! ### One line -/

/-- The verdict of the rules in force is that of the first rule that applies. -/
theorem value_judge_of_inForce {r : Recorder} (h : r.setup.InForce) (now : Int) (text : String) (data : Reading) :
    (r.rules.judge data).value = .ofRule? ((Arrival.rule? ⟨r, now, text⟩ data).map Rule.compiled) := by
  have hr : r.rules = ⟨r.settings.rules.map Rule.compiled⟩ := h.rules
  rw [Ruleset.value_judge, hr, List.find?_map]
  rfl

theorem value_read_of_inForce {r : Recorder} (h : r.setup.InForce) (now : Int) (text : String) :
    (r.parser.read now text).value = Arrival.reading? ⟨r, now, text⟩ := by
  have hp : Line.Parser.compile? r.settings.line r.settings.fields = .ok r.parser := h.parser
  simp only [Arrival.reading?, hp]

theorem value_takeLine (r : Recorder) (now : Int) (text : String) :
    (r.takeLine now text).value =
      match (r.parser.read now text).value with
      | none => (.rejected, r.remember text)
      | some data =>
        match (r.rules.judge data).value with
        | .act .ignore _ rule => (.ignored rule, r.remember text)
        | .act .log _ rule => (.logged rule, r.remember text)
        | .act .label value _ => (r.remember text).store now data value
        | .pass => (r.remember text).store now data none := by
  have hp : (r.remember text).parser = r.parser := rfl
  have hr : (r.remember text).rules = r.rules := rfl
  simp only [takeLine, Traced.value_bind, hp, hr]
  cases (r.parser.read now text).value with
  | none => rfl
  | some data =>
    simp only [Traced.value_bind]
    cases (r.rules.judge data).value with
    | pass => rfl
    | act action value rule => cases action <;> rfl

/-- Storing a reading while a recording is active. -/
theorem store_of_isRecording {r : Recorder} (h : r.session.isRecording = true) (now : Int) (text : String)
    (data : Reading) (label : Option String) :
    ((r.remember text).store now data label).1 = .recorded (Arrival.labeled ⟨r, now, text⟩ data label).label ∧
      ((r.remember text).store now data label).2.session.samples =
        r.session.samples ++ [Arrival.labeled ⟨r, now, text⟩ data label] := by
  have h' : (r.remember text).session.isRecording = true := h
  simp only [store, Recording.Session.record, h', ↓reduceIte]
  exact ⟨rfl, rfl⟩

/-- Without a recording nothing is stored. -/
theorem store_of_not_isRecording {r : Recorder} (h : r.session.isRecording = false) (now : Int) (text : String)
    (data : Reading) (label : Option String) :
    (r.remember text).store now data label = (.passed, r.remember text) := by
  have h' : (r.remember text).session.isRecording = false := h
  simp [store, Recording.Session.record, h']

theorem session_remember (r : Recorder) (text : String) : (r.remember text).session = r.session := rfl

/-- A line that is to become a sample is recorded under the label of the sample. -/
theorem takeLine_of_sample?_eq_some {r : Recorder} (h : r.setup.InForce) {now : Int} {text : String} {sample : Sample}
    (hs : Arrival.sample? ⟨r, now, text⟩ = some sample) :
    (r.takeLine now text).value.1 = .recorded sample.label ∧
      (r.takeLine now text).value.2.session.samples = r.session.samples ++ [sample] := by
  unfold Arrival.sample? at hs
  split at hs
  · next hr =>
    obtain ⟨data, hd, hs⟩ := Option.bind_eq_some_iff.1 hs
    rw [value_takeLine, value_read_of_inForce h, hd]
    simp only [value_judge_of_inForce h now text]
    cases hrule : Arrival.rule? ⟨r, now, text⟩ data with
    | none =>
      simp only [hrule, Option.some.injEq] at hs
      subst hs
      simp [Rule.Verdict.ofRule?, store_of_isRecording hr]
    | some rule =>
      simp only [hrule] at hs
      split at hs
      · next ha =>
        cases hs
        simp [Rule.Verdict.ofRule?, Rule.compiled, ha, store_of_isRecording hr]
      · cases hs
  · cases hs

/-- Every other line leaves the session as it is. -/
theorem takeLine_of_sample?_eq_none {r : Recorder} (h : r.setup.InForce) {now : Int} {text : String}
    (hs : Arrival.sample? ⟨r, now, text⟩ = none) :
    (∀ label, (r.takeLine now text).value.1 ≠ .recorded label) ∧
      (r.takeLine now text).value.2.session = r.session := by
  rw [value_takeLine, value_read_of_inForce h]
  cases hd : Arrival.reading? ⟨r, now, text⟩ with
  | none => exact ⟨nofun, rfl⟩
  | some data =>
    simp only [value_judge_of_inForce h now text]
    cases hr : r.session.isRecording with
    | true =>
      -- only a rule with another action keeps the line out while a recording is active
      simp only [Arrival.sample?, hr, hd, ↓reduceIte, Option.bind_some] at hs
      split at hs
      · cases hs
      · next rule hrule =>
        split at hs
        · cases hs
        · next ha =>
          rw [hrule]
          cases haction : rule.action with
          | label => exact absurd haction ha
          | ignore => simp [Rule.Verdict.ofRule?, Rule.compiled, haction, remember]
          | log => simp [Rule.Verdict.ofRule?, Rule.compiled, haction, remember]
    | false =>
      cases Arrival.rule? ⟨r, now, text⟩ data with
      | none => simp [Rule.Verdict.ofRule?, store_of_not_isRecording hr, session_remember]
      | some rule =>
        cases haction : rule.action <;>
          simp [Rule.Verdict.ofRule?, Rule.compiled, haction, store_of_not_isRecording hr, session_remember]

/-! ### Many lines -/

/-- The samples of lines, in order. -/
def samplesOf (arrivals : List Arrival) : List Sample :=
  arrivals.filterMap Arrival.sample?

theorem samplesOf_append (a b : List Arrival) : samplesOf (a ++ b) = samplesOf a ++ samplesOf b :=
  List.filterMap_append

theorem samples_takeLine {r : Recorder} (h : r.setup.InForce) (now : Int) (text : String) :
    (r.takeLine now text).value.2.session.samples = r.session.samples ++ samplesOf [⟨r, now, text⟩] := by
  cases hs : Arrival.sample? ⟨r, now, text⟩ with
  | none => simp [samplesOf, hs, (takeLine_of_sample?_eq_none h hs).2]
  | some sample => simp [samplesOf, hs, (takeLine_of_sample?_eq_some h hs).2]

theorem samples_takeEvent {r : Recorder} (h : r.setup.InForce) (now : Int) (stopOnAutoStop : Bool) (e : Event) :
    (r.takeEvent now stopOnAutoStop e).value.2.session.samples =
      r.session.samples ++ samplesOf (eventArrival r now e) := by
  cases e with
  | line text => exact samples_takeLine h now text
  | status status message =>
    simp [takeEvent, (sends_setStatus r status message).session, eventArrival, samplesOf]
  | autoStop generation =>
    simp only [takeEvent, Traced.value_bind]
    split
    · simp [(sends_automate _ Transmit.Trigger.recordingStop).session, eventArrival, samplesOf]
    · simp [eventArrival, samplesOf]
  | sourceClosed => simp [takeEvent, eventArrival, samplesOf]
  | shutdown => simp [takeEvent, eventArrival, samplesOf]

theorem samples_takeEvents {r : Recorder} (h : r.setup.InForce) (now : Int) (stopOnAutoStop : Bool) (lines : Nat)
    (events : List Event) :
    (takeEvents now stopOnAutoStop r lines events).value.2.2.session.samples =
      r.session.samples ++ samplesOf (eventArrivals now stopOnAutoStop r events) := by
  induction events generalizing r lines with
  | nil => simp [takeEvents, eventArrivals, samplesOf]
  | cons e rest ih =>
    have he := samples_takeEvent h now stopOnAutoStop e
    -- no event changes the settings, so they are still in force for the events behind it
    have hf : (r.takeEvent now stopOnAutoStop e).value.2.setup.InForce := by
      rw [setup_takeEvent]
      exact h
    simp only [takeEvents, eventArrivals, Traced.value_bind]
    cases hv : (r.takeEvent now stopOnAutoStop e).value with
    | mk ended r' =>
      rw [hv] at he hf
      cases ended with
      | some reason => exact he
      | none =>
        dsimp only at he hf ⊢
        rw [ih hf, he, samplesOf_append, List.append_assoc]

/-- Every operation but the clearing of the samples puts those of its lines behind the others. -/
theorem samples_apply {r : Recorder} (h : r.setup.InForce) (op : Op) (hop : op ≠ .clear) :
    (op.apply r).session.samples = r.session.samples ++ samplesOf (op.arrivals r) := by
  cases op with
  | line now text => exact samples_takeLine h now text
  | run now events stopOnAutoStop => exact samples_takeEvents h now stopOnAutoStop 0 events
  | start now classId =>
    simp only [Op.apply, start, Traced.value_bind]
    split
    · simp [(sends_announceStart _ classId).session, Op.arrivals, samplesOf]
    · simp [Op.arrivals, samplesOf]
  | stop =>
    simp only [Op.apply, stop, Traced.value_bind]
    split
    · simp [(sends_automate _ Transmit.Trigger.recordingStop).session, Op.arrivals, samplesOf]
    · simp [Op.arrivals, samplesOf]
  | clear => exact absurd rfl hop
  | configure s =>
    have hs : ((r.configure s).value.2).session.samples = r.session.samples := by
      rw [value_configure]
      cases Line.Parser.compile? s.line s.fields <;> rfl
    simp [Op.apply, hs, Op.arrivals, samplesOf]
  | dispose => simp [Op.apply, dispose, Op.arrivals, samplesOf]
  | attach port => simp [Op.apply, attach, Op.arrivals, samplesOf]
  | detach => simp [Op.apply, detach, (sends_automate r .disconnect).session, Op.arrivals, samplesOf]
  | queue command => simp [Op.apply, queue, Op.arrivals, samplesOf]
  | send text => simp [Op.apply, send, Op.arrivals, samplesOf]
  | sendQuick id => simp [Op.apply, sendQuick, Op.arrivals, samplesOf]
  | clearLive => simp [Op.apply, clearLive, Op.arrivals, samplesOf]
  | clearHistory => simp [Op.apply, clearHistory, Op.arrivals, samplesOf]

theorem arrivalsSinceClear_cons {op : Op} (hop : op ≠ .clear) (r : Recorder) (seen : List Arrival) (ops : List Op) :
    arrivalsSinceClear r seen (op :: ops) = arrivalsSinceClear (op.apply r) (seen ++ op.arrivals r) ops := by
  cases op <;> first | rfl | exact absurd rfl hop

theorem samples_after_of_inForce {r : Recorder} (h : r.setup.InForce) (ops : List Op) (seen : List Arrival)
    (hseen : r.session.samples = samplesOf seen) :
    (r.after ops).session.samples = samplesOf (arrivalsSinceClear r seen ops) := by
  induction ops generalizing r seen with
  | nil => exact hseen
  | cons op ops ih =>
    by_cases hop : op = .clear
    · subst hop
      exact ih (inForce_apply h .clear) [] rfl
    -- the lines of `op` are judged by what is in force before it, those of `ops` by what is in force behind it
    · have hstep : (op.apply r).session.samples = samplesOf (seen ++ op.arrivals r) := by
        rw [samples_apply h op hop, hseen, samplesOf_append]
      rw [after_cons, arrivalsSinceClear_cons hop]
      exact ih (inForce_apply h op) _ hstep

/-! ### The moment at which a line arrives -/

theorem eq_of_mem_eventArrival {r : Recorder} {now : Int} {e : Event} {a : Arrival} (h : a ∈ eventArrival r now e) :
    a.recorder = r := by
  cases e with
  | line text => rw [List.mem_singleton.mp h]
  | _ => cases h

theorem mem_arrivals_of_mem_eventArrival {r : Recorder} {now : Int} {e : Event} {a : Arrival}
    (h : a ∈ eventArrival r now e) (stopOnAutoStop : Bool) : a ∈ Op.arrivals r (.run now [e] stopOnAutoStop) := by
  simp only [Op.arrivals, eventArrivals]
  split
  · exact h
  · exact List.mem_append_left _ h

/-- Each line among events is taken by a step of its own. -/
theorem exists_moment_of_mem_eventArrivals {r : Recorder} {now : Int} {stopOnAutoStop : Bool} {events : List Event}
    {a : Arrival} (h : a ∈ eventArrivals now stopOnAutoStop r events) :
    ∃ before step later,
      r.moments ((takenEvents now stopOnAutoStop r events).map fun e => .run now [e] stopOnAutoStop) =
          before ++ step :: later ∧ step.1 = a.recorder ∧ a ∈ step.2.arrivals step.1 := by
  induction events generalizing r with
  | nil => cases h
  | cons e rest ih =>
    have happly := apply_run_singleton r now e stopOnAutoStop
    have hfirst (ha : a ∈ eventArrival r now e) :
        r = a.recorder ∧ a ∈ Op.arrivals r (.run now [e] stopOnAutoStop) :=
      ⟨(eq_of_mem_eventArrival ha).symm, mem_arrivals_of_mem_eventArrival ha stopOnAutoStop⟩
    simp only [eventArrivals] at h
    simp only [takenEvents]
    cases hv : (r.takeEvent now stopOnAutoStop e).value with
    | mk ended r' =>
      rw [hv] at h happly
      cases ended with
      | some reason => exact ⟨[], (r, _), [], rfl, hfirst h⟩
      | none =>
        rcases List.mem_append.mp h with h | h
        · exact ⟨[], (r, _), _, rfl, hfirst h⟩
        · obtain ⟨before, step, later, hsteps, hstep⟩ := ih h
          refine ⟨(r, .run now [e] stopOnAutoStop) :: before, step, later, ?_, hstep⟩
          dsimp only
          rw [List.map_cons, moments, happly, hsteps, List.cons_append]

theorem exists_moment_of_mem_arrivals {r : Recorder} {op : Op} {a : Arrival} (h : a ∈ op.arrivals r) :
    ∃ before step later, r.moments (op.singles r) = before ++ step :: later ∧ step.1 = a.recorder ∧
      a ∈ step.2.arrivals step.1 := by
  cases op with
  | line now text =>
    have ha : a = ⟨r, now, text⟩ := List.mem_singleton.mp h
    exact ⟨[], (r, .line now text), [], rfl, by rw [ha], h⟩
  | run now events stopOnAutoStop => exact exists_moment_of_mem_eventArrivals h
  | _ => cases h

theorem history_cons (r : Recorder) (op : Op) (ops : List Op) :
    r.history (op :: ops) = r.moments (op.singles r) ++ (op.apply r).history ops := by
  rw [history, singly, moments_append, after_singles]
  rfl

/-- The lines that operations take are taken by the steps of the run. -/
theorem exists_step_of_mem_arrivalsSinceClear {r : Recorder} {seen : List Arrival} {ops : List Op} {a : Arrival}
    (h : a ∈ arrivalsSinceClear r seen ops) :
    a ∈ seen ∨ ∃ before step later, r.history ops = before ++ step :: later ∧ step.1 = a.recorder ∧
      a ∈ step.2.arrivals step.1 := by
  induction ops generalizing r seen with
  | nil => exact .inl h
  | cons op ops ih =>
    have hrest {seen' : List Arrival} (h : a ∈ arrivalsSinceClear (op.apply r) seen' ops) :
        a ∈ seen' ∨ ∃ before step later, r.history (op :: ops) = before ++ step :: later ∧ step.1 = a.recorder ∧
          a ∈ step.2.arrivals step.1 := by
      refine (ih h).imp_right ?_
      rintro ⟨before, step, later, hsteps, hstep⟩
      exact ⟨r.moments (op.singles r) ++ before, step, later, by rw [history_cons, hsteps, List.append_assoc], hstep⟩
    by_cases hop : op = .clear
    · subst hop
      exact .inr ((hrest h).resolve_left List.not_mem_nil)
    · rw [arrivalsSinceClear_cons hop] at h
      rcases hrest h with hseen | hlater
      · refine (List.mem_append.mp hseen).imp_right fun ha => ?_
        obtain ⟨before, step, later, hsteps, hstep⟩ := exists_moment_of_mem_arrivals ha
        exact ⟨before, step, later ++ (op.apply r).history ops, by rw [history_cons, hsteps]; simp, hstep⟩
      · exact .inr hlater

/-! ### The samples of a run -/

/-- After any operations on a new recorder the samples are those of the lines that arrived since the last clearing, in
order.  The next line is recorded, under the label of its sample, exactly if it is to become one; otherwise the session
stays as it is.  Each line arrives at a step of the run, and a recording is active at that moment exactly if the latest
start before it has not been ended since. -/
theorem samples_after {s : Settings} {r₀ : Recorder} (h : (new s).value = .ok r₀) (ops : List Op) :
    (r₀.after ops).session.samples = samplesOf (arrivalsSinceClear r₀ [] ops) ∧
      (∀ now text,
        (∀ sample, Arrival.sample? ⟨r₀.after ops, now, text⟩ = some sample →
          ((r₀.after ops).takeLine now text).value.1 = .recorded sample.label ∧
            ((r₀.after ops).takeLine now text).value.2.session.samples =
              (r₀.after ops).session.samples ++ [sample]) ∧
        (Arrival.sample? ⟨r₀.after ops, now, text⟩ = none →
          (∀ label, ((r₀.after ops).takeLine now text).value.1 ≠ .recorded label) ∧
            ((r₀.after ops).takeLine now text).value.2.session = (r₀.after ops).session)) ∧
      (∀ a ∈ arrivalsSinceClear r₀ [] ops, ∃ before step later, r₀.history ops = before ++ step :: later ∧
        step.1 = a.recorder ∧ a ∈ step.2.arrivals step.1 ∧
        (a.recorder.session.isRecording = true ↔ Underway before)) ∧
      ((r₀.after ops).session.isRecording = true ↔ Underway (r₀.history ops)) := by
  have hf : r₀.setup.InForce := inForce_new h
  have hempty : r₀.session.samples = samplesOf [] := by
    rw [session_new h]
    rfl
  have hidle : r₀.session.isRecording = false := by rw [session_new h]
  have hf' : (r₀.after ops).setup.InForce := inForce_after hf ops
  refine ⟨samples_after_of_inForce hf ops [] hempty, fun now text => ⟨fun sample hs => ?_, fun hs => ?_⟩,
    fun a ha => ?_, ?_⟩
  · exact takeLine_of_sample?_eq_some hf' hs
  · exact takeLine_of_sample?_eq_none hf' hs
  · obtain ⟨before, step, later, hsteps, hmeets, hmem⟩ :=
      (exists_step_of_mem_arrivalsSinceClear ha).resolve_left List.not_mem_nil
    refine ⟨before, step, later, hsteps, hmeets, hmem, ?_⟩
    rw [← hmeets]
    exact isRecording_iff_underway_before hidle hsteps
  · exact isRecording_iff_underway hidle ops

/-- A refused start, a clearing, a stale and a timely end, a stop and refused settings among the operations. -/
theorem samples_after_warm :
    ∃ r₀ : Recorder,
      let ops : List Op :=
        [.line 1 "0,30,1,2", .start 2 (some " "), .start 3 (some "a"), .line 4 "1,30,1,2", .clear, .line 5 "2,31,1,2",
          .configure { line := { kind := .regex } },
          .run 6 [.autoStop 2, .line "3,30,1,2", .autoStop 1, .line "4,30,1,2"] false, .start 7 (some "b"), .stop,
          .line 8 "5,30,1,2"]
      (new { rules := [⟨"warm", "value1 equals '31'", .label, some "warm", true⟩] }).value = .ok r₀ ∧
        (samplesOf (arrivalsSinceClear r₀ [] ops)).map (fun s => (s.recordedAt, s.label)) =
          [(5, some "warm"), (6, some "a")] ∧
        (r₀.after ops).session.samples = samplesOf (arrivalsSinceClear r₀ [] ops) ∧
        ¬Underway (r₀.history ops) := by
  obtain ⟨hsamples, -, -, hactive⟩ :=
    samples_after (s := { rules := [⟨"warm", "value1 equals '31'", .label, some "warm", true⟩] }) rfl _
  refine ⟨_, rfl, by decide +kernel, hsamples, fun h => ?_⟩
  exact absurd (hactive.mpr h) (by decide +kernel)

end SampleRecorder.Recorder
