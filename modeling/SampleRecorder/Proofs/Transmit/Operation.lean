import SampleRecorder.Proofs.Transmit.Outcome

/-!
# Runs of a transmitter

Everything that can happen to a transmitter, as one type, and the transmitter after a list of it.  A port may answer
differently from one write to the next: `turn` says when it does.  The bytes on the wire are those of the commands that
were sent, one write for each (`wire_after`), and the main fact is what becomes of any command in any run
(`send_after`).
-/

namespace SampleRecorder.Transmit.Transmitter

/-- An operation on a transmitter, or a change in how the port in place answers. -/
inductive Op where
  | attach (port : Port)
  | turn (port : Port)
  | disconnect
  | configure (settings : Settings)
  | clearHistory
  | send (command : Pending)

namespace Op

def apply (t : Transmitter) : Op → Transmitter
  | attach port => t.attach port
  | turn port => { t with port := t.port.map fun _ => port }
  | disconnect => t.disconnect
  | configure settings => (t.configure settings).value
  | clearHistory => t.clearHistory
  | send command => (command.send t).value.2

/-- The bytes that an operation hands to the port in place, one entry for each write. -/
def handed (t : Transmitter) : Op → List (List UInt8)
  | send command => command.handed t
  | _ => []

/-- The bytes that the port in place takes from an operation. -/
def taken (t : Transmitter) : Op → List (List UInt8)
  | send command => command.taken t
  | _ => []

end Op

/-- The transmitter after operations, one after the other. -/
def after (t : Transmitter) (ops : List Op) : Transmitter :=
  ops.foldl Op.apply t

/-- The operations of a run, each with the transmitter that it meets. -/
def steps (t : Transmitter) : List Op → List (Transmitter × Op)
  | [] => []
  | op :: ops => (t, op) :: (op.apply t).steps ops

/-! ### One command -/

/-- The port is reached exactly if none of the obstacles before it applies. -/
theorem handed_ne_nil_iff {t : Transmitter} {p : Pending} {content : String} (hc : p.text? t.settings = some content) :
    p.handed t ≠ [] ↔ ((t.obstacles content).take 3).findSome? id = none := by
  rw [Pending.handed_of_text hc]
  cases he : t.settings.enabled with
  | false => simp [obstacles, he]
  | true =>
    cases hb : encode t.settings.encoding t.settings.lineEnding content with
    | error fault => simp [obstacles, he, hb, Except.toOption]
    | ok bytes => cases hp : t.port <;> simp [obstacles, he, hb, hp, Except.toOption]

/-- A command that is sent is handed to the port once, and is remembered. -/
theorem value_send_of_ok {t : Transmitter} {p : Pending} {content : String} (hc : p.text? t.settings = some content)
    (h : (p.send t).value.1 = .ok ()) :
    ∃ bytes, encode t.settings.encoding t.settings.lineEnding content = .ok bytes ∧ p.handed t = [bytes] ∧
      (p.send t).value.2 = { t.remember content bytes with port := p.portAfter t } := by
  rw [Pending.value_send_of_text hc] at h ⊢
  cases ho : (t.obstacles content).findSome? id with
  | some fault =>
    rw [value_send_of_obstacle ho] at h
    cases h
  | none =>
    obtain ⟨he, -, port, hp, -⟩ := (t.obstacles_clear_iff content).mp ho
    obtain ⟨bytes, hb, hv⟩ := value_send_of_clear ho
    have hhanded : p.handed t = [bytes] := by
      rw [Pending.handed_of_text hc, if_pos ⟨he, by rw [hp]; rfl⟩, hb]
      rfl
    refine ⟨bytes, hb, hhanded, ?_⟩
    rw [hv, Pending.portAfter_of_handed (by simp [hhanded])]
    rfl

/-- A command that is not sent leaves everything as it was, but that a port that was asked has answered; its answer is
the first obstacle. -/
theorem value_send_of_error {t : Transmitter} {p : Pending} {content : String} {fault : Fault}
    (hc : p.text? t.settings = some content) (h : (p.send t).value.1 = .error fault) :
    (p.send t).value.2 = { t with port := p.portAfter t } ∧ (t.obstacles content).findSome? id = some fault := by
  rw [Pending.value_send_of_text hc] at h ⊢
  cases ho : (t.obstacles content).findSome? id with
  | some cause =>
    rw [value_send_of_obstacle ho] at h ⊢
    cases h
    refine ⟨?_, rfl⟩
    by_cases hreached : p.handed t = []
    · rw [Pending.portAfter_of_not_handed hreached, if_neg fun hasked => (handed_ne_nil_iff hc).mpr hasked hreached]
    · rw [Pending.portAfter_of_handed hreached, if_pos ((handed_ne_nil_iff hc).mp hreached)]
      rfl
  | none =>
    obtain ⟨bytes, -, hv⟩ := value_send_of_clear ho
    rw [hv] at h
    cases h

/-- A command that stands for a text is sent exactly if no obstacle applies. -/
theorem answer_eq_ok_iff {t : Transmitter} {p : Pending} {content : String} (hc : p.text? t.settings = some content) :
    (p.send t).value.1 = .ok () ↔
      t.settings.enabled = true ∧ (∃ bytes, encode t.settings.encoding t.settings.lineEnding content = .ok bytes) ∧
        ∃ port, t.port = some port ∧ port.fault = none := by
  rw [← obstacles_clear_iff]
  cases ho : (t.obstacles content).findSome? id with
  | some fault => simp [Pending.value_send_of_text hc, value_send_of_obstacle ho]
  | none =>
    obtain ⟨bytes, -, hv⟩ := value_send_of_clear ho
    simp [Pending.value_send_of_text hc, hv]

/-! ### Runs -/

theorem wire_send (t : Transmitter) (p : Pending) : (p.send t).value.2.wire = t.wire ++ p.taken t := by
  unfold Pending.taken
  cases hc : p.text? t.settings with
  | none =>
    rw [Pending.value_send_of_no_text hc, Pending.handed_of_no_text hc]
    cases p.idleAnswer <;> simp
  | some content =>
    cases h : (p.send t).value.1 with
    | error fault => rw [(value_send_of_error hc h).1, List.append_nil]
    | ok _ =>
      obtain ⟨bytes, -, hh, hv⟩ := value_send_of_ok hc h
      rw [hv, hh]
      rfl

theorem wire_apply (t : Transmitter) (op : Op) : (op.apply t).wire = t.wire ++ op.taken t := by
  cases op with
  | send command => exact wire_send t command
  | _ => exact (List.append_nil _).symm

/-- The wire holds what was taken from the operations, in order. -/
theorem wire_after (t : Transmitter) (ops : List Op) :
    (t.after ops).wire = t.wire ++ (t.steps ops).flatMap fun step => step.2.taken step.1 := by
  induction ops generalizing t with
  | nil => exact (List.append_nil _).symm
  | cons op ops ih =>
    have hrest : (t.after (op :: ops)).wire = ((op.apply t).after ops).wire := rfl
    rw [hrest, ih, wire_apply, List.append_assoc]
    rfl

theorem handed_of_disabled {t : Transmitter} (h : t.settings.enabled = false) (op : Op) : op.handed t = [] := by
  cases op with
  | send command => exact Pending.handed_of_disabled h command
  | _ => rfl

theorem taken_eq_nil {t : Transmitter} {op : Op} (h : op.handed t = []) : op.taken t = [] := by
  cases op with
  | send command => exact Pending.taken_eq_nil h
  | _ => rfl

/-- While a transmitter is disabled, nothing that is done to it reaches a port. -/
theorem wire_after_of_disabled {t : Transmitter} {ops : List Op}
    (h : ∀ step ∈ t.steps ops, step.1.settings.enabled = false) :
    (∀ step ∈ t.steps ops, step.2.handed step.1 = []) ∧ (t.after ops).wire = t.wire := by
  have hhanded : ∀ step ∈ t.steps ops, step.2.handed step.1 = [] := fun step hstep =>
    handed_of_disabled (h step hstep) step.2
  have htaken : ((t.steps ops).flatMap fun step => step.2.taken step.1) = [] :=
    List.flatMap_eq_nil_iff.mpr fun step hstep => taken_eq_nil (hhanded step hstep)
  refine ⟨hhanded, ?_⟩
  rw [wire_after, htaken, List.append_nil]

/-- What becomes of a command after any run of a transmitter, whatever the ports answer.  One that stands for a text is
sent exactly if the transmitter is enabled, the text has bytes, and there is a port that takes them; then these bytes
are the only write, and the command is remembered.  Otherwise the answer is the first obstacle, and the port was asked
only if the obstacle is the port itself; then nothing has changed but that it has answered, and else nothing at all.
One without a text does nothing.  What hands nothing to the port does not depend on it, and while a transmitter is
disabled nothing is handed to any port. -/
theorem send_after (settings : Settings) (ops : List Op) (p : Pending) :
    let t := ({ settings } : Transmitter).after ops
    let answer := (p.send t).value.1
    let t' := (p.send t).value.2
    (answer = .ok () ∧ (p.text? t.settings).isSome ↔
        ∃ content, p.text? t.settings = some content ∧ t.settings.enabled = true ∧
          (∃ bytes, encode t.settings.encoding t.settings.lineEnding content = .ok bytes) ∧
          ∃ port, t.port = some port ∧ port.fault = none) ∧
      (∀ content, p.text? t.settings = some content → answer = .ok () →
        ∃ bytes, encode t.settings.encoding t.settings.lineEnding content = .ok bytes ∧ p.handed t = [bytes] ∧
          t'.wire = t.wire ++ [bytes] ∧ t' = { t.remember content bytes with port := t.port.map Port.next } ∧
          t'.history.head? = some content ∧ t'.sent.getLast? = some ⟨content, t.settings.encoding⟩) ∧
      (∀ content fault, p.text? t.settings = some content → answer = .error fault →
        (p.handed t = [] → t' = t) ∧ (p.handed t ≠ [] → t' = { t with port := t.port.map Port.next }) ∧
          (t.obstacles content).findSome? id = some fault ∧
          (p.handed t ≠ [] ↔ ((t.obstacles content).take 3).findSome? id = none)) ∧
      (p.text? t.settings = none → answer = p.idleAnswer ∧ t' = t ∧ p.handed t = []) ∧
      (p.handed t = [] → ∀ port, (p.send (Op.apply t (.turn port))).value = (answer, Op.apply t (.turn port))) ∧
      ∀ later, (∀ step ∈ t.steps later, step.1.settings.enabled = false) →
        (∀ step ∈ t.steps later, step.2.handed step.1 = []) ∧ (t.after later).wire = t.wire := by
  intro t answer t'
  refine ⟨?_, ?_, ?_, ?_, fun hnone port => Pending.value_send_turned hnone port,
    fun later hdisabled => wire_after_of_disabled hdisabled⟩
  · constructor
    · rintro ⟨hok, htext⟩
      obtain ⟨content, hc⟩ := Option.isSome_iff_exists.mp htext
      exact ⟨content, hc, (answer_eq_ok_iff hc).mp hok⟩
    · rintro ⟨content, hc, hclear⟩
      exact ⟨(answer_eq_ok_iff hc).mpr hclear, Option.isSome_of_eq_some hc⟩
  · intro content hc hok
    obtain ⟨bytes, hb, hh, hv⟩ := value_send_of_ok hc hok
    have ht' : t' = { t.remember content bytes with port := t.port.map Port.next } := by
      rw [← Pending.portAfter_of_handed (p := p) (by simp [hh])]
      exact hv
    refine ⟨bytes, hb, hh, ?_, ht', ?_, ?_⟩
    · rw [ht']; rfl
    · rw [ht']; simp [remember, historyLimit]
    · rw [ht']; simp [remember]
  · intro content fault hc herror
    obtain ⟨hsame, ho⟩ := value_send_of_error hc herror
    refine ⟨fun hreached => ?_, fun hreached => ?_, ho, handed_ne_nil_iff hc⟩
    · rw [Pending.portAfter_of_not_handed hreached] at hsame
      exact hsame
    · rw [Pending.portAfter_of_handed hreached] at hsame
      exact hsame
  · intro hc
    have hv := Pending.value_send_of_no_text hc
    exact ⟨congrArg Prod.fst hv, congrArg Prod.snd hv, Pending.handed_of_no_text hc⟩

end SampleRecorder.Transmit.Transmitter
