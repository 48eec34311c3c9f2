import SampleRecorder.Proofs.Recorder.Operation

/-!
# The history of a run

A run over several events is as many runs over one event, as long as none of them ends it.  So what is done to a
recorder can be told one operation or event at a time (`after_singly`), each with the recorder that it meets
(`history`).
-/

namespace SampleRecorder.Recorder

/-- The events of a run that are taken: those up to the first one that ends it. -/
def takenEvents (now : Int) (stopOnAutoStop : Bool) (r : Recorder) : List Event → List Event
  | [] => []
  | e :: rest =>
    match (r.takeEvent now stopOnAutoStop e).value with
    | (some _, _) => [e]
    | (none, r') => e :: takenEvents now stopOnAutoStop r' rest

/-- An operation as operations that take one event each, if it takes any. -/
def Op.singles (r : Recorder) : Op → List Op
  | .run now events stopOnAutoStop =>
    (takenEvents now stopOnAutoStop r events).map fun e => .run now [e] stopOnAutoStop
  | op => [op]

def singly (r : Recorder) : List Op → List Op
  | [] => []
  | op :: ops => op.singles r ++ (op.apply r).singly ops

/-- Whether an operation takes no more than one event. -/
def Op.IsSingle : Op → Prop
  | .run _ events _ => ∃ e, events = [e]
  | _ => True

/-- The operations of a run, each with the recorder that it meets. -/
def moments (r : Recorder) : List Op → List (Recorder × Op)
  | [] => []
  | op :: ops => (r, op) :: (op.apply r).moments ops

/-- What happens in a run, one operation or event at a time, each with the recorder that it meets. -/
def history (r : Recorder) (ops : List Op) : List (Recorder × Op) :=
  r.moments (r.singly ops)

theorem after_concat (r : Recorder) (ops : List Op) (op : Op) : r.after (ops ++ [op]) = op.apply (r.after ops) := by
  simp [after]

theorem moments_append (r : Recorder) (ops ops' : List Op) :
    r.moments (ops ++ ops') = r.moments ops ++ (r.after ops).moments ops' := by
  induction ops generalizing r with
  | nil => rfl
  | cons first ops ih => rw [List.cons_append, moments, ih, after_cons, moments, List.cons_append]

theorem moments_concat (r : Recorder) (ops : List Op) (op : Op) :
    r.moments (ops ++ [op]) = r.moments ops ++ [(r.after ops, op)] :=
  moments_append r ops [op]

/-- Each step of a run meets the recorder after those before it. -/
theorem moments_eq_append {r : Recorder} {ops : List Op} {before : List (Recorder × Op)} {step : Recorder × Op}
    {later : List (Recorder × Op)} (h : r.moments ops = before ++ step :: later) :
    ∃ first rest, ops = first ++ step.2 :: rest ∧ before = r.moments first ∧ step.1 = r.after first ∧
      later = (step.2.apply step.1).moments rest := by
  induction before generalizing r ops with
  | nil =>
    cases ops with
    | nil => cases h
    | cons op ops =>
      obtain ⟨rfl, rfl⟩ := List.cons.inj h
      exact ⟨[], ops, rfl, rfl, rfl, rfl⟩
  | cons b before ih =>
    cases ops with
    | nil => cases h
    | cons op ops =>
      obtain ⟨rfl, htail⟩ := List.cons.inj h
      obtain ⟨first, rest, rfl, rfl, hstep, hlater⟩ := ih htail
      exact ⟨op :: first, rest, rfl, rfl, hstep, hlater⟩

/-! ### One event at a time -/

theorem apply_run_singleton (r : Recorder) (now : Int) (e : Event) (stopOnAutoStop : Bool) :
    Op.apply r (.run now [e] stopOnAutoStop) = (r.takeEvent now stopOnAutoStop e).value.2 := by
  simp only [Op.apply, run, takeEvents, Traced.value_bind]
  cases (r.takeEvent now stopOnAutoStop e).value with
  | mk ended r' => cases ended <;> rfl

theorem after_takenEvents (r : Recorder) (now : Int) (stopOnAutoStop : Bool) (lines : Nat) (events : List Event) :
    r.after ((takenEvents now stopOnAutoStop r events).map fun e => .run now [e] stopOnAutoStop) =
      (takeEvents now stopOnAutoStop r lines events).value.2.2 := by
  induction events generalizing r lines with
  | nil => rfl
  | cons e rest ih =>
    have he := apply_run_singleton r now e stopOnAutoStop
    simp only [takenEvents, takeEvents, Traced.value_bind]
    cases hv : (r.takeEvent now stopOnAutoStop e).value with
    | mk ended r' =>
      rw [hv] at he
      cases ended with
      | some reason => exact he
      | none =>
        rw [List.map_cons, after_cons, he]
        exact ih r' _

theorem after_singles (r : Recorder) (op : Op) : r.after (op.singles r) = op.apply r := by
  cases op with
  | run now events stopOnAutoStop => exact after_takenEvents r now stopOnAutoStop 0 events
  | _ => rfl

/-- What is done one event at a time leads to the same recorder. -/
theorem after_singly (r : Recorder) (ops : List Op) : r.after (r.singly ops) = r.after ops := by
  induction ops generalizing r with
  | nil => rfl
  | cons op ops ih =>
    have hsplit : r.after (r.singly (op :: ops)) = (r.after (op.singles r)).after ((op.apply r).singly ops) :=
      List.foldl_append
    rw [hsplit, after_singles, ih, after_cons]

theorem isSingle_of_mem_singles {r : Recorder} {op single : Op} (h : single ∈ op.singles r) : single.IsSingle := by
  cases op with
  | run now events stopOnAutoStop =>
    obtain ⟨e, -, rfl⟩ := List.mem_map.mp h
    exact ⟨e, rfl⟩
  | _ =>
    rw [List.mem_singleton.mp h]
    trivial

theorem isSingle_of_mem_singly {r : Recorder} {ops : List Op} {single : Op} (h : single ∈ r.singly ops) :
    single.IsSingle := by
  induction ops generalizing r with
  | nil => cases h
  | cons op ops ih =>
    rcases List.mem_append.mp h with h | h
    · exact isSingle_of_mem_singles h
    · exact ih h

theorem isSingle_of_mem_moments {r : Recorder} {ops : List Op} (hops : ∀ op ∈ ops, op.IsSingle)
    {step : Recorder × Op} (h : step ∈ r.moments ops) : step.2.IsSingle := by
  induction ops generalizing r with
  | nil => cases h
  | cons op ops ih =>
    rcases List.mem_cons.mp h with rfl | h
    · exact hops op List.mem_cons_self
    · exact ih (fun op hop => hops op (List.mem_cons_of_mem _ hop)) h

end SampleRecorder.Recorder
