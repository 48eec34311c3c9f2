import Mathlib.Data.List.Infix
import Mathlib.Data.List.Pairwise
import Mathlib.Logic.Function.Basic
import SampleRecorder.Source.Manager

/-!
# Readers side by side

Readers work at the same time as the manager and as each other.  Here each action of a reader is a step of its own, so
between any two of them the manager may stop the source and start others, and older readers, which go on until they
notice that they were told to stop, may act.  A reader that leaves as soon as one of its actions has no effect leaves out
only others that have none.  The manager that lets every reader finish first takes one of these ways (`after_read`,
`after_start`).

Every step keeps a run in order (`InOrder.apply`), and so the main fact holds of every run (`effects_after`): nothing
that a reader does has an effect once its source was stopped, so what is sent comes in the order of the starts; a writer
in place was put there by the current reader; and a reader that closes its source does nothing behind it.
-/

namespace SampleRecorder.Source

/-- What a reader answers to: a result of reading, the outcome of connecting again, or that it was told to stop. -/
inductive Input where
  | read (result : ReadResult)
  | retry (connection : Except Fault (Option Writer))
  | heed

/-- What a reader does about an input. -/
def Reader.answer (r : Reader) : Input → List Action × Reader
  | .read result => r.read (.ofResult result)
  | .retry connection => r.retry connection
  | .heed => r.heed

/-- The manager with its readers at work: the actions that the reader in each place still has to take, and whether the
current reader was told to stop although it is not stopped yet. -/
structure Crew where
  manager : Manager := {}
  due : Nat → List Action := fun _ => []
  isWarned : Bool := false

/-- A step: the manager tells the current reader to stop, stops it, or starts another source, or the reader in a place
answers to an input or takes the next of its actions. -/
inductive Step where
  | warn
  | stop
  | start (opener : Opener) (settings : Settings)
  | take (place : Nat) (input : Input)
  | act (place : Nat)

/-- Whether a step stops the current reader. -/
def Step.stops : Step → Bool
  | stop => true
  | start _ _ => true
  | _ => false

namespace Crew

/-- Whether a reader answers to an input: when it has done what was due, and to being told to stop only when it was. -/
def admits (s : Crew) (place : Nat) (r : Reader) : Input → Bool
  | .heed => (s.due place).isEmpty && (s.isWarned || r.generation != s.manager.shared.generation)
  | _ => (s.due place).isEmpty

/-- The reader in a place has answered, and its actions are due. -/
def receive (s : Crew) (place : Nat) (answer : List Action × Reader) : Crew :=
  { s with
    manager := { s.manager with readers := s.manager.readers.set place answer.2 }
    due := Function.update s.due place answer.1 }

end Crew

namespace Step

def apply (s : Crew) : Step → Crew
  | warn => { s with isWarned := true }
  | stop => { s with manager := s.manager.stop.value, isWarned := false }
  | start opener settings =>
    let place := s.manager.readers.length
    match (s.manager.launch opener settings).value with
    | (.error _, manager) => { s with manager, isWarned := false }
    | (.ok reader, manager) =>
      Crew.receive { s with manager, isWarned := false } place (reader.start (opener.connect place))
  | take place input =>
    match s.manager.readers[place]? with
    | some r => if s.admits place r input then s.receive place (r.answer input) else s
    | none => s
  | act place =>
    match s.manager.readers[place]?, s.due place with
    | some r, a :: rest =>
      { s with
        manager := { s.manager with shared := s.manager.shared.perform r.generation a }
        due := Function.update s.due place rest }
    | _, _ => s

/-- What a step does to the shared state, with the number of the reader that does it. -/
def effects (s : Crew) : Step → List (Nat × Action)
  | act place =>
    match s.manager.readers[place]?, s.due place with
    | some r, a :: _ => if r.generation = s.manager.shared.generation then [(r.generation, a)] else []
    | _, _ => []
  | _ => []

end Step

namespace Crew

/-- The readers and the manager after steps, one after the other. -/
def after (s : Crew) (steps : List Step) : Crew :=
  steps.foldl Step.apply s

/-- What steps do to the shared state, in order. -/
def effects (s : Crew) : List Step → List (Nat × Action)
  | [] => []
  | step :: steps => step.effects s ++ (step.apply s).effects steps

end Crew

/-- The events that are sent, each with the number of the reader that sends it. -/
def sent (effects : List (Nat × Action)) : List (Nat × Event) :=
  effects.filterMap fun e => e.2.event?.map (e.1, ·)

/-! ### Readers -/

theorem generation_answer (r : Reader) (input : Input) : (r.answer input).2.generation = r.generation := by
  cases input with
  | read result => exact r.generation_read (.ofResult result)
  | retry connection => exact r.generation_retry connection
  | heed => exact r.generation_heed

/-- A reader that is done answers nothing. -/
theorem answer_of_done {r : Reader} (h : r.phase = .done) (input : Input) : r.answer input = ([], r) := by
  cases input with
  | read result => simp only [Reader.answer, Reader.read, h]
  | retry connection => simp only [Reader.answer, Reader.retry, h]
  | heed => simp only [Reader.answer, Reader.heed, h]

/-- Whether an action tells that the source is closed. -/
def Action.Closes (a : Action) : Prop :=
  a.event? = some .sourceClosed

@[simp] theorem closes_emit (event : Event) : (Action.emit event).Closes ↔ event = .sourceClosed := by
  simp [Action.Closes, Action.event?]

@[simp] theorem not_closes_install (writer : Option Writer) : ¬(Action.install writer).Closes := by
  simp [Action.Closes, Action.event?]

/-- Only the last of the actions that are due may close the source, and a reader that has to close it is done. -/
structure IsOrderly (r : Reader) (due : List Action) : Prop where
  closesLast : ∀ a ∈ due.dropLast, ¬a.Closes
  isDone : (∃ a ∈ due, a.Closes) → r.phase = .done

theorem isOrderly_of_open {r : Reader} {due : List Action} (h : ∀ a ∈ due, ¬a.Closes) : IsOrderly r due where
  closesLast a ha := h a (List.mem_of_mem_dropLast ha)
  isDone := fun ⟨a, ha, hcloses⟩ => absurd hcloses (h a ha)

theorem isOrderly_concat {r : Reader} (due : List Action) (h : ∀ a ∈ due, ¬a.Closes) (hr : r.phase = .done)
    (last : Action) : IsOrderly r (due ++ [last]) where
  closesLast := by rwa [List.dropLast_concat]
  isDone _ := hr

theorem isOrderly_tail {r : Reader} {a : Action} {due : List Action} (h : IsOrderly r (a :: due)) : IsOrderly r due where
  closesLast b hb := h.closesLast b (List.mem_of_mem_tail (by rwa [List.tail_dropLast]))
  isDone := fun ⟨b, hb, hcloses⟩ => h.isDone ⟨b, List.mem_cons_of_mem a hb, hcloses⟩

/-- Nothing is due behind an action that closes the source. -/
theorem eq_nil_of_closes {r : Reader} {a : Action} {due : List Action} (h : IsOrderly r (a :: due)) (ha : a.Closes) :
    due = [] := by
  cases due with
  | nil => rfl
  | cons b rest => exact absurd ha (h.closesLast a (by simp))

theorem not_closes_line (lines : List String) : ∀ a ∈ lines.map fun l => Action.emit (.line l), ¬a.Closes := by
  simp

theorem isOrderly_start (r : Reader) (connection : Except Fault (Option Writer)) :
    IsOrderly (r.start connection).2 (r.start connection).1 := by
  cases connection with
  | ok writer => exact isOrderly_of_open (by simp [Reader.start])
  | error fault =>
    exact isOrderly_concat [.emit (.status .connecting none), .emit (.status .error (some fault.message))]
      (by simp) rfl .close

theorem isOrderly_read (r : Reader) (input : Read) : IsOrderly (r.read input).2 (r.read input).1 := by
  have hnothing : IsOrderly r [] := isOrderly_of_open (by simp)
  unfold Reader.read
  split
  · split
    · exact isOrderly_of_open (not_closes_line _)
    · exact hnothing
    · have hopen (line : Option String) :
          ∀ a ∈ line.toList.map (fun l => Action.emit (.line l)) ++ [.emit (.status .disconnected none)], ¬a.Closes :=
        List.forall_mem_append.mpr ⟨not_closes_line _, by simp⟩
      have hlast := @isOrderly_concat { r with framer := r.framer.flush.2, phase := .done } _ (hopen r.framer.flush.1)
        rfl .close
      rwa [List.append_assoc] at hlast
    · next reason =>
      split
      · exact isOrderly_of_open (by simp [retrying])
      · exact isOrderly_concat [.install none, .emit (.status .error (some reason))] (by simp) rfl .close
  · exact hnothing

theorem isOrderly_retry (r : Reader) (connection : Except Fault (Option Writer)) :
    IsOrderly (r.retry connection).2 (r.retry connection).1 := by
  unfold Reader.retry
  split
  · split
    · exact isOrderly_of_open (by simp)
    · split
      · exact isOrderly_of_open (by simp [retrying])
      · exact isOrderly_concat [.emit (.status .error (some "Connection lost"))] (by simp) rfl .close
  · exact isOrderly_of_open (by simp)

theorem isOrderly_heed (r : Reader) : IsOrderly r.heed.2 r.heed.1 := by
  unfold Reader.heed
  split
  · exact isOrderly_of_open (by simp)
  · exact isOrderly_concat [] (by simp) rfl .close
  · exact isOrderly_of_open (by simp)

theorem isOrderly_answer (r : Reader) (input : Input) : IsOrderly (r.answer input).2 (r.answer input).1 := by
  cases input with
  | read result => exact isOrderly_read r (.ofResult result)
  | retry connection => exact isOrderly_retry r connection
  | heed => exact isOrderly_heed r

/-! ### What every step keeps -/

/-- The numbers of all readers that were started. -/
def Manager.generations (m : Manager) : List Nat :=
  m.readers.map (·.generation)

/-- A run in order: the manager, what is due of its readers, and what they did so far.  Readers are numbered in the order
of their starts, effects come in the order of these numbers, none of a reader comes behind the one that closes its
source, and a writer in place was put there by the current reader. -/
structure InOrder (m : Manager) (due : Nat → List Action) (log : List (Nat × Action)) : Prop where
  increasing : m.generations.Pairwise (· < ·)
  started : ∀ g ∈ m.generations, g ≤ m.shared.generation
  idle : ∀ place, m.readers.length ≤ place → due place = []
  orderly : ∀ place r, m.readers[place]? = some r → IsOrderly r (due place)
  authored : ∀ e ∈ log, e.1 ∈ m.generations
  sorted : log.Pairwise fun a b => a.1 ≤ b.1
  closesLast : log.Pairwise fun a b => a.2.Closes → b.1 ≠ a.1
  closed : ∀ e ∈ log, e.2.Closes → ∀ place r, m.readers[place]? = some r → r.generation = e.1 →
    r.phase = .done ∧ due place = []
  writer : ∀ w, m.shared.writer = some w →
    m.shared.generation ∈ m.generations ∧ (m.shared.generation, .install (some w)) ∈ log
  events : m.shared.events.toList = log.filterMap (·.2.event?)

namespace InOrder

variable {m : Manager} {due : Nat → List Action} {log : List (Nat × Action)} {place : Nat} {r : Reader}

theorem initial : InOrder {} (fun _ => []) [] where
  increasing := .nil
  started := by simp [Manager.generations]
  idle _ _ := rfl
  orderly := by simp
  authored := by simp
  sorted := .nil
  closesLast := .nil
  closed := by simp
  writer := by simp
  events := rfl

theorem past (h : InOrder m due log) : ∀ e ∈ log, e.1 ≤ m.shared.generation :=
  fun e he => h.started e.1 (h.authored e he)

theorem mem_generations (h : m.readers[place]? = some r) : r.generation ∈ m.generations :=
  List.mem_map_of_mem (List.mem_of_getElem? h)

/-- A number tells a reader. -/
theorem eq_of_generation (h : InOrder m due log) {place' : Nat} {r' : Reader} (hr : m.readers[place]? = some r)
    (hr' : m.readers[place']? = some r') (hg : r'.generation = r.generation) : place' = place := by
  have hnodup : m.generations.Nodup := h.increasing.imp Nat.ne_of_lt
  have hat : m.generations[place]? = some r.generation := by simp [Manager.generations, hr]
  have hat' : m.generations[place']? = some r.generation := by simp [Manager.generations, hr', hg]
  obtain ⟨hlt, -⟩ := List.getElem?_eq_some_iff.mp hat'
  exact (List.getElem?_inj hlt hnodup).mp (hat'.trans hat.symm)

theorem stop (h : InOrder m due log) : InOrder m.stop.value due log where
  increasing := h.increasing
  started g hg := Nat.le_succ_of_le (h.started g hg)
  idle := h.idle
  orderly := h.orderly
  authored := h.authored
  sorted := h.sorted
  closesLast := h.closesLast
  closed := h.closed
  writer w hw := absurd hw (by simp [Manager.value_stop])
  events := h.events

/-- A new reader may stand behind the others, if it has the number of the current source and no other reader has. -/
theorem enlist (h : InOrder m due log) {reader : Reader} (hg : reader.generation = m.shared.generation)
    (hnew : ∀ g ∈ m.generations, g < m.shared.generation) (hlog : ∀ e ∈ log, e.1 < m.shared.generation)
    {m' : Manager} (hreaders : m'.readers = m.readers ++ [reader]) (hshared : m'.shared = m.shared) :
    InOrder m' due log := by
  have hgenerations : m'.generations = m.generations ++ [m.shared.generation] := by
    simp [Manager.generations, hreaders, hg]
  have hold (place : Nat) (r : Reader) (hr : m'.readers[place]? = some r) :
      m.readers[place]? = some r ∨ r = reader ∧ due place = [] := by
    rw [hreaders] at hr
    rcases Nat.lt_or_ge place m.readers.length with hlt | hge
    · rw [List.getElem?_append_left hlt] at hr
      exact .inl hr
    · rw [List.getElem?_append_right hge] at hr
      refine .inr ⟨?_, h.idle place hge⟩
      exact (List.mem_singleton.mp (List.mem_of_getElem? hr))
  exact {
    increasing := by
      rw [hgenerations, List.pairwise_append]
      exact ⟨h.increasing, List.pairwise_singleton _ _, by simpa using hnew⟩
    started := by
      rw [hgenerations, hshared]
      exact List.forall_mem_append.mpr ⟨h.started, by simp⟩
    idle := fun place hplace => h.idle place (by simp [hreaders] at hplace; omega)
    orderly := by
      intro place r hr
      rcases hold place r hr with hr | ⟨-, hdue⟩
      · exact h.orderly place r hr
      · rw [hdue]
        exact isOrderly_of_open (by simp)
    authored := by
      rw [hgenerations]
      exact fun e he => List.mem_append_left _ (h.authored e he)
    sorted := h.sorted
    closesLast := h.closesLast
    closed := by
      intro e he hcloses place r hr hnumber
      rcases hold place r hr with hr | ⟨rfl, -⟩
      · exact h.closed e he hcloses place r hr hnumber
      · have hlt := hlog e he
        omega
    writer := by
      rw [hshared, hgenerations]
      intro w hw
      exact ⟨List.mem_append_left _ (h.writer w hw).1, (h.writer w hw).2⟩
    events := by rw [hshared]; exact h.events }

/-- A new reader is numbered above all others, and nothing was done under its number. -/
theorem launch (h : InOrder m due log) {opener : Opener} {settings : Settings} {answer : Except Fault Reader}
    {m' : Manager} (hm : (m.launch opener settings).value = (answer, m')) :
    InOrder m' due log ∧ ∀ r, answer = .ok r → ∀ e ∈ log, e.1 ≠ r.generation := by
  rw [Manager.value_launch] at hm
  cases he : Frame.Encoding.ofName? settings.encoding with
  | none =>
    rw [he] at hm
    obtain ⟨rfl, rfl⟩ := Prod.mk.inj hm
    refine ⟨h.stop, fun r hr => ?_⟩
    cases hr
  | some encoding =>
    rw [he] at hm
    obtain ⟨rfl, rfl⟩ := Prod.mk.inj hm
    have hpast : ∀ e ∈ log, e.1 < m.shared.generation + 1 := fun e he => Nat.lt_succ_of_le (h.past e he)
    refine ⟨h.stop.enlist rfl (fun g hg => Nat.lt_succ_of_le (h.started g hg)) hpast rfl rfl, fun r hr => ?_⟩
    obtain rfl := Except.ok.inj hr
    exact fun e he => Nat.ne_of_lt (hpast e he)

/-- A reader answers, unless it has closed its source. -/
theorem receive (h : InOrder m due log) {answer : List Action × Reader} (hr : m.readers[place]? = some r)
    (hg : answer.2.generation = r.generation) (ho : IsOrderly answer.2 answer.1)
    (hclosed : ∀ e ∈ log, e.2.Closes → e.1 = r.generation → answer.2.phase = .done ∧ answer.1 = []) :
    InOrder { m with readers := m.readers.set place answer.2 } (Function.update due place answer.1) log := by
  obtain ⟨hlt, rfl⟩ := List.getElem?_eq_some_iff.mp hr
  have hgenerations : Manager.generations { m with readers := m.readers.set place answer.2 } = m.generations := by
    rw [Manager.generations, List.map_set, hg, ← List.getElem_map Reader.generation (h := by simpa), List.set_getElem_self]
    rfl
  have hold (place' : Nat) (r' : Reader) (hr' : (m.readers.set place answer.2)[place']? = some r') :
      (place' = place ∧ r' = answer.2) ∨ (place' ≠ place ∧ m.readers[place']? = some r') := by
    by_cases hplace : place' = place
    · subst hplace
      rw [List.getElem?_set_self hlt] at hr'
      exact .inl ⟨rfl, (Option.some.inj hr').symm⟩
    · rw [List.getElem?_set_ne (Ne.symm hplace)] at hr'
      exact .inr ⟨hplace, hr'⟩
  exact {
    increasing := by rw [hgenerations]; exact h.increasing
    started := by rw [hgenerations]; exact h.started
    idle := by
      intro place' hplace
      rw [List.length_set] at hplace
      rw [Function.update_of_ne (by omega)]
      exact h.idle place' hplace
    orderly := by
      intro place' r' hr'
      rcases hold place' r' hr' with ⟨rfl, rfl⟩ | ⟨hne, hr'⟩
      · rwa [Function.update_self]
      · rw [Function.update_of_ne hne]
        exact h.orderly place' r' hr'
    authored := by rw [hgenerations]; exact h.authored
    sorted := h.sorted
    closesLast := h.closesLast
    closed := by
      intro e he hcloses place' r' hr' hnumber
      rcases hold place' r' hr' with ⟨rfl, rfl⟩ | ⟨hne, hr'⟩
      · rw [Function.update_self]
        exact hclosed e he hcloses (hnumber.symm.trans hg)
      · rw [Function.update_of_ne hne]
        exact h.closed e he hcloses place' r' hr' hnumber
    writer := by rw [hgenerations]; exact h.writer
    events := h.events }

/-- The next of the actions that are due may be passed over. -/
theorem skip (h : InOrder m due log) {a : Action} {rest : List Action} (hr : m.readers[place]? = some r)
    (hd : due place = a :: rest) : InOrder m (Function.update due place rest) log where
  increasing := h.increasing
  started := h.started
  idle place' hplace := by
    obtain ⟨hlt, -⟩ := List.getElem?_eq_some_iff.mp hr
    rw [Function.update_of_ne (by omega)]
    exact h.idle place' hplace
  orderly place' r' hr' := by
    by_cases hplace : place' = place
    · subst hplace
      obtain rfl := Option.some.inj (hr.symm.trans hr')
      rw [Function.update_self]
      exact isOrderly_tail (hd ▸ h.orderly place' r hr)
    · rw [Function.update_of_ne hplace]
      exact h.orderly place' r' hr'
  authored := h.authored
  sorted := h.sorted
  closesLast := h.closesLast
  closed e he hcloses place' r' hr' hnumber := by
    obtain ⟨hdone, hdue⟩ := h.closed e he hcloses place' r' hr' hnumber
    by_cases hplace : place' = place
    · subst hplace
      rw [hd] at hdue
      cases hdue
    · rw [Function.update_of_ne hplace]
      exact ⟨hdone, hdue⟩
  writer := h.writer
  events := h.events

/-- The current reader takes the next of its actions. -/
theorem perform (h : InOrder m due log) {a : Action} {rest : List Action} (hr : m.readers[place]? = some r)
    (hd : due place = a :: rest) (hg : r.generation = m.shared.generation) :
    InOrder { m with shared := m.shared.perform r.generation a } (Function.update due place rest)
      (log ++ [(r.generation, a)]) := by
  have hskip := h.skip hr hd
  -- what is due of a reader is not due behind the end of its source
  have hopen : ∀ e ∈ log, e.2.Closes → r.generation ≠ e.1 := by
    intro e he hcloses hnumber
    obtain ⟨-, hdue⟩ := h.closed e he hcloses place r hr hnumber
    rw [hd] at hdue
    cases hdue
  have hgeneration : (m.shared.perform r.generation a).generation = m.shared.generation :=
    Shared.generation_perform _ _ _
  exact {
    increasing := h.increasing
    started := by rw [hgeneration]; exact h.started
    idle := hskip.idle
    orderly := hskip.orderly
    authored := List.forall_mem_append.mpr ⟨h.authored, List.forall_mem_singleton.mpr (mem_generations hr)⟩
    sorted := by
      rw [List.pairwise_append]
      refine ⟨h.sorted, List.pairwise_singleton _ _, fun e he e' he' => ?_⟩
      rw [List.mem_singleton.mp he', hg]
      exact h.past e he
    closesLast := by
      rw [List.pairwise_append]
      refine ⟨h.closesLast, List.pairwise_singleton _ _, fun e he e' he' hcloses => ?_⟩
      rw [List.mem_singleton.mp he']
      exact hopen e he hcloses
    closed := by
      intro e he hcloses place' r' hr' hnumber
      rcases List.mem_append.mp he with he | he
      · exact hskip.closed e he hcloses place' r' hr' hnumber
      · obtain rfl := List.mem_singleton.mp he
        obtain rfl := h.eq_of_generation hr hr' hnumber
        obtain rfl := Option.some.inj (hr.symm.trans hr')
        have horderly := hd ▸ h.orderly place' r hr
        rw [Function.update_self]
        exact ⟨horderly.isDone ⟨a, List.mem_cons_self, hcloses⟩, eq_nil_of_closes horderly hcloses⟩
    writer := by
      intro w hw
      rw [hgeneration]
      refine ⟨hg ▸ mem_generations hr, ?_⟩
      unfold Shared.perform at hw
      rw [if_pos hg] at hw
      cases a with
      | emit event => exact List.mem_append_left _ (h.writer w hw).2
      | install writer =>
        obtain rfl : writer = some w := hw
        exact List.mem_append_right _ (by simp [hg])
      | close => cases hw
    events := by
      rw [List.filterMap_append, ← h.events, hg, Shared.events_perform]
      cases h : a.event? <;> simp [h] }

/-- Every step keeps a run in order. -/
theorem apply {s : Crew} (h : InOrder s.manager s.due log) (step : Step) :
    InOrder (step.apply s).manager (step.apply s).due (log ++ step.effects s) := by
  cases step with
  | warn =>
    change InOrder s.manager s.due (log ++ [])
    rwa [List.append_nil]
  | stop =>
    change InOrder s.manager.stop.value s.due (log ++ [])
    rw [List.append_nil]
    exact h.stop
  | start opener settings =>
    change InOrder _ _ (log ++ [])
    rw [List.append_nil, Step.apply]
    obtain ⟨answer, manager, hm⟩ : ∃ answer manager, (s.manager.launch opener settings).value = (answer, manager) :=
      ⟨_, _, rfl⟩
    obtain ⟨hlaunched, hnew⟩ := h.launch hm
    rw [hm]
    cases answer with
    | error fault => exact hlaunched
    | ok reader =>
      have hnumber : (reader.start (opener.connect s.manager.readers.length)).2.generation = reader.generation := by
        cases opener.connect s.manager.readers.length <;> rfl
      exact hlaunched.receive (Manager.getElem?_launch hm) hnumber (isOrderly_start _ _)
        fun e he _ heq => absurd heq (hnew reader rfl e he)
  | take place input =>
    change InOrder _ _ (log ++ [])
    rw [List.append_nil, Step.apply]
    split
    · next r hr =>
      split
      · refine h.receive hr (generation_answer r input) (isOrderly_answer r input) fun e he hcloses hnumber => ?_
        obtain ⟨hdone, -⟩ := h.closed e he hcloses place r hr hnumber.symm
        rw [answer_of_done hdone]
        exact ⟨hdone, rfl⟩
      · exact h
    · exact h
  | act place =>
    rw [Step.apply, Step.effects]
    split
    · next r a rest hr hd =>
      by_cases hg : r.generation = s.manager.shared.generation
      · rw [if_pos hg]
        exact h.perform hr hd hg
      · rw [if_neg hg, List.append_nil, Shared.perform_stale hg]
        exact h.skip hr hd
    · rwa [List.append_nil]

/-- What is in order stays so along a run. -/
theorem after {s : Crew} (h : InOrder s.manager s.due log) (steps : List Step) :
    InOrder (s.after steps).manager (s.after steps).due (log ++ s.effects steps) := by
  induction steps generalizing s log with
  | nil => rwa [Crew.effects, List.append_nil]
  | cons step steps ih =>
    rw [Crew.effects, ← List.append_assoc]
    exact ih (h.apply step)

end InOrder

/-! ### Runs -/

theorem generation_apply (s : Crew) (step : Step) :
    (step.apply s).manager.shared.generation = s.manager.shared.generation + if step.stops then 1 else 0 := by
  cases step with
  | warn => rfl
  | stop => rfl
  | start opener settings =>
    simp only [Step.apply, Manager.value_launch]
    cases Frame.Encoding.ofName? settings.encoding <;> rfl
  | take place input =>
    rw [Step.apply]
    split
    · split <;> rfl
    · rfl
  | act place =>
    rw [Step.apply]
    split
    · exact Shared.generation_perform _ _ _
    · rfl

/-- Only the current reader has an effect. -/
theorem fst_of_mem_stepEffects {s : Crew} {step : Step} {e : Nat × Action} (h : e ∈ step.effects s) :
    e.1 = s.manager.shared.generation := by
  unfold Step.effects at h
  split at h
  · split at h
    · split at h
      · next hg =>
        rw [List.mem_singleton.mp h]
        exact hg
      · cases h
    · cases h
  · cases h

theorem generation_le_of_mem_effects {s : Crew} {steps : List Step} {e : Nat × Action} (h : e ∈ s.effects steps) :
    s.manager.shared.generation ≤ e.1 := by
  induction steps generalizing s with
  | nil => cases h
  | cons step steps ih =>
    rcases List.mem_append.mp h with h | h
    · exact Nat.le_of_eq (fst_of_mem_stepEffects h).symm
    · have hle := ih h
      rw [generation_apply] at hle
      omega

theorem map_snd_sent (log : List (Nat × Action)) : (sent log).map Prod.snd = log.filterMap (·.2.event?) := by
  rw [sent, List.map_filterMap]
  congr 1
  funext e
  cases e.2.event? <;> rfl

theorem pairwise_sent {R : Nat × Event → Nat × Event → Prop} {log : List (Nat × Action)}
    (h : log.Pairwise fun a b => ∀ x ∈ a.2.event?, ∀ y ∈ b.2.event?, R (a.1, x) (b.1, y)) : (sent log).Pairwise R := by
  rw [sent, List.pairwise_filterMap]
  refine h.imp fun {a b} hab e he e' he' => ?_
  obtain ⟨x, hx, rfl⟩ := Option.map_eq_some_iff.mp he
  obtain ⟨y, hy, rfl⟩ := Option.map_eq_some_iff.mp he'
  exact hab x hx y hy

/-- Readers and the manager side by side, in any order of their steps.  What is sent is what the readers send, each under
a number of its own.  Nothing that a reader does has an effect behind a stop or another start, so events come in the order
of the starts and those of two readers are never mixed.  A writer in place was put there by the current reader.  Behind
the news that its source is closed a reader sends nothing. -/
theorem effects_after (steps : List Step) :
    let s := ({} : Crew).after steps
    let log := ({} : Crew).effects steps
    s.manager.shared.events.toList = (sent log).map Prod.snd ∧
      (s.manager.generations.Pairwise (· < ·) ∧ ∀ e ∈ log, e.1 ∈ s.manager.generations) ∧
      (∀ before step later, steps = before ++ step :: later → step.stops = true →
        ∀ r ∈ (({} : Crew).after before).manager.readers,
          ∀ e ∈ (({} : Crew).after (before ++ [step])).effects later, e.1 ≠ r.generation) ∧
      (sent log).Pairwise (fun a b => a.1 ≤ b.1) ∧
      (∀ w, s.manager.shared.writer = some w →
        ∃ r ∈ s.manager.readers, r.generation = s.manager.shared.generation ∧
          (r.generation, .install (some w)) ∈ log) ∧
      (sent log).Pairwise (fun a b => a.2 = .sourceClosed → b.1 ≠ a.1) := by
  intro s log
  have horder (steps : List Step) : InOrder (({} : Crew).after steps).manager (({} : Crew).after steps).due
      (({} : Crew).effects steps) := InOrder.after (s := {}) InOrder.initial steps
  have h := horder steps
  refine ⟨?_, ⟨h.increasing, h.authored⟩, ?_, ?_, ?_, ?_⟩
  · rw [map_snd_sent]
    exact h.events
  · intro before step later _ hstops r hr e he heq
    have hstarted : r.generation ≤ (({} : Crew).after before).manager.shared.generation :=
      (horder before).started _ (List.mem_map_of_mem hr)
    have hle := generation_le_of_mem_effects he
    have hstep : ({} : Crew).after (before ++ [step]) = step.apply (({} : Crew).after before) := by
      simp [Crew.after]
    rw [hstep, generation_apply, if_pos hstops] at hle
    omega
  · exact pairwise_sent (h.sorted.imp fun {a b} hab x _ y _ => hab)
  · intro w hw
    obtain ⟨hmem, hlog⟩ := h.writer w hw
    obtain ⟨r, hr, hg⟩ := List.mem_map.mp hmem
    exact ⟨r, hr, hg, hg ▸ hlog⟩
  · refine pairwise_sent (h.closesLast.imp fun {a b} hab x hx y _ hclosed => hab ?_)
    rw [Action.Closes, ← hclosed]
    exact hx

/-- A reader that is stopped between two of its lines: the second line is not sent, and neither is that the source is
closed, which the reader behind it sends of its own. -/
example :
    let opener : Opener := { target := "old", connect := fun _ => .ok none }
    let next : Opener := { target := "new", connect := fun _ => .error (.notOpened "new" "gone") }
    let steps : List Step :=
      [.start opener {}, .act 0, .act 0, .act 0, .take 0 (.read (.ok [0x31, 0x0A, 0x32, 0x0A])), .act 0, .start next {},
        .act 1, .act 0, .take 0 (.read (.ok [])), .act 1, .act 0, .act 1, .act 0]
    sent (({} : Crew).effects steps) =
      [(1, .status .connecting none), (1, .status .connected none), (1, .line "1"), (2, .status .connecting none),
        (2, .status .error (some "Cannot open 'new': gone")), (2, .sourceClosed)] := by
  decide +kernel

/-! ### One reader at a time -/

theorem after_acts {m : Manager} {place : Nat} {r : Reader} (h : m.readers[place]? = some r) (actions : List Action) :
    Crew.after { manager := m, due := Function.update (fun _ => []) place actions }
        (List.replicate actions.length (.act place)) =
      { manager := { m with shared := m.shared.performAll r.generation actions } } := by
  induction actions generalizing m with
  | nil =>
    rw [Function.update_eq_self_iff.mpr rfl]
    rfl
  | cons a rest ih =>
    have hact : Step.apply { manager := m, due := Function.update (fun _ => []) place (a :: rest) } (.act place) =
        { manager := { m with shared := m.shared.perform r.generation a },
          due := Function.update (fun _ => []) place rest } := by
      simp only [Step.apply, h, Function.update_self, Function.update_idem]
    rw [List.length_cons, List.replicate_succ, Crew.after, List.foldl_cons, hact]
    exact ih h

/-- A manager that lets a reader finish what it answers to a result of reading takes one of the ways of the readers. -/
theorem after_read {m : Manager} {place : Nat} {r : Reader} (h : m.readers[place]? = some r) (result : ReadResult) :
    let actions := (r.read (.ofResult result)).1
    Crew.after { manager := m } (.take place (.read result) :: List.replicate actions.length (.act place)) =
      { manager := m.read place (.ofResult result) } := by
  intro actions
  obtain ⟨hlt, -⟩ := List.getElem?_eq_some_iff.mp h
  have htake : Step.apply { manager := m } (.take place (.read result)) =
      Crew.receive { manager := m } place (r.read (.ofResult result)) := by
    simp [Step.apply, h, Crew.admits, Reader.answer]
  have hreader : (m.readers.set place (r.read (.ofResult result)).2)[place]? = some (r.read (.ofResult result)).2 :=
    List.getElem?_set_self hlt
  rw [Crew.after, List.foldl_cons, htake]
  exact (@after_acts { m with readers := m.readers.set place (r.read (.ofResult result)).2 } _ _ hreader actions).trans
    (by rw [Manager.read, h]; rfl)

/-- So does one that lets a reader finish opening its source. -/
theorem after_start {m m' : Manager} {opener : Opener} {settings : Settings} {reader : Reader}
    (h : (m.launch opener settings).value = (.ok reader, m')) :
    let place := m.readers.length
    let actions := (reader.start (opener.connect place)).1
    Crew.after { manager := m } (.start opener settings :: List.replicate actions.length (.act place)) =
      { manager := (m.start opener settings).value.2 } := by
  intro place actions
  obtain ⟨hlt, -⟩ := List.getElem?_eq_some_iff.mp (Manager.getElem?_launch h)
  have hstart : Step.apply { manager := m } (.start opener settings) =
      Crew.receive { manager := m' } place (reader.start (opener.connect place)) := by
    simp [Step.apply, h, place]
  have hreader : (m'.readers.set place (reader.start (opener.connect place)).2)[place]? =
      some (reader.start (opener.connect place)).2 := List.getElem?_set_self hlt
  rw [Crew.after, List.foldl_cons, hstart]
  exact (@after_acts { m' with readers := m'.readers.set place (reader.start (opener.connect place)).2 } _ _ hreader
    actions).trans (by rw [Manager.value_start, h]; rfl)

end SampleRecorder.Source
