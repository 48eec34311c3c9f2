import SampleRecorder.Json.Basic
import SampleRecorder.Log.Level

/-!
# Log events and computations that log

`Traced α` is a value together with the events that were logged on the way to it, in order.  The value never depends
on the events: `value_bind` and its companions let a statement about values forget them.
-/

namespace SampleRecorder.Log

/-- One log event: a message and named data. -/
structure Event where
  level : Level
  message : String
  data : List (String × Json) := []

end SampleRecorder.Log

namespace SampleRecorder

/-- A value and the events logged while it was computed. -/
structure Traced (α : Type) where
  value : α
  events : List Log.Event := []

namespace Traced

variable {α β : Type}

instance : Monad Traced where
  pure a := ⟨a, []⟩
  bind x f := ⟨(f x.value).value, x.events ++ (f x.value).events⟩

@[simp] theorem value_pure (a : α) : (pure a : Traced α).value = a := rfl

@[simp] theorem value_bind (x : Traced α) (f : α → Traced β) : (x >>= f).value = (f x.value).value := rfl

@[simp] theorem events_pure (a : α) : (pure a : Traced α).events = [] := rfl

@[simp] theorem events_bind (x : Traced α) (f : α → Traced β) :
    (x >>= f).events = x.events ++ (f x.value).events := rfl

/-- Logs one event. -/
def log (level : Log.Level) (message : String) (data : List (String × Json) := []) : Traced Unit :=
  ⟨(), [⟨level, message, data⟩]⟩

@[simp] theorem value_log (level : Log.Level) (message : String) (data : List (String × Json)) :
    (log level message data).value = () := rfl

/-- Logs one event if a condition holds. -/
def logIf (condition : Bool) (level : Log.Level) (message : String) (data : List (String × Json) := []) :
    Traced Unit :=
  if condition then log level message data else pure ()

/-- The results of a traced function on the items of a list, in order. -/
def mapList (f : α → Traced β) : List α → Traced (List β)
  | [] => pure []
  | a :: rest => do
    let b ← f a
    let bs ← mapList f rest
    pure (b :: bs)

@[simp] theorem value_mapList (f : α → Traced β) (l : List α) :
    (mapList f l).value = l.map fun a => (f a).value := by
  induction l with
  | nil => rfl
  | cons a l ih => simp [mapList, ih]

end Traced

end SampleRecorder
