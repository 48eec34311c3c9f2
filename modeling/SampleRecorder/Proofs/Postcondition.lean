/-!
# Postconditions

`Gives x p` says of a computation that may fail that whatever it gives has the property `p`, and `Ensures x p q` says
besides that it fails only with what has the property `q`.  The lemmas follow the ways in which such computations are
put together, so that a statement about a long one is read off its parts.
-/

namespace SampleRecorder

variable {ε α β : Type}

/-- Whether everything that a computation gives has a property; a failure gives nothing. -/
def Gives (x : Except ε α) (p : α → Prop) : Prop :=
  ∀ a, x = .ok a → p a

namespace Gives

theorem ok {p : α → Prop} {a : α} (h : p a) : Gives (.ok a : Except ε α) p := by
  rintro _ ⟨⟩
  exact h

theorem error {p : α → Prop} (e : ε) : Gives (.error e : Except ε α) p := by
  rintro _ ⟨⟩

theorem bind {x : Except ε α} {f : α → Except ε β} {p : α → Prop} {q : β → Prop} (hx : Gives x p)
    (hf : ∀ a, p a → Gives (f a) q) : Gives (x >>= f) q := by
  intro b hb
  cases h : x with
  | error e => rw [h] at hb; cases hb
  | ok a => rw [h] at hb; exact hf a (hx a h) b hb

/-- A first step of which nothing needs to be known. -/
theorem bind_any {x : Except ε α} {f : α → Except ε β} {q : β → Prop} (hf : ∀ a, Gives (f a) q) : Gives (x >>= f) q :=
  bind (p := fun _ => True) (fun _ _ => trivial) fun a _ => hf a

theorem map {x : Except ε α} {f : α → β} {p : α → Prop} {q : β → Prop} (hx : Gives x p) (hf : ∀ a, p a → q (f a)) :
    Gives (x.map f) q := by
  intro b hb
  cases h : x with
  | error e => rw [h] at hb; cases hb
  | ok a =>
    rw [h] at hb
    cases hb
    exact hf a (hx a h)

/-- A computation of which nothing needs to be known. -/
theorem map_any {x : Except ε α} {f : α → β} {q : β → Prop} (hf : ∀ a, q (f a)) : Gives (x.map f) q :=
  map (p := fun _ => True) (fun _ _ => trivial) fun a _ => hf a

theorem mapError {ε' : Type} {x : Except ε α} {p : α → Prop} (hx : Gives x p) (f : ε → ε') : Gives (x.mapError f) p := by
  intro a ha
  cases h : x with
  | error e => rw [h] at ha; cases ha
  | ok a' =>
    rw [h] at ha
    cases ha
    exact hx a h

end Gives

/-- Whether everything that a computation gives has one property, and everything that it fails with has another. -/
structure Ensures (x : Except ε α) (p : α → Prop) (q : ε → Prop) : Prop where
  gives : Gives x p
  fails : ∀ e, x = .error e → q e

namespace Ensures

variable {q : ε → Prop}

theorem ok {p : α → Prop} {a : α} (h : p a) : Ensures (.ok a : Except ε α) p q :=
  ⟨.ok h, fun _ he => by cases he⟩

theorem error {p : α → Prop} {e : ε} (h : q e) : Ensures (.error e : Except ε α) p q := by
  refine ⟨.error e, ?_⟩
  rintro _ ⟨⟩
  exact h

theorem bind {x : Except ε α} {f : α → Except ε β} {p : α → Prop} {p' : β → Prop} {q' : ε → Prop} (hx : Ensures x p q')
    (hq : ∀ e, q' e → q e) (hf : ∀ a, p a → Ensures (f a) p' q) : Ensures (x >>= f) p' q := by
  refine ⟨hx.gives.bind fun a ha => (hf a ha).gives, fun e he => ?_⟩
  cases h : x with
  | error e' =>
    rw [h] at he
    cases he
    exact hq e (hx.fails e h)
  | ok a =>
    rw [h] at he
    exact (hf a (hx.gives a h)).fails e he

theorem map {x : Except ε α} {f : α → β} {p : α → Prop} {p' : β → Prop} {q' : ε → Prop} (hx : Ensures x p q')
    (hq : ∀ e, q' e → q e) (hf : ∀ a, p a → p' (f a)) : Ensures (x.map f) p' q := by
  refine ⟨hx.gives.map hf, fun e he => ?_⟩
  cases h : x with
  | error e' =>
    rw [h] at he
    cases he
    exact hq e (hx.fails e h)
  | ok a =>
    rw [h] at he
    cases he

theorem mapError {ε' : Type} {x : Except ε α} {f : ε → ε'} {p : α → Prop} {q : ε' → Prop} {q' : ε → Prop}
    (hx : Ensures x p q') (hq : ∀ e, q' e → q (f e)) : Ensures (x.mapError f) p q := by
  refine ⟨hx.gives.mapError f, fun e he => ?_⟩
  cases h : x with
  | error e' =>
    rw [h] at he
    cases he
    exact hq e' (hx.fails e' h)
  | ok a =>
    rw [h] at he
    cases he

theorem imp {x : Except ε α} {p p' : α → Prop} {q' : ε → Prop} (h : Ensures x p q') (hp : ∀ a, p a → p' a)
    (hq : ∀ e, q' e → q e) : Ensures x p' q :=
  ⟨fun a ha => hp a (h.gives a ha), fun e he => hq e (h.fails e he)⟩

end Ensures

end SampleRecorder
