import StoredCall.Event

/-!
# Traced computations

A value together with what was reported on the way to it.

* `Traced`: a value with its reports, oldest first;
* `Attempt`: a traced computation that may fail; its reports up to the failure remain.
-/

namespace StoredCall

/-- A value with the reports made while it was computed, oldest first. -/
structure Traced (α : Type) where
  value : α
  events : List Event

namespace Traced

instance : Monad Traced where
  pure a := ⟨a, []⟩
  bind x f := ⟨(f x.value).value, x.events ++ (f x.value).events⟩

/-- Makes one report. -/
def report (e : Event) : Traced Unit := ⟨(), [e]⟩

@[simp] theorem value_pure {α : Type} (a : α) : (pure a : Traced α).value = a := rfl

@[simp] theorem events_pure {α : Type} (a : α) : (pure a : Traced α).events = [] := rfl

@[simp] theorem value_bind {α β : Type} (x : Traced α) (f : α → Traced β) :
    (x >>= f).value = (f x.value).value := rfl

@[simp] theorem events_bind {α β : Type} (x : Traced α) (f : α → Traced β) :
    (x >>= f).events = x.events ++ (f x.value).events := rfl

instance : LawfulMonad Traced :=
  LawfulMonad.mk' Traced
    (fun ⟨v, es⟩ => congrArg (Traced.mk v) (List.append_nil es))
    (fun _ _ => rfl)
    (fun x f g => congrArg (Traced.mk _)
      (List.append_assoc x.events (f x.value).events (g (f x.value).value).events))

end Traced

/-- A traced computation that may fail. -/
abbrev Attempt (α : Type) := ExceptT CallError Traced α

namespace Attempt

/-- An outcome with the reports made on the way to it. -/
def of {α : Type} (outcome : Except CallError α) (events : List Event) : Attempt α :=
  ExceptT.mk ⟨outcome, events⟩

/-- The outcome without its reports. -/
def outcome {α : Type} (x : Attempt α) : Except CallError α := x.run.value

/-- The reports without the outcome. -/
def events {α : Type} (x : Attempt α) : List Event := x.run.events

@[simp] theorem outcome_of {α : Type} (o : Except CallError α) (es : List Event) :
    (of o es).outcome = o := rfl

@[simp] theorem events_of {α : Type} (o : Except CallError α) (es : List Event) :
    (of o es).events = es := rfl

@[simp] theorem outcome_pure {α : Type} (a : α) : (pure a : Attempt α).outcome = .ok a := rfl

theorem outcome_bind {α β : Type} (x : Attempt α) (f : α → Attempt β) :
    (x >>= f).outcome = x.outcome.bind fun a => (f a).outcome := by
  obtain ⟨value, events⟩ := x
  cases value <;> rfl

end Attempt

end StoredCall
