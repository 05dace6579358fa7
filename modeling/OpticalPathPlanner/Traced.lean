import Mathlib

/-!
# Computations that leave notes

A traced computation either yields a value or stops, and leaves a list of
notes in both cases.  Running two of them in a row appends their notes; a
computation that has stopped leaves no further notes.
-/

structure Traced (Note α : Type) where
  notes : List Note
  result : Option α

namespace Traced

variable {Note α β : Type}

protected def pure (value : α) : Traced Note α := ⟨[], some value⟩

protected def bind (first : Traced Note α) (next : α → Traced Note β) :
    Traced Note β :=
  match first.result with
  | none => ⟨first.notes, none⟩
  | some value => ⟨first.notes ++ (next value).notes, (next value).result⟩

instance : Monad (Traced Note) where
  pure := Traced.pure
  bind := Traced.bind

/-- Leave the notes when the condition holds, and go on. -/
def noteIf (condition : Bool) (entries : List Note) : Traced Note Unit :=
  ⟨if condition then entries else [], some ()⟩

/-- Leave a note and stop when the condition holds. -/
def stopIf (condition : Bool) (entry : Note) : Traced Note Unit :=
  if condition then ⟨[entry], none⟩ else ⟨[], some ()⟩

/-- Go on with the value of an option; leave a note and stop without one. -/
def demand (value : Option α) (entry : Note) : Traced Note α :=
  match value with
  | none => ⟨[entry], none⟩
  | some value => ⟨[], some value⟩

/-- The computation runs to its end with the given value. -/
def Yields (computation : Traced Note α) (value : α) : Prop :=
  computation.result = some value

@[simp]
theorem yields_pure_iff {value other : α} :
    (pure value : Traced Note α).Yields other ↔ value = other :=
  Option.some_inj

/-- A sequence yields a value when both of its parts do. -/
theorem yields_bind_iff {first : Traced Note α} {next : α → Traced Note β}
    {value : β} :
    (first >>= next).Yields value ↔
      ∃ between, first.Yields between ∧ (next between).Yields value := by
  change (Traced.bind first next).result = some value ↔ _
  unfold Traced.bind Yields
  cases first.result <;> simp

@[simp]
theorem yields_stopIf_iff {condition : Bool} {entry : Note} :
    (stopIf condition entry).Yields () ↔ condition = false := by
  cases condition <;> simp [stopIf, Yields]

/-- A check in front of a computation adds its condition. -/
theorem yields_stopIf_bind_iff {condition : Bool} {entry : Note}
    {next : Unit → Traced Note β} {value : β} :
    (stopIf condition entry >>= next).Yields value ↔
      condition = false ∧ (next ()).Yields value := by
  rw [yields_bind_iff]
  constructor
  · rintro ⟨⟨⟩, passed, rest⟩
    exact ⟨yields_stopIf_iff.mp passed, rest⟩
  · rintro ⟨passed, rest⟩
    exact ⟨(), yields_stopIf_iff.mpr passed, rest⟩

theorem yields_noteIf_bind_iff {condition : Bool} {entries : List Note}
    {next : Unit → Traced Note β} {value : β} :
    (noteIf condition entries >>= next).Yields value ↔
      (next ()).Yields value := by
  rw [yields_bind_iff]
  constructor
  · rintro ⟨⟨⟩, _, rest⟩
    exact rest
  · intro rest
    exact ⟨(), rfl, rest⟩

theorem yields_demand_bind_iff {found : Option α} {entry : Note}
    {next : α → Traced Note β} {value : β} :
    (demand found entry >>= next).Yields value ↔
      ∃ between, found = some between ∧ (next between).Yields value := by
  rw [yields_bind_iff]
  cases found <;> simp [demand, Yields]

end Traced
