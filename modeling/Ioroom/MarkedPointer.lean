import Mathlib.Logic.Function.Basic

/-!
# A pointer and its mark

Items carry marks, and a pointer is meant to name the only marked one.  Erasing a mark behind the
pointer's back lets the two drift apart; dropping the pointer or pointing anew brings them together.
-/

/-- Marks on items and a pointer to one of them. -/
structure MarkedPointer (α : Type*) where
  marked : α → Bool
  pointer : Option α

namespace MarkedPointer

variable {α : Type*}

/-- The marked items are exactly the one pointed to. -/
def Exact (state : MarkedPointer α) : Prop :=
  ∀ item, state.marked item = true ↔ state.pointer = some item

/-- No other item is marked than the one pointed to. -/
def Sound (state : MarkedPointer α) : Prop :=
  ∀ item, state.marked item = true → state.pointer = some item

variable {state : MarkedPointer α} {item : α}

theorem Exact.sound (exact : state.Exact) : state.Sound := fun item => (exact item).mp

theorem Sound.exact (sound : state.Sound) (marked : state.pointer = some item)
    (isMarked : state.marked item = true) : state.Exact := by
  intro other
  refine ⟨sound other, fun pointed => ?_⟩
  rw [← Option.some.inj (marked.symm.trans pointed)]
  exact isMarked

variable [DecidableEq α]

/-- Erase a mark and leave the pointer. -/
def erase (item : α) (state : MarkedPointer α) : MarkedPointer α :=
  { state with marked := Function.update state.marked item false }

/-- Erase the mark pointed to and forget it. -/
def drop (state : MarkedPointer α) : MarkedPointer α :=
  match state.pointer with
  | none => state
  | some item => { state.erase item with pointer := none }

/-- Drop the pointer and point to an item, with a mark. -/
def point (item : α) (state : MarkedPointer α) : MarkedPointer α where
  marked := Function.update state.drop.marked item true
  pointer := some item

theorem erase_marked_iff {other : α} :
    (state.erase item).marked other = true ↔ state.marked other = true ∧ other ≠ item := by
  by_cases same : other = item
  · simp [erase, same]
  · simp [erase, same]

theorem Sound.erase (sound : state.Sound) (item : α) : (state.erase item).Sound :=
  fun other marked => sound other (erase_marked_iff.mp marked).1

@[simp]
theorem drop_pointer (state : MarkedPointer α) : state.drop.pointer = none := by
  unfold drop
  split
  · assumption
  · rfl

theorem Sound.drop_marked (sound : state.Sound) (item : α) : state.drop.marked item = false := by
  rw [← Bool.not_eq_true]
  unfold drop
  split
  · next none_pointed =>
      intro marked
      exact Option.some_ne_none item ((sound item marked).symm.trans none_pointed)
  · next pointed isPointed =>
      intro marked
      obtain ⟨before, distinct⟩ := erase_marked_iff.mp marked
      exact distinct (Option.some.inj ((sound item before).symm.trans isPointed))

theorem Sound.drop_exact (sound : state.Sound) : state.drop.Exact := by
  intro item
  simp [sound.drop_marked item]

theorem Sound.point_exact (sound : state.Sound) (item : α) : (state.point item).Exact := by
  intro other
  by_cases same : other = item
  · simp [point, same]
  · simp [point, same, sound.drop_marked other, Ne.symm same]

end MarkedPointer
