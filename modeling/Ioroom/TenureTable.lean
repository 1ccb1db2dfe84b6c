import Mathlib.Logic.Basic

/-!
# Tables of tenures

An item is free, held by an owner, or orphaned, which means that its owner vanished without giving
it back.  A table of tenures is driven by actions alone: it knows nothing of locks or owners beyond
the order in which they acted.
-/

/-- What becomes of an item. -/
inductive Tenure (Owner : Type*)
  | free
  | held (owner : Owner)
  | orphaned
deriving DecidableEq

/-- What an owner does. -/
inductive TenureAction (Owner Item : Type*)
  | idle
  | take (owner : Owner) (item : Item)
  | drop (owner : Owner)
  | vanish (owner : Owner)

/-- The tenure of every item; an owner holds at most one of them. -/
structure TenureTable (Owner Item : Type*) where
  tenure : Item → Tenure Owner
  single : ∀ {owner : Owner} {left right : Item},
    tenure left = .held owner → tenure right = .held owner → left = right

namespace TenureTable

variable {Owner Item : Type*}

/-- Every item is free. -/
def vacant : TenureTable Owner Item where
  tenure _ := .free
  single := by simp

variable [DecidableEq Owner]

/-- The tenures of one owner end. -/
def close (owner : Owner) (ending : Tenure Owner) (ends : ∀ other, ending ≠ .held other)
    (table : TenureTable Owner Item) : TenureTable Owner Item where
  tenure item := if table.tenure item = .held owner then ending else table.tenure item
  single := by
    intro other left right leftHeld rightHeld
    split at leftHeld
    · exact absurd leftHeld (ends other)
    split at rightHeld
    · exact absurd rightHeld (ends other)
    exact table.single leftHeld rightHeld

/-- The tenure of an item under an owner who holds nothing else. -/
def grant [DecidableEq Item] (owner : Owner) (item : Item) (table : TenureTable Owner Item)
    (idle : ∀ other, table.tenure other ≠ .held owner) : TenureTable Owner Item where
  tenure other := if other = item then .held owner else table.tenure other
  single := by
    intro holder left right leftHeld rightHeld
    split at leftHeld
    · split at rightHeld
      · rename_i isLeft isRight
        rw [isLeft, isRight]
      · cases leftHeld
        exact absurd rightHeld (idle right)
    · split at rightHeld
      · cases rightHeld
        exact absurd leftHeld (idle left)
      · exact table.single leftHeld rightHeld

theorem tenure_close (owner : Owner) (ending : Tenure Owner)
    (ends : ∀ other, ending ≠ .held other) (table : TenureTable Owner Item) (item : Item) :
    (table.close owner ending ends).tenure item =
      if table.tenure item = .held owner then ending else table.tenure item := rfl

theorem close_idle (owner : Owner) (ending : Tenure Owner)
    (ends : ∀ other, ending ≠ .held other) (table : TenureTable Owner Item) (item : Item) :
    (table.close owner ending ends).tenure item ≠ .held owner := by
  rw [tenure_close]
  split
  · exact ends owner
  · assumption

theorem tenure_close_held {owner other : Owner} {ending : Tenure Owner}
    {ends : ∀ other, ending ≠ .held other} {table : TenureTable Owner Item} {item : Item} :
    (table.close owner ending ends).tenure item = .held other ↔
      other ≠ owner ∧ table.tenure item = .held other := by
  rw [tenure_close]
  split
  · rename_i held
    simp [held, ends other, eq_comm]
  · rename_i notHeld
    constructor
    · intro held
      refine ⟨?_, held⟩
      rintro rfl
      exact notHeld held
    · exact And.right

variable [DecidableEq Item]

/-- The table after an action: only a free item can be taken, and taking gives back what the owner
held before. -/
def after (table : TenureTable Owner Item) : TenureAction Owner Item → TenureTable Owner Item
  | .idle => table
  | .take owner item =>
      if table.tenure item = .free then
        (table.close owner .free (by simp)).grant owner item (close_idle owner .free (by simp) table)
      else table
  | .drop owner => table.close owner .free (by simp)
  | .vanish owner => table.close owner .orphaned (by simp)

/-- The table after a list of actions, newest first. -/
def account : List (TenureAction Owner Item) → TenureTable Owner Item
  | [] => vacant
  | action :: earlier => (account earlier).after action

theorem after_take_free {table : TenureTable Owner Item} {item : Item}
    (free : table.tenure item = .free) (owner : Owner) (other : Item) :
    (table.after (.take owner item)).tenure other =
      if other = item then .held owner
      else if table.tenure other = .held owner then .free else table.tenure other := by
  simp only [after, if_pos free, grant, tenure_close]

theorem after_take_taken {table : TenureTable Owner Item} {item : Item}
    (taken : table.tenure item ≠ .free) (owner : Owner) :
    table.after (.take owner item) = table := by
  simp only [after, if_neg taken]

theorem after_take_held {table : TenureTable Owner Item} {owner other : Owner} {item : Item}
    (distinct : other ≠ owner) (held : Item) :
    (table.after (.take owner item)).tenure held = .held other ↔
      table.tenure held = .held other := by
  by_cases free : table.tenure item = .free
  · rw [after_take_free free]
    by_cases isItem : held = item
    · simp [isItem, free, distinct.symm]
    · by_cases own : table.tenure held = .held owner
      · simp [isItem, own, distinct.symm]
      · simp [isItem, own]
  · rw [after_take_taken free]

theorem after_orphaned {table : TenureTable Owner Item} {item : Item}
    (orphaned : table.tenure item = .orphaned) (action : TenureAction Owner Item) :
    (table.after action).tenure item = .orphaned := by
  cases action with
  | idle => exact orphaned
  | take owner taken =>
      by_cases free : table.tenure taken = .free
      · have distinct : item ≠ taken := by
          rintro rfl
          simp [orphaned] at free
        simp [after_take_free free, distinct, orphaned]
      · rw [after_take_taken free, orphaned]
  | drop owner => simp [after, tenure_close, orphaned]
  | vanish owner => simp [after, tenure_close, orphaned]

/-- An item becomes orphaned only when its owner vanishes. -/
theorem orphaned_of_after {table : TenureTable Owner Item} {item : Item}
    {action : TenureAction Owner Item} (orphaned : (table.after action).tenure item = .orphaned) :
    table.tenure item = .orphaned ∨
      ∃ owner, action = .vanish owner ∧ table.tenure item = .held owner := by
  cases action with
  | idle => exact .inl orphaned
  | take owner taken =>
      refine .inl ?_
      by_cases free : table.tenure taken = .free
      · rw [after_take_free free] at orphaned
        split at orphaned
        · simp at orphaned
        split at orphaned
        · simp at orphaned
        exact orphaned
      · rwa [after_take_taken free] at orphaned
  | drop owner =>
      refine .inl ?_
      simp only [after, tenure_close] at orphaned
      split at orphaned
      · simp at orphaned
      · exact orphaned
  | vanish owner =>
      simp only [after, tenure_close] at orphaned
      split at orphaned
      · rename_i held
        exact .inr ⟨owner, rfl, held⟩
      · exact .inl orphaned

end TenureTable
