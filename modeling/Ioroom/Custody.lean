import Mathlib.Data.Set.Card
import Mathlib.Logic.Function.Basic
import Mathlib.Logic.Relation

/-!
# Exclusive custody

Owners hold at most one item each and no item has two owners.  Exclusiveness is a field of the
state, so an assignment with a shared item cannot be built.
-/

/-- An assignment of at most one item to each owner, no item to two owners. -/
@[ext]
structure Custody (Owner Item : Type*) where
  /-- The item an owner holds. -/
  held : Owner → Option Item
  /-- An item has one owner. -/
  exclusive : ∀ {left right : Owner} {item : Item},
    held left = some item → held right = some item → left = right

namespace Custody

variable {Owner Item : Type*}

/-- Nobody holds anything. -/
def vacant : Custody Owner Item where
  held _ := none
  exclusive := by simp

/-- No owner holds the item. -/
def Free (custody : Custody Owner Item) (item : Item) : Prop :=
  ∀ owner, custody.held owner ≠ some item

variable [DecidableEq Owner]

/-- An owner gives up what it holds. -/
def drop (custody : Custody Owner Item) (owner : Owner) : Custody Owner Item where
  held := Function.update custody.held owner none
  exclusive := by
    intro left right item leftHolds rightHolds
    by_cases leftIs : left = owner
    · simp [leftIs] at leftHolds
    · by_cases rightIs : right = owner
      · simp [rightIs] at rightHolds
      · rw [Function.update_of_ne leftIs] at leftHolds
        rw [Function.update_of_ne rightIs] at rightHolds
        exact custody.exclusive leftHolds rightHolds

/-- An owner exchanges what it holds for a free item. -/
def take (custody : Custody Owner Item) (owner : Owner) (item : Item)
    (free : custody.Free item) : Custody Owner Item where
  held := Function.update custody.held owner (some item)
  exclusive := by
    intro left right other leftHolds rightHolds
    by_cases leftIs : left = owner
    · by_cases rightIs : right = owner
      · rw [leftIs, rightIs]
      · rw [leftIs, Function.update_self] at leftHolds
        rw [Function.update_of_ne rightIs, ← leftHolds] at rightHolds
        exact (free right rightHolds).elim
    · rw [Function.update_of_ne leftIs] at leftHolds
      by_cases rightIs : right = owner
      · rw [rightIs, Function.update_self] at rightHolds
        rw [← rightHolds] at leftHolds
        exact (free left leftHolds).elim
      · rw [Function.update_of_ne rightIs] at rightHolds
        exact custody.exclusive leftHolds rightHolds

theorem held_drop (custody : Custody Owner Item) (owner other : Owner) :
    (custody.drop owner).held other = if other = owner then none else custody.held other :=
  Function.update_apply custody.held owner none other

theorem held_take (custody : Custody Owner Item) (owner other : Owner) (item : Item)
    (free : custody.Free item) :
    (custody.take owner item free).held other =
      if other = owner then some item else custody.held other :=
  Function.update_apply custody.held owner (some item) other

theorem free_take_iff {custody : Custody Owner Item} {owner : Owner} {item : Item}
    (free : custody.Free item) (idle : custody.held owner = none) (other : Item) :
    (custody.take owner item free).Free other ↔ other ≠ item ∧ custody.Free other := by
  constructor
  · intro stillFree
    refine ⟨?_, ?_⟩
    · rintro rfl
      exact stillFree owner (by rw [held_take, if_pos rfl])
    · intro holder holds
      refine stillFree holder ?_
      rw [held_take, if_neg, holds]
      rintro rfl
      simp [idle] at holds
  · rintro ⟨distinct, wasFree⟩ holder holds
    rw [held_take] at holds
    split at holds
    · exact distinct (Option.some.inj holds).symm
    · exact wasFree holder holds

theorem free_drop_iff {custody : Custody Owner Item} {owner : Owner} {item : Item}
    (holds : custody.held owner = some item) (other : Item) :
    (custody.drop owner).Free other ↔ other = item ∨ custody.Free other := by
  constructor
  · intro free
    by_contra taken
    push Not at taken
    obtain ⟨distinct, notFree⟩ := taken
    refine notFree fun holder holderHolds => free holder ?_
    rw [held_drop, if_neg, holderHolds]
    rintro rfl
    rw [holds] at holderHolds
    exact distinct (Option.some.inj holderHolds).symm
  · intro freed holder holderHolds
    rw [held_drop] at holderHolds
    split at holderHolds
    · simp at holderHolds
    · rename_i notOwner
      rcases freed with rfl | wasFree
      · exact notOwner (custody.exclusive holderHolds holds)
      · exact wasFree holder holderHolds

theorem drop_idle {custody : Custody Owner Item} {owner : Owner}
    (idle : custody.held owner = none) : custody.drop owner = custody := by
  ext1
  funext other
  rw [held_drop]
  split
  · rename_i same
    rw [same, idle]
  · rfl

/-- One abstract step: an owner drops its item or takes a free one. -/
inductive Step : Custody Owner Item → Custody Owner Item → Prop
  | drop (custody : Custody Owner Item) (owner : Owner) : Step custody (custody.drop owner)
  | take (custody : Custody Owner Item) (owner : Owner) (item : Item)
      (free : custody.Free item) : Step custody (custody.take owner item free)

omit [DecidableEq Owner] in
theorem ncard_holders (custody : Custody Owner Item) :
    {owner | (custody.held owner).isSome}.ncard = {item | ¬custody.Free item}.ncard := by
  refine Set.ncard_congr (fun owner holds => (custody.held owner).get holds) ?_ ?_ ?_
  · intro owner holds free
    exact free owner (Option.some_get holds).symm
  · intro left right leftHolds rightHolds same
    refine custody.exclusive (Option.some_get leftHolds).symm ?_
    rw [same]
    exact (Option.some_get rightHolds).symm
  · intro item taken
    obtain ⟨owner, holds⟩ : ∃ owner, custody.held owner = some item := by
      simpa [Free] using taken
    exact ⟨owner, by simp [holds], by simp [holds]⟩

omit [DecidableEq Owner] in
/-- As many owners hold an item as there are items exactly when no item is free. -/
theorem ncard_holders_eq_iff [Finite Item] (custody : Custody Owner Item) :
    {owner | (custody.held owner).isSome}.ncard = Nat.card Item ↔
      ∀ item, ¬custody.Free item := by
  rw [ncard_holders, ← Set.eq_univ_iff_ncard, Set.eq_univ_iff_forall]
  rfl

end Custody
