import Ioroom.EventSystem
import Mathlib.Data.Finset.Card
import Mathlib.Order.Bounds.Basic

/-!
# First fit

Slots are numbered from zero.  A system which always hands out the least free slot has used exactly
as many different slots as were ever in use at the same time.
-/

namespace EventSystem

variable {State Event : Type*}

/-- The largest value of a measure over a run. -/
def peak (measure : State → Nat) : List (State × Event) → State → Nat
  | [], state => measure state
  | (before, _) :: history, state => max (peak measure history before) (measure state)

/-- The number of slots up to the highest one handed out in a history. -/
def slotsUsed (takes : State → Event → Option Nat) : List (State × Event) → Nat
  | [] => 0
  | (before, event) :: history =>
      max (slotsUsed takes history) ((takes before event).elim 0 (· + 1))

theorem peak_le_iff {measure : State → Nat} {history : List (State × Event)} {state : State}
    {bound : Nat} : peak measure history state ≤ bound ↔
      Along (fun state => measure state ≤ bound) history state := by
  induction history generalizing state with
  | nil => simp [peak, Along]
  | cons past history induction =>
      obtain ⟨before, event⟩ := past
      rw [peak, max_le_iff, induction, along_cons]
      exact and_comm

/-- An event takes the least free slot, or takes none and frees some. -/
def FitsFirst (before after : Finset Nat) : Option Nat → Prop
  | none => after ⊆ before
  | some slot => IsLeast {free | free ∉ before} slot ∧ after = insert slot before

/-- Every slot in use was handed out, and as many were handed out as were in use at once. -/
structure Economical (occupied : Finset Nat) (used most : Nat) : Prop where
  below : occupied ⊆ Finset.range used
  peak : used = most

variable {occupied after : Finset Nat} {used most slot : Nat}

theorem Economical.free (economical : Economical occupied used most)
    (smaller : after ⊆ occupied) : Economical after used (max most after.card) := by
  have below := smaller.trans economical.below
  have counted : after.card ≤ used := by simpa using Finset.card_le_card below
  refine ⟨below, ?_⟩
  rw [← economical.peak, max_eq_left counted]

/-- The least free slot is an old one, or every old slot is in use and it is the next. -/
theorem Economical.take (economical : Economical occupied used most)
    (least : IsLeast {free | free ∉ occupied} slot) :
    Economical (insert slot occupied) (max used (slot + 1))
      (max most (insert slot occupied).card) := by
  obtain ⟨below, rfl⟩ := economical
  have counted : (insert slot occupied).card = occupied.card + 1 :=
    Finset.card_insert_of_notMem least.1
  have filled : Finset.range slot ⊆ occupied := by
    intro smaller inRange
    by_contra free
    exact absurd (least.2 free) (not_le.mpr (Finset.mem_range.mp inRange))
  have room : Finset.range (max used (slot + 1)) ⊇ insert slot occupied := by
    refine Finset.insert_subset (Finset.mem_range.mpr (by omega)) (below.trans ?_)
    exact Finset.range_subset_range.mpr (le_max_left _ _)
  refine ⟨room, ?_⟩
  have upper : (insert slot occupied).card ≤ max used (slot + 1) := by
    simpa using Finset.card_le_card room
  have lower : slot ≤ occupied.card := by simpa using Finset.card_le_card filled
  omega

/-- First fit hands out as many slots as are ever in use at once. -/
theorem Run.slotsUsed_eq_peak {system : EventSystem State Event}
    {history : List (State × Event)} {state : State} (run : system.Run history state)
    (occupied : State → Finset Nat) (takes : State → Event → Option Nat)
    (start : ∀ state, system.Start state → occupied state = ∅)
    (step : ∀ state event, system.Reachable state → system.Enabled state event →
      FitsFirst (occupied state) (occupied (system.next state event)) (takes state event)) :
    Economical (occupied state) (slotsUsed takes history)
      (peak (fun state => (occupied state).card) history state) := by
  induction run with
  | @start initial started =>
      have empty := start initial started
      exact ⟨by simp [empty], by simp [slotsUsed, peak, empty]⟩
  | @step history before event earlier enabled induction =>
      have fits := step before event ⟨history, earlier⟩ enabled
      cases taken : takes before event with
      | none =>
          rw [taken] at fits
          simpa [slotsUsed, peak, taken] using induction.free fits
      | some slot =>
          rw [taken] at fits
          obtain ⟨least, after⟩ := fits
          simpa [slotsUsed, peak, taken, after] using induction.take least

end EventSystem
