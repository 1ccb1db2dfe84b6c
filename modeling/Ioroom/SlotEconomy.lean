import Ioroom.FirstFit
import Ioroom.Roster

/-!
# No more slots than players at once

A joining player gets the least slot which nobody has.  Over a whole session the highest slot handed
out is therefore the largest number of players who were in the session at the same time, and ten at
most, whatever the order in which they came and went.
-/

namespace Ioroom

open EventSystem

namespace Roster

variable {P R : Type*} [DecidableEq P] [Field R]

/-- The players whose play has begun and not ended. -/
def live (roster : Roster P R) : Set P := {player | (roster.playerStates player).isSome = true}

/-- The indices of the used entries. -/
def occupied (roster : Roster P R) : Finset Nat :=
  (Finset.univ.filter fun index => roster.gameState.used index = true).map Fin.valEmbedding

/-- The index of the entry which a joining player is given. -/
def takesEntry (roster : Roster P R) : Event P → Option Nat
  | .beginPlay _ =>
      let stencilSlot := roster.gameState.reserveStencilSlot.1
      if 0 < stencilSlot then some (stencilSlot - IoroomGameState.minStencilSlot).toNat else none
  | .endPlay _ => none

/-- The highest slot handed out. -/
def highestSlot (history : List (Roster P R × Event P)) : Nat := slotsUsed takesEntry history

variable {playerColorMPC : String → FLinearColor R} {roster : Roster P R}
  {history : List (Roster P R × Event P)}
  {custody : Custody P (Fin IoroomGameState.maxPlayers)}

omit [DecidableEq P] in
theorem mem_occupied {index : Nat} :
    index ∈ roster.occupied ↔
      ∃ bound : index < IoroomGameState.maxPlayers, roster.gameState.used ⟨index, bound⟩ = true := by
  simp only [occupied, Finset.mem_map, Finset.mem_filter, Finset.mem_univ, true_and,
    Fin.valEmbedding_apply]
  constructor
  · rintro ⟨entry, used, rfl⟩
    exact ⟨entry.isLt, used⟩
  · rintro ⟨bound, used⟩
    exact ⟨⟨index, bound⟩, used, rfl⟩

omit [DecidableEq P] in
theorem takesEntry_beginPlay_free {index : Fin IoroomGameState.maxPlayers}
    (reserved : roster.gameState.reserveStencilSlot.1 = (index : Int) + 1) (player : P) :
    roster.takesEntry (.beginPlay player) = some index := by
  have positive : 0 < (index : Int) + 1 := by omega
  simp [takesEntry, reserved, positive, IoroomGameState.minStencilSlot]

omit [DecidableEq P] in
theorem takesEntry_beginPlay_full (full : ∀ index, roster.gameState.used index = true)
    (player : P) : roster.takesEntry (.beginPlay player) = none := by
  simp [takesEntry, IoroomGameState.reserve_full full]

/-- Players are given the least free entry, and give entries back. -/
theorem Represents.fitsFirst (represents : Represents playerColorMPC roster custody)
    (event : Event P) :
    FitsFirst roster.occupied ((system playerColorMPC).next roster event).occupied
      (roster.takesEntry event) := by
  cases event with
  | beginPlay player =>
      have pool : ((system playerColorMPC).next roster (.beginPlay player)).gameState =
        roster.gameState.reserveStencilSlot.2 := rfl
      by_cases free : ∃ index, roster.gameState.used index = false
      · obtain ⟨index, unused, reserved, marked⟩ := IoroomGameState.reserve_free free
        rw [takesEntry_beginPlay_free reserved]
        refine ⟨⟨?_, ?_⟩, ?_⟩
        · intro taken
          obtain ⟨_, used⟩ := mem_occupied.mp taken
          exact absurd (used.symm.trans unused) (by decide)
        · intro other unoccupied
          by_contra smaller
          have bound : other < IoroomGameState.maxPlayers := by
            have inPool := index.isLt
            omega
          exact unoccupied (mem_occupied.mpr ⟨bound,
            IoroomGameState.reserve_least reserved (Fin.lt_def.mpr (not_le.mp smaller))⟩)
        · ext other
          rw [Finset.mem_insert, mem_occupied, mem_occupied, pool, marked]
          by_cases same : other = index
          · simp [same, index.isLt]
          · have distinct : ∀ bound, (⟨other, bound⟩ : Fin _) ≠ index := by
              intro bound equal
              exact same (congrArg Fin.val equal)
            simp [same, Function.update_of_ne (distinct _)]
      · have full : ∀ index, roster.gameState.used index = true := by
          simpa using free
        rw [takesEntry_beginPlay_full full]
        intro index taken
        rwa [mem_occupied, pool, IoroomGameState.reserve_full full, ← mem_occupied] at taken
  | endPlay player =>
      have after := represents_endPlay represents player
      intro index taken
      obtain ⟨bound, used⟩ := mem_occupied.mp taken
      refine mem_occupied.mpr ⟨bound, ?_⟩
      rw [← Bool.not_eq_false, represents.used]
      intro free
      refine absurd (used.symm.trans ((after.used ⟨index, bound⟩).mpr ?_)) (by decide)
      intro owner holds
      rw [Custody.held_drop] at holds
      split at holds
      · simp at holds
      · exact free owner holds

theorem economical (run : (system playerColorMPC).Run history roster) :
    Economical roster.occupied (highestSlot history)
      (peak (fun roster => roster.occupied.card) history roster) := by
  refine run.slotsUsed_eq_peak occupied takesEntry ?_ ?_
  · rintro initial ⟨created, _⟩
    ext index
    simp [mem_occupied, created]
  · rintro before event ⟨_, earlier⟩ _
    obtain ⟨_, _, represents⟩ := exists_represents earlier
    exact represents.fitsFirst event

omit [DecidableEq P] in
theorem Represents.card_occupied (represents : Represents playerColorMPC roster custody) :
    roster.occupied.card = roster.holders.ncard := by
  rw [represents.holders_eq, Custody.ncard_holders, occupied, Finset.card_map,
    ← Set.ncard_coe_finset]
  congr 1
  ext index
  simp [← represents.used index]

omit [DecidableEq P] in
theorem holders_subset_live : roster.holders ⊆ roster.live := by
  rintro player ⟨stencilSlot, _, stored⟩
  have begun : (roster.slot player).isSome = true := by simp [stored]
  simpa [live, slot] using begun

theorem live_finite (run : (system playerColorMPC).Run history roster) : roster.live.Finite := by
  induction run with
  | start started => simp [live, started.2]
  | @step history before event earlier enabled induction =>
      cases event with
      | beginPlay player =>
          refine (induction.insert player).subset fun other begun => ?_
          rcases eq_or_ne other player with same | distinct
          · exact Or.inl same
          · have kept : ((before.beginPlay playerColorMPC player).playerStates other).isSome =
                true := begun
            right
            simpa [beginPlay, distinct, live] using kept
      | endPlay player =>
          refine induction.subset fun other begun => ?_
          have stays : ((before.endPlay player).playerStates other).isSome = true := begun
          have kept : ((before.endPlay player).slot other).isSome = true := by
            simpa [slot] using stays
          rw [slot_endPlay] at kept
          split at kept
          · simp at kept
          · simpa [slot, live] using kept

theorem card_occupied_le (run : (system playerColorMPC).Run history roster) :
    roster.occupied.card ≤ roster.live.ncard := by
  obtain ⟨_, _, represents⟩ := exists_represents run
  rw [represents.card_occupied]
  exact Set.ncard_le_ncard holders_subset_live (live_finite run)

theorem slot_ne_refused (run : (system playerColorMPC).Run history roster)
    (low : highestSlot history < IoroomGameState.maxPlayers) (player : P) :
    roster.slot player ≠ some (-1) := by
  induction run with
  | start started => simp [slot, started.2]
  | @step history before event earlier enabled induction =>
      have earlierLow : highestSlot history < IoroomGameState.maxPlayers := (max_lt_iff.mp low).1
      cases event with
      | beginPlay joining =>
          change (before.beginPlay playerColorMPC joining).slot player ≠ some (-1)
          rw [slot_beginPlay]
          split
          · by_cases free : ∃ index, before.gameState.used index = false
            · obtain ⟨index, _, reserved, _⟩ := IoroomGameState.reserve_free free
              rw [reserved, ne_eq, Option.some.injEq]
              omega
            · have full : ∀ index, before.gameState.used index = true := by
                simpa using free
              have last : IoroomGameState.maxPlayers - 1 ∈ before.occupied :=
                mem_occupied.mpr ⟨by decide, full _⟩
              have below := Finset.mem_range.mp ((economical earlier).below last)
              have ten : IoroomGameState.maxPlayers = 10 := rfl
              omega
          · exact induction earlierLow
      | endPlay leaving =>
          change (before.endPlay leaving).slot player ≠ some (-1)
          rw [slot_endPlay]
          split
          · simp
          · exact induction earlierLow

/-- As long as nobody was refused, every live player has a used entry. -/
theorem card_occupied_eq (run : (system playerColorMPC).Run history roster)
    (low : highestSlot history < IoroomGameState.maxPlayers) :
    roster.occupied.card = roster.live.ncard := by
  obtain ⟨_, _, represents⟩ := exists_represents run
  rw [represents.card_occupied]
  congr 1
  refine holders_subset_live.antisymm fun player begun => ?_
  obtain ⟨playerState, stored⟩ := Option.isSome_iff_exists.mp begun
  have holds : roster.slot player = some playerState.stencilSlot := by simp [slot, stored]
  rcases represents.valid player _ holds with refused | ⟨index, granted⟩
  · exact absurd (refused ▸ holds) (slot_ne_refused run low player)
  · exact ⟨_, by omega, holds⟩

theorem peak_occupied_le (run : (system playerColorMPC).Run history roster) :
    peak (fun roster => roster.occupied.card) history roster ≤
      peak (fun roster => roster.live.ncard) history roster := by
  induction run with
  | start started => exact card_occupied_le (.start started)
  | step earlier enabled induction =>
      exact max_le_max induction (card_occupied_le (earlier.step enabled))

theorem peak_occupied_eq (run : (system playerColorMPC).Run history roster)
    (low : highestSlot history < IoroomGameState.maxPlayers) :
    peak (fun roster => roster.occupied.card) history roster =
      peak (fun roster => roster.live.ncard) history roster := by
  induction run with
  | start started => exact card_occupied_eq (.start started) low
  | step earlier enabled induction =>
      rw [peak, peak, card_occupied_eq (earlier.step enabled) low,
        induction (max_lt_iff.mp low).1]

theorem highestSlot_le (run : (system playerColorMPC).Run history roster) :
    highestSlot history ≤ IoroomGameState.maxPlayers := by
  have bounded : ∀ roster : Roster P R, roster.occupied.card ≤ IoroomGameState.maxPlayers := by
    intro roster
    rw [occupied, Finset.card_map]
    exact card_finset_fin_le _
  rw [(economical run).peak, peak_le_iff]
  exact ⟨bounded roster, fun past _ => bounded past.1⟩

/-- The highest slot ever handed out is the largest number of players who were in the session at
the same time, or ten if there were more, and no live player has a higher one. -/
theorem highestSlot_eq_peak (run : (system playerColorMPC).Run history roster) :
    highestSlot history =
        min (peak (fun roster => roster.live.ncard) history roster) IoroomGameState.maxPlayers ∧
      ∀ player stencilSlot, roster.slot player = some stencilSlot →
        stencilSlot ≤ highestSlot history := by
  obtain ⟨below, used⟩ := economical run
  constructor
  · rcases (highestSlot_le run).lt_or_eq with low | all
    · rw [← peak_occupied_eq run low, ← used, min_eq_left low.le]
    · have most := peak_occupied_le run
      rw [← used, all] at most
      rw [all, min_eq_right most]
  · intro player stencilSlot stored
    obtain ⟨_, _, represents⟩ := exists_represents run
    rcases represents.valid player stencilSlot stored with refused | ⟨index, granted⟩
    · omega
    · have holds := (represents.held player index).mpr (granted ▸ stored)
      have unfree : roster.gameState.used index ≠ false := by
        intro unused
        exact (represents.used index).mp unused player holds
      have inUse := below (mem_occupied.mpr ⟨index.isLt, Bool.eq_true_of_not_eq_false unfree⟩)
      rw [Finset.mem_range] at inUse
      omega

def noPlayers : Roster Nat ℚ := ⟨.create, fun _ => none⟩

/-- Three players of whom the first leaves before the third comes. -/
def turnover : List (Event Nat) := [.beginPlay 0, .beginPlay 1, .endPlay 0, .beginPlay 2]

/-- The third player gets the first player's slot, so two slots are enough. -/
theorem highestSlot_eq_peak_turnover :
    peak (fun roster => roster.live.ncard)
      ((system fun _ => .white).record [] noPlayers turnover)
      ((system fun _ => .white).replay noPlayers turnover) = 2 := by
  have legal : (system fun _ => .white).Legal noPlayers turnover := ⟨rfl, rfl, rfl, rfl, trivial⟩
  have run := (Run.start (⟨rfl, fun _ => rfl⟩ :
    (system fun _ => .white).Start noPlayers)).replay legal
  obtain ⟨highest, _⟩ := highestSlot_eq_peak run
  have two : highestSlot ((system fun _ => .white).record [] noPlayers turnover) = 2 := by decide
  have ten : IoroomGameState.maxPlayers = 10 := rfl
  omega

end Roster

end Ioroom
