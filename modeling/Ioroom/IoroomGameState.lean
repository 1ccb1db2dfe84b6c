import Mathlib.Data.List.Basic
import Mathlib.Logic.Function.Basic

/-!
# The stencil-slot pool

`AIoroomGameState` keeps one Boolean for each of the ten stencil values.  A slot is a number from
one to ten; the pool answers `-1` when every entry is taken.
-/

namespace Ioroom

/-- `AIoroomGameState`; the array keeps the length given by the constructor. -/
@[ext]
structure IoroomGameState where
  usedStencilSlots : List Bool
  /-- The array is never resized. -/
  length_eq : usedStencilSlots.length = 10

namespace IoroomGameState

def minStencilSlot : Int := 1

def maxPlayers : Nat := 10

def create : IoroomGameState where
  usedStencilSlots := List.replicate maxPlayers false
  length_eq := List.length_replicate

/-- `ReserveStencilSlot`: take the first free entry and return its index plus one, or `-1`. -/
def reserveStencilSlot (gameState : IoroomGameState) : Int × IoroomGameState :=
  match gameState.usedStencilSlots.findIdx? (fun entry => !entry) with
  | none => (-1, gameState)
  | some freeIndex =>
      (freeIndex + minStencilSlot,
        { usedStencilSlots := gameState.usedStencilSlots.set freeIndex true
          length_eq := by simpa using gameState.length_eq })

/-- `ReleaseStencilSlot`: clear the entry of the slot when its index is valid. -/
def releaseStencilSlot (stencilSlot : Int) (gameState : IoroomGameState) : IoroomGameState :=
  let index := stencilSlot - minStencilSlot
  if 0 ≤ index ∧ index < gameState.usedStencilSlots.length then
    { usedStencilSlots := gameState.usedStencilSlots.set index.toNat false
      length_eq := by simpa using gameState.length_eq }
  else gameState

/-- The entry of a stencil value; `index` counts from zero. -/
def used (gameState : IoroomGameState) (index : Fin maxPlayers) : Bool :=
  have bound : index.val < gameState.usedStencilSlots.length := by
    rw [gameState.length_eq]
    exact index.isLt
  gameState.usedStencilSlots[index.val]

@[simp]
theorem used_create (index : Fin maxPlayers) : create.used index = false := by
  simp [used, create]

theorem reserve_full {gameState : IoroomGameState} (full : ∀ index, gameState.used index = true) :
    gameState.reserveStencilSlot = (-1, gameState) := by
  have search : gameState.usedStencilSlots.findIdx? (fun entry => !entry) = none := by
    rw [List.findIdx?_eq_none_iff]
    intro entry member
    obtain ⟨position, bound, rfl⟩ := List.getElem_of_mem member
    have entry_used := full ⟨position, by simpa [gameState.length_eq, maxPlayers] using bound⟩
    simp only [used] at entry_used
    simp [entry_used]
  simp [reserveStencilSlot, search]

/-- A successful reservation returns a free index plus one and marks that entry only. -/
theorem reserve_free {gameState : IoroomGameState}
    (free : ∃ index, gameState.used index = false) :
    ∃ index, gameState.used index = false ∧
      gameState.reserveStencilSlot.1 = (index : Int) + 1 ∧
      gameState.reserveStencilSlot.2.used =
        Function.update gameState.used index true := by
  cases search : gameState.usedStencilSlots.findIdx? (fun entry => !entry) with
  | none =>
      obtain ⟨index, unused⟩ := free
      rw [List.findIdx?_eq_none_iff] at search
      have contradiction := search _ (List.getElem_mem (by
        rw [gameState.length_eq]
        exact index.isLt : index.val < gameState.usedStencilSlots.length))
      simp only [used] at unused
      simp [unused] at contradiction
  | some freeIndex =>
      obtain ⟨bound, unused, _⟩ := List.findIdx?_eq_some_iff_getElem.mp search
      have inPool : freeIndex < maxPlayers := by
        simpa [gameState.length_eq, maxPlayers] using bound
      refine ⟨⟨freeIndex, inPool⟩, by simpa [used] using unused, ?_, ?_⟩
      · simp [reserveStencilSlot, search, minStencilSlot]
      · funext index
        by_cases same : index = ⟨freeIndex, inPool⟩
        · subst same
          simp [reserveStencilSlot, search, used]
        · have distinct : freeIndex ≠ index.val := by
            intro equal
            exact same (Fin.ext equal.symm)
          rw [Function.update_of_ne same]
          simp [reserveStencilSlot, search, used, List.getElem_set_ne distinct]

theorem reserve_least {gameState : IoroomGameState} {index smaller : Fin maxPlayers}
    (reserved : gameState.reserveStencilSlot.1 = (index : Int) + 1) (before : smaller < index) :
    gameState.used smaller = true := by
  rw [reserveStencilSlot] at reserved
  split at reserved
  · have nonneg : (0 : Int) ≤ index := Int.natCast_nonneg _
    simp only at reserved
    omega
  · rename_i freeIndex search
    obtain ⟨_, _, minimal⟩ := List.findIdx?_eq_some_iff_getElem.mp search
    have position : freeIndex = index.val := by
      simp only [minStencilSlot] at reserved
      omega
    have taken := minimal smaller.val (position ▸ before)
    simpa [used] using taken

theorem reserve_ne_zero (gameState : IoroomGameState) :
    gameState.reserveStencilSlot.1 ≠ 0 := by
  by_cases free : ∃ index, gameState.used index = false
  · obtain ⟨index, _, reserved, _⟩ := reserve_free free
    have nonneg : (0 : Int) ≤ index := Int.natCast_nonneg _
    omega
  · have full : ∀ index, gameState.used index = true := by
      simpa using free
    rw [reserve_full full]
    change (-1 : Int) ≠ 0
    decide

/-- Releasing the slot of an entry clears that entry only. -/
theorem release_slot (gameState : IoroomGameState) (index : Fin maxPlayers) :
    (gameState.releaseStencilSlot ((index : Int) + 1)).used =
      Function.update gameState.used index false := by
  have valid : 0 ≤ (index : Int) + 1 - minStencilSlot ∧
      (index : Int) + 1 - minStencilSlot < gameState.usedStencilSlots.length := by
    have bound : index.val < 10 := index.isLt
    rw [gameState.length_eq]
    simp only [minStencilSlot]
    omega
  have position : ((index : Int) + 1 - minStencilSlot).toNat = index.val := by
    simp only [minStencilSlot]
    omega
  have released : (gameState.releaseStencilSlot ((index : Int) + 1)).usedStencilSlots =
      gameState.usedStencilSlots.set index.val false := by
    simp only [releaseStencilSlot, if_pos valid, position]
  funext other
  simp only [used, released]
  by_cases same : other = index
  · subst same
    simp
  · have distinct : index.val ≠ other.val := fun equal => same (Fin.ext equal.symm)
    rw [Function.update_of_ne same, List.getElem_set_ne distinct]
    rfl

theorem release_refused (gameState : IoroomGameState) :
    gameState.releaseStencilSlot (-1) = gameState := by
  simp [releaseStencilSlot, minStencilSlot]

end IoroomGameState

end Ioroom
