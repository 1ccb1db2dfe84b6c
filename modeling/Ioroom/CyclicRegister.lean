import Ioroom.EventSystem

/-!
# Registers which wrap around

Events set a register, advance it by one modulo its size, or leave it alone.  Its value is the
newest one set plus the number of advances since, modulo the size.
-/

namespace EventSystem

variable {State Event : Type*}

/-- The value of a register after an event. -/
def turned (size : Nat) (set : Event → Option Nat) (advances : Event → Bool) (event : Event)
    (value : Nat) : Nat :=
  match set event with
  | some fixed => fixed
  | none => if advances event then (value + 1) % size else value

/-- The number of advances since the register was last set. -/
def advancesSince (set : Event → Option Nat) (advances : Event → Bool) :
    List (State × Event) → Nat
  | [] => 0
  | past :: earlier =>
      match set past.2, advances past.2 with
      | some _, _ => 0
      | none, true => advancesSince set advances earlier + 1
      | none, false => advancesSince set advances earlier

/-- The value which a history accounts for. -/
def dialled (size initial : Nat) (set : Event → Option Nat) (advances : Event → Bool)
    (history : List (State × Event)) : Nat :=
  ((latest (fun _ => set) history).getD initial + advancesSince set advances history) % size

theorem dialled_cons {size initial : Nat} {set : Event → Option Nat} {advances : Event → Bool}
    {state : State} {event : Event} {history : List (State × Event)}
    (inRange : ∀ value, set event = some value → value < size) :
    dialled size initial set advances ((state, event) :: history) =
      turned size set advances event (dialled size initial set advances history) := by
  rw [dialled, latest_cons, advancesSince, turned]
  cases fixes : set event with
  | some value => simp [Nat.mod_eq_of_lt (inRange value fixes)]
  | none =>
      cases advances event with
      | true => simp [dialled, Nat.add_assoc]
      | false => simp [dialled]

/-- A register which every event turns holds what its history accounts for. -/
theorem Run.register_eq_dialled {system : EventSystem State Event}
    {history : List (State × Event)} {state : State} (run : system.Run history state)
    (read : State → Nat) {size initial : Nat} {set : Event → Option Nat}
    {advances : Event → Bool} (initialRange : initial < size)
    (start : ∀ state, system.Start state → read state = initial)
    (inRange : ∀ state event value, system.Enabled state event → set event = some value →
      value < size)
    (step : ∀ state event, system.Enabled state event →
      read (system.next state event) = turned size set advances event (read state)) :
    read state = dialled size initial set advances history := by
  induction run with
  | start started =>
      rw [start _ started]
      simp [dialled, advancesSince, Nat.mod_eq_of_lt initialRange]
  | @step history state event _ enabled induction =>
      rw [step state event enabled, induction,
        dialled_cons fun value => inRange state event value enabled]

end EventSystem
