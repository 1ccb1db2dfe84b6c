import Mathlib.Algebra.Group.Defs
import Mathlib.Data.List.Basic

/-!
# Commands applied twice

A sender applies every command at once and sends it; a receiver applies the commands in the order in
which they were sent, each in a frame of its own.  Nobody compares the two states.  The receiver is
predicted by applying what is in flight in the frames of the sender, and the gap between prediction
and sender grows only by what the frames of an applied command differ in and by the lost commands.
-/

/-- A sender, a receiver, and the commands in flight with the frames in which the sender applied
them, oldest first. -/
@[ext]
structure CommandLink (State Command Frame : Type*) where
  sender : State
  receiver : State
  pending : List (Command × Frame)

namespace CommandLink

variable {State Command Frame Gap : Type*}

/-- The effect of a command in a frame. -/
abbrev Effect (State Command Frame : Type*) := Command → Frame → State → State

/-- The state after a list of commands, each in its frame. -/
def applyAll (apply : Effect State Command Frame) (commands : List (Command × Frame))
    (state : State) : State :=
  commands.foldl (fun state command => apply command.1 command.2 state) state

/-- The receiver once everything in flight has been applied in the frames of the sender. -/
def predicted (apply : Effect State Command Frame) (link : CommandLink State Command Frame) :
    State :=
  applyAll apply link.pending link.receiver

/-- The sender applies a command and sends it. -/
def send (apply : Effect State Command Frame) (command : Command) (frame : Frame)
    (link : CommandLink State Command Frame) : CommandLink State Command Frame :=
  { link with
    sender := apply command frame link.sender
    pending := link.pending ++ [(command, frame)] }

/-- The receiver applies the oldest command in its own frame. -/
def receive (apply : Effect State Command Frame) (frame : Frame)
    (link : CommandLink State Command Frame) : CommandLink State Command Frame :=
  match link.pending with
  | [] => link
  | (command, _) :: later =>
      { link with receiver := apply command frame link.receiver, pending := later }

/-- A command in flight is lost. -/
def lose (index : Nat) (link : CommandLink State Command Frame) :
    CommandLink State Command Frame :=
  { link with pending := link.pending.eraseIdx index }

/-- A notion of gap between states which no command widens, and what applying a command in another
frame costs. -/
structure Metering [AddMonoid Gap] (apply : Effect State Command Frame)
    (Within : Gap → State → State → Prop) (cost : Command → Frame → Frame → Gap) : Prop where
  refl (state : State) : Within 0 state state
  trans {left right : Gap} {first second third : State} :
    Within left first second → Within right second third → Within (left + right) first third
  keeps {gap : Gap} {left right : State} (command : Command) (frame : Frame) :
    Within gap left right → Within gap (apply command frame left) (apply command frame right)
  frames (command : Command) (own sent : Frame) (state : State) :
    Within (cost command own sent) (apply command own state) (apply command sent state)

section Apply

variable {apply : Effect State Command Frame}

@[simp]
theorem applyAll_nil (state : State) : applyAll apply [] state = state := rfl

@[simp]
theorem applyAll_cons (command : Command × Frame) (commands : List (Command × Frame))
    (state : State) :
    applyAll apply (command :: commands) state =
      applyAll apply commands (apply command.1 command.2 state) := rfl

theorem applyAll_append (older newer : List (Command × Frame)) (state : State) :
    applyAll apply (older ++ newer) state = applyAll apply newer (applyAll apply older state) :=
  List.foldl_append

theorem predicted_send (command : Command) (frame : Frame)
    (link : CommandLink State Command Frame) :
    (link.send apply command frame).predicted apply =
      apply command frame (link.predicted apply) := by
  simp [predicted, send, applyAll_append]

end Apply

theorem pending_split {link : CommandLink State Command Frame} {index : Nat}
    {command : Command × Frame} (found : link.pending[index]? = some command) :
    link.pending = link.pending.take index ++ command :: link.pending.drop (index + 1) := by
  obtain ⟨bound, rfl⟩ := List.getElem?_eq_some_iff.mp found
  rw [List.getElem_cons_drop, List.take_append_drop]

/-- The prediction is within the gap of the sender. -/
def Tracks (apply : Effect State Command Frame) (Within : Gap → State → State → Prop) (gap : Gap)
    (link : CommandLink State Command Frame) : Prop :=
  Within gap (link.predicted apply) link.sender

namespace Metering

variable [AddMonoid Gap] {apply : Effect State Command Frame}
  {Within : Gap → State → State → Prop} {cost : Command → Frame → Frame → Gap}
  {link : CommandLink State Command Frame} {gap : Gap}

theorem keeps_applyAll (metering : Metering apply Within cost) (commands : List (Command × Frame))
    {left right : State} (within : Within gap left right) :
    Within gap (applyAll apply commands left)
      (applyAll apply commands right) := by
  induction commands generalizing left right with
  | nil => exact within
  | cons command commands induction =>
      exact induction (metering.keeps command.1 command.2 within)

theorem tracks_start (metering : Metering apply Within cost)
    (pending : link.pending = []) (same : link.receiver = link.sender) :
    link.Tracks apply Within 0 := by
  rw [Tracks, predicted, pending, applyAll_nil, same]
  exact metering.refl _

theorem tracks_send (metering : Metering apply Within cost)
    (tracks : link.Tracks apply Within gap) (command : Command) (frame : Frame) :
    (link.send apply command frame).Tracks apply Within gap := by
  rw [Tracks, predicted_send]
  exact metering.keeps command frame tracks

theorem tracks_send_reset (metering : Metering apply Within cost) {command : Command}
    {frame : Frame}
    (reset : ∀ left right, apply command frame left = apply command frame right) :
    (link.send apply command frame).Tracks apply Within 0 := by
  rw [Tracks, predicted_send, reset _ link.sender]
  exact metering.refl _

theorem tracks_receive (metering : Metering apply Within cost) (own : Frame) {command : Command}
    {sent : Frame} {later : List (Command × Frame)}
    (head : link.pending = (command, sent) :: later)
    (tracks : link.Tracks apply Within gap) :
    (link.receive apply own).Tracks apply Within (cost command own sent + gap) := by
  rw [Tracks, predicted, head, applyAll_cons] at tracks
  simp only [Tracks, predicted, receive, head]
  exact metering.trans (metering.keeps_applyAll later (metering.frames command own sent _)) tracks

theorem tracks_lose (metering : Metering apply Within cost) {index : Nat} {command : Command}
    {sent : Frame} {lost : Gap} (member : link.pending[index]? = some (command, sent))
    (skipped : ∀ state, Within lost state (apply command sent state))
    (tracks : link.Tracks apply Within gap) :
    (link.lose index).Tracks apply Within (lost + gap) := by
  rw [Tracks, predicted, pending_split member, applyAll_append, applyAll_cons] at tracks
  rw [Tracks, predicted, lose, List.eraseIdx_eq_take_drop_succ, applyAll_append]
  exact metering.trans (metering.keeps_applyAll _ (skipped _)) tracks

end Metering

/-- A value which every command either overwrites or keeps, whatever the frame. -/
structure Overwrites {α : Type*} (apply : Effect State Command Frame) (read : State → α)
    (carried : Command → Option α) : Prop where
  read_apply (command : Command) (frame : Frame) (state : State) :
    read (apply command frame state) = (carried command).getD (read state)

/-- The sender shows the value which the receiver is predicted to have. -/
def Agrees {α : Type*} (apply : Effect State Command Frame) (read : State → α)
    (link : CommandLink State Command Frame) : Prop :=
  read (link.predicted apply) = read link.sender

namespace Overwrites

variable {α : Type*} {apply : Effect State Command Frame} {read : State → α}
  {carried : Command → Option α} {link : CommandLink State Command Frame}

theorem keeps_applyAll (overwrites : Overwrites apply read carried)
    (commands : List (Command × Frame)) {left right : State} (same : read left = read right) :
    read (applyAll apply commands left) = read (applyAll apply commands right) := by
  induction commands generalizing left right with
  | nil => exact same
  | cons command commands induction =>
      refine induction ?_
      rw [overwrites.read_apply, overwrites.read_apply, same]

/-- A command which carries a value makes any two states equal in it. -/
theorem applyAll_eq (overwrites : Overwrites apply read carried)
    {commands : List (Command × Frame)} {command : Command × Frame} (member : command ∈ commands)
    (carries : (carried command.1).isSome = true) (left right : State) :
    read (applyAll apply commands left) = read (applyAll apply commands right) := by
  obtain ⟨value, isValue⟩ := Option.isSome_iff_exists.mp carries
  obtain ⟨older, newer, rfl⟩ := List.append_of_mem member
  rw [applyAll_append, applyAll_append, applyAll_cons, applyAll_cons]
  refine overwrites.keeps_applyAll newer ?_
  rw [overwrites.read_apply, overwrites.read_apply, isValue, Option.getD_some, Option.getD_some]

theorem agrees_start (pending : link.pending = [])
    (same : read link.receiver = read link.sender) : link.Agrees apply read := by
  rw [Agrees, predicted, pending, applyAll_nil, same]

theorem agrees_send (overwrites : Overwrites apply read carried) (command : Command)
    (frame : Frame) (agrees : (carried command).isSome = true ∨ link.Agrees apply read) :
    (link.send apply command frame).Agrees apply read := by
  rw [Agrees, predicted_send, overwrites.read_apply]
  refine Eq.trans ?_ (overwrites.read_apply command frame link.sender).symm
  rcases agrees with carries | agrees
  · obtain ⟨value, isValue⟩ := Option.isSome_iff_exists.mp carries
    rw [isValue, Option.getD_some, Option.getD_some]
  · rw [agrees]

theorem agrees_receive (overwrites : Overwrites apply read carried) (frame : Frame)
    (agrees : link.Agrees apply read) : (link.receive apply frame).Agrees apply read := by
  cases head : link.pending with
  | nil => simpa [receive, head] using agrees
  | cons oldest later =>
      rw [Agrees, predicted, head, applyAll_cons] at agrees
      simp only [Agrees, predicted, receive, head]
      rw [← agrees]
      refine overwrites.keeps_applyAll later ?_
      rw [overwrites.read_apply, overwrites.read_apply]

/-- Losing a command keeps the agreement if it carries no value or one behind it does. -/
theorem agrees_lose (overwrites : Overwrites apply read carried) {index : Nat}
    {command : Command × Frame} (found : link.pending[index]? = some command)
    (repaired : carried command.1 = none ∨
      ∃ later ∈ link.pending.drop (index + 1), (carried later.1).isSome = true)
    (agrees : link.Agrees apply read) : (link.lose index).Agrees apply read := by
  rw [Agrees, predicted, pending_split found, applyAll_append, applyAll_cons] at agrees
  rw [Agrees, predicted, lose, List.eraseIdx_eq_take_drop_succ, applyAll_append]
  refine Eq.trans ?_ agrees
  rcases repaired with silent | ⟨later, member, carries⟩
  · refine overwrites.keeps_applyAll _ ?_
    rw [overwrites.read_apply, silent, Option.getD_none]
  · exact overwrites.applyAll_eq member carries _ _

end Overwrites

end CommandLink
