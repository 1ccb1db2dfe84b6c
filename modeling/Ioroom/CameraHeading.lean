import Ioroom.CameraLink

/-!
# Where the camera looks

A look and an orbit carry the whole rotation.  Losing one of them is therefore repaired by the next,
and no interleaving tilts the camera of either machine beyond the vertical.
-/

namespace Ioroom

open EventSystem CommandLink

namespace CameraLink

section Heading

variable {F R : Type*} [DecidableEq F] [Field R] [LinearOrder R] [FloorRing R] [EngineMath R]
  {client server : CameraSettings R} {link : CameraLink F R}
  {history : List (CameraLink F R × CameraEvent F R)}

/-- The client makes a call which carries its rotation. -/
def Turns (link : CameraLink F R) : CameraEvent F R → Prop
  | .action _ (.lookAround _) => True
  | .handler _ event => link.cameraCalls event ≠ []
  | .action _ (.movement _) | .action _ (.zooming _) | .action _ (.panning _) => False
  | .replicate _ _ | .execute _ | .lose _ => False

/-- The newest rotation in flight is lost. -/
def LosesHeading (link : CameraLink F R) : CameraEvent F R → Prop
  | .lose index => ∃ call ∈ link.calls[index]?, call.1.rotation?.isSome = true ∧
      ∀ later ∈ link.calls.drop (index + 1), later.1.rotation? = none
  | .action _ _ | .handler _ _ | .replicate _ _ | .execute _ => False

/-- The newest rotation which the client sent has not been lost. -/
def HeadingIntact : List (CameraLink F R × CameraEvent F R) → Prop
  | [] => True
  | (link, event) :: older => link.Turns event ∨ ¬link.LosesHeading event ∧ HeadingIntact older

/-- Any call may be lost. -/
def AnyLoss (_ : CameraLink F R) (_ : CameraEvent F R) : Prop := True

omit [FloorRing R] in
theorem overwrites_rotation :
    Overwrites (CameraCall.placeIn (R := R)) CameraPose.controlRotation CameraCall.rotation? :=
  ⟨fun _ _ _ => rfl⟩

/-- One event keeps the heading, and a turn restores it. -/
theorem agrees_next (remote : link.Remote) {event : CameraEvent F R}
    (intact : link.Turns event ∨ ¬link.LosesHeading event ∧
      link.poses.Agrees CameraCall.placeIn CameraPose.controlRotation) :
    ((runs client server AnyLoss).next link event).poses.Agrees CameraCall.placeIn
      CameraPose.controlRotation := by
  have overwrites := overwrites_rotation (R := R)
  have stepped := poses_next client server remote event AnyLoss
  generalize ((runs client server AnyLoss).next link event).poses = after at stepped ⊢
  cases stepped with
  | action deltaTime input =>
      refine overwrites.agrees_send _ _ ?_
      rcases intact with turns | ⟨_, agrees⟩
      · left
        cases input with
        | lookAround axisValue => rfl
        | movement axisValue => exact turns.elim
        | zooming value => exact turns.elim
        | panning axisValue => exact turns.elim
      · exact Or.inr agrees
  | silent deltaTime event silent =>
      rcases intact with turns | ⟨_, agrees⟩
      · exact absurd silent turns
      · exact agrees
  | orbit deltaTime event newLocation direction calls =>
      exact overwrites.agrees_send _ _ (Or.inl rfl)
  | replicate furniture playerState =>
      rcases intact with turns | ⟨_, agrees⟩
      · exact turns.elim
      · exact agrees
  | execute deltaTime =>
      rcases intact with turns | ⟨_, agrees⟩
      · exact turns.elim
      · exact overwrites.agrees_receive _ agrees
  | lose index =>
      rcases intact with turns | ⟨keeps, agrees⟩
      · exact turns.elim
      · cases found : link.calls[index]? with
        | none =>
            have bound : link.poses.pending.length ≤ index := List.getElem?_eq_none_iff.mp found
            rw [CommandLink.lose, List.eraseIdx_of_length_le bound]
            exact agrees
        | some call =>
            have member : link.poses.pending[index]? = some call := found
            refine overwrites.agrees_lose member ?_ agrees
            by_contra unrepaired
            simp only [not_or, not_exists, not_and, Option.not_isSome_iff_eq_none] at unrepaired
            exact keeps ⟨call, found, Option.isSome_iff_ne_none.mpr unrepaired.1, unrepaired.2⟩

/-- Whatever else is lost, in whatever frames the calls are executed: unless the newest rotation
which the client sent is lost, the server's copy will look exactly where the client looks. -/
theorem heading_repaired (run : (runs client server AnyLoss).Run history link)
    (intact : HeadingIntact history) :
    (link.poses.predicted CameraCall.placeIn).controlRotation =
      link.client.pawn.controlRotation := by
  induction run with
  | start settled =>
      exact Overwrites.agrees_start settled.calls (congrArg CameraPose.controlRotation settled.same)
  | step earlier enabled induction =>
      refine agrees_next (remote_of_run earlier) ?_
      rcases intact with turns | ⟨keeps, older⟩
      · exact Or.inl turns
      · exact Or.inr ⟨keeps, induction older⟩

section Lossy

local instance lossyMath : EngineMath ℚ := quarterTurnMath

/-- The first of two looks is lost. -/
def firstLookLost : List (CameraEvent Nat ℚ) :=
  [.action 1 (.lookAround ⟨30, 0⟩), .action 1 (.lookAround ⟨60, 100⟩), .lose 0, .execute 1]

/-- The second one tells the server all the same. -/
theorem heading_repaired_second :
    let link := (runs (.create true) (.create false) AnyLoss).replay (atOriginLink Nat ℚ)
      firstLookLost
    link.calls = [] ∧ link.server.controlRotation = ⟨-89, 90, 0⟩ ∧
      link.server.controlRotation = link.client.pawn.controlRotation := by
  have start : (runs (.create true) (.create false) AnyLoss).Run [] (atOriginLink Nat ℚ) :=
    .start ⟨rfl, rfl, rfl, rfl⟩
  have legal : (runs (.create true) (.create false) AnyLoss).Legal (atOriginLink Nat ℚ)
      firstLookLost :=
    ⟨trivial, trivial, trivial, trivial, trivial⟩
  have intact : HeadingIntact ((runs (.create true) (.create false) AnyLoss).record []
      (atOriginLink Nat ℚ) firstLookLost) := by
    refine Or.inr ⟨id, Or.inr ⟨?_, Or.inl trivial⟩⟩
    rintro ⟨call, _, _, later⟩
    have newest := later (.look ⟨-89, 90, 0⟩, ⟨.create true, 1⟩) (by decide +kernel)
    exact absurd newest (by decide)
  exact ⟨by decide +kernel, by decide +kernel, heading_repaired (start.replay legal) intact⟩

end Lossy

end Heading

section Pitch

open PlaneAngle

variable {F : Type*} [DecidableEq F] {client server : CameraSettings ℝ} {link : CameraLink F ℝ}
  {history : List (CameraLink F ℝ × CameraEvent F ℝ)}

/-- The camera is not tilted beyond the vertical. -/
def Upright (rotation : FRotator ℝ) : Prop := |rotation.pitch| ≤ 90

/-- Neither copy of the camera is tilted beyond the vertical, nor will it be by a call in flight. -/
structure StaysUpright (poses : CommandLink (CameraPose ℝ) (CameraCall ℝ) (CameraFrame ℝ)) :
    Prop where
  sender : Upright poses.sender.controlRotation
  receiver : Upright poses.receiver.controlRotation
  pending : ∀ call ∈ poses.pending, ∀ rotation ∈ call.1.rotation?, Upright rotation

theorem upright_rotation (v : FVector ℝ) : Upright v.rotation := by
  have right : (0 : ℝ) ≤ (⟨Real.sqrt (v.x * v.x + v.y * v.y), v.z⟩ : ℂ).re := Real.sqrt_nonneg _
  have quarter := Complex.abs_arg_le_pi_div_two_iff.mpr right
  change |Complex.arg ⟨Real.sqrt (v.x * v.x + v.y * v.y), v.z⟩ * (180 / Real.pi)| ≤ 90
  rw [abs_mul, abs_of_pos (by positivity : 0 < 180 / Real.pi)]
  calc
    |Complex.arg ⟨Real.sqrt (v.x * v.x + v.y * v.y), v.z⟩| * (180 / Real.pi) ≤
        Real.pi / 2 * (180 / Real.pi) := by gcongr
    _ = 90 := by
      field_simp
      norm_num

theorem abs_clamp_le (value : ℝ) : |clamp value (-89.0) 89.0| ≤ 90 := by
  rw [clamp, abs_le]
  constructor
  · refine le_trans ?_ (le_max_left _ _)
    norm_num
  · refine max_le (by norm_num) ((min_le_right _ _).trans ?_)
    norm_num

theorem upright_place {call : CameraCall ℝ} {pose : CameraPose ℝ}
    (carried : ∀ rotation ∈ call.rotation?, Upright rotation)
    (upright : Upright pose.controlRotation) (frame : CameraFrame ℝ) :
    Upright (call.placeIn frame pose).controlRotation := by
  cases rotation : call.rotation? with
  | none => simpa [CameraCall.placeIn, CameraCall.place, rotation] using upright
  | some newRotation =>
      simpa [CameraCall.placeIn, CameraCall.place, rotation] using carried newRotation rotation

theorem StaysUpright.send {poses : CommandLink (CameraPose ℝ) (CameraCall ℝ) (CameraFrame ℝ)}
    (upright : StaysUpright poses) {call : CameraCall ℝ} (frame : CameraFrame ℝ)
    (carried : ∀ rotation ∈ call.rotation?, Upright rotation) :
    StaysUpright (poses.send CameraCall.placeIn call frame) := by
  refine ⟨upright_place carried upright.sender frame, upright.receiver, ?_⟩
  intro sent member
  rcases List.mem_append.mp member with older | newest
  · exact upright.pending sent older
  · rw [List.mem_singleton.mp newest]
    exact carried

theorem upright_next (upright : StaysUpright link.poses) (remote : link.Remote)
    (event : CameraEvent F ℝ) :
    StaysUpright ((runs client server AnyLoss).next link event).poses := by
  have stepped := poses_next client server remote event AnyLoss
  generalize ((runs client server AnyLoss).next link event).poses = after at stepped ⊢
  cases stepped with
  | action deltaTime input =>
      refine upright.send _ ?_
      cases input with
      | lookAround axisValue =>
          rintro _ ⟨rfl⟩
          exact abs_clamp_le _
      | movement axisValue => simp [CameraInput.call, CameraCall.rotation?]
      | zooming value => simp [CameraInput.call, CameraCall.rotation?]
      | panning axisValue => simp [CameraInput.call, CameraCall.rotation?]
  | silent deltaTime event silent => exact upright
  | orbit deltaTime event newLocation direction calls =>
      refine upright.send _ ?_
      rintro _ ⟨rfl⟩
      exact upright_rotation direction
  | replicate furniture playerState => exact upright
  | execute deltaTime =>
      cases head : link.poses.pending with
      | nil => simpa [CommandLink.receive, head] using upright
      | cons oldest later =>
          have arriving := upright.pending
          rw [head, List.forall_mem_cons] at arriving
          simp only [CommandLink.receive, head]
          exact ⟨upright.sender, upright_place arriving.1 upright.receiver _, arriving.2⟩
  | lose index =>
      exact ⟨upright.sender, upright.receiver, fun call member =>
        upright.pending call (List.mem_of_mem_eraseIdx member)⟩

/-- The runs of a link which starts upright. -/
noncomputable def uprightRuns (client server : CameraSettings ℝ) :
    EventSystem (CameraLink F ℝ) (CameraEvent F ℝ) :=
  { runs client server AnyLoss with
    Start := fun link => link.Settled ∧ Upright link.client.pawn.controlRotation }

/-- However the client looks, orbits and moves and whatever is lost, neither copy of the camera is
ever tilted beyond the vertical. -/
theorem camera_stays_upright (run : (uprightRuns client server).Run history link) :
    Upright link.client.pawn.controlRotation ∧ Upright link.server.controlRotation := by
  have start : ∀ initial : CameraLink F ℝ, (uprightRuns client server).Start initial →
      initial.Remote ∧ StaysUpright initial.poses := by
    rintro initial ⟨settled, upright⟩
    refine ⟨⟨settled.remote, settled.flushed⟩, upright, ?_, ?_⟩
    · exact (congrArg (Upright ·.controlRotation) settled.same).mpr upright
    · simp [poses, settled.calls]
  obtain ⟨_, upright⟩ := run.invariant start fun before event inv _ =>
    ⟨remote_next inv.1 event AnyLoss, upright_next inv.2 inv.1 event⟩
  exact ⟨upright.sender, upright.receiver⟩

/-- A look far beyond the vertical, whose call arrives. -/
noncomputable def lookFarUp : List (CameraEvent Nat ℝ) :=
  [.action 1 (.lookAround ⟨0, -500.0⟩), .execute 1]

/-- It does not turn the camera over. -/
theorem camera_stays_upright_far :
    Upright ((uprightRuns (.create true) (.create false)).replay (atOriginLink Nat ℝ)
      lookFarUp).server.controlRotation := by
  have start : (uprightRuns (.create true) (.create false)).Run [] (atOriginLink Nat ℝ) := by
    refine .start ⟨⟨rfl, rfl, rfl, rfl⟩, ?_⟩
    norm_num [Upright, atOriginLink, DesktopPawn.spawn]
  have legal : (uprightRuns (.create true) (.create false)).Legal (atOriginLink Nat ℝ) lookFarUp :=
    ⟨trivial, trivial, trivial⟩
  exact (camera_stays_upright (start.replay legal)).2

end Pitch

end CameraLink

end Ioroom
