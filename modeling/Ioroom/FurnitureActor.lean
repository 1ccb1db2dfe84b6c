import Ioroom.Engine

/-!
# Furniture

One machine's copy of a furniture actor.  The selection lock is the number
`selectingStencilSlot`; its notification drives the custom-depth outline.
-/

namespace Ioroom

/-- `AFurnitureActor` with the render state of its mesh. -/
structure FurnitureActor (R : Type*) where
  selectingStencilSlot : Int := 0
  renderCustomDepth : Bool := false
  customDepthStencilValue : Int := 0
  /-- The mesh carries an overlay material. -/
  overlayMaterial : Bool := false
  location : FVector R
  rotation : FRotator R

namespace FurnitureActor

variable {R : Type*}

def isSelectableFurniture (actor : FurnitureActor R) : Bool := actor.selectingStencilSlot == 0

/-- `OnRep_SelectingStencilSlot`; the stencil value is written only for a positive slot. -/
def onRepSelectingStencilSlot (actor : FurnitureActor R) : FurnitureActor R :=
  let selected : Bool := 0 < actor.selectingStencilSlot
  { actor with
    renderCustomDepth := selected
    customDepthStencilValue :=
      if selected then actor.selectingStencilSlot else actor.customDepthStencilValue }

def onHovered (overlayMaterial : Bool) (actor : FurnitureActor R) : FurnitureActor R :=
  { actor with overlayMaterial }

def onUnHovered (actor : FurnitureActor R) : FurnitureActor R :=
  { actor with overlayMaterial := false }

/-- `OnSelected`, effective on the authority only. -/
def onSelected (hasAuthority : Bool) (stencilSlot : Int) (actor : FurnitureActor R) :
    FurnitureActor R :=
  if hasAuthority then
    onRepSelectingStencilSlot { actor with selectingStencilSlot := stencilSlot }
  else actor

def onDeselected (hasAuthority : Bool) (actor : FurnitureActor R) : FurnitureActor R :=
  if hasAuthority then
    onRepSelectingStencilSlot { actor with selectingStencilSlot := 0 }
  else actor

def setActorLocation (location : FVector R) (actor : FurnitureActor R) : FurnitureActor R :=
  { actor with location }

def setActorRotation (rotation : FRotator R) (actor : FurnitureActor R) : FurnitureActor R :=
  { actor with rotation }

/-- Two copies agree in everything but the hover overlay. -/
def SameActor (left right : FurnitureActor R) : Prop := left.onUnHovered = right.onUnHovered

namespace SameActor

variable {first second third : FurnitureActor R}

@[refl]
theorem refl (actor : FurnitureActor R) : SameActor actor actor := rfl

theorem trans (left : SameActor first second) (right : SameActor second third) :
    SameActor first third :=
  Eq.trans left right

theorem slot (same : SameActor first second) :
    first.selectingStencilSlot = second.selectingStencilSlot :=
  congrArg (·.selectingStencilSlot) same

theorem location (same : SameActor first second) : first.location = second.location :=
  congrArg (·.location) same

theorem rotation (same : SameActor first second) : first.rotation = second.rotation :=
  congrArg (·.rotation) same

end SameActor

theorem onHovered_same (overlayMaterial : Bool) (actor : FurnitureActor R) :
    SameActor (actor.onHovered overlayMaterial) actor := rfl

theorem onUnHovered_same (actor : FurnitureActor R) : SameActor actor.onUnHovered actor := rfl

theorem isSelectableFurniture_iff {actor : FurnitureActor R} :
    actor.isSelectableFurniture = true ↔ actor.selectingStencilSlot = 0 := by
  simp [isSelectableFurniture]

/-- The outline follows the lock number: it is drawn exactly for a positive slot, with that slot
as its stencil value. -/
structure OutlineFollowsLock (actor : FurnitureActor R) : Prop where
  drawn : actor.renderCustomDepth = true ↔ 0 < actor.selectingStencilSlot
  value : 0 < actor.selectingStencilSlot →
    actor.customDepthStencilValue = actor.selectingStencilSlot

theorem onRepSelectingStencilSlot_outline (actor : FurnitureActor R) :
    OutlineFollowsLock actor.onRepSelectingStencilSlot := by
  constructor
  · simp [onRepSelectingStencilSlot]
  · intro positive
    have selected : 0 < actor.selectingStencilSlot := positive
    simp [onRepSelectingStencilSlot, selected]

@[simp]
theorem onSelected_slot (stencilSlot : Int) (actor : FurnitureActor R) :
    (actor.onSelected true stencilSlot).selectingStencilSlot = stencilSlot := rfl

@[simp]
theorem onDeselected_slot (actor : FurnitureActor R) :
    (actor.onDeselected true).selectingStencilSlot = 0 := rfl

theorem onSelected_outline (stencilSlot : Int) (actor : FurnitureActor R) :
    OutlineFollowsLock (actor.onSelected true stencilSlot) :=
  onRepSelectingStencilSlot_outline _

theorem onDeselected_outline (actor : FurnitureActor R) :
    OutlineFollowsLock (actor.onDeselected true) :=
  onRepSelectingStencilSlot_outline _

@[simp]
theorem onSelected_location (hasAuthority : Bool) (stencilSlot : Int)
    (actor : FurnitureActor R) :
    (actor.onSelected hasAuthority stencilSlot).location = actor.location := by
  cases hasAuthority <;> rfl

@[simp]
theorem onSelected_rotation (hasAuthority : Bool) (stencilSlot : Int)
    (actor : FurnitureActor R) :
    (actor.onSelected hasAuthority stencilSlot).rotation = actor.rotation := by
  cases hasAuthority <;> rfl

@[simp]
theorem onDeselected_location (hasAuthority : Bool) (actor : FurnitureActor R) :
    (actor.onDeselected hasAuthority).location = actor.location := by
  cases hasAuthority <;> rfl

@[simp]
theorem onDeselected_rotation (hasAuthority : Bool) (actor : FurnitureActor R) :
    (actor.onDeselected hasAuthority).rotation = actor.rotation := by
  cases hasAuthority <;> rfl

end FurnitureActor

end Ioroom
