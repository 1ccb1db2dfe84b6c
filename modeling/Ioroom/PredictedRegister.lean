import Mathlib.Data.List.Basic

/-!
# Predicted registers

A register is stored by an owner and shown by a remote writer.  The writer applies each write to
what it shows and sends it to the owner, who applies it to what is stored and may answer with an
update; an update overwrites what the writer shows.  Delivering everything in flight in order makes
both agree exactly in the coherent registers.
-/

/-- The value the writer shows, the value the owner stores, and what is in flight between them,
oldest first. -/
structure PredictedRegister (α Write : Type*) where
  shown : α
  stored : α
  writes : List Write
  updates : List α

namespace PredictedRegister

variable {α β Write : Type*}

/-- The value stored once all writes in flight have arrived. -/
def final (apply : Write → α → α) (register : PredictedRegister α Write) : α :=
  register.writes.foldl (fun stored write => apply write stored) register.stored

/-- Some write changes the stored value. -/
def Changes (apply : Write → α → α) (stored : α) (writes : List Write) : Prop :=
  ∃ write ∈ writes, apply write stored ≠ stored

/-- The oldest write arrives and is answered or not, or the oldest update arrives. -/
inductive Delivery (apply : Write → α → α) (answers : α → α → Bool) :
    PredictedRegister α Write → PredictedRegister α Write → Prop
  | store (register : PredictedRegister α Write) (write : Write) (later : List Write) :
      register.writes = write :: later →
      Delivery apply answers register
        { register with
          stored := apply write register.stored
          writes := later
          updates :=
            if answers register.stored (apply write register.stored) then
              register.updates ++ [apply write register.stored]
            else register.updates }
  | update (register : PredictedRegister α Write) (value : α) (later : List α) :
      register.updates = value :: later →
      Delivery apply answers register { register with shown := value, updates := later }

/-- A write in flight changes the stored value, or the newest update in flight carries it, or there
is none and the writer shows it. -/
def Coherent (apply : Write → α → α) (register : PredictedRegister α Write) : Prop :=
  Changes apply register.stored register.writes ∨
    register.updates.getLastD register.shown = register.stored

/-- No write in flight changes what is observed of the register. -/
structure Constant (apply : Write → α → α) (observe : α → β) (value : β)
    (register : PredictedRegister α Write) : Prop where
  shown : observe register.shown = value
  stored : observe register.stored = value
  writes : ∀ write ∈ register.writes, ∀ stored, observe (apply write stored) = observe stored
  updates : ∀ update ∈ register.updates, observe update = value

variable {apply : Write → α → α} {answers : α → α → Bool} {observe : α → β} {value : β}
  {before after register : PredictedRegister α Write}

/-- A write to what the writer shows. -/
def write (apply : Write → α → α) (newest : Write) (register : PredictedRegister α Write) :
    PredictedRegister α Write :=
  { register with
    shown := apply newest register.shown
    writes := register.writes ++ [newest] }

theorem final_write (newest : Write) :
    (register.write apply newest).final apply = apply newest (register.final apply) := by
  simp [final, write]

/-- Deliveries change nothing about where the register ends. -/
theorem Delivery.final_eq (delivery : Delivery apply answers before after) :
    after.final apply = before.final apply := by
  cases delivery with
  | store write later head => rw [final, final, head, List.foldl_cons]
  | update value later head => rfl

theorem Coherent.write (coherent : Coherent apply register) (newest : Write) :
    Coherent apply (register.write apply newest) := by
  rcases coherent with ⟨write, member, changes⟩ | agreed
  · exact Or.inl ⟨write, List.mem_append_left _ member, changes⟩
  · by_cases changes : apply newest register.stored = register.stored
    · right
      simp only [PredictedRegister.write]
      cases updates : register.updates with
      | nil =>
          rw [updates] at agreed
          have shown : register.shown = register.stored := agreed
          rw [List.getLastD_nil, shown, changes]
      | cons update later =>
          rw [updates, List.getLastD_cons] at agreed
          rwa [List.getLastD_cons]
    · exact Or.inl ⟨newest, List.mem_append_right _ List.mem_cons_self, changes⟩

theorem coherent_update {value : α} {later : List α} (head : register.updates = value :: later) :
    Coherent apply { register with shown := value, updates := later } ↔
      Coherent apply register := by
  rw [Coherent, Coherent, head, List.getLastD_cons]

/-- An owner who answers every change keeps a register coherent. -/
theorem Coherent.delivery (coherent : Coherent apply before)
    (delivery : Delivery apply answers before after)
    (honest : ∀ old new, answers old new = false → new = old) : Coherent apply after := by
  cases delivery with
  | store write later head =>
      cases answer : answers before.stored (apply write before.stored) with
      | true => exact Or.inr List.getLastD_concat
      | false =>
          have still := honest _ _ answer
          rcases coherent with ⟨pending, member, changes⟩ | agreed
          · rw [head, List.mem_cons] at member
            rcases member with rfl | older
            · exact absurd still changes
            · exact Or.inl ⟨pending, older, by rwa [still]⟩
          · right
            simpa only [Bool.false_eq_true, if_false, still] using agreed
  | update value later head => exact (coherent_update head).mpr coherent

/-- With nothing in flight a coherent register shows the stored value. -/
theorem coherent_iff_settled (writes : register.writes = []) (updates : register.updates = []) :
    Coherent apply register ↔ register.shown = register.stored := by
  simp [Coherent, Changes, writes, updates]

theorem Constant.write (constant : Constant apply observe value register) {newest : Write}
    (blind : ∀ stored, observe (apply newest stored) = observe stored) :
    Constant apply observe value (register.write apply newest) := by
  refine ⟨(blind _).trans constant.shown, constant.stored, ?_, constant.updates⟩
  intro write member
  rcases List.mem_append.mp member with older | isNewest
  · exact constant.writes write older
  · rw [List.mem_singleton.mp isNewest]
    exact blind

theorem Constant.delivery (constant : Constant apply observe value before)
    (delivery : Delivery apply answers before after) :
    Constant apply observe value after := by
  obtain ⟨shown, stored, writes, updates⟩ := constant
  cases delivery with
  | store write later head =>
      rw [head] at writes
      have still : observe (apply write before.stored) = value :=
        (writes write List.mem_cons_self before.stored).trans stored
      refine ⟨shown, still, fun older member => writes older (List.mem_cons_of_mem _ member), ?_⟩
      intro update member
      simp only at member
      split at member
      · rcases List.mem_append.mp member with older | newest
        · exact updates update older
        · rw [List.mem_singleton.mp newest, still]
      · exact updates update member
  | update newest later head =>
      rw [head] at updates
      exact ⟨updates newest List.mem_cons_self, stored, writes,
        fun update member => updates update (List.mem_cons_of_mem newest member)⟩

end PredictedRegister
