import Ioroom.EventSystem

/-!
# Interleavings of ordered streams

Events belong to streams, some of them to several.  Two sequences are interleavings of the same
streams when every stream sees the same events in the same order.  They then differ by exchanges of
neighbours which share no stream, so a system in which such neighbours can be exchanged ends in the
same state whatever the interleaving.
-/

namespace EventSystem

variable {State Event Stream : Type*} {belongs : Stream → Event → Bool}

/-- No stream sees both events. -/
def Independent (belongs : Stream → Event → Bool) (left right : Event) : Prop :=
  ∀ stream, belongs stream left = true → belongs stream right = false

/-- Every stream sees the same events in the same order. -/
def SameStreams (belongs : Stream → Event → Bool) (left right : List Event) : Prop :=
  ∀ stream, left.filter (belongs stream) = right.filter (belongs stream)

theorem Independent.symm {left right : Event} (independent : Independent belongs left right) :
    Independent belongs right left := by
  intro stream seesRight
  by_contra seesLeft
  rw [Bool.not_eq_false] at seesLeft
  rw [independent stream seesLeft] at seesRight
  simp at seesRight

/-- The first event of a sequence is also in every other interleaving, after events which are
independent of it, and without it the two sequences are interleavings of the same streams again. -/
theorem SameStreams.exists_first {event : Event} {events others : List Event}
    (same : SameStreams belongs (event :: events) others) {stream : Stream}
    (seen : belongs stream event = true) :
    ∃ earlier later, others = earlier ++ event :: later ∧
      (∀ other ∈ earlier, Independent belongs event other) ∧
      SameStreams belongs events (earlier ++ later) := by
  have member : event ∈ others.filter (belongs stream) := by
    rw [← same stream, List.filter_cons_of_pos seen]
    exact List.mem_cons_self
  obtain ⟨earlier, later, rfl, absent⟩ :=
    List.eq_append_cons_of_mem (List.mem_filter.mp member).1
  -- A stream which sees the event sees nothing of what stands before it.
  have unseen : ∀ stream, belongs stream event = true →
      earlier.filter (belongs stream) = [] := by
    intro stream seen
    have first := same stream
    rw [List.filter_cons_of_pos seen, List.filter_append, List.filter_cons_of_pos seen] at first
    cases before : earlier.filter (belongs stream) with
    | nil => rfl
    | cons head tail =>
        rw [before, List.cons_append] at first
        have isHead : head ∈ earlier.filter (belongs stream) := by simp [before]
        have inEarlier := (List.mem_filter.mp isHead).1
        rw [← (List.cons.inj first).1] at inEarlier
        exact absurd inEarlier absent
  refine ⟨earlier, later, rfl, ?_, ?_⟩
  · intro other isEarlier stream seen
    have unfiltered := List.filter_eq_nil_iff.mp (unseen stream seen) other isEarlier
    simpa using unfiltered
  · intro stream
    have whole := same stream
    rw [List.filter_append] at whole ⊢
    cases seen : belongs stream event with
    | true =>
        rw [List.filter_cons_of_pos seen, List.filter_cons_of_pos seen, unseen stream seen] at whole
        rw [unseen stream seen]
        exact (List.cons.inj whole).2
    | false =>
        have skipped : ¬belongs stream event = true := by simp [seen]
        rwa [List.filter_cons_of_neg skipped, List.filter_cons_of_neg skipped] at whole

/-- Independent neighbours can be exchanged in every state which satisfies an invariant. -/
structure Exchangeable (system : EventSystem State Event) (Inv : State → Prop)
    (belongs : Stream → Event → Bool) : Prop where
  seen : ∀ event, ∃ stream, belongs stream event = true
  keeps : ∀ {state event}, Inv state → system.Enabled state event → Inv (system.next state event)
  enabled : ∀ {state left right}, Inv state → Independent belongs left right →
    system.Enabled state left →
    (system.Enabled (system.next state left) right ↔ system.Enabled state right)
  commutes : ∀ {state left right}, Inv state → Independent belongs left right →
    system.Enabled state left → system.Enabled state right →
    system.next (system.next state left) right = system.next (system.next state right) left

variable {system : EventSystem State Event} {Inv : State → Prop}

/-- The first event may as well come after events which are independent of it. -/
theorem Exchangeable.postpone (exchangeable : Exchangeable system Inv belongs) {state : State}
    (inv : Inv state) {event : Event} {earlier later : List Event}
    (independent : ∀ other ∈ earlier, Independent belongs event other)
    (legal : system.Legal state (event :: (earlier ++ later))) :
    system.Legal state (earlier ++ event :: later) ∧
      system.replay state (earlier ++ event :: later) =
        system.replay state (event :: (earlier ++ later)) := by
  induction earlier generalizing state with
  | nil => exact ⟨legal, rfl⟩
  | cons other earlier induction =>
      obtain ⟨enabled, enabledAfter, rest⟩ := legal
      have apart := independent other List.mem_cons_self
      have enabledOther := (exchangeable.enabled inv apart enabled).mp enabledAfter
      have enabledEvent := (exchangeable.enabled inv apart.symm enabledOther).mpr enabled
      have exchanged := exchangeable.commutes inv apart enabled enabledOther
      rw [exchanged] at rest
      obtain ⟨legalAfter, replayed⟩ := induction (exchangeable.keeps inv enabledOther)
        (fun further member => independent further (List.mem_cons_of_mem _ member))
        ⟨enabledEvent, rest⟩
      refine ⟨⟨enabledOther, legalAfter⟩, ?_⟩
      change system.replay (system.next state other) (earlier ++ event :: later) =
        system.replay (system.next (system.next state event) other) (earlier ++ later)
      rw [replayed, exchanged]
      rfl

/-- All interleavings of the same streams are legal together and lead to the same state. -/
theorem Exchangeable.replay_eq (exchangeable : Exchangeable system Inv belongs) {state : State}
    (inv : Inv state) {events others : List Event} (same : SameStreams belongs events others)
    (legal : system.Legal state events) :
    system.Legal state others ∧ system.replay state others = system.replay state events := by
  induction events generalizing state others with
  | nil =>
      cases others with
      | nil => exact ⟨trivial, rfl⟩
      | cons other others =>
          obtain ⟨stream, seen⟩ := exchangeable.seen other
          have empty := same stream
          rw [List.filter_cons_of_pos seen] at empty
          exact absurd empty (by simp)
  | cons event events induction =>
      obtain ⟨enabled, legalAfter⟩ := legal
      obtain ⟨stream, seen⟩ := exchangeable.seen event
      obtain ⟨earlier, later, rfl, independent, remaining⟩ := same.exists_first seen
      obtain ⟨legalRest, replayed⟩ :=
        induction (exchangeable.keeps inv enabled) remaining legalAfter
      obtain ⟨legalOthers, postponed⟩ :=
        exchangeable.postpone inv independent ⟨enabled, legalRest⟩
      refine ⟨legalOthers, postponed.trans ?_⟩
      exact replayed

end EventSystem
