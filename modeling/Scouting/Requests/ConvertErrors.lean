import Scouting.Requests.ConvertFields

/-! # When the reducer fails

The loop stops at an action whose sub-table is missing, at a placement while no
note is held, and at a placement of a score type and auto flag combination the
classification does not know. Whether a note is held before an action depends
only on the actions before it: a pickup takes a note and a placement releases
it. So the reducer fails on a message exactly when some action of it is refused
in the state its prefix leaves, however far back the pickup that state depends
on lies.
-/

namespace Scouting

namespace Action2024

/-- Whether the action is a `PickupNoteAction`. -/
def isPickupNote (a : Action2024) : Bool := a.actionTaken = some .pickupNoteAction

/-- Whether an iteration refuses the action, given whether a note is held: a
missing sub-table, or a placement while no note is held or of an unknown
combination. -/
def Refused (held : Bool) (a : Action2024) : Prop :=
  match a.actionTaken with
  | none => True
  | some (.placeNoteAction st au) => held = false ∨ placeCounter st au = none
  | some _ => False

end Action2024

/-- Whether a note is held after some actions, starting from `held`: a pickup
takes a note, a placement releases it, every other action keeps the state. -/
def heldAfter (held : Bool) (l : List Action2024) : Bool :=
  l.foldl (fun held a => if a.isPickupNote then true else if a.isPlaceNote then false else held)
    held

theorem placeCounter_eq_none_iff (st : ScoreType) (au : Bool) :
    placeCounter st au = none ↔
      ¬ (st = .kAMP ∨ st = .kSPEAKER ∨ (st = .kSPEAKER_AMPLIFIED ∧ au = false) ∨
        st = .kDROPPED ∨ st = .kSHUTTLED ∨ st = .kOUT_OF_FIELD) := by
  cases st <;> cases au <;> decide

variable {s s' : ConvertState} {a : Action2024}

/-! ## One iteration -/

theorem convertAction_pickedUp (h : convertAction s a = .ok s') :
    s'.pickedUp = if a.isPickupNote then true else if a.isPlaceNote then false else s.pickedUp := by
  obtain ⟨t, ht, h⟩ := convertAction_eq_ok.mp h
  simp only [Action2024.isPickupNote, Action2024.isPlaceNote, Action2024.placement?, ht]
  cases t with
  | placeNoteAction st au => obtain ⟨-, c, -, rfl⟩ := takeAction_place_eq_ok.mp h; simp
  | endMatchAction g => cases h; cases g <;> simp
  | mobilityAction m => cases h; cases m <;> simp
  | _ => cases h; simp

theorem convertAction_eq_error_iff : (∃ e, convertAction s a = .error e) ↔ a.Refused s.pickedUp := by
  rcases a with ⟨_ | t, ts, hts⟩
  · simp [convertAction, Action2024.Refused, throw, throwThe, MonadExceptOf.throw]
  · simp only [convertAction, Action2024.Refused]
    cases t with
    | placeNoteAction st au =>
        simp only [ConvertState.takeAction]
        cases s.pickedUp <;> cases placeCounter st au <;>
          simp [throw, throwThe, MonadExceptOf.throw, pure, Except.pure]
    | endMatchAction g => simp [ConvertState.takeAction, pure, Except.pure]
    | mobilityAction m => cases m <;> simp [ConvertState.takeAction, pure, Except.pure]
    | _ => simp [ConvertState.takeAction, pure, Except.pure]

/-! ## A whole run of the loop -/

/-- The loop fails exactly when some action is refused in the held state that
the actions before it leave. -/
theorem foldlM_convertAction_eq_error_iff (l : List Action2024) (s : ConvertState) :
    (∃ e, l.foldlM convertAction s = .error e) ↔
      ∃ (i : Nat) (a : Action2024), l[i]? = some a ∧ a.Refused (heldAfter s.pickedUp (l.take i)) := by
  induction l generalizing s with
  | nil => simp [pure, Except.pure]
  | cons a l ih =>
      cases hstep : convertAction s a with
      | error e =>
          refine iff_of_true ⟨e, by simp [hstep, bind, Except.bind]⟩ ⟨0, a, by simp, ?_⟩
          simpa [heldAfter] using convertAction_eq_error_iff.mp ⟨e, hstep⟩
      | ok m =>
          have hm := convertAction_pickedUp hstep
          have hnot : ¬ a.Refused s.pickedUp := fun hr => by
            obtain ⟨e, he⟩ := convertAction_eq_error_iff.mpr hr
            rw [he] at hstep
            cases hstep
          simp only [List.foldlM_cons, hstep, bind, Except.bind]
          rw [ih m]
          constructor
          · rintro ⟨i, b, hb, hr⟩
            exact ⟨i + 1, b, by simpa using hb, by simpa [heldAfter, hm] using hr⟩
          · rintro ⟨_ | i, b, hb, hr⟩
            · obtain rfl : a = b := by simpa using hb
              exact absurd (by simpa [heldAfter] using hr) hnot
            · exact ⟨i, b, by simpa using hb, by simpa [heldAfter, hm] using hr⟩

theorem heldAfter_append_singleton (held : Bool) (l : List Action2024) (b : Action2024) :
    heldAfter held (l ++ [b]) =
      if b.isPickupNote then true else if b.isPlaceNote then false else heldAfter held l := by
  simp [heldAfter]

/-- A position that is neither a pickup nor a placement widens the window of
actions without changing whether some pickup in it was never placed. -/
theorem exists_unplaced_pickup_succ_iff (l : List Action2024) (i : Nat)
    (hpick : ∀ b, l[i]? = some b → ¬ b.isPickupNote) (hplace : ∀ b, l[i]? = some b → ¬ b.isPlaceNote) :
    (∃ j < i + 1, (∃ b, l[j]? = some b ∧ b.isPickupNote) ∧
        ∀ m, j < m → m < i + 1 → ∀ b, l[m]? = some b → ¬ b.isPlaceNote) ↔
      ∃ j < i, (∃ b, l[j]? = some b ∧ b.isPickupNote) ∧
        ∀ m, j < m → m < i → ∀ b, l[m]? = some b → ¬ b.isPlaceNote := by
  constructor
  · rintro ⟨j, hj, ⟨b, hb, hp⟩, hno⟩
    have hji : j ≠ i := by rintro rfl; exact hpick b hb hp
    exact ⟨j, by omega, ⟨b, hb, hp⟩, fun m hjm hmi => hno m hjm (by omega)⟩
  · rintro ⟨j, hj, hp, hno⟩
    refine ⟨j, by omega, hp, fun m hjm hmi b hb => ?_⟩
    rcases Nat.lt_succ_iff_lt_or_eq.mp hmi with hmi | rfl
    · exact hno m hjm hmi b hb
    · exact hplace b hb

/-- A note is held after the first `i` actions exactly when one of them is a
pickup that no later one of them places. -/
theorem heldAfter_take_iff (l : List Action2024) (i : Nat) :
    heldAfter false (l.take i) ↔
      ∃ j < i, (∃ b, l[j]? = some b ∧ b.isPickupNote) ∧
        ∀ m, j < m → m < i → ∀ b, l[m]? = some b → ¬ b.isPlaceNote := by
  induction i with
  | zero => simp [heldAfter]
  | succ i ih =>
      rw [List.take_succ]
      cases hli : l[i]? with
      | none =>
          have hnone : ∀ b, l[i]? = some b → False := fun b hb => by simp [hli] at hb
          rw [Option.toList_none, List.append_nil, ih,
            exists_unplaced_pickup_succ_iff l i (fun b hb => (hnone b hb).elim)
              (fun b hb => (hnone b hb).elim)]
      | some b =>
          rw [Option.toList_some, heldAfter_append_singleton]
          by_cases hpick : b.isPickupNote
          · simp only [hpick, if_true, true_iff]
            exact ⟨i, by omega, ⟨b, hli, hpick⟩, fun m him hmi => absurd hmi (by omega)⟩
          by_cases hplace : b.isPlaceNote
          · simp only [hpick, hplace, if_true, if_false, Bool.false_eq_true, false_iff]
            rintro ⟨j, hj, ⟨b', hb', hp'⟩, hno⟩
            rcases Nat.lt_succ_iff_lt_or_eq.mp hj with hj | rfl
            · exact hno i hj (by omega) b hli hplace
            · rw [hli] at hb'
              cases hb'
              exact hpick hp'
          simp only [hpick, hplace, if_false, Bool.false_eq_true, ih]
          refine (exists_unplaced_pickup_succ_iff l i ?_ ?_).symm <;>
            · intro b' hb'
              rw [hli] at hb'
              cases hb'
              assumption

/-- The reducer fails on a message exactly when some action has no sub-table,
or is a placement with no pickup after the previous placement, or is a
placement of a combination outside the classification table. Repeated pickups
and actions of every other kind never make it fail. -/
theorem convertActionsToStat2024_eq_error_iff (msg : Submit2024Actions) :
    (∃ e, convertActionsToStat2024 msg = .error e) ↔
      ∃ (i : Nat) (a : Action2024), msg.actionsList[i]? = some a ∧
        (a.actionTaken = none ∨
          ∃ st au, a.actionTaken = some (.placeNoteAction st au) ∧
            ((¬ ∃ j < i, (∃ b, msg.actionsList[j]? = some b ∧ b.isPickupNote) ∧
                ∀ m, j < m → m < i → ∀ b, msg.actionsList[m]? = some b → ¬ b.isPlaceNote) ∨
              ¬ (st = .kAMP ∨ st = .kSPEAKER ∨ (st = .kSPEAKER_AMPLIFIED ∧ au = false) ∨
                st = .kDROPPED ∨ st = .kSHUTTLED ∨ st = .kOUT_OF_FIELD))) := by
  have hrun : (∃ e, convertActionsToStat2024 msg = .error e) ↔
      ∃ e, msg.actionsList.foldlM convertAction (ConvertState.initial msg) = .error e := by
    simp only [convertActionsToStat2024]
    cases msg.actionsList.foldlM convertAction (ConvertState.initial msg) <;>
      simp [bind, Except.bind, pure, Except.pure]
  rw [hrun, foldlM_convertAction_eq_error_iff]
  refine exists_congr fun i => exists_congr fun a => and_congr_right fun _ => ?_
  rw [← heldAfter_take_iff]
  unfold Action2024.Refused
  cases a.actionTaken with
  | none => exact iff_of_true trivial (.inl rfl)
  | some t =>
      cases t with
      | placeNoteAction st au =>
          have hplace : ∀ P : ScoreType → Bool → Prop, (∃ st' au', ActionType.placeNoteAction st au =
              .placeNoteAction st' au' ∧ P st' au') ↔ P st au :=
            fun P => ⟨fun ⟨_, _, h, hp⟩ => by cases h; exact hp, fun hp => ⟨st, au, rfl, hp⟩⟩
          simp only [ConvertState.initial, Option.some.injEq, reduceCtorEq, false_or, hplace,
            placeCounter_eq_none_iff, Bool.not_eq_true]
      | _ => exact iff_of_false (fun h => h) (by rintro (h | ⟨st, au, h, -⟩) <;> cases h)

end Scouting
