import Scouting.Requests.Messages

/-! # The action reducer `ConvertActionsToStat2024`

The reducer folds the action list of one message into a `Stats2024` row. Its
loop keeps four locals next to the row: the summed cycle time, the number of
counted placements, whether a note is held, and the time of the last counted
placement. The loop stops at the first action whose sub-table is missing, at a
placement while no note is held, and at a placement whose score type and auto
flag the classification does not know. After the loop the average cycle time is
the summed cycle time divided by the number of counted placements.
-/

namespace Scouting

/-- The locals of the reducer's loop: `overall_time`, `cycles`, `picked_up`,
`lastPlacedTime`, and the row under construction. -/
structure ConvertState where
  overallTime : Int
  cycles : Int
  pickedUp : Bool
  lastPlacedTime : Int
  stat : Db.Stats2024

/-- The row the reducer starts from: the message's identity, every counter zero
and every flag false. -/
def initialStat (msg : Submit2024Actions) : Db.Stats2024 where
  compType := msg.compType
  teamNumber := msg.teamNumber
  matchNumber := msg.matchNumber
  setNumber := msg.setNumber
  compLevel := msg.compLevel
  startingQuadrant := 0
  speakerAuto := 0
  ampAuto := 0
  notesDroppedAuto := 0
  mobilityAuto := false
  speaker := 0
  amp := 0
  speakerAmplified := 0
  notesDropped := 0
  shuttled := 0
  outOfField := 0
  penalties := 0
  trapNote := false
  spotlight := false
  avgCycle := 0
  park := false
  onStage := false
  harmony := false
  robotDied := false
  noShow := false
  collectedBy := ""

/-- The locals before the first action. -/
def ConvertState.initial (msg : Submit2024Actions) : ConvertState :=
  ⟨0, 0, false, 0, initialStat msg⟩

/-- The if-chain of the `PlaceNoteAction` branch: the counter a placement with
this score type and auto flag increments, or `none` for an unknown combination. -/
def placeCounter : ScoreType → Bool → Option Counter
  | .kAMP, true => some .ampAuto
  | .kAMP, false => some .amp
  | .kSPEAKER, false => some .speaker
  | .kSPEAKER, true => some .speakerAuto
  | .kSPEAKER_AMPLIFIED, false => some .speakerAmplified
  | .kDROPPED, true => some .notesDroppedAuto
  | .kDROPPED, false => some .notesDropped
  | .kSHUTTLED, _ => some .shuttled
  | .kOUT_OF_FIELD, _ => some .outOfField
  | _, _ => none

/-- `count_in_cycle`: dropped, shuttled and out-of-field notes are not counted
in cycle time. -/
def Counter.countInCycle : Counter → Bool
  | .notesDroppedAuto | .notesDropped | .shuttled | .outOfField => false
  | _ => true

/-- The cycle-time bookkeeping of a counted placement at `timestamp`: the time
since the previous counted placement is added unless `lastPlacedTime` still
holds its initial 0. -/
def ConvertState.countCycle (s : ConvertState) (timestamp : Int) : ConvertState :=
  { s with
    overallTime :=
      if s.lastPlacedTime ≠ 0 then int64 (s.overallTime + int64 (timestamp - s.lastPlacedTime))
      else s.overallTime
    cycles := int64 (s.cycles + 1)
    lastPlacedTime := timestamp }

/-- A classified placement at `timestamp`: its counter goes up, the note is
released, and a counted placement enters the cycle time. -/
def ConvertState.place (s : ConvertState) (c : Counter) (timestamp : Int) : ConvertState :=
  let placed := { s with stat := s.stat.bump c, pickedUp := false }
  if c.countInCycle then placed.countCycle timestamp else placed

/-- One iteration of the loop on a sub-action that is present. -/
def ConvertState.takeAction (s : ConvertState) (timestamp : Int) :
    ActionType → Except String ConvertState
  | .startMatchAction position =>
      pure { s with stat := { s.stat with startingQuadrant := position } }
  | .mobilityAction mobility =>
      pure (if mobility then { s with stat := { s.stat with mobilityAuto := true } } else s)
  | .penaltyAction penalties =>
      pure { s with stat := { s.stat with penalties := int32 (s.stat.penalties + penalties) } }
  | .robotDeathAction => pure { s with stat := { s.stat with robotDied := true } }
  | .noShowAction => pure { s with stat := { s.stat with noShow := true } }
  | .pickupNoteAction => pure { s with pickedUp := true }
  | .placeNoteAction scoreType auto =>
      if !s.pickedUp then throw "Got PlaceNoteAction without corresponding PickupObjectAction"
      else match placeCounter scoreType auto with
        | none => throw "Got unknown ObjectType/ScoreLevel/Auto combination"
        | some c => pure (s.place c timestamp)
  | .endMatchAction stageType trapNote spotlight =>
      let stat := match stageType with
        | .kON_STAGE => { s.stat with onStage := true }
        | .kPARK => { s.stat with park := true }
        | .kHARMONY => { s.stat with harmony := true }
        | .other => s.stat
      pure { s with stat := { stat with trapNote := trapNote, spotlight := spotlight } }
  | .other => pure s

/-- One iteration of the loop: the sub-table must be present. -/
def convertAction (s : ConvertState) (action : Action2024) : Except String ConvertState :=
  match action.actionTaken with
  | none => throw "Failed to parse sub-action or sub-action was missing"
  | some actionType => s.takeAction action.timestamp actionType

/-- The row after the loop, with the average cycle time filled in. -/
def ConvertState.toStat (s : ConvertState) : Db.Stats2024 :=
  { s.stat with avgCycle := if s.cycles ≠ 0 then int64 (s.overallTime.tdiv s.cycles) else 0 }

/-- `ConvertActionsToStat2024`. -/
def convertActionsToStat2024 (msg : Submit2024Actions) : Except String Db.Stats2024 := do
  let s ← msg.actionsList.foldlM convertAction (ConvertState.initial msg)
  pure s.toStat

/-! ## One iteration -/

@[simp] theorem countCycle_stat (s : ConvertState) (t : Int) : (s.countCycle t).stat = s.stat :=
  rfl

@[simp] theorem countCycle_pickedUp (s : ConvertState) (t : Int) :
    (s.countCycle t).pickedUp = s.pickedUp :=
  rfl

@[simp] theorem place_stat (s : ConvertState) (c : Counter) (t : Int) :
    (s.place c t).stat = s.stat.bump c := by
  unfold ConvertState.place; split <;> rfl

@[simp] theorem place_pickedUp (s : ConvertState) (c : Counter) (t : Int) :
    (s.place c t).pickedUp = false := by
  unfold ConvertState.place; split <;> rfl

/-- A placement succeeds exactly when a note is held and the combination is
classified, and then it is the bookkeeping of `place`. -/
theorem takeAction_place_eq_ok {s s' : ConvertState} {t : Int} {st : ScoreType} {au : Bool} :
    s.takeAction t (.placeNoteAction st au) = .ok s' ↔
      s.pickedUp ∧ ∃ c, placeCounter st au = some c ∧ s' = s.place c t := by
  simp only [ConvertState.takeAction]
  cases s.pickedUp <;> cases placeCounter st au <;>
    simp [throw, throwThe, MonadExceptOf.throw, pure, Except.pure, eq_comm]

/-- The reducer succeeds exactly when its loop does, and returns the loop's row
with the average cycle time. -/
theorem convertActionsToStat2024_eq_ok {msg : Submit2024Actions} {stat : Db.Stats2024} :
    convertActionsToStat2024 msg = .ok stat ↔
      ∃ s, msg.actionsList.foldlM convertAction (ConvertState.initial msg) = .ok s ∧
        s.toStat = stat := by
  simp only [convertActionsToStat2024, except_bind_eq_ok, pure, Except.pure, Except.ok.injEq]

end Scouting
