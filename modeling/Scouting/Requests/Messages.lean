import Scouting.Go

/-! # Messages and rows of the 2024 data-scouting requests

A `Submit2024Actions` message carries the identity of one team in one match and
the ordered list of actions a scout recorded for it. The handlers turn it into
`db.Action` rows, one per action, and one `db.Stats2024` row. The generated
flatbuffers code and the `db` package are not part of the handlers' sources, so
their types are written here from the fields the handlers read and write.
-/

namespace Scouting

/-- `submit_2024_actions.ScoreType`: the values the reducer names, and `other`
for any other value of the generated enum. -/
inductive ScoreType where
  | kAMP
  | kSPEAKER
  | kSPEAKER_AMPLIFIED
  | kDROPPED
  | kSHUTTLED
  | kOUT_OF_FIELD
  | other
  deriving Repr, DecidableEq

/-- `submit_2024_actions.StageType`: the values the reducer names, and `other`
for any other value, such as the stage result "none". -/
inductive StageType where
  | kON_STAGE
  | kPARK
  | kHARMONY
  | other
  deriving Repr, DecidableEq

/-- The `ActionTaken` union of an action: its type tag together with the fields
of the sub-table that the reducer reads. `other` is a sub-table under the tag
`NONE` or under a tag the reducer does not name. -/
inductive ActionType where
  | startMatchAction (position : Int)
  | mobilityAction (mobility : Bool)
  | penaltyAction (penalties : Int)
  | robotDeathAction
  | noShowAction
  | pickupNoteAction
  | placeNoteAction (scoreType : ScoreType) (auto : Bool)
  | endMatchAction (stageType : StageType) (trapNote spotlight : Bool)
  | other
  deriving Repr, DecidableEq

/-- `submit_2024_actions.Action`, aliased `Action2024` by the handlers. The
sub-action is `none` when the union's table is absent; the timestamp is an
`int64`. -/
structure Action2024 where
  actionTaken : Option ActionType
  timestamp : Int
  timestamp_range : -2 ^ 63 ≤ timestamp ∧ timestamp < 2 ^ 63

/-- A `Submit2024Actions` message. A flatbuffer holds at most 2 GiB and every
entry of a vector of tables is a 4-byte offset, so a message has fewer than
`2^29` actions. -/
structure Submit2024Actions where
  teamNumber : String
  matchNumber : Int
  setNumber : Int
  compLevel : String
  actionsList : List Action2024
  compType : String
  actionsList_length_lt : actionsList.length < 2 ^ 29

namespace Db

/-- `db.Stats2024`, with the fields in the order of the composite literal that
`ConvertActionsToStat2024` builds. Counters and penalties are `int32`, the
average cycle time is `int64`. -/
structure Stats2024 where
  compType : String
  teamNumber : String
  matchNumber : Int
  setNumber : Int
  compLevel : String
  startingQuadrant : Int
  speakerAuto : Int
  ampAuto : Int
  notesDroppedAuto : Int
  mobilityAuto : Bool
  speaker : Int
  amp : Int
  speakerAmplified : Int
  notesDropped : Int
  shuttled : Int
  outOfField : Int
  penalties : Int
  trapNote : Bool
  spotlight : Bool
  avgCycle : Int
  park : Bool
  onStage : Bool
  harmony : Bool
  robotDied : Bool
  noShow : Bool
  collectedBy : String
  deriving DecidableEq

/-- `db.Action`, the row stored for every submitted action. -/
structure Action where
  compType : String
  teamNumber : String
  matchNumber : Int
  setNumber : Int
  compLevel : String
  completedAction : List UInt8
  timestamp : Int
  collectedBy : String
  deriving Repr, DecidableEq

end Db

/-- The nine placement counters of a `Stats2024` row, one for each outcome the
reducer distinguishes. -/
inductive Counter where
  | ampAuto
  | amp
  | speakerAuto
  | speaker
  | speakerAmplified
  | notesDroppedAuto
  | notesDropped
  | shuttled
  | outOfField
  deriving Repr, DecidableEq

namespace Db.Stats2024

/-- The value of one placement counter. -/
def counter (stat : Stats2024) : Counter → Int
  | .ampAuto => stat.ampAuto
  | .amp => stat.amp
  | .speakerAuto => stat.speakerAuto
  | .speaker => stat.speaker
  | .speakerAmplified => stat.speakerAmplified
  | .notesDroppedAuto => stat.notesDroppedAuto
  | .notesDropped => stat.notesDropped
  | .shuttled => stat.shuttled
  | .outOfField => stat.outOfField

/-- `stat.X += 1` on the `int32` field of one counter. -/
def bump (stat : Stats2024) : Counter → Stats2024
  | .ampAuto => { stat with ampAuto := int32 (stat.ampAuto + 1) }
  | .amp => { stat with amp := int32 (stat.amp + 1) }
  | .speakerAuto => { stat with speakerAuto := int32 (stat.speakerAuto + 1) }
  | .speaker => { stat with speaker := int32 (stat.speaker + 1) }
  | .speakerAmplified => { stat with speakerAmplified := int32 (stat.speakerAmplified + 1) }
  | .notesDroppedAuto => { stat with notesDroppedAuto := int32 (stat.notesDroppedAuto + 1) }
  | .notesDropped => { stat with notesDropped := int32 (stat.notesDropped + 1) }
  | .shuttled => { stat with shuttled := int32 (stat.shuttled + 1) }
  | .outOfField => { stat with outOfField := int32 (stat.outOfField + 1) }

/-- The stage flag that an end-of-match stage result sets, `false` for a result
that sets none. -/
def stageFlag (stat : Stats2024) : StageType → Bool
  | .kON_STAGE => stat.onStage
  | .kPARK => stat.park
  | .kHARMONY => stat.harmony
  | .other => false

/-- The fields a row takes from its message and its caller, which the reducer's
loop never writes. -/
def identity (stat : Stats2024) : String × String × Int × Int × String × String :=
  (stat.compType, stat.teamNumber, stat.matchNumber, stat.setNumber, stat.compLevel,
    stat.collectedBy)

@[simp] theorem counter_bump (stat : Stats2024) (c c' : Counter) :
    (stat.bump c).counter c' = if c = c' then int32 (stat.counter c + 1) else stat.counter c' := by
  cases c <;> cases c' <;> rfl

/-! Bumping a counter leaves every field outside the nine counters alone. -/

section BumpFrame

variable (stat : Stats2024) (c : Counter)

@[simp] theorem bump_penalties : (stat.bump c).penalties = stat.penalties := by cases c <;> rfl

@[simp] theorem bump_startingQuadrant : (stat.bump c).startingQuadrant = stat.startingQuadrant := by
  cases c <;> rfl

@[simp] theorem bump_mobilityAuto : (stat.bump c).mobilityAuto = stat.mobilityAuto := by
  cases c <;> rfl

@[simp] theorem bump_robotDied : (stat.bump c).robotDied = stat.robotDied := by cases c <;> rfl

@[simp] theorem bump_noShow : (stat.bump c).noShow = stat.noShow := by cases c <;> rfl

@[simp] theorem bump_stageFlag (g : StageType) : (stat.bump c).stageFlag g = stat.stageFlag g := by
  cases c <;> cases g <;> rfl

@[simp] theorem bump_trapNote : (stat.bump c).trapNote = stat.trapNote := by cases c <;> rfl

@[simp] theorem bump_spotlight : (stat.bump c).spotlight = stat.spotlight := by cases c <;> rfl

@[simp] theorem bump_identity : (stat.bump c).identity = stat.identity := by cases c <;> rfl

end BumpFrame

end Db.Stats2024

end Scouting
