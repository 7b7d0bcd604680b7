import Scouting.Requests.SubmitActions
import Scouting.Requests.AllMatches

/-! # The database behind the handlers

The handlers reach the database through the `Database` interface of
`requests.go`; its implementation is not in the source. It is modelled by the
collections the interface reads and writes, each a list in insertion order as
the test's `MockDatabase` keeps it. An `Add…` appends one row, a `Return…`
reads a collection whole, a `Query…` filters it, and a `DeleteFrom…` removes the
rows of one match and team. A write may fail, with the answer `Database` gives,
and then stores nothing. A read may fail with the error the request meets.

The answers to writes belong to one request (`Store.answering`): they are
counted from the request's first write, so that a write the database refuses
in one request says nothing of the writes of the next.

`Store` extends the `Database` of the submit handler, so that handler runs on
the store unchanged.
-/

namespace Scouting

/-- `db.NotesData`. -/
structure Db.NotesData where
  teamNumber : String
  notes : String
  goodDriving : Bool
  badDriving : Bool
  solidPlacing : Bool
  sketchyPlacing : Bool
  goodDefense : Bool
  badDefense : Bool
  easilyDefended : Bool
  noShow : Bool
  matchNumber : Int
  setNumber : Int
  compLevel : String
  deriving DecidableEq, Repr

/-- `db.PitImage`. -/
structure Db.PitImage where
  teamNumber : String
  checkSum : String
  imagePath : String
  imageData : List UInt8
  deriving DecidableEq, Repr

/-- `db.RequestedPitImage`: a pit image without its data. -/
structure Db.RequestedPitImage where
  teamNumber : String
  imagePath : String
  checkSum : String
  deriving DecidableEq, Repr

/-- `db.Shift`: the six scouts of one match. -/
structure Db.Shift where
  matchNumber : Int
  r1scouter : String
  r2scouter : String
  r3scouter : String
  b1scouter : String
  b2scouter : String
  b3scouter : String
  deriving DecidableEq, Repr

/-- `db.DriverRankingData`. -/
structure Db.DriverRankingData where
  matchNumber : Int
  rank1 : String
  rank2 : String
  rank3 : String
  deriving DecidableEq, Repr

/-- The match and team that `DeleteFromStats2024` and `DeleteFromActions` name. -/
structure ScoutedMatch where
  compLevel : String
  matchNumber : Int
  setNumber : Int
  teamNumber : String
  deriving DecidableEq, Repr

/-- The match and team of a stats row. -/
def Db.Stats2024.scoutedMatch (stats : Db.Stats2024) : ScoutedMatch :=
  ⟨stats.compLevel, stats.matchNumber, stats.setNumber, stats.teamNumber⟩

/-- The match and team of an action row. -/
def Db.Action.scoutedMatch (action : Db.Action) : ScoutedMatch :=
  ⟨action.compLevel, action.matchNumber, action.setNumber, action.teamNumber⟩

/-- A pit image as `ReturnPitImages`' callers and `QueryPitImages` give it out. -/
def Db.PitImage.requested (pitImage : Db.PitImage) : Db.RequestedPitImage :=
  ⟨pitImage.teamNumber, pitImage.imagePath, pitImage.checkSum⟩

/-- The database: the collections of `Database`, the others the handlers use,
and the answer to each write. -/
structure Store extends Database where
  teamMatches : List Db.TeamMatch
  notes : List Db.NotesData
  shiftSchedule : List Db.Shift
  driverRanking : List Db.DriverRankingData
  images : List Db.PitImage

namespace Store

/-- One write, answered as `Database.write` answers the `Database` part. -/
def write (s stored : Store) : Except String Store :=
  (s.toDatabase.write stored.toDatabase).map ({ stored with toDatabase := · })

/-- The store as one request's handler meets it: the database answers the
handler's writes, counted from its first, with `writeFault`. -/
def answering (s : Store) (writeFault : Nat → Option String) : Store :=
  { s with writes := 0, fault := writeFault }

/-- An empty database that answers every write. -/
def empty : Store := ⟨Database.empty, [], [], [], [], []⟩

/-- `AddNotes`. -/
def addNotes (s : Store) (data : Db.NotesData) : Except String Store :=
  s.write { s with notes := s.notes ++ [data] }

/-- `AddPitImage`. -/
def addPitImage (s : Store) (pitImage : Db.PitImage) : Except String Store :=
  s.write { s with images := s.images ++ [pitImage] }

/-- `AddToShift`. -/
def addToShift (s : Store) (shift : Db.Shift) : Except String Store :=
  s.write { s with shiftSchedule := s.shiftSchedule ++ [shift] }

/-- `AddDriverRanking`. -/
def addDriverRanking (s : Store) (data : Db.DriverRankingData) : Except String Store :=
  s.write { s with driverRanking := s.driverRanking ++ [data] }

/-- `DeleteFromStats2024`: every stats row of the match and team goes. -/
def deleteFromStats2024 (s : Store) (compLevel : String) (matchNumber setNumber : Int)
    (teamNumber : String) : Except String Store :=
  let scoutedMatch : ScoutedMatch := ⟨compLevel, matchNumber, setNumber, teamNumber⟩
  s.write { s with stats2024 := s.stats2024.filter (·.scoutedMatch != scoutedMatch) }

/-- `DeleteFromActions`: every action row of the match and team goes. -/
def deleteFromActions (s : Store) (compLevel : String) (matchNumber setNumber : Int)
    (teamNumber : String) : Except String Store :=
  let scoutedMatch : ScoutedMatch := ⟨compLevel, matchNumber, setNumber, teamNumber⟩
  s.write { s with actions := s.actions.filter (·.scoutedMatch != scoutedMatch) }

/-- A read that the database answers with `rows`, or fails with `readFault`. -/
def read {α : Type} (readFault : Option String) (rows : α) : Except String α :=
  match readFault with
  | some err => .error err
  | none => .ok rows

/-- `QueryNotes`: the notes of one team. -/
def queryNotes (s : Store) (requestedTeam : String) : List String :=
  (s.notes.filter (·.teamNumber == requestedTeam)).map (·.notes)

/-- `QueryPitImages`: the pit images of one team, without their data. -/
def queryPitImages (s : Store) (requestedTeam : String) : List Db.RequestedPitImage :=
  (s.images.filter (·.teamNumber == requestedTeam)).map Db.PitImage.requested

/-- `ReturnStats2024ForTeam`. -/
def returnStats2024ForTeam (s : Store) (teamNumber : String) (matchNumber setNumber : Int)
    (compLevel compType : String) : List Db.Stats2024 :=
  s.stats2024.filter fun stats => stats.teamNumber == teamNumber &&
    stats.matchNumber == matchNumber && stats.setNumber == setNumber &&
    stats.compLevel == compLevel && stats.compType == compType

/-- `ReturnMatches` and `ReturnStats2024ForTeam`, the reads of
`requestAllMatchesHandler`, answered by the store. -/
def matchesDatabase (s : Store) (readFault : Option String) : MatchesDatabase where
  returnMatches := read readFault s.teamMatches
  returnStats2024ForTeam teamNumber matchNumber setNumber compLevel compType :=
    read readFault (s.returnStats2024ForTeam teamNumber matchNumber setNumber compLevel compType)

variable {s stored s' : Store}

theorem write_eq_ok :
    s.write stored = .ok s' ↔ s.fault s.writes = none ∧ s' = { stored with writes := s.writes + 1 } := by
  unfold write
  cases hw : s.toDatabase.write stored.toDatabase with
  | error err =>
      refine iff_of_false nofun fun ⟨hf, _⟩ => ?_
      cases hw.symm.trans (Database.write_eq_ok.mpr ⟨hf, rfl⟩)
  | ok db =>
      obtain ⟨hf, rfl⟩ := Database.write_eq_ok.mp hw
      simp [Except.map, hf, eq_comm]

theorem write_eq_error {err : String} : s.write stored = .error err ↔ s.fault s.writes = some err := by
  unfold write Database.write
  cases s.fault s.writes <;> simp [Except.map]

theorem addNotes_eq_ok {data : Db.NotesData} :
    s.addNotes data = .ok s' ↔ s.fault s.writes = none ∧
      s' = { s with notes := s.notes ++ [data], writes := s.writes + 1 } :=
  write_eq_ok

theorem addPitImage_eq_ok {pitImage : Db.PitImage} :
    s.addPitImage pitImage = .ok s' ↔ s.fault s.writes = none ∧
      s' = { s with images := s.images ++ [pitImage], writes := s.writes + 1 } :=
  write_eq_ok

theorem addDriverRanking_eq_ok {data : Db.DriverRankingData} :
    s.addDriverRanking data = .ok s' ↔ s.fault s.writes = none ∧
      s' = { s with driverRanking := s.driverRanking ++ [data], writes := s.writes + 1 } :=
  write_eq_ok

end Store

end Scouting
