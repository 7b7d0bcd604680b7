import Scouting.Requests.Store

/-! # The other handlers

Besides the handlers of the earlier modules, `HandleRequests` serves three that
store one row made from the request (notes, pit images, driver rankings), one
that stores a row for each entry of a list (the shift schedule), one that
deletes (what was scouted of one match and team), and seven that answer with
rows of the database. Each of the two families of like handlers is one
definition, and each handler is that definition at the request name, error text
and rows the source gives it.

The shift schedule is stored as the actions are: one write per entry, and an
early return at the first failing write that keeps the entries stored before
it. The delete makes two writes, and an error at the second leaves the stats
deleted and the actions in place.
-/

namespace Scouting

/-! ## Messages -/

/-- A `SubmitNotes` message. -/
structure SubmitNotes where
  team : String
  notes : String
  goodDriving : Bool
  badDriving : Bool
  solidPlacing : Bool
  sketchyPlacing : Bool
  goodDefense : Bool
  badDefense : Bool
  easilyDefended : Bool
  noShow : Bool
  matchNumber : Int
  setNumber : Int
  compLevel : String
  deriving DecidableEq, Repr

/-- The `db.NotesData` row `submitNoteScoutingHandler` stores for a message. -/
def SubmitNotes.notesData (request : SubmitNotes) : Db.NotesData :=
  ⟨request.team, request.notes, request.goodDriving, request.badDriving, request.solidPlacing,
    request.sketchyPlacing, request.goodDefense, request.badDefense, request.easilyDefended,
    request.noShow, request.matchNumber, request.setNumber, request.compLevel⟩

/-- A `SubmitPitImage` message. -/
structure SubmitPitImage where
  teamNumber : String
  imagePath : String
  imageData : List UInt8
  deriving DecidableEq, Repr

/-- The `db.PitImage` row `submitPitImageScoutingHandler` stores for a message,
its checksum computed by `db.ComputeSha256FromByteArray`. -/
def SubmitPitImage.pitImage (computeSha256FromByteArray : List UInt8 → String)
    (request : SubmitPitImage) : Db.PitImage :=
  ⟨request.teamNumber, computeSha256FromByteArray request.imageData, request.imagePath,
    request.imageData⟩

/-- A `SubmitDriverRanking` message. -/
structure SubmitDriverRanking where
  matchNumber : Int
  rank1 : String
  rank2 : String
  rank3 : String
  deriving DecidableEq, Repr

/-- The `db.DriverRankingData` row `SubmitDriverRankingHandler` stores. -/
def SubmitDriverRanking.rankingData (request : SubmitDriverRanking) : Db.DriverRankingData :=
  ⟨request.matchNumber, request.rank1, request.rank2, request.rank3⟩

/-- A `MatchAssignment` of a `SubmitShiftSchedule` message. -/
structure MatchAssignment where
  matchNumber : Int
  r1Scouter : String
  r2Scouter : String
  r3Scouter : String
  b1Scouter : String
  b2Scouter : String
  b3Scouter : String
  deriving DecidableEq, Repr

/-- The `db.Shift` row `submitShiftScheduleHandler` stores for an assignment. -/
def MatchAssignment.shift (assignment : MatchAssignment) : Db.Shift :=
  ⟨assignment.matchNumber, assignment.r1Scouter, assignment.r2Scouter, assignment.r3Scouter,
    assignment.b1Scouter, assignment.b2Scouter, assignment.b3Scouter⟩

/-- A `SubmitShiftSchedule` message. -/
structure SubmitShiftSchedule where
  shiftSchedule : List MatchAssignment
  deriving DecidableEq, Repr

/-- A `Delete2024DataScouting` message. -/
structure Delete2024DataScouting where
  compLevel : String
  matchNumber : Int
  setNumber : Int
  teamNumber : String
  deriving DecidableEq, Repr

/-- A `RequestNotesForTeam` message. -/
structure RequestNotesForTeam where
  team : String
  deriving DecidableEq, Repr

/-- A `RequestPitImages` message. -/
structure RequestPitImages where
  teamNumber : String
  deriving DecidableEq, Repr

/-! ## Storing one row -/

/-- The handlers that store one row made from the request: read and parse the
body, make one write, and answer with an empty response, or with the write's
error and status 500. -/
def submitRow {β α : Type} (requestName failure : String) (add : Store → α → Except String Store)
    (row : β → α) (body : RequestBody β) (s : Store) : Response Unit × Store :=
  match body.parse requestName with
  | .error response => (response, s)
  | .ok request =>
      match add s (row request) with
      | .error err => (.error statusInternalServerError (failure ++ err), s)
      | .ok s' => (.ok (), s')

/-- `submitNoteScoutingHandler.ServeHTTP`. -/
def submitNoteScouting : RequestBody SubmitNotes → Store → Response Unit × Store :=
  submitRow "SubmitNotes" "Failed to insert notes: " Store.addNotes SubmitNotes.notesData

/-- `submitPitImageScoutingHandler.ServeHTTP`. Its error text is the one of the
notes handler. -/
def submitPitImageScouting (computeSha256FromByteArray : List UInt8 → String) :
    RequestBody SubmitPitImage → Store → Response Unit × Store :=
  submitRow "SubmitPitImage" "Failed to insert notes: " Store.addPitImage
    (SubmitPitImage.pitImage computeSha256FromByteArray)

/-- `SubmitDriverRankingHandler.ServeHTTP`. -/
def submitDriverRanking : RequestBody SubmitDriverRanking → Store → Response Unit × Store :=
  submitRow "SubmitDriverRanking" "Failed to insert driver ranking: " Store.addDriverRanking
    SubmitDriverRanking.rankingData

/-- The row a single-row request has stored: its row, when it was answered with
success. -/
def loggedRow {β α : Type} (row : β → α) : RequestBody β → Response Unit → List α
  | .parsed request, .ok () => [row request]
  | _, _ => []

section SubmitRow

variable {β α : Type} (requestName failure : String) {add : Store → α → Except String Store}
  {row : β → α} {body : RequestBody β} {s : Store}

/-- Whatever holds of the store with no row, and of the store a successful write
leaves with the row written, holds of the store a single-row handler leaves
with the rows it has logged. -/
theorem submitRow_logged (P : Store → List α → Prop) (hnone : P s [])
    (hadd : ∀ x s', add s x = .ok s' → P s' [x]) :
    P (submitRow requestName failure add row body s).2
      (loggedRow row body (submitRow requestName failure add row body s).1) := by
  cases body with
  | parsed request =>
      simp only [submitRow, RequestBody.parse]
      cases hx : add s (row request) with
      | error err => exact hnone
      | ok s' => exact hadd _ _ hx
  | _ => exact hnone

end SubmitRow

/-! ## Answering with rows -/

/-- The handlers that answer with rows of the database: read and parse the body,
make one read, and answer with the rows, or with the read's error and status
500. Every field of a row is copied into the response. -/
def requestRows {β α : Type} (requestName failure : String) (rows : β → Store → List α)
    (readFault : Option String) (body : RequestBody β) (s : Store) : Response (List α) :=
  match body.parse requestName with
  | .error response => response
  | .ok request =>
      match Store.read readFault (rows request s) with
      | .error err => .error statusInternalServerError (failure ++ err)
      | .ok rows => .ok rows

/-- `request2024DataScoutingHandler.ServeHTTP`. -/
def request2024DataScouting :
    Option String → RequestBody Unit → Store → Response (List Db.Stats2024) :=
  requestRows "Request2024DataScouting" "Failed to query database: " fun _ s => s.stats2024

/-- `requestAllPitImagesHandler.ServeHTTP`: the images without their data. -/
def requestAllPitImages :
    Option String → RequestBody Unit → Store → Response (List Db.RequestedPitImage) :=
  requestRows "RequestAllPitImages" "Failed to get pit images: " fun _ s =>
    s.images.map Db.PitImage.requested

/-- `requestPitImagesHandler.ServeHTTP`. -/
def requestPitImages :
    Option String → RequestBody RequestPitImages → Store → Response (List Db.RequestedPitImage) :=
  requestRows "RequestPitImages" "Failed to query pit images: " fun request s =>
    s.queryPitImages request.teamNumber

/-- `requestNotesForTeamHandler.ServeHTTP`. -/
def requestNotesForTeam :
    Option String → RequestBody RequestNotesForTeam → Store → Response (List String) :=
  requestRows "RequestNotesForTeam" "Failed to query notes: " fun request s =>
    s.queryNotes request.team

/-- `requestShiftScheduleHandler.ServeHTTP`. -/
def requestShiftSchedule :
    Option String → RequestBody Unit → Store → Response (List Db.Shift) :=
  requestRows "RequestShiftSchedule" "Failed to query shift schedule: " fun _ s => s.shiftSchedule

/-- `requestAllNotesHandler.ServeHTTP`. -/
def requestAllNotes :
    Option String → RequestBody Unit → Store → Response (List Db.NotesData) :=
  requestRows "RequestAllNotes" "Failed to query database: " fun _ s => s.notes

/-- `requestAllDriverRankingsHandler.ServeHTTP`. -/
def requestAllDriverRankings :
    Option String → RequestBody Unit → Store → Response (List Db.DriverRankingData) :=
  requestRows "RequestAllDriverRankings" "Failed to query database: " fun _ s => s.driverRanking

/-! ## The shift schedule -/

/-- One iteration of `submitShiftScheduleHandler`'s loop: `AddToShift`, with an
early return that keeps what earlier iterations stored. -/
def submitShift (s : Store) (assignment : MatchAssignment) : Except (Response Unit × Store) Store :=
  match s.addToShift assignment.shift with
  | .error err =>
      .error (.error statusInternalServerError ("Failed to submit shift schedule: " ++ err), s)
  | .ok s' => .ok s'

/-- `submitShiftScheduleHandler.ServeHTTP`. The user name it parses is only
logged. -/
def submitShiftSchedule (body : RequestBody SubmitShiftSchedule) (s : Store) :
    Response Unit × Store :=
  match body.parse "SubmitShiftSchedule" with
  | .error response => (response, s)
  | .ok request =>
      match request.shiftSchedule.foldlM submitShift s with
      | .error (response, s') => (response, s')
      | .ok s' => (.ok (), s')

variable {s s' : Store} {r : Response Unit}

theorem submitShift_eq_ok {a : MatchAssignment} :
    submitShift s a = .ok s' ↔ s.fault s.writes = none ∧
      s' = { s with shiftSchedule := s.shiftSchedule ++ [a.shift], writes := s.writes + 1 } := by
  unfold submitShift Store.addToShift
  cases hw : s.write { s with shiftSchedule := s.shiftSchedule ++ [a.shift] } with
  | error err => simp [(Store.write_eq_error.mp hw)]
  | ok m => simp only [Store.write_eq_ok.mp hw, Except.ok.injEq, eq_comm, true_and]

theorem submitShift_eq_error {a : MatchAssignment} :
    submitShift s a = .error (r, s') ↔ ∃ err, s.fault s.writes = some err ∧
      r = .error statusInternalServerError ("Failed to submit shift schedule: " ++ err) ∧ s' = s := by
  unfold submitShift Store.addToShift
  cases hw : s.write { s with shiftSchedule := s.shiftSchedule ++ [a.shift] } with
  | error err => simp [Store.write_eq_error.mp hw, eq_comm, and_comm]
  | ok m => simp [(Store.write_eq_ok.mp hw).1]

/-- A loop that gets through has had every write answered and has stored every
assignment, in order. -/
theorem foldlM_submitShift_eq_ok {l : List MatchAssignment} (h : l.foldlM submitShift s = .ok s') :
    (∀ i < l.length, s.fault (s.writes + i) = none) ∧
      s' = { s with
        shiftSchedule := s.shiftSchedule ++ l.map MatchAssignment.shift
        writes := s.writes + l.length } := by
  induction l generalizing s with
  | nil => cases h; simp
  | cons a l ih =>
      obtain ⟨m, hm, hrest⟩ := foldlM_cons_eq_ok.mp h
      obtain ⟨hf, rfl⟩ := submitShift_eq_ok.mp hm
      obtain ⟨hall, rfl⟩ := ih hrest
      refine ⟨fun i hi => ?_, by simp [Nat.add_assoc, Nat.add_comm 1]⟩
      rcases i with _ | i
      · exact hf
      · simpa [Nat.add_assoc, Nat.add_comm 1] using hall i (by simpa using hi)

/-- A loop that fails has met a failing write at some entry `k`, with every
write before it answered, and has stored the assignments before `k`. -/
theorem foldlM_submitShift_eq_error {l : List MatchAssignment}
    (h : l.foldlM submitShift s = .error (r, s')) :
    ∃ k < l.length, ∃ err, (∀ i < k, s.fault (s.writes + i) = none) ∧
      s.fault (s.writes + k) = some err ∧
      r = .error statusInternalServerError ("Failed to submit shift schedule: " ++ err) ∧
      s' = { s with
        shiftSchedule := s.shiftSchedule ++ (l.take k).map MatchAssignment.shift
        writes := s.writes + k } := by
  induction l generalizing s with
  | nil => cases h
  | cons a l ih =>
      cases hstep : submitShift s a with
      | error e =>
          simp only [List.foldlM_cons, hstep] at h
          cases h
          obtain ⟨err, hf, rfl, rfl⟩ := submitShift_eq_error.mp hstep
          exact ⟨0, by simp, err, nofun, hf, rfl, by simp⟩
      | ok m =>
          simp only [List.foldlM_cons, hstep] at h
          obtain ⟨hf, rfl⟩ := submitShift_eq_ok.mp hstep
          obtain ⟨k, hk, err, hbefore, hfk, rfl, rfl⟩ := ih h
          refine ⟨k + 1, by simpa using hk, err, fun i hi => ?_, ?_, rfl, ?_⟩
          · rcases i with _ | i
            · exact hf
            · simpa [Nat.add_assoc, Nat.add_comm 1] using hbefore i (by omega)
          · simpa [Nat.add_assoc, Nat.add_comm 1] using hfk
          · simp [Nat.add_assoc, Nat.add_comm 1]

/-- A schedule is stored whole and in order when the database answers every
write. Otherwise the handler answers with the error of the first write that
fails, and the assignments before that write stay stored. -/
theorem submitShiftSchedule_store (request : SubmitShiftSchedule) (s : Store) :
    (submitShiftSchedule (.parsed request) s = (.ok (), { s with
        shiftSchedule := s.shiftSchedule ++ request.shiftSchedule.map MatchAssignment.shift
        writes := s.writes + request.shiftSchedule.length }) ∧
      ∀ i < request.shiftSchedule.length, s.fault (s.writes + i) = none) ∨
    ∃ k < request.shiftSchedule.length, ∃ err, (∀ i < k, s.fault (s.writes + i) = none) ∧
      s.fault (s.writes + k) = some err ∧
      submitShiftSchedule (.parsed request) s =
        (.error statusInternalServerError ("Failed to submit shift schedule: " ++ err), { s with
          shiftSchedule := s.shiftSchedule ++ (request.shiftSchedule.take k).map MatchAssignment.shift
          writes := s.writes + k }) := by
  simp only [submitShiftSchedule, RequestBody.parse]
  cases hrun : request.shiftSchedule.foldlM submitShift s with
  | ok s' =>
      obtain ⟨hall, rfl⟩ := foldlM_submitShift_eq_ok hrun
      exact .inl ⟨rfl, hall⟩
  | error e =>
      obtain ⟨r, s'⟩ := e
      obtain ⟨k, hk, err, hbefore, hfk, rfl, rfl⟩ := foldlM_submitShift_eq_error hrun
      exact .inr ⟨k, hk, err, hbefore, hfk, rfl⟩

/-- The store a shift schedule request leaves: the one before, with some
assignments added and as many writes counted. -/
theorem submitShiftSchedule_shape (body : RequestBody SubmitShiftSchedule) (s : Store) :
    ∃ shifts k, (submitShiftSchedule body s).2 = { s with
      shiftSchedule := s.shiftSchedule ++ shifts
      writes := s.writes + k } := by
  cases body with
  | parsed request =>
      simp only [submitShiftSchedule, RequestBody.parse]
      cases hrun : request.shiftSchedule.foldlM submitShift s with
      | ok s' => exact ⟨_, _, (foldlM_submitShift_eq_ok hrun).2⟩
      | error e =>
          obtain ⟨r, s'⟩ := e
          obtain ⟨k, -, -, -, -, -, rfl⟩ := foldlM_submitShift_eq_error hrun
          exact ⟨_, _, rfl⟩
  | _ => exact ⟨[], 0, by rw [List.append_nil]; rfl⟩

/-! ## Deleting what was scouted of one match -/

/-- The match and team a delete request names. -/
def Delete2024DataScouting.scoutedMatch (request : Delete2024DataScouting) : ScoutedMatch :=
  ⟨request.compLevel, request.matchNumber, request.setNumber, request.teamNumber⟩

/-- `Delete2024DataScoutingHandler.ServeHTTP`: the stats rows first, then the
action rows. -/
def delete2024DataScouting (body : RequestBody Delete2024DataScouting) (s : Store) :
    Response Unit × Store :=
  match body.parse "Delete2024DataScouting" with
  | .error response => (response, s)
  | .ok request =>
      match s.deleteFromStats2024 request.compLevel request.matchNumber request.setNumber
          request.teamNumber with
      | .error err =>
          (.error statusInternalServerError ("Failed to delete from stats2024: " ++ err), s)
      | .ok s' =>
          match s'.deleteFromActions request.compLevel request.matchNumber request.setNumber
              request.teamNumber with
          | .error err =>
              (.error statusInternalServerError ("Failed to delete from actions: " ++ err), s')
          | .ok s'' => (.ok (), s'')

/-- A delete leaves the store as it was, or has removed the stats rows of the
match, and the action rows too when its second write is answered. -/
theorem delete2024DataScouting_shape (body : RequestBody Delete2024DataScouting) (s : Store) :
    (delete2024DataScouting body s).2 = s ∨ ∃ request, body = .parsed request ∧
      ((delete2024DataScouting body s).2 = { s with
          stats2024 := s.stats2024.filter (·.scoutedMatch != request.scoutedMatch)
          writes := s.writes + 1 } ∨
        (delete2024DataScouting body s).2 = { s with
          stats2024 := s.stats2024.filter (·.scoutedMatch != request.scoutedMatch)
          actions := s.actions.filter (·.scoutedMatch != request.scoutedMatch)
          writes := s.writes + 2 }) := by
  cases body with
  | parsed request =>
      simp only [delete2024DataScouting, RequestBody.parse]
      cases h1 : s.deleteFromStats2024 request.compLevel request.matchNumber request.setNumber
          request.teamNumber with
      | error err => exact .inl rfl
      | ok s' =>
          dsimp only
          cases h2 : s'.deleteFromActions request.compLevel request.matchNumber
              request.setNumber request.teamNumber with
          | error err =>
              obtain ⟨-, rfl⟩ := Store.write_eq_ok.mp h1
              exact .inr ⟨request, rfl, .inl rfl⟩
          | ok s'' =>
              obtain ⟨-, rfl⟩ := Store.write_eq_ok.mp h2
              obtain ⟨-, rfl⟩ := Store.write_eq_ok.mp h1
              exact .inr ⟨request, rfl, .inr rfl⟩
  | _ => exact .inl rfl

end Scouting
