import Scouting.Requests.ConvertFields

/-! # Submitting the actions of one match

`submit2024ActionsHandler` stores one `db.Action` row per action, in list order,
as its loop reaches the action, and only then runs the reducer and stores the
`Stats2024` row. Every check and every write may end the request early, and
nothing undoes the rows stored before: an error leaves the stats untouched but
may leave any strict prefix of the action rows behind.

The database is the collaborator behind the `Database` interface. It is
modelled by its two collections and by its answer to each write, so that a
write can fail at any point of a request.
-/

namespace Scouting

/-- The database as far as this handler uses it: the `actions` and `stats2024`
collections, the number of writes it has answered, and its answer to each
write: the `n`-th write fails with `fault n` when that is an error, and then
stores nothing. -/
structure Database where
  actions : List Db.Action
  stats2024 : List Db.Stats2024
  writes : Nat
  fault : Nat → Option String

namespace Database

/-- One write, which leaves `stored` unless the database answers it with an error. -/
def write (db stored : Database) : Except String Database :=
  match db.fault db.writes with
  | some err => .error err
  | none => .ok { stored with writes := db.writes + 1 }

/-- `AddAction`. -/
def addAction (db : Database) (action : Db.Action) : Except String Database :=
  db.write { db with actions := db.actions ++ [action] }

/-- `AddToStats2024`. -/
def addToStats2024 (db : Database) (stats : Db.Stats2024) : Except String Database :=
  db.write { db with stats2024 := db.stats2024 ++ [stats] }

/-- An empty database that answers every write. -/
def empty : Database := ⟨[], [], 0, fun _ => none⟩

theorem write_eq_ok {db stored db' : Database} :
    db.write stored = .ok db' ↔ db.fault db.writes = none ∧ db' = { stored with writes := db.writes + 1 } := by
  unfold write
  cases db.fault db.writes <;> simp [eq_comm]

end Database

/-- `fmt.Sprint` of a `db.Stats2024` value: the fields in order, each printed
with `%v`, separated by blanks and enclosed in braces. -/
def Db.Stats2024.sprint (s : Db.Stats2024) : String :=
  "\x7b" ++ " ".intercalate [s.compType, s.teamNumber, toString s.matchNumber,
    toString s.setNumber, s.compLevel, toString s.startingQuadrant, toString s.speakerAuto,
    toString s.ampAuto, toString s.notesDroppedAuto, toString s.mobilityAuto, toString s.speaker,
    toString s.amp, toString s.speakerAmplified, toString s.notesDropped, toString s.shuttled,
    toString s.outOfField, toString s.penalties, toString s.trapNote, toString s.spotlight,
    toString s.avgCycle, toString s.park, toString s.onStage, toString s.harmony,
    toString s.robotDied, toString s.noShow, s.collectedBy] ++ "\x7d"

/-- The `db.Action` row the loop builds for one action of a request. -/
def Submit2024Actions.dbAction (request : Submit2024Actions) (username : String)
    (action : Action2024) : Db.Action where
  compType := request.compType
  teamNumber := request.teamNumber
  matchNumber := request.matchNumber
  setNumber := request.setNumber
  compLevel := request.compLevel
  completedAction := []
  timestamp := action.timestamp
  collectedBy := username

/-- One iteration of the handler's loop: the timestamp check, then `AddAction`.
An early return keeps what earlier iterations stored, so an error carries the
database as the handler leaves it. -/
def submitAction (request : Submit2024Actions) (username : String) (db : Database)
    (action : Action2024) : Except (Response Unit × Database) Database :=
  let dbAction := request.dbAction username action
  if action.timestamp < 0 then
    .error (.error statusBadRequest ("Invalid timestamp field value of " ++ toString action.timestamp), db)
  else
    match db.addAction dbAction with
    | .error err => .error (.error statusInternalServerError ("Failed to add action to database: " ++ err), db)
    | .ok db' => .ok db'

/-- `submit2024ActionsHandler.ServeHTTP` for a request of `username`: the
response and the database it leaves. -/
def submit2024Actions (username : String) (body : RequestBody Submit2024Actions) (db : Database) :
    Response Unit × Database :=
  match body.parse "Submit2024Actions" with
  | .error response => (response, db)
  | .ok request =>
      match request.actionsList.foldlM (submitAction request username) db with
      | .error (response, db') => (response, db')
      | .ok db' =>
          match convertActionsToStat2024 request with
          | .error err =>
              (.error statusInternalServerError ("Failed to convert actions to stats: " ++ err), db')
          | .ok stats =>
              let stats := { stats with collectedBy := username }
              match db'.addToStats2024 stats with
              | .error err =>
                  (.error statusInternalServerError
                    ("Failed to submit stats2024: " ++ stats.sprint ++ ": " ++ err), db')
              | .ok db'' => (.ok (), db'')

variable {request : Submit2024Actions} {username : String} {db db' : Database} {r : Response Unit}

/-! ## One iteration -/

/-- An iteration gets through exactly when the timestamp is not negative and
the database answers the write, and then it has stored the action's row. -/
theorem submitAction_eq_ok {a : Action2024} :
    submitAction request username db a = .ok db' ↔
      0 ≤ a.timestamp ∧ db.fault db.writes = none ∧
        db' = { db with
          actions := db.actions ++ [request.dbAction username a], writes := db.writes + 1 } := by
  unfold submitAction Database.addAction
  dsimp only
  split_ifs with ht
  · simp only [reduceCtorEq, false_iff]; omega
  · split <;> rename_i hw
    · simp only [reduceCtorEq, false_iff]
      rintro ⟨-, hf, rfl⟩
      simp [Database.write, hf] at hw
    · obtain ⟨hf, rfl⟩ := Database.write_eq_ok.mp hw
      simp [hf, Int.not_lt.mp ht, eq_comm]

/-- An iteration that fails answers with an error and has stored nothing. -/
theorem submitAction_eq_error {a : Action2024}
    (h : submitAction request username db a = .error (r, db')) : r.isError ∧ db' = db := by
  unfold submitAction at h
  dsimp only at h
  split_ifs at h
  · cases h; exact ⟨rfl, rfl⟩
  · split at h <;> cases h; exact ⟨rfl, rfl⟩

/-! ## The loop -/

/-- A loop that gets through has stored every action's row, in list order, and
no stats. -/
theorem foldlM_submitAction_eq_ok {l : List Action2024}
    (h : l.foldlM (submitAction request username) db = .ok db') :
    db'.actions = db.actions ++ l.map (request.dbAction username) ∧
      db'.stats2024 = db.stats2024 ∧ db'.writes = db.writes + l.length ∧ db'.fault = db.fault := by
  induction l generalizing db with
  | nil => cases h; simp
  | cons a l ih =>
      obtain ⟨m, hm, hrest⟩ := foldlM_cons_eq_ok.mp h
      obtain ⟨-, -, rfl⟩ := submitAction_eq_ok.mp hm
      obtain ⟨ha, hs, hw, hf⟩ := ih hrest
      exact ⟨by simp [ha], hs, by simp only [hw, List.length_cons]; omega, hf⟩

/-- A loop that fails answers with an error, has stored no stats, and has
stored the rows of the actions before the one it failed at. -/
theorem foldlM_submitAction_eq_error {l : List Action2024}
    (h : l.foldlM (submitAction request username) db = .error (r, db')) :
    r.isError ∧ db'.stats2024 = db.stats2024 ∧
      ∃ k < l.length, db'.actions = db.actions ++ (l.take k).map (request.dbAction username) := by
  induction l generalizing db with
  | nil => cases h
  | cons a l ih =>
      cases hstep : submitAction request username db a with
      | error e =>
          simp only [List.foldlM_cons, hstep] at h
          cases h
          obtain ⟨hr, rfl⟩ := submitAction_eq_error hstep
          exact ⟨hr, rfl, 0, by simp⟩
      | ok m =>
          simp only [List.foldlM_cons, hstep] at h
          obtain ⟨-, -, rfl⟩ := submitAction_eq_ok.mp hstep
          obtain ⟨hr, hs, k, hk, ha⟩ := ih h
          refine ⟨hr, hs, k + 1, by simp [hk], ?_⟩
          simp [ha]

/-! ## The handler -/

/-- What a request leaves in the database. On success: the row of every action,
in list order, and one stats row, the reducer's with the submitter's name. On
an error: no stats row, but the rows of a prefix of the actions, all of them
when the reducer or the stats write is what failed. -/
theorem submit2024Actions_store (h : submit2024Actions username (.parsed request) db = (r, db')) :
    (r = .ok () → db'.actions = db.actions ++ request.actionsList.map (request.dbAction username) ∧
        ∃ stat, convertActionsToStat2024 request = .ok stat ∧
          db'.stats2024 = db.stats2024 ++ [{ stat with collectedBy := username }]) ∧
      (r.isError → db'.stats2024 = db.stats2024 ∧
        ∃ k ≤ request.actionsList.length,
          db'.actions = db.actions ++ (request.actionsList.take k).map (request.dbAction username)) := by
  simp only [submit2024Actions, RequestBody.parse] at h
  cases hrun : request.actionsList.foldlM (submitAction request username) db with
  | error e =>
      simp only [hrun] at h
      cases h
      obtain ⟨hr, hs, k, hk, ha⟩ := foldlM_submitAction_eq_error hrun
      exact ⟨fun hok => by simp [hok, Response.isError] at hr, fun _ => ⟨hs, k, hk.le, ha⟩⟩
  | ok m =>
      simp only [hrun] at h
      obtain ⟨ha, hs, -, -⟩ := foldlM_submitAction_eq_ok hrun
      have hall : ∃ k ≤ request.actionsList.length,
          m.actions = db.actions ++ (request.actionsList.take k).map (request.dbAction username) :=
        ⟨_, le_refl _, by rw [ha, List.take_length]⟩
      cases hconv : convertActionsToStat2024 request with
      | error err => simp only [hconv] at h; cases h; exact ⟨nofun, fun _ => ⟨hs, hall⟩⟩
      | ok stat =>
          simp only [hconv] at h
          cases hw : m.addToStats2024 { stat with collectedBy := username } with
          | error err => simp only [hw] at h; cases h; exact ⟨nofun, fun _ => ⟨hs, hall⟩⟩
          | ok m' =>
              simp only [hw] at h
              cases h
              obtain ⟨-, rfl⟩ := Database.write_eq_ok.mp hw
              exact ⟨fun _ => ⟨ha, stat, rfl, by simp [hs]⟩, nofun⟩

/-- A request whose second action has a negative timestamp. -/
def negativeSecondTimestamp : Submit2024Actions where
  teamNumber := "971"
  matchNumber := 1
  setNumber := 1
  compLevel := "qm"
  actionsList := [⟨some .pickupNoteAction, 0, by decide⟩, ⟨some .pickupNoteAction, -1, by decide⟩]
  compType := "Regular"
  actionsList_length_lt := by decide

/-- The request is answered with status 400 after the first action's row was
stored, and the row stays. -/
theorem submit2024Actions_error_keeps_row :
    (submit2024Actions "debug_cli" (.parsed negativeSecondTimestamp) Database.empty).1 =
        .error statusBadRequest "Invalid timestamp field value of -1" ∧
      (submit2024Actions "debug_cli" (.parsed negativeSecondTimestamp) Database.empty).2.actions ≠
        Database.empty.actions :=
  ⟨by decide, List.cons_ne_nil _ _⟩

/-- The unit test's message, submitted to a database that answers every write,
is stored with its stats row. -/
theorem testMessage2024_store :
    ∃ r db', submit2024Actions "debug_cli" (.parsed testMessage2024) Database.empty = (r, db') ∧
      r = .ok () ∧ db'.stats2024.length = 1 := by
  have h : submit2024Actions "debug_cli" (.parsed testMessage2024) Database.empty = (_, _) := rfl
  obtain ⟨-, stat, -, hstats⟩ := (submit2024Actions_store h).1 rfl
  exact ⟨_, _, h, rfl, by rw [hstats]; rfl⟩

end Scouting
