import Scouting.Requests.Handlers
import Scouting.Requests.CurrentScouting
import Scouting.Requests.Username

/-! # The server

`HandleRequests` registers a handler for each path and gives all of them one
database and one scouting map. The server is the state machine whose state is
that database and map, and whose steps are the requests, each served to its end
by the handler of its path. The results are about requests served one at a
time; `net/http` may serve two at once, and then their writes interleave.

Each request carries the database's answers to its reads and to its writes, so
a run may meet any pattern of refusals: a write refused in one request, and
every write of the next accepted.

What every run keeps:
* `statsBacked_run`: every stats row stays the reducer's row for a submission,
  with its sender's name, whose action rows are all still stored. A submission
  stores its actions before its stats and a delete removes the stats before the
  actions, so no stats row outlives its actions.
* `run_actions_attributed`: every action row added is the row of an action of a
  submission of the run, with a timestamp that is not negative.
* `run_rows_logged`: the notes, pit images and driver rankings are the logs of
  the requests answered with success, and the match list is never written.
* `serve_currentScouting_names`: the scouting map is the current-scouting
  handler's run on the calls to it alone, so its answers are those of its own
  run, whatever other requests come between.
-/

namespace Scouting

/-- A Go string as a Lean string, each byte the character of the same code. -/
def goString (bytes : List UInt8) : String :=
  String.mk (bytes.map fun b => Char.ofNat b.toNat)

/-- The path of a request, one for each registration of `HandleRequests`, with
the body its handler parses; `unknown` is the path `/requests`. -/
inductive Call where
  | unknown
  | requestAllMatches (body : RequestBody Unit)
  | requestAllNotes (body : RequestBody Unit)
  | requestAllDriverRankings (body : RequestBody Unit)
  | request2024DataScouting (body : RequestBody Unit)
  | submitNotes (body : RequestBody SubmitNotes)
  | submitPitImage (body : RequestBody SubmitPitImage)
  | requestPitImages (body : RequestBody RequestPitImages)
  | requestAllPitImages (body : RequestBody Unit)
  | requestCurrentScouting (body : RequestBody RequestCurrentScouting)
  | requestNotesForTeam (body : RequestBody RequestNotesForTeam)
  | submitShiftSchedule (body : RequestBody SubmitShiftSchedule)
  | requestShiftSchedule (body : RequestBody Unit)
  | submitDriverRanking (body : RequestBody SubmitDriverRanking)
  | submit2024Actions (body : RequestBody Submit2024Actions)
  | delete2024DataScouting (body : RequestBody Delete2024DataScouting)

/-- One request: its path and body, the values of its `Authorization` header,
the clock reading its handler takes, the database's answer to the handler's
reads, an error or none, and its answer to the handler's `k`-th write. -/
structure Request where
  call : Call
  authorization : List (List UInt8)
  now : Int
  readFault : Option String
  writeFault : Nat → Option String

/-- What the model leaves to Go's runtime and libraries: `sort.Slice`, the order
in which a range over the assembled matches visits them,
`base64.StdEncoding.DecodeString`, and `db.ComputeSha256FromByteArray`. -/
structure Runtime where
  sorter : SliceSort MatchT
  range : MatchOrder
  base64 : Base64Decoder
  computeSha256FromByteArray : List UInt8 → String

/-- The user `parseUsername` reads from a request. -/
def Request.username (rt : Runtime) (req : Request) : String :=
  goString (parseUsername rt.base64 req.authorization)

/-- The server's state: the database and the map of the current-scouting
handler. -/
structure Server where
  store : Store
  scoutingMap : ScoutingMap

/-- The answer to a request: the 404 of `unknown`, or a handler's response. -/
inductive Reply where
  | notFound
  | matchList (response : Response (List MatchT))
  | notes (response : Response (List Db.NotesData))
  | driverRankings (response : Response (List Db.DriverRankingData))
  | stats (response : Response (List Db.Stats2024))
  | pitImages (response : Response (List Db.RequestedPitImage))
  | currentScouting (response : Response (List String))
  | notesForTeam (response : Response (List String))
  | shiftSchedule (response : Response (List Db.Shift))
  | submitted (response : Response Unit)

/-- A request, served by the handler of its path. -/
def serve (rt : Runtime) (srv : Server) (req : Request) : Reply × Server :=
  let store := srv.store.answering req.writeFault
  match req.call with
  | .unknown => (.notFound, srv)
  | .requestAllMatches body =>
      (.matchList (requestAllMatches rt.sorter rt.range (store.matchesDatabase req.readFault) body),
        srv)
  | .requestAllNotes body => (.notes (requestAllNotes req.readFault body store), srv)
  | .requestAllDriverRankings body =>
      (.driverRankings (requestAllDriverRankings req.readFault body store), srv)
  | .request2024DataScouting body =>
      (.stats (request2024DataScouting req.readFault body store), srv)
  | .submitNotes body =>
      let result := submitNoteScouting body store
      (.submitted result.1, { srv with store := result.2 })
  | .submitPitImage body =>
      let result := submitPitImageScouting rt.computeSha256FromByteArray body store
      (.submitted result.1, { srv with store := result.2 })
  | .requestPitImages body => (.pitImages (requestPitImages req.readFault body store), srv)
  | .requestAllPitImages body => (.pitImages (requestAllPitImages req.readFault body store), srv)
  | .requestCurrentScouting body =>
      let result := requestCurrentScouting srv.scoutingMap (req.username rt) req.now body
      (.currentScouting result.1, { srv with scoutingMap := result.2 })
  | .requestNotesForTeam body =>
      (.notesForTeam (requestNotesForTeam req.readFault body store), srv)
  | .submitShiftSchedule body =>
      let result := submitShiftSchedule body store
      (.submitted result.1, { srv with store := result.2 })
  | .requestShiftSchedule body =>
      (.shiftSchedule (requestShiftSchedule req.readFault body store), srv)
  | .submitDriverRanking body =>
      let result := submitDriverRanking body store
      (.submitted result.1, { srv with store := result.2 })
  | .submit2024Actions body =>
      let result := submit2024Actions (req.username rt) body store.toDatabase
      (.submitted result.1, { srv with store := { store with toDatabase := result.2 } })
  | .delete2024DataScouting body =>
      let result := delete2024DataScouting body store
      (.submitted result.1, { srv with store := result.2 })

/-- The replies to `requests`, served in order, and the server they leave. -/
def run (rt : Runtime) (srv : Server) : List Request → List Reply × Server
  | [] => ([], srv)
  | req :: requests =>
      let rest := run rt (serve rt srv req).2 requests
      ((serve rt srv req).1 :: rest.1, rest.2)

/-! ## What a submission stores -/

section Submission

variable (username : String) (body : RequestBody Submit2024Actions) (db : Database)

/-- A `Submit2024Actions` request adds action rows and no stats row, or, having
stored the rows of all its actions, the reducer's row with the sender's name. -/
theorem submit2024Actions_rows :
    ((submit2024Actions username body db).2.stats2024 = db.stats2024 ∧
        ∃ rows, (submit2024Actions username body db).2.actions = db.actions ++ rows) ∨
      ∃ request stats, body = .parsed request ∧ convertActionsToStat2024 request = .ok stats ∧
        (submit2024Actions username body db).2.stats2024 =
          db.stats2024 ++ [{ stats with collectedBy := username }] ∧
        (submit2024Actions username body db).2.actions =
          db.actions ++ request.actionsList.map (request.dbAction username) := by
  cases body with
  | parsed request =>
      simp only [submit2024Actions, RequestBody.parse]
      cases hrun : request.actionsList.foldlM (submitAction request username) db with
      | error e =>
          obtain ⟨r, db'⟩ := e
          obtain ⟨-, hs, k, -, ha⟩ := foldlM_submitAction_eq_error hrun
          exact .inl ⟨hs, _, ha⟩
      | ok m =>
          obtain ⟨ha, hs, -, -⟩ := foldlM_submitAction_eq_ok hrun
          cases hconv : convertActionsToStat2024 request with
          | error err => exact .inl ⟨hs, _, ha⟩
          | ok stats =>
              dsimp only
              cases hw : m.addToStats2024 { stats with collectedBy := username } with
              | error err => exact .inl ⟨hs, _, ha⟩
              | ok m' =>
                  obtain ⟨-, rfl⟩ := Database.write_eq_ok.mp hw
                  exact .inr ⟨request, stats, rfl, hconv, by simp [Database.addToStats2024, hs], ha⟩
  | _ => exact .inl ⟨rfl, [], by simp [submit2024Actions, RequestBody.parse]⟩

/-- Every action row a `Submit2024Actions` request adds is the row of one of its
actions, whose timestamp is not negative. -/
theorem submit2024Actions_actions :
    ∀ row ∈ (submit2024Actions username body db).2.actions, row ∈ db.actions ∨
      ∃ request, body = .parsed request ∧ ∃ a ∈ request.actionsList, 0 ≤ a.timestamp ∧
        row = request.dbAction username a := by
  cases body with
  | parsed request =>
      let I (d : Database) : Prop := ∀ row ∈ d.actions, row ∈ db.actions ∨
        ∃ a ∈ request.actionsList, 0 ≤ a.timestamp ∧ row = request.dbAction username a
      have hloop := foldlM_invariant (f := submitAction request username) I
        (fun d a d' ha hd hstep row hrow => by
          obtain ⟨hts, -, rfl⟩ := submitAction_eq_ok.mp hstep
          rcases List.mem_append.mp hrow with hrow | hrow
          · exact hd row hrow
          · exact .inr ⟨a, ha, hts, List.mem_singleton.mp hrow⟩)
        (fun d a e d' _ hd hstep => (submitAction_eq_error hstep).2 ▸ hd)
        (s := db) (fun row hrow => .inl hrow)
      intro row hrow
      suffices I (submit2024Actions username (.parsed request) db).2 by
        exact (this row hrow).imp_right fun h => ⟨request, rfl, h⟩
      simp only [submit2024Actions, RequestBody.parse]
      cases hrun : request.actionsList.foldlM (submitAction request username) db with
      | error e => exact hloop.2 e.1 e.2 hrun
      | ok m =>
          have hm := hloop.1 m hrun
          cases convertActionsToStat2024 request with
          | error err => exact hm
          | ok stats =>
              dsimp only
              cases hw : m.addToStats2024 { stats with collectedBy := username } with
              | error err => exact hm
              | ok m' =>
                  obtain ⟨-, rfl⟩ := Database.write_eq_ok.mp hw
                  exact hm
  | _ => exact fun row hrow => .inl hrow

/-- A submission's stats row is of the same match and team as its action rows. -/
theorem scoutedMatch_of_convert {request : Submit2024Actions} {stats : Db.Stats2024}
    (h : convertActionsToStat2024 request = .ok stats) (a : Action2024) :
    ({ stats with collectedBy := username } : Db.Stats2024).scoutedMatch =
      (request.dbAction username a).scoutedMatch := by
  have hid := convertActionsToStat2024_identity h
  simp only [Db.Stats2024.identity, Prod.mk.injEq] at hid
  simp [Db.Stats2024.scoutedMatch, Db.Action.scoutedMatch, Submit2024Actions.dbAction, hid]

end Submission

/-! ## One request -/

/-- An action row a request has added: the row of an action of the request's
submission, with a timestamp that is not negative. -/
def Request.Attributed (rt : Runtime) (req : Request) (row : Db.Action) : Prop :=
  ∃ request, req.call = .submit2024Actions (.parsed request) ∧
    ∃ a ∈ request.actionsList, 0 ≤ a.timestamp ∧ row = request.dbAction (req.username rt) a

/-- The notes row a request has stored. -/
def Request.noteRows (req : Request) (reply : Reply) : List Db.NotesData :=
  match req.call, reply with
  | .submitNotes body, .submitted response => loggedRow SubmitNotes.notesData body response
  | _, _ => []

/-- The pit image row a request has stored. -/
def Request.pitImageRows (rt : Runtime) (req : Request) (reply : Reply) : List Db.PitImage :=
  match req.call, reply with
  | .submitPitImage body, .submitted response =>
      loggedRow (SubmitPitImage.pitImage rt.computeSha256FromByteArray) body response
  | _, _ => []

/-- The driver ranking row a request has stored. -/
def Request.rankingRows (req : Request) (reply : Reply) : List Db.DriverRankingData :=
  match req.call, reply with
  | .submitDriverRanking body, .submitted response =>
      loggedRow SubmitDriverRanking.rankingData body response
  | _, _ => []

/-- The call of the current-scouting handler a request makes, if its body parses. -/
def Request.scoutingCall (rt : Runtime) (req : Request) : Option ScoutingCall :=
  match req.call with
  | .requestCurrentScouting (.parsed request) => some ⟨request.teamNumber, req.username rt, req.now⟩
  | _ => none

/-- One step of the current-scouting handler on a call that parsed. -/
def scoutingStep (scoutingMap : ScoutingMap) (c : ScoutingCall) : ScoutingMap :=
  (requestCurrentScouting scoutingMap c.viewer c.now (.parsed ⟨c.team⟩)).2

/-- The server `HandleRequests` sets up on a database, with the scouting map it
creates. -/
def handleRequests (store : Store) : Server := ⟨store, ScoutingMap.empty⟩

/-- From `s` to `s'`, the match list is kept, and the notes, pit images and driver
rankings have gained `newNotes`, `newImages` and `newRankings`. -/
structure Store.Logged (s s' : Store) (newNotes : List Db.NotesData) (newImages : List Db.PitImage)
    (newRankings : List Db.DriverRankingData) : Prop where
  teamMatches : s'.teamMatches = s.teamMatches
  notes : s'.notes = s.notes ++ newNotes
  images : s'.images = s.images ++ newImages
  driverRanking : s'.driverRanking = s.driverRanking ++ newRankings

theorem Store.Logged.refl (s : Store) : s.Logged s [] [] [] :=
  ⟨rfl, (List.append_nil _).symm, (List.append_nil _).symm, (List.append_nil _).symm⟩

/-- Installing a request's answers to writes changes no collection. -/
theorem Store.Logged.answering (s : Store) (writeFault : Nat → Option String) :
    s.Logged (s.answering writeFault) [] [] [] :=
  ⟨rfl, (List.append_nil _).symm, (List.append_nil _).symm, (List.append_nil _).symm⟩

theorem Store.Logged.trans {s s' s'' : Store} {n n' : List Db.NotesData} {i i' : List Db.PitImage}
    {r r' : List Db.DriverRankingData} (h : s.Logged s' n i r) (h' : s'.Logged s'' n' i' r') :
    s.Logged s'' (n ++ n') (i ++ i') (r ++ r') :=
  ⟨h'.teamMatches.trans h.teamMatches, by rw [h'.notes, h.notes, List.append_assoc],
    by rw [h'.images, h.images, List.append_assoc],
    by rw [h'.driverRanking, h.driverRanking, List.append_assoc]⟩

variable (rt : Runtime) (srv : Server) (req : Request)

@[simp] theorem run_nil : run rt srv [] = ([], srv) := rfl

@[simp] theorem run_cons (requests : List Request) :
    run rt srv (req :: requests) =
      ((serve rt srv req).1 :: (run rt (serve rt srv req).2 requests).1,
        (run rt (serve rt srv req).2 requests).2) := rfl

/-- How a request changes the store: it logs the rows of a single-row request
answered with success, and leaves the stats and action rows alone unless it is
a submission or a delete. -/
theorem serve_store :
    srv.store.Logged (serve rt srv req).2.store (req.noteRows (serve rt srv req).1)
        (req.pitImageRows rt (serve rt srv req).1) (req.rankingRows (serve rt srv req).1) ∧
      (((serve rt srv req).2.store.stats2024 = srv.store.stats2024 ∧
          (serve rt srv req).2.store.actions = srv.store.actions) ∨
        (∃ body, req.call = .submit2024Actions body ∧ (serve rt srv req).2.store.toDatabase =
          (submit2024Actions (req.username rt) body
            (srv.store.answering req.writeFault).toDatabase).2) ∨
        ∃ body, req.call = .delete2024DataScouting body ∧ (serve rt srv req).2.store =
          (delete2024DataScouting body (srv.store.answering req.writeFault)).2) := by
  obtain ⟨call, authorization, now, readFault, writeFault⟩ := req
  cases call
  case submit2024Actions body =>
    exact ⟨⟨rfl, (List.append_nil _).symm, (List.append_nil _).symm, (List.append_nil _).symm⟩,
      .inr (.inl ⟨body, rfl, rfl⟩)⟩
  case delete2024DataScouting body =>
    refine ⟨?_, .inr (.inr ⟨body, rfl, rfl⟩)⟩
    rcases delete2024DataScouting_shape body (srv.store.answering writeFault) with
      h | ⟨request, -, h | h⟩ <;>
      constructor <;> simp only [serve, h] <;> simp only [Store.answering, Request.noteRows,
        Request.pitImageRows, Request.rankingRows, List.append_nil]
  case submitShiftSchedule body =>
    obtain ⟨shifts, k, h⟩ := submitShiftSchedule_shape body (srv.store.answering writeFault)
    refine ⟨?_, .inl ⟨by simp only [serve, h]; rfl, by simp only [serve, h]; rfl⟩⟩
    constructor <;> simp only [serve, h] <;> simp only [Store.answering, Request.noteRows,
      Request.pitImageRows, Request.rankingRows, List.append_nil]
  case submitNotes body =>
    refine (submitRow_logged _ _ (fun s' l => srv.store.Logged s' l [] [] ∧
      s'.stats2024 = srv.store.stats2024 ∧ s'.actions = srv.store.actions)
      ⟨Store.Logged.answering _ _, rfl, rfl⟩ fun x s' h => ?_).imp id .inl
    obtain ⟨-, rfl⟩ := Store.addNotes_eq_ok.mp h
    exact ⟨⟨rfl, rfl, (List.append_nil _).symm, (List.append_nil _).symm⟩, rfl, rfl⟩
  case submitPitImage body =>
    refine (submitRow_logged _ _ (fun s' l => srv.store.Logged s' [] l [] ∧
      s'.stats2024 = srv.store.stats2024 ∧ s'.actions = srv.store.actions)
      ⟨Store.Logged.answering _ _, rfl, rfl⟩ fun x s' h => ?_).imp id .inl
    obtain ⟨-, rfl⟩ := Store.addPitImage_eq_ok.mp h
    exact ⟨⟨rfl, (List.append_nil _).symm, rfl, (List.append_nil _).symm⟩, rfl, rfl⟩
  case submitDriverRanking body =>
    refine (submitRow_logged _ _ (fun s' l => srv.store.Logged s' [] [] l ∧
      s'.stats2024 = srv.store.stats2024 ∧ s'.actions = srv.store.actions)
      ⟨Store.Logged.answering _ _, rfl, rfl⟩ fun x s' h => ?_).imp id .inl
    obtain ⟨-, rfl⟩ := Store.addDriverRanking_eq_ok.mp h
    exact ⟨⟨rfl, (List.append_nil _).symm, (List.append_nil _).symm, rfl⟩, rfl, rfl⟩
  all_goals exact ⟨Store.Logged.refl _, .inl ⟨rfl, rfl⟩⟩

/-! ## What every run keeps -/

/-- Every action row of `s'` was in `s`, or is the row of an action of a
submission among `requests`. -/
def ActionsAttributed (rt : Runtime) (requests : List Request) (s s' : Store) : Prop :=
  ∀ row ∈ s'.actions, row ∈ s.actions ∨ ∃ req ∈ requests, req.Attributed rt row

theorem ActionsAttributed.trans {requests requests' : List Request} {s s' s'' : Store}
    (h : ActionsAttributed rt requests s s') (h' : ActionsAttributed rt requests' s' s'') :
    ActionsAttributed rt (requests ++ requests') s s'' := fun row hrow =>
  (h' row hrow).elim
    (fun hrow => (h row hrow).imp_right fun ⟨r, hr, ha⟩ => ⟨r, List.mem_append_left _ hr, ha⟩)
    fun ⟨r, hr, ha⟩ => .inr ⟨r, List.mem_append_right _ hr, ha⟩

/-- A request adds action rows only as the rows of the actions of its submission. -/
theorem serve_actions : ActionsAttributed rt [req] srv.store (serve rt srv req).2.store := by
  intro row hrow
  rcases (serve_store rt srv req).2 with ⟨-, ha⟩ | ⟨body, hcall, hdb⟩ | ⟨body, -, hdel⟩
  · exact .inl (ha ▸ hrow)
  · rw [hdb] at hrow
    exact (submit2024Actions_actions _ body _ row hrow).imp_right fun ⟨request, hbody, h⟩ =>
      ⟨req, List.mem_singleton_self _, request, hbody ▸ hcall, h⟩
  · rw [hdel] at hrow
    rcases delete2024DataScouting_shape body (srv.store.answering req.writeFault) with
      h | ⟨request, -, h | h⟩ <;> rw [h] at hrow
    · exact .inl hrow
    · exact .inl hrow
    · exact .inl (List.mem_filter.mp hrow).1

/-- Every action row a run leaves was there before it, or is the row of an action
of a submission of the run, with the sender's name and a timestamp that is not
negative. -/
theorem run_actions_attributed (requests : List Request) :
    ActionsAttributed rt requests srv.store (run rt srv requests).2.store := by
  induction requests generalizing srv with
  | nil => exact fun row hrow => .inl hrow
  | cons req requests ih => exact (serve_actions rt srv req).trans rt (ih _)

/-! ## Stats rows and their actions -/

/-- `row` is the stats row of the submission `req`, and `actions` hold the rows of
all the submission's actions. -/
def Request.Backs (rt : Runtime) (req : Request) (actions : List Db.Action)
    (row : Db.Stats2024) : Prop :=
  ∃ request stats, req.call = .submit2024Actions (.parsed request) ∧
    convertActionsToStat2024 request = .ok stats ∧
    row = { stats with collectedBy := req.username rt } ∧
    ∀ a ∈ request.actionsList, request.dbAction (req.username rt) a ∈ actions

/-- Every stats row of the store is backed by one of `requests`. -/
def StatsBacked (rt : Runtime) (requests : List Request) (s : Store) : Prop :=
  ∀ row ∈ s.stats2024, ∃ req ∈ requests, req.Backs rt s.actions row

theorem Request.Backs.mono {actions actions' : List Db.Action} {row : Db.Stats2024}
    (h : req.Backs rt actions row) (hsub : actions ⊆ actions') : req.Backs rt actions' row :=
  let ⟨request, stats, hcall, hconv, hrow, hall⟩ := h
  ⟨request, stats, hcall, hconv, hrow, fun a ha => hsub (hall a ha)⟩

/-- The action rows of a submission are of the match of its stats row, so a
delete of another match keeps them. -/
theorem Request.Backs.filter {actions : List Db.Action} {row : Db.Stats2024} {m : ScoutedMatch}
    (h : req.Backs rt actions row) (hm : row.scoutedMatch ≠ m) :
    req.Backs rt (actions.filter (·.scoutedMatch != m)) row := by
  obtain ⟨request, stats, hcall, hconv, rfl, hall⟩ := h
  refine ⟨request, stats, hcall, hconv, rfl, fun a ha => List.mem_filter.mpr ⟨hall a ha, ?_⟩⟩
  rw [← scoutedMatch_of_convert _ hconv a]
  simpa using hm

/-- One request keeps every stats row backed: a submission stores its actions
before its stats, and a delete removes the stats before the actions. -/
theorem StatsBacked.serve {hist : List Request} (h : StatsBacked rt hist srv.store) :
    StatsBacked rt (hist ++ [req]) (serve rt srv req).2.store := by
  have keep : ∀ actions, srv.store.actions ⊆ actions → ∀ row ∈ srv.store.stats2024,
      ∃ r ∈ hist ++ [req], r.Backs rt actions row := fun actions hsub row hrow =>
    let ⟨r, hr, hb⟩ := h row hrow
    ⟨r, List.mem_append_left _ hr, hb.mono rt r hsub⟩
  unfold StatsBacked
  rcases (serve_store rt srv req).2 with ⟨hs, ha⟩ | ⟨body, hcall, hdb⟩ | ⟨body, -, hdel⟩
  · rw [hs, ha]
    exact keep _ (List.Subset.refl _)
  · rw [hdb]
    rcases submit2024Actions_rows (req.username rt) body
        (srv.store.answering req.writeFault).toDatabase with
      ⟨hs, rows, ha⟩ | ⟨request, stats, rfl, hconv, hs, ha⟩
    · rw [hs, ha]
      exact keep _ (List.subset_append_left _ _)
    · rw [hs, ha]
      intro row hrow
      rcases List.mem_append.mp hrow with hrow | hrow
      · exact keep _ (List.subset_append_left _ _) row hrow
      · exact ⟨req, List.mem_append_right _ (List.mem_singleton_self _), request, stats, hcall,
          hconv, List.mem_singleton.mp hrow,
          fun a ha => List.mem_append_right _ (List.mem_map_of_mem _ ha)⟩
  · rw [hdel]
    rcases delete2024DataScouting_shape body (srv.store.answering req.writeFault) with
      hd | ⟨request, -, hd | hd⟩ <;> rw [hd]
    · exact keep _ (List.Subset.refl _)
    · exact fun row hrow => keep _ (List.Subset.refl _) row (List.mem_filter.mp hrow).1
    · intro row hrow
      obtain ⟨hrow, hne⟩ := List.mem_filter.mp hrow
      obtain ⟨r, hr, hb⟩ := h row hrow
      exact ⟨r, List.mem_append_left _ hr, hb.filter rt r (by simpa using hne)⟩

/-- Every run keeps every stats row backed by a submission, the run's requests
added to those that came before. -/
theorem statsBacked_run {hist : List Request} (requests : List Request)
    (h : StatsBacked rt hist srv.store) :
    StatsBacked rt (hist ++ requests) (run rt srv requests).2.store := by
  induction requests generalizing hist srv with
  | nil => simpa using h
  | cons req requests ih => simpa using ih _ (h.serve rt srv req)

/-- A submission refused at its second write leaves its first action row; the
same submission accepted next, and a delete of another match after it, leave one
stats row, backed by the actions of the accepted submission. -/
theorem statsBacked_run_handleRequests :
    let rt : Runtime := ⟨insertionSliceSort MatchT, .mapEntries, strictDecoder, fun _ => ""⟩
    let submit : Call := .submit2024Actions (.parsed testMessage2024)
    let requests : List Request :=
      [⟨submit, [], 0, none, fun k => if k = 1 then some "database is busy" else none⟩,
        ⟨submit, [], 0, none, fun _ => none⟩,
        ⟨.delete2024DataScouting (.parsed ⟨"quals", 4, 1, "4244"⟩), [], 0, none, fun _ => none⟩]
    StatsBacked rt [] (handleRequests Store.empty).store ∧
      StatsBacked rt ([] ++ requests) (run rt (handleRequests Store.empty) requests).2.store ∧
      (run rt (handleRequests Store.empty) requests).2.store.stats2024.length = 1 ∧
      (run rt (handleRequests Store.empty) requests).2.store.actions.length =
        1 + testMessage2024.actionsList.length :=
  have empty (rt : Runtime) : StatsBacked rt [] (handleRequests Store.empty).store :=
    fun _ h => (List.not_mem_nil _ h).elim
  ⟨empty _, statsBacked_run _ _ _ (empty _), rfl, rfl⟩

/-! ## The scouting map -/

theorem serve_scoutingMap :
    (serve rt srv req).2.scoutingMap =
      (req.scoutingCall rt).elim srv.scoutingMap (scoutingStep srv.scoutingMap) := by
  obtain ⟨call, authorization, now, readFault⟩ := req
  cases call
  case requestCurrentScouting body => cases body <;> rfl
  all_goals rfl

theorem run_scoutingMap_foldl (requests : List Request) :
    (run rt srv requests).2.scoutingMap =
      (requests.filterMap (Request.scoutingCall rt)).foldl scoutingStep srv.scoutingMap := by
  induction requests generalizing srv with
  | nil => rfl
  | cons req requests ih =>
      rw [run_cons, ih, serve_scoutingMap, List.filterMap_cons]
      cases req.scoutingCall rt <;> rfl

/-- The server's answer to a current-scouting request, after any run from the
server `HandleRequests` sets up in which the calls to that handler come in clock
order, whatever other requests came between them: in any order Go ranges over
the map, no name twice, and exactly the other viewers whose call asked about the
same team less than ten seconds before. -/
theorem serve_currentScouting_names (store : Store) (requests : List Request)
    {request : RequestCurrentScouting} (hcall : req.call = .requestCurrentScouting (.parsed request))
    (hsorted : ((requests ++ [req]).filterMap (Request.scoutingCall rt)).Pairwise
      (fun a b => a.now ≤ b.now)) :
    ∃ response, (serve rt (run rt (handleRequests store) requests).2 req).1 =
        .currentScouting (.ok response) ∧
      ∀ names : List String, names.Perm response → names.Nodup ∧ ∀ w, w ∈ names ↔
        w ≠ req.username rt ∧ ∃ c ∈ (requests ++ [req]).filterMap (Request.scoutingCall rt),
          c.team = request.teamNumber ∧ c.viewer = w ∧ req.now - c.now < 10 * second := by
  have hcalls : (requests ++ [req]).filterMap (Request.scoutingCall rt) =
      requests.filterMap (Request.scoutingCall rt) ++ [⟨request.teamNumber, req.username rt, req.now⟩] := by
    simp [List.filterMap_append, Request.scoutingCall, hcall]
  have hmap : (run rt (handleRequests store) requests).2.scoutingMap =
      scoutingRun (requests.filterMap (Request.scoutingCall rt)) :=
    run_scoutingMap_foldl rt _ requests
  have htracks := scoutingRun_tracks (hcalls ▸ hsorted)
  rw [scoutingRun_append_singleton, ← hmap] at htracks
  dsimp only at htracks
  refine ⟨((requestCurrentScouting (run rt (handleRequests store) requests).2.scoutingMap
      (req.username rt) req.now (.parsed ⟨request.teamNumber⟩)).2 request.teamNumber).keys.filter
      (· != req.username rt), by simp only [serve, hcall]; rfl, fun names hnames => ?_⟩
  refine ⟨hnames.nodup_iff.mpr ((AList.keys_nodup _).filter _), fun w => ?_⟩
  rw [hnames.mem_iff, List.mem_filter, ← AList.mem_keys, ← AList.lookup_isSome, htracks, hcalls,
    lastSeen_fresh_iff (hcalls ▸ hsorted), bne_iff_ne, and_comm]

/-- `debug_cli` asks about team 971, submits a note, and `george` asks about the
same team a second later: the answer names `debug_cli` and not `george`. -/
theorem serve_currentScouting_names_george :
    let rt : Runtime := ⟨insertionSliceSort MatchT, .mapEntries, strictDecoder, fun _ => ""⟩
    let debugCli := [performPostAuthorization (asciiBytes "debug_cli")]
    let requests : List Request :=
      [⟨.requestCurrentScouting (.parsed ⟨"971"⟩), debugCli, 0, none, fun _ => none⟩,
        ⟨.submitNotes (.parsed ⟨"971", "fast cycles", true, false, false, false, false, false,
          false, false, 1, 1, "qm"⟩), debugCli, second / 2, none, fun _ => none⟩]
    let req : Request := ⟨.requestCurrentScouting (.parsed ⟨"971"⟩),
      [performPostAuthorization (asciiBytes "george")], second, none, fun _ => none⟩
    req.call = .requestCurrentScouting (.parsed ⟨"971"⟩) ∧
      ((requests ++ [req]).filterMap (Request.scoutingCall rt)).Pairwise
        (fun a b => a.now ≤ b.now) ∧
      ∃ response, (serve rt (run rt (handleRequests Store.empty) requests).2 req).1 =
          .currentScouting (.ok response) ∧ "debug_cli" ∈ response ∧ "george" ∉ response := by
  intro rt debugCli requests req
  have hsorted : ((requests ++ [req]).filterMap (Request.scoutingCall rt)).Pairwise
      (fun a b => a.now ≤ b.now) := by decide
  obtain ⟨response, hreply, hnames⟩ :=
    serve_currentScouting_names rt req Store.empty requests rfl hsorted
  have hmem := (hnames response (List.Perm.refl _)).2
  exact ⟨rfl, hsorted, response, hreply, (hmem _).mpr (by decide),
    fun h => ((hmem _).mp h).1 (by decide)⟩

end Scouting
