import Scouting.Go.SortSlice
import Scouting.Requests.Messages

/-! # Assembling and sorting the match list

The database holds one `TeamMatch` row per team and match. `requestAllMatchesHandler`
merges the rows of one `MatchAssemblyKey` into one `MatchT` of six team slots,
asking the database for each team whether it has been data scouted, then lists
the assembled matches and sorts them by the index of their level in
`MATCH_TYPE_ORDERING`, their match number and their set number. A level outside
that list is only noticed by the sort's comparator.
-/

namespace Scouting

namespace Db

/-- `db.TeamMatch`, with the fields the handler reads. -/
structure TeamMatch where
  matchNumber : Int
  setNumber : Int
  compLevel : String
  alliance : String
  alliancePosition : Int
  teamNumber : String
  deriving Repr, DecidableEq

end Db

/-- `MatchAssemblyKey`. -/
structure MatchAssemblyKey where
  matchNumber : Int
  setNumber : Int
  compLevel : String
  deriving Repr, DecidableEq

/-- The six team slots of a match. -/
inductive Slot where
  | r1 | r2 | r3 | b1 | b2 | b3
  deriving Repr, DecidableEq

/-- `request_all_matches_response.ScoutedLevelT`. -/
structure ScoutedLevelT where
  r1 : Bool := false
  r2 : Bool := false
  r3 : Bool := false
  b1 : Bool := false
  b2 : Bool := false
  b3 : Bool := false
  deriving Repr, DecidableEq

/-- `request_all_matches_response.MatchT`. Its `DataScouted` is a pointer that
an entry and every copy of it share, so writing through it and storing the
copy updates one value: here it is that value. -/
structure MatchT where
  matchNumber : Int
  setNumber : Int
  compLevel : String
  r1 : String := ""
  r2 : String := ""
  r3 : String := ""
  b1 : String := ""
  b2 : String := ""
  b3 : String := ""
  dataScouted : ScoutedLevelT := {}
  deriving Repr, DecidableEq

namespace ScoutedLevelT

/-- The flag of one slot. -/
def get (scouted : ScoutedLevelT) : Slot → Bool
  | .r1 => scouted.r1
  | .r2 => scouted.r2
  | .r3 => scouted.r3
  | .b1 => scouted.b1
  | .b2 => scouted.b2
  | .b3 => scouted.b3

/-- `*dataScoutedTeam = value` for the slot's field. -/
def set (scouted : ScoutedLevelT) (value : Bool) : Slot → ScoutedLevelT
  | .r1 => { scouted with r1 := value }
  | .r2 => { scouted with r2 := value }
  | .r3 => { scouted with r3 := value }
  | .b1 => { scouted with b1 := value }
  | .b2 => { scouted with b2 := value }
  | .b3 => { scouted with b3 := value }

@[simp] theorem get_set (scouted : ScoutedLevelT) (value : Bool) (slot slot' : Slot) :
    (scouted.set value slot).get slot' = if slot = slot' then value else scouted.get slot' := by
  cases slot <;> cases slot' <;> rfl

end ScoutedLevelT

namespace MatchT

/-- The team of one slot. -/
def team (entry : MatchT) : Slot → String
  | .r1 => entry.r1
  | .r2 => entry.r2
  | .r3 => entry.r3
  | .b1 => entry.b1
  | .b2 => entry.b2
  | .b3 => entry.b3

/-- `*team = teamNumber` for the slot's field. -/
def setTeam (entry : MatchT) (teamNumber : String) : Slot → MatchT
  | .r1 => { entry with r1 := teamNumber }
  | .r2 => { entry with r2 := teamNumber }
  | .r3 => { entry with r3 := teamNumber }
  | .b1 => { entry with b1 := teamNumber }
  | .b2 => { entry with b2 := teamNumber }
  | .b3 => { entry with b3 := teamNumber }

/-- The key an entry is stored under. -/
def key (entry : MatchT) : MatchAssemblyKey := ⟨entry.matchNumber, entry.setNumber, entry.compLevel⟩

@[simp] theorem team_setTeam (entry : MatchT) (teamNumber : String) (slot slot' : Slot) :
    (entry.setTeam teamNumber slot).team slot' = if slot = slot' then teamNumber else entry.team slot' := by
  cases slot <;> cases slot' <;> rfl

@[simp] theorem key_setTeam (entry : MatchT) (teamNumber : String) (slot : Slot) :
    (entry.setTeam teamNumber slot).key = entry.key := by
  cases slot <;> rfl

@[simp] theorem dataScouted_setTeam (entry : MatchT) (teamNumber : String) (slot : Slot) :
    (entry.setTeam teamNumber slot).dataScouted = entry.dataScouted := by
  cases slot <;> rfl

end MatchT

/-- The key of a row. -/
def Db.TeamMatch.key (teamMatch : Db.TeamMatch) : MatchAssemblyKey :=
  ⟨teamMatch.matchNumber, teamMatch.setNumber, teamMatch.compLevel⟩

/-! ## The assembly loop -/

/-- The inner `switch match.AlliancePosition` of one alliance. -/
def positionSlot (color : String) (s1 s2 s3 : Slot) (teamMatch : Db.TeamMatch) : Except String Slot :=
  if teamMatch.alliancePosition = 1 then .ok s1
  else if teamMatch.alliancePosition = 2 then .ok s2
  else if teamMatch.alliancePosition = 3 then .ok s3
  else .error ("Unknown " ++ color ++ " position " ++ toString teamMatch.alliancePosition ++
    " in match " ++ toString teamMatch.matchNumber)

/-- The `switch match.Alliance`: the slot a row fills. The message for an
unknown alliance prints the row's alliance position where it says match. -/
def Db.TeamMatch.slot (teamMatch : Db.TeamMatch) : Except String Slot :=
  if teamMatch.alliance = "R" then positionSlot "red" .r1 .r2 .r3 teamMatch
  else if teamMatch.alliance = "B" then positionSlot "blue" .b1 .b2 .b3 teamMatch
  else .error ("Unknown alliance " ++ teamMatch.alliance ++ " in match " ++
    toString teamMatch.alliancePosition)

/-- The database as far as this handler uses it. -/
structure MatchesDatabase where
  returnMatches : Except String (List Db.TeamMatch)
  returnStats2024ForTeam : String → Int → Int → String → String → Except String (List Db.Stats2024)

/-- `teamHasBeenDataScouted`. -/
def teamHasBeenDataScouted (db : MatchesDatabase) (key : MatchAssemblyKey) (teamNumber : String) :
    Except String Bool := do
  let stats ← db.returnStats2024ForTeam teamNumber key.matchNumber key.setNumber key.compLevel "Regular"
  pure (decide (0 < stats.length))

/-- `assembledMatches`. -/
abbrev AssembledMatches := AList (fun _ : MatchAssemblyKey => MatchT)

/-- The entry a key starts from when the map does not hold it yet. -/
def MatchT.ofTeamMatch (teamMatch : Db.TeamMatch) : MatchT :=
  { matchNumber := teamMatch.matchNumber, setNumber := teamMatch.setNumber,
    compLevel := teamMatch.compLevel }

/-- One iteration of the assembly loop. Both of its errors are answered with
status 500, with the message given here. -/
def assembleMatch (db : MatchesDatabase) (assembledMatches : AssembledMatches)
    (teamMatch : Db.TeamMatch) : Except String AssembledMatches :=
  let key := teamMatch.key
  let entry := (assembledMatches.lookup key).getD (MatchT.ofTeamMatch teamMatch)
  match teamMatch.slot with
  | .error err => .error err
  | .ok slot =>
      let entry := entry.setTeam teamMatch.teamNumber slot
      match teamHasBeenDataScouted db key teamMatch.teamNumber with
      | .error err =>
          .error ("Failed to determine data scouting status for team " ++
            toString teamMatch.alliancePosition ++ " in match " ++
            toString teamMatch.matchNumber ++ err)
      | .ok scouted =>
          .ok (assembledMatches.insert key { entry with dataScouted := entry.dataScouted.set scouted slot })

/-! ## Sorting -/

/-- `MATCH_TYPE_ORDERING`. -/
def matchTypeOrdering : List String := ["qm", "ef", "qf", "sf", "f"]

/-- `fmt.Sprint` of a `[]string`: the elements separated by blanks, in brackets. -/
def sprintList (list : List String) : String := "[" ++ " ".intercalate list ++ "]"

/-- `findIndexInList`. -/
def findIndexInList (list : List String) (compLevel : String) : Except String Nat :=
  match list.findIdx? (· == compLevel) with
  | some index => .ok index
  | none => .error ("Failed to find comp level " ++ compLevel ++ " in list " ++ sprintList list)

/-- The index of a level in the comparator, with the error the comparator
records for a level outside the list. -/
def matchTypeIndex (compLevel : String) : Except String Nat :=
  match findIndexInList matchTypeOrdering compLevel with
  | .ok index => .ok index
  | .error err2 => .error ("Comp level " ++ compLevel ++ " not found in sorting list " ++
      sprintList matchTypeOrdering ++ " : " ++ err2)

/-- The comparator passed to `sort.Slice`. It answers true on equal keys. -/
def matchLess (a b : MatchT) : Except String Bool := do
  let aMatchTypeIndex ← matchTypeIndex a.compLevel
  let bMatchTypeIndex ← matchTypeIndex b.compLevel
  if aMatchTypeIndex < bMatchTypeIndex then return true
  if aMatchTypeIndex > bMatchTypeIndex then return false
  if a.matchNumber < b.matchNumber then return true
  if a.matchNumber > b.matchNumber then return false
  if a.setNumber < b.setNumber then return true
  if a.setNumber > b.setNumber then return false
  return true

/-- The order in which Go ranges over `assembledMatches`, which it leaves
unspecified: any permutation of the entries. -/
structure MatchOrder where
  order : List MatchT → List MatchT
  perm : ∀ matchList, (order matchList).Perm matchList

/-- Ranging over the map in the order of its entries. -/
def MatchOrder.mapEntries : MatchOrder := ⟨id, fun _ => List.Perm.refl _⟩

/-- `requestAllMatchesHandler.ServeHTTP`, with `sort.Slice` and the map's
iteration order as parameters. -/
def requestAllMatches (sorter : SliceSort MatchT) (range : MatchOrder) (db : MatchesDatabase)
    (body : RequestBody Unit) : Response (List MatchT) :=
  match body.parse "RequestAllMatches" with
  | .error response => response
  | .ok _ =>
      match db.returnMatches with
      | .error err => .error statusInternalServerError ("Failed to query database: " ++ err)
      | .ok teamMatches =>
          match teamMatches.foldlM (assembleMatch db) ∅ with
          | .error err => .error statusInternalServerError err
          | .ok assembledMatches =>
              match sorter.sort matchLess (range.order (assembledMatches.entries.map (·.2))) with
              | .error err => .error statusInternalServerError err
              | .ok matchList => .ok matchList

/-! ## What the assembly loop builds -/

/-- The team of the last of `rows` with key `key` that fills `slot`. -/
def lastTeam (rows : List Db.TeamMatch) (key : MatchAssemblyKey) (slot : Slot) : Option String :=
  ((rows.filter (fun r => r.key = key ∧ r.slot.toOption = some slot)).getLast?).map (·.teamNumber)

theorem lastTeam_append_singleton (rows : List Db.TeamMatch) (r : Db.TeamMatch)
    (key : MatchAssemblyKey) (slot : Slot) :
    lastTeam (rows ++ [r]) key slot =
      if r.key = key ∧ r.slot.toOption = some slot then some r.teamNumber
      else lastTeam rows key slot := by
  unfold lastTeam
  split_ifs with h <;> simp [List.filter_append, List.filter_cons, h]

theorem lastTeam_eq_none {rows : List Db.TeamMatch} {key : MatchAssemblyKey}
    (h : ∀ r ∈ rows, r.key ≠ key) (slot : Slot) : lastTeam rows key slot = none := by
  have hnil : rows.filter (fun r => r.key = key ∧ r.slot.toOption = some slot) = [] :=
    List.filter_eq_nil_iff.mpr fun r hr => by simp [h r hr]
  rw [lastTeam, hnil]
  rfl

/-- What the map holds after the loop got through `rows`: an entry for exactly
the keys of the rows, each under its own key, holding in every slot the team of
the last row of its key that fills the slot, and that team's data-scouted
answer. -/
structure Assembled (db : MatchesDatabase) (rows : List Db.TeamMatch)
    (assembledMatches : AssembledMatches) : Prop where
  mem_iff : ∀ key, key ∈ assembledMatches ↔ ∃ r ∈ rows, r.key = key
  entry : ∀ key entry, assembledMatches.lookup key = some entry → entry.key = key ∧
    ∀ slot, entry.team slot = (lastTeam rows key slot).getD "" ∧
      (entry.dataScouted.get slot = true ↔
        ∃ teamNumber, lastTeam rows key slot = some teamNumber ∧
          teamHasBeenDataScouted db key teamNumber = .ok true)

@[simp] theorem MatchT.team_update_dataScouted (entry : MatchT) (scouted : ScoutedLevelT)
    (slot : Slot) : ({ entry with dataScouted := scouted } : MatchT).team slot = entry.team slot := by
  cases slot <;> rfl

variable {db : MatchesDatabase} {m m' : AssembledMatches} {r : Db.TeamMatch}

/-- An iteration that gets through has found the row's slot and its team's
data-scouted answer, and stored the updated entry under the row's key. -/
theorem assembleMatch_eq_ok (h : assembleMatch db m r = .ok m') :
    ∃ slot scouted, r.slot = .ok slot ∧ teamHasBeenDataScouted db r.key r.teamNumber = .ok scouted ∧
      m' = m.insert r.key
        (let entry := ((m.lookup r.key).getD (MatchT.ofTeamMatch r)).setTeam r.teamNumber slot
         { entry with dataScouted := entry.dataScouted.set scouted slot }) := by
  unfold assembleMatch at h
  dsimp only at h
  split at h
  · cases h
  · rename_i slot hslot
    split at h
    · cases h
    · rename_i scouted hscouted
      cases h
      exact ⟨slot, scouted, hslot, hscouted, rfl⟩

theorem Assembled.empty (db : MatchesDatabase) : Assembled db [] ∅ where
  mem_iff key := by simp
  entry key entry h := by simp at h

/-- One iteration keeps the map in step with the rows. -/
theorem Assembled.assembleMatch {rows : List Db.TeamMatch} (hinv : Assembled db rows m)
    (h : assembleMatch db m r = .ok m') : Assembled db (rows ++ [r]) m' := by
  obtain ⟨slot, scouted, hslot, hscouted, rfl⟩ := assembleMatch_eq_ok h
  refine ⟨fun key => ?_, fun key entry hl => ?_⟩
  · rw [AList.mem_insert, hinv.mem_iff]
    simp only [List.mem_append, List.mem_singleton]
    constructor
    · rintro (rfl | ⟨r', hr', rfl⟩)
      · exact ⟨r, .inr rfl, rfl⟩
      · exact ⟨r', .inl hr', rfl⟩
    · rintro ⟨r', hr' | rfl, rfl⟩
      · exact .inr ⟨r', hr', rfl⟩
      · exact .inl rfl
  by_cases hk : key = r.key
  · subst hk
    rw [AList.lookup_insert] at hl
    cases hl
    have hold : ((m.lookup r.key).getD (MatchT.ofTeamMatch r)).key = r.key ∧ ∀ slot',
        ((m.lookup r.key).getD (MatchT.ofTeamMatch r)).team slot' =
          (lastTeam rows r.key slot').getD "" ∧
        (((m.lookup r.key).getD (MatchT.ofTeamMatch r)).dataScouted.get slot' = true ↔
          ∃ teamNumber, lastTeam rows r.key slot' = some teamNumber ∧
            teamHasBeenDataScouted db r.key teamNumber = .ok true) := by
      cases hm : m.lookup r.key with
      | some e => exact hinv.entry _ _ hm
      | none =>
          have hno : ∀ r' ∈ rows, r'.key ≠ r.key := fun r' hr' hkey =>
            absurd hm (Option.isSome_iff_ne_none.mp
              (AList.lookup_isSome.mpr ((hinv.mem_iff _).mpr ⟨r', hr', hkey⟩)))
          refine ⟨rfl, fun slot' => ?_⟩
          rw [lastTeam_eq_none hno]
          cases slot' <;> simp [MatchT.ofTeamMatch, MatchT.team, ScoutedLevelT.get]
    refine ⟨(MatchT.key_setTeam _ _ _).trans hold.1, fun slot' => ?_⟩
    rw [lastTeam_append_singleton]
    by_cases hs : slot = slot'
    · subst hs
      simp [hslot, hscouted, Except.toOption]
    · have hne : r.slot.toOption ≠ some slot' := by simp [hslot, hs, Except.toOption]
      simpa [hne, hs] using hold.2 slot'
  · rw [AList.lookup_insert_ne hk] at hl
    obtain ⟨hkey, hslots⟩ := hinv.entry key entry hl
    refine ⟨hkey, fun slot' => ?_⟩
    rw [lastTeam_append_singleton, if_neg fun h => hk h.1.symm]
    exact hslots slot'

/-- A loop that gets through has built the map of its rows. -/
theorem foldlM_assembleMatch_assembled {rows rows' : List Db.TeamMatch} (hinv : Assembled db rows m)
    (h : rows'.foldlM (assembleMatch db) m = .ok m') : Assembled db (rows ++ rows') m' := by
  induction rows' generalizing rows m with
  | nil => cases h; simpa using hinv
  | cons r rows' ih =>
      obtain ⟨m₁, hm₁, hrest⟩ := foldlM_cons_eq_ok.mp h
      simpa using ih (hinv.assembleMatch hm₁) hrest

/-- The map the loop builds from the empty map holds the rows it went over. -/
theorem assembled_of_foldlM {rows : List Db.TeamMatch}
    (h : rows.foldlM (assembleMatch db) ∅ = .ok m) : Assembled db rows m := by
  simpa using foldlM_assembleMatch_assembled (Assembled.empty db) h

/-- A row the loop stops at: its alliance or its position is unknown, or the
data-scouting lookup of its team fails. -/
def Db.TeamMatch.Refused (db : MatchesDatabase) (r : Db.TeamMatch) : Prop :=
  (∃ e, r.slot = .error e) ∨ ∃ e, teamHasBeenDataScouted db r.key r.teamNumber = .error e

theorem assembleMatch_eq_error_iff :
    (∃ err, assembleMatch db m r = .error err) ↔ r.Refused db := by
  unfold assembleMatch Db.TeamMatch.Refused
  dsimp only
  cases r.slot with
  | error e => simp
  | ok slot => cases teamHasBeenDataScouted db r.key r.teamNumber <;> simp

/-- The loop fails exactly when one of its rows is refused, wherever it stands. -/
theorem foldlM_assembleMatch_eq_error_iff {rows : List Db.TeamMatch} :
    (∃ err, rows.foldlM (assembleMatch db) m = .error err) ↔ ∃ r ∈ rows, r.Refused db := by
  induction rows generalizing m with
  | nil => simp [pure, Except.pure]
  | cons r rows ih =>
      cases hstep : assembleMatch db m r with
      | error err =>
          exact iff_of_true ⟨err, by simp [hstep, bind, Except.bind]⟩
            ⟨r, .head _, assembleMatch_eq_error_iff.mp ⟨_, hstep⟩⟩
      | ok m₁ =>
          have hnot : ¬ r.Refused db := fun hr => by
            obtain ⟨_, he⟩ := assembleMatch_eq_error_iff.mpr hr
            rw [he] at hstep
            cases hstep
          simp only [List.foldlM_cons, hstep, bind, Except.bind]
          rw [@ih m₁]
          simp [hnot]

/-! ## The collected entries -/

section Entries

variable {rows : List Db.TeamMatch} (hinv : Assembled db rows m)
include hinv

/-- Every collected entry is the one the map holds under its key. -/
theorem Assembled.lookup_of_mem {entry : MatchT} (he : entry ∈ m.entries.map (·.2)) :
    m.lookup entry.key = some entry := by
  obtain ⟨⟨key, entry'⟩, hmem, rfl⟩ := List.mem_map.mp he
  have hl : m.lookup key = some entry' := AList.mem_lookup_iff.mpr hmem
  rw [(hinv.entry key entry' hl).1]
  exact hl

/-- The keys of the collected entries are the keys of the map. -/
theorem Assembled.map_key_eq_keys : (m.entries.map (·.2)).map MatchT.key = m.keys := by
  rw [List.map_map]
  refine List.map_congr_left fun e he => ?_
  exact (hinv.entry e.1 e.2 (AList.mem_lookup_iff.mpr he)).1

/-- The collected entries hold one entry for each key of a row and no other. -/
theorem Assembled.keys_nodup_mem :
    ((m.entries.map (·.2)).map MatchT.key).Nodup ∧
      ∀ key, key ∈ (m.entries.map (·.2)).map MatchT.key ↔ ∃ r ∈ rows, r.key = key := by
  rw [hinv.map_key_eq_keys]
  exact ⟨m.keys_nodup, fun key => AList.mem_keys.symm.trans (hinv.mem_iff key)⟩

end Entries

end Scouting
