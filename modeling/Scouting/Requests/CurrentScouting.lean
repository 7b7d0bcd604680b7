import Scouting.Go

/-! # Who else is scouting a team

`requestCurrentScoutingHandler` keeps, for every team, when each viewer last
asked about it. A call records its caller under its team at the current clock
reading, sweeps every entry of every team last seen ten seconds or more ago,
and answers with the other viewers left under its team.

For clock readings that never go back, the map holds after every call exactly
the latest sighting of each viewer of each team that is less than ten seconds
old (`ScoutingMap.Tracks`). So a call's answer is the set of the other viewers
that asked about the same team during the last ten seconds, whatever the calls
for other teams were and in whatever order Go ranges over the map.
-/

namespace Scouting

/-- `map[string]time.Time`: when each viewer of one team was last seen, as a
clock reading in nanoseconds. -/
abbrev Viewers := AList (fun _ : String => Int)

/-- `scoutingMap`, the handler's `map[string]map[string]time.Time`. A team the
map does not hold reads as the nil map, which Go reads as empty, so the map is
the function that reads it. -/
abbrev ScoutingMap := String → Viewers

/-- The map that `HandleRequests` creates. -/
def ScoutingMap.empty : ScoutingMap := fun _ => ∅

/-- A `RequestCurrentScouting` message. -/
structure RequestCurrentScouting where
  teamNumber : String

/-- `currentTime.Sub(timeStamp) >= 10*time.Second`: whether the sweep deletes
an entry. -/
def expired (currentTime timeStamp : Int) : Bool :=
  decide (10 * second ≤ timeSub currentTime timeStamp)

/-- The sweep's inner loop over the viewers of one team: it deletes the expired
entries and keeps the others. -/
def sweepViewers (currentTime : Int) (teamMap : Viewers) : Viewers :=
  ⟨teamMap.entries.filter (fun e => !expired currentTime e.2),
    teamMap.nodupKeys.sublist (List.filter_sublist _)⟩

/-- `requestCurrentScoutingHandler.ServeHTTP` for a call of `collectedBy` at the
clock reading `currentTime`: the names of its response and the map it leaves.
The names come in the order of the map's entries; Go ranges over a map in an
unspecified order, which makes the response some permutation of them. -/
def requestCurrentScouting (scoutingMap : ScoutingMap) (collectedBy : String) (currentTime : Int)
    (body : RequestBody RequestCurrentScouting) : Response (List String) × ScoutingMap :=
  match body.parse "RequestCurrentScouting" with
  | .error response => (response, scoutingMap)
  | .ok request =>
      let teamNumber := request.teamNumber
      let scoutingMap := Function.update scoutingMap teamNumber
        ((scoutingMap teamNumber).insert collectedBy currentTime)
      let scoutingMap := fun team => sweepViewers currentTime (scoutingMap team)
      (.ok ((scoutingMap teamNumber).keys.filter (· != collectedBy)), scoutingMap)

/-! ## The abstract view: sightings less than ten seconds old -/

/-- One call whose body parsed: the team it asks about, its caller, and the
clock reading. -/
structure ScoutingCall where
  team : String
  viewer : String
  now : Int

/-- The map after the handler has answered `calls` in order, starting from the
map that `HandleRequests` creates. -/
def scoutingRun (calls : List ScoutingCall) : ScoutingMap :=
  calls.foldl (fun m c => (requestCurrentScouting m c.viewer c.now (.parsed ⟨c.team⟩)).2)
    ScoutingMap.empty

/-- The clock reading of the latest of `calls` in which `viewer` asked about
`team`. -/
def lastSeen (calls : List ScoutingCall) (team viewer : String) : Option Int :=
  ((calls.filter (fun c => c.team == team && c.viewer == viewer)).getLast?).map (·.now)

/-- The map holds, for every team and viewer, the latest sighting of the
viewer if a sweep at `now` keeps it, and nothing else. -/
def ScoutingMap.Tracks (m : ScoutingMap) (calls : List ScoutingCall) (now : Int) : Prop :=
  ∀ team viewer, (m team).lookup viewer = (lastSeen calls team viewer).filter (!expired now ·)

/-! ## The sweep -/

theorem expired_iff (currentTime timeStamp : Int) :
    expired currentTime timeStamp = true ↔ 10 * second ≤ currentTime - timeStamp := by
  simp only [expired, decide_eq_true_eq]
  exact le_timeSub_iff (by unfold second; omega) (by unfold second; omega) _ _

/-- The sweep keeps a viewer's sighting exactly when it has not expired. -/
theorem lookup_sweepViewers (currentTime : Int) (teamMap : Viewers) (viewer : String) :
    (sweepViewers currentTime teamMap).lookup viewer =
      (teamMap.lookup viewer).filter (!expired currentTime ·) := by
  refine Option.ext fun ts => ?_
  rw [Option.mem_filter_iff]
  simp only [AList.lookup]
  rw [List.mem_dlookup_iff (sweepViewers currentTime teamMap).nodupKeys,
    List.mem_dlookup_iff teamMap.nodupKeys]
  simp [sweepViewers]

/-- A sweep at `now` keeps only what an earlier sweep kept and `now` keeps. -/
theorem filter_not_expired_of_le {prev now : Int} (hle : prev ≤ now) (o : Option Int) :
    (o.filter (!expired prev ·)).filter (!expired now ·) = o.filter (!expired now ·) := by
  cases o with
  | none => rfl
  | some ts =>
      by_cases hnow : expired now ts
      · cases hprev : expired prev ts <;> simp [Option.filter, hnow, hprev]
      · have hprev : expired prev ts = false := by
          simp only [Bool.not_eq_true, ← Bool.not_eq_true, expired_iff] at hnow ⊢; omega
        simp [Option.filter, hnow, hprev]

/-! ## One call -/

theorem lastSeen_append_self (calls : List ScoutingCall) (c : ScoutingCall) :
    lastSeen (calls ++ [c]) c.team c.viewer = some c.now := by
  simp [lastSeen, List.filter_append]

theorem lastSeen_append_of_ne {calls : List ScoutingCall} {c : ScoutingCall} {team viewer : String}
    (hc : ¬ (team = c.team ∧ viewer = c.viewer)) :
    lastSeen (calls ++ [c]) team viewer = lastSeen calls team viewer := by
  have hf : (c.team == team && c.viewer == viewer) = false := Bool.eq_false_iff.mpr fun h => by
    simp only [Bool.and_eq_true, beq_iff_eq] at h
    exact hc ⟨h.1.symm, h.2.symm⟩
  simp [lastSeen, List.filter_append, List.filter_cons, hf]

/-- One call at a reading no earlier than the last sweep records its caller
and keeps the map in step with the calls. -/
theorem requestCurrentScouting_tracks {m : ScoutingMap} {calls : List ScoutingCall} {prev : Int}
    {c : ScoutingCall} (hm : m.Tracks calls prev) (hle : prev ≤ c.now) :
    (requestCurrentScouting m c.viewer c.now (.parsed ⟨c.team⟩)).2.Tracks (calls ++ [c]) c.now := by
  intro team viewer
  simp only [requestCurrentScouting, RequestBody.parse, lookup_sweepViewers]
  by_cases hc : team = c.team ∧ viewer = c.viewer
  · obtain ⟨rfl, rfl⟩ := hc
    rw [Function.update_same, AList.lookup_insert, lastSeen_append_self]
  · have hlookup : (Function.update m c.team ((m c.team).insert c.viewer c.now) team).lookup viewer =
        (m team).lookup viewer := by
      by_cases ht : team = c.team
      · subst ht
        rw [Function.update_same, AList.lookup_insert_ne (fun hv => hc ⟨rfl, hv⟩)]
      · rw [Function.update_noteq ht]
    rw [hlookup, hm, lastSeen_append_of_ne hc, filter_not_expired_of_le hle]

/-! ## A run of calls -/

@[simp] theorem scoutingRun_append_singleton (calls : List ScoutingCall) (c : ScoutingCall) :
    scoutingRun (calls ++ [c]) =
      (requestCurrentScouting (scoutingRun calls) c.viewer c.now (.parsed ⟨c.team⟩)).2 := by
  simp only [scoutingRun, List.foldl_append, List.foldl_cons, List.foldl_nil]

/-- After calls in clock order, the map holds the sightings less than ten
seconds older than the last call. -/
theorem scoutingRun_tracks {calls : List ScoutingCall} {c : ScoutingCall}
    (hsorted : (calls ++ [c]).Pairwise (fun a b => a.now ≤ b.now)) :
    (scoutingRun (calls ++ [c])).Tracks (calls ++ [c]) c.now := by
  induction calls using List.reverseRecOn generalizing c with
  | nil =>
      have hempty : ScoutingMap.empty.Tracks [] c.now := fun _ _ => by
        simp [ScoutingMap.empty, lastSeen, AList.lookup_empty]
      exact requestCurrentScouting_tracks hempty (Int.le_refl _)
  | append_singleton calls d ih =>
      have hd : d.now ≤ c.now :=
        (List.pairwise_append.mp hsorted).2.2 d (by simp) c (List.mem_singleton_self c)
      rw [scoutingRun_append_singleton]
      exact requestCurrentScouting_tracks (ih (hsorted.sublist (List.sublist_append_left _ _))) hd

/-! ## The answer -/

/-- For calls in clock order, the latest sighting of a viewer is fresh at `now`
exactly when some sighting is. -/
theorem lastSeen_fresh_iff {calls : List ScoutingCall}
    (hsorted : calls.Pairwise (fun a b => a.now ≤ b.now)) (team viewer : String) (now : Int) :
    ((lastSeen calls team viewer).filter (!expired now ·)).isSome ↔
      ∃ j ∈ calls, j.team = team ∧ j.viewer = viewer ∧ now - j.now < 10 * second := by
  have hmem : ∀ j, j ∈ calls.filter (fun c => c.team == team && c.viewer == viewer) ↔
      j ∈ calls ∧ j.team = team ∧ j.viewer = viewer := by simp
  unfold lastSeen
  cases hlast : (calls.filter (fun c => c.team == team && c.viewer == viewer)).getLast? with
  | none =>
      rw [List.getLast?_eq_none_iff] at hlast
      simp only [Option.map_none', Option.filter, Option.isSome_none, Bool.false_eq_true, false_iff]
      rintro ⟨j, hj, ht, hv, -⟩
      simpa [hlast] using (hmem j).mpr ⟨hj, ht, hv⟩
  | some last =>
      obtain ⟨init, hinit⟩ := List.getLast?_eq_some_iff.mp hlast
      have hsub := hinit ▸ hsorted.sublist (List.filter_sublist _)
      have hmax : ∀ j ∈ init, j.now ≤ last.now := fun j hj =>
        (List.pairwise_append.mp hsub).2.2 j hj last (List.mem_singleton_self _)
      have hlastmem := (hmem last).mp (hinit ▸ List.mem_append_right init (List.mem_singleton_self _))
      simp only [Option.map_some', Option.filter, Bool.not_eq_true']
      constructor
      · intro h
        refine ⟨last, hlastmem.1, hlastmem.2.1, hlastmem.2.2, ?_⟩
        cases he : expired now last.now
        · simpa [← Bool.not_eq_true, expired_iff] using he
        · simp [he] at h
      · rintro ⟨j, hj, ht, hv, hlt⟩
        have hjl : j.now ≤ last.now := by
          have := (hmem j).mpr ⟨hj, ht, hv⟩
          rw [hinit, List.mem_append, List.mem_singleton] at this
          rcases this with hj' | rfl
          · exact hmax j hj'
          · exact Int.le_refl _
        have he : expired now last.now = false := by
          rw [← Bool.not_eq_true, expired_iff]; omega
        simp [he]

/-- The names answering a call, after calls in clock order from the map that
`HandleRequests` creates, in any order Go ranges over the map: no name twice,
and exactly the other viewers that asked about the same team less than ten
seconds before. -/
theorem requestCurrentScouting_names {calls : List ScoutingCall} {c : ScoutingCall}
    {response names : List String}
    (hsorted : (calls ++ [c]).Pairwise (fun a b => a.now ≤ b.now))
    (h : (requestCurrentScouting (scoutingRun calls) c.viewer c.now (.parsed ⟨c.team⟩)).1 =
      .ok response)
    (hnames : names.Perm response) :
    names.Nodup ∧ ∀ w, w ∈ names ↔
      w ≠ c.viewer ∧ ∃ j ∈ calls ++ [c], j.team = c.team ∧ j.viewer = w ∧ c.now - j.now < 10 * second := by
  have hresp : response = ((scoutingRun (calls ++ [c])) c.team).keys.filter (· != c.viewer) := by
    rw [scoutingRun_append_singleton]
    exact (Response.ok.inj h).symm
  have htracks := scoutingRun_tracks hsorted
  subst hresp
  refine ⟨hnames.nodup_iff.mpr ((AList.keys_nodup _).filter _), fun w => ?_⟩
  rw [hnames.mem_iff, List.mem_filter, ← AList.mem_keys, ← AList.lookup_isSome, htracks,
    lastSeen_fresh_iff hsorted, bne_iff_ne, and_comm]

/-- The second call of the handler's unit test: `george` asks about team 971
just after `debug_cli` did, and is told about `debug_cli`. -/
theorem requestCurrentScouting_george :
    ∃ response, (requestCurrentScouting (scoutingRun [⟨"971", "debug_cli", 0⟩]) "george" 0
        (.parsed ⟨"971"⟩)).1 = .ok response ∧ "debug_cli" ∈ response := by
  have h : (requestCurrentScouting (scoutingRun [⟨"971", "debug_cli", 0⟩]) "george" 0
      (.parsed ⟨"971"⟩)).1 = .ok _ := rfl
  refine ⟨_, h, ((requestCurrentScouting_names (c := ⟨"971", "george", 0⟩) (by decide) h
    (List.Perm.refl _)).2 "debug_cli").mpr ⟨by decide, ⟨"971", "debug_cli", 0⟩, by simp, rfl, rfl,
      by decide⟩⟩

end Scouting
