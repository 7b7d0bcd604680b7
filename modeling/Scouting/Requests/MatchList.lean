import Scouting.Requests.AllMatches

/-! # The sorted match list

The comparator orders matches by the index of their level in
`MATCH_TYPE_ORDERING`, then by match number, then by set number, and fails on a
level outside that list. On the entries of the assembly map, whose keys are
distinct, it is a strict total order as soon as every level is known, so any
sort that meets the `SliceSort` contract gives the one increasing list of them,
whatever order Go ranges over the map in. A level outside the list makes the
sort fail exactly when there are two entries or more to compare: a single
entry is never compared.
-/

namespace Scouting

/-- The position of a level in `MATCH_TYPE_ORDERING`. -/
def levelIndex (compLevel : String) : Nat := matchTypeOrdering.indexOf compLevel

/-- The order the comparator decides on distinct keys: by level, match number
and set number, lexicographically. -/
def MatchT.Before (a b : MatchT) : Prop :=
  levelIndex a.compLevel < levelIndex b.compLevel ∨
    (levelIndex a.compLevel = levelIndex b.compLevel ∧
      (a.matchNumber < b.matchNumber ∨ (a.matchNumber = b.matchNumber ∧ a.setNumber < b.setNumber)))

instance : DecidableRel MatchT.Before := fun _ _ => instDecidableOr

theorem MatchT.Before.trans {a b c : MatchT} (hab : a.Before b) (hbc : b.Before c) : a.Before c := by
  unfold MatchT.Before at *; omega

theorem MatchT.Before.asymm {a b : MatchT} (hab : a.Before b) : ¬ b.Before a := by
  unfold MatchT.Before at *; omega

instance : IsAntisymm MatchT MatchT.Before := ⟨fun _ _ hab hba => absurd hba hab.asymm⟩

/-- Two entries with known levels and distinct keys are ordered one way. -/
theorem MatchT.before_or_before {a b : MatchT} (ha : a.compLevel ∈ matchTypeOrdering)
    (hb : b.compLevel ∈ matchTypeOrdering) (hne : a.key ≠ b.key) : a.Before b ∨ b.Before a := by
  have hlevel : levelIndex a.compLevel = levelIndex b.compLevel → a.compLevel = b.compLevel :=
    (List.indexOf_inj ha hb).mp
  unfold MatchT.Before
  by_cases hl : a.compLevel = b.compLevel
  · have hmn : ¬ (a.matchNumber = b.matchNumber ∧ a.setNumber = b.setNumber) := fun ⟨h₁, h₂⟩ =>
      hne (by simp [MatchT.key, h₁, h₂, hl])
    rw [hl]
    omega
  · have := mt hlevel hl
    omega

/-! ## The comparator -/

theorem matchTypeIndex_eq_ok {compLevel : String} (h : compLevel ∈ matchTypeOrdering) :
    matchTypeIndex compLevel = .ok (levelIndex compLevel) := by
  simp only [matchTypeOrdering, List.mem_cons, List.mem_singleton, List.not_mem_nil, or_false] at h
  rcases h with rfl | rfl | rfl | rfl | rfl <;> rfl

theorem matchTypeIndex_eq_error {compLevel : String} (h : compLevel ∉ matchTypeOrdering) :
    matchTypeIndex compLevel = .error ("Comp level " ++ compLevel ++ " not found in sorting list " ++
      sprintList matchTypeOrdering ++ " : " ++
      ("Failed to find comp level " ++ compLevel ++ " in list " ++ sprintList matchTypeOrdering)) := by
  have hnone : matchTypeOrdering.findIdx? (· == compLevel) = none :=
    List.findIdx?_eq_none_iff.mpr fun x hx => by
      simpa using fun hxc : x = compLevel => h (hxc ▸ hx)
  simp only [matchTypeIndex, findIndexInList, hnone]

variable {a b : MatchT}

/-- One step of the comparator's cascade: smaller wins, larger loses, a tie
defers to the rest. -/
theorem ite_lt_gt {α : Type} [LinearOrder α] (x y : α) (r : Bool) :
    (if x < y then true else if x > y then false else r) = (decide (x < y) || (decide (x = y) && r)) := by
  rcases lt_trichotomy x y with h | rfl | h
  · simp [h]
  · simp
  · simp [h, h.not_lt, h.ne']

/-- On known levels the comparator never fails: its answer is the cascade over
level, match number and set number. -/
theorem matchLess_eq_ok_cascade (ha : a.compLevel ∈ matchTypeOrdering)
    (hb : b.compLevel ∈ matchTypeOrdering) :
    matchLess a b = .ok (decide (levelIndex a.compLevel < levelIndex b.compLevel) ||
      (decide (levelIndex a.compLevel = levelIndex b.compLevel) &&
        (decide (a.matchNumber < b.matchNumber) || (decide (a.matchNumber = b.matchNumber) &&
          (decide (a.setNumber < b.setNumber) ||
            (decide (a.setNumber = b.setNumber) && true)))))) := by
  simp only [matchLess, matchTypeIndex_eq_ok ha, matchTypeIndex_eq_ok hb, bind, Except.bind, pure,
    Except.pure, ← ite_lt_gt, apply_ite Except.ok]

/-- On known levels and distinct keys the comparator decides `Before`. -/
theorem matchLess_eq_ok (ha : a.compLevel ∈ matchTypeOrdering) (hb : b.compLevel ∈ matchTypeOrdering)
    (hne : a.key ≠ b.key) : matchLess a b = .ok (decide (a.Before b)) := by
  have hor := MatchT.before_or_before ha hb hne
  rw [matchLess_eq_ok_cascade ha hb]
  unfold MatchT.Before at hor ⊢
  refine congrArg Except.ok (Bool.eq_iff_iff.mpr ?_)
  simp only [Bool.or_eq_true, Bool.and_eq_true, decide_eq_true_eq]
  omega

theorem exists_matchLess_eq_ok (ha : a.compLevel ∈ matchTypeOrdering)
    (hb : b.compLevel ∈ matchTypeOrdering) : ∃ v, matchLess a b = .ok v :=
  ⟨_, matchLess_eq_ok_cascade ha hb⟩

/-- A comparison that succeeds saw two known levels. -/
theorem mem_of_matchLess_eq_ok {v : Bool} (h : matchLess a b = .ok v) :
    a.compLevel ∈ matchTypeOrdering ∧ b.compLevel ∈ matchTypeOrdering := by
  by_contra hn
  rcases not_and_or.mp hn with ha | hb
  · simp [matchLess, matchTypeIndex_eq_error ha, bind, Except.bind] at h
  · by_cases ha : a.compLevel ∈ matchTypeOrdering
    · simp [matchLess, matchTypeIndex_eq_ok ha, matchTypeIndex_eq_error hb, bind, Except.bind] at h
    · simp [matchLess, matchTypeIndex_eq_error ha, bind, Except.bind] at h

/-! ## Sorting the collected entries -/

theorem eq_of_perm_of_length_le_one {α : Type} {l l' : List α} (hlen : l.length ≤ 1)
    (hperm : l'.Perm l) : l' = l := by
  rcases l with _ | ⟨a, _ | ⟨b, t⟩⟩
  · exact hperm.eq_nil
  · exact hperm.eq_singleton
  · simp at hlen

section Sorting

variable (sorter : SliceSort MatchT) {l r : List MatchT}

/-- When two entries or more were sorted, every level was known. -/
theorem compLevel_mem_of_sort (h : sorter.sort matchLess l = .ok r) (hlen : 2 ≤ l.length) :
    ∀ a ∈ l, a.compLevel ∈ matchTypeOrdering := by
  intro a ha
  obtain ⟨b, -, ⟨v, hv⟩ | ⟨v, hv⟩⟩ := sorter.compared matchLess l r h hlen a ha
  · exact (mem_of_matchLess_eq_ok hv).1
  · exact (mem_of_matchLess_eq_ok hv).2

/-- A sort of entries with distinct keys that gets through returns them in
increasing order. -/
theorem sort_matchLess_sorted (hkeys : (l.map MatchT.key).Nodup) (h : sorter.sort matchLess l = .ok r) :
    r.Sorted MatchT.Before := by
  by_cases hlen : l.length ≤ 1
  · rw [sorter.sort_of_length_le_one _ _ hlen] at h
    cases h
    rcases l with _ | ⟨a, _ | ⟨b, t⟩⟩
    · exact List.sorted_nil
    · exact List.sorted_singleton a
    · simp at hlen
  have hlevels := compLevel_mem_of_sort sorter h (by omega)
  have hne : ∀ a ∈ l, ∀ b ∈ l, a ≠ b → a.key ≠ b.key := fun a ha b hb hab hk =>
    hab (List.inj_on_of_nodup_map hkeys ha hb hk)
  exact sorter.sorted matchLess MatchT.Before l r h (List.Nodup.of_map _ hkeys)
    (fun a ha b hb hab => matchLess_eq_ok (hlevels a ha) (hlevels b hb) (hne a ha b hb hab))
    (fun a ha b hb hab => MatchT.before_or_before (hlevels a ha) (hlevels b hb) (hne a ha b hb hab))
    (fun _ _ _ _ _ _ => MatchT.Before.trans)

/-- The sort fails exactly when there are two entries or more and one of them
has a level outside `MATCH_TYPE_ORDERING`. -/
theorem sort_matchLess_eq_error_iff :
    (∃ e, sorter.sort matchLess l = .error e) ↔ 2 ≤ l.length ∧ ∃ a ∈ l, a.compLevel ∉ matchTypeOrdering := by
  constructor
  · rintro ⟨e, he⟩
    constructor
    · by_contra hlen
      rw [sorter.sort_of_length_le_one _ _ (by omega)] at he
      cases he
    · by_contra hall
      push_neg at hall
      obtain ⟨r, hr⟩ := sorter.exists_sort_eq_ok matchLess l fun a ha b hb =>
        exists_matchLess_eq_ok (hall a ha) (hall b hb)
      rw [hr] at he
      cases he
  · rintro ⟨hlen, a, ha, hunknown⟩
    cases h : sorter.sort matchLess l with
    | error e => exact ⟨e, rfl⟩
    | ok r => exact absurd (compLevel_mem_of_sort sorter h hlen a ha) hunknown

/-- Sorting any permutation of entries with distinct keys gives the same answer. -/
theorem sort_matchLess_perm (hkeys : (l.map MatchT.key).Nodup) (h : sorter.sort matchLess l = .ok r)
    {l' : List MatchT} (hperm : l'.Perm l) : sorter.sort matchLess l' = .ok r := by
  by_cases hlen : l.length ≤ 1
  · rw [eq_of_perm_of_length_le_one hlen hperm, h]
  have hlevels := compLevel_mem_of_sort sorter h (by omega)
  have hkeys' : (l'.map MatchT.key).Nodup := ((hperm.map _).nodup_iff).mpr hkeys
  obtain ⟨r', hr'⟩ := sorter.exists_sort_eq_ok matchLess l' fun a ha b hb =>
    exists_matchLess_eq_ok (hlevels a (hperm.subset ha)) (hlevels b (hperm.subset hb))
  have hperm' : r'.Perm r := (sorter.perm_of_sort_eq_ok _ _ _ hr').trans
    (hperm.trans (sorter.perm_of_sort_eq_ok _ _ _ h).symm)
  rw [hr', List.eq_of_perm_of_sorted hperm' (sort_matchLess_sorted sorter hkeys' hr')
    (sort_matchLess_sorted sorter hkeys h)]

end Sorting

/-! ## The handler -/

variable (sorter : SliceSort MatchT) (range : MatchOrder) {db : MatchesDatabase}
  {rows : List Db.TeamMatch} {matchList : List MatchT}

/-- An answer with a match list comes from a parsed body, the rows of the
database, an assembly loop that got through, and a sort of the map's entries
in Go's order that got through. -/
theorem requestAllMatches_eq_ok {body : RequestBody Unit}
    (h : requestAllMatches sorter range db body = .ok matchList) :
    ∃ rows m, body = .parsed () ∧ db.returnMatches = .ok rows ∧
      rows.foldlM (assembleMatch db) ∅ = .ok m ∧
      sorter.sort matchLess (range.order (m.entries.map (·.2))) = .ok matchList := by
  unfold requestAllMatches at h
  cases body with
  | parsed u =>
      cases hrows : db.returnMatches with
      | error err => simp [RequestBody.parse, hrows] at h
      | ok rows =>
          cases hfold : rows.foldlM (assembleMatch db) ∅ with
          | error err => simp [RequestBody.parse, hrows, hfold] at h
          | ok m =>
              cases hsort : sorter.sort matchLess (range.order (m.entries.map (·.2))) with
              | error err => simp [RequestBody.parse, hrows, hfold, hsort] at h
              | ok l =>
                  simp only [RequestBody.parse, hrows, hfold, hsort, Response.ok.injEq] at h
                  exact ⟨rows, m, rfl, rfl, hfold, h ▸ hsort⟩
  | readError err => simp [RequestBody.parse] at h
  | parsePanic value => simp [RequestBody.parse] at h

/-- The entries the handler sorts have distinct keys. -/
theorem keys_nodup_order {m : AssembledMatches} (hinv : Assembled db rows m) :
    ((range.order (m.entries.map (·.2))).map MatchT.key).Nodup :=
  ((range.perm _).map _).nodup_iff.mpr hinv.keys_nodup_mem.1

/-- A successful answer lists the matches in strictly increasing order of level,
match number and set number, and every order in which Go may range over the
map gives the same answer. -/
theorem requestAllMatches_sorted {body : RequestBody Unit}
    (h : requestAllMatches sorter range db body = .ok matchList) :
    matchList.Sorted MatchT.Before ∧
      ∀ range' : MatchOrder, requestAllMatches sorter range' db body = .ok matchList := by
  obtain ⟨rows, m, rfl, hrows, hfold, hsort⟩ := requestAllMatches_eq_ok sorter range h
  have hkeys := keys_nodup_order range (assembled_of_foldlM hfold)
  refine ⟨sort_matchLess_sorted sorter hkeys hsort, fun range' => ?_⟩
  have hsort' := sort_matchLess_perm sorter hkeys hsort ((range'.perm _).trans (range.perm _).symm)
  simp only [requestAllMatches, RequestBody.parse, hrows, hfold, hsort']

/-- Two rows of two qualification matches, the later match first. -/
def twoMatchesDb : MatchesDatabase where
  returnMatches := .ok [⟨2, 1, "qm", "R", 1, "971"⟩, ⟨1, 1, "qm", "B", 2, "254"⟩]
  returnStats2024ForTeam _ _ _ _ _ := .ok []

/-- The handler answers the two rows with match 1 before match 2, each entry
holding the team of its one row in its slot. -/
theorem twoMatchesDb_sorted :
    ∃ matchList, requestAllMatches (insertionSliceSort MatchT) MatchOrder.mapEntries twoMatchesDb
      (.parsed ()) = .ok matchList ∧
      matchList = [{ matchNumber := 1, setNumber := 1, compLevel := "qm", b2 := "254" },
        { matchNumber := 2, setNumber := 1, compLevel := "qm", r1 := "971" }] ∧
      matchList.Sorted MatchT.Before :=
  have h : requestAllMatches (insertionSliceSort MatchT) MatchOrder.mapEntries twoMatchesDb
      (.parsed ()) = .ok _ := rfl
  ⟨_, h, rfl, (requestAllMatches_sorted _ _ h).1⟩

/-! ## When the handler fails -/

theorem positionSlot_eq_error_iff (color : String) (s1 s2 s3 : Slot) (r : Db.TeamMatch) :
    (∃ e, positionSlot color s1 s2 s3 r = .error e) ↔
      ¬ (r.alliancePosition = 1 ∨ r.alliancePosition = 2 ∨ r.alliancePosition = 3) := by
  unfold positionSlot
  split_ifs with h1 h2 h3
  · simp [h1]
  · simp [h1, h2]
  · simp [h1, h2, h3]
  · simp [h1, h2, h3]

theorem slot_eq_error_iff (r : Db.TeamMatch) :
    (∃ e, r.slot = .error e) ↔
      ¬ ((r.alliance = "R" ∨ r.alliance = "B") ∧
        (r.alliancePosition = 1 ∨ r.alliancePosition = 2 ∨ r.alliancePosition = 3)) := by
  unfold Db.TeamMatch.slot
  split_ifs with hR hB
  · simp only [positionSlot_eq_error_iff, hR, true_or, true_and]
  · simp only [positionSlot_eq_error_iff, hB, or_true, true_and]
  · simp [hR, hB]

/-- With lookups that never fail, the loop refuses exactly the rows of an
unknown alliance or position. -/
theorem refused_iff_of_lookup
    (hlookup : ∀ teamNumber matchNumber setNumber compLevel, ∃ stats,
      db.returnStats2024ForTeam teamNumber matchNumber setNumber compLevel "Regular" = .ok stats)
    (r : Db.TeamMatch) : r.Refused db ↔ ∃ e, r.slot = .error e := by
  obtain ⟨stats, hstats⟩ := hlookup r.teamNumber r.key.matchNumber r.key.setNumber r.key.compLevel
  simp [Db.TeamMatch.Refused, teamHasBeenDataScouted, hstats, bind, Except.bind, pure, Except.pure]

theorem two_le_length_iff_of_nodup {α : Type} {l : List α} (h : l.Nodup) :
    2 ≤ l.length ↔ ∃ a ∈ l, ∃ b ∈ l, a ≠ b := by
  rcases l with _ | ⟨a, _ | ⟨b, t⟩⟩
  · simp
  · simp
  · refine iff_of_true (by simp) ⟨a, .head _, b, .tail _ (.head _), fun hab => ?_⟩
    exact (List.nodup_cons.mp h).1 (hab ▸ .head _)

/-- With lookups that never fail, the handler answers with an error exactly when
a row has an unknown alliance or position, or when the rows have two keys or
more and a level outside `MATCH_TYPE_ORDERING`: with a single key the sort
compares nothing, and a level outside the list goes through. -/
theorem requestAllMatches_isError_iff (hrows : db.returnMatches = .ok rows)
    (hlookup : ∀ teamNumber matchNumber setNumber compLevel, ∃ stats,
      db.returnStats2024ForTeam teamNumber matchNumber setNumber compLevel "Regular" = .ok stats) :
    (requestAllMatches sorter range db (.parsed ())).isError ↔
      (∃ r ∈ rows, ¬ ((r.alliance = "R" ∨ r.alliance = "B") ∧
        (r.alliancePosition = 1 ∨ r.alliancePosition = 2 ∨ r.alliancePosition = 3))) ∨
      ((∃ r₁ ∈ rows, ∃ r₂ ∈ rows, r₁.key ≠ r₂.key) ∧
        ∃ r ∈ rows, r.compLevel ∉ matchTypeOrdering) := by
  have hrefused := fun r => (refused_iff_of_lookup hlookup r).trans (slot_eq_error_iff r)
  cases hfold : rows.foldlM (assembleMatch db) ∅ with
  | error err =>
      obtain ⟨r, hr, hre⟩ := foldlM_assembleMatch_eq_error_iff.mp ⟨err, hfold⟩
      simp only [requestAllMatches, RequestBody.parse, hrows, hfold]
      exact iff_of_true rfl (.inl ⟨r, hr, (hrefused r).mp hre⟩)
  | ok m =>
      have hnone : ¬ ∃ r ∈ rows, ¬ ((r.alliance = "R" ∨ r.alliance = "B") ∧
          (r.alliancePosition = 1 ∨ r.alliancePosition = 2 ∨ r.alliancePosition = 3)) :=
        fun ⟨r, hr, hbad⟩ => by
          obtain ⟨_, he⟩ := foldlM_assembleMatch_eq_error_iff.mpr ⟨r, hr, (hrefused r).mpr hbad⟩
          rw [hfold] at he
          cases he
      obtain ⟨hnodup, hmem⟩ := (assembled_of_foldlM hfold).keys_nodup_mem
      have hlhs : (requestAllMatches sorter range db (.parsed ())).isError ↔
          ∃ e, sorter.sort matchLess (range.order (m.entries.map (·.2))) = .error e := by
        simp only [requestAllMatches, RequestBody.parse, hrows, hfold]
        cases sorter.sort matchLess (range.order (m.entries.map (·.2))) <;> simp [Response.isError]
      rw [hlhs, sort_matchLess_eq_error_iff, (range.perm _).length_eq,
        ← List.length_map _ MatchT.key, two_le_length_iff_of_nodup hnodup]
      simp only [hnone, false_or] at hmem ⊢
      refine and_congr ⟨?_, ?_⟩ ⟨?_, ?_⟩
      · rintro ⟨k₁, hk₁, k₂, hk₂, hne⟩
        obtain ⟨r₁, hr₁, rfl⟩ := (hmem k₁).mp hk₁
        obtain ⟨r₂, hr₂, rfl⟩ := (hmem k₂).mp hk₂
        exact ⟨r₁, hr₁, r₂, hr₂, hne⟩
      · rintro ⟨r₁, hr₁, r₂, hr₂, hne⟩
        exact ⟨r₁.key, (hmem _).mpr ⟨r₁, hr₁, rfl⟩, r₂.key, (hmem _).mpr ⟨r₂, hr₂, rfl⟩, hne⟩
      · rintro ⟨a, ha, hunknown⟩
        obtain ⟨r, hr, hkey⟩ := (hmem a.key).mp (List.mem_map_of_mem _ ((range.perm _).subset ha))
        exact ⟨r, hr, (show r.compLevel = a.compLevel from congrArg MatchAssemblyKey.compLevel hkey) ▸
          hunknown⟩
      · rintro ⟨r, hr, hunknown⟩
        obtain ⟨a, ha, hkey⟩ := List.mem_map.mp ((hmem r.key).mpr ⟨r, hr, rfl⟩)
        exact ⟨a, (range.perm _).mem_iff.mpr ha,
          (show a.compLevel = r.compLevel from congrArg MatchAssemblyKey.compLevel hkey) ▸ hunknown⟩

/-- A single row of a quarterfinal, a level outside `MATCH_TYPE_ORDERING`. -/
def quarterfinalDb : MatchesDatabase where
  returnMatches := .ok [⟨1, 1, "quarterfinal", "R", 1, "971"⟩]
  returnStats2024ForTeam _ _ _ _ _ := .ok []

/-- The quarterfinal is answered, level and all: its single entry is never
compared. -/
theorem requestAllMatches_quarterfinal :
    requestAllMatches (insertionSliceSort MatchT) MatchOrder.mapEntries quarterfinalDb (.parsed ()) =
      .ok [{ matchNumber := 1, setNumber := 1, compLevel := "quarterfinal", r1 := "971" }] :=
  rfl

/-- The quarterfinal row beside a qualification row: two keys, one of them of a
level outside `MATCH_TYPE_ORDERING`. -/
def quarterfinalAndQualsDb : MatchesDatabase where
  returnMatches := .ok [⟨1, 1, "quarterfinal", "R", 1, "971"⟩, ⟨1, 1, "qm", "B", 2, "254"⟩]
  returnStats2024ForTeam _ _ _ _ _ := .ok []

/-- The quarterfinal alone is answered; beside a second key it makes the
handler fail, since the two keys are compared. -/
theorem quarterfinal_isError :
    (requestAllMatches (insertionSliceSort MatchT) MatchOrder.mapEntries quarterfinalDb
        (.parsed ())).isError = false ∧
      (requestAllMatches (insertionSliceSort MatchT) MatchOrder.mapEntries quarterfinalAndQualsDb
        (.parsed ())).isError = true := by
  have hone := requestAllMatches_isError_iff (insertionSliceSort MatchT) MatchOrder.mapEntries
    (show quarterfinalDb.returnMatches = .ok [⟨1, 1, "quarterfinal", "R", 1, "971"⟩] from rfl)
    fun _ _ _ _ => ⟨[], rfl⟩
  have htwo := requestAllMatches_isError_iff (insertionSliceSort MatchT) MatchOrder.mapEntries
    (show quarterfinalAndQualsDb.returnMatches =
      .ok [⟨1, 1, "quarterfinal", "R", 1, "971"⟩, ⟨1, 1, "qm", "B", 2, "254"⟩] from rfl)
    fun _ _ _ _ => ⟨[], rfl⟩
  exact ⟨by rw [Bool.eq_false_iff, ne_eq, hone]; decide, by rw [htwo]; decide⟩

/-! ## What the answer holds -/

theorem teamHasBeenDataScouted_eq_ok_true {key : MatchAssemblyKey} {teamNumber : String} :
    teamHasBeenDataScouted db key teamNumber = .ok true ↔ ∃ stats,
      db.returnStats2024ForTeam teamNumber key.matchNumber key.setNumber key.compLevel "Regular" =
        .ok stats ∧ stats ≠ [] := by
  unfold teamHasBeenDataScouted
  cases db.returnStats2024ForTeam teamNumber key.matchNumber key.setNumber key.compLevel "Regular" <;>
    simp [bind, Except.bind, pure, Except.pure, List.length_pos]

/-- An entry is its key, its six teams and its six flags. -/
theorem MatchT.ext_slots {e₁ e₂ : MatchT} (hkey : e₁.key = e₂.key)
    (hteam : ∀ slot, e₁.team slot = e₂.team slot)
    (hscouted : ∀ slot, e₁.dataScouted.get slot = e₂.dataScouted.get slot) : e₁ = e₂ := by
  obtain ⟨_, _, _, _, _, _, _, _, _, ⟨_, _, _, _, _, _⟩⟩ := e₁
  obtain ⟨_, _, _, _, _, _, _, _, _, ⟨_, _, _, _, _, _⟩⟩ := e₂
  simp only [MatchT.key, MatchAssemblyKey.mk.injEq] at hkey
  obtain ⟨rfl, rfl, rfl⟩ := hkey
  simp only [MatchT.mk.injEq, ScoutedLevelT.mk.injEq, true_and]
  exact ⟨hteam .r1, hteam .r2, hteam .r3, hteam .b1, hteam .b2, hteam .b3, hscouted .r1,
    hscouted .r2, hscouted .r3, hscouted .b1, hscouted .b2, hscouted .b3⟩

theorem length_le_one_of_nodup_map {α β : Type} {f : α → β} {c : β} {l : List α}
    (h : (l.map f).Nodup) (hc : ∀ x ∈ l, f x = c) : l.length ≤ 1 := by
  rcases l with _ | ⟨a, _ | ⟨b, t⟩⟩
  · simp
  · simp
  · have hab : f a = f b := (hc a (.head _)).trans (hc b (.tail _ (.head _))).symm
    exact absurd (List.mem_cons.mpr (.inl hab)) (List.nodup_cons.mp h).1

/-- When no two rows share a key and a slot, the last row of a key and slot is
the only one, in whatever order the rows come. -/
theorem lastTeam_perm {rows' : List Db.TeamMatch} (hperm : rows'.Perm rows)
    (huniq : (rows.map fun r => (r.key, r.slot.toOption)).Nodup) (key : MatchAssemblyKey)
    (slot : Slot) : lastTeam rows' key slot = lastTeam rows key slot := by
  unfold lastTeam
  have hone : (rows.filter fun r => r.key = key ∧ r.slot.toOption = some slot).length ≤ 1 :=
    length_le_one_of_nodup_map (huniq.sublist ((List.filter_sublist _).map _)) fun r hr => by
      obtain ⟨hk, hs⟩ := of_decide_eq_true (List.mem_filter.mp hr).2
      rw [hk, hs]
  rw [eq_of_perm_of_length_le_one hone (hperm.filter _)]

/-- Whether the assembly fails does not depend on the order of the rows. -/
theorem exists_foldlM_assembleMatch_eq_ok_of_perm {rows' : List Db.TeamMatch}
    {m : AssembledMatches} (hperm : rows'.Perm rows)
    (hfold : rows.foldlM (assembleMatch db) ∅ = .ok m) :
    ∃ m', rows'.foldlM (assembleMatch db) ∅ = .ok m' := by
  cases hf : rows'.foldlM (assembleMatch db) ∅ with
  | ok m' => exact ⟨m', rfl⟩
  | error err =>
      obtain ⟨r, hr, hre⟩ := foldlM_assembleMatch_eq_error_iff.mp ⟨err, hf⟩
      obtain ⟨_, he⟩ := foldlM_assembleMatch_eq_error_iff.mpr ⟨r, hperm.subset hr, hre⟩
      rw [hfold] at he
      cases he

/-- Two maps built from rows of the same keys and the same last teams hold the
same entries. -/
theorem Assembled.mem_of_mem {m m' : AssembledMatches} {rows' : List Db.TeamMatch}
    (h₁ : Assembled db rows m) (h₂ : Assembled db rows' m')
    (hkeys : ∀ key, (∃ r ∈ rows, r.key = key) → ∃ r ∈ rows', r.key = key)
    (hlast : ∀ key slot, lastTeam rows key slot = lastTeam rows' key slot) {entry : MatchT}
    (he : entry ∈ m.entries.map (·.2)) : entry ∈ m'.entries.map (·.2) := by
  have hl := h₁.lookup_of_mem he
  have hmem : entry.key ∈ m' :=
    (h₂.mem_iff _).mpr (hkeys _ ((h₁.mem_iff _).mp (AList.lookup_isSome.mp (by rw [hl]; rfl))))
  obtain ⟨entry', hl'⟩ := Option.isSome_iff_exists.mp (AList.lookup_isSome.mpr hmem)
  obtain ⟨hkey, hslots⟩ := h₁.entry _ _ hl
  obtain ⟨hkey', hslots'⟩ := h₂.entry _ _ hl'
  have heq : entry' = entry := MatchT.ext_slots hkey' (fun slot => by
      rw [(hslots' slot).1, (hslots slot).1, hlast]) fun slot =>
    Bool.eq_iff_iff.mpr (((hslots' slot).2.trans (by rw [hlast])).trans (hslots slot).2.symm)
  exact List.mem_map.mpr ⟨⟨_, entry'⟩, AList.mem_lookup_iff.mp hl', heq⟩

/-- A successful answer holds one entry for each key of the rows and no other.
Each slot of an entry holds the team of the last row of its key that fills the
slot, or "" when none does, and the data-scouted flag of that team: whether the
database holds stats of it in that match. When no two rows share a key and a
slot, the rows in any order, ranged over in any order, give the same answer. -/
theorem requestAllMatches_entries (hrows : db.returnMatches = .ok rows)
    (h : requestAllMatches sorter range db (.parsed ()) = .ok matchList) :
    (matchList.map MatchT.key).Nodup ∧
      (∀ key, key ∈ matchList.map MatchT.key ↔ ∃ r ∈ rows, r.key = key) ∧
      (∀ entry ∈ matchList, ∀ slot, entry.team slot = (lastTeam rows entry.key slot).getD "" ∧
        (entry.dataScouted.get slot = true ↔ ∃ teamNumber stats,
          lastTeam rows entry.key slot = some teamNumber ∧
          db.returnStats2024ForTeam teamNumber entry.matchNumber entry.setNumber entry.compLevel
            "Regular" = .ok stats ∧ stats ≠ [])) ∧
      ∀ rows', rows'.Perm rows → (rows.map fun r => (r.key, r.slot.toOption)).Nodup →
        ∀ range' : MatchOrder,
          requestAllMatches sorter range' { db with returnMatches := .ok rows' } (.parsed ()) =
            .ok matchList := by
  obtain ⟨rows₀, m, -, hrows₀, hfold, hsort⟩ := requestAllMatches_eq_ok sorter range h
  rw [hrows, Except.ok.injEq] at hrows₀
  subst hrows₀
  have hinv := assembled_of_foldlM hfold
  obtain ⟨hnodup, hmem⟩ := hinv.keys_nodup_mem
  have hperm : matchList.Perm (m.entries.map (·.2)) :=
    (sorter.perm_of_sort_eq_ok _ _ _ hsort).trans (range.perm _)
  refine ⟨(hperm.map _).nodup_iff.mpr hnodup, fun key => (hperm.map _).mem_iff.trans (hmem key),
    fun entry he slot => ?_, fun rows' hperm' huniq range' => ?_⟩
  · obtain ⟨-, hslots⟩ := hinv.entry _ _ (hinv.lookup_of_mem (hperm.subset he))
    refine ⟨(hslots slot).1, (hslots slot).2.trans ⟨?_, ?_⟩⟩
    · rintro ⟨teamNumber, ht, hscouted⟩
      obtain ⟨stats, hstats, hne⟩ := teamHasBeenDataScouted_eq_ok_true.mp hscouted
      exact ⟨teamNumber, stats, ht, hstats, hne⟩
    · rintro ⟨teamNumber, stats, ht, hstats, hne⟩
      exact ⟨teamNumber, ht, teamHasBeenDataScouted_eq_ok_true.mpr ⟨stats, hstats, hne⟩⟩
  · obtain ⟨m', hm'⟩ := exists_foldlM_assembleMatch_eq_ok_of_perm hperm' hfold
    have hinv' := assembled_of_foldlM hm'
    have hlast := lastTeam_perm hperm' huniq
    have hvalues : (m'.entries.map (·.2)).Perm (m.entries.map (·.2)) :=
      (List.perm_ext_iff_of_nodup (List.Nodup.of_map _ hinv'.keys_nodup_mem.1)
        (List.Nodup.of_map _ hnodup)).mpr fun _ =>
        ⟨hinv'.mem_of_mem hinv (fun _ ⟨r, hr, hk⟩ => ⟨r, hperm'.subset hr, hk⟩) hlast,
          hinv.mem_of_mem hinv' (fun _ ⟨r, hr, hk⟩ => ⟨r, hperm'.symm.subset hr, hk⟩)
            fun key slot => (hlast key slot).symm⟩
    have hsort' := sort_matchLess_perm sorter (keys_nodup_order range hinv) hsort
      ((range'.perm _).trans (hvalues.trans (range.perm _).symm))
    have hdb : assembleMatch { db with returnMatches := .ok rows' } = assembleMatch db := rfl
    simp only [requestAllMatches, RequestBody.parse, hdb, hm', hsort']

/-- The handler answers the two rows with one entry for each of their two keys. -/
theorem twoMatchesDb_entries :
    ∃ matchList, requestAllMatches (insertionSliceSort MatchT) MatchOrder.mapEntries twoMatchesDb
      (.parsed ()) = .ok matchList ∧
      matchList = [{ matchNumber := 1, setNumber := 1, compLevel := "qm", b2 := "254" },
        { matchNumber := 2, setNumber := 1, compLevel := "qm", r1 := "971" }] ∧
      (matchList.map MatchT.key).Nodup :=
  have h : requestAllMatches (insertionSliceSort MatchT) MatchOrder.mapEntries twoMatchesDb
      (.parsed ()) = .ok _ := rfl
  ⟨_, h, rfl,
    (requestAllMatches_entries _ _ (show twoMatchesDb.returnMatches = .ok _ from rfl) h).1⟩

end Scouting
