import Scouting.Requests.Convert

/-! # What the reducer writes into each field

Every field of the row follows one of four patterns over a successful run of
the loop: an `int32` sum over the actions (the placement counters and the
penalties), the value of the last action of one kind (the starting quadrant,
the trap and spotlight flags), a flag that one action of a kind sets and no
action clears (mobility, robot death, no-show, the three stage flags), or a
field the loop never writes (the row's identity). Each pattern is one step
lemma and one run lemma.
-/

namespace Scouting

namespace Action2024

/-- The score type and auto flag of a `PlaceNoteAction`. -/
def placement? (a : Action2024) : Option (ScoreType × Bool) :=
  match a.actionTaken with
  | some (.placeNoteAction scoreType auto) => some (scoreType, auto)
  | _ => none

/-- Whether the action is a `PlaceNoteAction`. -/
def isPlaceNote (a : Action2024) : Bool := a.placement?.isSome

/-- The counter a placement increments, `none` for any other action and for an
unknown combination. -/
def placeCounter? (a : Action2024) : Option Counter :=
  a.placement?.bind fun p => placeCounter p.1 p.2

/-- The penalties of a `PenaltyAction`. -/
def penalties? (a : Action2024) : Option Int :=
  match a.actionTaken with
  | some (.penaltyAction penalties) => some penalties
  | _ => none

/-- The position of a `StartMatchAction`. -/
def position? (a : Action2024) : Option Int :=
  match a.actionTaken with
  | some (.startMatchAction position) => some position
  | _ => none

/-- The stage result, trap flag and spotlight flag of an `EndMatchAction`. -/
def endMatch? (a : Action2024) : Option (StageType × Bool × Bool) :=
  match a.actionTaken with
  | some (.endMatchAction stageType trapNote spotlight) => some (stageType, trapNote, spotlight)
  | _ => none

end Action2024

variable {s s' : ConvertState} {a : Action2024}

/-! ## One iteration -/

theorem convertAction_eq_ok :
    convertAction s a = .ok s' ↔ ∃ t, a.actionTaken = some t ∧ s.takeAction a.timestamp t = .ok s' := by
  unfold convertAction
  cases a.actionTaken <;> simp [throw, throwThe, MonadExceptOf.throw]

/-- A successful iteration adds one to exactly the counter its placement
classifies into, as long as the counter was a wrapped `int32` value. -/
theorem convertAction_counter (h : convertAction s a = .ok s') (c : Counter) :
    s'.stat.counter c = if a.placeCounter? = some c then int32 (s.stat.counter c + 1)
      else s.stat.counter c := by
  obtain ⟨t, ht, h⟩ := convertAction_eq_ok.mp h
  simp only [Action2024.placeCounter?, Action2024.placement?, ht]
  cases t with
  | placeNoteAction st au =>
      obtain ⟨-, c', hc', rfl⟩ := takeAction_place_eq_ok.mp h
      by_cases hc : c' = c <;> simp [hc', hc]
  | endMatchAction g =>
      cases h; cases g <;> cases c <;> rfl
  | mobilityAction m => cases h; cases m <;> cases c <;> rfl
  | _ => cases h; cases c <;> rfl

theorem convertAction_penalties (h : convertAction s a = .ok s') :
    s'.stat.penalties = match a.penalties? with
      | some p => int32 (s.stat.penalties + p)
      | none => s.stat.penalties := by
  obtain ⟨t, ht, h⟩ := convertAction_eq_ok.mp h
  simp only [Action2024.penalties?, ht]
  cases t with
  | placeNoteAction st au => obtain ⟨-, c, -, rfl⟩ := takeAction_place_eq_ok.mp h; cases c <;> rfl
  | endMatchAction g => cases h; cases g <;> rfl
  | mobilityAction m => cases h; cases m <;> rfl
  | _ => cases h; rfl

theorem convertAction_startingQuadrant (h : convertAction s a = .ok s') :
    s'.stat.startingQuadrant = a.position?.getD s.stat.startingQuadrant := by
  obtain ⟨t, ht, h⟩ := convertAction_eq_ok.mp h
  simp only [Action2024.position?, ht]
  cases t with
  | placeNoteAction st au => obtain ⟨-, c, -, rfl⟩ := takeAction_place_eq_ok.mp h; cases c <;> rfl
  | endMatchAction g => cases h; cases g <;> rfl
  | mobilityAction m => cases h; cases m <;> rfl
  | _ => cases h; rfl

/-- A successful iteration sets the mobility, robot-death and no-show flags on
their actions and clears none of them. -/
theorem convertAction_flags (h : convertAction s a = .ok s') :
    s'.stat.mobilityAuto = (s.stat.mobilityAuto || a.actionTaken = some (.mobilityAction true)) ∧
      s'.stat.robotDied = (s.stat.robotDied || a.actionTaken = some .robotDeathAction) ∧
      s'.stat.noShow = (s.stat.noShow || a.actionTaken = some .noShowAction) := by
  obtain ⟨t, ht, h⟩ := convertAction_eq_ok.mp h
  simp only [ht]
  cases t with
  | placeNoteAction st au =>
      obtain ⟨-, c, -, rfl⟩ := takeAction_place_eq_ok.mp h; simp
  | endMatchAction g => cases h; cases g <;> simp
  | mobilityAction m => cases h; cases m <;> simp
  | _ => cases h; simp

/-- A successful iteration sets the stage flag of an end-of-match result it
records, clears no stage flag, and overwrites the trap and spotlight flags. -/
theorem convertAction_endMatch (h : convertAction s a = .ok s') :
    (∀ g, g ≠ .other →
      s'.stat.stageFlag g = (s.stat.stageFlag g || (a.endMatch?.map (·.1)) = some g)) ∧
      s'.stat.trapNote = ((a.endMatch?.map (·.2.1)).getD s.stat.trapNote) ∧
      s'.stat.spotlight = ((a.endMatch?.map (·.2.2)).getD s.stat.spotlight) := by
  obtain ⟨t, ht, h⟩ := convertAction_eq_ok.mp h
  simp only [Action2024.endMatch?, ht]
  cases t with
  | placeNoteAction st au =>
      obtain ⟨-, c, -, rfl⟩ := takeAction_place_eq_ok.mp h
      refine ⟨fun g _ => ?_, ?_, ?_⟩ <;>
        simp only [place_stat, Db.Stats2024.bump_stageFlag, Db.Stats2024.bump_trapNote,
          Db.Stats2024.bump_spotlight, Option.map_none', Option.getD_none, reduceCtorEq,
          decide_False, Bool.or_false]
  | endMatchAction g' tr sp =>
      cases h
      refine ⟨fun g hg => ?_, rfl, rfl⟩
      cases g' <;> cases g <;> first
        | exact absurd rfl hg
        | simp only [Db.Stats2024.stageFlag, Option.map_some', Option.some.injEq, reduceCtorEq,
            decide_True, decide_False, Bool.or_true, Bool.or_false]
  | mobilityAction m =>
      cases h
      refine ⟨fun g _ => ?_, ?_, ?_⟩ <;> cases m <;> (try cases g) <;>
        simp only [Db.Stats2024.stageFlag, Option.map_none', Option.getD_none, reduceCtorEq,
          decide_False, Bool.or_false, if_true, if_false, Bool.false_eq_true]
  | _ =>
      cases h
      refine ⟨fun g _ => ?_, rfl, rfl⟩
      cases g <;> simp only [Db.Stats2024.stageFlag, Option.map_none', reduceCtorEq, decide_False,
        Bool.or_false]

/-- A placement that gets through an iteration is classified. -/
theorem convertAction_placeCounter (h : convertAction s a = .ok s') (hp : a.isPlaceNote) :
    a.placeCounter?.isSome := by
  obtain ⟨t, ht, h⟩ := convertAction_eq_ok.mp h
  simp only [Action2024.isPlaceNote, Action2024.placeCounter?, Action2024.placement?, ht] at hp ⊢
  cases t with
  | placeNoteAction st au =>
      obtain ⟨-, c, hc, -⟩ := takeAction_place_eq_ok.mp h
      simp [hc]
  | _ => simp at hp

theorem convertAction_identity (h : convertAction s a = .ok s') :
    s'.stat.identity = s.stat.identity := by
  obtain ⟨t, -, h⟩ := convertAction_eq_ok.mp h
  cases t with
  | placeNoteAction st au => obtain ⟨-, c, -, rfl⟩ := takeAction_place_eq_ok.mp h; simp
  | endMatchAction g => cases h; cases g <;> rfl
  | mobilityAction m => cases h; cases m <;> rfl
  | _ => cases h; rfl

/-! ## A whole run of the loop -/

variable {l : List Action2024}

/-- An `int32` field that every iteration keeps or advances by a wrapped
addition ends as the wrapped sum of the additions. -/
theorem foldlM_int32_sum (get : ConvertState → Int) (inc : Action2024 → Option Int)
    (hstep : ∀ {s a s'}, convertAction s a = .ok s' →
      get s' = match inc a with | some d => int32 (get s + d) | none => get s)
    (h : l.foldlM convertAction s = .ok s') (hs : int32 (get s) = get s) :
    get s' = int32 (get s + (l.filterMap inc).sum) := by
  induction l generalizing s with
  | nil => cases h; simp [hs]
  | cons a l ih =>
      obtain ⟨m, hm, hrest⟩ := foldlM_cons_eq_ok.mp h
      have hget := hstep hm
      cases hinc : inc a with
      | none =>
          rw [hinc] at hget
          rw [ih hrest (hget ▸ hs), hget, List.filterMap_cons_none hinc]
      | some d =>
          rw [hinc] at hget
          rw [ih hrest (by rw [hget, int32_int32]), hget, int32_add_int32,
            List.filterMap_cons_some hinc, List.sum_cons, Int.add_assoc]

theorem foldl_or_any {α : Type} (p : α → Bool) (l : List α) (b : Bool) :
    l.foldl (fun b a => b || p a) b = (b || l.any p) := by
  induction l generalizing b with
  | nil => simp
  | cons a l ih => simp [ih, Bool.or_assoc]

theorem foldl_getD_getLast? {α β : Type} (f : α → Option β) (l : List α) (b : β) :
    l.foldl (fun b a => (f a).getD b) b = ((l.filterMap f).getLast?).getD b := by
  induction l generalizing b with
  | nil => rfl
  | cons a l ih => cases h : f a <;> simp [ih, h, List.getLast?_cons]

theorem filterMap_ite_sum {α : Type} (p : α → Prop) [DecidablePred p] (l : List α) :
    (l.filterMap fun a => if p a then some (1 : Int) else none).sum = l.countP (p ·) := by
  induction l with
  | nil => rfl
  | cons a l ih =>
      by_cases hp : p a <;> simp [hp, ih, List.countP_cons]
      omega

/-! ## The row the reducer returns -/

section Result

variable {msg : Submit2024Actions} {stat : Db.Stats2024}

@[simp] theorem toStat_counter (s : ConvertState) (c : Counter) :
    s.toStat.counter c = s.stat.counter c := by
  cases c <;> rfl

/-- The reducer copies the message's identity into the row and leaves
`CollectedBy` empty. -/
theorem convertActionsToStat2024_identity (h : convertActionsToStat2024 msg = .ok stat) :
    stat.identity = (msg.compType, msg.teamNumber, msg.matchNumber, msg.setNumber, msg.compLevel, "") := by
  obtain ⟨s, hs, rfl⟩ := convertActionsToStat2024_eq_ok.mp h
  exact foldlM_eq_ok_map (fun s => s.stat.identity) (fun v _ => v)
    (fun _ _ _ hstep => convertAction_identity hstep) hs |>.trans (List.foldl_fixed' (fun _ => rfl) _)

/-- Each placement counter is the number of placements classified into it. -/
theorem convertActionsToStat2024_counter (h : convertActionsToStat2024 msg = .ok stat) (c : Counter) :
    stat.counter c = msg.actionsList.countP (·.placeCounter? = some c) := by
  obtain ⟨s, hs, rfl⟩ := convertActionsToStat2024_eq_ok.mp h
  have hrun := foldlM_int32_sum (fun s => s.stat.counter c)
    (fun a => if a.placeCounter? = some c then some 1 else none)
    (fun hstep => by dsimp only; rw [convertAction_counter hstep]; split <;> simp_all) hs
    (by cases c <;> rfl)
  have hcount : msg.actionsList.countP (·.placeCounter? = some c) < 2 ^ 31 :=
    Nat.lt_of_le_of_lt (List.countP_le_length _) (msg.actionsList_length_lt.trans (by decide))
  have hzero : (ConvertState.initial msg).stat.counter c = 0 := by cases c <;> rfl
  dsimp only at hrun
  rw [toStat_counter, hrun, filterMap_ite_sum, hzero, Int.zero_add]
  exact int32_of_range (by omega) (by omega)

theorem convertActionsToStat2024_penalties (h : convertActionsToStat2024 msg = .ok stat) :
    stat.penalties = int32 (msg.actionsList.filterMap Action2024.penalties?).sum := by
  obtain ⟨s, hs, rfl⟩ := convertActionsToStat2024_eq_ok.mp h
  have hrun := foldlM_int32_sum (fun s => s.stat.penalties) Action2024.penalties?
    (fun hstep => convertAction_penalties hstep) hs rfl
  simpa [ConvertState.toStat, ConvertState.initial, initialStat] using hrun

theorem convertActionsToStat2024_startingQuadrant (h : convertActionsToStat2024 msg = .ok stat) :
    stat.startingQuadrant = ((msg.actionsList.filterMap Action2024.position?).getLast?).getD 0 := by
  obtain ⟨s, hs, rfl⟩ := convertActionsToStat2024_eq_ok.mp h
  rw [← foldl_getD_getLast?]
  exact foldlM_eq_ok_map (fun s => s.stat.startingQuadrant) (fun v a => a.position?.getD v)
    (fun _ _ _ => convertAction_startingQuadrant) hs

/-- A flag that an iteration sets on actions satisfying `p` and never clears
holds after a run exactly when it held before or some action satisfied `p`. -/
theorem foldlM_sticky (get : ConvertState → Bool) (p : Action2024 → Prop) [DecidablePred p]
    (hstep : ∀ {s a s'}, convertAction s a = .ok s' → get s' = (get s || decide (p a)))
    {l : List Action2024} {s s' : ConvertState} (h : l.foldlM convertAction s = .ok s') :
    get s' = true ↔ get s = true ∨ ∃ a ∈ l, p a := by
  rw [foldlM_eq_ok_map get (fun b a => b || decide (p a)) (fun _ _ _ => hstep) h, foldl_or_any]
  simp

theorem convertActionsToStat2024_flags (h : convertActionsToStat2024 msg = .ok stat) :
    (stat.mobilityAuto ↔ ∃ a ∈ msg.actionsList, a.actionTaken = some (.mobilityAction true)) ∧
      (stat.robotDied ↔ ∃ a ∈ msg.actionsList, a.actionTaken = some .robotDeathAction) ∧
      (stat.noShow ↔ ∃ a ∈ msg.actionsList, a.actionTaken = some .noShowAction) := by
  obtain ⟨s, hs, rfl⟩ := convertActionsToStat2024_eq_ok.mp h
  refine ⟨?_, ?_, ?_⟩
  · simpa [ConvertState.toStat, ConvertState.initial, initialStat] using foldlM_sticky (·.stat.mobilityAuto) _
      (fun hstep => (convertAction_flags hstep).1) hs
  · simpa [ConvertState.toStat, ConvertState.initial, initialStat] using foldlM_sticky (·.stat.robotDied) _
      (fun hstep => (convertAction_flags hstep).2.1) hs
  · simpa [ConvertState.toStat, ConvertState.initial, initialStat] using foldlM_sticky (·.stat.noShow) _
      (fun hstep => (convertAction_flags hstep).2.2) hs

/-- The score type and auto flag combinations the classification sends to a
counter. -/
def Counter.combinations : Counter → List (ScoreType × Bool)
  | .ampAuto => [(.kAMP, true)]
  | .amp => [(.kAMP, false)]
  | .speakerAuto => [(.kSPEAKER, true)]
  | .speaker => [(.kSPEAKER, false)]
  | .speakerAmplified => [(.kSPEAKER_AMPLIFIED, false)]
  | .notesDroppedAuto => [(.kDROPPED, true)]
  | .notesDropped => [(.kDROPPED, false)]
  | .shuttled => [(.kSHUTTLED, true), (.kSHUTTLED, false)]
  | .outOfField => [(.kOUT_OF_FIELD, true), (.kOUT_OF_FIELD, false)]

theorem placeCounter_eq_some_iff (st : ScoreType) (au : Bool) (c : Counter) :
    placeCounter st au = some c ↔ (st, au) ∈ c.combinations := by
  constructor
  · cases st <;> cases au <;> rintro ⟨⟩ <;> decide
  · intro hmem
    cases c <;> simp only [Counter.combinations, List.mem_cons, List.mem_singleton, Prod.mk.injEq,
      List.not_mem_nil, or_false] at hmem <;>
      first
      | (rcases hmem with ⟨rfl, rfl⟩ | ⟨rfl, rfl⟩ <;> rfl)
      | (obtain ⟨rfl, rfl⟩ := hmem; rfl)

theorem placeCounter?_eq_some_iff (a : Action2024) (c : Counter) :
    a.placeCounter? = some c ↔ ∃ p ∈ c.combinations, a.placement? = some p := by
  simp only [Action2024.placeCounter?, Option.bind_eq_some, placeCounter_eq_some_iff]
  exact ⟨fun ⟨p, hp, hc⟩ => ⟨p, hc, hp⟩, fun ⟨p, hc, hp⟩ => ⟨p, hp, hc⟩⟩

/-- When every placement is classified, the nine counts add up to the number of
placements. -/
theorem countP_placeCounter_sum (l : List Action2024)
    (hl : ∀ a ∈ l, a.isPlaceNote → a.placeCounter?.isSome) :
    l.countP (·.placeCounter? = some .ampAuto) + l.countP (·.placeCounter? = some .amp) +
      l.countP (·.placeCounter? = some .speakerAuto) + l.countP (·.placeCounter? = some .speaker) +
      l.countP (·.placeCounter? = some .speakerAmplified) +
      l.countP (·.placeCounter? = some .notesDroppedAuto) +
      l.countP (·.placeCounter? = some .notesDropped) + l.countP (·.placeCounter? = some .shuttled) +
      l.countP (·.placeCounter? = some .outOfField) = l.countP (·.isPlaceNote) := by
  induction l with
  | nil => rfl
  | cons a l ih =>
      have ih := ih fun b hb => hl b (List.mem_cons_of_mem a hb)
      have ha := hl a (List.mem_cons_self a l)
      simp only [List.countP_cons]
      cases hc : a.placeCounter? with
      | none =>
          have hp : a.isPlaceNote = false := by simpa [hc] using mt ha
          simp only [hp, reduceCtorEq, decide_False, Bool.false_eq_true, reduceIte]
          omega
      | some c =>
          have hp : a.isPlaceNote = true := by
            obtain ⟨p, hp, -⟩ := Option.bind_eq_some.mp hc
            simp [Action2024.isPlaceNote, hp]
          cases c <;> simp only [hp, Option.some.injEq, reduceCtorEq, decide_True, decide_False,
            Bool.false_eq_true, reduceIte] <;> omega

/-- Counting the placements a counter receives by their score type and auto
flag. -/
theorem countP_placeCounter_eq (l : List Action2024) (c : Counter) (q : Action2024 → Bool)
    (hq : ∀ a, (∃ p ∈ c.combinations, a.placement? = some p) ↔ q a) :
    l.countP (·.placeCounter? = some c) = l.countP q :=
  List.countP_congr fun a _ => by
    simpa only [decide_eq_true_eq, placeCounter?_eq_some_iff] using hq a

theorem exists_mem_singleton_placement (x : ScoreType × Bool) (a : Action2024) :
    (∃ p ∈ [x], a.placement? = some p) ↔ decide (a.placement? = some x) = true := by
  simp only [List.mem_singleton, exists_eq_left, decide_eq_true_eq]

theorem exists_mem_pair_placement (st : ScoreType) (a : Action2024) :
    (∃ p ∈ [(st, true), (st, false)], a.placement? = some p) ↔
      decide (a.placement?.map Prod.fst = some st) = true := by
  simp only [List.mem_cons, List.mem_singleton, List.not_mem_nil, or_false, decide_eq_true_eq,
    Option.map_eq_some']
  refine exists_congr fun p => ?_
  obtain ⟨_, _ | _⟩ := p <;> simp [and_comm]

/-- On an accepted message every placement was classified, so the nine counters
add up to the number of placements. -/
theorem convertActionsToStat2024_placements (h : convertActionsToStat2024 msg = .ok stat) :
    stat.ampAuto + stat.amp + stat.speakerAuto + stat.speaker + stat.speakerAmplified +
      stat.notesDroppedAuto + stat.notesDropped + stat.shuttled + stat.outOfField =
      msg.actionsList.countP (·.isPlaceNote) := by
  have hc := convertActionsToStat2024_counter h
  obtain ⟨s, hs, -⟩ := convertActionsToStat2024_eq_ok.mp h
  have hl : ∀ a ∈ msg.actionsList, a.isPlaceNote → a.placeCounter?.isSome := fun a ha => by
    obtain ⟨m, m', hm⟩ := foldlM_eq_ok_mem hs a ha
    exact convertAction_placeCounter hm
  rw [show stat.ampAuto = _ from hc .ampAuto, show stat.amp = _ from hc .amp,
    show stat.speakerAuto = _ from hc .speakerAuto, show stat.speaker = _ from hc .speaker,
    show stat.speakerAmplified = _ from hc .speakerAmplified,
    show stat.notesDroppedAuto = _ from hc .notesDroppedAuto,
    show stat.notesDropped = _ from hc .notesDropped, show stat.shuttled = _ from hc .shuttled,
    show stat.outOfField = _ from hc .outOfField]
  exact_mod_cast countP_placeCounter_sum _ hl

/-- Every field of the row the reducer returns for a message it accepts: the
message's identity, each placement counter as a count of placements by score
type and auto flag, the wrapped sum of the penalties, the last starting
position, and the flags that one action of their kind sets. -/
theorem convertActionsToStat2024_stat (h : convertActionsToStat2024 msg = .ok stat) :
    stat.compType = msg.compType ∧ stat.teamNumber = msg.teamNumber ∧
      stat.matchNumber = msg.matchNumber ∧ stat.setNumber = msg.setNumber ∧
      stat.compLevel = msg.compLevel ∧ stat.collectedBy = "" ∧
      stat.ampAuto = msg.actionsList.countP (·.placement? = some (.kAMP, true)) ∧
      stat.amp = msg.actionsList.countP (·.placement? = some (.kAMP, false)) ∧
      stat.speakerAuto = msg.actionsList.countP (·.placement? = some (.kSPEAKER, true)) ∧
      stat.speaker = msg.actionsList.countP (·.placement? = some (.kSPEAKER, false)) ∧
      stat.speakerAmplified =
        msg.actionsList.countP (·.placement? = some (.kSPEAKER_AMPLIFIED, false)) ∧
      stat.notesDroppedAuto = msg.actionsList.countP (·.placement? = some (.kDROPPED, true)) ∧
      stat.notesDropped = msg.actionsList.countP (·.placement? = some (.kDROPPED, false)) ∧
      stat.shuttled =
        msg.actionsList.countP (fun a => a.placement?.map Prod.fst = some .kSHUTTLED) ∧
      stat.outOfField =
        msg.actionsList.countP (fun a => a.placement?.map Prod.fst = some .kOUT_OF_FIELD) ∧
      stat.ampAuto + stat.amp + stat.speakerAuto + stat.speaker + stat.speakerAmplified +
        stat.notesDroppedAuto + stat.notesDropped + stat.shuttled + stat.outOfField =
        msg.actionsList.countP (·.isPlaceNote) ∧
      stat.penalties = int32 (msg.actionsList.filterMap Action2024.penalties?).sum ∧
      stat.startingQuadrant = ((msg.actionsList.filterMap Action2024.position?).getLast?).getD 0 ∧
      (stat.mobilityAuto ↔ ∃ a ∈ msg.actionsList, a.actionTaken = some (.mobilityAction true)) ∧
      (stat.robotDied ↔ ∃ a ∈ msg.actionsList, a.actionTaken = some .robotDeathAction) ∧
      (stat.noShow ↔ ∃ a ∈ msg.actionsList, a.actionTaken = some .noShowAction) := by
  have hid := convertActionsToStat2024_identity h
  simp only [Db.Stats2024.identity, Prod.mk.injEq] at hid
  have hc := convertActionsToStat2024_counter h
  have hcount : ∀ c q, (∀ a, (∃ p ∈ c.combinations, a.placement? = some p) ↔ q a = true) →
      stat.counter c = msg.actionsList.countP q := fun c q hq => by
    rw [hc c, countP_placeCounter_eq _ c q hq]
  have hone := exists_mem_singleton_placement
  have htwo := exists_mem_pair_placement
  exact ⟨hid.1, hid.2.1, hid.2.2.1, hid.2.2.2.1, hid.2.2.2.2.1, hid.2.2.2.2.2,
    hcount .ampAuto _ (hone _), hcount .amp _ (hone _), hcount .speakerAuto _ (hone _),
    hcount .speaker _ (hone _), hcount .speakerAmplified _ (hone _),
    hcount .notesDroppedAuto _ (hone _), hcount .notesDropped _ (hone _),
    hcount .shuttled _ (htwo _), hcount .outOfField _ (htwo _),
    convertActionsToStat2024_placements h, convertActionsToStat2024_penalties h,
    convertActionsToStat2024_startingQuadrant h, convertActionsToStat2024_flags h⟩

/-- The message of the reducer's unit test: fifteen actions of every kind, with
counted placements at 2000 and 3900. -/
def testMessage2024 : Submit2024Actions where
  teamNumber := "4244"
  matchNumber := 3
  setNumber := 1
  compLevel := "quals"
  actionsList := [⟨some (.startMatchAction 2), 0, by decide⟩,
    ⟨some .noShowAction, 200, by decide⟩,
    ⟨some .pickupNoteAction, 800, by decide⟩,
    ⟨some (.placeNoteAction .kAMP true), 2000, by decide⟩,
    ⟨some (.mobilityAction true), 2200, by decide⟩,
    ⟨some (.penaltyAction 5), 2400, by decide⟩,
    ⟨some .pickupNoteAction, 2800, by decide⟩,
    ⟨some (.placeNoteAction .kSHUTTLED false), 3100, by decide⟩,
    ⟨some .pickupNoteAction, 3200, by decide⟩,
    ⟨some (.placeNoteAction .kDROPPED false), 3300, by decide⟩,
    ⟨some .robotDeathAction, 3400, by decide⟩,
    ⟨some .robotDeathAction, 3450, by decide⟩,
    ⟨some .pickupNoteAction, 3500, by decide⟩,
    ⟨some (.placeNoteAction .kSPEAKER_AMPLIFIED false), 3900, by decide⟩,
    ⟨some (.endMatchAction .kHARMONY false false), 4200, by decide⟩]
  compType := "Regular"
  actionsList_length_lt := by decide

/-- On the unit test's message the counts are the ones the test expects. -/
theorem testMessage2024_stat :
    ∃ stat, convertActionsToStat2024 testMessage2024 = .ok stat ∧ stat.ampAuto = 1 ∧
      stat.speakerAmplified = 1 ∧ stat.notesDropped = 1 ∧ stat.shuttled = 1 ∧
      stat.penalties = 5 ∧ stat.startingQuadrant = 2 := by
  have h : convertActionsToStat2024 testMessage2024 = .ok _ := rfl
  obtain ⟨-, -, -, -, -, -, hampAuto, -, -, -, hamplified, -, hdropped, hshuttled, -, -, hpen,
    hquad, -⟩ := convertActionsToStat2024_stat h
  exact ⟨_, h, hampAuto, hamplified, hdropped, hshuttled, hpen, hquad⟩

theorem convertActionsToStat2024_stageFlag (h : convertActionsToStat2024 msg = .ok stat)
    (g : StageType) (hg : g ≠ .other) :
    stat.stageFlag g ↔ ∃ a ∈ msg.actionsList, a.endMatch?.map (·.1) = some g := by
  obtain ⟨s, hs, rfl⟩ := convertActionsToStat2024_eq_ok.mp h
  have hrun := foldlM_sticky (·.stat.stageFlag g) (fun a => a.endMatch?.map (·.1) = some g)
    (fun hstep => (convertAction_endMatch hstep).1 g hg) hs
  have hflag : s.toStat.stageFlag g = s.stat.stageFlag g := by cases g <;> rfl
  have hinit : (ConvertState.initial msg).stat.stageFlag g = false := by cases g <;> rfl
  rw [hflag]
  simpa only [hinit, Bool.false_eq_true, false_or] using hrun

/-- The end-of-match fields of an accepted message: each stage flag holds
exactly when some `EndMatchAction` recorded that stage result, since a later one
never clears it, while the trap and spotlight flags are those of the last
`EndMatchAction`, and false when there is none. -/
theorem convertActionsToStat2024_endMatch (h : convertActionsToStat2024 msg = .ok stat) :
    (stat.park ↔ ∃ a ∈ msg.actionsList, a.endMatch?.map (·.1) = some .kPARK) ∧
      (stat.onStage ↔ ∃ a ∈ msg.actionsList, a.endMatch?.map (·.1) = some .kON_STAGE) ∧
      (stat.harmony ↔ ∃ a ∈ msg.actionsList, a.endMatch?.map (·.1) = some .kHARMONY) ∧
      stat.trapNote =
        (((msg.actionsList.filterMap Action2024.endMatch?).getLast?).map (·.2.1)).getD false ∧
      stat.spotlight =
        (((msg.actionsList.filterMap Action2024.endMatch?).getLast?).map (·.2.2)).getD false := by
  refine ⟨convertActionsToStat2024_stageFlag h .kPARK (by decide),
    convertActionsToStat2024_stageFlag h .kON_STAGE (by decide),
    convertActionsToStat2024_stageFlag h .kHARMONY (by decide), ?_, ?_⟩ <;>
  obtain ⟨s, hs, rfl⟩ := convertActionsToStat2024_eq_ok.mp h
  · have hrun := foldlM_eq_ok_map (·.stat.trapNote) (fun v a => (a.endMatch?.map (·.2.1)).getD v)
      (fun _ _ _ hstep => (convertAction_endMatch hstep).2.1) hs
    rwa [foldl_getD_getLast?, ← List.map_filterMap, List.getLast?_map] at hrun
  · have hrun := foldlM_eq_ok_map (·.stat.spotlight) (fun v a => (a.endMatch?.map (·.2.2)).getD v)
      (fun _ _ _ hstep => (convertAction_endMatch hstep).2.2) hs
    rwa [foldl_getD_getLast?, ← List.map_filterMap, List.getLast?_map] at hrun

/-- A message that records a park and then an on-stage result. -/
def parkThenOnStage : Submit2024Actions where
  teamNumber := "971"
  matchNumber := 1
  setNumber := 1
  compLevel := "qm"
  actionsList := [⟨some (.endMatchAction .kPARK false false), 140000, by decide⟩,
    ⟨some (.endMatchAction .kON_STAGE true false), 150000, by decide⟩]
  compType := "Regular"
  actionsList_length_lt := by decide

/-- Two `EndMatchAction`s leave two stage flags set, and the park flag holds
although the last stage result is on stage. -/
theorem convertActionsToStat2024_park_and_onStage :
    ∃ stat, convertActionsToStat2024 parkThenOnStage = .ok stat ∧ stat.park ∧ stat.onStage :=
  ⟨_, rfl, rfl, rfl⟩

/-- On the same message the trap flag is that of the last `EndMatchAction`. -/
theorem parkThenOnStage_endMatch :
    ∃ stat, convertActionsToStat2024 parkThenOnStage = .ok stat ∧ stat.trapNote = true ∧
      stat.spotlight = false := by
  have h : convertActionsToStat2024 parkThenOnStage = .ok _ := rfl
  obtain ⟨-, -, -, htrap, hspot⟩ := convertActionsToStat2024_endMatch h
  exact ⟨_, h, htrap, hspot⟩

end Result

end Scouting
