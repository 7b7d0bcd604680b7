import Scouting.Requests.ConvertErrors

/-! # Average cycle time

Only placements into the amp, the speaker and the amplified speaker count in
cycle time. Each of them increments `cycles`, and each one after the first adds
the time since the previous one to `overall_time`; the first is recognised by
`lastPlacedTime` still holding its initial 0. For counted placements at times
`0 < t₁ < ⋯ < tₙ` the summed gaps telescope to `tₙ - t₁`, none of the `int64`
operations wraps, and the average is `(tₙ - t₁) / n`: the divisor is the number
of counted placements, not the number of gaps.

The test `lastPlacedTime != 0` stands for "not the first placement", and a first
counted placement at time 0 defeats it: `lastPlacedTime` keeps its 0, the next
counted placement is taken for the first, and the gap between the two is never
added. Placements at 0, 100 and 300 give 200 / 3 = 66, where the comment beside
the code, which counts the time between placements, gives 300 / 3 = 100. The
hypothesis `0 < t₁` of `convertActionsToStat2024_avgCycle` leaves that case out.
-/

namespace Scouting

/-- The timestamp of a placement that counts in cycle time: one classified as
`AmpAuto`, `Amp`, `SpeakerAuto`, `Speaker` or `SpeakerAmplified`. -/
def Action2024.cycleTimestamp? (a : Action2024) : Option Int :=
  match a.placeCounter? with
  | some .ampAuto | some .amp | some .speakerAuto | some .speaker | some .speakerAmplified =>
      some a.timestamp
  | _ => none

/-- The three cycle-time locals `overall_time`, `cycles` and `lastPlacedTime`. -/
def ConvertState.cycleLocals (s : ConvertState) : Int × Int × Int :=
  (s.overallTime, s.cycles, s.lastPlacedTime)

/-- The cycle-time locals after counted placements at the times `ts`, taken in
increasing order: one cycle per placement, the last time, and the span from
the first to the last. -/
def CycleLocalsOf (v : Int × Int × Int) (ts : List Int) : Prop :=
  v.2.1 = ts.length ∧ v.2.2 = ts.getLast?.getD 0 ∧
    v.1 = ts.getLast?.getD 0 - ts.head?.getD 0

variable {s s' : ConvertState} {a : Action2024}

/-- Only a counted placement touches the cycle-time locals, through
`countCycle` at its timestamp. -/
theorem convertAction_cycleLocals (h : convertAction s a = .ok s') :
    s'.cycleLocals = match a.cycleTimestamp? with
      | some t => (s.countCycle t).cycleLocals
      | none => s.cycleLocals := by
  obtain ⟨t, ht, h⟩ := convertAction_eq_ok.mp h
  simp only [Action2024.cycleTimestamp?, Action2024.placeCounter?, Action2024.placement?, ht]
  cases t with
  | placeNoteAction st au =>
      obtain ⟨-, c, hc, rfl⟩ := takeAction_place_eq_ok.mp h
      simp only [Option.some_bind, hc, ConvertState.place]
      cases c <;> rfl
  | endMatchAction g => cases h; cases g <;> rfl
  | mobilityAction m => cases h; cases m <;> rfl
  | _ => cases h; rfl

/-- One counted placement at a time `t` later than every earlier one keeps the
locals in step with the list of counted times, without any `int64` wrap. -/
theorem countCycle_cycleLocalsOf {ts : List Int} {t : Int}
    (hinv : CycleLocalsOf s.cycleLocals ts) (hts : (0 :: (ts ++ [t])).Pairwise (· < ·))
    (ht : t < 2 ^ 63) (hlen : ts.length < 2 ^ 62) :
    CycleLocalsOf (s.countCycle t).cycleLocals (ts ++ [t]) := by
  obtain ⟨hc, hl, ho⟩ := hinv
  simp only [ConvertState.cycleLocals] at hc hl ho
  have hpos : ∀ x ∈ ts ++ [t], 0 < x := (List.pairwise_cons.mp hts).1
  have hlt : ∀ x ∈ ts, x < t := fun x hx =>
    (List.pairwise_append.mp (List.pairwise_cons.mp hts).2).2.2 x hx t (List.mem_singleton_self t)
  refine ⟨?_, ?_, ?_⟩
  · simp only [ConvertState.cycleLocals, ConvertState.countCycle, hc, List.length_append,
      List.length_singleton]
    exact int64_of_range (by omega) (by omega)
  · simp [ConvertState.cycleLocals, ConvertState.countCycle]
  · cases ts with
    | nil => simp_all [ConvertState.cycleLocals, ConvertState.countCycle]
    | cons x r =>
        have hlast := List.getLast_mem (l := x :: r) (List.cons_ne_nil x r)
        have hx : 0 < x ∧ x < t :=
          ⟨hpos x (List.mem_append_left _ (.head r)), hlt x (.head r)⟩
        have hy := And.intro (hpos _ (List.mem_append_left _ hlast)) (hlt _ hlast)
        rw [List.getLast?_eq_getLast (x :: r) (List.cons_ne_nil x r), Option.getD_some] at hl ho
        simp only [List.head?_cons, Option.getD_some] at ho
        have hgap : int64 (t - s.lastPlacedTime) = t - s.lastPlacedTime :=
          int64_of_range (by omega) (by omega)
        simp only [ConvertState.cycleLocals, ConvertState.countCycle, hgap,
          if_pos (show s.lastPlacedTime ≠ 0 by omega)]
        rw [int64_of_range (by omega) (by omega)]
        rw [List.getLast?_concat]
        simp only [List.cons_append, List.head?_cons, Option.getD_some]
        omega

theorem cycleTimestamp?_eq_some {t : Int} (h : a.cycleTimestamp? = some t) : t = a.timestamp := by
  unfold Action2024.cycleTimestamp? at h
  split at h <;> first | exact (Option.some.inj h).symm | cases h

/-- Every counted time is an `int64` timestamp. -/
theorem lt_of_mem_cycleTimestamps {l : List Action2024} {t : Int}
    (ht : t ∈ l.filterMap Action2024.cycleTimestamp?) : t < 2 ^ 63 := by
  obtain ⟨a, -, ha⟩ := List.mem_filterMap.mp ht
  exact cycleTimestamp?_eq_some ha ▸ a.timestamp_range.2

/-- Over a run of the loop the locals follow the list of counted times, as long
as those times increase from above 0. -/
theorem foldlM_cycleLocalsOf {l : List Action2024} {ts : List Int}
    (hinv : CycleLocalsOf s.cycleLocals ts)
    (hts : (0 :: (ts ++ l.filterMap Action2024.cycleTimestamp?)).Pairwise (· < ·))
    (hlen : ts.length + l.length < 2 ^ 62) (h : l.foldlM convertAction s = .ok s') :
    CycleLocalsOf s'.cycleLocals (ts ++ l.filterMap Action2024.cycleTimestamp?) := by
  induction l generalizing s ts with
  | nil => cases h; rwa [List.filterMap_nil, List.append_nil]
  | cons a l ih =>
      obtain ⟨m, hm, hrest⟩ := foldlM_cons_eq_ok.mp h
      have hstep := convertAction_cycleLocals hm
      simp only [List.length_cons] at hlen
      cases hc : a.cycleTimestamp? with
      | none =>
          rw [hc] at hstep
          rw [List.filterMap_cons_none hc] at hts ⊢
          exact ih (hstep ▸ hinv) hts (by omega) hrest
      | some t =>
          rw [hc] at hstep
          rw [List.filterMap_cons_some hc] at hts ⊢
          have hsub : (0 :: (ts ++ [t])).Sublist (0 :: (ts ++ t :: l.filterMap Action2024.cycleTimestamp?)) :=
            ((List.nil_sublist _).cons₂ t |>.append_left ts).cons₂ 0
          have ht : t < 2 ^ 63 := cycleTimestamp?_eq_some hc ▸ a.timestamp_range.2
          have hinv' := countCycle_cycleLocalsOf hinv (hts.sublist hsub) ht (by omega)
          have hm' : CycleLocalsOf m.cycleLocals (ts ++ [t]) := hstep ▸ hinv'
          have hrun := ih hm' (by rwa [List.append_assoc, List.singleton_append])
            (by simp only [List.length_append, List.length_singleton]; omega) hrest
          rwa [List.append_assoc, List.singleton_append] at hrun

/-- The average that `toStat` divides out of locals in step with increasing
counted times: 0 for at most one of them, else the span over their number. -/
theorem toStat_avgCycle_of_cycleLocalsOf {ts : List Int} (hinv : CycleLocalsOf s.cycleLocals ts)
    (hts : (0 :: ts).Pairwise (· < ·)) (hbound : ∀ t ∈ ts, t < 2 ^ 63) (hlen : ts.length < 2 ^ 62) :
    s.toStat.avgCycle =
      if ts.length ≤ 1 then 0 else (ts.getLast?.getD 0 - ts.head?.getD 0) / ts.length := by
  obtain ⟨hc, -, ho⟩ := hinv
  simp only [ConvertState.cycleLocals] at hc ho
  simp only [ConvertState.toStat, hc, ho]
  match ts, hts with
  | [], _ => simp
  | [x], _ => simp [int64]
  | x :: y :: r, hts =>
      have hlast := List.getLast_mem (l := y :: r) (List.cons_ne_nil y r)
      have hspan : 0 ≤ (y :: r).getLast (List.cons_ne_nil y r) - x :=
        Int.sub_nonneg_of_le (Int.le_of_lt ((List.pairwise_cons.mp (List.pairwise_cons.mp hts).2).1 _ hlast))
      have hlt := hbound _ (List.mem_cons_of_mem x hlast)
      have hx := (List.pairwise_cons.mp hts).1 x (.head _)
      have hq := Int.ediv_le_self ((r.length : Int) + 1 + 1) hspan
      have hq0 := Int.ediv_nonneg hspan (show (0 : Int) ≤ r.length + 1 + 1 by omega)
      simp only [List.getLast?_cons_cons, List.getLast?_eq_getLast (y :: r) (List.cons_ne_nil y r),
        List.head?_cons, Option.getD_some, List.length_cons]
      rw [if_pos (by omega), if_neg (by omega), Int.tdiv_eq_ediv hspan (by omega)]
      push_cast
      exact int64_of_range (by omega) (by omega)

/-- The average cycle time when the counted placements come at increasing times
above 0: 0 for at most one of them, and otherwise the time from the first to
the last divided by their number, not by the number of gaps between them. -/
theorem convertActionsToStat2024_avgCycle {msg : Submit2024Actions} {stat : Db.Stats2024}
    (h : convertActionsToStat2024 msg = .ok stat)
    (hts : (msg.actionsList.filterMap Action2024.cycleTimestamp?).Chain (· < ·) 0) :
    stat.avgCycle =
      if (msg.actionsList.filterMap Action2024.cycleTimestamp?).length ≤ 1 then 0
      else ((msg.actionsList.filterMap Action2024.cycleTimestamp?).getLast?.getD 0 -
          (msg.actionsList.filterMap Action2024.cycleTimestamp?).head?.getD 0) /
        (msg.actionsList.filterMap Action2024.cycleTimestamp?).length := by
  obtain ⟨s, hs, rfl⟩ := convertActionsToStat2024_eq_ok.mp h
  have hpair := List.chain_iff_pairwise.mp hts
  have hmsg := msg.actionsList_length_lt
  have hinit : CycleLocalsOf (ConvertState.initial msg).cycleLocals [] := by
    simp [CycleLocalsOf, ConvertState.cycleLocals, ConvertState.initial]
  have hinv := foldlM_cycleLocalsOf hinit (by rwa [List.nil_append])
    (by simp only [List.length_nil, Nat.zero_add]; omega) hs
  rw [List.nil_append] at hinv
  exact toStat_avgCycle_of_cycleLocalsOf hinv hpair (fun _ => lt_of_mem_cycleTimestamps)
    (Nat.lt_of_le_of_lt (List.length_filterMap_le _ _) (by omega))

/-- On the unit test's message the span of 1900 between its two counted
placements is divided by 2, the number of placements, and not by 1, the number
of gaps. -/
theorem convertActionsToStat2024_avgCycle_ne_gap_average :
    ∃ stat, convertActionsToStat2024 testMessage2024 = .ok stat ∧ stat.avgCycle = 950 ∧
      stat.avgCycle ≠ (3900 - 2000) / (2 - 1) :=
  ⟨_, rfl, rfl, by decide⟩

/-- The unit test's message meets the hypotheses, with counted times 2000 and 3900. -/
theorem testMessage2024_avgCycle :
    ∃ stat, convertActionsToStat2024 testMessage2024 = .ok stat ∧
      (testMessage2024.actionsList.filterMap Action2024.cycleTimestamp?).Chain (· < ·) 0 ∧
      stat.avgCycle = (3900 - 2000) / 2 :=
  have h : convertActionsToStat2024 testMessage2024 = .ok _ := rfl
  have hts : (testMessage2024.actionsList.filterMap Action2024.cycleTimestamp?).Chain
      (· < ·) 0 := List.chain_iff_pairwise.mpr (by decide)
  ⟨_, h, hts, convertActionsToStat2024_avgCycle h hts⟩

end Scouting
