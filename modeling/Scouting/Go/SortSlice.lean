import Scouting.Go

/-! # `sort.Slice`

The handlers sort with `sort.Slice` from Go's `sort` package, which is not part
of their sources. It is taken here as a contract, `SliceSort`: what the
handlers rely on of any correct comparison sort. A comparator that can fail is
an `Except`-valued one; the handlers record the first failure of a comparison
and ignore the sort's result after it, so a sort that stops at the first
failure answers them the same.

`insertionSliceSort` is the algorithm `sort.Slice` runs on at most twelve
elements, `insertionSortLessFunc`, comparison for comparison. It meets the
contract for every length, so the contract can be met.
-/

namespace Scouting

/-- A sort of lists of `α` under a comparator `less` that can fail, with the
properties the handlers rely on: at most one element is returned untouched
without a comparison; a result is a permutation; a failure is the failure of a
comparison of two of the elements; comparisons that all succeed let the sort
succeed; when there are two elements or more, every element took part in a
comparison that succeeded; and a comparator that is a strict total order on
distinct elements of a list without duplicates sorts it. -/
structure SliceSort (α : Type) where
  sort : (α → α → Except String Bool) → List α → Except String (List α)
  sort_of_length_le_one : ∀ less l, l.length ≤ 1 → sort less l = .ok l
  perm_of_sort_eq_ok : ∀ less l l', sort less l = .ok l' → l'.Perm l
  sort_eq_error : ∀ less l e, sort less l = .error e → ∃ a ∈ l, ∃ b ∈ l, less a b = .error e
  exists_sort_eq_ok : ∀ less l, (∀ a ∈ l, ∀ b ∈ l, ∃ v, less a b = .ok v) → ∃ l', sort less l = .ok l'
  compared : ∀ less l l', sort less l = .ok l' → 2 ≤ l.length →
    ∀ a ∈ l, ∃ b ∈ l, (∃ v, less a b = .ok v) ∨ ∃ v, less b a = .ok v
  sorted : ∀ less (lt : α → α → Prop) [DecidableRel lt] l l', sort less l = .ok l' → l.Nodup →
    (∀ a ∈ l, ∀ b ∈ l, a ≠ b → less a b = .ok (decide (lt a b))) →
    (∀ a ∈ l, ∀ b ∈ l, a ≠ b → lt a b ∨ lt b a) →
    (∀ a ∈ l, ∀ b ∈ l, ∀ c ∈ l, lt a b → lt b c → lt a c) → l'.Sorted lt

namespace SliceSort

variable {α : Type} (less : α → α → Except String Bool)

/-- The inner loop of `insertionSortLessFunc`: the element at `j` moves down
while it is less than the one before it. The sorted prefix is given from its
end, so the element before `j` is the head. -/
def insertDown (x : α) : List α → Except String (List α)
  | [] => pure [x]
  | y :: ys => do
      if ← less x y then
        let ys' ← insertDown x ys
        pure (y :: ys')
      else pure (x :: y :: ys)

/-- `insertionSortLessFunc` over a whole list: each element in turn moves down
into the sorted prefix. -/
def insertionSort (l : List α) : Except String (List α) := do
  let rev ← l.foldlM (fun rev x => insertDown less x rev) []
  pure rev.reverse

variable {less}

/-! ## The inner loop -/

theorem insertDown_perm {x : α} {r r' : List α} (h : insertDown less x r = .ok r') :
    r'.Perm (x :: r) := by
  induction r generalizing r' with
  | nil => cases h; exact List.Perm.refl _
  | cons y ys ih =>
      obtain ⟨v, -, h⟩ := except_bind_eq_ok.mp h
      cases v with
      | false => cases h; exact List.Perm.refl _
      | true =>
          obtain ⟨ys', hys', h⟩ := except_bind_eq_ok.mp h
          cases h
          exact ((ih hys').cons y).trans (List.Perm.swap x y ys)

theorem insertDown_eq_error {x : α} {r : List α} {e : String}
    (h : insertDown less x r = .error e) : ∃ b ∈ r, less x b = .error e := by
  induction r with
  | nil => cases h
  | cons y ys ih =>
      rcases except_bind_eq_error.mp h with hy | ⟨v, -, h⟩
      · exact ⟨y, .head ys, hy⟩
      · cases v with
        | false => cases h
        | true =>
            rcases except_bind_eq_error.mp h with hys | ⟨_, _, h⟩
            · obtain ⟨b, hb, he⟩ := ih hys
              exact ⟨b, .tail y hb, he⟩
            · cases h

theorem exists_insertDown_eq_ok {x : α} {r : List α} (hok : ∀ b ∈ r, ∃ v, less x b = .ok v) :
    ∃ r', insertDown less x r = .ok r' := by
  induction r with
  | nil => exact ⟨_, rfl⟩
  | cons y ys ih =>
      obtain ⟨v, hv⟩ := hok y (.head ys)
      obtain ⟨ys', hys'⟩ := ih fun b hb => hok b (.tail y hb)
      cases v <;> simp [insertDown, hv, hys', bind, Except.bind, pure, Except.pure]

theorem insertDown_compared {x y : α} {ys r' : List α} (h : insertDown less x (y :: ys) = .ok r') :
    ∃ v, less x y = .ok v := by
  obtain ⟨v, hv, -⟩ := except_bind_eq_ok.mp h
  exact ⟨v, hv⟩

/-- Moving an element down keeps a prefix, given from its end, in decreasing
order, when the comparator is a strict total order on the elements involved. -/
theorem insertDown_sorted {lt : α → α → Prop} [DecidableRel lt] {x : α} {r r' : List α}
    (hless : ∀ b ∈ r, less x b = .ok (decide (lt x b))) (htotal : ∀ b ∈ r, lt x b ∨ lt b x)
    (htrans : ∀ b ∈ r, ∀ c ∈ r, lt c b → lt b x → lt c x)
    (hr : r.Pairwise (fun a b => lt b a)) (h : insertDown less x r = .ok r') :
    r'.Pairwise (fun a b => lt b a) := by
  induction r generalizing r' with
  | nil => cases h; exact List.pairwise_singleton _ _
  | cons y ys ih =>
      obtain ⟨hy, hys⟩ := List.pairwise_cons.mp hr
      obtain ⟨v, hv, h⟩ := except_bind_eq_ok.mp h
      rw [hless y (.head ys)] at hv
      cases hv
      by_cases hxy : lt x y
      · obtain ⟨ys', hys', h⟩ := except_bind_eq_ok.mp (by simpa [hxy] using h)
        cases h
        refine List.pairwise_cons.mpr ⟨fun z hz => ?_, ih (fun b hb => hless b (.tail y hb))
          (fun b hb => htotal b (.tail y hb))
          (fun b hb c hc => htrans b (.tail y hb) c (.tail y hc)) hys hys'⟩
        rcases List.mem_cons.mp ((insertDown_perm hys').mem_iff.mp hz) with rfl | hz
        · exact hxy
        · exact hy z hz
      · simp only [hxy, decide_False, Bool.false_eq_true, if_false] at h
        cases h
        have hyx := (htotal y (.head ys)).resolve_left hxy
        refine List.pairwise_cons.mpr ⟨fun z hz => ?_, hr⟩
        rcases List.mem_cons.mp hz with rfl | hz
        · exact hyx
        · exact htrans y (.head ys) z (.tail y hz) (hy z hz) hyx

/-! ## The outer loop -/

theorem insertDown_perm_middle {x : α} {l r₀ m : List α} (hm : insertDown less x r₀ = .ok m) :
    (l ++ m).Perm (x :: l ++ r₀) :=
  ((insertDown_perm hm).append_left l).trans List.perm_middle

theorem foldlM_insertDown_perm {l r₀ r : List α}
    (h : l.foldlM (fun rev x => insertDown less x rev) r₀ = .ok r) : r.Perm (l ++ r₀) := by
  induction l generalizing r₀ with
  | nil => cases h; exact List.Perm.refl _
  | cons x l ih =>
      obtain ⟨m, hm, hrest⟩ := foldlM_cons_eq_ok.mp h
      exact (ih hrest).trans (insertDown_perm_middle hm)

theorem foldlM_insertDown_eq_error {l r₀ : List α} {e : String}
    (h : l.foldlM (fun rev x => insertDown less x rev) r₀ = .error e) :
    ∃ a ∈ l, ∃ b ∈ l ++ r₀, less a b = .error e := by
  induction l generalizing r₀ with
  | nil => cases h
  | cons x l ih =>
      rcases except_bind_eq_error.mp h with hx | ⟨m, hm, hrest⟩
      · obtain ⟨b, hb, he⟩ := insertDown_eq_error hx
        exact ⟨x, .head l, b, List.mem_append_right _ hb, he⟩
      · obtain ⟨a, ha, b, hb, he⟩ := ih hrest
        exact ⟨a, .tail x ha, b, (insertDown_perm_middle hm).mem_iff.mp hb, he⟩

theorem exists_foldlM_insertDown_eq_ok {l r₀ : List α}
    (hok : ∀ a ∈ l, ∀ b ∈ l ++ r₀, ∃ v, less a b = .ok v) :
    ∃ r, l.foldlM (fun rev x => insertDown less x rev) r₀ = .ok r := by
  induction l generalizing r₀ with
  | nil => exact ⟨r₀, rfl⟩
  | cons x l ih =>
      obtain ⟨m, hm⟩ := exists_insertDown_eq_ok fun b hb =>
        hok x (.head l) b (List.mem_append_right _ hb)
      obtain ⟨r, hr⟩ := @ih m fun a ha b hb =>
        hok a (.tail x ha) b ((insertDown_perm_middle hm).mem_iff.mp hb)
      exact ⟨r, foldlM_cons_eq_ok.mpr ⟨m, hm, hr⟩⟩

section Universe

/-! The remaining loop lemmas speak of the elements of the list being sorted,
`s`, which every prefix and every element still to come belongs to. -/

variable {s : List α}

/-- Once the prefix holds two elements or more, each of them took part in a
comparison with an element of `s` that succeeded. -/
def Compared (less : α → α → Except String Bool) (s r : List α) : Prop :=
  2 ≤ r.length → ∀ a ∈ r, ∃ b ∈ s, (∃ v, less a b = .ok v) ∨ ∃ v, less b a = .ok v

theorem compared_insertDown {x : α} {r₀ m : List α} (hx : x ∈ s) (hr₀ : ∀ a ∈ r₀, a ∈ s)
    (hc : Compared less s r₀) (hm : insertDown less x r₀ = .ok m) : Compared less s m := by
  intro hlen a ha
  rcases r₀ with _ | ⟨y, ys⟩
  · simp [(insertDown_perm hm).length_eq] at hlen
  obtain ⟨v, hv⟩ := insertDown_compared hm
  rcases List.mem_cons.mp ((insertDown_perm hm).mem_iff.mp ha) with rfl | ha
  · exact ⟨y, hr₀ y (.head ys), .inl ⟨v, hv⟩⟩
  rcases ys with _ | ⟨z, zs⟩
  · obtain rfl := List.mem_singleton.mp ha
    exact ⟨x, hx, .inr ⟨v, hv⟩⟩
  · exact hc (by simp) a ha

theorem foldlM_insertDown_compared {l r₀ r : List α} (hs : ∀ a ∈ l ++ r₀, a ∈ s)
    (hc : Compared less s r₀) (h : l.foldlM (fun rev x => insertDown less x rev) r₀ = .ok r) :
    Compared less s r := by
  induction l generalizing r₀ with
  | nil => cases h; exact hc
  | cons x l ih =>
      obtain ⟨m, hm, hrest⟩ := foldlM_cons_eq_ok.mp h
      refine ih (fun a ha => hs a ((insertDown_perm_middle hm).mem_iff.mp ha))
        (compared_insertDown (hs x (.head _))
          (fun a ha => hs a (List.mem_append_right _ ha)) hc hm) hrest

variable {lt : α → α → Prop} [DecidableRel lt]
  (hless : ∀ a ∈ s, ∀ b ∈ s, a ≠ b → less a b = .ok (decide (lt a b)))
  (htotal : ∀ a ∈ s, ∀ b ∈ s, a ≠ b → lt a b ∨ lt b a)
  (htrans : ∀ a ∈ s, ∀ b ∈ s, ∀ c ∈ s, lt a b → lt b c → lt a c)
include hless htotal htrans

/-- Over elements of `s` without repetition, the loop keeps the prefix, given
from its end, in decreasing order. -/
theorem foldlM_insertDown_sorted {l r₀ r : List α} (hs : ∀ a ∈ l ++ r₀, a ∈ s)
    (hnd : (l ++ r₀).Nodup) (hr₀ : r₀.Pairwise (fun a b => lt b a))
    (h : l.foldlM (fun rev x => insertDown less x rev) r₀ = .ok r) :
    r.Pairwise (fun a b => lt b a) := by
  induction l generalizing r₀ with
  | nil => cases h; exact hr₀
  | cons x l ih =>
      obtain ⟨m, hm, hrest⟩ := foldlM_cons_eq_ok.mp h
      have hx := hs x (.head _)
      have hxr : ∀ b ∈ r₀, b ∈ s ∧ x ≠ b := fun b hb =>
        ⟨hs b (List.mem_append_right _ hb), fun hxb => (List.nodup_cons.mp hnd).1
          (List.mem_append_right _ (hxb ▸ hb))⟩
      refine ih (fun a ha => hs a ((insertDown_perm_middle hm).mem_iff.mp ha))
        ((insertDown_perm_middle hm).nodup_iff.mpr hnd)
        (insertDown_sorted (fun b hb => hless x hx b (hxr b hb).1 (hxr b hb).2)
          (fun b hb => htotal x hx b (hxr b hb).1 (hxr b hb).2)
          (fun b hb c hc => htrans c (hxr c hc).1 b (hxr b hb).1 x hx) hr₀ hm) hrest

end Universe

end SliceSort

open SliceSort in
/-- `sort.Slice` as `insertionSortLessFunc`, which it runs on at most twelve
elements. -/
def insertionSliceSort (α : Type) : SliceSort α where
  sort := insertionSort
  sort_of_length_le_one less l hl := by
    match l, hl with
    | [], _ => rfl
    | [_], _ => rfl
  perm_of_sort_eq_ok less l l' h := by
    obtain ⟨r, hr, h⟩ := except_bind_eq_ok.mp h
    cases h
    simpa using (List.reverse_perm r).trans (foldlM_insertDown_perm hr)
  sort_eq_error less l e h := by
    rcases except_bind_eq_error.mp h with h | ⟨_, _, h⟩
    · simpa using foldlM_insertDown_eq_error h
    · cases h
  exists_sort_eq_ok less l hok := by
    obtain ⟨r, hr⟩ := @exists_foldlM_insertDown_eq_ok _ less l [] (by simpa using hok)
    exact ⟨r.reverse, except_bind_eq_ok.mpr ⟨r, hr, rfl⟩⟩
  compared less l l' h hlen a ha := by
    obtain ⟨r, hr, -⟩ := except_bind_eq_ok.mp h
    have hperm := foldlM_insertDown_perm hr
    exact foldlM_insertDown_compared (s := l) (by simp) (by simp [Compared]) hr
      (by simpa [hperm.length_eq] using hlen) a (by simpa [hperm.mem_iff] using ha)
  sorted less lt _ l l' h hnd hless htotal htrans := by
    obtain ⟨r, hr, h⟩ := except_bind_eq_ok.mp h
    cases h
    exact List.pairwise_reverse.mpr (foldlM_insertDown_sorted hless htotal htrans (by simp)
      (by simpa using hnd) List.Pairwise.nil hr)

end Scouting
