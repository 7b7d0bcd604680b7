import Mathlib

/-! # Go runtime semantics used by the request handlers

The handlers compute with Go's fixed-width integers, compare clock readings
through `time.Time.Sub`, and answer every request either with a success body or
through `respondWithError`. Integers are `Int` wrapped into their
two's-complement range after each operation, clock readings are nanoseconds,
and an answer is the status code and message the handler writes.
-/

namespace Scouting

/-! ## Fixed-width integers -/

/-- The value of a Go `int32` expression: the exact result wrapped into
`[-2^31, 2^31)`. -/
def int32 (x : Int) : Int := x.bmod (2 ^ 32)

/-- The value of a Go `int64` expression: the exact result wrapped into
`[-2^63, 2^63)`. -/
def int64 (x : Int) : Int := x.bmod (2 ^ 64)

theorem int32_add_int32 (x y : Int) : int32 (int32 x + y) = int32 (x + y) :=
  Int.bmod_add_bmod_congr

/-- Wrapping leaves a value that already fits in 32 bits alone. -/
theorem int32_of_range {x : Int} (hlo : -2 ^ 31 ≤ x) (hhi : x < 2 ^ 31) : int32 x = x := by
  simp only [int32, Int.bmod_def]; split <;> omega

/-- Wrapping leaves a value that already fits in 64 bits alone. -/
theorem int64_of_range {x : Int} (hlo : -2 ^ 63 ≤ x) (hhi : x < 2 ^ 63) : int64 x = x := by
  simp only [int64, Int.bmod_def]; split <;> omega

theorem int32_int32 (x : Int) : int32 (int32 x) = int32 x := Int.bmod_bmod

/-! ## Errors

Go's `(value, error)` results are `Except` values; a loop that returns at its
first error is a `List.foldlM` in `Except`. -/

theorem except_bind_eq_ok {ε α β : Type} {x : Except ε α} {f : α → Except ε β} {b : β} :
    x >>= f = .ok b ↔ ∃ a, x = .ok a ∧ f a = .ok b := by
  cases x <;> simp [bind, Except.bind]

theorem except_bind_eq_error {ε α β : Type} {x : Except ε α} {f : α → Except ε β} {e : ε} :
    x >>= f = .error e ↔ x = .error e ∨ ∃ a, x = .ok a ∧ f a = .error e := by
  cases x <;> simp [bind, Except.bind]

theorem foldlM_cons_eq_ok {ε σ α : Type} {f : σ → α → Except ε σ} {a : α} {l : List α}
    {s s' : σ} : (a :: l).foldlM f s = .ok s' ↔ ∃ m, f s a = .ok m ∧ l.foldlM f m = .ok s' := by
  simp only [List.foldlM_cons, except_bind_eq_ok]

/-- A projection of the state of an `Except` fold that every successful step
updates by a pure function follows the pure fold of that function. -/
theorem foldlM_eq_ok_map {ε σ α β : Type} {f : σ → α → Except ε σ} (get : σ → β)
    (upd : β → α → β) (hstep : ∀ s a s', f s a = .ok s' → get s' = upd (get s) a)
    {l : List α} {s s' : σ} (h : l.foldlM f s = .ok s') : get s' = l.foldl upd (get s) := by
  induction l generalizing s with
  | nil => cases h; rfl
  | cons a l ih =>
      obtain ⟨m, hm, hrest⟩ := foldlM_cons_eq_ok.mp h
      rw [ih hrest, hstep s a m hm, List.foldl_cons]

/-- Every element of a list an `Except` fold got through was taken by one
successful step. -/
theorem foldlM_eq_ok_mem {ε σ α : Type} {f : σ → α → Except ε σ} {l : List α} {s s' : σ}
    (h : l.foldlM f s = .ok s') : ∀ a ∈ l, ∃ m m', f m a = .ok m' := by
  induction l generalizing s with
  | nil => simp
  | cons b l ih =>
      obtain ⟨m, hm, hrest⟩ := foldlM_cons_eq_ok.mp h
      rintro a (_ | ⟨_, ha⟩)
      · exact ⟨s, m, hm⟩
      · exact ih hrest a ha

/-- An invariant that holds at the start and that every step keeps, also in the
state a failing step hands back, holds where an `Except` fold returns or stops. -/
theorem foldlM_invariant {ε σ α : Type} {f : σ → α → Except (ε × σ) σ} (I : σ → Prop)
    {l : List α} (hok : ∀ s a s', a ∈ l → I s → f s a = .ok s' → I s')
    (herr : ∀ s a e s', a ∈ l → I s → f s a = .error (e, s') → I s') {s : σ} (hs : I s) :
    (∀ s', l.foldlM f s = .ok s' → I s') ∧ (∀ e s', l.foldlM f s = .error (e, s') → I s') := by
  induction l generalizing s with
  | nil => exact ⟨fun s' h => by cases h; exact hs, fun _ _ h => by cases h⟩
  | cons a l ih =>
      cases hstep : f s a with
      | error es =>
          simp only [List.foldlM_cons, hstep]
          exact ⟨nofun, fun e s' h => herr s a e s' (.head l) hs (hstep.trans (by cases h; rfl))⟩
      | ok m =>
          simp only [List.foldlM_cons, hstep]
          exact ih (fun s b s' hb => hok s b s' (.tail a hb))
            (fun s b e s' hb => herr s b e s' (.tail a hb)) (hok s a m (.head l) hs hstep)

/-! ## Panics

A computation that may panic is an `Except String`, the error being the
panic's value. -/

/-- A call of a function that defers a closure calling `recover`: a panic of
its body is stopped, and the function returns its result parameters as they
stand. For unnamed results these are the zero values, since only a `return`
statement sets them. -/
def deferRecover {α : Type} (zero : α) : Except String α → α
  | .ok result => result
  | .error _ => zero

/-! ## Clock readings -/

/-- One second as a `time.Duration`, in nanoseconds. -/
def second : Int := 1000000000

/-- `time.Time.Sub`: the difference of two readings in nanoseconds, or the
minimum or maximum `time.Duration` when the difference is out of range. -/
def timeSub (t u : Int) : Int :=
  if -2 ^ 63 ≤ t - u ∧ t - u < 2 ^ 63 then t - u
  else if t < u then -2 ^ 63 else 2 ^ 63 - 1

/-- Saturation never changes how a difference compares with a duration that is
itself in range, such as the ten seconds of the scouting sweep. -/
theorem le_timeSub_iff {d : Int} (hlo : -2 ^ 63 < d) (hhi : d ≤ 2 ^ 63 - 1) (t u : Int) :
    d ≤ timeSub t u ↔ d ≤ t - u := by
  unfold timeSub; split_ifs <;> omega

/-! ## Request and response envelope -/

/-- `http.StatusOK`. -/
def statusOK : Nat := 200

/-- `http.StatusBadRequest`. -/
def statusBadRequest : Nat := 400

/-- `http.StatusNotFound`. -/
def statusNotFound : Nat := 404

/-- `http.StatusInternalServerError`. -/
def statusInternalServerError : Nat := 500

/-- What a handler writes back: a success body, or the status code and message
of `respondWithError`. -/
inductive Response (α : Type) where
  | ok (body : α)
  | error (statusCode : Nat) (errorMessage : String)
  deriving Repr, DecidableEq

/-- Whether the handler answered through `respondWithError`. -/
def Response.isError {α : Type} : Response α → Bool
  | .ok _ => false
  | .error _ _ => true

/-- The request body as a handler finds it: `io.ReadAll` failed, the flatbuffers
root accessor panicked inside `parseRequest`, or the message parsed. -/
inductive RequestBody (α : Type) where
  | readError (err : String)
  | parsePanic (value : String)
  | parsed (request : α)

/-- `io.ReadAll` followed by `parseRequest`: the two ways a body is refused
before the handler looks at the message, both with status 400. -/
def RequestBody.parse {α β : Type} (requestName : String) :
    RequestBody α → Except (Response β) α
  | .readError err => .error (.error statusBadRequest ("Failed to read request bytes:" ++ err))
  | .parsePanic value =>
      .error (.error statusBadRequest ("Failed to parse " ++ requestName ++ ": " ++ value))
  | .parsed request => .ok request

end Scouting
