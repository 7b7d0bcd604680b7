import Scouting.Go.Base64

/-! # `parseUsername`

Every action and stats row a handler stores is attributed to the name
`parseUsername` reads from the request's `Authorization` header, which the
browser fills in by HTTP basic authentication and `debug.performPost` from its
`Username`. Go strings are byte strings, `List UInt8` here. -/

namespace Scouting

/-- The byte of an ASCII character. -/
def asciiByte (c : Char) : UInt8 := c.toNat.toUInt8

/-- The bytes of an ASCII string literal of the source. -/
def asciiBytes (s : String) : List UInt8 := s.toList.map asciiByte

/-- `parseUsername`, on the values of the request's `Authorization` header.
Go's header map holds no key without values, so no values is the header's
absence. -/
def parseUsername (base64 : Base64Decoder) (authorization : List (List UInt8)) : List UInt8 :=
  match authorization with
  | [] => asciiBytes "unknown"
  | auth :: _ =>
      match auth.splitOn (asciiByte ' ') with
      | [scheme, encoded] =>
          if scheme = asciiBytes "Basic" then
            match base64.decodeString encoded with
            | .ok info =>
                match info.splitOn (asciiByte ':') with
                | [username, _] => username
                | _ => asciiBytes "unknown"
            | .error _ => asciiBytes "unknown"
          else asciiBytes "unknown"
      | _ => asciiBytes "unknown"

/-- The `Authorization` value `debug.performPost` sends for `Username`: the
user name and an empty password. -/
def performPostAuthorization (username : List UInt8) : List UInt8 :=
  asciiBytes "Basic " ++ encodeToString (username ++ asciiBytes ":")

/-! ## Splitting on a separator -/

section Split

variable {α : Type} [DecidableEq α] {a : α}

theorem splitOn_append_cons {l : List α} (hl : a ∉ l) (r : List α) :
    (l ++ a :: r).splitOn a = l :: r.splitOn a :=
  List.splitOnP_first (· == a) l (fun _ hx hxa => hl (beq_iff_eq.mp hxa ▸ hx)) a
    (beq_self_eq_true a) r

theorem splitOn_of_not_mem {l : List α} (hl : a ∉ l) : l.splitOn a = [l] :=
  List.splitOnP_eq_single (· == a) l fun _ hx hxa => hl (beq_iff_eq.mp hxa ▸ hx)

/-- A separator that occurs splits a list in at least two parts. -/
theorem one_lt_length_splitOn {l : List α} (h : a ∈ l) : 1 < (l.splitOn a).length := by
  induction l with
  | nil => cases h
  | cons x xs ih =>
      unfold List.splitOn at ih ⊢
      rw [List.splitOnP_cons]
      by_cases hx : x = a
      · rw [if_pos (beq_iff_eq.mpr hx), List.length_cons]
        have := List.length_pos.mpr (List.splitOnP_ne_nil (· == a) xs)
        omega
      · rw [if_neg (by simpa using hx)]
        have hlen := ih ((List.mem_cons.mp h).resolve_left (Ne.symm hx))
        cases hs : xs.splitOnP (· == a) with
        | nil => exact absurd hs (List.splitOnP_ne_nil _ xs)
        | cons y ys => rw [hs] at hlen; simpa using hlen

end Split

/-! ## Basic authentication -/

/-- A `Basic` header is split at its one space and its credentials decoded;
what remains is the colon split of the decoded text. -/
theorem parseUsername_basic_encoded (base64 : Base64Decoder) (info : List UInt8)
    (rest : List (List UInt8)) :
    parseUsername base64 ((asciiBytes "Basic " ++ encodeToString info) :: rest) =
      match info.splitOn (asciiByte ':') with
      | [username, _] => username
      | _ => asciiBytes "unknown" := by
  have hscheme : asciiBytes "Basic " = asciiBytes "Basic" ++ [asciiByte ' '] := rfl
  have hsplit : (asciiBytes "Basic " ++ encodeToString info).splitOn (asciiByte ' ') =
      [asciiBytes "Basic", encodeToString info] := by
    rw [hscheme, List.append_assoc, List.singleton_append, splitOn_append_cons (by decide),
      splitOn_of_not_mem (a := asciiByte ' ') fun h => ne_space_of_mem_encodeToString h rfl]
  simp only [parseUsername, hsplit, if_true, base64.decodeString_encodeToString]

/-- The user name of a `Basic` header is the text before the first colon when
the password has no colon of its own, and `"unknown"` when it has one, since the
colon split then has more than two parts. The header `debug.performPost`
sends, with an empty password, is read back to its user. -/
theorem parseUsername_basic_auth (base64 : Base64Decoder) {u : List UInt8}
    (hu : asciiByte ':' ∉ u) (p : List UInt8) (rest : List (List UInt8)) :
    parseUsername base64
        ((asciiBytes "Basic " ++ encodeToString (u ++ asciiByte ':' :: p)) :: rest) =
        (if asciiByte ':' ∈ p then asciiBytes "unknown" else u) ∧
      parseUsername base64 [performPostAuthorization u] = u := by
  refine ⟨?_, ?_⟩
  · rw [parseUsername_basic_encoded, splitOn_append_cons hu]
    split_ifs with hp
    · have hlen := one_lt_length_splitOn hp
      rcases hs : p.splitOn (asciiByte ':') with _ | ⟨x, _ | ⟨y, t⟩⟩
      · rfl
      · rw [hs] at hlen; exact absurd hlen (lt_irrefl 1)
      · rfl
    · rw [splitOn_of_not_mem hp]
  · rw [performPostAuthorization, show asciiBytes ":" = [asciiByte ':'] from rfl,
      parseUsername_basic_encoded, splitOn_append_cons hu]
    rfl

theorem parseUsername_debug_cli :
    asciiByte ':' ∉ asciiBytes "debug_cli" ∧
      parseUsername strictDecoder [performPostAuthorization (asciiBytes "debug_cli")] =
        asciiBytes "debug_cli" :=
  ⟨by decide, (parseUsername_basic_auth strictDecoder (by decide) [] []).2⟩

/-- A colon in the password makes the name `"unknown"`. -/
theorem parseUsername_colon_in_password :
    parseUsername strictDecoder
        [asciiBytes "Basic " ++ encodeToString (asciiBytes "debug_cli:a:b")] =
        asciiBytes "unknown" ∧ asciiBytes "unknown" ≠ asciiBytes "debug_cli" :=
  ⟨by rw [parseUsername_basic_encoded]; rfl, by decide⟩

end Scouting
