import Scouting.Requests.Username

/-! # The debug client's error path

`debug.performPost` posts request bytes and returns the response body, or an
error when the server answers with a status other than 200. That error is the
one `parseErrorResponse` returns, after reading the body as an `ErrorResponse`
flatbuffer under a deferred `recover`. The generated root accessor reads a
four-byte offset at the start of the body and panics on a shorter body. The
`recover` stops that panic, and the function returns its unnamed `error`
result as it stands: nil. The `getRootErrMessage` check after the accessor is
never reached with a message set.

An error is an `Option PostError` and a `[]byte` result an
`Option (List UInt8)`, `none` standing for nil in both.
-/

namespace Scouting

/-! ## Flatbuffers roots -/

/-- `flatbuffers.Table`: the buffer and the position of the table in it. -/
structure FlatTable where
  bytes : List UInt8
  pos : Nat
  deriving Repr, DecidableEq

/-- The panic value of index `i` out of range of a slice of length `n`. -/
def indexOutOfRange (i n : Nat) : String :=
  "runtime error: index out of range [" ++ toString i ++ "] with length " ++ toString n

/-- `flatbuffers.GetUOffsetT`: the little-endian `uint32` at the start of the
buffer, after the bounds check `_ = buf[3]`. -/
def getUOffsetT : List UInt8 → Except String Nat
  | b0 :: b1 :: b2 :: b3 :: _ =>
      .ok (b0.toNat + 256 * b1.toNat + 65536 * b2.toNat + 16777216 * b3.toNat)
  | buf => .error (indexOutOfRange 3 buf.length)

/-- The root accessor `flatc` generates for every table, `GetRootAsErrorResponse`
among them; it is generated code, not in the source. The table sits at the
offset stored at `offset` plus `offset`, added as a `UOffsetT`. -/
def getRootAs (buf : List UInt8) (offset : Nat) : Except String FlatTable :=
  if buf.length < offset then
    .error ("runtime error: slice bounds out of range [" ++ toString offset ++ ":" ++
      toString buf.length ++ "]")
  else do
    let n ← getUOffsetT (buf.drop offset)
    return ⟨buf, (n + offset) % 2 ^ 32⟩

theorem getRootAs_zero_of_length_lt {buf : List UInt8} (h : buf.length < 4) :
    getRootAs buf 0 = .error (indexOutOfRange 3 buf.length) := by
  rcases buf with _ | ⟨b0, _ | ⟨b1, _ | ⟨b2, _ | ⟨b3, rest⟩⟩⟩⟩
  any_goals rfl
  simp only [List.length_cons] at h
  omega

theorem getRootAs_zero_of_le_length {buf : List UInt8} (h : 4 ≤ buf.length) :
    ∃ t, getRootAs buf 0 = .ok t := by
  rcases buf with _ | ⟨b0, _ | ⟨b1, _ | ⟨b2, _ | ⟨b3, rest⟩⟩⟩⟩
  any_goals simp at h
  exact ⟨_, rfl⟩

/-! ## `parseErrorResponse` -/

/-- The non-nil errors of `performPost`: the `*ResponseError` holding the parsed
`ErrorResponse`, the error `parseErrorResponse` formats from a panic message,
and an error of `http.NewRequest`, `client.Do` or `io.ReadAll`. -/
inductive PostError where
  | responseError (url : String) (statusCode : Nat) (errorResponse : FlatTable)
  | parseFailure (url : String) (statusCode : Nat) (responseBytes : List UInt8)
      (getRootErrMessage : String)
  | transport (err : String)
  deriving Repr, DecidableEq

/-- `parseErrorResponse`. The deferred closure stores the panic's value in
`getRootErrMessage` only once the panic has left the body, so the body reads
the variable as `""`. -/
def parseErrorResponse (url : String) (statusCode : Nat) (responseBytes : List UInt8) :
    Option PostError :=
  deferRecover none do
    let getRootErrMessage := ""
    let errorMessage ← getRootAs responseBytes 0
    if getRootErrMessage ≠ "" then
      return some (.parseFailure url statusCode responseBytes getRootErrMessage)
    return some (.responseError url statusCode errorMessage)

/-- The error is the `ResponseError` of the parsed body, or nil when the root
accessor panicked. -/
theorem parseErrorResponse_eq (url : String) (statusCode : Nat) (responseBytes : List UInt8) :
    parseErrorResponse url statusCode responseBytes =
      match getRootAs responseBytes 0 with
      | .ok errorMessage => some (.responseError url statusCode errorMessage)
      | .error _ => none := by
  unfold parseErrorResponse
  cases getRootAs responseBytes 0 <;> rfl

theorem parseErrorResponse_eq_none_iff {url : String} {statusCode : Nat}
    {responseBytes : List UInt8} :
    parseErrorResponse url statusCode responseBytes = none ↔ responseBytes.length < 4 := by
  rw [parseErrorResponse_eq]
  by_cases h : responseBytes.length < 4
  · simp only [getRootAs_zero_of_length_lt h, h]
  · obtain ⟨t, ht⟩ := getRootAs_zero_of_le_length (Nat.le_of_not_lt h)
    simp only [ht, h, reduceCtorEq]

/-! ## `performPost` -/

/-- What comes back for a request: the error of `client.Do`, or the status code
and the body as `io.ReadAll` read it. -/
inductive Exchange where
  | doError (err : String)
  | response (statusCode : Nat) (body : Except String (List UInt8))

/-- The network and the server as the client sees them: the error
`http.NewRequest` gives for a URL, if any, and the exchange for a URL, an
`Authorization` value and the request bytes. -/
structure HttpClient where
  newRequestError : String → Option String
  exchange : String → List UInt8 → List UInt8 → Exchange

/-- `performPost`, for the value `username` of the package variable
`Username`: the response body and the error. -/
def performPost (client : HttpClient) (username : List UInt8) (url : String)
    (requestBytes : List UInt8) : Option (List UInt8) × Option PostError :=
  match client.newRequestError url with
  | some err => (none, some (.transport err))
  | none =>
      match client.exchange url (performPostAuthorization username) requestBytes with
      | .doError err => (none, some (.transport err))
      | .response _ (.error err) => (none, some (.transport err))
      | .response statusCode (.ok responseBytes) =>
          if statusCode ≠ statusOK then (none, parseErrorResponse url statusCode responseBytes)
          else (some responseBytes, none)

/-! ## A path no handler serves -/

/-- `unknown`: the status and body the handler writes, 404 and nothing. -/
def unknown : Nat × List UInt8 := (statusNotFound, [])

/-- A server that answers every request with the status and body `handler`
writes, reached at URLs `http.NewRequest` accepts. -/
def answeredBy (handler : Nat × List UInt8) : HttpClient where
  newRequestError _ := none
  exchange _ _ _ := .response handler.1 (.ok handler.2)

/-- `sendMessage`: the unpacked response, or the error of `performPost`. The
root accessor and `UnPack` run outside any `recover`, so their panic is the
caller's. -/
def sendMessage {β : Type} (unPack : FlatTable → Except String β) (client : HttpClient)
    (username : List UInt8) (url : String) (requestBytes : List UInt8) :
    Except String (Option β × Option PostError) :=
  match performPost client username url requestBytes with
  | (_, some err) => .ok (none, some err)
  | (responseBytes, none) => do
      let response ← getRootAs (responseBytes.getD []) 0
      return (some (← unPack response), none)

/-- A request answered by `unknown` gets neither a body nor an error from
`performPost`, and `sendMessage` then panics reading the nil body. -/
theorem performPost_unknown {β : Type} (unPack : FlatTable → Except String β)
    (username : List UInt8) (url : String) (requestBytes : List UInt8) :
    performPost (answeredBy unknown) username url requestBytes = (none, none) ∧
      sendMessage unPack (answeredBy unknown) username url requestBytes =
        .error (indexOutOfRange 3 0) := by
  have hpost : performPost (answeredBy unknown) username url requestBytes = (none, none) := by
    simp only [performPost, answeredBy, unknown, statusNotFound, statusOK]
    rw [if_pos (by decide), parseErrorResponse_eq_none_iff.mpr (by decide)]
  refine ⟨hpost, ?_⟩
  rw [sendMessage, hpost]
  rfl

end Scouting
