import SuperAdmin.Domain

/-! # Responses

`internal/delivery/http/response`: the one form of answers, and the one place where an error of
the domain becomes a status. -/

namespace SuperAdmin.Http

/-! ### JSON -/

/-- A JSON value.  A `time.Time` is kept as the instant that its text denotes: `time` is the default
coding, `rfc3339` is `Format(time.RFC3339)`, which keeps seconds. -/
inductive Json where
  | null
  | bool (b : Bool)
  | num (n : ℤ)
  /-- A number that is not written as an integer. -/
  | real (text : String)
  | str (s : String)
  | time (t : Time)
  | rfc3339 (seconds : ℤ)
  | arr (items : List Json)
  | obj (fields : List (String × Json))

namespace Json

/-- A pointer. -/
def ofOption {α : Type} (f : α → Json) : Option α → Json
  | none => null
  | some a => f a

/-- `t.Format(time.RFC3339)`. -/
def formatRFC3339 (t : Time) : Json := rfc3339 (t.ns / 1000000000)

end Json

/-! ### Errors -/

/-- `response.ErrorBody`. -/
structure ErrorBody where
  code : String
  message : String
  field : String := ""
deriving DecidableEq, Repr

def codeNotFound : String := "not_found"
def codeConflict : String := "conflict"
def codeForbidden : String := "forbidden"
def codeUnauthorized : String := "unauthorized"
def codeValidation : String := "validation_error"
def codeInvalidCreds : String := "invalid_credentials"
def codeAccountLocked : String := "account_locked"
def codeSessionRevoked : String := "session_revoked"
def codeInternal : String := "internal_error"
def codeUnavailable : String := "service_unavailable"

mutual

/-- `errors.As(err, &ve)` for a `*ValidationError`: the first one in the tree. -/
def asValidation : Error → Option (String × String)
  | .sentinel _ => none
  | .invalid field message => some (field, message)
  | .foreign _ => none
  | .errorf _ operands => asValidationAny operands

def asValidationAny : List Error → Option (String × String)
  | [] => none
  | e :: es => asValidation e <|> asValidationAny es

end

/-- `response.mapError`. -/
def mapError (err : Error) : ℕ × ErrorBody :=
  match asValidation err with
  | some (field, message) => (400, ⟨codeValidation, message, field⟩)
  | none =>
      -- 401 and not 404: the existence of an account is not confirmed
      if err.is .invalidCredentials then
        (401, ⟨codeInvalidCreds, Sentinel.invalidCredentials.text, ""⟩)
      else if err.is .accountLocked then (429, ⟨codeAccountLocked, Sentinel.accountLocked.text, ""⟩)
      else if err.is .sessionRevoked then
        (401, ⟨codeSessionRevoked, Sentinel.sessionRevoked.text, ""⟩)
      else if err.is .unauthenticated then
        (401, ⟨codeUnauthorized, Sentinel.unauthenticated.text, ""⟩)
      else if err.is .forbidden then (403, ⟨codeForbidden, Sentinel.forbidden.text, ""⟩)
      else if err.is .notFound then (404, ⟨codeNotFound, Sentinel.notFound.text, ""⟩)
      else if err.is .conflict then (409, ⟨codeConflict, Sentinel.conflict.text, ""⟩)
      else if err.is .validation then (400, ⟨codeValidation, err.text, ""⟩)
      else (500, ⟨codeInternal, "внутренняя ошибка сервера", ""⟩)

/-! ### Responses -/

/-- `response.Meta`. -/
structure Meta where
  total : ℕ
  limit : Int64
  offset : Int64

/-- The body of a response. -/
inductive Body where
  | empty
  | data (data : Json)
  | list (data : Json) (pages : Meta)
  | error (error : ErrorBody)

/-- The JSON of a body, if there is one. -/
def Body.json : Body → Option Json
  | .empty => none
  | .data value => some (.obj [("data", value)])
  | .list value pages => some (.obj [
      ("data", value),
      ("meta", .obj [("total", .num pages.total), ("limit", .num pages.limit.toInt),
        ("offset", .num pages.offset.toInt)])])
  | .error err => some (.obj [("error", .obj ([("code", .str err.code), ("message", .str err.message)] ++
      -- omitempty
      if err.field = "" then [] else [("field", .str err.field)]))])

/-- What a response does to the refresh cookie. -/
inductive CookieAction where
  | keep
  | set (token : String)
  | clear
deriving DecidableEq, Repr

/-- A response. -/
structure Response where
  status : ℕ
  body : Body
  cookie : CookieAction := .keep

namespace Response

/-- `response.OK`. -/
def ok (data : Json) : Response := ⟨200, .data data, .keep⟩

/-- `response.Created`. -/
def created (data : Json) : Response := ⟨201, .data data, .keep⟩

/-- `response.List`. -/
def list (data : Json) (pages : Meta) : Response := ⟨200, .list data pages, .keep⟩

/-- `response.NoContent`. -/
def noContent : Response := ⟨204, .empty, .keep⟩

/-- `response.Error`. -/
def error (err : Error) : Response := ⟨(mapError err).1, .error (mapError err).2, .keep⟩

/-- `response.Fail`. -/
def fail (status : ℕ) (code message : String) : Response := ⟨status, .error ⟨code, message, ""⟩, .keep⟩

/-- An error never has a status of success. -/
theorem error_status (err : Error) : 400 ≤ (error err).status := by
  unfold error mapError
  dsimp only
  split
  · simp
  · repeat' split
    all_goals simp

end Response

end SuperAdmin.Http
