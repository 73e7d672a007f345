import SuperAdmin.Http.Response

/-! # What the answer to an error depends on

`mapError` looks for the errors of the domain in a tree of wrapped errors.  Where all of them are one, the
answer depends on that one alone: not on the texts around it, not on the errors of other packages beside
it, not on how they are nested.  There is one exception.  For a bare `ErrValidation` the message is the
text of the whole error. -/

namespace SuperAdmin

/-! ### The errors of the domain in a tree -/

/-- An error of the domain: a sentinel, or a `*ValidationError`. -/
inductive DomainError where
  | sentinel (s : Sentinel)
  | invalid (field message : String)
deriving DecidableEq

namespace DomainError

def error : DomainError → Error
  | sentinel s => .sentinel s
  | invalid field message => .invalid field message

/-- `errors.Is` of the leaf alone. -/
def is (l : DomainError) (target : Sentinel) : Bool := l.error.is target

/-- `errors.As` of the leaf alone. -/
def validation : DomainError → Option (String × String)
  | sentinel _ => none
  | invalid field message => some (field, message)

end DomainError

mutual

/-- The errors of the domain in a tree, from left to right. -/
def Error.leaves : Error → List DomainError
  | .sentinel s => [.sentinel s]
  | .invalid field message => [.invalid field message]
  | .foreign _ => []
  | .errorf _ operands => Error.leavesOf operands

def Error.leavesOf : List Error → List DomainError
  | [] => []
  | e :: es => e.leaves ++ Error.leavesOf es

end

/-- All errors of the domain in the tree are `o`; there are none if it is `none`. -/
def Error.Sole (e : Error) (o : Option DomainError) : Prop := ∀ l, l ∈ e.leaves ↔ o = some l

/-! ### errors.Is and errors.As search the leaves -/

mutual

theorem Error.is_eq_any (e : Error) (target : Sentinel) : e.is target = e.leaves.any (·.is target) :=
  match e with
  | .sentinel s => by simp [Error.leaves, DomainError.is, DomainError.error]
  | .invalid field message => by simp [Error.leaves, DomainError.is, DomainError.error]
  | .foreign text => rfl
  | .errorf text operands => Error.anyIs_eq_any operands target

theorem Error.anyIs_eq_any (es : List Error) (target : Sentinel) :
    Error.anyIs es target = (Error.leavesOf es).any (·.is target) :=
  match es with
  | [] => rfl
  | e :: es => by
      rw [Error.anyIs, Error.leavesOf, List.any_append, Error.is_eq_any e, Error.anyIs_eq_any es]

end

namespace Http

mutual

theorem asValidation_eq_findSome? (e : Error) : asValidation e = e.leaves.findSome? DomainError.validation :=
  match e with
  | .sentinel _ | .invalid _ _ | .foreign _ => rfl
  | .errorf _ operands => asValidationAny_eq_findSome? operands

theorem asValidationAny_eq_findSome? (es : List Error) :
    asValidationAny es = (Error.leavesOf es).findSome? DomainError.validation :=
  match es with
  | [] => rfl
  | e :: es => by
      rw [asValidationAny, Error.leavesOf, List.findSome?_append, asValidation_eq_findSome? e,
        asValidationAny_eq_findSome? es, Option.orElse_eq_orElse, Option.orElse_eq_or]

end

section sole

variable {e : Error} {o : Option DomainError}

theorem is_of_sole (h : e.Sole o) (target : Sentinel) : e.is target = o.any (·.is target) := by
  rw [Error.is_eq_any, Bool.eq_iff_iff, List.any_eq_true, Option.any_eq_true_iff_get]
  constructor
  · rintro ⟨l, hl, his⟩
    obtain rfl := (h l).mp hl
    exact ⟨rfl, his⟩
  · rintro ⟨hsome, his⟩
    exact ⟨o.get hsome, (h _).mpr (Option.some_get hsome).symm, his⟩

theorem asValidation_of_sole (h : e.Sole o) : asValidation e = o.bind DomainError.validation := by
  rw [asValidation_eq_findSome?]
  cases hfound : e.leaves.findSome? DomainError.validation with
  | some v =>
      obtain ⟨l, hl, hv⟩ := List.exists_of_findSome?_eq_some hfound
      rw [(h l).mp hl, Option.bind_some, hv]
  | none =>
      cases o with
      | none => rfl
      | some l => exact (List.findSome?_eq_none_iff.mp hfound l ((h l).mpr rfl)).symm

end sole

/-! ### The answer -/

/-- The status and the code that belong to a sentinel. -/
def statusOf : Sentinel → ℕ × String
  | .notFound => (404, codeNotFound)
  | .conflict => (409, codeConflict)
  | .forbidden => (403, codeForbidden)
  | .unauthenticated => (401, codeUnauthorized)
  | .invalidCredentials => (401, codeInvalidCreds)
  | .accountLocked => (429, codeAccountLocked)
  | .sessionRevoked => (401, codeSessionRevoked)
  | .validation => (400, codeValidation)

/-- The answer that belongs to an error of the domain, or to none. -/
def answerOf : Option DomainError → ℕ × ErrorBody
  | some (.sentinel s) => ((statusOf s).1, ⟨(statusOf s).2, s.text, ""⟩)
  | some (.invalid field message) => (400, ⟨codeValidation, message, field⟩)
  | none => (500, ⟨codeInternal, "внутренняя ошибка сервера", ""⟩)

/-- **The answer is that of the error of the domain**, whatever stands around it, unless that is a bare
`ErrValidation` under another text. -/
theorem mapError_eq_answerOf_iff {e : Error} {o : Option DomainError} (h : e.Sole o) :
    mapError e = answerOf o ↔
      (o = some (.sentinel .validation) → e.text = Sentinel.validation.text) := by
  have his := is_of_sole h
  unfold mapError
  rw [asValidation_of_sole h]
  simp only [his]
  rcases o with _ | l
  · simp [answerOf]
  · cases l with
    | invalid field message => simp [answerOf, DomainError.validation]
    | sentinel s =>
        cases s with
        | validation =>
            simp [answerOf, statusOf, DomainError.validation, DomainError.is, DomainError.error]
        | _ => simp [answerOf, statusOf, DomainError.validation, DomainError.is, DomainError.error]

/-- A missing row, wrapped twice beside an error of the driver, is answered as a missing row. -/
theorem mapError_eq_answerOf_wrapped :
    mapError (.errorf "чтение" [.foreign "timeout", .wrapf "запрос" (.sentinel .notFound)]) =
      answerOf (some (.sentinel .notFound)) := by
  have hsole : (Error.errorf "чтение" [.foreign "timeout", .wrapf "запрос" (.sentinel .notFound)]).Sole
      (some (.sentinel .notFound)) := fun l => by
    simp [Error.leaves, Error.leavesOf, Error.wrapf, eq_comm]
  exact (mapError_eq_answerOf_iff hsole).mpr fun h => by cases h

/-- The text around a bare `ErrValidation` goes out as the message. -/
theorem mapError_shows_text :
    ¬ ∀ (e : Error) (o : Option DomainError), e.Sole o → mapError e = answerOf o := by
  intro hclaim
  have hanswer := hclaim (.wrapf "INSERT INTO tenants" (.sentinel .validation))
    (some (.sentinel .validation)) fun l => by simp [Error.leaves, Error.leavesOf, Error.wrapf, eq_comm]
  revert hanswer
  decide

end Http

end SuperAdmin
