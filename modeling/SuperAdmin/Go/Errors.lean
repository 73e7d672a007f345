import Mathlib.Data.List.Basic

/-! # Domain errors and `errors.Is`

The sentinel errors of `domain/errors.go`, `*ValidationError`, errors of other packages, and
what `fmt.Errorf` builds over them with `%w`. -/

namespace SuperAdmin

/-- The error variables of the domain. -/
inductive Sentinel where
  | notFound
  | conflict
  | forbidden
  | unauthenticated
  | invalidCredentials
  | accountLocked
  | sessionRevoked
  | validation
deriving DecidableEq, Repr

/-- The text of a sentinel. -/
def Sentinel.text : Sentinel → String
  | .notFound => "не найдено"
  | .conflict => "конфликт состояния"
  | .forbidden => "доступ запрещён"
  | .unauthenticated => "требуется аутентификация"
  | .invalidCredentials => "неверный email или пароль"
  | .accountLocked => "учётная запись временно заблокирована"
  | .sessionRevoked => "сессия отозвана"
  | .validation => "ошибка валидации"

/-- A non-nil `error`. -/
inductive Error where
  /-- An error variable of the domain. -/
  | sentinel (s : Sentinel)
  /-- `*ValidationError`; it unwraps to `ErrValidation`. -/
  | invalid (field message : String)
  /-- An error of another package: a driver, the network, a parser. -/
  | foreign (text : String)
  /-- What `fmt.Errorf` builds: its text and the operands of its `%w` verbs. -/
  | errorf (text : String) (operands : List Error)

namespace Error

/-- `err.Error()`. -/
def text : Error → String
  | .sentinel s => s.text
  | .invalid field message => field ++ ": " ++ message
  | .foreign text => text
  | .errorf text _ => text

/-- `fmt.Errorf("context: %w", err)`. -/
def wrapf (context : String) (err : Error) : Error := .errorf (context ++ ": " ++ err.text) [err]

/-- `fmt.Errorf("%w: detail", err)`. -/
def withf (err : Error) (detail : String) : Error := .errorf (err.text ++ ": " ++ detail) [err]

end Error

mutual

/-- `errors.Is(err, target)` for a sentinel `target`. -/
def Error.is : Error → Sentinel → Bool
  | .sentinel s, target => s == target
  | .invalid _ _, target => Sentinel.validation == target
  | .foreign _, _ => false
  | .errorf _ operands, target => Error.anyIs operands target

/-- Some error of the list is `target`. -/
def Error.anyIs : List Error → Sentinel → Bool
  | [], _ => false
  | e :: es, target => e.is target || Error.anyIs es target

end

@[simp] theorem Error.is_sentinel (s target : Sentinel) :
    (Error.sentinel s).is target = (s == target) := rfl

@[simp] theorem Error.is_invalid (field message : String) (target : Sentinel) :
    (Error.invalid field message).is target = (Sentinel.validation == target) := rfl

@[simp] theorem Error.is_foreign (text : String) (target : Sentinel) :
    (Error.foreign text).is target = false := rfl

@[simp] theorem Error.is_errorf (text : String) (operands : List Error) (target : Sentinel) :
    (Error.errorf text operands).is target = operands.any (·.is target) := by
  have hany : ∀ es : List Error, Error.anyIs es target = es.any (·.is target) := by
    intro es
    induction es with
    | nil => rfl
    | cons e es ih => rw [Error.anyIs, List.any_cons, ih]
  rw [Error.is, hany]

/-- `errors.Is(err, target)` for an error variable `target` of another package. -/
inductive Error.WrappedIn (target : Error) : Error → Prop
  | self : WrappedIn target target
  | operand {text : String} {operands : List Error} {err : Error} (herr : err ∈ operands)
      (h : WrappedIn target err) : WrappedIn target (.errorf text operands)

/-- `fmt.Errorf("%w: detail", err)` wraps `err`. -/
theorem Error.wrappedIn_withf (err : Error) (detail : String) : err.WrappedIn (err.withf detail) :=
  .operand (List.mem_singleton_self _) .self

/-! ### The first error is returned -/

theorem bind_ok {ε α β : Type} {x : Except ε α} {k : α → Except ε β} {b : β}
    (h : x >>= k = .ok b) : ∃ a, x = .ok a ∧ k a = .ok b := by
  cases x with
  | error e => cases h
  | ok a => exact ⟨a, rfl, h⟩

theorem bind_error {ε α β : Type} {x : Except ε α} {k : α → Except ε β} {err : ε}
    (h : x >>= k = .error err) : x = .error err ∨ ∃ a, x = .ok a ∧ k a = .error err := by
  cases x with
  | error e =>
      cases h
      exact .inl rfl
  | ok a => exact .inr ⟨a, rfl, h⟩

/-- A check in front of others. -/
theorem check_eq_ok_iff {ε α : Type} {p : Prop} [Decidable p] {err : ε} {rest : Except ε α} {a : α} :
    (if p then .error err else rest) = .ok a ↔ ¬ p ∧ rest = .ok a := by
  by_cases hp : p
  · rw [if_pos hp]
    exact iff_of_false (fun h => by cases h) fun h => h.1 hp
  · rw [if_neg hp]
    exact (and_iff_right hp).symm

end SuperAdmin
