import SuperAdmin.Go.Encoding
import SuperAdmin.Go.Errors
import SuperAdmin.Go.Format

/-! # Configuration

`internal/pkg/config`: what the service demands of its environment before it starts, as far as `validate`
looks at it, and the list of origins that one variable holds. -/

namespace SuperAdmin

namespace Config

structure App where
  env : String

structure HTTP where
  allowedOrigins : List String

structure DB where
  url : String

structure Redis where
  addr : String

structure JWT where
  privateKey : String
  publicKey : String
  keyID : String
  accessTTL : Duration
  refreshTTL : Duration

end Config

/-- `Config`. -/
structure Config where
  app : Config.App
  http : Config.HTTP
  db : Config.DB
  redis : Config.Redis
  jwt : Config.JWT

/-- An order in which `range` goes through a map. -/
structure MapRange where
  visit : List (String × String) → List (String × String)
  visit_perm : ∀ entries, (visit entries).Perm entries

namespace Config

/-- The variables that `validate` requires, with their values. -/
def required (c : Config) : List (String × String) := [
  ("DATABASE_URL", c.db.url),
  ("REDIS_ADDR", c.redis.addr),
  ("JWT_PRIVATE_KEY", c.jwt.privateKey),
  ("JWT_PUBLIC_KEY", c.jwt.publicKey),
  ("JWT_KEY_ID", c.jwt.keyID)]

/-- `validate`, given the order of the required variables and `strconv.IsPrint`. -/
def validate (range : MapRange) (isPrint : Char → Bool) (c : Config) : Except Error Unit :=
  let missing := ((range.visit c.required).filter fun entry => trimSpace entry.2 = "").map Prod.fst
  if missing ≠ [] then
    .error (.foreign ("не заданы обязательные переменные окружения: " ++ ", ".intercalate missing ++
      " (см. .env.example)"))
  else if c.http.allowedOrigins = [] then
    .error (.foreign "не задан CORS_ALLOWED_ORIGINS: список origin'ов фронтенда обязателен")
  else if "*" ∈ c.http.allowedOrigins then
    .error (.foreign "CORS_ALLOWED_ORIGINS=* запрещён: нужен явный whitelist (TECH_STACK.md §7)")
  else if c.app.env ∉ ["dev", "staging", "prod"] then
    .error (.foreign ("APP_ENV=" ++ quote isPrint c.app.env ++ ": допустимы dev, staging, prod"))
  else if c.jwt.accessTTL ≤ 0 ∨ c.jwt.refreshTTL ≤ 0 then
    .error (.foreign "TTL токенов должны быть положительными")
  else if Duration.hour < c.jwt.accessTTL then
    .error (.foreign ("ACCESS_TOKEN_TTL=" ++ c.jwt.accessTTL.string ++
      " слишком велик: короткий TTL — часть модели отзыва доступа"))
  else .ok ()

/-- `splitAndTrim`. -/
def splitAndTrim (s : String) : List String :=
  if trimSpace s = "" then []
  else ((s.toList.splitOn ',').map fun p => trimSpace (String.ofList p)).filter fun p => p ≠ ""

example : splitAndTrim " https://admin.example.com, ,https://staging.example.com " =
    ["https://admin.example.com", "https://staging.example.com"] := by decide

/-- The origins have no white space around them. -/
theorem mem_splitAndTrim {s o : String} (h : o ∈ splitAndTrim s) : o ≠ "" ∧ trimSpace o = o := by
  unfold splitAndTrim at h
  split at h
  · cases h
  · obtain ⟨hpart, hne⟩ := List.mem_filter.mp h
    obtain ⟨p, -, rfl⟩ := List.mem_map.mp hpart
    exact ⟨of_decide_eq_true hne, trimSpace_trimSpace _⟩

/-! ### What is accepted -/

/-- What `validate` accepts. -/
structure Accepted (c : Config) : Prop where
  required : ∀ entry ∈ c.required, trimSpace entry.2 ≠ ""
  origins : c.http.allowedOrigins ≠ []
  no_wildcard : "*" ∉ c.http.allowedOrigins
  env : c.app.env ∈ ["dev", "staging", "prod"]
  accessTTL_pos : 0 < c.jwt.accessTTL
  refreshTTL_pos : 0 < c.jwt.refreshTTL
  accessTTL_le : c.jwt.accessTTL ≤ Duration.hour

variable {range : MapRange} {isPrint : Char → Bool} {c : Config}

/-- No order of the variables hides a missing one. -/
theorem missing_eq_nil_iff :
    ((range.visit c.required).filter fun entry => trimSpace entry.2 = "").map Prod.fst = [] ↔
      ∀ entry ∈ c.required, trimSpace entry.2 ≠ "" := by
  rw [List.map_eq_nil_iff, List.filter_eq_nil_iff]
  constructor
  · intro h entry hentry hempty
    exact h entry ((range.visit_perm _).mem_iff.mpr hentry) (decide_eq_true hempty)
  · intro h entry hentry hempty
    exact h entry ((range.visit_perm _).mem_iff.mp hentry) (of_decide_eq_true hempty)

theorem validate_eq_ok_iff : c.validate range isPrint = .ok () ↔ c.Accepted := by
  unfold validate
  dsimp only
  rw [check_eq_ok_iff, check_eq_ok_iff, check_eq_ok_iff, check_eq_ok_iff, check_eq_ok_iff, check_eq_ok_iff,
    not_not, missing_eq_nil_iff, not_not, not_or, Int64.not_le, Int64.not_le, Int64.not_lt]
  constructor
  · rintro ⟨hrequired, horigins, hwildcard, henv, ⟨haccess, hrefresh⟩, hle, -⟩
    exact ⟨hrequired, horigins, hwildcard, henv, haccess, hrefresh, hle⟩
  · rintro ⟨hrequired, horigins, hwildcard, henv, haccess, hrefresh, hle⟩
    exact ⟨hrequired, horigins, hwildcard, henv, ⟨haccess, hrefresh⟩, hle, rfl⟩

end Config

end SuperAdmin
