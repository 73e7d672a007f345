import SuperAdmin.Config
import Mathlib.Logic.Function.Basic

/-! # Requests from other origins

`internal/delivery/http/middleware/cors.go` behind the middleware that `NewRouter` puts before it.  An answer
depends on the `Origin` of its request, but only that to an allowed origin says so in `Vary`; and an entry of
the list that is `*` and slashes passes the check of the configuration, but is read as `*`. -/

namespace SuperAdmin.Http

/-! ### Headers -/

/-- `http.Header`, by canonical key. -/
abbrev Header : Type := String → List String

namespace Header

/-- No header. -/
def empty : Header := fun _ => []

def get (h : Header) (key : String) : String := (h key).headD ""

def set (h : Header) (key value : String) : Header := Function.update h key [value]

def add (h : Header) (key value : String) : Header := Function.update h key (h key ++ [value])

def del (h : Header) (key : String) : Header := Function.update h key []

variable {h : Header} {key other value : String}

@[simp] theorem set_self : h.set key value key = [value] := Function.update_self ..

@[simp] theorem set_of_ne (hne : other ≠ key) : h.set key value other = h other := Function.update_of_ne hne ..

@[simp] theorem add_self : h.add key value key = h key ++ [value] := Function.update_self ..

@[simp] theorem add_of_ne (hne : other ≠ key) : h.add key value other = h other := Function.update_of_ne hne ..

end Header

/-- What the middleware for all routes reads of an `http.Request`. -/
structure RawRequest where
  method : String
  header : Header

/-- What the middleware leaves to the next handler, or answers with a status of its own. -/
structure Passage where
  header : Header
  aborted : Option ℕ

namespace Middleware

def headerReqID : String := "X-Request-Id"

/-- `RequestID`, given `uuid.NewString()`. -/
def requestID (uuid : String) (req : RawRequest) (h : Header) : Header :=
  let id := if req.header.get headerReqID = "" then uuid else req.header.get headerReqID
  -- gin deletes a header that is set to nothing
  if id = "" then h.del headerReqID else h.set headerReqID id

/-- `SecurityHeaders`. -/
def securityHeaders (h : Header) : Header :=
  let h := h.set "X-Content-Type-Options" "nosniff"
  let h := h.set "X-Frame-Options" "DENY"
  let h := h.set "Referrer-Policy" "no-referrer"
  h.set "Content-Security-Policy" "default-src 'none'; frame-ancestors 'none'"

/-- The `maxAge` of `CORS`. -/
def maxAge : Duration := 12 * Duration.hour

/-- `CORS`. -/
def cors (allowedOrigins : List String) (req : RawRequest) (h : Header) : Passage :=
  let allowed := allowedOrigins.map fun o => trimRight (trimSpace o) "/"
  let origin := trimRight (req.header.get "Origin") "/"
  if origin = "" then ⟨h, none⟩
  else if origin ∉ allowed then
    -- a preflight ends here, every other request passes without a header
    if req.method = "OPTIONS" then ⟨h, some 403⟩ else ⟨h, none⟩
  else
    let h := h.set "Access-Control-Allow-Origin" origin
    let h := h.set "Access-Control-Allow-Credentials" "true"
    let h := h.add "Vary" "Origin"
    if req.method = "OPTIONS" then
      let h := h.set "Access-Control-Allow-Methods" "GET, POST, PATCH, PUT, DELETE, OPTIONS"
      let h := h.set "Access-Control-Allow-Headers" "Authorization, Content-Type, X-Request-Id"
      ⟨h.set "Access-Control-Max-Age" (maxAge.toInt / Duration.second.toInt).repr, some 204⟩
    else ⟨h.set "Access-Control-Expose-Headers" "X-Request-Id", none⟩

end Middleware

/-- What stands before the routes of `NewRouter`; the recovery and the log set no header. -/
def passage (allowedOrigins : List String) (uuid : String) (req : RawRequest) : Passage :=
  Middleware.cors allowedOrigins req (Middleware.securityHeaders (Middleware.requestID uuid req .empty))

end SuperAdmin.Http

namespace SuperAdmin.Cors

open Http Middleware

/-! ### What is compared -/

/-- Two requests that differ in their `Origin` at most. -/
def SameButOrigin (req req' : RawRequest) : Prop :=
  req.method = req'.method ∧ ∀ key, key ≠ "Origin" → req.header key = req'.header key

/-- The headers that tell a browser what a page of another origin may see. -/
def AccessControl (key : String) : Prop := "Access-Control-".toList <+: key.toList

/-- No browser can tell the two apart. -/
def Alike (p p' : Passage) : Prop :=
  (∀ key, AccessControl key → p.header key = p'.header key) ∧ p.aborted = p'.aborted

def Varies (p : Passage) : Prop := "Origin" ∈ p.header "Vary"

/-- A cache may keep both. -/
def Cacheable (p p' : Passage) : Prop := ¬ Alike p p' → Varies p ∧ Varies p'

def Wildcard (p : Passage) : Prop := "*" ∈ p.header "Access-Control-Allow-Origin"

instance (p : Passage) : Decidable (Varies p) := inferInstanceAs (Decidable (_ ∈ _))
instance (p : Passage) : Decidable (Wildcard p) := inferInstanceAs (Decidable (_ ∈ _))

/-- The origin of a request, as `CORS` compares it. -/
def originOf (req : RawRequest) : String := trimRight (req.header.get "Origin") "/"

/-- An entry of the list, as `CORS` compares it. -/
def entryOf (o : String) : String := trimRight (trimSpace o) "/"

/-- The request names an origin, and one of the list. -/
def Allowed (allowedOrigins : List String) (req : RawRequest) : Prop :=
  originOf req ≠ "" ∧ ∃ o ∈ allowedOrigins, entryOf o = originOf req

/-- The two requests are allowed, or neither is and a preflight of the one ends if that of the other does. -/
def SameKind (allowedOrigins : List String) (req req' : RawRequest) : Prop :=
  Allowed allowedOrigins req ∧ Allowed allowedOrigins req' ∨
    (¬ Allowed allowedOrigins req ∧ ¬ Allowed allowedOrigins req') ∧
      (req.method = "OPTIONS" → (originOf req = "" ↔ originOf req' = ""))

/-- The request names `*`, and an entry that is another text is read as `*`. -/
def NamesWildcard (allowedOrigins : List String) (req : RawRequest) : Prop :=
  originOf req = "*" ∧ ∃ o ∈ allowedOrigins, o ≠ "*" ∧ entryOf o = "*"

instance (allowedOrigins : List String) (req : RawRequest) : Decidable (Allowed allowedOrigins req) :=
  inferInstanceAs (Decidable (_ ∧ _))
instance (allowedOrigins : List String) (req req' : RawRequest) : Decidable (SameKind allowedOrigins req req') :=
  inferInstanceAs (Decidable (_ ∨ _))
instance (allowedOrigins : List String) (req : RawRequest) : Decidable (NamesWildcard allowedOrigins req) :=
  inferInstanceAs (Decidable (_ ∧ _))

variable {allowedOrigins : List String} {uuid uuid' : String} {req req' : RawRequest} {key : String}

/-! ### Before CORS -/

/-- The headers that `CORS` finds set. -/
def before (uuid : String) (req : RawRequest) : Header := securityHeaders (requestID uuid req .empty)

/-- Their keys. -/
def keysBefore : List String :=
  [headerReqID, "X-Content-Type-Options", "X-Frame-Options", "Referrer-Policy", "Content-Security-Policy"]

theorem requestID_of_ne {h : Header} (hne : key ≠ headerReqID) : requestID uuid req h key = h key := by
  unfold requestID
  generalize (if req.header.get headerReqID = "" then uuid else req.header.get headerReqID) = id
  split
  · exact Function.update_of_ne hne ..
  · exact Header.set_of_ne hne

theorem before_eq_nil (hkey : key ∉ keysBefore) : before uuid req key = [] := by
  simp only [keysBefore, List.mem_cons, List.not_mem_nil, or_false, not_or] at hkey
  obtain ⟨hid, htype, hframe, hreferrer, hpolicy⟩ := hkey
  simp only [before, securityHeaders, Header.set_of_ne, requestID_of_ne, ne_eq, hid, htype, hframe, hreferrer,
    hpolicy, not_false_eq_true]
  rfl

theorem before_accessControl (hkey : AccessControl key) : before uuid req key = [] := by
  have hnone : ∀ k ∈ keysBefore, ¬ "Access-Control-".toList <+: k.toList := by decide
  exact before_eq_nil fun hmem => hnone key hmem hkey

theorem accessControl_allowOrigin : AccessControl "Access-Control-Allow-Origin" := by
  unfold AccessControl
  decide

theorem before_vary : before uuid req "Vary" = [] := before_eq_nil (by decide)

/-! ### What CORS does -/

theorem mem_allowed_iff : originOf req ∈ allowedOrigins.map entryOf ↔
    ∃ o ∈ allowedOrigins, entryOf o = originOf req := List.mem_map

/-- A request that is not allowed passes as it is, but for a preflight that names an origin. -/
theorem passage_of_not_allowed (h : ¬ Allowed allowedOrigins req) : passage allowedOrigins uuid req =
    ⟨before uuid req, if req.method = "OPTIONS" ∧ originOf req ≠ "" then some 403 else none⟩ := by
  unfold passage cors
  dsimp only
  by_cases hempty : originOf req = ""
  · have hnone : trimRight (req.header.get "Origin") "/" = "" := hempty
    rw [if_pos hnone, if_neg fun hboth => hboth.2 hempty]
    rfl
  · have hnone : ¬ trimRight (req.header.get "Origin") "/" = "" := hempty
    have hnot : trimRight (req.header.get "Origin") "/" ∉ allowedOrigins.map fun o => trimRight (trimSpace o) "/" :=
      fun hmem => h ⟨hempty, mem_allowed_iff.mp hmem⟩
    rw [if_neg hnone, if_pos hnot]
    by_cases hoptions : req.method = "OPTIONS"
    · rw [if_pos hoptions, if_pos ⟨hoptions, hempty⟩]
      rfl
    · rw [if_neg hoptions, if_neg fun hboth => hoptions hboth.1]
      rfl

theorem header_of_not_allowed (h : ¬ Allowed allowedOrigins req) :
    (passage allowedOrigins uuid req).header = before uuid req := congrArg Passage.header (passage_of_not_allowed h)

/-- An allowed request is answered in the name of its origin. -/
theorem passage_of_allowed (h : Allowed allowedOrigins req) :
    (passage allowedOrigins uuid req).header "Access-Control-Allow-Origin" = [originOf req] ∧
      (passage allowedOrigins uuid req).header "Vary" = ["Origin"] := by
  have hvary : securityHeaders (requestID uuid req .empty) "Vary" = [] := before_vary
  have hne : ¬ trimRight (req.header.get "Origin") "/" = "" := h.1
  have hmem : ¬ trimRight (req.header.get "Origin") "/" ∉ allowedOrigins.map fun o => trimRight (trimSpace o) "/" :=
    not_not.mpr (mem_allowed_iff.mpr h.2)
  unfold passage cors
  dsimp only
  rw [if_neg hne, if_neg hmem]
  split
  · simp [originOf, hvary]
  · simp [originOf, hvary]

theorem not_varies (h : ¬ Allowed allowedOrigins req) : ¬ Varies (passage allowedOrigins uuid req) := by
  rw [Varies, header_of_not_allowed h, before_vary]
  exact List.not_mem_nil

theorem varies (h : Allowed allowedOrigins req) : Varies (passage allowedOrigins uuid req) := by
  rw [Varies, (passage_of_allowed h).2]
  exact List.mem_singleton_self _

theorem allowOrigin_of_not_allowed (h : ¬ Allowed allowedOrigins req) :
    (passage allowedOrigins uuid req).header "Access-Control-Allow-Origin" = [] := by
  rw [header_of_not_allowed h, before_accessControl accessControl_allowOrigin]

/-- An allowed request and another one are told apart. -/
theorem not_alike (h : Allowed allowedOrigins req) (h' : ¬ Allowed allowedOrigins req') :
    ¬ Alike (passage allowedOrigins uuid req) (passage allowedOrigins uuid' req') := by
  intro halike
  have hkey := halike.1 _ accessControl_allowOrigin
  rw [(passage_of_allowed h).1, allowOrigin_of_not_allowed h'] at hkey
  cases hkey

/-- Without an allowed origin only a preflight can be told apart. -/
theorem alike_iff (h : ¬ Allowed allowedOrigins req) (h' : ¬ Allowed allowedOrigins req')
    (hmethod : req.method = req'.method) :
    Alike (passage allowedOrigins uuid req) (passage allowedOrigins uuid' req') ↔
      (req.method = "OPTIONS" → (originOf req = "" ↔ originOf req' = "")) := by
  have hkeys : ∀ key, AccessControl key → before uuid req key = before uuid' req' key := fun key hkey =>
    (before_accessControl hkey).trans (before_accessControl hkey).symm
  rw [passage_of_not_allowed h, passage_of_not_allowed h', ← hmethod]
  show _ ∧ _ ↔ _
  rw [and_iff_right hkeys]
  by_cases hoptions : req.method = "OPTIONS"
  · by_cases hempty : originOf req = "" <;> by_cases hempty' : originOf req' = "" <;>
      simp [hoptions, hempty, hempty']
  · simp [hoptions]

/-! ### Two requests -/

/-- A cache may keep the answers exactly if they are of one kind. -/
theorem cacheable_iff (hmethod : req.method = req'.method) :
    Cacheable (passage allowedOrigins uuid req) (passage allowedOrigins uuid' req') ↔
      SameKind allowedOrigins req req' := by
  by_cases h : Allowed allowedOrigins req <;> by_cases h' : Allowed allowedOrigins req'
  · exact iff_of_true (fun _ => ⟨varies h, varies h'⟩) (.inl ⟨h, h'⟩)
  · refine iff_of_false (fun hcache => not_varies h' (hcache (not_alike h h')).2) ?_
    rintro (hboth | ⟨hneither, -⟩)
    · exact h' hboth.2
    · exact hneither.1 h
  · refine iff_of_false (fun hcache => not_varies h (hcache fun halike => ?_).1) ?_
    · exact not_alike h' h ⟨fun key hkey => (halike.1 key hkey).symm, halike.2.symm⟩
    · rintro (hboth | ⟨hneither, -⟩)
      · exact h hboth.1
      · exact hneither.2 h'
  · have hsame : SameKind allowedOrigins req req' ↔
        (req.method = "OPTIONS" → (originOf req = "" ↔ originOf req' = "")) := by
      simp [SameKind, h, h']
    rw [hsame, ← alike_iff h h' hmethod]
    constructor
    · intro hcache
      by_contra hdiffer
      exact not_varies h (hcache hdiffer).1
    · exact fun halike hdiffer => absurd halike hdiffer

/-- `*` is let in exactly to a request that names it, by an entry that is read as it. -/
theorem wildcard_iff : Wildcard (passage allowedOrigins uuid req) ↔
    originOf req = "*" ∧ ∃ o ∈ allowedOrigins, entryOf o = "*" := by
  by_cases h : Allowed allowedOrigins req
  · rw [Wildcard, (passage_of_allowed h).1, List.mem_singleton]
    constructor
    · intro hstar
      exact ⟨hstar.symm, hstar ▸ h.2⟩
    · exact fun hnames => hnames.1.symm
  · rw [Wildcard, allowOrigin_of_not_allowed h]
    refine iff_of_false List.not_mem_nil fun ⟨hstar, hentry⟩ => h ⟨?_, ?_⟩
    · rw [hstar]
      decide
    · rw [hstar]
      exact hentry

/-- The check of the configuration leaves the entries that are read as `*` without being it. -/
theorem wildcard_iff_namesWildcard (hnone : "*" ∉ allowedOrigins) :
    Wildcard (passage allowedOrigins uuid req) ↔ NamesWildcard allowedOrigins req := by
  rw [wildcard_iff, NamesWildcard]
  refine and_congr_right fun _ => exists_congr fun o => and_congr_right fun ho => ?_
  exact (and_iff_right fun hstar : o = "*" => hnone (hstar ▸ ho)).symm

/-- What is read as `*`. -/
theorem trimRight_eq_star_iff {o : String} :
    trimRight o "/" = "*" ↔ ∃ n, o.toList = '*' :: List.replicate n '/' := by
  rw [trimRight, ← String.toList_inj, String.toList_ofList]
  constructor
  · intro hstar
    have hsplit := @List.rdropWhile_append_rtakeWhile _ (fun c => decide (c ∈ "/".toList)) o.toList
    have hslashes : ∀ c ∈ o.toList.rtakeWhile fun c => c ∈ "/".toList, c = '/' := fun c hc =>
      List.mem_singleton.mp (of_decide_eq_true (@List.mem_rtakeWhile_imp _ (fun c => decide (c ∈ "/".toList)) _ _ hc))
    rw [hstar, List.eq_replicate_of_mem hslashes] at hsplit
    exact ⟨_, hsplit.symm⟩
  · rintro ⟨n, hchars⟩
    rw [hchars]
    clear hchars
    induction n with
    | zero => decide
    | succ n ih =>
        rw [List.replicate_succ', ← List.cons_append, List.rdropWhile_concat_pos _ _ _ (by decide)]
        exact ih

/-- An entry of the environment that is not `*` is read as it exactly if slashes follow. -/
theorem entryOf_eq_star_iff {s o : String} (hmem : o ∈ Config.splitAndTrim s) (hne : o ≠ "*") :
    entryOf o = "*" ↔ ∃ n, o.toList = '*' :: '/' :: List.replicate n '/' := by
  rw [entryOf, (Config.mem_splitAndTrim hmem).2, trimRight_eq_star_iff]
  constructor
  · rintro ⟨n, hchars⟩
    cases n with
    | zero => exact absurd (String.toList_inj.mp hchars) hne
    | succ n => exact ⟨n, hchars⟩
  · rintro ⟨n, hchars⟩
    exact ⟨n + 1, hchars⟩

variable {range : MapRange} {isPrint : Char → Bool} {c : Config}

/-- A cache may keep the answers to two requests, and no page of any origin is let in, exactly if the requests
are of one kind and name no entry that is read as `*`. -/
theorem cacheable_without_wildcard_iff (hvalid : c.validate range isPrint = .ok ())
    (hsame : SameButOrigin req req') (uuid uuid' : String) :
    (Cacheable (passage c.http.allowedOrigins uuid req) (passage c.http.allowedOrigins uuid' req') ∧
      ¬ Wildcard (passage c.http.allowedOrigins uuid req) ∧
      ¬ Wildcard (passage c.http.allowedOrigins uuid' req')) ↔
    SameKind c.http.allowedOrigins req req' ∧ ¬ NamesWildcard c.http.allowedOrigins req ∧
      ¬ NamesWildcard c.http.allowedOrigins req' := by
  have hnone := (Config.validate_eq_ok_iff.mp hvalid).no_wildcard
  rw [cacheable_iff hsame.1, wildcard_iff_namesWildcard hnone, wildcard_iff_namesWildcard hnone]

/-! ### A deployment -/

/-- A configuration with the origins of a variable. -/
def sampleConfig (origins : String) : Config where
  app := ⟨"prod"⟩
  http := ⟨Config.splitAndTrim origins⟩
  db := ⟨"postgres://db/superadmin"⟩
  redis := ⟨"redis:6379"⟩
  jwt := ⟨"private", "public", "key-1", 15 * Duration.minute, Duration.hour⟩

def sampleRange : MapRange := ⟨id, fun _ => .refl _⟩

theorem validate_sampleConfig {origins : String} (hne : (sampleConfig origins).http.allowedOrigins ≠ [])
    (hstar : "*" ∉ (sampleConfig origins).http.allowedOrigins) :
    (sampleConfig origins).validate sampleRange isPrint = .ok () := by
  refine Config.validate_eq_ok_iff.mpr ⟨?_, hne, hstar, ?_, ?_, ?_, ?_⟩ <;>
    simp only [sampleConfig, Config.required] <;> decide

def get (origin : String) : RawRequest := ⟨"GET", Header.empty.set "Origin" origin⟩

theorem sameButOrigin_get (origin origin' : String) : SameButOrigin (get origin) (get origin') :=
  ⟨rfl, fun _ hkey => (Header.set_of_ne hkey).trans (Header.set_of_ne hkey).symm⟩

/-- A request without an origin. -/
def plain : RawRequest := ⟨"GET", .empty⟩

theorem sameButOrigin_plain (origin : String) : SameButOrigin (get origin) plain :=
  ⟨rfl, fun _ hkey => Header.set_of_ne hkey⟩

/-- Two front ends of one list. -/
theorem cacheable_two_origins :
    let origins := (sampleConfig "https://admin.example.com,https://staging.example.com").http.allowedOrigins
    Cacheable (passage origins "1" (get "https://admin.example.com"))
      (passage origins "2" (get "https://staging.example.com")) ∧
    ¬ Wildcard (passage origins "1" (get "https://admin.example.com")) ∧
    ¬ Wildcard (passage origins "2" (get "https://staging.example.com")) :=
  (@cacheable_without_wildcard_iff (get "https://admin.example.com") (get "https://staging.example.com") sampleRange
    (fun _ => true) (sampleConfig "https://admin.example.com,https://staging.example.com")
    (validate_sampleConfig (by decide) (by decide)) (sameButOrigin_get _ _) "1" "2").mpr (by decide)

/-- A cache that keeps the answer to a request without an origin gives it to the front end; and an entry that is
`*` with a slash is accepted and lets in every page that says it is `*`. -/
theorem not_cacheable_and_wildcard :
    ((sampleConfig "https://admin.example.com").validate sampleRange (fun _ => true) = .ok () ∧
      SameButOrigin (get "https://admin.example.com") plain ∧
      ¬ Cacheable
        (passage (sampleConfig "https://admin.example.com").http.allowedOrigins "1" (get "https://admin.example.com"))
        (passage (sampleConfig "https://admin.example.com").http.allowedOrigins "2" plain)) ∧
    ((sampleConfig "*/").validate sampleRange (fun _ => true) = .ok () ∧
      Wildcard (passage (sampleConfig "*/").http.allowedOrigins "1" (get "*"))) := by
  have hsame := sameButOrigin_plain "https://admin.example.com"
  refine ⟨⟨validate_sampleConfig (by decide) (by decide), hsame, ?_⟩,
    validate_sampleConfig (by decide) (by decide), by decide⟩
  rw [cacheable_iff hsame.1]
  decide

end SuperAdmin.Cors
