import SuperAdmin.Http.Served
import SuperAdmin.Access.Passing
import SuperAdmin.Web.Client

/-! # What the server gets of a request

The paths of `router.go` under `/api/v1`.  A path is matched as the client writes it: how a browser
resolves dots in a path, and how escapes in it are read, are not part of the repository, and no call of
the client has any. -/

namespace SuperAdmin.Web

open Effects Http

/-! ### Paths -/

/-- The segments of a path; the first one stands before its first slash. -/
def segments (path : String) : List String := ((pathname path).splitOn '/').map String.ofList

/-- What stands behind the question mark. -/
def queryText (path : String) : String :=
  String.ofList (((path.toList.takeWhile (· != '#')).dropWhile (· != '?')).drop 1)

/-- The routes without a parameter. -/
def staticRoute : Method → List String → Option Route
  | .post, ["auth", "login"] => some .login
  | .post, ["auth", "refresh"] => some .refresh
  | .post, ["auth", "logout"] => some .logout
  | .get, ["me"] => some .me
  | .get, ["team"] => some .teamList
  | .post, ["team", "invite"] => some .teamInvite
  | .get, ["journal"] => some .journalList
  | .get, ["settings"] => some .settingsGet
  | .post, ["settings", "message-template"] => some .settingsSaveTemplate
  | .get, ["overview"] => some .overview
  | .get, ["clients"] => some .tenantList
  | .post, ["clients"] => some .tenantCreate
  | .get, ["clients", "email-taken"] => some .tenantEmailTaken
  | .get, ["tickets"] => some .ticketList
  | _, _ => none

/-- The routes with `:id` in second place, by what stands around it. -/
def paramRoute : Method → String → List String → Option Route
  | .post, "team", ["role"] => some .teamUpdateRole
  | .delete, "team", [] => some .teamRevoke
  | .get, "clients", [] => some .tenantGet
  | .get, "clients", ["tickets"] => some .tenantTickets
  | .get, "clients", ["journal"] => some .tenantJournal
  | .post, "clients", ["suspend"] => some .tenantSuspend
  | .post, "clients", ["resume"] => some .tenantResume
  | .post, "clients", ["activation-code"] => some .tenantIssueCode
  | .delete, "clients", [] => some .tenantDelete
  | .get, "tickets", [] => some .ticketGet
  | .post, "tickets", ["messages"] => some .ticketReply
  | .post, "tickets", ["assign"] => some .ticketAssign
  | .post, "tickets", ["status"] => some .ticketUpdateStatus
  | .post, "tickets", ["priority"] => some .ticketUpdatePriority
  | _, _, _ => none

/-- The route of a request and its `id`; a route without a parameter comes first. -/
def matchRoute (method : Method) (path : String) : Option (Route × String) :=
  match segments path with
  | "" :: rest =>
      match staticRoute method rest with
      | some route => some (route, "")
      | none =>
          match rest with
          | group :: id :: rest =>
              if id = "" then none else (paramRoute method group rest).map fun route => (route, id)
          | _ => none
  | _ => none

theorem staticRoute_underAuth {method : Method} {path : List String} {route : Route}
    (h : staticRoute method path = some route) (hauth : route.underAuth = true) :
    ∃ name, path = ["auth", name] := by
  unfold staticRoute at h
  split at h <;> cases h
  case h_1 | h_2 | h_3 => exact ⟨_, rfl⟩
  all_goals cases hauth

theorem paramRoute_underAuth {method : Method} {group : String} {rest : List String} {route : Route}
    (h : paramRoute method group rest = some route) : route.underAuth = false := by
  unfold paramRoute at h
  split at h <;> cases h
  all_goals rfl

/-- Only a path that starts with `/auth/` leads to a route under `/auth`. -/
theorem underAuth_of_matchRoute {method : Method} {path id : String} {route : Route}
    (h : matchRoute method path = some (route, id)) (hpath : underAuth path = false) :
    route.underAuth = false := by
  by_contra hauth
  rw [Bool.not_eq_false] at hauth
  unfold matchRoute at h
  split at h
  · rename_i rest hsegments
    split at h
    · rename_i r hstatic
      cases h
      obtain ⟨name, rfl⟩ := staticRoute_underAuth hstatic hauth
      have hsplit : (pathname path).splitOn '/' = [[], "auth".toList, name.toList] := by
        have hmap := congrArg (List.map String.toList) hsegments
        rw [segments, List.map_map] at hmap
        simpa using hmap
      have hjoin : ['/'].intercalate ((pathname path).splitOn '/') = pathname path :=
        List.intercalate_splitOn '/'
      rw [hsplit] at hjoin
      have hprefix : "/auth/".toList <+: pathname path := by
        rw [← hjoin]
        exact ⟨name.toList, by simp [List.intercalate]⟩
      have hprefix : "/auth/".toList <+: path.toList := hprefix.trans (List.takeWhile_prefix _)
      rw [underAuth, List.isPrefixOf_iff_prefix.mpr hprefix] at hpath
      cases hpath
    · split at h
      · split at h
        · cases h
        · obtain ⟨r, hr, hpair⟩ := Option.map_eq_some_iff.mp h
          cases hpair
          rw [paramRoute_underAuth hr] at hauth
          cases hauth
      · cases h
  · cases h

/-! ### Requests -/

/-- What the server reads of a request; `query` reads the parameters of a query. -/
def requestOf (query : String → String → String) (rc : RequestContext) (f : Fetch)
    (cookie : Option String) (route : Route) (id : String) : Request where
  route := route
  id := id
  query := query (queryText f.path)
  authorization := (f.headers "Authorization").getD ""
  cookie := cookie
  body := f.body
  ip := rc.ip
  userAgent := rc.userAgent

/-- The request that the server gets, if its path has a route. -/
def received (query : String → String → String) (rc : RequestContext) (f : Fetch)
    (cookie : Option String) : Option Request :=
  (matchRoute f.method f.path).map fun (route, id) => requestOf query rc f cookie route id

/-- `NoRoute`. -/
def noRoute : Response := .fail 404 codeNotFound "маршрут не найден"

/-- The answers that the server can give to a request of the client, each with the mark whether the
usecase behind its route was called. -/
def Answers (d : Deps) (web : Http.Web) (query : String → String → String) (f : Fetch)
    (cookie : Option String) (resp : Response) (called : Bool) : Prop :=
  ∃ rc, match received query rc f cookie with
    | some req => Served d web req resp called
    | none => resp = noRoute ∧ called = false

theorem Answers.of_served {d : Deps} {web : Http.Web} {query : String → String → String} {f : Fetch}
    {cookie : Option String} {route : Route} {id : String} {resp : Response} {called : Bool}
    (rc : RequestContext) (hmatch : matchRoute f.method f.path = some (route, id))
    (h : Served d web (requestOf query rc f cookie route id) resp called) :
    Answers d web query f cookie resp called := by
  refine ⟨rc, ?_⟩
  rw [received, hmatch]
  exact h

/-- Outside `/auth`: with 401 only if the usecase was not called, with a success only if it was. -/
theorem Answers.status {d : Deps} {web : Http.Web} {query : String → String → String} {f : Fetch}
    {cookie : Option String} {resp : Response} {called : Bool}
    (h : Answers d web query f cookie resp called) (hpath : underAuth f.path = false) :
    (called = true → resp.status ≠ 401) ∧ (called = false → 400 ≤ resp.status) := by
  obtain ⟨rc, h⟩ := h
  cases hreq : received query rc f cookie with
  | none =>
      rw [hreq] at h
      obtain ⟨rfl, rfl⟩ := h
      exact ⟨fun h => (by cases h), fun _ => (by decide : 400 ≤ 404)⟩
  | some req =>
      rw [hreq] at h
      obtain ⟨⟨route, id⟩, hmatch, rfl⟩ := Option.map_eq_some_iff.mp hreq
      exact h.status (underAuth_of_matchRoute hmatch hpath)

/-- The server: it answers a request as the code of the handlers can, whatever the state is and however
it changes meanwhile. -/
def server {σ ι κ : Type} (d : Deps) (web : Http.Web) (query : String → String → String) (_ : Browser σ ι κ Bool)
    (f : Flight ι Bool) (resp : Response) (called : Bool) (_ : σ) : Prop :=
  Answers d web query f.request f.cookie resp called

/-! ### The token of a page -/

theorem headersOf_bearer {token : String} (hne : token ≠ "") (init : RequestInit) :
    headersOf init (some token) "Authorization" = some (bearer token) := by
  unfold headersOf bearer
  dsimp only
  rw [if_neg hne, Function.update_self]

/-- The server reads the token that a page has sent. -/
theorem bearerToken_requestOf {token : String} (hne : token ≠ "") (htrim : trimSpace token = token)
    (query : String → String → String) (rc : RequestContext) (path : String) (init : RequestInit)
    (cookie : Option String) (route : Route) (id : String) :
    Middleware.bearerToken
      (requestOf query rc (fetchOf path init (some token)) cookie route id).authorization = some token := by
  show Middleware.bearerToken ((headersOf init (some token) "Authorization").getD "") = _
  rw [headersOf_bearer hne]
  exact Middleware.bearerToken_bearer hne htrim

end SuperAdmin.Web

/-! ### Answers of the sample deployment -/

namespace SuperAdmin.Sample

open Effects Http Web

/-- A form of emails that takes everything. -/
def web : Http.Web := ⟨fun _ => true⟩

/-- A query without parameters. -/
def noQuery (_ _ : String) : String := ""

/-- The answer to a token that is not accepted. -/
def unauthorized : Response := .fail 401 codeUnauthorized "некорректный или истёкший токен"

/-- What an access token of the owner says after a refresh. -/
def renewedClaims : AccessClaims := Usecase.Auth.accessClaims deps owner 7 8 start

/-- The answer to a refresh. -/
def renewed (token : String) : Response :=
  { Response.ok (.obj [
      ("access_token", .str token),
      ("expires_at", .time (start.add deps.cfg.accessTTL))]) with
    cookie := .set (rawURLEncodeToString []) }

theorem answers_unauthorized {f : Fetch} {cookie : Option String} {route : Route} {id token : String}
    (hmatch : matchRoute f.method f.path = some (route, id)) (haccess : route.access ≠ .anyone)
    (htoken : Middleware.bearerToken
      (requestOf noQuery context f cookie route id).authorization = some token) :
    Answers deps web noQuery f cookie unauthorized false :=
  .of_served context hmatch (served_unauthorized haccess htoken)

theorem answers_renewed {token : String} (h : deps.issuer.issue renewedClaims = .ok token) :
    Answers deps web noQuery refreshFetch (some firstToken) (renewed token) true := by
  have hroute : matchRoute refreshFetch.method refreshFetch.path = some (.refresh, "") := by
    decide
  have hraw : firstToken ≠ "" := by decide
  have hlogin : owner.ensureCanLogin start = none := by decide
  have hunexpired : (Usecase.Auth.refreshRecord deps owner 9 7 firstToken context start).isExpired start =
      false := by decide
  exact .of_served context hroute (served_refresh [] rfl rfl hraw rfl hunexpired rfl hlogin h)

end SuperAdmin.Sample
