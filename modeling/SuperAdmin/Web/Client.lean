import SuperAdmin.Web.Browser

/-! # The code of a page

`lib/http.ts` and `features/auth/api.ts`.  A function that throws returns the failure here. -/

namespace SuperAdmin.Web

open Effects Http

/-- Call an operation. -/
abbrev perform (op : WebOp) : WebProc op.Res := Prog.perform (S := WebEff) op

/-! ### Responses -/

/-- A `Response`: its `fetch` and its status. -/
structure FetchResponse where
  fetch : ℕ
  status : ℕ

/-- `response.ok`. -/
def FetchResponse.ok (response : FetchResponse) : Bool :=
  decide (200 ≤ response.status ∧ response.status < 300)

/-- `await fetch(…)`. -/
def fetch (f : Fetch) : WebProc (Except Failure FetchResponse) := do
  let n ← perform (.fetch f)
  let status ← perform (.response n)
  return status.map fun status => ⟨n, status⟩

/-- `body.data`. -/
def envelope (body : Json) : Except Failure (Option Json) := property "data" (some body)

/-- A value that an `if` takes for true. -/
def truthy : Json → Bool
  | .null | .bool false | .num 0 => false
  | .str s => s != ""
  | _ => true

/-- The error that `parseErrorBody` finds; a body that is not JSON, or has no error, has none. -/
def errorOf (body : Except Failure Json) : Option Json :=
  match body with
  | .error _ => none
  | .ok parsed =>
      match property "error" (some parsed) with
      | .ok (some err) => if truthy err then some err else none
      | _ => none

/-- `new ApiError` with what `parseErrorBody` returns. -/
def apiError (status : ℕ) (body : Except Failure Json) : Failure :=
  match errorOf body with
  | none => .api status "unknown" ("Ошибка " ++ toString status) none
  | some err =>
      let field (name : String) : Option Json := ((property name (some err)).toOption).join
      .api status (text (field "code")) (text (field "message")) ((field "field").map fun f => text (some f))

/-! ### The silent refresh -/

/-- `body.data.access_token`. -/
def refreshedToken (body : Json) : Except Failure String := do
  let data ← envelope body
  let token ← property "access_token" data
  return text token

/-- The request of `doRefresh`. -/
def refreshFetch : Fetch where
  path := "/auth/refresh"
  method := .post

/-- `doRefresh`. -/
def doRefresh : WebProc (Except Failure Bool) := do
  match ← fetch refreshFetch with
  | .error e => return .error e
  | .ok response =>
  if !response.ok then return .ok false
  else
    match ← perform (.json response.fetch) with
    | .error e => return .error e
    | .ok body =>
    match refreshedToken body with
    | .error e => return .error e
    | .ok token =>
        perform (.updateAccessToken token)
        return .ok true

/-- `doRefresh` for the page that starts it. -/
def startRefresh (id : ℕ) : WebProc Unit := do
  let outcome ← doRefresh
  perform (.settleRefresh id outcome)

/-- `refreshAccessToken`: one promise for all that wait. -/
def refreshAccessToken : WebProc (Except Failure Bool) := do
  let (started, id) ← perform .joinRefresh
  if started then startRefresh id
  perform (.awaitRefresh id)

/-! ### Requests -/

/-- The headers of `request`. -/
def headersOf (init : RequestInit) (accessToken : Option String) : String → Option String :=
  let headers :=
    if init.body.isSome then Function.update init.headers "Content-Type" (some "application/json")
    else init.headers
  match accessToken with
  | none => headers
  | some token =>
      -- an empty token is falsy
      if token = "" then headers
      else Function.update headers "Authorization" (some ("Bearer " ++ token))

/-- The request of `request`. -/
def fetchOf (path : String) (init : RequestInit) (accessToken : Option String) : Fetch where
  path := path
  method := init.method
  headers := headersOf init accessToken
  body := init.body

/-- `request` up to the response. -/
def send (path : String) (init : RequestInit) : WebProc (Except Failure FetchResponse) := do
  let auth ← perform .getAuthState
  fetch (fetchOf path init auth.accessToken)

/-- `request` from the response on. -/
def unwrap (response : FetchResponse) : WebProc (Except Failure (Option Json)) := do
  if !response.ok then
    let body ← perform (.json response.fetch)
    return .error (apiError response.status body)
  -- DELETE is answered with 204 and no body
  else if response.status = 204 then return .ok none
  else
    let body ← perform (.json response.fetch)
    return body.bind envelope

/-- `request` with `isRetry`. -/
def retry (path : String) (init : RequestInit) : WebProc (Except Failure (Option Json)) := do
  match ← send path init with
  | .error e => return .error e
  | .ok response => unwrap response

/-- `request` after a 401: a refresh, and one retry. -/
def renew (path : String) (init : RequestInit) (response : FetchResponse) :
    WebProc (Except Failure (Option Json)) := do
  match ← refreshAccessToken with
  | .error e => return .error e
  | .ok true => retry path init
  | .ok false =>
      perform .clearSession
      unwrap response

/-- `request`. -/
def request (path : String) (init : RequestInit) : WebProc (Except Failure (Option Json)) := do
  match ← send path init with
  | .error e => return .error e
  | .ok response =>
      if response.status = 401 ∧ underAuth path = false then renew path init response
      else unwrap response

/-! ### Sign-in -/

/-- `login` once the request was answered. -/
def loginSession (body : Option Json) : Except Failure (String × AuthUser) := do
  let token ← property "access_token" body
  let user ← property "user" body
  let user ← toAuthUser user
  return (text token, user)

/-- `login`. -/
def login (email password : String) : WebProc (Except Failure Unit) := do
  match ← request "/auth/login" {
      method := .post
      body := some (.obj [("email", .str email), ("password", .str password)]) } with
  | .error e => return .error e
  | .ok body =>
  match loginSession body with
  | .error e => return .error e
  | .ok (token, user) =>
      perform (.setSession token user)
      return .ok ()

/-- `logout`: the store is cleared whether or not the request came through. -/
def logout : WebProc (Except Failure Unit) := do
  let res ← request "/auth/logout" { method := .post }
  perform .clearSession
  return res.map fun _ => ()

/-- `restoreSession` once `/me` was answered. -/
def restoreUser (me : Option Json) : WebProc Unit := do
  let auth ← perform .getAuthState
  match toAuthUser me with
  | .error _ => perform .clearSession
  | .ok user => perform (.setSession (auth.accessToken.getD "") user)

/-- `restoreSession`. -/
def restoreSession : WebProc (Except Failure Unit) := do
  match ← refreshAccessToken with
  | .error e => return .error e
  | .ok false =>
      perform .clearSession
      return .ok ()
  | .ok true =>
      match ← request "/me" {} with
      | .error _ => perform .clearSession
      | .ok me => restoreUser me
      return .ok ()

/-! ### What a page does -/

/-- What a page starts: the functions of `features/auth/api.ts`, and `request`. -/
inductive Flow where
  | login (email password : String)
  | logout
  | restoreSession
  | request (path : String) (init : RequestInit)

/-- A flow; where it resolves with nothing, with `undefined`. -/
def Flow.prog : Flow → WebProc (Except Failure (Option Json))
  | .login email password => do
      let res ← Web.login email password
      return res.map fun _ => none
  | .logout => do
      let res ← Web.logout
      return res.map fun _ => none
  | .restoreSession => do
      let res ← Web.restoreSession
      return res.map fun _ => none
  | .request path init => Web.request path init

/-! ### The calls of the flows -/

/-- The calls of a silent refresh. -/
def WebOp.ofRefresh : WebOp → Prop
  | .fetch f => f = refreshFetch
  | .getAuthState | .setSession _ _ | .clearSession => False
  | _ => True

theorem doRefresh_only : doRefresh.Only WebOp.ofRefresh := by
  refine .bind (.step rfl fun n => .step trivial fun r => trivial) fun r => ?_
  cases r with
  | error e => trivial
  | ok response =>
      dsimp only
      split
      · trivial
      · refine .step trivial fun r => ?_
        cases r with
        | error e => trivial
        | ok body =>
            dsimp only
            cases refreshedToken body with
            | error e => trivial
            | ok token => exact .step trivial fun _ => trivial

theorem refreshAccessToken_only : refreshAccessToken.Only WebOp.ofRefresh := by
  refine .step trivial fun ⟨started, id⟩ => ?_
  have hawait : (perform (.awaitRefresh id)).Only WebOp.ofRefresh := .perform trivial
  cases started with
  | false => exact hawait
  | true => exact .bind (.bind doRefresh_only fun outcome => .perform trivial) fun _ => hawait

/-- The calls that read a body. -/
def WebOp.isJson : WebOp → Prop
  | .json _ => True
  | _ => False

theorem unwrap_only (response : FetchResponse) : (unwrap response).Only WebOp.isJson := by
  unfold unwrap
  split
  · exact .step trivial fun _ => trivial
  · split
    · trivial
    · exact .step trivial fun _ => trivial

/-- `request` resolves only with a response that is `ok`. -/
theorem unwrap_returns (response : FetchResponse) :
    (unwrap response).Returns fun res => ∀ body, res = .ok body → response.ok = true := by
  unfold unwrap
  split
  · intro r body h
    cases h
  · rename_i hok
    have hok : response.ok = true := by simpa using hok
    split
    · exact fun _ _ => hok
    · exact fun _ _ _ => hok

end SuperAdmin.Web
