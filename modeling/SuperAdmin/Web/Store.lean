import SuperAdmin.Http.Response

/-! # The session store of a page

`lib/auth.ts`: the state that is kept outside React, and its setters.  The listeners that redraw the
screen are left out. -/

namespace SuperAdmin.Web

open Http

/-! ### Values of the client -/

/-- Why a promise of the client is rejected. -/
inductive Failure where
  /-- A `fetch`, or the reading of a body, did not come through. -/
  | network
  /-- A body is not JSON. -/
  | notJson
  /-- A property of `null` or of `undefined` was read. -/
  | typeError
  /-- `ApiError`. -/
  | api (status : ℕ) (code message : String) (field : Option String)

/-- `value.name`; a value that is absent is `undefined`.  Of equal keys the last counts. -/
def property (name : String) : Option Json → Except Failure (Option Json)
  | none | some .null => .error .typeError
  | some (.obj fields) => .ok (fields.reverse.lookup name)
  | some _ => .ok none

/-- A value that is declared as a string; what is none counts as the empty one, which is as falsy as
`undefined`. -/
def text : Option Json → String
  | some (.str s) => s
  | _ => ""

/-- `AuthUser`. -/
structure AuthUser where
  id : String
  email : String
  fullName : String
  role : String
  permissions : List String
deriving DecidableEq

/-- `toAuthUser` of a value that is declared as a `UserResponse`. -/
def toAuthUser (u : Option Json) : Except Failure AuthUser := do
  let id ← property "id" u
  let email ← property "email" u
  let fullName ← property "full_name" u
  let role ← property "role" u
  let permissions ← property "permissions" u
  return {
    id := text id
    email := text email
    fullName := text fullName
    role := text role
    permissions := match permissions with
      | some (.arr items) => items.map fun item => text (some item)
      | _ => [] }

/-! ### The store -/

/-- `AuthState.status`. -/
inductive SessionStatus where
  | checking
  | authenticated
  | anonymous
deriving DecidableEq

/-- `AuthState`; a fresh page is `checking`. -/
structure AuthState where
  accessToken : Option String := none
  user : Option AuthUser := none
  /-- Until it is decided whether there is a session, the screens do not flash the login. -/
  status : SessionStatus := .checking
deriving DecidableEq

/-- `setSession`. -/
def setSession (accessToken : String) (user : AuthUser) : AuthState where
  accessToken := some accessToken
  user := some user
  status := .authenticated

/-- `clearSession`. -/
def clearSession : AuthState where
  accessToken := none
  user := none
  status := .anonymous

/-- `updateAccessToken`: only the token. -/
def updateAccessToken (accessToken : String) (state : AuthState) : AuthState :=
  { state with accessToken := some accessToken }

end SuperAdmin.Web
