import SuperAdmin.Http.Response
import SuperAdmin.Authz

/-! # Requests

The routes of `router.go` with what each demands of the caller, and the parts of a request that the
middleware and the handlers read.  The HTTP server and gin's matching of paths are not part of the
repository: a request here has been matched to its route, and its body is the JSON value that its
text denotes. -/

namespace SuperAdmin.Http

/-! ### Routes -/

/-- The routes of `NewRouter` under `/api/v1`. -/
inductive Route where
  | login
  | refresh
  | logout
  | me
  | teamList
  | teamInvite
  | teamUpdateRole
  | teamRevoke
  | journalList
  | settingsGet
  | settingsSaveTemplate
  | overview
  | tenantList
  | tenantCreate
  | tenantEmailTaken
  | tenantGet
  | tenantTickets
  | tenantJournal
  | tenantSuspend
  | tenantResume
  | tenantIssueCode
  | tenantDelete
  | ticketList
  | ticketGet
  | ticketReply
  | ticketAssign
  | ticketUpdateStatus
  | ticketUpdatePriority
deriving DecidableEq, Repr

/-- What stands before the handler of a route. -/
inductive Access where
  /-- No middleware of its own. -/
  | anyone
  /-- `middleware.Auth`. -/
  | authenticated
  /-- `middleware.Auth` and `middleware.Require`. -/
  | requires (res : Resource) (act : Action)
deriving DecidableEq, Repr

/-- The middleware that `NewRouter` hangs on each route. -/
def Route.access : Route → Access
  -- logout has no Auth, so that it also works with an expired access token
  | .login | .refresh | .logout => .anyone
  | .me => .authenticated
  | .teamList => .requires .superAdmin .read
  | .teamInvite => .requires .superAdmin .create
  | .teamUpdateRole => .requires .superAdmin .update
  | .teamRevoke => .requires .superAdmin .delete
  | .journalList => .requires .auditLog .read
  | .settingsGet => .requires .settings .read
  | .settingsSaveTemplate => .requires .settings .update
  | .overview => .requires .metrics .read
  | .tenantList | .tenantEmailTaken | .tenantGet | .tenantJournal => .requires .tenant .read
  | .tenantCreate => .requires .tenant .create
  | .tenantTickets => .requires .supportTicket .read
  | .tenantSuspend | .tenantResume => .requires .tenant .suspend
  | .tenantIssueCode => .requires .tenant .update
  | .tenantDelete => .requires .tenant .delete
  | .ticketList | .ticketGet => .requires .supportTicket .read
  | .ticketReply => .requires .supportTicket .create
  | .ticketAssign | .ticketUpdateStatus | .ticketUpdatePriority => .requires .supportTicket .update

/-! ### Requests -/

/-- What the code reads of a request. -/
structure Request where
  route : Route
  /-- The path parameter `id`. -/
  id : String := ""
  /-- The query parameters; an absent one is empty. -/
  query : String → String := fun _ => ""
  /-- The `Authorization` header; an absent one is empty. -/
  authorization : String := ""
  /-- The cookie `refresh_token`. -/
  cookie : Option String := none
  /-- The body, if it is JSON. -/
  body : Option Json := none
  ip : String
  userAgent : String

/-- `requestContext`. -/
def Request.context (req : Request) : RequestContext := ⟨req.ip, req.userAgent⟩

/-! ### ShouldBindJSON -/

/-- The ASCII lower case of a character, where `ſ` and the Kelvin sign fold to letters as well. -/
def fold (c : Char) : Char :=
  if 'A' ≤ c ∧ c ≤ 'Z' then Char.ofNat (c.toNat + 32)
  else if c = Char.ofNat 0x17F then 's'
  else if c = Char.ofNat 0x212A then 'k'
  else c

/-- `strings.EqualFold` with an ASCII string. -/
def equalFold (s ascii : String) : Bool := s.toList.map fold == ascii.toList.map fold

/-- Decode a string field: the last key that matches the name counts, `null` changes nothing. -/
def decodeString (fields : List (String × Json)) (name : String) : Option String :=
  fields.foldl (fun acc p =>
    if equalFold p.1 name then
      match p.2, acc with
      | .str s, some _ => some s
      | .null, acc => acc
      | _, _ => none
    else acc) (some "")

/-- Decode an `int` field. -/
def decodeInt (fields : List (String × Json)) (name : String) : Option Int64 :=
  fields.foldl (fun acc p =>
    if equalFold p.1 name then
      match p.2, acc with
      | .num n, some _ => if n = (Int64.ofInt n).toInt then some (Int64.ofInt n) else none
      | .null, acc => acc
      | _, _ => none
    else acc) (some 0)

/-- The fields of a body that is an object; `null` is decoded to the zero value. -/
def bodyFields : Option Json → Option (List (String × Json))
  | some (.obj fields) => some fields
  | some .null => some []
  | _ => none

/-- The validator's `required` for a string. -/
def required (s : String) : Bool := s != ""

/-- The validator's `max`. -/
def atMost (n : ℕ) (s : String) : Bool := decide (s.length ≤ n)

/-- The validator's `min`. -/
def atLeast (n : ℕ) (s : String) : Bool := decide (n ≤ s.length)

/-- What the HTTP layer gets from gin's validator: the form of an email. -/
structure Web where
  isEmail : String → Bool

variable (web : Web) (req : Request)

/-- `loginRequest`. -/
structure LoginRequest where
  email : String
  password : String

def bindLogin : Option LoginRequest := do
  let fields ← bodyFields req.body
  let email ← decodeString fields "email"
  let password ← decodeString fields "password"
  if required email && web.isEmail email && atMost 255 email && required password &&
    atLeast 8 password && atMost 256 password then some ⟨email, password⟩ else none

/-- `inviteRequest`. -/
structure InviteRequest where
  email : String
  role : String

def bindInvite : Option InviteRequest := do
  let fields ← bodyFields req.body
  let email ← decodeString fields "email"
  let role ← decodeString fields "role"
  if required email && web.isEmail email && atMost 255 email && required role then
    some ⟨email, role⟩ else none

/-- A request with one required string of at most `max` characters, if a bound is given. -/
def bindText (name : String) (max : Option ℕ) : Option String := do
  let fields ← bodyFields req.body
  let text ← decodeString fields name
  if required text && max.all fun n => atMost n text then some text else none

/-- `updateRoleRequest`. -/
def bindRole : Option String := bindText req "role" none

/-- `saveTemplateRequest`. -/
def bindTemplate : Option String := bindText req "text" (some 4000)

/-- `suspendRequest`. -/
def bindReason : Option String := bindText req "reason" none

/-- `replyRequest`. -/
def bindReply : Option String := bindText req "text" none

/-- `ticketStatusRequest`. -/
def bindStatus : Option String := bindText req "status" none

/-- `ticketPriorityRequest`. -/
def bindPriority : Option String := bindText req "priority" none

/-- `newTenantRequest`. -/
structure NewTenantRequest where
  name : String
  address : String
  ownerName : String
  phone : String
  email : String
  plan : String
  trialDays : Int64

def bindNewTenant : Option NewTenantRequest := do
  let fields ← bodyFields req.body
  let name ← decodeString fields "name"
  let address ← decodeString fields "address"
  let ownerName ← decodeString fields "owner_name"
  let phone ← decodeString fields "phone"
  let email ← decodeString fields "email"
  let plan ← decodeString fields "plan"
  let trialDays ← decodeInt fields "trial_days"
  if required name && atMost 255 name && required address && atMost 500 address &&
    required ownerName && atMost 255 ownerName && required phone && atMost 64 phone &&
    required email && web.isEmail email && atMost 255 email && required plan then
    some ⟨name, address, ownerName, phone, email, plan, trialDays⟩ else none

end SuperAdmin.Http
