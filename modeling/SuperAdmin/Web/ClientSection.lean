import SuperAdmin.Lib.QueryCache
import SuperAdmin.Http.Router
import SuperAdmin.Web.Tickets

/-! # The section about clients

`web/src/features/clients/api.ts` and `useClients.ts`: the queries of the section with their keys, its
mutations with their requests, and what each mutation does to the cache when it succeeds.  An id stands
for one segment of a path, and an answer that is no success brings no data. -/

namespace SuperAdmin.Web

open Effects Http Http.Handler

/-! ### What the queries return -/

/-- `Client`. -/
structure Client where
  id : String
  name : String
  city : String
  status : String
  plan : String
  employees : ℤ
  lastActiveAt : Time
  createdAt : Time
  trialEndsAt : Option Time
deriving DecidableEq, Repr

/-- `ClientDetail`. -/
structure ClientDetail extends Client where
  address : String
  ownerName : String
  phone : String
  email : String
  openTickets : ℤ
  suspendedReason : Option String
  /-- The code and its end. -/
  activationCode : Option (String × Time)
deriving DecidableEq, Repr

/-- `TicketMessage`. -/
structure ClientTicketMessage where
  id : String
  author : String
  authorName : String
  sentAt : Time
  text : String
deriving DecidableEq, Repr

/-- `Ticket`. -/
structure ClientTicket where
  id : String
  clientId : String
  subject : String
  status : String
  assignee : Option String
  lastMessageAt : Time
  messages : List ClientTicketMessage
deriving DecidableEq, Repr

/-- `JournalEntry`. -/
structure ClientJournalEntry where
  id : String
  occurredAt : Time
  text : String
deriving DecidableEq, Repr

/-- `activation_code`, which may be `null`. -/
def toActivationCode : Json → Option (String × Time)
  | .obj w => do
      let .str code ← w.lookup "code" | none
      let .time expiresAt ← w.lookup "expires_at" | none
      some (code, expiresAt)
  | _ => none

/-- The queries of `useClients.ts`. -/
inductive ClientQuery where
  | list
  | detail (id : String)
  | tickets (id : String)
  | journal (id : String)
  | emailTaken (email : String)
deriving DecidableEq, Repr

namespace ClientQuery

/-- `keys.all`. -/
def all : List String := ["clients"]

/-- `keys`. -/
def key : ClientQuery → List String
  | list => all ++ ["list"]
  | detail id => all ++ ["detail", id]
  | tickets id => all ++ ["tickets", id]
  | journal id => all ++ ["journal", id]
  | emailTaken email => all ++ ["email-taken", email]

/-- The request of the query function. -/
def request (browser : RequestContext) : ClientQuery → Request
  | list => { route := .tenantList, ip := browser.ip, userAgent := browser.userAgent }
  | detail id => { route := .tenantGet, id := id, ip := browser.ip, userAgent := browser.userAgent }
  | tickets id => { route := .tenantTickets, id := id, ip := browser.ip, userAgent := browser.userAgent }
  | journal id => { route := .tenantJournal, id := id, ip := browser.ip, userAgent := browser.userAgent }
  | emailTaken email => {
      route := .tenantEmailTaken
      query := fun name => if name = "email" then email else ""
      ip := browser.ip
      userAgent := browser.userAgent }

end ClientQuery

/-- What an entry of the cache holds. -/
inductive ClientData where
  | clients (clients : List Client)
  | client (client : ClientDetail)
  | tickets (tickets : List ClientTicket)
  | journal (entries : List ClientJournalEntry)
  | taken (taken : Bool)
deriving DecidableEq, Repr

/-- The answer of the server to a query that its middleware lets pass. -/
def ClientQuery.answer (d : Deps) (web : Http.Web) (r : Draws) (browser : RequestContext) (w : World d)
    (q : ClientQuery) : Response :=
  ((handle d web (q.request browser) {}).run (exec d r) w).1

/-! ### The mutations -/

/-- `NewClient`. -/
structure NewClient where
  name : String
  address : String
  ownerName : String
  phone : String
  email : String
  plan : String
  trialDays : ℤ

/-- The body of `createClient`. -/
def NewClient.json (input : NewClient) : Json := .obj [
  ("name", .str input.name),
  ("address", .str input.address),
  ("owner_name", .str input.ownerName),
  ("phone", .str input.phone),
  ("email", .str input.email),
  ("plan", .str input.plan),
  ("trial_days", .num input.trialDays)]

/-- The mutations of `useClients.ts` about a client, with what they are called for. -/
inductive ClientMutation where
  | create (input : NewClient)
  | suspend (id reason : String)
  | resume (id : String)
  | issueActivationCode (id : String)
  | delete (id : String)

namespace ClientMutation

/-- The request of the mutation function. -/
def request (browser : RequestContext) (authorization : String) : ClientMutation → Request
  | create input => {
      route := .tenantCreate
      authorization := authorization
      body := some input.json
      ip := browser.ip
      userAgent := browser.userAgent }
  | suspend id reason => {
      route := .tenantSuspend
      id := id
      authorization := authorization
      body := some (.obj [("reason", .str reason)])
      ip := browser.ip
      userAgent := browser.userAgent }
  | resume id => {
      route := .tenantResume
      id := id
      authorization := authorization
      ip := browser.ip
      userAgent := browser.userAgent }
  | issueActivationCode id => {
      route := .tenantIssueCode
      id := id
      authorization := authorization
      ip := browser.ip
      userAgent := browser.userAgent }
  | delete id => {
      route := .tenantDelete
      id := id
      authorization := authorization
      ip := browser.ip
      userAgent := browser.userAgent }

/-- The cache of the section. -/
abbrev Cache : Type := QueryCache String ClientData

/-- `onSuccess` of `useCreateClient`. -/
def created (client : ClientDetail) (cache : Cache) : Cache :=
  (cache.setQueryData (ClientQuery.detail client.id).key (.client client)).invalidateQueries
    ClientQuery.list.key

/-- `onSuccess` of `useClientMutation`. -/
def changed (cache : Cache) : Cache := cache.invalidateQueries ClientQuery.all

/-- `onSuccess` of `useDeleteClient`. -/
def deleted (id : String) (cache : Cache) : Cache :=
  (((cache.removeQueries (ClientQuery.detail id).key).removeQueries (ClientQuery.tickets id).key).removeQueries
    (ClientQuery.journal id).key).invalidateQueries ClientQuery.list.key

end ClientMutation

end SuperAdmin.Web
