import SuperAdmin.Http.Journal

/-! # The server

`NewRouter`: a request runs the middleware of its route and then its handler. -/

namespace SuperAdmin.Http

open Effects

/-- The handler of a route. -/
def handle (d : Deps) (web : Web) (req : Request) (ctx : Context) : Proc Response :=
  match req.route with
  | .login => Handler.Auth.login d web req
  | .refresh => Handler.Auth.refresh d req
  | .logout => Handler.Auth.logout req ctx
  | .me => Handler.Auth.me ctx
  | .teamList => Handler.Team.list ctx
  | .teamInvite => Handler.Team.invite web req ctx
  | .teamUpdateRole => Handler.Team.updateRole d req ctx
  | .teamRevoke => Handler.Team.revoke d req ctx
  | .journalList => Handler.Journal.list d req
  | .settingsGet => Handler.Settings.get
  | .settingsSaveTemplate => Handler.Settings.saveMessageTemplate req ctx
  | .overview => Handler.Overview.get
  | .tenantList => Handler.Tenant.list
  | .tenantCreate => Handler.Tenant.create web req ctx
  | .tenantEmailTaken => Handler.Tenant.emailTaken req
  | .tenantGet => Handler.Tenant.get d req
  | .tenantTickets => Handler.Ticket.listByClient d req
  | .tenantJournal => Handler.Tenant.journal d req
  | .tenantSuspend => Handler.Tenant.suspend d req ctx
  | .tenantResume => Handler.Tenant.resume d req ctx
  | .tenantIssueCode => Handler.Tenant.issueActivationCode d req ctx
  | .tenantDelete => Handler.Tenant.delete d req ctx
  | .ticketList => Handler.Ticket.list d req
  | .ticketGet => Handler.Ticket.get d req
  | .ticketReply => Handler.Ticket.reply d req ctx
  | .ticketAssign => Handler.Ticket.assignToSelf d req ctx
  | .ticketUpdateStatus => Handler.Ticket.updateStatus d req ctx
  | .ticketUpdatePriority => Handler.Ticket.updatePriority d req ctx

/-- What stands before the handler: the context that it gets, or the answer without it. -/
def middleware (req : Request) : Access → Proc (Except Response Context)
  | .anyone => return .ok {}
  | .authenticated => Middleware.auth req
  | .requires res act => do
      match ← Middleware.auth req with
      | .error resp => return .error resp
      | .ok ctx =>
          match Middleware.require ctx res act with
          | some resp => return .error resp
          | none => return .ok ctx

theorem middleware_only {C : Op → Prop} (hparse : ∀ raw, C (.issuer (.parse raw)))
    (hrevoked : ∀ id, C (.revoker (.isRevoked id))) (req : Request) (access : Access) :
    (middleware req access).Only C := by
  have hauth := Middleware.auth_only hparse hrevoked req
  cases access with
  | anyone => trivial
  | authenticated => exact hauth
  | requires res act =>
      refine .bind hauth fun passed => ?_
      cases passed with
      | error resp => trivial
      | ok ctx =>
          dsimp only
          cases Middleware.require ctx res act <;> trivial

/-- The answer to a request. -/
def serve (d : Deps) (web : Web) (req : Request) : Proc Response := do
  match ← middleware req req.route.access with
  | .error resp => return resp
  | .ok ctx => handle d web req ctx

end SuperAdmin.Http
