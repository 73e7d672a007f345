import SuperAdmin.Http.Router
import SuperAdmin.Usecase.Errors

/-! # The answers of the handlers

A handler behind the authentication answers with a success, or to an error that its usecase ended
with, or to a request that it cannot read. -/

namespace SuperAdmin.Http

open Effects

variable {E : Error → Prop} {C : Op → Prop}

/-- A success, or the answer to an error in `E`. -/
def Answered (E : Error → Prop) (resp : Response) : Prop :=
  resp.status < 400 ∨ ∃ e, E e ∧ resp = .error e

/-- `p` answers with a success or to an error in `E`, if the ports answer with such errors. -/
abbrev AnswersIn (C : Op → Prop) (E : Error → Prop) (p : Proc Response) : Prop :=
  p.Meets C (fun (op : Op) (res : op.Res) => op.Within E res) (Answered E)

/-! ### What handlers share -/

theorem answered_ok (data : Json) : Answered E (.ok data) := .inl (by decide : 200 < 400)

theorem answered_created (data : Json) : Answered E (.created data) := .inl (by decide : 201 < 400)

theorem answered_list (data : Json) (pages : Meta) : Answered E (.list data pages) :=
  .inl (by decide : 200 < 400)

theorem answered_noContent : Answered E .noContent := .inl (by decide : 204 < 400)

theorem answersIn_respond {α : Type} {res : Except Error α} {k : α → Proc Response}
    (hres : Within E res) (hk : ∀ a, AnswersIn C E (k a)) : AnswersIn C E (respond res k) := by
  cases res with
  | error e => exact .inr ⟨e, hres, rfl⟩
  | ok a => exact hk a

/-- A handler that calls its usecase and answers. -/
theorem answersIn_usecase {α : Type} {p : Proc (Except Error α)} {k : α → Proc Response}
    (hp : p.Meets C (fun (op : Op) (res : op.Res) => op.Within E res) (Within E))
    (hk : ∀ a, AnswersIn C E (k a)) : AnswersIn C E (do let res ← p; respond res k) :=
  .bind hp fun _ hres => answersIn_respond hres hk

theorem answersIn_paramID {d : Deps} {req : Request} {message : String} {k : UUID → Proc Response}
    (hE : Closed E) (hk : ∀ id, AnswersIn C E (k id)) :
    AnswersIn C E (withInput (paramID d req message) k) := by
  unfold paramID
  cases d.issuer.uuidParse req.id with
  | error e => exact .inr ⟨_, hE.invalid _ _, rfl⟩
  | ok id => exact hk id

theorem answersIn_bound {α : Type} {o : Option α} {field message : String} {k : α → Proc Response}
    (hE : Closed E) (hk : ∀ a, AnswersIn C E (k a)) :
    AnswersIn C E (withInput (bound o field message) k) := by
  cases o with
  | none => exact .inr ⟨_, hE.invalid _ _, rfl⟩
  | some a => exact hk a

/-- A handler that stands behind `Auth` finds the claims. -/
theorem answersIn_claims {ctx : Context} {k : AccessClaims → Proc Response}
    (hctx : ctx.claims.isSome = true) (hk : ∀ claims, AnswersIn C E (k claims)) :
    AnswersIn C E (withInput (claimsFrom ctx) k) := by
  obtain ⟨claims, hclaims⟩ := Option.isSome_iff_exists.mp hctx
  rw [claimsFrom, hclaims]
  exact hk claims

namespace Handler

variable {d : Deps} {web : Web} {req : Request} {ctx : Context}

/-- What a handler does that does not read the journal. -/
abbrev Plain (E : Error → Prop) (p : Proc Response) : Prop :=
  AnswersIn (fun op : Op => op.skipsLog = true) E p

/-! ### Auth and Team -/

theorem plain_me (hctx : ctx.claims.isSome = true) : Plain E (Auth.me ctx) :=
  answersIn_claims hctx fun _ => answersIn_usecase (Usecase.endsIn_me _) fun _ => answered_ok _

namespace Team

theorem plain_list (hctx : ctx.claims.isSome = true) : Plain E (list ctx) :=
  answersIn_claims hctx fun _ => answersIn_usecase Usecase.Team.endsIn_list fun _ => answered_ok _

theorem plain_invite (hE : Closed E) (hctx : ctx.claims.isSome = true) :
    Plain E (invite web req ctx) :=
  answersIn_bound hE fun _ => answersIn_claims hctx fun _ =>
    answersIn_usecase (Usecase.Team.endsIn_invite hE _ _) fun _ => answered_created _

theorem plain_updateRole (hE : Closed E) (hctx : ctx.claims.isSome = true) :
    Plain E (updateRole d req ctx) :=
  answersIn_paramID hE fun _ => answersIn_bound hE fun _ => answersIn_claims hctx fun _ =>
    answersIn_usecase (Usecase.Team.endsIn_updateRole hE _ _) fun _ => answered_ok _

theorem plain_revoke (hE : Closed E) (hctx : ctx.claims.isSome = true) :
    Plain E (revoke d req ctx) :=
  answersIn_paramID hE fun _ => answersIn_claims hctx fun _ =>
    answersIn_usecase (Usecase.Team.endsIn_revoke hE _) fun _ => answered_noContent

end Team

/-! ### Settings -/

namespace Settings

theorem plain_get : Plain E get :=
  answersIn_usecase Usecase.Settings.endsIn_template fun _ => answered_ok _

theorem plain_saveMessageTemplate (hE : Closed E) (hctx : ctx.claims.isSome = true) :
    Plain E (saveMessageTemplate req ctx) :=
  answersIn_bound hE fun _ => answersIn_claims hctx fun _ =>
    answersIn_usecase (Usecase.Settings.endsIn_saveTemplate _) fun _ => answered_ok _

end Settings

/-! ### Tenant -/

namespace Tenant

/-- The answer with the card of a client. -/
theorem plain_detail (t : SuperAdmin.Tenant) {answer : Json → Response}
    (h : ∀ data, Answered E (answer data)) : Plain E (answer <$> toTenantDetailResponse t) :=
  .step rfl fun _ _ => h _

theorem plain_list : Plain E list :=
  answersIn_usecase Usecase.Tenant.endsIn_list fun _ => answered_ok _

theorem plain_get (hE : Closed E) : Plain E (get d req) :=
  answersIn_paramID hE fun _ => answersIn_usecase (Usecase.Tenant.endsIn_get _) fun tenant =>
    plain_detail tenant answered_ok

theorem plain_emailTaken (hE : Closed E) : Plain E (emailTaken req) := by
  unfold emailTaken
  split
  · exact .inr ⟨_, hE.invalid _ _, rfl⟩
  · exact answersIn_usecase (Usecase.Tenant.endsIn_isEmailTaken _) fun _ => answered_ok _

theorem plain_create (hE : Closed E) (hctx : ctx.claims.isSome = true) :
    Plain E (create web req ctx) :=
  answersIn_bound hE fun _ => answersIn_claims hctx fun _ =>
    answersIn_usecase (Usecase.Tenant.endsIn_create hE _) fun tenant =>
      plain_detail tenant answered_created

theorem plain_suspend (hE : Closed E) (hctx : ctx.claims.isSome = true) :
    Plain E (suspend d req ctx) :=
  answersIn_paramID hE fun _ => answersIn_bound hE fun _ => answersIn_claims hctx fun _ =>
    answersIn_usecase (Usecase.Tenant.endsIn_suspend hE _ _) fun tenant =>
      plain_detail tenant answered_ok

theorem plain_resume (hE : Closed E) (hctx : ctx.claims.isSome = true) :
    Plain E (resume d req ctx) :=
  answersIn_paramID hE fun _ => answersIn_claims hctx fun _ =>
    answersIn_usecase (Usecase.Tenant.endsIn_resume _) fun tenant => plain_detail tenant answered_ok

theorem plain_issueActivationCode (hE : Closed E) (hctx : ctx.claims.isSome = true) :
    Plain E (issueActivationCode d req ctx) :=
  answersIn_paramID hE fun _ => answersIn_claims hctx fun _ =>
    answersIn_usecase (Usecase.Tenant.endsIn_issueActivationCode hE _) fun tenant =>
      plain_detail tenant answered_ok

theorem plain_delete (hE : Closed E) (hctx : ctx.claims.isSome = true) :
    Plain E (delete d req ctx) :=
  answersIn_paramID hE fun _ => answersIn_claims hctx fun _ =>
    answersIn_usecase (Usecase.Tenant.endsIn_delete _) fun _ => answered_noContent

end Tenant

/-! ### Ticket -/

namespace Ticket

theorem endsIn_buildLookups : EndsIn E buildLookups := by
  refine .step rfl fun r hr => ?_
  cases r with
  | error e => exact hr
  | ok users =>
      refine .step rfl fun r hr => ?_
      cases r with
      | error e => exact hr
      | ok tenants => trivial

theorem endsIn_threads (l : Lookups) (tickets : List SuperAdmin.Ticket) :
    EndsIn E (threads l tickets) := by
  induction tickets with
  | nil => trivial
  | cons summary rest ih =>
      refine .step rfl fun r hr => ?_
      cases r with
      | error e => exact hr
      | ok found =>
          refine .bind ih fun r hr => ?_
          cases r with
          | error e => exact hr
          | ok out => trivial

theorem plain_lookups {k : Lookups → Json} :
    Plain E (do let lookups ← buildLookups; respond lookups fun l => return .ok (k l)) :=
  answersIn_usecase endsIn_buildLookups fun _ => answered_ok _

theorem within_parseTicketFilter (hE : Closed E) : Within E (parseTicketFilter d req) := by
  unfold parseTicketFilter
  dsimp only
  -- a parameter that is refused is named, and nothing else fails
  (repeat' split) <;> first
    | exact hE.invalid _ _
    | trivial
theorem plain_list (hE : Closed E) : Plain E (list d req) :=
  answersIn_respond (within_parseTicketFilter hE) fun _ =>
    answersIn_usecase (Usecase.Ticket.endsIn_list _) fun _ => plain_lookups

theorem plain_listByClient (hE : Closed E) : Plain E (listByClient d req) :=
  answersIn_paramID hE fun _ => answersIn_usecase (Usecase.Ticket.endsIn_list _) fun summaries =>
    answersIn_usecase endsIn_buildLookups fun l =>
      answersIn_usecase (endsIn_threads l summaries) fun _ => answered_ok _

theorem plain_get (hE : Closed E) : Plain E (get d req) :=
  answersIn_paramID hE fun _ => answersIn_usecase (Usecase.Ticket.endsIn_get _) fun _ => plain_lookups

theorem plain_reply (hE : Closed E) (hctx : ctx.claims.isSome = true) : Plain E (reply d req ctx) :=
  answersIn_paramID hE fun _ => answersIn_bound hE fun _ => answersIn_claims hctx fun _ =>
    answersIn_usecase (Usecase.Ticket.endsIn_reply hE _ _) fun _ => answered_created _

theorem plain_assignToSelf (hE : Closed E) (hctx : ctx.claims.isSome = true) :
    Plain E (assignToSelf d req ctx) :=
  answersIn_paramID hE fun _ => answersIn_claims hctx fun _ =>
    answersIn_usecase (Usecase.Ticket.endsIn_assignToSelf _) fun _ => plain_lookups

theorem plain_updateStatus (hE : Closed E) (hctx : ctx.claims.isSome = true) :
    Plain E (updateStatus d req ctx) :=
  answersIn_paramID hE fun _ => answersIn_bound hE fun _ => answersIn_claims hctx fun _ =>
    answersIn_usecase (Usecase.Ticket.endsIn_updateStatus hE _ _) fun _ => plain_lookups

theorem plain_updatePriority (hE : Closed E) (hctx : ctx.claims.isSome = true) :
    Plain E (updatePriority d req ctx) :=
  answersIn_paramID hE fun _ => answersIn_bound hE fun _ => answersIn_claims hctx fun _ =>
    answersIn_usecase (Usecase.Ticket.endsIn_updatePriority hE _ _) fun _ => plain_lookups

end Ticket

/-! ### The handlers that read the journal -/

theorem within_bind {α β : Type} {res : Except Error α} {k : α → Except Error β} (h : Within E res)
    (hk : ∀ a, Within E (k a)) : Within E (res >>= k) := by
  cases res with
  | error e => exact h
  | ok a => exact hk a

theorem within_parseAuditFilter (hE : Closed E) : Within E (Journal.parseAuditFilter d req) := by
  have hoptional : ∀ {α : Type} (raw : String) (parse : String → Option α) (field message : String),
      Within E (Journal.optional raw parse field message) := by
    intro α raw parse field message
    unfold Journal.optional
    split
    · trivial
    · split
      · exact hE.invalid _ _
      · trivial
  exact within_bind (hoptional _ _ _ _) fun _ => within_bind (hoptional _ _ _ _) fun _ =>
    within_bind (hoptional _ _ _ _) fun _ => within_bind (hoptional _ _ _ _) fun _ =>
      within_bind (hoptional _ _ _ _) fun _ => trivial

theorem answersIn_journal (hE : Closed E) : AnswersIn (fun _ => True) E (Journal.list d req) :=
  answersIn_respond (within_parseAuditFilter hE) fun _ =>
    answersIn_usecase ⟨trivial, fun _ h => h⟩ fun _ =>
      answersIn_usecase (p := perform (.users .list)) ⟨trivial, fun _ h => h⟩ fun _ => answered_list _ _

theorem answersIn_tenantJournal (hE : Closed E) :
    AnswersIn (fun _ => True) E (Tenant.journal d req) :=
  answersIn_paramID hE fun _ => answersIn_usecase ⟨trivial, fun _ h => h⟩ fun _ => answered_ok _

theorem answersIn_overview : AnswersIn (fun _ => True) E Overview.get := by
  refine answersIn_usecase ?_ fun _ => answered_ok _
  refine .step trivial fun r hr => ?_
  cases r with
  | error e => exact hr
  | ok tenants =>
      refine .step trivial fun r hr => ?_
      cases r with
      | error e => exact hr
      | ok tickets =>
          refine .step trivial fun now _ => .step trivial fun r hr => ?_
          cases r with
          | error e => exact hr
          | ok found => trivial

end Handler

/-! ### All routes -/

/-- The routes under `/auth`. -/
def Route.underAuth : Route → Bool
  | .login | .refresh | .logout => true
  | _ => false

/-- The routes whose handler reads the journal. -/
def Route.readsLog : Route → Bool
  | .journalList | .overview | .tenantJournal => true
  | _ => false

variable {d : Deps} {web : Web} {req : Request} {ctx : Context}

open Handler in
theorem handle_plain (hE : Closed E) (hctx : ctx.claims.isSome = true)
    (hauth : req.route.underAuth = false) (hlog : req.route.readsLog = false) :
    Plain E (handle d web req ctx) := by
  unfold handle
  cases hroute : req.route with
  | login | refresh | logout => rw [hroute] at hauth; cases hauth
  | journalList | overview | tenantJournal => rw [hroute] at hlog; cases hlog
  | me => exact plain_me hctx
  | teamList => exact Team.plain_list hctx
  | teamInvite => exact Team.plain_invite hE hctx
  | teamUpdateRole => exact Team.plain_updateRole hE hctx
  | teamRevoke => exact Team.plain_revoke hE hctx
  | settingsGet => exact Settings.plain_get
  | settingsSaveTemplate => exact Settings.plain_saveMessageTemplate hE hctx
  | tenantList => exact Tenant.plain_list
  | tenantCreate => exact Tenant.plain_create hE hctx
  | tenantEmailTaken => exact Tenant.plain_emailTaken hE
  | tenantGet => exact Tenant.plain_get hE
  | tenantTickets => exact Ticket.plain_listByClient hE
  | tenantSuspend => exact Tenant.plain_suspend hE hctx
  | tenantResume => exact Tenant.plain_resume hE hctx
  | tenantIssueCode => exact Tenant.plain_issueActivationCode hE hctx
  | tenantDelete => exact Tenant.plain_delete hE hctx
  | ticketList => exact Ticket.plain_list hE
  | ticketGet => exact Ticket.plain_get hE
  | ticketReply => exact Ticket.plain_reply hE hctx
  | ticketAssign => exact Ticket.plain_assignToSelf hE hctx
  | ticketUpdateStatus => exact Ticket.plain_updateStatus hE hctx
  | ticketUpdatePriority => exact Ticket.plain_updatePriority hE hctx

/-- Behind the authentication every answer is a success or to an error of the usecase. -/
theorem handle_answers (hE : Closed E) (hctx : ctx.claims.isSome = true)
    (hauth : req.route.underAuth = false) :
    AnswersIn (fun _ => True) E (handle d web req ctx) := by
  by_cases hlog : req.route.readsLog = false
  · exact (handle_plain hE hctx hauth hlog).mono (fun _ _ => trivial) fun _ h => h
  · unfold handle
    cases hroute : req.route with
    | journalList => exact Handler.answersIn_journal hE
    | overview => exact Handler.answersIn_overview
    | tenantJournal => exact Handler.answersIn_tenantJournal hE
    | _ => rw [hroute] at hlog; exact absurd rfl hlog

/-! ### The refresh cookie -/

/-- `p` leaves the refresh cookie alone, whatever its calls are answered. -/
abbrev KeepsCookie (p : Proc Response) : Prop := p.Returns fun resp => resp.cookie = .keep

section keepsCookie

variable {α : Type}

theorem keepsCookie_respond {res : Except Error α} {k : α → Proc Response}
    (hk : ∀ a, KeepsCookie (k a)) : KeepsCookie (respond res k) := by
  cases res with
  | error e => rfl
  | ok a => exact hk a

theorem keepsCookie_usecase {p : Proc (Except Error α)} {k : α → Proc Response}
    (hk : ∀ a, KeepsCookie (k a)) : KeepsCookie (do let res ← p; respond res k) :=
  (Prog.returns_true p).bind fun _ _ => keepsCookie_respond hk

theorem keepsCookie_paramID {message : String} {k : UUID → Proc Response}
    (hk : ∀ id, KeepsCookie (k id)) : KeepsCookie (withInput (paramID d req message) k) := by
  unfold paramID
  cases d.issuer.uuidParse req.id with
  | error e => rfl
  | ok id => exact hk id

theorem keepsCookie_bound {o : Option α} {field message : String} {k : α → Proc Response}
    (hk : ∀ a, KeepsCookie (k a)) : KeepsCookie (withInput (bound o field message) k) := by
  cases o with
  | none => rfl
  | some a => exact hk a

theorem keepsCookie_claims {k : AccessClaims → Proc Response} (hk : ∀ claims, KeepsCookie (k claims)) :
    KeepsCookie (withInput (claimsFrom ctx) k) := by
  unfold claimsFrom
  cases ctx.claims with
  | none => rfl
  | some claims => exact hk claims

end keepsCookie

namespace Handler

theorem keepsCookie_detail (t : SuperAdmin.Tenant) {answer : Json → Response}
    (h : ∀ data, (answer data).cookie = .keep) :
    KeepsCookie (answer <$> Tenant.toTenantDetailResponse t) := fun _ => h _

theorem keepsCookie_lookups {k : Ticket.Lookups → Json} :
    KeepsCookie (do let lookups ← Ticket.buildLookups; respond lookups fun l => return .ok (k l)) :=
  keepsCookie_usecase fun _ => rfl

theorem keepsCookie_emailTaken : KeepsCookie (Tenant.emailTaken req) := by
  unfold Tenant.emailTaken
  split
  · rfl
  · exact keepsCookie_usecase fun _ => rfl

end Handler

open Handler in
/-- Only the handlers under `/auth` touch the refresh cookie. -/
theorem handle_keepsCookie (hauth : req.route.underAuth = false) :
    KeepsCookie (handle d web req ctx) := by
  unfold handle
  cases hroute : req.route with
  | login | refresh | logout => rw [hroute] at hauth; cases hauth
  | me | teamList => exact keepsCookie_claims fun _ => keepsCookie_usecase fun _ => rfl
  | teamInvite | settingsSaveTemplate =>
      exact keepsCookie_bound fun _ => keepsCookie_claims fun _ => keepsCookie_usecase fun _ => rfl
  | teamUpdateRole | ticketReply =>
      exact keepsCookie_paramID fun _ => keepsCookie_bound fun _ => keepsCookie_claims fun _ =>
        keepsCookie_usecase fun _ => rfl
  | teamRevoke | tenantDelete =>
      exact keepsCookie_paramID fun _ => keepsCookie_claims fun _ => keepsCookie_usecase fun _ => rfl
  | journalList => exact keepsCookie_respond fun _ => keepsCookie_usecase fun _ => keepsCookie_usecase fun _ => rfl
  | settingsGet | overview | tenantList => exact keepsCookie_usecase fun _ => rfl
  | tenantCreate =>
      exact keepsCookie_bound fun _ => keepsCookie_claims fun _ => keepsCookie_usecase fun t =>
        keepsCookie_detail t fun _ => rfl
  | tenantEmailTaken => exact keepsCookie_emailTaken
  | tenantGet => exact keepsCookie_paramID fun _ => keepsCookie_usecase fun t => keepsCookie_detail t fun _ => rfl
  | tenantTickets =>
      exact keepsCookie_paramID fun _ => keepsCookie_usecase fun _ => keepsCookie_usecase fun _ =>
        keepsCookie_usecase fun _ => rfl
  | tenantJournal => exact keepsCookie_paramID fun _ => keepsCookie_usecase fun _ => rfl
  | tenantSuspend =>
      exact keepsCookie_paramID fun _ => keepsCookie_bound fun _ => keepsCookie_claims fun _ =>
        keepsCookie_usecase fun t => keepsCookie_detail t fun _ => rfl
  | tenantResume | tenantIssueCode =>
      exact keepsCookie_paramID fun _ => keepsCookie_claims fun _ => keepsCookie_usecase fun t =>
        keepsCookie_detail t fun _ => rfl
  | ticketList => exact keepsCookie_respond fun _ => keepsCookie_usecase fun _ => keepsCookie_lookups
  | ticketGet => exact keepsCookie_paramID fun _ => keepsCookie_usecase fun _ => keepsCookie_lookups
  | ticketAssign =>
      exact keepsCookie_paramID fun _ => keepsCookie_claims fun _ => keepsCookie_usecase fun _ =>
        keepsCookie_lookups
  | ticketUpdateStatus | ticketUpdatePriority =>
      exact keepsCookie_paramID fun _ => keepsCookie_bound fun _ => keepsCookie_claims fun _ =>
        keepsCookie_usecase fun _ => keepsCookie_lookups

/-- What the middleware refuses leaves the cookie alone. -/
theorem middleware_keepsCookie (access : Access) :
    (middleware req access).Returns fun res => ∀ resp, res = .error resp → resp.cookie = .keep := by
  have hauth : (Middleware.auth req).Returns fun res => ∀ resp, res = .error resp → resp.cookie = .keep := by
    unfold Middleware.auth
    split
    · rintro resp ⟨⟩
      rfl
    · refine .step fun r => ?_
      cases r with
      | error e => rintro resp ⟨⟩; rfl
      | ok claims =>
          refine .step fun r => ?_
          cases r with
          | error e => rintro resp ⟨⟩; rfl
          | ok revoked =>
              dsimp only
              split
              · rintro resp ⟨⟩
                rfl
              · rintro resp ⟨⟩
  cases access with
  | anyone => rintro resp ⟨⟩
  | authenticated => exact hauth
  | requires res act =>
      refine hauth.bind fun r hr => ?_
      cases r with
      | error resp => exact hr
      | ok ctx =>
          dsimp only
          unfold Middleware.require
          cases ctx.subject with
          | none => rintro resp ⟨⟩; rfl
          | some sub =>
              dsimp only
              cases Authz.authorize sub res act with
              | none => rintro resp ⟨⟩
              | some err => rintro resp ⟨⟩; rfl

/-- Outside `/auth` the server leaves the refresh cookie alone. -/
theorem serve_keepsCookie (hauth : req.route.underAuth = false) : KeepsCookie (serve d web req) := by
  refine (middleware_keepsCookie req.route.access).bind fun res hres => ?_
  cases res with
  | error resp => exact hres resp rfl
  | ok ctx => exact handle_keepsCookie hauth

end SuperAdmin.Http
