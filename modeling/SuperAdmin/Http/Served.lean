import SuperAdmin.Http.Contract

/-! # What a request does before and after its usecase is called

The middleware and the checks of a handler stand before the call of its usecase.  `serveLogged` is the
server with the mark whether the usecase was called; a request whose usecase was called is not answered
with 401, and one whose usecase was not is not answered with a success. -/

namespace SuperAdmin.Http

open Effects

/-! ### The checks of the handlers -/

/-- A check that only has to succeed. -/
def passed {α : Type} (input : Except Response α) : Except Response Unit := input.map fun _ => ()

/-- A filter that a handler reads from the query. -/
def parsed {α : Type} (res : Except Error α) : Except Response Unit :=
  match res with
  | .error err => .error (.error err)
  | .ok _ => .ok ()

/-- What a handler checks before it calls its usecase. -/
def checks (d : Deps) (web : Web) (req : Request) (ctx : Context) : Except Response Unit :=
  match req.route with
  | .login => passed (bound (bindLogin web req) "body" "email и пароль обязательны")
  | .refresh =>
      if req.cookie.getD "" = "" then .error (.error (.sentinel .unauthenticated)) else .ok ()
  | .logout | .settingsGet | .overview | .tenantList => .ok ()
  | .me | .teamList => passed (claimsFrom ctx)
  | .teamInvite => do
      let _ ← bound (bindInvite web req) "body" "укажите email и роль"
      passed (claimsFrom ctx)
  | .teamUpdateRole => do
      let _ ← paramID d req "некорректный id сотрудника"
      let _ ← bound (bindRole req) "body" "укажите роль"
      passed (claimsFrom ctx)
  | .teamRevoke => do
      let _ ← paramID d req "некорректный id сотрудника"
      passed (claimsFrom ctx)
  | .journalList => parsed (Handler.Journal.parseAuditFilter d req)
  | .settingsSaveTemplate => do
      let _ ← bound (bindTemplate req) "text" "текст шаблона обязателен"
      passed (claimsFrom ctx)
  | .tenantCreate => do
      let _ ← bound (bindNewTenant web req) "body" "заполните обязательные поля"
      passed (claimsFrom ctx)
  | .tenantEmailTaken =>
      if req.query "email" = "" then .error (.error (.invalid "email" "укажите email")) else .ok ()
  | .tenantGet | .tenantJournal => passed (paramID d req Handler.Tenant.badID)
  | .tenantTickets => passed (paramID d req "некорректный id клиента")
  | .tenantSuspend => do
      let _ ← paramID d req Handler.Tenant.badID
      let _ ← bound (bindReason req) "reason" "причина обязательна"
      passed (claimsFrom ctx)
  | .tenantResume | .tenantIssueCode | .tenantDelete => do
      let _ ← paramID d req Handler.Tenant.badID
      passed (claimsFrom ctx)
  | .ticketList => parsed (Handler.Ticket.parseTicketFilter d req)
  | .ticketGet => passed (paramID d req Handler.Ticket.badID)
  | .ticketReply => do
      let _ ← paramID d req Handler.Ticket.badID
      let _ ← bound (bindReply req) "text" "текст ответа обязателен"
      passed (claimsFrom ctx)
  | .ticketAssign => do
      let _ ← paramID d req Handler.Ticket.badID
      passed (claimsFrom ctx)
  | .ticketUpdateStatus => do
      let _ ← paramID d req Handler.Ticket.badID
      let _ ← bound (bindStatus req) "status" "статус обязателен"
      passed (claimsFrom ctx)
  | .ticketUpdatePriority => do
      let _ ← paramID d req Handler.Ticket.badID
      let _ ← bound (bindPriority req) "priority" "приоритет обязателен"
      passed (claimsFrom ctx)

/-- The operation of the usecases behind each route. -/
inductive Behind (d : Deps) : Route → (α : Type) → Proc α → Prop
  | login (creds rc) : Behind d .login _ (Usecase.Auth.login d creds rc)
  | refresh (token rc) : Behind d .refresh _ (Usecase.Auth.refresh d token rc)
  | logout (token claims rc) : Behind d .logout _ (Usecase.Auth.logout token claims rc)
  | me (id) : Behind d .me _ (Usecase.Auth.me id)
  | teamList : Behind d .teamList _ Usecase.Team.list
  | teamInvite (actor email role rc) :
      Behind d .teamInvite _ (Usecase.Team.invite actor email role rc)
  | teamUpdateRole (actor id role rc) :
      Behind d .teamUpdateRole _ (Usecase.Team.updateRole actor id role rc)
  | teamRevoke (actor id rc) : Behind d .teamRevoke _ (Usecase.Team.revoke actor id rc)
  | journalList (f) : Behind d .journalList _ (Usecase.Journal.list f)
  | settingsGet : Behind d .settingsGet _ Usecase.Settings.template
  | settingsSaveTemplate (actor body rc) :
      Behind d .settingsSaveTemplate _ (Usecase.Settings.saveTemplate actor body rc)
  | overview : Behind d .overview _ Usecase.Overview.get
  | tenantList : Behind d .tenantList _ Usecase.Tenant.list
  | tenantCreate (actor input rc) : Behind d .tenantCreate _ (Usecase.Tenant.create actor input rc)
  | tenantEmailTaken (email) : Behind d .tenantEmailTaken _ (Usecase.Tenant.isEmailTaken email)
  | tenantGet (id) : Behind d .tenantGet _ (Usecase.Tenant.get id)
  | tenantTickets (f) : Behind d .tenantTickets _ (Usecase.Ticket.list f)
  | tenantJournal (f) : Behind d .tenantJournal _ (Usecase.Journal.list f)
  | tenantSuspend (actor id reason rc) :
      Behind d .tenantSuspend _ (Usecase.Tenant.suspend actor id reason rc)
  | tenantResume (actor id rc) : Behind d .tenantResume _ (Usecase.Tenant.resume actor id rc)
  | tenantIssueCode (actor id rc) :
      Behind d .tenantIssueCode _ (Usecase.Tenant.issueActivationCode actor id rc)
  | tenantDelete (actor id rc) : Behind d .tenantDelete _ (Usecase.Tenant.delete actor id rc)
  | ticketList (f) : Behind d .ticketList _ (Usecase.Ticket.list f)
  | ticketGet (id) : Behind d .ticketGet _ (Usecase.Ticket.get id)
  | ticketReply (actor id body rc) : Behind d .ticketReply _ (Usecase.Ticket.reply actor id body rc)
  | ticketAssign (actor id rc) : Behind d .ticketAssign _ (Usecase.Ticket.assignToSelf actor id rc)
  | ticketUpdateStatus (actor id status rc) :
      Behind d .ticketUpdateStatus _ (Usecase.Ticket.updateStatus actor id status rc)
  | ticketUpdatePriority (actor id priority rc) :
      Behind d .ticketUpdatePriority _ (Usecase.Ticket.updatePriority actor id priority rc)

/-- How a handler ends a request: an answer before its usecase is called, or the call and what follows. -/
def Gated (d : Deps) (route : Route) (check : Except Response Unit) (p : Proc Response) : Prop :=
  match check with
  | .error resp => p = .pure resp
  | .ok _ => ∃ (α : Type) (usecase : Proc α) (k : α → Proc Response),
      Behind d route α usecase ∧ p = usecase >>= k

section gated

variable {d : Deps} {route : Route}

theorem gated_withInput {α : Type} {input : Except Response α} {check : α → Except Response Unit}
    {k : α → Proc Response} (h : ∀ a, Gated d route (check a) (k a)) :
    Gated d route (input >>= check) (withInput input k) := by
  cases input with
  | error resp => rfl
  | ok a => exact h a

theorem gated_passed {α : Type} {input : Except Response α} {k : α → Proc Response}
    (h : ∀ a, Gated d route (.ok ()) (k a)) : Gated d route (passed input) (withInput input k) := by
  cases input with
  | error resp => rfl
  | ok a => exact h a

theorem gated_parsed {α : Type} {res : Except Error α} {k : α → Proc Response}
    (h : ∀ a, Gated d route (.ok ()) (k a)) : Gated d route (parsed res) (respond res k) := by
  cases res with
  | error err => rfl
  | ok a => exact h a

theorem gated_call {α : Type} {usecase : Proc α} {k : α → Proc Response}
    (h : Behind d route α usecase) : Gated d route (.ok ()) (usecase >>= k) := ⟨α, usecase, k, h, rfl⟩

end gated

/-- The checks of a handler decide whether its usecase is called. -/
theorem handle_gated (d : Deps) (web : Web) (req : Request) (ctx : Context) :
    Gated d req.route (checks d web req ctx) (handle d web req ctx) := by
  unfold checks handle
  cases hroute : req.route with
  | login => exact gated_passed fun _ => gated_call (.login _ _)
  | refresh =>
      dsimp only
      unfold Handler.Auth.refresh
      cases req.cookie with
      | none => rfl
      | some raw =>
          dsimp only [Option.getD]
          split
          · rfl
          · exact gated_call (.refresh _ _)
  | logout => exact gated_call (.logout _ _ _)
  | me => exact gated_passed fun _ => gated_call (.me _)
  | teamList => exact gated_passed fun _ => gated_call .teamList
  | teamInvite => exact gated_withInput fun _ => gated_passed fun _ => gated_call (.teamInvite _ _ _ _)
  | teamUpdateRole =>
      exact gated_withInput fun _ => gated_withInput fun _ => gated_passed fun _ =>
        gated_call (.teamUpdateRole _ _ _ _)
  | teamRevoke => exact gated_withInput fun _ => gated_passed fun _ => gated_call (.teamRevoke _ _ _)
  | journalList => exact gated_parsed fun _ => gated_call (.journalList _)
  | settingsGet => exact gated_call .settingsGet
  | settingsSaveTemplate =>
      exact gated_withInput fun _ => gated_passed fun _ => gated_call (.settingsSaveTemplate _ _ _)
  | overview => exact gated_call .overview
  | tenantList => exact gated_call .tenantList
  | tenantCreate => exact gated_withInput fun _ => gated_passed fun _ => gated_call (.tenantCreate _ _ _)
  | tenantEmailTaken =>
      dsimp only
      unfold Handler.Tenant.emailTaken
      split
      · rfl
      · exact gated_call (.tenantEmailTaken _)
  | tenantGet => exact gated_passed fun _ => gated_call (.tenantGet _)
  | tenantTickets => exact gated_passed fun _ => gated_call (.tenantTickets _)
  | tenantJournal => exact gated_passed fun _ => gated_call (.tenantJournal _)
  | tenantSuspend =>
      exact gated_withInput fun _ => gated_withInput fun _ => gated_passed fun _ =>
        gated_call (.tenantSuspend _ _ _ _)
  | tenantResume => exact gated_withInput fun _ => gated_passed fun _ => gated_call (.tenantResume _ _ _)
  | tenantIssueCode =>
      exact gated_withInput fun _ => gated_passed fun _ => gated_call (.tenantIssueCode _ _ _)
  | tenantDelete => exact gated_withInput fun _ => gated_passed fun _ => gated_call (.tenantDelete _ _ _)
  | ticketList => exact gated_parsed fun _ => gated_call (.ticketList _)
  | ticketGet => exact gated_passed fun _ => gated_call (.ticketGet _)
  | ticketReply =>
      exact gated_withInput fun _ => gated_withInput fun _ => gated_passed fun _ =>
        gated_call (.ticketReply _ _ _ _)
  | ticketAssign => exact gated_withInput fun _ => gated_passed fun _ => gated_call (.ticketAssign _ _ _)
  | ticketUpdateStatus =>
      exact gated_withInput fun _ => gated_withInput fun _ => gated_passed fun _ =>
        gated_call (.ticketUpdateStatus _ _ _ _)
  | ticketUpdatePriority =>
      exact gated_withInput fun _ => gated_withInput fun _ => gated_passed fun _ =>
        gated_call (.ticketUpdatePriority _ _ _ _)

/-! ### The server with a mark -/

variable {d : Deps} {web : Web} {req : Request}

/-- The answer to a request, and whether the usecase behind its route was called. -/
def serveLogged (d : Deps) (web : Web) (req : Request) : Proc (Response × Bool) := do
  match ← middleware req req.route.access with
  | .error resp => return (resp, false)
  | .ok ctx =>
      match checks d web req ctx with
      | .error resp => return (resp, false)
      | .ok _ => do
          let resp ← handle d web req ctx
          return (resp, true)

/-- Without the mark it is the server. -/
theorem serveLogged_fst : Prod.fst <$> serveLogged d web req = serve d web req := by
  show (serveLogged d web req >>= fun p => Prog.pure p.1) = _
  unfold serveLogged serve
  rw [Prog.bind_assoc]
  congr 1
  funext res
  cases res with
  | error resp => rfl
  | ok ctx =>
      have hgated := handle_gated d web req ctx
      cases hcheck : checks d web req ctx with
      | error resp =>
          have hhandle : handle d web req ctx = .pure resp := by rwa [hcheck] at hgated
          dsimp only
          rw [hcheck, hhandle]
          rfl
      | ok _ =>
          dsimp only
          rw [hcheck]
          show (handle d web req ctx >>= fun resp => Prog.pure (resp, true)) >>= _ = _
          rw [Prog.bind_assoc]
          exact Prog.bind_pure _

/-- What the middleware lets pass carries claims, and what it refuses is no success. -/
def Screened (access : Access) : Except Response Context → Prop
  | .error resp => 400 ≤ resp.status
  | .ok ctx => access ≠ .anyone → ctx.claims.isSome = true

theorem screened_auth {C : Op → Prop} {A : (op : Op) → op.Res → Prop} (hC : ∀ op, C op) (access : Access) :
    (Middleware.auth req).Meets C A (Screened access) := by
  unfold Middleware.auth
  split
  · exact (by decide : 400 ≤ 401)
  · refine .step (hC _) fun r _ => ?_
    cases r with
    | error e => exact (by decide : 400 ≤ 401)
    | ok claims =>
        refine .step (hC _) fun r _ => ?_
        cases r with
        | error e => exact (by decide : 400 ≤ 503)
        | ok revoked =>
            dsimp only
            split
            · exact (by decide : 400 ≤ 401)
            · exact fun _ => rfl

theorem screened_middleware {A : (op : Op) → op.Res → Prop} (access : Access) :
    (middleware req access).Meets (fun _ => True) A (Screened access) := by
  cases access with
  | anyone => exact fun h => absurd rfl h
  | authenticated => exact screened_auth (fun _ => trivial) _
  | requires res act =>
      refine .bind (screened_auth (fun _ => trivial) .authenticated) fun r hr => ?_
      cases r with
      | error resp => exact hr
      | ok ctx =>
          dsimp only
          unfold Middleware.require
          cases ctx.subject with
          | none => exact (by decide : 400 ≤ 401)
          | some sub =>
              dsimp only
              cases Authz.authorize sub res act with
              | none => exact fun _ => hr (by decide)
              | some err => exact Response.error_status err

/-- A check that answers what it refuses with no success. -/
def Refuses {α : Type} (input : Except Response α) : Prop :=
  ∀ resp, input = .error resp → 400 ≤ resp.status

theorem refuses_bind {α β : Type} {input : Except Response α} {k : α → Except Response β}
    (hinput : Refuses input) (hk : ∀ a, Refuses (k a)) : Refuses (input >>= k) := by
  intro resp h
  cases input with
  | error resp' =>
      cases h
      exact hinput _ rfl
  | ok a => exact hk a resp h

theorem refuses_error {α : Type} (err : Error) : Refuses (.error (.error err) : Except Response α) := by
  intro resp h
  cases h
  exact Response.error_status err

theorem refuses_ok {α : Type} (a : α) : Refuses (.ok a : Except Response α) := by
  intro resp h
  cases h

theorem refuses_passed {α : Type} {input : Except Response α} (h : Refuses input) :
    Refuses (passed input) := by
  cases input with
  | error resp => exact fun resp' h' => by cases h'; exact h _ rfl
  | ok a => exact refuses_ok _

theorem refuses_parsed {α : Type} (res : Except Error α) : Refuses (parsed res) := by
  cases res with
  | error err => exact refuses_error err
  | ok a => exact refuses_ok _

theorem refuses_bound {α : Type} (o : Option α) (field message : String) :
    Refuses (bound o field message) := by
  cases o with
  | none => exact refuses_error _
  | some a => exact refuses_ok _

theorem refuses_paramID (message : String) : Refuses (paramID d req message) := by
  unfold paramID
  split
  · exact refuses_error _
  · exact refuses_ok _

theorem refuses_claimsFrom (ctx : Context) : Refuses (claimsFrom ctx) := by
  unfold claimsFrom
  split
  · exact refuses_error _
  · exact refuses_ok _

theorem refuses_checks (ctx : Context) : Refuses (checks d web req ctx) := by
  have hclaims := refuses_passed (refuses_claimsFrom ctx)
  unfold checks
  cases req.route with
  | login => exact refuses_passed (refuses_bound _ _ _)
  | refresh =>
      dsimp only
      split
      · exact refuses_error _
      · exact refuses_ok _
  | tenantEmailTaken =>
      dsimp only
      split
      · exact refuses_error _
      · exact refuses_ok _
  | logout | settingsGet | overview | tenantList => exact refuses_ok _
  | me | teamList => exact hclaims
  | journalList | ticketList => exact refuses_parsed _
  | teamInvite | settingsSaveTemplate | tenantCreate =>
      exact refuses_bind (refuses_bound _ _ _) fun _ => hclaims
  | teamRevoke | tenantResume | tenantIssueCode | tenantDelete | ticketAssign =>
      exact refuses_bind (refuses_paramID _) fun _ => hclaims
  | tenantGet | tenantJournal | tenantTickets | ticketGet => exact refuses_passed (refuses_paramID _)
  | teamUpdateRole | tenantSuspend | ticketReply | ticketUpdateStatus | ticketUpdatePriority =>
      exact refuses_bind (refuses_paramID _) fun _ => refuses_bind (refuses_bound _ _ _) fun _ => hclaims

/-- The answers that a request can get over ports that keep the contract, each with the mark whether its
usecase was called. -/
def Served (d : Deps) (web : Web) (req : Request) (resp : Response) (called : Bool) : Prop :=
  (serveLogged d web req).CanReturn (Contract d) (resp, called)

/-- Outside `/auth`: with 401 only if the usecase was not called, with a success only if it was. -/
theorem Served.status {resp : Response} {called : Bool} (h : Served d web req resp called)
    (hauth : req.route.underAuth = false) :
    (called = true → resp.status ≠ 401) ∧ (called = false → 400 ≤ resp.status) := by
  have haccess : req.route.access ≠ .anyone := by
    revert hauth
    cases req.route <;> decide
  have hmeets : (serveLogged d web req).Meets (fun _ => True) (Contract d) fun p =>
      (p.2 = true → p.1.status ≠ 401) ∧ (p.2 = false → 400 ≤ p.1.status) := by
    refine .bind (screened_middleware _) fun r hr => ?_
    cases r with
    | error resp => exact ⟨fun h => (by cases h), fun _ => hr⟩
    | ok ctx =>
        dsimp only
        cases hcheck : checks d web req ctx with
        | error resp => exact ⟨fun h => (by cases h), fun _ => refuses_checks ctx resp hcheck⟩
        | ok _ =>
            have hanswers : AnswersIn (fun _ => True) Error.Plain (handle d web req ctx) :=
              handle_answers closed_plain (hr haccess) hauth
            have hnarrow := hanswers.narrow fun (op : Op) (res : op.Res) => Contract.within (d := d)
            refine .bind hnarrow fun resp hresp => ⟨fun _ => ?_, fun h => (by cases h)⟩
            rcases hresp with hsuccess | ⟨e, he, rfl⟩
            · exact fun h => absurd (h ▸ hsuccess) (by decide)
            · exact status_of_plain he
  exact hmeets.canReturn h

/-- A run of the server, over a source of random bytes that fails with errors of its own, is served. -/
theorem served_run {r : Draws} (hrand : ∀ site, Within Error.Plain (r.rand site)) (w : World d) :
    Served d web req ((serveLogged d web req).run (exec d r) w).1.1
      ((serveLogged d web req).run (exec d r) w).1.2 :=
  Prog.canReturn_run (contract_exec hrand) _ w

/-! ### Some answers -/

/-- A token that is not accepted, behind the authentication. -/
theorem served_unauthorized {raw : String} (haccess : req.route.access ≠ .anyone)
    (htoken : Middleware.bearerToken req.authorization = some raw) :
    Served d web req (.fail 401 codeUnauthorized "некорректный или истёкший токен") false := by
  have hauth : (Middleware.auth req).CanReturn (Contract d)
      (.error (.fail 401 codeUnauthorized "некорректный или истёкший токен")) := by
    unfold Middleware.auth
    rw [htoken]
    exact .step (.error (.foreign "token is expired")) (fun claims h => (by cases h)) rfl
  have hmiddleware : (middleware req req.route.access).CanReturn (Contract d)
      (.error (.fail 401 codeUnauthorized "некорректный или истёкший токен")) := by
    cases hroute : req.route.access with
    | anyone => exact absurd hroute haccess
    | authenticated => exact hauth
    | requires res act => exact .bind hauth rfl
  exact .bind hmiddleware rfl

/-- A pair can be issued if its access token can be signed. -/
theorem canReturn_issuePair {user : SuperAdminUser} {sessionID tokenID : UUID} {rc : RequestContext}
    {now : Time} {access : String} (bytes : Bytes)
    (hissue : d.issuer.issue (Usecase.Auth.accessClaims d user sessionID tokenID now) = .ok access) :
    (Usecase.Auth.issuePairWithID d user sessionID rc now).CanReturn (Contract d) (.ok ⟨{
      accessToken := access
      accessExpiresAt := now.add d.cfg.accessTTL
      refreshToken := rawURLEncodeToString bytes
      refreshExpiresAt := now.add d.cfg.refreshTTL }, tokenID⟩) := by
  refine .step tokenID trivial (.step (.ok access) hissue.symm ?_)
  have hrandom : Usecase.generateSecureToken.CanReturn (Contract d) (.ok (rawURLEncodeToString bytes)) :=
    .step (.ok bytes) trivial rfl
  refine .bind hrandom (.step tokenID trivial ?_)
  exact .step (.ok (Usecase.Auth.refreshRecord d user tokenID sessionID (rawURLEncodeToString bytes) rc now))
    trivial rfl

/-- A refresh with a token that is good. -/
theorem served_refresh {raw access : String} {user : SuperAdminUser} {stored : RefreshToken}
    {now : Time} {tokenID : UUID} (bytes : Bytes) (hroute : req.route = .refresh)
    (hcookie : req.cookie = some raw) (hraw : raw ≠ "")
    (hfresh : (stored.isUsed || stored.isRevoked) = false)
    (hunexpired : stored.isExpired now = false) (huser : user.id = stored.userID)
    (hlogin : user.ensureCanLogin now = none)
    (hissue : d.issuer.issue (Usecase.Auth.accessClaims d user stored.sessionID tokenID now) = .ok access) :
    Served d web req { Response.ok (.obj [
      ("access_token", .str access),
      ("expires_at", .time (now.add d.cfg.accessTTL))]) with
        cookie := .set (rawURLEncodeToString bytes) } true := by
  have hrotate : (Usecase.Auth.refreshRotate d stored user req.context now).CanReturn (Contract d)
      (.ok ⟨access, now.add d.cfg.accessTTL, rawURLEncodeToString bytes, now.add d.cfg.refreshTTL⟩) := by
    refine .bind (canReturn_issuePair bytes hissue) (.step (.ok ()) trivial ?_)
    exact .step (.ok ()) trivial rfl
  have hrefresh : (Usecase.Auth.refresh d raw req.context).CanReturn (Contract d)
      (.ok ⟨access, now.add d.cfg.accessTTL, rawURLEncodeToString bytes, now.add d.cfg.refreshTTL⟩) := by
    refine .step now trivial (.step (.ok stored) trivial ?_)
    dsimp only
    rw [hfresh, hunexpired]
    refine .step (.ok user) ⟨trivial, fun u hu => ?_⟩ ?_
    · cases hu
      exact huser
    · dsimp only
      rw [hlogin]
      exact hrotate
  have hhandle : (handle d web req {}).CanReturn (Contract d) { Response.ok (.obj [
      ("access_token", .str access),
      ("expires_at", .time (now.add d.cfg.accessTTL))]) with
        cookie := .set (rawURLEncodeToString bytes) } := by
    unfold handle Handler.Auth.refresh
    rw [hroute, hcookie]
    dsimp only
    rw [if_neg hraw]
    exact .bind hrefresh rfl
  have hmiddleware : (middleware req req.route.access).CanReturn (Contract d) (.ok {}) := by
    rw [hroute]
    rfl
  refine .bind hmiddleware ?_
  have hchecks : checks d web req {} = .ok () := by
    unfold checks
    rw [hroute, hcookie]
    exact if_neg hraw
  dsimp only
  rw [hchecks]
  exact .bind hhandle rfl

/-- A logout with a cookie that is known. -/
theorem served_logout {raw : String} (stored : RefreshToken) (hroute : req.route = .logout)
    (hcookie : req.cookie = some raw) (hraw : raw ≠ "") (hsession : stored.sessionID ≠ UUID.nil) :
    Served d web req { Response.noContent with cookie := .clear } true := by
  have hlogout : (Usecase.Auth.logout raw none req.context).CanReturn (Contract d) (.ok ()) := by
    refine .step Time.zero trivial ?_
    rw [if_neg hraw]
    refine .step (.ok stored) trivial ?_
    have hrevoke : (Usecase.Auth.revokeKnown stored.sessionID Time.zero).CanReturn (Contract d) (.ok ()) := by
      unfold Usecase.Auth.revokeKnown
      rw [if_pos hsession]
      exact ⟨.ok (), trivial, rfl⟩
    exact .bind hrevoke rfl
  have hhandle : (handle d web req {}).CanReturn (Contract d)
      { Response.noContent with cookie := .clear } := by
    unfold handle Handler.Auth.logout
    rw [hroute, hcookie]
    exact .bind hlogout rfl
  have hmiddleware : (middleware req req.route.access).CanReturn (Contract d) (.ok {}) := by
    rw [hroute]
    rfl
  refine .bind hmiddleware ?_
  have hchecks : checks d web req {} = .ok () := by
    unfold checks
    rw [hroute]
  dsimp only
  rw [hchecks]
  exact .bind hhandle rfl

/-- The deletion of a client, with a token that passes. -/
theorem served_deleted {raw : String} {claims : AccessClaims} {now : Time} {id : UUID} (tenant : Tenant)
    (hroute : req.route = .tenantDelete) (htoken : Middleware.bearerToken req.authorization = some raw)
    (hparse : d.issuer.parse now raw = .ok claims)
    (hcan : Authz.authorize ⟨claims.userID.string, claims.role⟩ .tenant .delete = none)
    (hid : d.issuer.uuidParse req.id = .ok id) : Served d web req .noContent true := by
  have hauth : (Middleware.auth req).CanReturn (Contract d) (.ok {
      claims := some claims, subject := some ⟨claims.userID.string, claims.role⟩ }) := by
    unfold Middleware.auth
    rw [htoken]
    refine .step (.ok claims) (fun c hc => ?_) (.step (.ok false) trivial rfl)
    cases hc
    exact ⟨now, hparse⟩
  have hmiddleware : (middleware req req.route.access).CanReturn (Contract d) (.ok {
      claims := some claims, subject := some ⟨claims.userID.string, claims.role⟩ }) := by
    rw [hroute]
    refine .bind hauth ?_
    unfold Middleware.require
    dsimp only
    rw [hcan]
    rfl
  have hparam : paramID d req Handler.Tenant.badID = .ok id := by
    unfold paramID
    rw [hid]
  have hdelete : (Usecase.Tenant.delete claims id req.context).CanReturn (Contract d) (.ok ()) :=
    .step (.ok tenant) trivial (.step (.ok ()) trivial
      (.step now trivial (.step (.ok ()) trivial rfl)))
  have hhandle : (handle d web req {
      claims := some claims, subject := some ⟨claims.userID.string, claims.role⟩ }).CanReturn
        (Contract d) .noContent := by
    unfold handle Handler.Tenant.delete
    rw [hroute]
    dsimp only
    rw [hparam]
    exact .bind hdelete rfl
  refine .bind hmiddleware ?_
  have hchecks : checks d web req {
      claims := some claims, subject := some ⟨claims.userID.string, claims.role⟩ } = .ok () := by
    unfold checks
    rw [hroute]
    dsimp only
    rw [hparam]
    rfl
  dsimp only
  rw [hchecks]
  exact .bind hhandle rfl

end SuperAdmin.Http
