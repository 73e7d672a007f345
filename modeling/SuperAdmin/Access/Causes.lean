import SuperAdmin.Lib.History
import SuperAdmin.Http.Repertoire
import SuperAdmin.Tokens
import SuperAdmin.Users

/-! # Nobody loses access without a cause

A refresh token is spent or revoked only by a request that has presented it or a token of its session, or
that expels its user; a member is suspended only by a request of someone who may do so and that names them;
and an account is locked only by logins with its email and a password that is not its own.  Whoever has
neither a token nor a permission can throw nobody out, whatever else is served in between. -/

namespace SuperAdmin

open Effects Http Usecase

/-- What can befall somebody's access. -/
inductive Harm where
  | spent (tokenID : UUID)
  | closed (sessionID : UUID)
  | expelled (userID : UUID)
  | counted (userID : UUID)

/-- What a call does to somebody's access. -/
def Op.harm : Op → Option Harm
  | .tokens (.markUsed id _ _) => some (.spent id)
  | .tokens (.revokeSession sessionID _ _) => some (.closed sessionID)
  | .tokens (.revokeAllForUser userID _ _) | .users (.updateStatus userID _) => some (.expelled userID)
  | .users (.registerFailedLogin userID _) => some (.counted userID)
  | _ => none

namespace Causes

/-! ### Causes -/

section permits

variable {d : Deps} {web : Web} {req : Request}

/-- The answered calls of a request that are a cause of what it does to somebody's access. -/
inductive Cause (d : Deps) (web : Web) (req : Request) (l : List (Answered Eff)) : Harm → Prop
  | renewed (raw : String) (stored : RefreshToken) (hcookie : req.route = .refresh ∧ req.cookie = some raw)
      (hstored : (⟨.tokens (.getByHash (hashToken raw)), .ok stored⟩ : Answered Eff) ∈ l)
      (hgood : (stored.isUsed || stored.isRevoked) = false) : Cause d web req l (.spent stored.id)
  | reused (raw : String) (stored : RefreshToken) (hcookie : req.route = .refresh ∧ req.cookie = some raw)
      (hstored : (⟨.tokens (.getByHash (hashToken raw)), .ok stored⟩ : Answered Eff) ∈ l)
      (hdead : (stored.isUsed || stored.isRevoked) = true) : Cause d web req l (.closed stored.sessionID)
  | barred (raw : String) (stored : RefreshToken) (user : SuperAdminUser) (now : Time) (e : Error)
      (hcookie : req.route = .refresh ∧ req.cookie = some raw)
      (hstored : (⟨.tokens (.getByHash (hashToken raw)), .ok stored⟩ : Answered Eff) ∈ l)
      (huser : (⟨.users (.getByID stored.userID), .ok user⟩ : Answered Eff) ∈ l)
      (hnow : (⟨.now, now⟩ : Answered Eff) ∈ l) (hbarred : user.ensureCanLogin now = some e) :
      Cause d web req l (.closed stored.sessionID)
  | signedOut (raw : String) (stored : RefreshToken) (hcookie : req.route = .logout ∧ req.cookie = some raw)
      (hstored : (⟨.tokens (.getByHash (hashToken raw)), .ok stored⟩ : Answered Eff) ∈ l) :
      Cause d web req l (.closed stored.sessionID)
  | revoked (userID : UUID) (member : SuperAdminUser) (claims : AccessClaims)
      (hnames : req.names d = some (.member userID))
      (hmember : (⟨.users (.getByID userID), .ok member⟩ : Answered Eff) ∈ l) (hrole : member.role ≠ .owner)
      (hverified : Mediation.Verified req l claims)
      (hcan : Authz.can ⟨claims.userID.string, claims.role⟩ .superAdmin .delete = true) :
      Cause d web req l (.expelled userID)
  | guessed (input : LoginRequest) (user : SuperAdminUser)
      (hinput : req.route = .login ∧ bindLogin web req = some input)
      (huser : (⟨.users (.getByEmail (Password.normalizeEmail d input.email)), .ok user⟩ : Answered Eff) ∈ l)
      (hwrong : d.hasher.verify input.password user.passwordHash = .ok false) :
      Cause d web req l (.counted user.id)

theorem Cause.grow {l : List (Answered Eff)} {harm : Harm} (h : Cause d web req l harm) (c : Answered Eff) :
    Cause d web req (l ++ [c]) harm := by
  cases h with
  | renewed raw stored hcookie hstored hgood =>
      exact .renewed raw stored hcookie (List.mem_append_left _ hstored) hgood
  | reused raw stored hcookie hstored hdead =>
      exact .reused raw stored hcookie (List.mem_append_left _ hstored) hdead
  | barred raw stored user now e hcookie hstored huser hnow hbarred =>
      exact .barred raw stored user now e hcookie (List.mem_append_left _ hstored) (List.mem_append_left _ huser)
        (List.mem_append_left _ hnow) hbarred
  | signedOut raw stored hcookie hstored =>
      exact .signedOut raw stored hcookie (List.mem_append_left _ hstored)
  | revoked userID member claims hnames hmember hrole hverified hcan =>
      exact .revoked userID member claims hnames (List.mem_append_left _ hmember) hrole (hverified.grow c) hcan
  | guessed input user hinput huser hwrong =>
      exact .guessed input user hinput (List.mem_append_left _ huser) hwrong

/-- What befalls somebody's access needs its cause. -/
def permits (d : Deps) (web : Web) (req : Request) : Permits Eff where
  allows l op := ∀ harm, op.harm = some harm → Cause d web req l harm
  grows := by
    intro l c op h harm hop
    exact (h harm hop).grow c

/-- The programs that harm nobody's access without a cause, once some calls were answered. -/
abbrev Justified (d : Deps) (web : Web) (req : Request) {α : Type} (p : Proc α) (l : List (Answered Eff)) : Prop :=
  p.Mediated (permits d web req) (fun _ _ => True) l

end permits

/-! ### Programs -/

section programs

variable {d : Deps} {web : Web} {req : Request} {l : List (Answered Eff)}

theorem allows_harmless {op : Op} (h : op.harm = none) : (permits d web req).allows l op := by
  intro harm hop
  rw [h] at hop
  cases hop

theorem allows_cause {op : Op} {harm : Harm} (hop : op.harm = some harm) (h : Cause d web req l harm) :
    (permits d web req).allows l op := by
  intro harm' hop'
  rw [hop] at hop'
  cases hop'
  exact h

/-- Only sign-in, renewal, sign-out and what names a member touch anybody's access. -/
theorem harm_of_within {s : Option Target} {op : Op} (h : op.within s) (hs : s ≠ some .sessions)
    (hmember : ∀ id, s ≠ some (.member id)) : op.harm = none := by
  obtain ⟨-, hchanges⟩ := h
  have hnone : ∀ t, op.changes = some t → s = some t := by
    intro t ht
    rcases hchanges with hc | hc
    · rw [hc] at ht
      cases ht
    · exact hc.symm.trans ht
  cases op with
  | users op =>
      cases op with
      | updateStatus id status => exact absurd (hnone _ rfl) (hmember id)
      | registerFailedLogin id lockedUntil => exact absurd (hnone _ rfl) hs
      | _ => rfl
  | tokens op =>
      cases op with
      | markUsed id replacedBy now => exact absurd (hnone _ rfl) hs
      | revokeSession sessionID reason now => exact absurd (hnone _ rfl) hs
      | revokeAllForUser userID reason now => exact absurd (hnone _ rfl) (hmember userID)
      | _ => rfl
  | _ => rfl

theorem harm_of_reads {op : Op} (h : op.reads = true) : op.harm = none :=
  harm_of_within (s := none) (Op.within_of_reads h) (fun h => by cases h) fun _ h => by cases h

theorem justified_of_harmless {α : Type} {p : Proc α} (hp : p.Only fun op : Op => op.harm = none) :
    Justified d web req p l := hp.mediated fun _ => allows_harmless

theorem harmless_reads {α : Type} {p : Proc α} (hp : Reads p) : p.Only fun op : Op => op.harm = none :=
  hp.mono fun _ => harm_of_reads

theorem justified_writeAudit (e : AuditEntry) : Justified d web req (writeAudit e) l :=
  .step (allows_harmless rfl) fun _ => trivial

/-! ### Sign-in, renewal and sign-out -/

theorem harmless_issuePair (user : SuperAdminUser) (sessionID : UUID) (rc : RequestContext) (now : Time) :
    (Auth.issuePairWithID d user sessionID rc now).Only fun op : Op => op.harm = none := by
  refine (Auth.issues_issuePairWithID d user rc now sessionID).mono fun op hop => ?_
  unfold Op.issues at hop
  split at hop <;> first | rfl | cases hop

/-- Whose password was not right: the account that was read. -/
theorem justified_authenticate (creds : Credentials) :
    (Password.authenticate d creds).Mediated (permits d web req) (fun r l' => ∀ user e, r = .error (some user, e) →
      (⟨.users (.getByEmail (Password.normalizeEmail d creds.email)), .ok user⟩ : Answered Eff) ∈ l' ∧
        d.hasher.verify creds.password user.passwordHash = .ok false) l := by
  refine .step (allows_harmless rfl) fun res => ?_
  cases res with
  | error e =>
      dsimp only
      split
      · exact fun user e h => by cases h
      · exact fun user e h => by cases h
  | ok user =>
      dsimp only
      split
      · exact fun user e h => by cases h
      · rename_i ok hverify
        cases ok with
        | true => exact fun user e h => by cases h
        | false =>
            intro user' e h
            cases h
            exact ⟨List.mem_append_right _ (List.mem_singleton_self _), hverify⟩

theorem justified_loginUser (user : SuperAdminUser) (now : Time) :
    Justified d web req (Auth.loginUser d user req.context now) l := by
  unfold Auth.loginUser
  split
  · exact .bind (justified_writeAudit _) fun _ _ _ => trivial
  · refine .step (allows_harmless rfl) fun res => ?_
    cases res with
    | error e => trivial
    | ok _ =>
        refine .step (allows_harmless rfl) fun sessionID => .bind (R := fun _ _ => True) (.bind
          (justified_of_harmless (harmless_issuePair user sessionID req.context now)) fun res _ _ => ?_)
          fun res _ _ => ?_
        · cases res <;> trivial
        · cases res with
          | error e => trivial
          | ok pair => exact .bind (justified_writeAudit _) fun _ _ _ => trivial

theorem justified_loginRefused {input : LoginRequest} {user : Option SuperAdminUser} {now : Time}
    (hinput : req.route = .login ∧ bindLogin web req = some input)
    (huser : ∀ user', user = some user' →
      (⟨.users (.getByEmail (Password.normalizeEmail d input.email)), .ok user'⟩ : Answered Eff) ∈ l ∧
        d.hasher.verify input.password user'.passwordHash = .ok false) :
    Justified d web req (Auth.loginRefused d user ⟨input.email, input.password⟩ req.context now) l := by
  have hentry : ∀ l', Justified d web req (do
      writeAudit (Auth.loginFailure none input.email "invalid_credentials" req.context now)
      return .error (.sentinel .invalidCredentials) : Proc (Except Error (TokenPair × SuperAdminUser))) l' :=
    fun _ => .bind (justified_writeAudit _) fun _ _ _ => trivial
  cases user with
  | none => exact hentry l
  | some user =>
      obtain ⟨hmem, hwrong⟩ := huser user rfl
      refine .step (allows_cause rfl (.guessed input user hinput hmem hwrong)) fun res => ?_
      cases res with
      | error e => trivial
      | ok _ => exact hentry _

theorem justified_login {input : LoginRequest} (hinput : req.route = .login ∧ bindLogin web req = some input) :
    Justified d web req (Auth.login d ⟨input.email, input.password⟩ req.context) l := by
  refine .step (allows_harmless rfl) fun now => .bind (justified_authenticate _) fun r l' hr => ?_
  cases r with
  | ok user => exact justified_loginUser user now
  | error ue =>
      dsimp only
      split
      · exact justified_loginRefused hinput fun user h => hr user ue.2 (by rw [← h])
      · trivial

theorem justified_refreshUsable {raw : String} {stored : RefreshToken} {now : Time}
    (hcookie : req.route = .refresh ∧ req.cookie = some raw)
    (hstored : (⟨.tokens (.getByHash (hashToken raw)), .ok stored⟩ : Answered Eff) ∈ l)
    (hnow : (⟨.now, now⟩ : Answered Eff) ∈ l) (hgood : (stored.isUsed || stored.isRevoked) = false) :
    Justified d web req (Auth.refreshUsable d stored req.context now) l := by
  refine .step (allows_harmless rfl) fun res => ?_
  cases res with
  | error e => trivial
  | ok user =>
      dsimp only
      cases hlogin : user.ensureCanLogin now with
      | some e =>
          refine .step (allows_cause rfl (.barred raw stored user now e hcookie (List.mem_append_left _ hstored)
            (List.mem_append_right _ (List.mem_singleton_self _)) (List.mem_append_left _ hnow) hlogin)) fun res => ?_
          cases res <;> trivial
      | none =>
          refine .seq (justified_of_harmless (harmless_issuePair user stored.sessionID req.context now))
            fun res l' hl _ => ?_
          cases res with
          | error e => trivial
          | ok p =>
              have hstored' := hl.subset (List.mem_append_left _ hstored)
              refine .step (allows_cause rfl (.renewed raw stored hcookie hstored' hgood)) fun res => ?_
              cases res with
              | error e => trivial
              | ok _ => exact .bind (justified_writeAudit _) fun _ _ _ => trivial

theorem justified_refresh {raw : String} (hcookie : req.route = .refresh ∧ req.cookie = some raw) :
    Justified d web req (Auth.refresh d raw req.context) l := by
  refine .step (allows_harmless rfl) fun now => .step (allows_harmless rfl) fun res => ?_
  cases res with
  | error e => trivial
  | ok stored =>
      have hstored : (⟨.tokens (.getByHash (hashToken raw)), .ok stored⟩ : Answered Eff) ∈
          l ++ [⟨.now, now⟩] ++ [⟨.tokens (.getByHash (hashToken raw)), .ok stored⟩] :=
        List.mem_append_right _ (List.mem_singleton_self _)
      dsimp only
      by_cases hdead : (stored.isUsed || stored.isRevoked) = true
      · rw [if_pos hdead]
        refine .step (allows_cause rfl (.reused raw stored hcookie hstored hdead)) fun res => ?_
        cases res with
        | error e => trivial
        | ok _ => exact .bind (justified_writeAudit _) fun _ _ _ => trivial
      · rw [if_neg hdead]
        split
        · trivial
        · refine justified_refreshUsable hcookie hstored ?_ (Bool.not_eq_true _ ▸ hdead)
          exact List.mem_append_left _ (List.mem_append_right _ (List.mem_singleton_self _))

/-- Sign-out closes the session of the token in the cookie. -/
theorem justified_logout (hroute : req.route = .logout) :
    Justified d web req (Auth.logout (req.cookie.getD "") none req.context) l := by
  have hunknown : ∀ now l', Justified d web req (Auth.logoutSession UUID.nil none req.context now) l' :=
    fun _ _ => trivial
  refine .step (allows_harmless rfl) fun now => ?_
  dsimp only
  split
  · exact hunknown now _
  · rename_i hraw
    have hcookie : req.cookie = some (req.cookie.getD "") := by
      cases hc : req.cookie with
      | none => exact absurd (by rw [hc]; rfl) hraw
      | some raw => rfl
    refine .step (allows_harmless rfl) fun res => ?_
    cases res with
    | error e =>
        dsimp only
        split
        · exact hunknown now _
        · trivial
    | ok stored =>
        have hcause : ∀ l', Cause d web req
            (l' ++ [⟨.tokens (.getByHash (hashToken (req.cookie.getD ""))), .ok stored⟩])
            (.closed stored.sessionID) := fun l' =>
          .signedOut _ stored ⟨hroute, hcookie⟩ (List.mem_append_right _ (List.mem_singleton_self _))
        refine .bind (R := fun _ _ => True) ?_ fun res _ _ => ?_
        · unfold Auth.revokeKnown
          split
          · exact .step (allows_cause rfl (hcause _)) fun _ => trivial
          · trivial
        · cases res <;> trivial

/-! ### The team -/

theorem harmless_updateRole (claims : AccessClaims) (id : UUID) (role : Role) (rc : RequestContext) :
    (Team.updateRole claims id role rc).Only fun op : Op => op.harm = none := by
  unfold Team.updateRole
  split
  · trivial
  · refine .step rfl fun res => ?_
    cases res with
    | error e => trivial
    | ok member =>
        dsimp only
        split
        · trivial
        · refine .step rfl fun res => ?_
          cases res with
          | error e => trivial
          | ok updated => exact .step rfl fun now => .bind (.step rfl fun _ => trivial) fun _ => trivial

theorem justified_revoke {claims : AccessClaims} {id : UUID} (hnames : req.names d = some (.member id))
    (hverified : Mediation.Verified req l claims)
    (hcan : Authz.can ⟨claims.userID.string, claims.role⟩ .superAdmin .delete = true) :
    Justified d web req (Team.revoke claims id req.context) l := by
  refine .step (allows_harmless rfl) fun res => ?_
  cases res with
  | error e => trivial
  | ok member =>
      dsimp only
      by_cases howner : member.role = .owner
      · rw [if_pos howner]
        trivial
      · rw [if_neg howner]
        have hcause : Cause d web req (l ++ [⟨.users (.getByID id), .ok member⟩]) (.expelled id) :=
          .revoked id member claims hnames (List.mem_append_right _ (List.mem_singleton_self _)) howner
            (hverified.grow _) hcan
        refine .step (allows_harmless rfl) fun now => .step (allows_cause rfl (hcause.grow _)) fun res => ?_
        cases res with
        | error e => trivial
        | ok _ =>
            refine .step (allows_cause rfl ((hcause.grow _).grow _)) fun res => ?_
            cases res with
            | error e => trivial
            | ok _ => exact .bind (justified_writeAudit _) fun _ _ _ => trivial

end programs

/-! ### Requests -/

section serve

variable {d : Deps} {web : Web} {req : Request} {ctx : Context} {l : List (Answered Eff)}

theorem justified_respond {α : Type} {res : Except Error α} {k : α → Response} :
    Justified d web req (respond res fun a => pure (k a)) l := by
  cases res <;> trivial

/-- The routes that are open to everyone. -/
theorem justified_open (haccess : req.route.access = .anyone) : Justified d web req (handle d web req {}) l := by
  unfold handle
  cases hroute : req.route with
  | login =>
      dsimp only
      unfold Handler.Auth.login
      cases hinput : bindLogin web req with
      | none => trivial
      | some input => exact .bind (justified_login ⟨hroute, hinput⟩) fun _ _ _ => justified_respond
  | refresh =>
      dsimp only
      unfold Handler.Auth.refresh
      cases hcookie : req.cookie with
      | none => trivial
      | some raw =>
          dsimp only
          split
          · trivial
          · refine .bind (justified_refresh ⟨hroute, hcookie⟩) fun res _ _ => ?_
            cases res with
            | error e => dsimp only; split <;> trivial
            | ok pair => trivial
  | logout => exact .bind (justified_logout hroute) fun _ _ _ => justified_respond
  | _ =>
      rw [hroute] at haccess
      cases haccess

theorem justified_teamRevoke {claims : AccessClaims} (hroute : req.route = .teamRevoke)
    (hclaims : ctx.claims = some claims) (hverified : Mediation.Verified req l claims)
    (hcan : Authz.can ⟨claims.userID.string, claims.role⟩ .superAdmin .delete = true) :
    Justified d web req (handle d web req ctx) l := by
  unfold handle
  rw [hroute]
  dsimp only
  unfold Handler.Team.revoke
  cases hid : d.issuer.uuidParse req.id with
  | error e =>
      unfold paramID
      rw [hid]
      trivial
  | ok id =>
      unfold paramID claimsFrom
      rw [hid, hclaims]
      refine .bind (justified_revoke ?_ hverified hcan) fun _ _ _ => justified_respond
      exact Repertoire.names_eq (congrArg Route.target hroute) hid

theorem harmless_teamUpdateRole (hroute : req.route = .teamUpdateRole) :
    (handle d web req ctx).Only fun op : Op => op.harm = none := by
  unfold handle
  rw [hroute]
  dsimp only
  unfold Handler.Team.updateRole
  cases paramID d req "некорректный id сотрудника" with
  | error resp => trivial
  | ok id =>
      cases bound (bindRole req) "body" "укажите роль" with
      | error resp => trivial
      | ok role =>
          cases claimsFrom ctx with
          | error resp => trivial
          | ok claims =>
              refine .bind (harmless_updateRole claims id _ _) fun res => ?_
              cases res <;> trivial

/-- Whatever the request is, it harms nobody's access without a cause. -/
theorem justified_serve : Justified d web req (serve d web req) [] := by
  by_cases haccess : req.route.access = .anyone
  · have hserve : serve d web req = handle d web req {} := by
      unfold serve
      rw [haccess]
      rfl
    rw [hserve]
    exact justified_open haccess
  · by_cases hrevoke : req.route = .teamRevoke
    · have hharmless : Justified d web req (middleware req req.route.access) [] :=
        justified_of_harmless (harmless_reads (Repertoire.reads_middleware _))
      have hpassed : (middleware req req.route.access).Mediated (Mediation.permits d web req)
          (Mediation.Passed req req.route.access) [] := Mediation.mediated_middleware _
      refine .bind (hharmless.and hpassed) fun r l hr => ?_
      cases r with
      | error resp => trivial
      | ok ctx =>
          obtain ⟨claims, hclaims, hverified, hcan⟩ := hr.2 ctx rfl haccess
          exact justified_teamRevoke hrevoke hclaims hverified (hcan _ _ (congrArg Route.access hrevoke))
    · refine justified_of_harmless ?_
      by_cases hrole : req.route = .teamUpdateRole
      · refine .bind (harmless_reads (Repertoire.reads_middleware _)) fun res => ?_
        cases res with
        | error resp => trivial
        | ok ctx => exact harmless_teamUpdateRole hrole
      · refine Repertoire.within_serve.mono fun op hop => harm_of_within hop (fun h => ?_) fun id h => ?_
        · rcases Repertoire.names_cases h with ⟨f, id, htarget, -, hf⟩ | ⟨-, hopen⟩
          · rcases Repertoire.target_cases htarget with rfl | rfl | ⟨rfl, -⟩ <;> cases hf
          · exact haccess (by rcases hopen with hopen | hopen | hopen <;> rw [hopen] <;> rfl)
        · rcases Repertoire.names_cases h with ⟨f, id, htarget, -, hf⟩ | ⟨hsessions, -⟩
          · rcases Repertoire.target_cases htarget with rfl | rfl | ⟨-, hroute | hroute⟩
            · cases hf
            · cases hf
            · exact hrole hroute
            · exact hrevoke hroute
          · cases hsessions

end serve

/-! ### What befalls a row -/

section rows

variable {d : Deps} {r : Draws} {w : World d} {op : Op}

/-- The token `t` before and the token `u` after a query that deletes none. -/
inductive Makes (t : RefreshToken) : TokensOp → RefreshToken → Prop
  | kept (op : TokensOp) : Makes t op t
  | spent (replacedBy : UUID) (now : Time) : Makes t (.markUsed t.id replacedBy now) (t.used replacedBy now)
  | closed (reason : String) (now : Time) : Makes t (.revokeSession t.sessionID reason now) (t.revoked reason now)
  | expelled (reason : String) (now : Time) : Makes t (.revokeAllForUser t.userID reason now) (t.revoked reason now)

theorem mem_exec_makes {hasUser : UUID → Bool} {clock : Time} {T : TokenTable} {op : TokensOp}
    (h : op.keepsRows = true) {u : RefreshToken} (hu : u ∈ (op.exec hasUser clock T).2.rows) :
    (∃ t ∈ T.rows, Makes t op u) ∨ ∃ t, op = .create t ∧ u = t.inserted clock := by
  have hupdate : ∀ {p : RefreshToken → Bool} {f : RefreshToken → RefreshToken}
      (hf : ∀ t, ((f t).id, (f t).tokenHash) = (t.id, t.tokenHash)), (∀ t, p t = true → Makes t op (f t)) →
      u ∈ (T.update p f hf).rows → ∃ t ∈ T.rows, Makes t op u := by
    intro p f hf hmakes hu
    obtain ⟨t, ht, rfl⟩ := (Table.mem_update hf).mp hu
    refine ⟨t, ht, ?_⟩
    by_cases hp : p t = true
    · rw [if_pos hp]
      exact hmakes t hp
    · rw [if_neg hp]
      exact .kept op
  cases op with
  | create t =>
      rcases TokensOp.exec_create hasUser clock (T := T) (t := t) with ⟨U, hi, -, he⟩ | ⟨_, _, he⟩
      · rw [he] at hu
        rw [(Table.insert?_eq_some hi).1, List.mem_append, List.mem_singleton] at hu
        rcases hu with hu | hu
        · exact .inl ⟨u, hu, .kept _⟩
        · exact .inr ⟨t, rfl, hu⟩
      · rw [he] at hu
        exact .inl ⟨u, hu, .kept _⟩
  | getByHash hash => exact .inl ⟨u, hu, .kept _⟩
  | markUsed id replacedBy now =>
      rcases TokensOp.exec_markUsed hasUser clock (T := T) id replacedBy now with he | ⟨_, _, he⟩
      · rw [he] at hu
        refine .inl (hupdate (fun _ => by rfl) (fun t hp => ?_) hu)
        rw [← eq_of_beq (Bool.and_eq_true_iff.mp hp).1]
        exact .spent replacedBy now
      · rw [he] at hu
        exact .inl ⟨u, hu, .kept _⟩
  | revokeSession sessionID reason now =>
      refine .inl (hupdate (fun _ => by rfl) (fun t hp => ?_) hu)
      rw [← eq_of_beq (Bool.and_eq_true_iff.mp hp).1]
      exact .closed reason now
  | revokeAllForUser userID reason now =>
      refine .inl (hupdate (fun _ => by rfl) (fun t hp => ?_) hu)
      rw [← eq_of_beq (Bool.and_eq_true_iff.mp hp).1]
      exact .expelled reason now
  | deleteExpired before => cases h

/-- Where a token after a call of the server comes from. -/
theorem mem_exec_tokens (hop : op.regular = true) {u : RefreshToken} (hu : u ∈ (exec d r op w).2.tokens.rows) :
    (∃ t ∈ w.tokens.rows, t = u ∨ ∃ top, op = .tokens top ∧ Makes t top u) ∨
      ∃ t, op = .tokens (.create t) ∧ u = t.inserted w.clock := by
  by_cases htop : ∃ top, op = .tokens top
  · obtain ⟨top, rfl⟩ := htop
    rcases mem_exec_makes hop hu with ⟨t, ht, hmakes⟩ | ⟨t, rfl, hinserted⟩
    · exact .inl ⟨t, ht, .inr ⟨top, rfl, hmakes⟩⟩
    · exact .inr ⟨t, rfl, hinserted⟩
  · rw [exec_tokens r op w fun top h => htop ⟨top, h⟩] at hu
    exact .inl ⟨u, hu, .inl rfl⟩

/-- The token with this id is used. -/
def Spent (id : UUID) (w : World d) : Prop := ∃ t ∈ w.tokens.rows, t.id = id ∧ t.isUsed = true

/-- The token with this id, of this session and this user, is revoked. -/
def Revoked (id sessionID userID : UUID) (w : World d) : Prop :=
  ∃ t ∈ w.tokens.rows, t.id = id ∧ t.sessionID = sessionID ∧ t.userID = userID ∧ t.isRevoked = true

/-- The user is suspended. -/
def Suspended (id : UUID) (w : World d) : Prop := ∃ u ∈ w.users.rows, u.id = id ∧ u.status = .suspended

/-- The counter of the user is no lower than `n`, and the lock, if there is one, is this one. -/
def Counted (id : UUID) (n : ℕ) (lock : Option Time) (w : World d) : Prop :=
  ∃ u ∈ w.users.rows, u.id = id ∧ n ≤ u.failedLoginAttempts ∧ (lock = none ∨ u.lockedUntil = lock)

theorem exec_spent {id : UUID} (hop : op.regular = true) (h : Spent id (exec d r op w).2) :
    Spent id w ∨ op.harm = some (.spent id) := by
  obtain ⟨u, hu, rfl, hused⟩ := h
  rcases mem_exec_tokens hop hu with ⟨t, ht, rfl | ⟨top, rfl, hmakes⟩⟩ | ⟨t, -, rfl⟩
  · exact .inl ⟨_, ht, rfl, hused⟩
  · cases hmakes with
    | kept => exact .inl ⟨_, ht, rfl, hused⟩
    | spent replacedBy now => exact .inr rfl
    | closed reason now => exact .inl ⟨_, ht, rfl, hused⟩
    | expelled reason now => exact .inl ⟨_, ht, rfl, hused⟩
  · cases hused

theorem exec_revoked {id sessionID userID : UUID} (hop : op.regular = true)
    (h : Revoked id sessionID userID (exec d r op w).2) :
    Revoked id sessionID userID w ∨ op.harm = some (.closed sessionID) ∨ op.harm = some (.expelled userID) := by
  obtain ⟨u, hu, rfl, rfl, rfl, hrevoked⟩ := h
  rcases mem_exec_tokens hop hu with ⟨t, ht, rfl | ⟨top, rfl, hmakes⟩⟩ | ⟨t, -, rfl⟩
  · exact .inl ⟨_, ht, rfl, rfl, rfl, hrevoked⟩
  · cases hmakes with
    | kept => exact .inl ⟨_, ht, rfl, rfl, rfl, hrevoked⟩
    | spent replacedBy now => exact .inl ⟨_, ht, rfl, rfl, rfl, hrevoked⟩
    | closed reason now => exact .inr (.inl rfl)
    | expelled reason now => exact .inr (.inr rfl)
  · cases hrevoked

theorem exec_suspended {id : UUID} (h : Suspended id (exec d r op w).2) :
    Suspended id w ∨ op.harm = some (.expelled id) := by
  obtain ⟨u, hu, rfl, hsuspended⟩ := h
  obtain ⟨v, hv, rfl | ⟨uop, rfl, hmakes⟩⟩ := mem_exec_users hu
  · exact .inl ⟨_, hv, rfl, hsuspended⟩
  · cases hmakes with
    | status status => exact .inr rfl
    | _ => exact .inl ⟨_, hv, rfl, hsuspended⟩

theorem exec_counted {id : UUID} {n : ℕ} {lock : Option Time} (h : Counted id n lock (exec d r op w).2) :
    Counted id n lock w ∨ op.harm = some (.counted id) := by
  obtain ⟨u, hu, rfl, hn, hlock⟩ := h
  obtain ⟨v, hv, rfl | ⟨uop, rfl, hmakes⟩⟩ := mem_exec_users hu
  · exact .inl ⟨_, hv, rfl, hn, hlock⟩
  · cases hmakes with
    | failed lockedUntil => exact .inr rfl
    | succeeded now => exact .inl ⟨_, hv, rfl, hn.trans (Nat.zero_le _), .inl (hlock.elim (fun h => h) Eq.symm)⟩
    | _ => exact .inl ⟨_, hv, rfl, hn, hlock⟩

end rows

/-! ### Runs -/

variable {d : Deps} {web : Web} {ι : Type} [DecidableEq ι] {draws : ι → Draws} {requests : ι → Request}
  {w : World d} {P : Pool Eff (Recorded Eff (World d) ι) ι Response}

/-- Some call of the trace did this harm and had its cause in the calls of its request before it. -/
def Caused (d : Deps) (web : Web) (draws : ι → Draws) (requests : ι → Request)
    (trace : List (Event Eff (World d) ι)) (harm : Harm) : Prop :=
  ∃ newer e older, trace = newer ++ e :: older ∧ e.op.harm = some harm ∧
    Cause d web (requests e.tid) (calls (fun i => exec d (draws i)) e.tid older) harm

/-- What harms do, unless it was so at the start, one of them has done with a cause. -/
theorem caused (hr : Pool.Run (record fun i => exec d (draws i)) (recordEnv Ticks) (fun _ _ _ => True)
      (Mediation.serverPool d web requests w) P) {F : World d → Prop} (harms : Harm → Prop)
    (hact : ∀ (r : Draws) (op : Op) (w : World d), op.regular = true → F (exec d r op w).2 →
      F w ∨ ∃ harm, harms harm ∧ op.harm = some harm)
    (hticks : ∀ w w' : World d, Ticks w w' → F w' → F w) (hF : F P.state.now) :
    F w ∨ ∃ harm, harms harm ∧ Caused d web draws requests P.state.trace harm := by
  rcases (Repertoire.run_within hr).since F (fun (op : Op) _ => ∃ harm, harms harm ∧ op.harm = some harm)
    (fun i op s hop => hact (draws i) op s.now hop.1) hticks hF with
    hstart | ⟨newer, e, older, htrace, harm, hharms, hop⟩
  · exact .inl hstart
  · have hpermitted := hr.permitted (M := fun i => permits d web (requests i)) rfl fun _ => justified_serve
    exact .inr ⟨harm, hharms, newer, e, older, htrace, hop, hpermitted.split htrace harm hop⟩

/-- **Nobody loses access without a cause.** In every interleaving of any requests: a refresh token is used in
the end only if it was at the start or a renewal has presented it; it is revoked only if it was at the start,
or a renewal or a sign-out has presented a token of its session, or someone with the permission has revoked
the access of its user, who is no owner; a member is suspended only if they were or in the same way; and the
counter of failed logins and the lock of an account are no worse than at the start, unless a login with its
email has sent a password that is not its own. -/
theorem no_harm_without_cause
    (hr : Pool.Run (record fun i => exec d (draws i)) (recordEnv Ticks) (fun _ _ _ => True)
      (Mediation.serverPool d web requests w) P) :
    (∀ t ∈ P.state.now.tokens.rows, t.isUsed = true →
      (∃ t₀ ∈ w.tokens.rows, t₀.id = t.id ∧ t₀.isUsed = true) ∨
        Caused d web draws requests P.state.trace (.spent t.id)) ∧
    (∀ t ∈ P.state.now.tokens.rows, t.isRevoked = true →
      (∃ t₀ ∈ w.tokens.rows, t₀.id = t.id ∧ t₀.isRevoked = true) ∨
        Caused d web draws requests P.state.trace (.closed t.sessionID) ∨
        Caused d web draws requests P.state.trace (.expelled t.userID)) ∧
    (∀ u ∈ P.state.now.users.rows, u.status = .suspended →
      (∃ u₀ ∈ w.users.rows, u₀.id = u.id ∧ u₀.status = .suspended) ∨
        Caused d web draws requests P.state.trace (.expelled u.id)) ∧
    ∀ u ∈ P.state.now.users.rows,
      (∃ u₀ ∈ w.users.rows, u₀.id = u.id ∧ u.failedLoginAttempts ≤ u₀.failedLoginAttempts ∧
        (u.lockedUntil = none ∨ u₀.lockedUntil = u.lockedUntil)) ∨
        Caused d web draws requests P.state.trace (.counted u.id) := by
  refine ⟨fun t ht hused => ?_, fun t ht hrevoked => ?_, fun u hu hsuspended => ?_, fun u hu => ?_⟩
  · rcases caused hr (F := Spent t.id) (· = .spent t.id)
      (fun r op w hop h => (exec_spent hop h).imp_right fun h => ⟨_, rfl, h⟩)
      (by rintro w w' ⟨_, -, rfl⟩ h; exact h) ⟨t, ht, rfl, hused⟩ with hstart | ⟨harm, rfl, hcaused⟩
    · exact .inl hstart
    · exact .inr hcaused
  · rcases caused hr (F := Revoked t.id t.sessionID t.userID)
      (fun h => h = .closed t.sessionID ∨ h = .expelled t.userID)
      (fun r op w hop h => (exec_revoked hop h).imp_right fun h =>
        h.elim (fun h => ⟨_, .inl rfl, h⟩) fun h => ⟨_, .inr rfl, h⟩)
      (by rintro w w' ⟨_, -, rfl⟩ h; exact h) ⟨t, ht, rfl, rfl, rfl, hrevoked⟩ with
      ⟨t₀, ht₀, hid, -, -, hrevoked₀⟩ | ⟨harm, rfl | rfl, hcaused⟩
    · exact .inl ⟨t₀, ht₀, hid, hrevoked₀⟩
    · exact .inr (.inl hcaused)
    · exact .inr (.inr hcaused)
  · rcases caused hr (F := Suspended u.id) (· = .expelled u.id)
      (fun r op w _ h => (exec_suspended h).imp_right fun h => ⟨_, rfl, h⟩)
      (by rintro w w' ⟨_, -, rfl⟩ h; exact h) ⟨u, hu, rfl, hsuspended⟩ with hstart | ⟨harm, rfl, hcaused⟩
    · exact .inl hstart
    · exact .inr hcaused
  · rcases caused hr (F := Counted u.id u.failedLoginAttempts u.lockedUntil) (· = .counted u.id)
      (fun r op w _ h => (exec_counted h).imp_right fun h => ⟨_, rfl, h⟩)
      (by rintro w w' ⟨_, -, rfl⟩ h; exact h) ⟨u, hu, rfl, le_refl _, .inr rfl⟩ with hstart | ⟨harm, rfl, hcaused⟩
    · exact .inl hstart
    · exact .inr hcaused

/-- Somebody tries a password for the owner's email. -/
def guessRequest : Request where
  route := .login
  body := some (.obj [("email", .str Sample.owner.email), ("password", .str "correct horses")])
  ip := Sample.context.ip
  userAgent := Sample.context.userAgent

/-- The owner's counter has gone up, and the login that did it had the owner's email and not the password. -/
theorem no_harm_without_cause_guess : Caused Mediation.desk ⟨fun _ => true⟩ (fun _ => Sample.draws 0)
    (fun _ => guessRequest) (Mediation.firstCalls guessRequest 3).state.trace (.counted Sample.owner.id) := by
  have hcounted : ∃ u ∈ (Mediation.firstCalls guessRequest 3).state.now.users.rows,
      u.id = Sample.owner.id ∧ u.failedLoginAttempts = 1 := by decide
  obtain ⟨u, hu, hid, hone⟩ := hcounted
  have hstart : ∀ u₀ ∈ Mediation.deskWorld.users.rows, u₀.failedLoginAttempts = 0 := by decide
  rcases (no_harm_without_cause (Pool.play_run _ _)).2.2.2 u hu with ⟨u₀, hu₀, -, hle, -⟩ | hcaused
  · rw [hstart u₀ hu₀, hone] at hle
    exact absurd hle (by decide)
  · exact hid ▸ hcaused

end Causes

end SuperAdmin
