import SuperAdmin.Http.Issued
import SuperAdmin.Web.Wire

/-! # The session store and the answers that come late

Four flows write the store of a page, each after an await.  The store stays consistent (nobody without a
token and a user, and somebody only with a token that was issued for the user beside it) as long as two
answers do not come late: that of a refresh, after the page was signed out or signed in as somebody else,
and that of `/me`, after the token of the page became that of somebody else. -/

namespace SuperAdmin.SessionStore

open Effects Http Web

variable {σ ι κ : Type} {d : Deps}

/-! ### Consistent stores -/

/-- A non-empty token that the server issued for a user, given by the text of its id. -/
def IssuedFor (d : Deps) (token id : String) : Prop :=
  token ≠ "" ∧ ∃ userID : UUID, IssuedTo d token userID ∧ userID.string = id

/-- What the status of a store promises. -/
structure Consistent (d : Deps) (a : AuthState) : Prop where
  anonymous : a.status = .anonymous → a.accessToken = none ∧ a.user = none
  authenticated : a.status = .authenticated →
    ∃ token user, a.accessToken = some token ∧ a.user = some user ∧ IssuedFor d token user.id

theorem consistent_clearSession : Consistent d clearSession where
  anonymous _ := ⟨rfl, rfl⟩
  authenticated h := by cases h

theorem consistent_setSession {token : String} {user : AuthUser} (h : IssuedFor d token user.id) :
    Consistent d (setSession token user) where
  anonymous h := by cases h
  authenticated _ := ⟨token, user, rfl, rfl, h⟩

/-- A refresh finds the page as it is to be: it was not signed out, and the token is for its user. -/
def InTime (d : Deps) (token : String) (a : AuthState) : Prop :=
  a.status ≠ .anonymous ∧ ∀ user, a.user = some user → IssuedFor d token user.id

theorem consistent_updateAccessToken {token : String} {a : AuthState} (ha : Consistent d a)
    (h : InTime d token a) : Consistent d (updateAccessToken token a) where
  anonymous hstatus := absurd hstatus h.1
  authenticated hstatus := by
    obtain ⟨-, user, -, huser, -⟩ := ha.authenticated hstatus
    exact ⟨token, user, rfl, huser, h.2 user huser⟩

/-! ### The last request of a thread -/

/-- The latest flight of a thread. -/
structure Last (i : ι) (n : ℕ) (f : Flight ι Bool) (l : List (Flight ι Bool)) : Prop where
  there : l[n]? = some f
  thread : f.thread = i
  latest : ∀ (m : ℕ) (g : Flight ι Bool), l[m]? = some g → g.thread = i → m ≤ n

/-- A flight that is not one of a thread. -/
def Others (i : ι) (j : ι) (_ : Fetch) : Prop := j ≠ i

namespace Last

variable {i : ι} {n m : ℕ} {f g : Flight ι Bool} {l l' : List (Flight ι Bool)}

theorem unique (hf : Last i n f l) (hg : Last i m g l) : f = g := by
  have hle := hf.latest m g hg.there hg.thread
  have hle' := hg.latest n f hf.there hf.thread
  obtain rfl : n = m := by omega
  exact Option.some.inj (hf.there.symm.trans hg.there)

/-- Other threads start no flight of a thread. -/
theorem evolves (h : Last i n f l) (hev : Evolves (Others i) l l') :
    ∃ f', Last i n f' l' ∧ f.Evolves f' := by
  obtain ⟨f', hf', hflight⟩ := hev.kept n f h.there
  refine ⟨f', ⟨hf', hflight.thread.trans h.thread, fun m g' hg' hgi => ?_⟩, hflight⟩
  rcases hev.fresh m g' hg' with hlt | hother
  · obtain ⟨g, hg, hflightg⟩ := hev.before hg' hlt
    exact h.latest m g hg (hflightg.thread ▸ hgi)
  · exact absurd hgi hother

/-- A flight that was just started. -/
theorem started (hf : f.thread = i) : Last i l.length f (l ++ [f]) where
  there := List.getElem?_concat_length
  thread := hf
  latest m g hg _ := by
    rcases getElem?_sent hg with hold | ⟨rfl, -⟩
    · exact le_of_lt (List.getElem?_eq_some_iff.mp hold).1
    · exact le_refl _

end Last

/-- The answer to the latest flight of a thread, which went to a path. -/
def Got (i : ι) (path : String) (method : Method) (resp : Response) (n : ℕ)
    (l : List (Flight ι Bool)) : Prop :=
  ∃ f mark, Last i n f l ∧ f.request.path = path ∧ f.request.method = method ∧
    f.answer = some (resp, mark)

theorem Got.evolves {i : ι} {path : String} {method : Method} {resp : Response} {n : ℕ}
    {l l' : List (Flight ι Bool)} (h : Got i path method resp n l) (hev : Evolves (Others i) l l') :
    Got i path method resp n l' := by
  obtain ⟨f, mark, hlast, hpath, hmethod, hanswer⟩ := h
  obtain ⟨f', hlast', hflight⟩ := hlast.evolves hev
  exact ⟨f', mark, hlast', hflight.request ▸ hpath, hflight.request ▸ hmethod, hflight.answer _ hanswer⟩

/-- What a promise of `request` resolves with. -/
def Yields (resp : Response) (data : Option Json) : Prop :=
  resp.status < 300 ∧ (data = none ∨ ∃ body, resp.body.json = some body ∧ envelope body = .ok data)

/-- What the last request of a thread, to a path, has resolved with. -/
def Fetched (i : ι) (path : String) (method : Method) (data : Option Json)
    (l : List (Flight ι Bool)) : Prop :=
  ∃ resp n, Got i path method resp n l ∧ Yields resp data

theorem Fetched.evolves {i : ι} {path : String} {method : Method} {data : Option Json}
    {l l' : List (Flight ι Bool)} (h : Fetched i path method data l) (hev : Evolves (Others i) l l') :
    Fetched i path method data l' := by
  obtain ⟨resp, n, hgot, hyields⟩ := h
  exact ⟨resp, n, hgot.evolves hev, hyields⟩

/-! ### What the answers say -/

/-- A signed token is not empty and has no space around it. -/
def Compact (lib : JwtLib) : Prop :=
  ∀ h c key token, lib.signedString h c key = .ok token → token ≠ "" ∧ trimSpace token = token

/-- Two tokens of one user. -/
def SameUser (d : Deps) (token token' : String) : Prop :=
  ∃ userID, IssuedTo d token userID ∧ IssuedTo d token' userID

theorem compact_of_issued {token : String} {userID : UUID} (hcompact : Compact d.issuer.lib)
    (h : IssuedTo d token userID) : token ≠ "" ∧ trimSpace token = token := by
  obtain ⟨claims, hissue, -⟩ := h
  exact hcompact _ _ _ _ (Issuer.issue_ok hissue)

/-- The data that a request resolves with. -/
theorem Yields.data {resp : Response} {data : Option Json} {value : Json} (h : Yields resp data)
    (hbody : resp.body = .data value) : data = none ∨ data = some value := by
  obtain ⟨-, hnone | ⟨body, hjson, henvelope⟩⟩ := h
  · exact .inl hnone
  · rw [hbody] at hjson
    cases hjson
    have hvalue : envelope (.obj [("data", value)]) = .ok (some value) := rfl
    rw [hvalue] at henvelope
    exact .inr (Except.ok.inj henvelope).symm

variable {web : Http.Web} {query : String → String → String} {i : ι} {path : String}

/-- A request that was routed was served. -/
theorem Got.served {method : Method} {resp : Response} {n : ℕ} {s : Browser σ ι κ Bool} {route : Route}
    {id : String} (hsound : s.Sound (Answers d web query)) (h : Got i path method resp n s.flights)
    (hmatch : matchRoute method path = some (route, id)) :
    ∃ f rc mark, Last i n f s.flights ∧
      Served d web (requestOf query rc f.request f.cookie route id) resp mark := by
  obtain ⟨f, mark, hlast, rfl, rfl, hanswer⟩ := h
  obtain ⟨rc, hserved⟩ := hsound f (List.mem_of_getElem? hlast.there) resp mark hanswer
  rw [received, hmatch] at hserved
  exact ⟨f, rc, mark, hlast, hserved⟩

/-- A sign-in stores a token of the user beside it. -/
theorem issuedFor_login {data : Option Json} {token : String} {user : AuthUser}
    {s : Browser σ ι κ Bool} (hcompact : Compact d.issuer.lib) (hsound : s.Sound (Answers d web query))
    (hdata : Fetched i "/auth/login" .post data s.flights)
    (hsession : loginSession data = .ok (token, user)) : IssuedFor d token user.id := by
  obtain ⟨resp, n, hgot, hyields⟩ := hdata
  have hmatch : matchRoute .post "/auth/login" = some (.login, "") := by decide
  obtain ⟨f, rc, mark, -, hserved⟩ := hgot.served hsound hmatch
  have hlt : resp.status < 400 := by
    have hsuccess := hyields.1
    omega
  obtain ⟨access, expiresAt, u, hissued, hbody⟩ := hserved.loggedIn rfl hlt
  rcases hyields.data hbody with rfl | rfl
  · cases hsession
  · have hread : ∃ user', loginSession (some (.obj [
        ("access_token", .str access),
        ("expires_at", .time expiresAt),
        ("user", Handler.Auth.toUserResponse u)])) = .ok (access, user') ∧ user'.id = u.id.string :=
      ⟨_, rfl, rfl⟩
    obtain ⟨user', hok, hid⟩ := hread
    rw [hok] at hsession
    cases hsession
    exact ⟨(compact_of_issued hcompact hissued).1, u.id, hissued, hid.symm⟩

/-- A restored session stores the user of the token that `/me` was asked with. -/
theorem issuedFor_me {data : Option Json} {token sent : String} {user : AuthUser} {m : ℕ}
    {g : Flight ι Bool} {s : Browser σ ι κ Bool} (hlib : Issuer.DecodesSigned d.issuer.lib)
    (huuid : Issuer.ReadsBackUUIDs d.issuer.uuidParse) (hcompact : Compact d.issuer.lib)
    (hsound : s.Sound (Answers d web query)) (hdata : Fetched i "/me" .get data s.flights)
    (huser : toAuthUser data = .ok user) (hlast : Last i m g s.flights)
    (hsent : g.request.headers "Authorization" = some (bearer sent)) (hsame : SameUser d token sent) :
    IssuedFor d token user.id := by
  obtain ⟨resp, n, hgot, hyields⟩ := hdata
  obtain ⟨userID, hissued, hissued'⟩ := hsame
  have hmatch : matchRoute .get "/me" = some (.me, "") := by decide
  obtain ⟨f, rc, mark, hlast', hserved⟩ := hgot.served hsound hmatch
  obtain rfl := hlast'.unique hlast
  have hlt : resp.status < 400 := by
    have hsuccess := hyields.1
    omega
  have htoken : Middleware.bearerToken (requestOf query rc f.request f.cookie .me "").authorization =
      some sent := by
    obtain ⟨hne, htrim⟩ := compact_of_issued hcompact hissued'
    show Middleware.bearerToken ((f.request.headers "Authorization").getD "") = _
    rw [hsent]
    exact Middleware.bearerToken_bearer hne htrim
  obtain ⟨now, claims, u, hparse, hid, hbody⟩ := hserved.isMe rfl htoken hlt
  rcases hyields.data hbody with rfl | rfl
  · cases huser
  · have hread : ∃ user', toAuthUser (some (Handler.Auth.toUserResponse u)) = .ok user' ∧
        user'.id = u.id.string := ⟨_, rfl, rfl⟩
    obtain ⟨user', hok, hstring⟩ := hread
    rw [hok] at huser
    cases huser
    obtain ⟨signed, hissue, rfl⟩ := hissued'
    obtain ⟨hclaims, -⟩ := Issuer.parse_issue hlib huuid hissue hparse
    refine ⟨(compact_of_issued hcompact hissued).1, signed.userID, hissued, ?_⟩
    rw [hstring, hid, hclaims]

/-! ### What the flows store -/

/-- What a session is set from: `login` takes both parts from the answer to its request, `restoreSession`
only the user. -/
def Based (flow : Flow) (i : ι) (token : String) (user : AuthUser) (s : Browser σ ι κ Bool) : Prop :=
  match flow with
  | .login _ _ => ∃ data, Fetched i "/auth/login" .post data s.flights ∧
      loginSession data = .ok (token, user)
  | .restoreSession => ∃ data, Fetched i "/me" .get data s.flights ∧ toAuthUser data = .ok user
  | _ => False

variable [DecidableEq κ] {page : ι → κ} {flow : Flow} {init : RequestInit}

/-- The rules of a thread: the others start no flights of it, and it sets sessions only from its answers. -/
def rules (page : ι → κ) (flow : Flow) (i : ι) : Rules WebEff (Browser σ ι κ Bool) where
  assume op s := s.Ready page i op
  rely s s' := Evolves (Others i) s.flights s'.flights
  guar op s := ∀ token user, op = .setSession token user → Based flow i token user s
  rely_refl s := .refl s.flights
  rely_trans h h' := h.trans h'

/-- What sets no session is safe. -/
theorem quiet_safe {α : Type} {p : WebProc α} {R : α → Prop}
    (hp : p.Only fun op : WebOp => ∀ token user, op ≠ .setSession token user) (hres : p.Returns R)
    (s : Browser σ ι κ Bool) :
    p.Safe (Browser.exec page i) (rules page flow i) (fun a _ => R a) s := by
  have hquiet := hp.safe (h := Browser.exec page i) (Γ := rules page flow i) (I := fun _ => True) hres
    (fun _ _ _ h => h) (fun op s' hop _ _ => ⟨fun token user h => absurd h (hop token user), trivial⟩)
    (s := s) trivial
  exact hquiet.mono fun a s' h => h.1

theorem send_safe (s : Browser σ ι κ Bool) :
    (send path init).Safe (Browser.exec page i) (rules page flow i)
      (fun res s' => ∀ r, res = .ok r → ∃ resp, r.status = resp.status ∧
        Got i path init.method resp r.fetch s'.flights) s := by
  refine .step fun s₁ h₁ _ => ⟨fun _ _ h => (by cases h), ?_⟩
  refine .step fun s₂ h₂ _ => ⟨fun _ _ h => (by cases h), ?_⟩
  refine .step fun s₃ h₃ _ => ⟨fun _ _ h => (by cases h), .pure fun s' h' r hr => ?_⟩
  have hr : (s₃.responded s₂.flights.length).map (FetchResponse.mk s₂.flights.length) = .ok r := hr
  cases hres : s₃.responded s₂.flights.length with
  | error e => rw [hres] at hr; cases hr
  | ok status =>
      rw [hres] at hr
      cases hr
      obtain ⟨f, resp, mark, hf, hanswer, rfl⟩ := Browser.responded_ok hres
      have hev : Evolves (Others i) (s₂.flights ++ [_]) s₃.flights := h₃
      obtain ⟨f₁, hlast, hflight⟩ := (Last.started (i := i) rfl).evolves hev
      have hlast₁ := hlast.there
      rw [hf] at hlast₁
      cases hlast₁
      have hgot : Got i path init.method resp s₂.flights.length s₃.flights :=
        ⟨f, mark, hlast, by rw [hflight.request]; rfl, by rw [hflight.request]; rfl, hanswer⟩
      exact ⟨resp, rfl, hgot.evolves h'⟩

theorem unwrap_safe {r : FetchResponse} {resp : Response} {s : Browser σ ι κ Bool}
    (hstatus : r.status = resp.status) (hgot : Got i path init.method resp r.fetch s.flights) :
    (unwrap r).Safe (Browser.exec page i) (rules page flow i)
      (fun res s' => ∀ data, res = .ok data → Fetched i path init.method data s'.flights) s := by
  unfold unwrap
  split
  · exact .step fun s₁ h₁ _ => ⟨fun _ _ h => (by cases h), .pure fun _ _ _ h => (by cases h)⟩
  · rename_i hok
    have hok : 200 ≤ r.status ∧ r.status < 300 := by simpa [FetchResponse.ok] using hok
    have hlt : resp.status < 300 := hstatus ▸ hok.2
    split
    · refine .pure fun s' h' data hdata => ?_
      cases hdata
      exact ⟨resp, r.fetch, hgot.evolves h', hlt, .inl rfl⟩
    · refine .step fun s₁ h₁ _ => ⟨fun _ _ h => (by cases h), .pure fun s' h' data hdata => ?_⟩
      have hdata : (s₁.read r.fetch).bind envelope = .ok data := hdata
      cases hread : s₁.read r.fetch with
      | error e => rw [hread] at hdata; cases hdata
      | ok body =>
          rw [hread] at hdata
          obtain ⟨f, resp', mark, hf, hanswer, hbody⟩ := Browser.read_ok hread
          obtain ⟨f₁, mark₁, hlast, -, -, hanswer₁⟩ := hgot.evolves h₁
          have hthere := hlast.there
          rw [hf] at hthere
          cases hthere
          rw [hanswer] at hanswer₁
          cases hanswer₁
          exact ⟨resp, r.fetch, (hgot.evolves h₁).evolves h', hlt, .inr ⟨body, hbody, hdata⟩⟩

theorem ofRefresh_quiet (op : WebOp) (h : op.ofRefresh) (token : String) (user : AuthUser) :
    op ≠ .setSession token user := by
  rintro rfl
  exact h

theorem isJson_quiet (op : WebOp) (h : op.isJson) (token : String) (user : AuthUser) :
    op ≠ .setSession token user := by
  rintro rfl
  exact h

/-- A request resolves with what its last attempt was answered. -/
theorem request_safe (s : Browser σ ι κ Bool) :
    (request path init).Safe (Browser.exec page i) (rules page flow i)
      (fun res s' => ∀ data, res = .ok data → Fetched i path init.method data s'.flights) s := by
  refine .bind ((send_safe s).mono fun res s' h => ?_)
  cases res with
  | error e => exact .pure fun _ _ _ hdata => (by cases hdata)
  | ok r =>
      obtain ⟨resp, hstatus, hgot⟩ := h r rfl
      dsimp only
      split
      · rename_i hcond
        refine .bind ((quiet_safe (refreshAccessToken_only.mono ofRefresh_quiet) (Prog.returns_true _)
          s').mono fun outcome s'' _ => ?_)
        rcases outcome with e | ok
        · exact .pure fun _ _ _ hdata => (by cases hdata)
        · cases ok with
          | true =>
              refine .bind ((send_safe s'').mono fun res s₁ h₁ => ?_)
              cases res with
              | error e => exact .pure fun _ _ _ hdata => (by cases hdata)
              | ok r' =>
                  obtain ⟨resp', hstatus', hgot'⟩ := h₁ r' rfl
                  exact unwrap_safe hstatus' hgot'
          | false =>
              -- the first answer was a 401, which is thrown
              refine .step fun s₁ h₁ _ => ⟨fun _ _ h => (by cases h), ?_⟩
              refine (quiet_safe ((unwrap_only r).mono isJson_quiet) (unwrap_returns r) _).mono
                fun res s₂ hok data hdata => ?_
              have hok := hok data hdata
              simp [FetchResponse.ok, hcond.1] at hok
      · exact unwrap_safe hstatus hgot

/-- Every flow sets sessions from its own answers only. -/
theorem flow_safe (flow : Flow) (s : Browser σ ι κ Bool) :
    flow.prog.Safe (Browser.exec page i) (rules page flow i) (fun _ _ => True) s := by
  cases flow with
  | request path init => exact (request_safe s).mono fun _ _ _ => trivial
  | logout =>
      refine .bind (.bind ((request_safe s).mono fun res s' _ => ?_))
      exact .step fun s₁ h₁ _ => ⟨fun _ _ h => (by cases h), .pure fun _ _ => .pure fun _ _ => trivial⟩
  | login email password =>
      refine .bind (.bind ((request_safe s).mono fun res s' h => ?_))
      cases res with
      | error e => exact .pure fun _ _ => .pure fun _ _ => trivial
      | ok data =>
          have hfetched := h data rfl
          dsimp only
          cases hsession : loginSession data with
          | error e => exact .pure fun _ _ => .pure fun _ _ => trivial
          | ok pair =>
              obtain ⟨token, user⟩ := pair
              refine .step fun s₁ h₁ _ => ⟨fun token' user' hop => ?_,
                .pure fun _ _ => .pure fun _ _ => trivial⟩
              cases hop
              exact ⟨data, hfetched.evolves h₁, hsession⟩
  | restoreSession =>
      refine .bind (.bind ((quiet_safe (refreshAccessToken_only.mono ofRefresh_quiet)
        (Prog.returns_true _) s).mono fun outcome s' _ => ?_))
      rcases outcome with e | ok
      · exact .pure fun _ _ => .pure fun _ _ => trivial
      · cases ok with
        | false =>
            exact .step fun s₁ h₁ _ => ⟨fun _ _ h => (by cases h), .pure fun _ _ => .pure fun _ _ => trivial⟩
        | true =>
            refine .bind ((request_safe s').mono fun res s₁ h => ?_)
            cases res with
            | error e =>
                exact .step fun s₂ h₂ _ => ⟨fun _ _ h => (by cases h),
                  .pure fun _ _ => .pure fun _ _ => trivial⟩
            | ok data =>
                have hfetched := h data rfl
                refine .bind (.step fun s₂ h₂ _ => ⟨fun _ _ h => (by cases h), ?_⟩)
                cases huser : toAuthUser data with
                | error e =>
                    exact .step fun s₃ h₃ _ => ⟨fun _ _ h => (by cases h), .pure fun _ _ => .pure fun _ _ =>
                      .pure fun _ _ => trivial⟩
                | ok user =>
                    refine .step fun s₃ h₃ _ => ⟨fun token' user' hop => ?_, .pure fun _ _ => .pure fun _ _ =>
                      .pure fun _ _ => trivial⟩
                    cases hop
                    exact ⟨data, (hfetched.evolves h₂).evolves h₃, huser⟩

/-! ### All runs -/

/-- Two answers do not come late: a refresh stores its token in time, and `restoreSession` stores a token
of the user whose token its `/me` was sent with. -/
def Careful (d : Deps) (flow : ι → Flow) (page : ι → κ) (i : ι) (op : WebOp)
    (s : Browser σ ι κ Bool) : Prop :=
  match op with
  | .updateAccessToken token => InTime d token (s.page (page i)).auth
  | .setSession token _ => flow i = .restoreSession → ∃ n f sent, Last i n f s.flights ∧
      f.request.headers "Authorization" = some (bearer sent) ∧ SameUser d token sent
  | _ => True

/-- A careful call that sets a session only from the answers of its thread keeps every store consistent. -/
theorem consistent_exec (hlib : Issuer.DecodesSigned d.issuer.lib)
    (huuid : Issuer.ReadsBackUUIDs d.issuer.uuidParse) (hcompact : Compact d.issuer.lib) {flow : ι → Flow}
    {op : WebOp} {s : Browser σ ι κ Bool} (hcareful : Careful d flow page i op s)
    (hbased : ∀ token user, op = .setSession token user → Based (flow i) i token user s)
    (hsound : s.Sound (Answers d web query)) (hconsistent : ∀ k, Consistent d (s.page k).auth) (k : κ) :
    Consistent d ((Browser.exec page i op s).2.page k).auth := by
  rw [Browser.exec_auth]
  split
  · rename_i hk
    subst hk
    cases op with
    | clearSession => exact consistent_clearSession
    | updateAccessToken token => exact consistent_updateAccessToken (hconsistent _) hcareful
    | setSession token user =>
        refine consistent_setSession ?_
        have hset := hbased token user rfl
        unfold Based at hset
        cases hfl : flow i with
        | login email password =>
            rw [hfl] at hset
            obtain ⟨data, hdata, hsession⟩ := hset
            exact issuedFor_login hcompact hsound hdata hsession
        | restoreSession =>
            rw [hfl] at hset
            obtain ⟨data, hdata, huser⟩ := hset
            obtain ⟨n, f, sent, hlast, hsent, hsame⟩ := hcareful hfl
            exact issuedFor_me hlib huuid hcompact hsound hdata huser hlast hsent hsame
        | logout | request path init => rw [hfl] at hset; exact hset.elim
    | _ => exact hconsistent _
  · exact hconsistent k

variable [DecidableEq ι]

/-- **The session store stays consistent.**  In every run of a browser whose steps are careful, whatever
the server's state is and in whatever order its answers arrive: after every step the store of each page is
consistent. -/
theorem store_consistent (hlib : Issuer.DecodesSigned d.issuer.lib)
    (huuid : Issuer.ReadsBackUUIDs d.issuer.uuidParse) (hcompact : Compact d.issuer.lib)
    {flow : ι → Flow} {P P' : Pool WebEff (Browser σ ι κ Bool) ι (Except Failure (Option Json))}
    (hr : Pool.Run (Browser.exec page) (Browser.Network (server d web query) fun _ _ => True)
      (fun i op s => s.Ready page i op ∧ Careful d flow page i op s) P P')
    (hflow : ∀ i, P.thread i = (flow i).prog) (hflights : P.state.flights = [])
    (hstart : ∀ k, Consistent d (P.state.page k).auth) (k : κ) :
    Consistent d (P'.state.page k).auth := by
  have hpar : ∀ i j : ι, i ≠ j → ∀ op (s : Browser σ ι κ Bool),
      (s.Ready page i op ∧ Careful d flow page i op s) → (rules page (flow i) i).guar op s →
        (rules page (flow j) j).rely s (Browser.exec page i op s).2 :=
    fun i j hij op s _ _ => Browser.exec_evolves op s fun _ _ => hij
  have hnetwork : ∀ (j : ι) (s s' : Browser σ ι κ Bool),
      Browser.Network (server d web query) (fun _ _ => True) s s' →
        (rules page (flow j) j).rely s s' := fun j s s' he => he.evolves.mono fun _ _ h => h.elim
  have hsafe : ∀ i, (P.thread i).Safe (Browser.exec page i) (rules page (flow i) i) (fun _ _ => True)
      P.state := by
    intro i
    rw [hflow i]
    exact flow_safe (flow i) P.state
  have hassume : ∀ (i : ι) (op : WebOp) (s : Browser σ ι κ Bool),
      (s.Ready page i op ∧ Careful d flow page i op s) → (rules page (flow i) i).assume op s :=
    fun _ _ _ h => h.1
  have hguar := Pool.Run.guaranteed hassume hpar hnetwork hr hsafe
  have hkept := Pool.Run.invariant
    (I := fun s : Browser σ ι κ Bool => s.Sound (Answers d web query) ∧ ∀ k, Consistent d (s.page k).auth)
    ?_ ?_ hguar ⟨?_, hstart⟩
  · exact hkept.2 k
  · rintro i op s ⟨⟨-, hcareful⟩, hbased⟩ ⟨hsound, hconsistent⟩
    exact ⟨hsound.exec op, consistent_exec hlib huuid hcompact hcareful hbased hsound hconsistent⟩
  · rintro s s' he ⟨hsound, hconsistent⟩
    refine ⟨hsound.network (fun _ _ _ _ _ h => h) he, ?_⟩
    rw [he.page_eq]
    exact hconsistent
  · rw [Browser.Sound, hflights]
    exact fun f hf => (by cases hf)

/-! ### Runs of a page -/

theorem compact_sample : Compact Sample.lib := by
  intro h c key token htoken
  have hstring : String.ofList (List.replicate (Encodable.encode (h, c) + 1) '1') = token :=
    Except.ok.inj htoken
  subst hstring
  constructor
  · intro hempty
    have hlength := congrArg String.length hempty
    simp at hlength
  · refine trimSpace_eq_self fun ch hch => ?_
    rw [String.toList_ofList] at hch
    rw [List.eq_of_mem_replicate hch]
    decide

/-- The owner as a page knows him. -/
def owner : AuthUser where
  id := Sample.owner.id.string
  email := Sample.owner.email
  fullName := Sample.owner.fullName
  role := "owner"
  permissions := []

/-- A page of the owner that runs some flows. -/
def signedIn {n : ℕ} (flow : Fin n → Flow) :
    Pool WebEff (Browser Unit (Fin n) Unit Bool) (Fin n) (Except Failure (Option Json)) where
  state := {
    server := ()
    jar := some Sample.firstToken
    page := fun _ => { auth := ⟨some (Sample.token Sample.firstClaims), some owner, .authenticated⟩ }
    flights := [] }
  thread i := (flow i).prog

theorem issuedFor_token {c : AccessClaims} (h : c.userID = Sample.owner.id) :
    IssuedFor Sample.deps (Sample.token c) owner.id :=
  ⟨Sample.token_ne_empty c, _, ⟨c, Sample.issue_token c, h⟩, rfl⟩

theorem consistent_signedIn {n : ℕ} (flow : Fin n → Flow) :
    ∀ k, Consistent Sample.deps ((signedIn flow).state.page k).auth := fun _ =>
  consistent_setSession (issuedFor_token rfl)

theorem match_team : matchRoute .get "/team" = some (.teamList, "") := by decide

/-- The list of the team, with a token that has expired. -/
theorem answers_team (cookie : Option String) :
    Answers Sample.deps Sample.web Sample.noQuery
      (fetchOf "/team" {} (some (Sample.token Sample.firstClaims))) cookie Sample.unauthorized false :=
  Sample.answers_unauthorized match_team (fun h => (by cases h))
    (bearerToken_requestOf (Sample.token_ne_empty _) (Sample.trimSpace_token _) _ _ _ _ _ _ _)

/-- A page that only asks for the team. -/
def oneRequest (_ : Fin 1) : Flow := .request "/team" {}

/-- A request whose refresh is answered in time. -/
def refreshed : List (Event Unit (Fin 1) Bool) := [
  .act 0, .act 0, .serve 0 Sample.unauthorized false (), .arrive 0 true, .act 0, .act 0, .act 0,
  .serve 1 (Sample.renewed (Sample.token Sample.renewedClaims)) true (), .arrive 1 true,
  .act 0, .act 0, .act 0]

theorem refreshed_allowed : Event.AllAllowed (fun _ => ())
    (fun i op s => s.Ready (fun _ => ()) i op ∧ Careful Sample.deps oneRequest (fun _ => ()) i op s)
    (server Sample.deps Sample.web Sample.noQuery) refreshed (signedIn oneRequest) := by
  have hintime : ∀ user, some owner = some user →
      IssuedFor Sample.deps (Sample.token Sample.renewedClaims) user.id := by
    rintro user ⟨⟩
    exact issuedFor_token rfl
  refine ⟨⟨trivial, trivial⟩, ⟨trivial, trivial⟩, ⟨_, rfl, rfl, answers_team _⟩, ⟨_, _, rfl, rfl, rfl⟩,
    ⟨?_, trivial⟩, ⟨trivial, trivial⟩, ⟨trivial, trivial⟩,
    ⟨_, rfl, rfl, Sample.answers_renewed (Sample.issue_token _)⟩, ⟨_, _, rfl, rfl, rfl⟩,
    ⟨?_, trivial⟩, ⟨?_, trivial⟩, ⟨trivial, ?_⟩, trivial⟩
  · rintro f ⟨⟩ hpending
    cases hpending
  · rintro f ⟨⟩ hpending
    cases hpending
  · rintro f ⟨⟩ hpending
    cases hpending
  · exact ⟨fun h => (by cases h), hintime⟩

/-- After the refresh the store has the new token. -/
theorem store_refreshed : Consistent Sample.deps
    ((Event.play (fun _ => ()) refreshed (signedIn oneRequest)).state.page ()).auth :=
  store_consistent (d := Sample.deps) Sample.decodesSigned Sample.readsBackUUIDs compact_sample
    (Event.play_run refreshed_allowed) (fun _ => rfl) rfl (consistent_signedIn _) ()

/-- A logout while the answer to a refresh is on its way. -/
def signedOut : List (Event Unit (Fin 2) Bool) := [
  .act 0, .act 0, .serve 0 Sample.unauthorized false (), .arrive 0 true, .act 0, .act 0, .act 0,
  .serve 1 (Sample.renewed (Sample.token Sample.renewedClaims)) true (),
  .act 1, .act 1, .serve 2 { Response.noContent with cookie := .clear } true (), .arrive 2 true,
  .act 1, .act 1,
  .arrive 1 true, .act 0, .act 0, .act 0]

/-- A page that asks for the team and signs out. -/
def requestAndLogout (i : Fin 2) : Flow := if i = 0 then .request "/team" {} else .logout

theorem signedOut_allowed : Event.AllAllowed (fun _ => ()) (fun i op s => s.Ready (fun _ => ()) i op)
    (server Sample.deps Sample.web Sample.noQuery) signedOut (signedIn requestAndLogout) := by
  have hlogout : ∀ f : Fetch, f.method = .post → f.path = "/auth/logout" →
      Answers Sample.deps Sample.web Sample.noQuery f (some Sample.firstToken)
        { Response.noContent with cookie := .clear } true := by
    intro f hmethod hpath
    have hmatch : matchRoute f.method f.path = some (.logout, "") := by
      rw [hmethod, hpath]
      decide
    have hraw : Sample.firstToken ≠ "" := by decide
    exact .of_served Sample.context hmatch (served_logout
      (Usecase.Auth.refreshRecord Sample.deps Sample.owner 9 7 Sample.firstToken Sample.context Sample.start)
      rfl rfl hraw (by decide))
  refine ⟨trivial, trivial, ⟨_, rfl, rfl, answers_team _⟩, ⟨_, _, rfl, rfl, rfl⟩, ?_, trivial, trivial,
    ⟨_, rfl, rfl, Sample.answers_renewed (Sample.issue_token _)⟩,
    trivial, trivial, ⟨_, rfl, rfl, hlogout _ rfl rfl⟩, ⟨_, _, rfl, rfl, rfl⟩, ?_, trivial,
    ⟨_, _, rfl, rfl, rfl⟩, ?_, ?_, trivial, trivial⟩
  all_goals
    rintro f ⟨⟩ hpending
    cases hpending

/-- The answer to a refresh that comes after a logout leaves a token in a store of nobody. -/
theorem late_refresh : ¬ ∀ (d : Deps) (web : Http.Web) (query : String → String → String)
    (flow : Fin 2 → Flow)
    (P P' : Pool WebEff (Browser Unit (Fin 2) Unit Bool) (Fin 2) (Except Failure (Option Json))),
    Issuer.DecodesSigned d.issuer.lib → Issuer.ReadsBackUUIDs d.issuer.uuidParse →
    Compact d.issuer.lib →
    Pool.Run (Browser.exec fun _ => ()) (Browser.Network (server d web query) fun _ _ => True)
      (fun i op s => s.Ready (fun _ => ()) i op) P P' →
    (∀ i, P.thread i = (flow i).prog) → P.state.flights = [] →
    (∀ k, Consistent d (P.state.page k).auth) → ∀ k, Consistent d (P'.state.page k).auth := by
  intro hclaim
  have hconsistent := hclaim Sample.deps Sample.web Sample.noQuery requestAndLogout (signedIn requestAndLogout) _
    Sample.decodesSigned Sample.readsBackUUIDs compact_sample (Event.play_run signedOut_allowed)
    (fun _ => rfl) rfl (consistent_signedIn _) ()
  have hstore : ((Event.play (fun _ => ()) signedOut (signedIn requestAndLogout)).state.page ()).auth =
      ⟨some (Sample.token Sample.renewedClaims), none, .anonymous⟩ := rfl
  rw [hstore] at hconsistent
  have hnone := (hconsistent.anonymous rfl).1
  cases hnone

end SuperAdmin.SessionStore
