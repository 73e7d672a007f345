import SuperAdmin.Audit.Completeness
import SuperAdmin.Rotation.Usable
import SuperAdmin.Web.Wire

/-! # One browser with many pages

The pages of a browser share one refresh cookie, but the promise of a refresh is shared within one page
only.  `Refresh` takes the second use of a token for a theft: when two tabs send a refresh with one cookie,
or a page sends another one because the answer to the first was lost, the session of an honest browser is
revoked.  This does not happen as long as no refresh is served with a token that was exchanged before. -/

namespace SuperAdmin.Tabs

open Effects Http Web Rotation
open Usecase (hashToken)

/-- What `Refresh` returned for a request; nothing where it was not called. -/
abbrev Mark : Type := Option (Except Error TokenPair)

/-- `ErrSessionRevoked`. -/
abbrev alarm : Mark := some (.error (.sentinel .sessionRevoked))

/-! ### What the handlers do with the cookie -/

section handlers

variable {d : Deps} {web : Http.Web} {r : Draws} {w w' : World d} {req : Request} {resp : Response}

/-- The mark that a refresh leaves. -/
def refreshMark (d : Deps) (r : Draws) (w : World d) (req : Request) : Mark :=
  match req.cookie with
  | none => none
  | some raw => if raw = "" then none else some ((Usecase.Auth.refresh d raw req.context).run (exec d r) w).1

theorem refreshMark_of_cookie {raw : String} (hcookie : req.cookie = some raw) (hraw : raw ≠ "") :
    refreshMark d r w req =
      some ((Usecase.Auth.refresh d raw req.context).run (exec d r) w).1 := by
  unfold refreshMark
  rw [hcookie]
  dsimp only
  rw [if_neg hraw]

/-- How a refresh is served. -/
inductive RefreshEnd (d : Deps) (r : Draws) (w : World d) (req : Request) : Response → Mark → World d → Prop
  | refused (resp : Response) (hkeep : resp.cookie = .keep) : RefreshEnd d r w req resp none w
  | failed (raw : String) (e : Error) (w' : World d) (resp : Response) (hcookie : req.cookie = some raw)
      (hrun : (Usecase.Auth.refresh d raw req.context).run (exec d r) w = (.error e, w'))
      (hkeep : ∀ token, resp.cookie ≠ .set token) :
      RefreshEnd d r w req resp (some (.error e)) w'
  | exchanged (raw : String) (pair : TokenPair) (w' : World d) (resp : Response)
      (hcookie : req.cookie = some raw)
      (hrun : (Usecase.Auth.refresh d raw req.context).run (exec d r) w = (.ok pair, w'))
      (hset : resp.cookie = .set pair.refreshToken) :
      RefreshEnd d r w req resp (some (.ok pair)) w'

theorem serve_refresh_end (hroute : req.route = .refresh)
    (hrun : (serve d web req).run (exec d r) w = (resp, w')) :
    RefreshEnd d r w req resp (refreshMark d r w req) w' := by
  rw [Audit.serve_refresh hroute, Handler.Auth.refresh] at hrun
  unfold refreshMark
  cases hcookie : req.cookie with
  | none =>
      rw [hcookie] at hrun
      cases hrun
      exact .refused _ rfl
  | some raw =>
      rw [hcookie] at hrun
      dsimp only at hrun ⊢
      by_cases hraw : raw = ""
      · rw [if_pos hraw] at hrun ⊢
        cases hrun
        exact .refused _ rfl
      · rw [if_neg hraw, Prog.run_bind] at hrun
        rw [if_neg hraw]
        cases hres : (Usecase.Auth.refresh d raw req.context).run (exec d r) w with
        | mk res w₁ =>
            rw [hres] at hrun
            cases res with
            | error e =>
                dsimp only at hrun ⊢
                split at hrun
                · cases hrun
                  exact .failed raw e _ _ hcookie hres fun token h => (by cases h)
                · cases hrun
                  exact .failed raw e _ _ hcookie hres fun token h => (by cases h)
            | ok pair =>
                cases hrun
                exact .exchanged raw pair _ _ hcookie hres rfl

/-- A refresh that is served with a token right after it was exchanged raises the alarm. -/
theorem serve_refresh_again {r' : Draws} {req' : Request} {raw : String} {pair : TokenPair}
    (hroute : req.route = .refresh) (hcookie : req.cookie = some raw) (hcookie' : req'.cookie = some raw)
    (hraw : raw ≠ "") (hrun : (serve d web req).run (exec d r) w = (resp, w'))
    (hok : refreshMark d r w req = some (.ok pair)) : refreshMark d r' w' req' = alarm := by
  have hend := serve_refresh_end hroute hrun
  rw [hok] at hend
  cases hend with
  | exchanged sent pair w' resp hsent hrefresh hset =>
      obtain rfl : raw = sent := Option.some.inj (hcookie.symm.trans hsent)
      rw [refreshMark_of_cookie hcookie' hraw, refresh_replayed hrefresh]

/-- The token that a sign-in sets is usable. -/
theorem serve_login_usable (hroute : req.route = .login)
    (hrun : (serve d web req).run (exec d r) w = (resp, w')) {token : String}
    (hset : resp.cookie = .set token) : Usable w' (hashToken token) := by
  rw [Audit.serve_login hroute] at hrun
  unfold Handler.Auth.login at hrun
  cases hinput : bindLogin web req with
  | none =>
      rw [hinput] at hrun
      cases hrun
      cases hset
  | some input =>
      rw [hinput] at hrun
      have hbound : (do
          let res ← Usecase.Auth.login d ⟨input.email, input.password⟩ req.context
          respond res fun p => return { Response.ok (.obj [
            ("access_token", .str p.1.accessToken),
            ("expires_at", .time p.1.accessExpiresAt),
            ("user", Handler.Auth.toUserResponse p.2)]) with cookie := .set p.1.refreshToken }).run
          (exec d r) w = (resp, w') := hrun
      rw [Prog.run_bind] at hbound
      cases hres : (Usecase.Auth.login d ⟨input.email, input.password⟩ req.context).run (exec d r) w with
      | mk res w₁ =>
          rw [hres] at hbound
          rcases res with e | ⟨pair, user⟩
          · cases hbound
            cases hset
          · cases hbound
            cases hset
            exact login_usable hres

end handlers

/-! ### The tokens of a browser -/

section browser

variable {ι κ : Type} {d : Deps}

/-- A token went with a request, or came with its answer. -/
def Carries (f : Flight ι Mark) (token : String) : Prop :=
  f.cookie = some token ∨ ∃ resp mark, f.answer = some (resp, mark) ∧ resp.cookie = .set token

/-- The browser has a token with a hash. -/
def Held (s : Browser (World d) ι κ Mark) (hash : Bytes) : Prop :=
  ∃ token, hashToken token = hash ∧ (s.jar = some token ∨ ∃ f ∈ s.flights, Carries f token)

/-- The token of a request was exchanged for it. -/
def Exchanges (f : Flight ι Mark) (hash : Bytes) : Prop :=
  ∃ token resp pair, f.cookie = some token ∧ hashToken token = hash ∧
    f.answer = some (resp, some (.ok pair))

/-- The token with a hash was exchanged for a request of the browser. -/
def Exchanged (s : Browser (World d) ι κ Mark) (hash : Bytes) : Prop := ∃ f ∈ s.flights, Exchanges f hash

/-- What happens to the server from elsewhere, as long as nobody else holds a token of the browser and
its user is not signed out, suspended or locked out: no row of such a token is used or revoked, and its
user may log in. -/
structure Harmless (s : Browser (World d) ι κ Mark) (w' : World d) : Prop where
  rows : ∀ t' ∈ w'.tokens.rows, Held s t'.tokenHash → (t'.isUsed || t'.isRevoked) = true →
    ∃ t ∈ s.server.tokens.rows, t.tokenHash = t'.tokenHash ∧ (t.isUsed || t.isRevoked) = true
  users : ∀ t' ∈ w'.tokens.rows, Held s t'.tokenHash → ∀ user ∈ w'.users.rows, user.id = t'.userID →
    user.ensureCanLogin w'.clock = none

variable {s s' : Browser (World d) ι κ Mark} {w' : World d} {hash : Bytes}

theorem Harmless.usable (h : Harmless s w') (hheld : Held s hash) (husable : Usable s.server hash) :
    Usable w' hash := by
  intro t' ht' hhash
  subst hhash
  have hgood : (t'.isUsed || t'.isRevoked) = false := by
    rw [← Bool.not_eq_true]
    intro hbad
    obtain ⟨t, ht, hthash, htbad⟩ := h.rows t' ht' hheld hbad
    have hrow := husable t ht hthash
    rw [hrow.unused, hrow.unrevoked] at htbad
    cases htbad
  rw [Bool.or_eq_false_iff] at hgood
  exact ⟨hgood.1, hgood.2, h.users t' ht' hheld⟩

/-! ### The server -/

/-- The answers of the server, with what they make of its state: a refresh and a sign-in are executed at
once, what another route does to the state is a step of its own.  Nobody signs out, and a sign-in that
fails locks nobody out. -/
inductive Handled (d : Deps) (web : Http.Web) (query : String → String → String)
    (s : Browser (World d) ι κ Mark) (f : Flight ι Mark) : Response → Mark → World d → Prop
  | refresh (r : Draws) (rc : RequestContext) (id : String) (resp : Response) (w' : World d)
      (hmatch : matchRoute f.request.method f.request.path = some (.refresh, id))
      (hrun : (serve d web (requestOf query rc f.request f.cookie .refresh id)).run (exec d r) s.server =
        (resp, w')) :
      Handled d web query s f resp
        (refreshMark d r s.server (requestOf query rc f.request f.cookie .refresh id)) w'
  | login (r : Draws) (rc : RequestContext) (id : String) (resp : Response) (w' : World d)
      (hmatch : matchRoute f.request.method f.request.path = some (.login, id))
      (hrun : (serve d web (requestOf query rc f.request f.cookie .login id)).run (exec d r) s.server =
        (resp, w')) (hharmless : Harmless s w') :
      Handled d web query s f resp none w'
  | other (rc : RequestContext) (route : Route) (id : String) (resp : Response)
      (hmatch : matchRoute f.request.method f.request.path = some (route, id))
      (hroute : route.underAuth = false)
      (hreturn : (serve d web (requestOf query rc f.request f.cookie route id)).CanReturn
        (fun _ _ => True) resp) :
      Handled d web query s f resp none s.server
  | missing (hmatch : matchRoute f.request.method f.request.path = none) :
      Handled d web query s f noRoute none s.server

/-- A request is a refresh with a token that was exchanged for another request and is still stored. -/
def Replays (s : Browser (World d) ι κ Mark) (f : Flight ι Mark) : Prop :=
  ∃ id token, matchRoute f.request.method f.request.path = some (.refresh, id) ∧
    f.cookie = some token ∧ Exchanged s (hashToken token) ∧
      ∃ t ∈ s.server.tokens.rows, t.tokenHash = hashToken token

/-! ### The invariant -/

/-- What the browser holds and has not exchanged is usable, and the alarm was not raised. -/
structure Quiet (s : Browser (World d) ι κ Mark) : Prop where
  usable : ∀ hash, Held s hash → ¬ Exchanged s hash → Usable s.server hash
  silent : ∀ f ∈ s.flights, ∀ resp, f.answer ≠ some (resp, alarm)

/-- What was exchanged stays so. -/
theorem Exchanged.evolves {T : ι → Fetch → Prop} (h : Exchanged s hash)
    (hev : Evolves T s.flights s'.flights) : Exchanged s' hash := by
  obtain ⟨f, hf, token, resp, pair, hcookie, hhash, hanswer⟩ := h
  obtain ⟨n, hn⟩ := List.mem_iff_getElem?.mp hf
  obtain ⟨f', hf', hflight⟩ := hev.kept n f hn
  exact ⟨f', List.mem_of_getElem? hf', token, resp, pair, hflight.cookie.trans hcookie, hhash,
    hflight.answer _ hanswer⟩

/-- A step that leaves the server alone, gets no token and no answer. -/
theorem Quiet.forgets {T : ι → Fetch → Prop} (h : Quiet s) (hserver : s'.server = s.server)
    (hheld : ∀ hash, Held s' hash → Held s hash) (hev : Evolves T s.flights s'.flights)
    (hanswer : ∀ f' ∈ s'.flights, f'.answer = none ∨ ∃ f ∈ s.flights, f'.answer = f.answer) :
    Quiet s' where
  usable hash hh hnew := by
    rw [hserver]
    exact h.usable hash (hheld hash hh) fun hex => hnew (hex.evolves hev)
  silent f' hf' resp hresp := by
    rcases hanswer f' hf' with hnone | ⟨f, hf, hsame⟩
    · rw [hnone] at hresp
      cases hresp
    · exact h.silent f hf resp (hsame ▸ hresp)

/-- The answer to a request, and a new state of the server. -/
theorem Quiet.answered {n : ℕ} {f : Flight ι Mark} {resp : Response} {mark : Mark} (h : Quiet s)
    (hf : s.flights[n]? = some f) (honce : f.answer = none) (hsilent : mark ≠ alarm)
    (husable : ∀ hash, ¬ Exchanges { f with answer := some (resp, mark) } hash →
      (∃ token, resp.cookie = .set token ∧ hashToken token = hash) ∨
        Held s hash ∧ Usable s.server hash → Usable w' hash) :
    Quiet { s with
      server := w'
      flights := s.flights.set n { f with answer := some (resp, mark) } } := by
  have hev : Evolves (fun _ _ => False) s.flights
      (s.flights.set n { f with answer := some (resp, mark) }) := by
    refine .set hf ⟨rfl, rfl, rfl, fun a ha => ?_, fun _ => rfl⟩
    rw [honce] at ha
    cases ha
  have hthere : { f with answer := some (resp, mark) } ∈
      s.flights.set n { f with answer := some (resp, mark) } :=
    List.mem_set (List.getElem?_eq_some_iff.mp hf).1 _
  constructor
  · rintro hash ⟨token, hhash, hholds⟩ hnew
    refine husable hash (fun hex => hnew ⟨_, hthere, hex⟩) ?_
    have hkept : Held s hash → ¬ Exchanged s hash := fun _ hex => hnew (hex.evolves hev)
    rcases hholds with hjar | ⟨g, hg, hcarries⟩
    · have hheld : Held s hash := ⟨token, hhash, .inl hjar⟩
      exact .inr ⟨hheld, h.usable hash hheld (hkept hheld)⟩
    · rcases List.mem_or_eq_of_mem_set hg with hg | rfl
      · have hheld : Held s hash := ⟨token, hhash, .inr ⟨g, hg, hcarries⟩⟩
        exact .inr ⟨hheld, h.usable hash hheld (hkept hheld)⟩
      · rcases hcarries with hcookie | ⟨resp', mark', hanswer, hset⟩
        · have hheld : Held s hash := ⟨token, hhash, .inr ⟨f, List.mem_of_getElem? hf, .inl hcookie⟩⟩
          exact .inr ⟨hheld, h.usable hash hheld (hkept hheld)⟩
        · cases hanswer
          exact .inl ⟨token, hset, hhash⟩
  · intro g hg resp' hanswer
    rcases List.mem_or_eq_of_mem_set hg with hg | rfl
    · exact h.silent g hg resp' hanswer
    · cases hanswer
      exact hsilent rfl

/-- An answer that brings no token and leaves the server alone. -/
theorem Quiet.dull {n : ℕ} {f : Flight ι Mark} {resp : Response} {mark : Mark} (h : Quiet s)
    (hf : s.flights[n]? = some f) (honce : f.answer = none) (hsilent : mark ≠ alarm)
    (hkeep : ∀ token, resp.cookie ≠ .set token) :
    Quiet { s with flights := s.flights.set n { f with answer := some (resp, mark) } } := by
  refine h.answered hf honce hsilent fun hash _ hcases => ?_
  rcases hcases with ⟨token, hset, -⟩ | ⟨-, husable⟩
  · exact absurd hset (hkeep token)
  · exact husable

/-! ### The steps -/

variable {web : Http.Web} {query : String → String → String}

/-- A request that replays no token keeps the invariant. -/
theorem Quiet.handled {n : ℕ} {f : Flight ι Mark} {resp : Response} {mark : Mark} (h : Quiet s)
    (hf : s.flights[n]? = some f) (honce : f.answer = none)
    (hserved : Handled d web query s f resp mark w') (hnew : ¬ Replays s f) :
    Quiet { s with
      server := w'
      flights := s.flights.set n { f with answer := some (resp, mark) } } := by
  cases hserved with
  | refresh r rc id resp w' hmatch hrun =>
      have hend := serve_refresh_end rfl hrun
      generalize refreshMark d r s.server (requestOf query rc f.request f.cookie .refresh id) = mark at hend
      -- the token of the request is usable when it is served
      have hgood : ∀ raw, f.cookie = some raw → Usable s.server (hashToken raw) := by
        intro raw hraw
        by_cases hex : Exchanged s (hashToken raw)
        · exact fun t ht hhash => absurd ⟨id, raw, hmatch, hraw, hex, t, ht, hhash⟩ hnew
        · exact h.usable _ ⟨raw, rfl, .inr ⟨f, List.mem_of_getElem? hf, .inl hraw⟩⟩ hex
      cases hend with
      | refused resp hkeep =>
          exact h.dull hf honce (fun h => by cases h) fun token hset => by
            rw [hkeep] at hset
            cases hset
      | failed raw e w' resp hcookie hrefresh hkeep =>
          have hrefreshed := refresh_usable r (requestOf query rc f.request f.cookie .refresh id).context
            (hgood raw hcookie)
          rw [hrefresh] at hrefreshed
          cases hrefreshed with
          | failed e he => exact h.dull hf honce (fun h => by cases h; exact he rfl) hkeep
      | exchanged raw pair w' resp hcookie hrefresh hset =>
          have hrefreshed := refresh_usable r (requestOf query rc f.request f.cookie .refresh id).context
            (hgood raw hcookie)
          rw [hrefresh] at hrefreshed
          cases hrefreshed with
          | exchanged pair w' hkept =>
              refine h.answered hf honce (fun h => by cases h) fun hash hkeeps hcases => hkept hash ?_
              rcases hcases with ⟨token, hset', rfl⟩ | ⟨-, husable⟩
              · rw [hset] at hset'
                cases hset'
                exact .inl rfl
              · refine .inr ⟨?_, husable⟩
                rintro rfl
                exact hkeeps ⟨raw, resp, pair, hcookie, rfl, rfl⟩
  | login r rc id resp w' hmatch hrun hharmless =>
      refine h.answered hf honce (fun h => by cases h) fun hash _ hcases => ?_
      rcases hcases with ⟨token, hset, rfl⟩ | ⟨hheld, husable⟩
      · exact serve_login_usable rfl hrun hset
      · exact hharmless.usable hheld husable
  | other rc route id resp hmatch hroute hreturn =>
      have hkeep := (serve_keepsCookie hroute).canReturn hreturn
      exact h.dull hf honce (fun h => by cases h) fun token hset => by
        rw [hkeep] at hset
        cases hset
  | missing hmatch => exact h.dull hf honce (fun h => by cases h) fun token hset => by cases hset

/-- A flight that only ends differently carries the same tokens. -/
theorem held_ended {n : ℕ} {f : Flight ι Mark} {outcome : Outcome} (hf : s.flights[n]? = some f)
    (jar : Option String) (hjar : ∀ token, jar = some token → s.jar = some token ∨ Carries f token)
    (hheld : Held { s with jar := jar, flights := s.flights.set n { f with outcome := outcome } } hash) :
    Held s hash := by
  obtain ⟨token, hhash, hholds⟩ := hheld
  have hmem := List.mem_of_getElem? hf
  refine ⟨token, hhash, ?_⟩
  rcases hholds with hjar' | ⟨g, hg, hcarries⟩
  · rcases hjar token hjar' with hold | hcarries
    · exact .inl hold
    · exact .inr ⟨f, hmem, hcarries⟩
  · rcases List.mem_or_eq_of_mem_set hg with hg | rfl
    · exact .inr ⟨g, hg, hcarries⟩
    · exact .inr ⟨f, hmem, hcarries⟩

theorem Quiet.network (h : Quiet s) (hstep : Browser.Network (fun s f resp mark w' =>
    Handled d web query s f resp mark w' ∧ ¬ Replays s f) Harmless s s') : Quiet s' := by
  have hev := hstep.evolves
  cases hstep with
  | serve n f resp mark server hf honce hserves => exact h.handled hf honce hserves.1 hserves.2
  | arrive n f resp mark readable hf hanswer hpending =>
      refine h.forgets rfl (fun hash hheld => held_ended hf _ (fun token hjar => ?_) hheld) hev ?_
      · cases hcookie : resp.cookie with
        | keep =>
            rw [hcookie] at hjar
            exact .inl hjar
        | set token' =>
            rw [hcookie] at hjar
            cases hjar
            exact .inr (.inr ⟨resp, mark, hanswer, hcookie⟩)
        | clear =>
            rw [hcookie] at hjar
            cases hjar
      · intro g hg
        rcases List.mem_or_eq_of_mem_set hg with hg | rfl
        · exact .inr ⟨g, hg, rfl⟩
        · exact .inr ⟨f, List.mem_of_getElem? hf, rfl⟩
  | fail n f hf hpending =>
      refine h.forgets rfl (fun hash hheld => held_ended hf s.jar (fun _ hjar => .inl hjar) hheld) hev ?_
      intro g hg
      rcases List.mem_or_eq_of_mem_set hg with hg | rfl
      · exact .inr ⟨g, hg, rfl⟩
      · exact .inr ⟨f, List.mem_of_getElem? hf, rfl⟩
  | expire =>
      refine h.forgets rfl (fun hash hheld => ?_) hev fun g hg => .inr ⟨g, hg, rfl⟩
      obtain ⟨token, hhash, hjar | hflight⟩ := hheld
      · cases hjar
      · exact ⟨token, hhash, .inr hflight⟩
  | others server hharmless =>
      exact ⟨fun hash hheld hnew => hharmless.usable hheld (h.usable hash hheld hnew), h.silent⟩

/-- A page gets no token of its own. -/
theorem Quiet.exec [DecidableEq κ] {page : ι → κ} {i : ι} (h : Quiet s) (op : WebOp) :
    Quiet (Browser.exec page i op s).2 := by
  obtain ⟨hserver, hjar⟩ : (Browser.exec page i op s).2.server = s.server ∧
      (Browser.exec page i op s).2.jar = s.jar := Browser.exec_server op s
  have hev : Evolves (fun _ _ => True) s.flights (Browser.exec page i op s).2.flights :=
    Browser.exec_evolves op s fun _ _ => trivial
  refine h.forgets hserver (fun hash hheld => ?_) hev fun g hg => ?_
  · obtain ⟨token, hhash, hholds⟩ := hheld
    refine ⟨token, hhash, ?_⟩
    rcases hholds with htoken | ⟨g, hg, hcarries⟩
    · exact .inl (hjar ▸ htoken)
    · rcases Browser.mem_exec_flights hg with hold | ⟨hnone, -, hcookie⟩
      · exact .inr ⟨g, hold, hcarries⟩
      · rcases hcarries with hsent | ⟨resp, mark, hanswer, -⟩
        · exact .inl (hcookie token hsent)
        · rw [hnone] at hanswer
          cases hanswer
  · rcases Browser.mem_exec_flights hg with hold | ⟨hnone, -⟩
    · exact .inr ⟨g, hold, rfl⟩
    · exact .inl hnone

/-! ### All runs -/

variable [DecidableEq ι] [DecidableEq κ]

/-- **No false alarm.**  In every run of a browser in which no refresh is served that replays a token,
whatever its pages do and in whatever order requests and answers arrive: no refresh is answered with
`ErrSessionRevoked`. -/
theorem no_false_alarm {α : Type} {page : ι → κ} {P P' : Pool WebEff (Browser (World d) ι κ Mark) ι α}
    (hr : Pool.Run (Browser.exec page) (Browser.Network (fun s f resp mark w' =>
      Handled d web query s f resp mark w' ∧ ¬ Replays s f) Harmless) (fun i op s => s.Ready page i op) P P')
    (hflights : P.state.flights = [])
    (hjar : ∀ token, P.state.jar = some token → Usable P.state.server (hashToken token)) :
    ∀ f ∈ P'.state.flights, ∀ resp, f.answer ≠ some (resp, alarm) := by
  have hstart : Quiet P.state := by
    constructor
    · rintro hash ⟨token, rfl, htoken | ⟨f, hf, -⟩⟩ -
      · exact hjar token htoken
      · rw [hflights] at hf
        cases hf
    · intro f hf
      rw [hflights] at hf
      cases hf
  have hquiet : Quiet P'.state :=
    Pool.Run.invariant (I := Quiet) (fun i op s _ hs => hs.exec op) (fun s s' hstep hs => hs.network hstep)
      hr hstart
  exact hquiet.silent

end browser

/-! ### Tabs of one user -/

/-- The tabs of a browser that are opened with the cookie of a sign-in: each restores its session. -/
def opened (n : ℕ) : Pool WebEff (Browser (World Sample.deps) (Fin n) (Fin n) Mark) (Fin n)
    (Except Failure (Option Json)) where
  state := {
    server := Sample.loggedIn
    jar := some Sample.firstToken
    page := fun _ => {}
    flights := [] }
  thread _ := Flow.restoreSession.prog

theorem usable_firstToken : Usable Sample.loggedIn (hashToken Sample.firstToken) := by
  intro t ht _
  have hrow : ∀ t ∈ Sample.loggedIn.tokens.rows, t.isUsed = false ∧ t.isRevoked = false := by
    decide
  have husers : ∀ u ∈ Sample.loggedIn.users.rows, u.isLocked Sample.loggedIn.clock = false ∧
      u.status = .active := by decide
  obtain ⟨hused, hrevoked⟩ := hrow t ht
  exact ⟨hused, hrevoked, fun u hu _ => SuperAdminUser.ensureCanLogin_eq_none.mpr (husers u hu)⟩

theorem usable_opened (n : ℕ) : ∀ token, (opened n).state.jar = some token →
    Usable (opened n).state.server (hashToken token) := by
  rintro token ⟨⟩
  exact usable_firstToken

/-- The refresh of a tab, as the server reads it. -/
def restoring : Request :=
  requestOf Sample.noQuery Sample.context refreshFetch (some Sample.firstToken) .refresh ""

/-- What that refresh is answered, and what it makes of the state. -/
def restored (draw : Fin 8) (w : World Sample.deps) : Response × World Sample.deps :=
  (serve Sample.deps Sample.web restoring).run (exec Sample.deps (Sample.draws draw)) w

/-- What it returned. -/
def restoredMark (draw : Fin 8) (w : World Sample.deps) : Mark :=
  refreshMark Sample.deps (Sample.draws draw) w restoring

/-- A request of a tab can be answered so, if the server is in some state. -/
def Restores (w : World Sample.deps) (resp : Response) (mark : Mark) (w' : World Sample.deps) : Prop :=
  ∀ (ι κ : Type) (s : Browser (World Sample.deps) ι κ Mark) (f : Flight ι Mark), s.server = w →
    f.request = refreshFetch → f.cookie = some Sample.firstToken →
      Handled Sample.deps Sample.web Sample.noQuery s f resp mark w'

theorem restores (draw : Fin 8) (w : World Sample.deps) :
    Restores w (restored draw w).1 (restoredMark draw w) (restored draw w).2 := by
  rintro ι κ s ⟨thread, request, cookie, answer, outcome⟩ rfl rfl rfl
  have hmatch : matchRoute refreshFetch.method refreshFetch.path = some (.refresh, "") := by
    decide
  exact .refresh (Sample.draws draw) Sample.context "" _ _ hmatch (Prod.mk.eta (p := restored draw s.server)).symm

/-- One tab. -/
def alone (resp : Response) (mark : Mark) (w : World Sample.deps) :
    List (Event (World Sample.deps) (Fin 1) Mark) :=
  [.act 0, .act 0, .serve 0 resp mark w]

theorem alone_allowed {resp : Response} {mark : Mark} {w : World Sample.deps}
    (h : Restores Sample.loggedIn resp mark w) :
    Event.AllAllowed id (fun i op s => s.Ready id i op)
      (fun s f resp mark w' => Handled Sample.deps Sample.web Sample.noQuery s f resp mark w' ∧ ¬ Replays s f)
      (alone resp mark w) (opened 1) := by
  refine ⟨trivial, trivial, ⟨_, rfl, rfl, h _ _ _ _ rfl rfl rfl, ?_⟩, trivial⟩
  -- nothing was answered yet
  rintro ⟨id, token, -, -, ⟨f, hf, token', resp, pair, -, -, hanswer⟩, -⟩
  obtain rfl := List.mem_singleton.mp hf
  cases hanswer

/-- The refresh of a tab that is alone is answered without an alarm. -/
theorem alone_restored : ∃ f ∈ (Event.play id (alone (restored 1 Sample.loggedIn).1
    (restoredMark 1 Sample.loggedIn) (restored 1 Sample.loggedIn).2) (opened 1)).state.flights,
      ∃ resp mark, f.answer = some (resp, mark) ∧ mark ≠ alarm := by
  have hanswered : ∀ (resp : Response) (mark : Mark) (w : World Sample.deps),
      ∃ f ∈ (Event.play id (alone resp mark w) (opened 1)).state.flights,
        f.answer = some (resp, mark) := fun _ _ _ => ⟨_, List.mem_of_getElem? (i := 0) rfl, rfl⟩
  obtain ⟨f, hf, hanswer⟩ := hanswered (restored 1 Sample.loggedIn).1 (restoredMark 1 Sample.loggedIn)
    (restored 1 Sample.loggedIn).2
  refine ⟨f, hf, _, _, hanswer, fun halarm => ?_⟩
  rw [halarm] at hanswer
  exact no_false_alarm (d := Sample.deps) (Event.play_run (alone_allowed (restores 1 _))) rfl
    (usable_opened 1) f hf _ hanswer

/-- Two tabs that are opened together. -/
def together (resp resp' : Response) (mark mark' : Mark) (w w' : World Sample.deps) :
    List (Event (World Sample.deps) (Fin 2) Mark) :=
  [.act 0, .act 0, .act 1, .act 1, .serve 0 resp mark w, .serve 1 resp' mark' w']

theorem together_allowed {resp resp' : Response} {mark mark' : Mark} {w w' : World Sample.deps}
    (h : Restores Sample.loggedIn resp mark w) (h' : Restores w resp' mark' w') :
    Event.AllAllowed id (fun i op s => s.Ready id i op)
      (Handled Sample.deps Sample.web Sample.noQuery) (together resp resp' mark mark' w w') (opened 2) :=
  ⟨trivial, trivial, trivial, trivial, ⟨_, rfl, rfl, h _ _ _ _ rfl rfl rfl⟩,
    ⟨_, rfl, rfl, h' _ _ _ _ rfl rfl rfl⟩, trivial⟩

/-- The second of two refreshes with the token of the sign-in is taken for a theft. -/
theorem second_alarm : restoredMark 2 (restored 1 Sample.loggedIn).2 = alarm := by
  have hraw : Sample.firstToken ≠ "" := by decide
  have hok : ((Usecase.Auth.refresh Sample.deps Sample.firstToken Sample.context).run
      (exec Sample.deps (Sample.draws 1)) Sample.loggedIn).1.isOk = true := by decide +kernel
  have hmark : restoredMark 1 Sample.loggedIn = some ((Usecase.Auth.refresh Sample.deps Sample.firstToken
      Sample.context).run (exec Sample.deps (Sample.draws 1)) Sample.loggedIn).1 :=
    refreshMark_of_cookie rfl hraw
  cases hres : ((Usecase.Auth.refresh Sample.deps Sample.firstToken Sample.context).run
      (exec Sample.deps (Sample.draws 1)) Sample.loggedIn).1 with
  | error e =>
      rw [hres] at hok
      cases hok
  | ok pair =>
      rw [hres] at hmark
      have hrun : (serve Sample.deps Sample.web restoring).run (exec Sample.deps (Sample.draws 1))
          Sample.loggedIn = ((restored 1 Sample.loggedIn).1, (restored 1 Sample.loggedIn).2) :=
        Prod.mk.eta.symm
      exact serve_refresh_again rfl rfl rfl hraw hrun hmark

/-- The refresh of the second tab is answered as a theft. -/
theorem two_tabs_alarm : ¬ ∀ (d : Deps) (web : Http.Web) (query : String → String → String)
    (page : Fin 2 → Fin 2) (flow : Fin 2 → Flow)
    (P P' : Pool WebEff (Browser (World d) (Fin 2) (Fin 2) Mark) (Fin 2) (Except Failure (Option Json))),
    Pool.Run (Browser.exec page) (Browser.Network (Handled d web query) Harmless)
      (fun i op s => s.Ready page i op) P P' →
    (∀ i, P.thread i = (flow i).prog) →
    (∀ i, flow i = .restoreSession ∨ ∃ path init, flow i = .request path init) →
    P.state.flights = [] →
    (∀ token, P.state.jar = some token → Usable P.state.server (hashToken token)) →
    ∀ f ∈ P'.state.flights, ∀ resp, f.answer ≠ some (resp, alarm) := by
  intro hclaim
  have hsecond : ∀ (resp resp' : Response) (mark mark' : Mark) (w w' : World Sample.deps),
      ∃ f ∈ (Event.play id (together resp resp' mark mark' w w') (opened 2)).state.flights,
        f.answer = some (resp', mark') := fun _ _ _ _ _ _ => ⟨_, List.mem_of_getElem? (i := 1) rfl, rfl⟩
  have hrun := together_allowed (restores 1 _) (restores 2 (restored 1 Sample.loggedIn).2)
  obtain ⟨f, hf, hanswer⟩ := hsecond _ _ _ _ _ _
  have hsilent := hclaim Sample.deps Sample.web Sample.noQuery id (fun _ => .restoreSession) (opened 2) _
    (Event.play_run hrun) (fun _ => rfl) (fun _ => .inl rfl) rfl (usable_opened 2) f hf
  rw [second_alarm] at hanswer
  exact hsilent _ hanswer

end SuperAdmin.Tabs
