import SuperAdmin.Web.Wire
import SuperAdmin.Web.Client

/-! # A retry repeats no mutation

`request` repeats a `fetch` that was answered with 401.  The server answers so only before the usecase of
the route is called, and with a success only after it: of the two attempts at most one calls it, and one
does if `request` resolves. -/

namespace SuperAdmin.Mutations

open Effects Http Web

variable {σ ι κ : Type}

/-! ### The flights of a request -/

/-- A flight of a thread to a path. -/
def Mine (i : ι) (path : String) (f : Flight ι Bool) : Prop := f.thread = i ∧ f.request.path = path

instance [DecidableEq ι] (i : ι) (path : String) (f : Flight ι Bool) : Decidable (Mine i path f) :=
  inferInstanceAs (Decidable (_ ∧ _))

/-- The usecase behind the route was called for a flight. -/
def called (f : Flight ι Bool) : Bool :=
  match f.answer with
  | some (_, mark) => mark
  | none => false

/-- How often the usecase behind a path was called for a thread. -/
def calls [DecidableEq ι] (i : ι) (path : String) (s : Browser σ ι κ Bool) : ℕ :=
  s.flights.countP fun f => decide (Mine i path f) && called f

/-- A flight was answered before the usecase was called. -/
def TurnedAway (f : Flight ι Bool) : Prop := ∃ resp, f.answer = some (resp, false)

/-- All flights of a request so far were turned away. -/
def Spent (i : ι) (path : String) (s : Browser σ ι κ Bool) : Prop :=
  ∀ f ∈ s.flights, Mine i path f → TurnedAway f

/-- The usecase was called for a flight of a request. -/
def Done (i : ι) (path : String) (s : Browser σ ι κ Bool) : Prop :=
  ∃ f ∈ s.flights, Mine i path f ∧ ∃ resp, f.answer = some (resp, true)

/-- What the flights to a path are answered, as `Answers.status` has it. -/
def Honest (path : String) (f : Fetch) (_ : Option String) (resp : Response) (called : Bool) : Prop :=
  f.path = path → (called = true → resp.status ≠ 401) ∧ (called = false → 400 ≤ resp.status)

/-- A flight that is not one of a request. -/
def Other (i : ι) (path : String) (j : ι) (f : Fetch) : Prop := ¬ (j = i ∧ f.path = path)

section evolves

variable {i : ι} {path : String} {s s' : Browser σ ι κ Bool}

theorem Mine.evolves {f f' : Flight ι Bool} (h : f.Evolves f') : Mine i path f' ↔ Mine i path f := by
  unfold Mine
  rw [h.thread, h.request]

theorem Spent.evolves (h : Spent i path s) (hev : Evolves (Other i path) s.flights s'.flights) :
    Spent i path s' := by
  intro f' hf' hmine
  obtain ⟨n, hn⟩ := List.mem_iff_getElem?.mp hf'
  rcases hev.fresh n f' hn with hlt | hother
  · obtain ⟨f, hf, hflight⟩ := hev.before hn hlt
    obtain ⟨resp, hanswer⟩ := h f (List.mem_of_getElem? hf) ((Mine.evolves hflight).mp hmine)
    exact ⟨resp, hflight.answer _ hanswer⟩
  · exact absurd hmine hother

theorem Done.evolves {T : ι → Fetch → Prop} (h : Done i path s)
    (hev : Evolves T s.flights s'.flights) : Done i path s' := by
  obtain ⟨f, hf, hmine, resp, hanswer⟩ := h
  obtain ⟨n, hn⟩ := List.mem_iff_getElem?.mp hf
  obtain ⟨f', hf', hflight⟩ := hev.kept n f hn
  exact ⟨f', List.mem_of_getElem? hf', (Mine.evolves hflight).mpr hmine, resp, hflight.answer _ hanswer⟩

end evolves

/-- The answer to an attempt: with 401 only if all flights so far were turned away, with a success only
if the usecase was called. -/
def Attempted (i : ι) (path : String) (r : FetchResponse) (s : Browser σ ι κ Bool) : Prop :=
  (r.status = 401 → Spent i path s) ∧ (r.ok = true → Done i path s)

theorem Attempted.evolves {i : ι} {path : String} {r : FetchResponse} {s s' : Browser σ ι κ Bool}
    (h : Attempted i path r s) (hev : Evolves (Other i path) s.flights s'.flights) :
    Attempted i path r s' :=
  ⟨fun h401 => (h.1 h401).evolves hev, fun hok => (h.2 hok).evolves hev⟩

/-- A new flight that is answered, when those before it were turned away. -/
theorem attempted_of_answer {i : ι} {path : String} {s s' : Browser σ ι κ Bool} {new f : Flight ι Bool}
    {resp : Response} {mark : Bool} (hs : Spent i path s) (hnew : Mine i path new)
    (hev : Evolves (Other i path) (s.flights ++ [new]) s'.flights) (hsound : s'.Sound (Honest path))
    (hf : s'.flights[s.flights.length]? = some f) (hanswer : f.answer = some (resp, mark)) :
    Attempted i path ⟨s.flights.length, resp.status⟩ s' := by
  obtain ⟨f₁, hf₁, hflight⟩ := hev.kept s.flights.length new List.getElem?_concat_length
  rw [hf] at hf₁
  cases hf₁
  have hmine : Mine i path f := (Mine.evolves hflight).mpr hnew
  have hmem : f ∈ s'.flights := List.mem_of_getElem? hf
  obtain ⟨h401, hsuccess⟩ := hsound f hmem resp mark hanswer hmine.2
  refine ⟨fun hstatus g hg hmineg => ?_, fun hok => ?_⟩
  · obtain ⟨n, hn⟩ := List.mem_iff_getElem?.mp hg
    by_cases hlast : n = s.flights.length
    · -- the flight itself: with 401 it was not called for
      subst hlast
      rw [hf] at hn
      cases hn
      cases mark with
      | true => exact absurd hstatus (h401 rfl)
      | false => exact ⟨resp, hanswer⟩
    · rcases hev.fresh n g hn with hlt | hother
      · obtain ⟨g₀, hg₀, hflightg⟩ := hev.before hn hlt
        have hold := (getElem?_sent hg₀).resolve_right fun h => hlast h.1
        obtain ⟨resp', h'⟩ := hs g₀ (List.mem_of_getElem? hold) ((Mine.evolves hflightg).mp hmineg)
        exact ⟨resp', hflightg.answer _ h'⟩
      · exact absurd hmineg hother
  · have hok : 200 ≤ resp.status ∧ resp.status < 300 := by simpa [FetchResponse.ok] using hok
    cases mark with
    | true => exact ⟨f, hmem, hmine, resp, hanswer⟩
    | false =>
        have hfail := hsuccess rfl
        omega

/-! ### One request -/

variable [DecidableEq κ]

/-- The rules of a thread that runs a request: the others start no flights of it, and it starts one only
when those before were turned away. -/
def rules (page : ι → κ) (i : ι) (path : String) : Rules WebEff (Browser σ ι κ Bool) where
  assume op s := s.Ready page i op ∧ s.Sound (Honest path)
  rely s s' := Evolves (Other i path) s.flights s'.flights
  guar op s := ∀ f, op = .fetch f → f.path = path → Spent i path s
  rely_refl s := .refl s.flights
  rely_trans h h' := h.trans h'

variable {page : ι → κ} {i : ι} {path : String} {init : RequestInit}

/-- What starts no flight of the request is safe at any time. -/
theorem quiet_safe {α : Type} {p : WebProc α} {R : α → Prop}
    (hp : p.Only fun op : WebOp => ∀ f, op = .fetch f → f.path ≠ path) (hres : p.Returns R)
    (s : Browser σ ι κ Bool) :
    p.Safe (Browser.exec page i) (rules page i path)
      (fun a s' => R a ∧ Evolves (Other i path) s.flights s'.flights) s := by
  refine hp.safe hres (fun _ _ hrely hI => hI.trans hrely) (fun op s' hop _ hI => ⟨?_, ?_⟩) (.refl _)
  · exact fun f hf hpath => absurd hpath (hop f hf)
  · exact hI.trans (Browser.exec_evolves op s' fun f hf h => hop f hf h.2)

/-- One attempt, when those before were turned away. -/
theorem send_safe {s : Browser σ ι κ Bool} (hs : Spent i path s) :
    (send path init).Safe (Browser.exec page i) (rules page i path)
      (fun res s' => ∀ r, res = .ok r → Attempted i path r s') s := by
  refine .step fun s₁ h₁ _ => ⟨fun f hf => (by cases hf), ?_⟩
  refine .step fun s₂ h₂ _ => ⟨fun _ _ _ => (hs.evolves h₁).evolves h₂, ?_⟩
  refine .step fun s₃ h₃ hassume => ⟨fun f hf => (by cases hf), .pure fun s' h' r hr => ?_⟩
  have hr : (s₃.responded s₂.flights.length).map (FetchResponse.mk s₂.flights.length) = .ok r := hr
  cases hres : s₃.responded s₂.flights.length with
  | error e => rw [hres] at hr; cases hr
  | ok status =>
      rw [hres] at hr
      cases hr
      obtain ⟨f, resp, mark, hf, hanswer, rfl⟩ := Browser.responded_ok hres
      have hattempt := attempted_of_answer ((hs.evolves h₁).evolves h₂) ⟨rfl, rfl⟩ h₃ hassume.2 hf hanswer
      exact hattempt.evolves h'

/-- A request that is repeated once. -/
theorem request_safe (hpath : underAuth path = false) {s : Browser σ ι κ Bool} (hs : Spent i path s) :
    (request path init).Safe (Browser.exec page i) (rules page i path)
      (fun res s' => ∀ body, res = .ok body → Done i path s') s := by
  have hrefresh : ∀ op : WebOp, op.ofRefresh → ∀ f, op = .fetch f → f.path ≠ path := by
    rintro _ hop f rfl rfl
    rw [show f = refreshFetch from hop] at hpath
    exact absurd hpath (by decide)
  have hjson : ∀ op : WebOp, op.isJson → ∀ f, op = .fetch f → f.path ≠ path := by
    rintro _ hop f rfl
    exact hop.elim
  have hunwrap : ∀ (r : FetchResponse) (s' : Browser σ ι κ Bool), Attempted i path r s' →
      (unwrap r).Safe (Browser.exec page i) (rules page i path)
        (fun res s'' => ∀ body, res = .ok body → Done i path s'') s' := by
    intro r s' hr
    refine (quiet_safe ((unwrap_only r).mono hjson) (unwrap_returns r) s').mono fun res s'' h body hbody => ?_
    obtain ⟨hok, hev⟩ := h
    exact (hr.2 (hok body hbody)).evolves hev
  have hretry : ∀ s' : Browser σ ι κ Bool, Spent i path s' →
      (retry path init).Safe (Browser.exec page i) (rules page i path)
        (fun res s'' => ∀ body, res = .ok body → Done i path s'') s' := by
    intro s' hs'
    refine .bind ((send_safe hs').mono fun res s'' h => ?_)
    cases res with
    | error e => exact .pure fun _ _ body hbody => (by cases hbody)
    | ok r => exact hunwrap r s'' (h r rfl)
  refine .bind ((send_safe hs).mono fun res s' h => ?_)
  cases res with
  | error e => exact .pure fun _ _ body hbody => (by cases hbody)
  | ok r =>
      have hattempt := h r rfl
      dsimp only
      split
      · rename_i hcond
        obtain ⟨h401, -⟩ := hcond
        refine .bind ((quiet_safe (refreshAccessToken_only.mono hrefresh) (Prog.returns_true _) s').mono
          fun outcome s'' hev => ?_)
        have hattempt' := hattempt.evolves hev.2
        rcases outcome with e | ok
        · exact .pure fun _ _ body hbody => (by cases hbody)
        · cases ok with
          | true => exact hretry s'' (hattempt'.1 h401)
          | false =>
              refine .step fun s₁ h₁ _ => ⟨fun f hf => (by cases hf), ?_⟩
              exact hunwrap r _ (hattempt'.evolves h₁)
      · exact hunwrap r s' hattempt

/-! ### All runs -/

/-- Of two flights of a request the earlier one was turned away. -/
def InTurn (i : ι) (path : String) (s : Browser σ ι κ Bool) : Prop :=
  ∀ (m n : ℕ) (f g : Flight ι Bool), m < n → s.flights[m]? = some f → s.flights[n]? = some g →
    Mine i path f → Mine i path g → TurnedAway f

omit [DecidableEq κ] in
theorem InTurn.evolves {s s' : Browser σ ι κ Bool} (h : InTurn i path s)
    (hev : Evolves (Other i path) s.flights s'.flights) : InTurn i path s' := by
  intro m n f' g' hmn hf' hg' hminef hmineg
  rcases hev.fresh n g' hg' with hn | hother
  · obtain ⟨g, hg, hflightg⟩ := hev.before hg' hn
    obtain ⟨f, hf, hflight⟩ := hev.before hf' (by omega)
    obtain ⟨resp, hanswer⟩ := h m n f g hmn hf hg ((Mine.evolves hflight).mp hminef)
      ((Mine.evolves hflightg).mp hmineg)
    exact ⟨resp, hflight.answer _ hanswer⟩
  · exact absurd hmineg hother

/-- A flight that is started when those before it were turned away. -/
theorem InTurn.exec {s : Browser σ ι κ Bool} {j : ι} {op : WebOp} (h : InTurn i path s)
    (hop : j = i → (rules page i path).guar op s) : InTurn i path (Browser.exec page j op s).2 := by
  by_cases hquiet : ∀ f, op = .fetch f → Other i path j f
  · exact h.evolves (Browser.exec_evolves op s hquiet)
  · unfold Other at hquiet
    push Not at hquiet
    obtain ⟨f, rfl, rfl, hpath⟩ := hquiet
    have hspent : Spent j path s := hop rfl f rfl hpath
    intro m n g g' hmn hg hg' hmine hmine'
    have hflights : (Browser.exec page j (.fetch f) s).2.flights = s.flights ++ [_] :=
      Browser.exec_flights (.fetch f) s
    rw [hflights] at hg hg'
    have hn := (List.getElem?_eq_some_iff.mp hg').1
    rw [List.length_append, List.length_singleton] at hn
    have hold := (getElem?_sent hg).resolve_right fun h => by omega
    exact hspent g (List.mem_of_getElem? hold) hmine

/-- A list where no two members meet a condition has at most one that does. -/
theorem countP_le_one {α : Type} {p : α → Bool} {l : List α}
    (h : l.Pairwise fun a b => p a = true → p b = true → False) : l.countP p ≤ 1 := by
  induction l with
  | nil => simp
  | cons a l ih =>
      obtain ⟨ha, hl⟩ := List.pairwise_cons.mp h
      have hrest := ih hl
      rw [List.countP_cons]
      split
      · rename_i hpa
        have hnone : l.countP p = 0 := List.countP_eq_zero.mpr fun b hb hpb => ha b hb hpa hpb
        omega
      · omega

variable [DecidableEq ι] {s : Browser σ ι κ Bool}

omit [DecidableEq κ] in
theorem InTurn.calls_le (h : InTurn i path s) : calls i path s ≤ 1 := by
  refine countP_le_one (List.pairwise_iff_getElem.mpr fun m n hm hn hmn hf hg => ?_)
  rw [Bool.and_eq_true, decide_eq_true_eq] at hf hg
  obtain ⟨resp, hanswer⟩ := h m n _ _ hmn (List.getElem?_eq_getElem hm) (List.getElem?_eq_getElem hn)
    hf.1 hg.1
  have hcalled := hf.2
  rw [called, hanswer] at hcalled
  cases hcalled

omit [DecidableEq κ] in
theorem Done.calls_pos (h : Done i path s) : 0 < calls i path s := by
  obtain ⟨f, hf, hmine, resp, hanswer⟩ := h
  refine List.countP_pos_iff.mpr ⟨f, hf, ?_⟩
  rw [Bool.and_eq_true, decide_eq_true_eq, called, hanswer]
  exact ⟨hmine, rfl⟩

/-- **A silent refresh repeats no mutation.**  In every run of a browser, whatever the other threads of its
pages do, whatever happens to tokens and accounts meanwhile, and however the network orders, delays and
loses answers: the usecase behind the path of a `request` outside `/auth` is called at most once, and
exactly once if the request has resolved. -/
theorem mutation_at_most_once {d : Deps} {web : Http.Web} {query : String → String → String}
    {P P' : Pool WebEff (Browser σ ι κ Bool) ι (Except Failure (Option Json))}
    (hr : Pool.Run (Browser.exec page) (Browser.Network (server d web query) fun _ _ => True)
      (fun i op s => s.Ready page i op) P P')
    (hstart : P.state.flights = []) (hpath : underAuth path = false)
    (hi : P.thread i = request path init) :
    calls i path P'.state ≤ 1 ∧
      ∀ body, P'.thread i = .pure (.ok body) → calls i path P'.state = 1 := by
  have hempty : ∀ Q : Flight ι Bool → Prop, ∀ f ∈ P.state.flights, Q f := by
    rw [hstart]
    exact fun _ f hf => (by cases hf)
  have hhonest : ∀ (s : Browser σ ι κ Bool) (f : Flight ι Bool) (resp : Response) (mark : Bool)
      (server' : σ), server d web query s f resp mark server' →
        Honest path f.request f.cookie resp mark := by
    intro s f resp mark server' h hpath'
    exact h.status (hpath' ▸ hpath)
  have hsound := hr.with_invariant (I := fun s => s.Sound (Honest path))
    (fun i op s _ h => h.exec op) (fun s s' he h => h.network hhonest he) (hempty _)
  have hquiet : ∀ (j : ι) (op : WebOp) (s : Browser σ ι κ Bool), j ≠ i →
      Evolves (Other i path) s.flights (Browser.exec page j op s).2.flights :=
    fun j op s hj => Browser.exec_evolves op s fun f _ h => hj h.1
  have hnetwork : ∀ s s' : Browser σ ι κ Bool,
      Browser.Network (server d web query) (fun _ _ => True) s s' →
        Evolves (Other i path) s.flights s'.flights :=
    fun s s' he => he.evolves.mono fun _ _ h => h.elim
  have hsafe : (P.thread i).Safe (Browser.exec page i) (rules page i path)
      (fun res s' => ∀ body, res = .ok body → Done i path s') P.state := by
    rw [hi]
    exact request_safe hpath (hempty _)
  have hrely : ∀ (j : ι) (op : WebOp) (s : Browser σ ι κ Bool), j ≠ i →
      (s.Ready page j op ∧ s.Sound (Honest path)) →
        (rules page i path).rely s (Browser.exec page j op s).2 := fun j op s hj _ => hquiet j op s hj
  have hassume : ∀ (op : WebOp) (s : Browser σ ι κ Bool), (s.Ready page i op ∧ s.Sound (Honest path)) →
      (rules page i path).assume op s := fun _ _ h => h
  have hguar := Pool.Run.thread_guaranteed hassume hrely hnetwork hsound hsafe
  have hturn : InTurn i path P'.state :=
    hguar.invariant (fun j op s hc h => h.exec hc.2) (fun s s' he h => h.evolves (hnetwork s s' he))
      fun m n f g _ hf _ _ _ => hempty TurnedAway f (List.mem_of_getElem? hf)
  refine ⟨hturn.calls_le, fun body hend => ?_⟩
  have hdone := Pool.Run.thread_result hassume hrely hnetwork hsound hsafe hend body rfl
  have hpos := hdone.calls_pos
  have hle := hturn.calls_le
  omega

/-! ### A run with a retry -/

/-- A client of the sample deployment. -/
def client : Tenant where
  id := 1
  name := "Клиент"
  city := ""
  address := "Адрес"
  status := .active
  plan := .starter
  employees := 0
  ownerName := "Владелец"
  phone := "+7"
  email := "client@example.com"
  lastActiveAt := none
  trialEndsAt := none
  suspendedReason := none
  activationCode := none
  activationCodeExpiresAt := none
  createdAt := Sample.start

def clientPath : String := "/clients/00000000-0000-0000-0000-000000000001"

theorem match_clientPath :
    matchRoute .delete clientPath = some (.tenantDelete, "00000000-0000-0000-0000-000000000001") := by
  decide

/-- A page of the owner that deletes the client. -/
def deletion : Pool WebEff (Browser Unit Unit Unit Bool) Unit (Except Failure (Option Json)) where
  state := {
    server := ()
    jar := some Sample.firstToken
    page := fun _ => { auth := ⟨some (Sample.token Sample.firstClaims), none, .authenticated⟩ }
    flights := [] }
  thread _ := request clientPath { method := .delete }

/-- The first attempt comes with an expired token; the page gets a new one, and the second attempt is let
through. -/
def retried : List (Event Unit Unit Bool) := [
  .act (), .act (), .serve 0 Sample.unauthorized false (), .arrive 0 true, .act (),
  .act (), .act (), .serve 1 (Sample.renewed (Sample.token Sample.renewedClaims)) true (), .arrive 1 true,
  .act (), .act (), .act (), .act (), .act (),
  .act (), .act (), .serve 2 .noContent true (), .arrive 2 true, .act ()]

theorem answers_deleted {token : String} (hne : token ≠ "") (htrim : trimSpace token = token)
    (hissue : Sample.deps.issuer.issue Sample.renewedClaims = .ok token) (cookie : Option String) :
    Answers Sample.deps Sample.web Sample.noQuery
      (fetchOf clientPath { method := .delete } (some token)) cookie .noContent true := by
  have hnow : Sample.start < Sample.renewedClaims.expiresAt.truncateSecond := by decide
  have hparse := Issuer.parse_issued (I := Sample.deps.issuer) Sample.decodesSigned Sample.readsBackUUIDs
    hissue rfl hnow rfl
  have hid : Sample.deps.issuer.uuidParse "00000000-0000-0000-0000-000000000001" = .ok 1 := by
    have hstring : "00000000-0000-0000-0000-000000000001" = UUID.string 1 := by decide
    rw [hstring]
    exact Sample.readsBackUUIDs 1
  exact .of_served Sample.context match_clientPath (served_deleted client rfl
    (bearerToken_requestOf hne htrim _ _ _ _ _ _ _) hparse (by decide) hid)

theorem retried_allowed : Event.AllAllowed (fun _ => ()) (fun i op s => s.Ready (fun _ => ()) i op)
    (server Sample.deps Sample.web Sample.noQuery) retried deletion := by
  have hfirst : ∀ cookie, Answers Sample.deps Sample.web Sample.noQuery
      (fetchOf clientPath { method := .delete } (some (Sample.token Sample.firstClaims))) cookie
        Sample.unauthorized false := fun cookie =>
    Sample.answers_unauthorized match_clientPath (fun h => (by cases h))
      (bearerToken_requestOf (Sample.token_ne_empty _) (Sample.trimSpace_token _) _ _ _ _ _ _ _)
  have hsecond : ∀ cookie, Answers Sample.deps Sample.web Sample.noQuery
      (fetchOf clientPath { method := .delete } (some (Sample.token Sample.renewedClaims))) cookie
        .noContent true :=
    answers_deleted (Sample.token_ne_empty _) (Sample.trimSpace_token _) (Sample.issue_token _)
  refine ⟨trivial, trivial, ⟨_, rfl, rfl, hfirst _⟩, ⟨_, _, rfl, rfl, rfl⟩, ?_,
    trivial, trivial, ⟨_, rfl, rfl, Sample.answers_renewed (Sample.issue_token _)⟩, ⟨_, _, rfl, rfl, rfl⟩,
    ?_, ?_, trivial, trivial, rfl,
    trivial, trivial, ⟨_, rfl, rfl, hsecond _⟩, ⟨_, _, rfl, rfl, rfl⟩, ?_, trivial⟩
  all_goals
    rintro f ⟨⟩ hpending
    cases hpending

/-- The client is deleted once, by the second attempt. -/
theorem mutation_retried_once :
    calls () clientPath (Event.play (fun _ => ()) retried deletion).state = 1 :=
  (mutation_at_most_once (Event.play_run retried_allowed) rfl (by decide) rfl).2 none rfl

end SuperAdmin.Mutations
