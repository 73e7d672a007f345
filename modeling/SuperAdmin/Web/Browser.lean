import SuperAdmin.Lib.Pool
import SuperAdmin.Web.Store

/-! # The browser

What the code of a page runs on: its session store and the promise of its refresh, one cookie jar for
all pages, and a network that answers each request at most once, in any order, or not at all.

The code of a page is a program over `WebOp`.  An `await` is an operation that is ready when its promise
is settled.  What a page does between two awaits is one step for a browser; here every operation is a
step of its own, which only adds interleavings. -/

namespace SuperAdmin.Web

open Effects Http

/-! ### Requests -/

/-- The methods of the client's requests. -/
inductive Method where
  | get
  | post
  | delete
deriving DecidableEq

/-- The part of a `RequestInit` that the client uses; the text of a body is kept as the JSON value that
it denotes. -/
structure RequestInit where
  method : Method := .get
  headers : String → Option String := fun _ => none
  body : Option Json := none

/-- What `fetch` is called with, its URL without `BASE`. -/
structure Fetch extends RequestInit where
  path : String

/-- A path up to its query. -/
def pathname (path : String) : List Char := path.toList.takeWhile fun c => c != '?' && c != '#'

/-- `path.startsWith('/auth/')`. -/
def underAuth (path : String) : Bool := "/auth/".toList.isPrefixOf path.toList

/-- The cookie is sent to `/api/v1/auth` and what lies under it. -/
def Fetch.attaches (f : Fetch) : Bool :=
  pathname f.path == "/auth".toList || "/auth/".toList.isPrefixOf (pathname f.path)

/-! ### Operations -/

/-- What the code of a page calls. -/
inductive WebOp where
  | getAuthState
  | setSession (accessToken : String) (user : AuthUser)
  | clearSession
  | updateAccessToken (accessToken : String)
  /-- Start a `fetch`; the answer is its number. -/
  | fetch (f : Fetch)
  /-- Await the response to a `fetch`. -/
  | response (n : ℕ)
  /-- Await `response.json()`. -/
  | json (n : ℕ)
  /-- `refreshPromise ??= …`: the promise, and whether it is a new one. -/
  | joinRefresh
  /-- `finally`: forget the promise and settle it. -/
  | settleRefresh (id : ℕ) (outcome : Except Failure Bool)
  /-- Await a promise of `refreshAccessToken`. -/
  | awaitRefresh (id : ℕ)

abbrev WebOp.Res : WebOp → Type
  | getAuthState => AuthState
  | setSession _ _ | clearSession | updateAccessToken _ | settleRefresh _ _ => Unit
  | fetch _ => ℕ
  | response _ => Except Failure ℕ
  | json _ => Except Failure Json
  | joinRefresh => Bool × ℕ
  | awaitRefresh _ => Except Failure Bool

/-- What an operation makes of the session store of its page. -/
def WebOp.store (op : WebOp) (a : AuthState) : AuthState :=
  match op with
  | .setSession token user => Web.setSession token user
  | .clearSession => Web.clearSession
  | .updateAccessToken token => Web.updateAccessToken token a
  | _ => a

/-- The signature of a page. -/
abbrev WebEff : Sig := ⟨WebOp, WebOp.Res⟩

/-- The code of a page. -/
abbrev WebProc (α : Type) : Type := Prog WebEff α

/-! ### State -/

/-- How a `fetch` ended for the page. -/
inductive Outcome where
  | pending
  /-- The response is there; its body can be read or breaks off. -/
  | arrived (readable : Bool)
  | failed
deriving DecidableEq

/-- A `fetch` of a thread, with the cookie that was attached to it and the server's answer.  The server
leaves a mark on its answers, which a page does not see. -/
structure Flight (ι μ : Type) where
  thread : ι
  request : Fetch
  cookie : Option String
  answer : Option (Response × μ) := none
  outcome : Outcome := .pending

/-- The variables of a page. -/
structure Page where
  auth : AuthState := {}
  /-- `refreshPromise`. -/
  refreshPromise : Option ℕ := none
  /-- The promises of `refreshAccessToken` so far, with how they were settled. -/
  refreshes : List (Option (Except Failure Bool)) := []

/-- A browser with its pages, and the server. -/
structure Browser (σ ι κ μ : Type) where
  server : σ
  jar : Option String
  page : κ → Page
  flights : List (Flight ι μ)

variable {σ ι κ μ : Type}

/-- What the jar holds after a response. -/
def jarAfter (jar : Option String) : CookieAction → Option String
  | .keep => jar
  | .set token => some token
  | .clear => none

namespace Browser

variable [DecidableEq κ]

/-- Change one page. -/
def onPage (s : Browser σ ι κ μ) (k : κ) (f : Page → Page) : Browser σ ι κ μ :=
  { s with page := Function.update s.page k (f (s.page k)) }

/-- The status of a response. -/
def responded (s : Browser σ ι κ μ) (n : ℕ) : Except Failure ℕ :=
  match s.flights[n]? with
  | some ⟨_, _, _, some (resp, _), .arrived _⟩ => .ok resp.status
  | _ => .error .network

/-- What `response.json()` gives. -/
def read (s : Browser σ ι κ μ) (n : ℕ) : Except Failure Json :=
  match s.flights[n]? with
  | some ⟨_, _, _, some (resp, _), .arrived true⟩ =>
      match resp.body.json with
      | some body => .ok body
      | none => .error .notJson
  | _ => .error .network

/-- How a promise of `refreshAccessToken` was settled. -/
def settled (s : Browser σ ι κ μ) (k : κ) (id : ℕ) : Option (Except Failure Bool) :=
  ((s.page k).refreshes[id]?).join

/-- The operations, called by a thread of a page. -/
def exec (page : ι → κ) (i : ι) : Handler WebEff (Browser σ ι κ μ)
  | .getAuthState, s => ((s.page (page i)).auth, s)
  | .setSession token user, s =>
      ((), s.onPage (page i) fun p => { p with auth := Web.setSession token user })
  | .clearSession, s => ((), s.onPage (page i) fun p => { p with auth := Web.clearSession })
  | .updateAccessToken token, s =>
      ((), s.onPage (page i) fun p => { p with auth := Web.updateAccessToken token p.auth })
  | .fetch f, s =>
      (s.flights.length, { s with flights := s.flights ++ [{
        thread := i
        request := f
        cookie := if f.attaches then s.jar else none }] })
  | .response n, s => (s.responded n, s)
  | .json n, s => (s.read n, s)
  | .joinRefresh, s =>
      match (s.page (page i)).refreshPromise with
      | some id => ((false, id), s)
      | none =>
          let id := (s.page (page i)).refreshes.length
          ((true, id), s.onPage (page i) fun p =>
            { p with refreshPromise := some id, refreshes := p.refreshes ++ [none] })
  | .settleRefresh id outcome, s =>
      ((), s.onPage (page i) fun p =>
        { p with refreshPromise := none, refreshes := p.refreshes.set id (some outcome) })
  | .awaitRefresh id, s => ((s.settled (page i) id).getD (.error .network), s)

/-- An operation can be executed: what it awaits is settled. -/
def Ready (page : ι → κ) (i : ι) (op : WebOp) (s : Browser σ ι κ μ) : Prop :=
  match op with
  | .response n | .json n => ∀ f, s.flights[n]? = some f → f.outcome ≠ .pending
  | .awaitRefresh id => (s.settled (page i) id).isSome = true
  | _ => True

/-- What happens around the pages: the server answers a request once, a response arrives and stores its
cookie, a `fetch` fails whether or not the server got it, a cookie expires, and others change the state of
the server. -/
inductive Network (serves : Browser σ ι κ μ → Flight ι μ → Response → μ → σ → Prop)
    (others : Browser σ ι κ μ → σ → Prop) : Browser σ ι κ μ → Browser σ ι κ μ → Prop
  | serve (s : Browser σ ι κ μ) (n : ℕ) (f : Flight ι μ) (resp : Response) (mark : μ) (server : σ)
      (hf : s.flights[n]? = some f) (honce : f.answer = none) (hserves : serves s f resp mark server) :
      Network serves others s { s with
        server := server
        flights := s.flights.set n { f with answer := some (resp, mark) } }
  | arrive (s : Browser σ ι κ μ) (n : ℕ) (f : Flight ι μ) (resp : Response) (mark : μ) (readable : Bool)
      (hf : s.flights[n]? = some f) (hanswer : f.answer = some (resp, mark))
      (hpending : f.outcome = .pending) :
      Network serves others s { s with
        jar := jarAfter s.jar resp.cookie
        flights := s.flights.set n { f with outcome := .arrived readable } }
  | fail (s : Browser σ ι κ μ) (n : ℕ) (f : Flight ι μ) (hf : s.flights[n]? = some f)
      (hpending : f.outcome = .pending) :
      Network serves others s { s with flights := s.flights.set n { f with outcome := .failed } }
  | expire (s : Browser σ ι κ μ) : Network serves others s { s with jar := none }
  | others (s : Browser σ ι κ μ) (server : σ) (h : others s server) :
      Network serves others s { s with server := server }

end Browser

/-! ### How flights go on -/

/-- What was sent, how it was answered, and how it ended does not change. -/
structure Flight.Evolves (f f' : Flight ι μ) : Prop where
  thread : f'.thread = f.thread
  request : f'.request = f.request
  cookie : f'.cookie = f.cookie
  answer : ∀ a, f.answer = some a → f'.answer = some a
  outcome : f.outcome ≠ .pending → f'.outcome = f.outcome

namespace Flight.Evolves

variable {f f' f'' : Flight ι μ}

theorem refl (f : Flight ι μ) : f.Evolves f := ⟨rfl, rfl, rfl, fun _ h => h, fun _ => rfl⟩

theorem trans (h : f.Evolves f') (h' : f'.Evolves f'') : f.Evolves f'' where
  thread := h'.thread.trans h.thread
  request := h'.request.trans h.request
  cookie := h'.cookie.trans h.cookie
  answer a ha := h'.answer a (h.answer a ha)
  outcome ho := by
    have hkept := h.outcome ho
    rw [h'.outcome (hkept ▸ ho), hkept]

end Flight.Evolves

/-- A flight of a list that a new one was added to. -/
theorem getElem?_sent {l : List (Flight ι μ)} {f g : Flight ι μ} {n : ℕ}
    (h : (l ++ [f])[n]? = some g) : l[n]? = some g ∨ n = l.length ∧ g = f := by
  by_cases hn : n < l.length
  · rw [List.getElem?_append_left hn] at h
    exact .inl h
  · have hlt := (List.getElem?_eq_some_iff.mp h).1
    rw [List.length_append, List.length_singleton] at hlt
    obtain rfl : n = l.length := by omega
    rw [List.getElem?_concat_length] at h
    exact .inr ⟨rfl, (Option.some.inj h).symm⟩

/-- The flights go on, and the new ones are within `T`. -/
structure Evolves (T : ι → Fetch → Prop) (l l' : List (Flight ι μ)) : Prop where
  kept : ∀ (n : ℕ) (f : Flight ι μ), l[n]? = some f → ∃ f', l'[n]? = some f' ∧ f.Evolves f'
  fresh : ∀ (n : ℕ) (f' : Flight ι μ), l'[n]? = some f' → n < l.length ∨ T f'.thread f'.request

namespace Evolves

variable {T : ι → Fetch → Prop} {l l' l'' : List (Flight ι μ)}

theorem refl (l : List (Flight ι μ)) : Evolves T l l where
  kept _ f h := ⟨f, h, .refl f⟩
  fresh _ _ h := .inl (List.getElem?_eq_some_iff.mp h).1

/-- A flight that was there before. -/
theorem before (h : Evolves T l l') {n : ℕ} {f' : Flight ι μ} (hf' : l'[n]? = some f')
    (hn : n < l.length) : ∃ f, l[n]? = some f ∧ f.Evolves f' := by
  have hf := List.getElem?_eq_getElem hn
  obtain ⟨f₁, hf₁, hev⟩ := h.kept n _ hf
  rw [hf'] at hf₁
  cases hf₁
  exact ⟨_, hf, hev⟩

theorem trans (h : Evolves T l l') (h' : Evolves T l' l'') : Evolves T l l'' where
  kept n f hf := by
    obtain ⟨f', hf', hev⟩ := h.kept n f hf
    obtain ⟨f'', hf'', hev'⟩ := h'.kept n f' hf'
    exact ⟨f'', hf'', hev.trans hev'⟩
  fresh n f'' hf'' := by
    rcases h'.fresh n f'' hf'' with hn | hT
    · obtain ⟨f', hf', hev⟩ := h'.before hf'' hn
      rw [hev.thread, hev.request]
      exact h.fresh n f' hf'
    · exact .inr hT

theorem mono {T' : ι → Fetch → Prop} (hT : ∀ i f, T i f → T' i f) (h : Evolves T l l') :
    Evolves T' l l' where
  kept := h.kept
  fresh n f' hf' := (h.fresh n f' hf').imp_right (hT _ _)

/-- A new flight within `T`. -/
theorem append {f : Flight ι μ} (hf : T f.thread f.request) : Evolves T l (l ++ [f]) where
  kept n g hg := ⟨g, by rwa [List.getElem?_append_left (List.getElem?_eq_some_iff.mp hg).1], .refl g⟩
  fresh n g hg := by
    rcases getElem?_sent hg with hold | ⟨-, rfl⟩
    · exact .inl (List.getElem?_eq_some_iff.mp hold).1
    · exact .inr hf

/-- One flight that goes on. -/
theorem set {n : ℕ} {f f' : Flight ι μ} (hf : l[n]? = some f) (hev : f.Evolves f') :
    Evolves T l (l.set n f') where
  kept m g hg := by
    by_cases hm : n = m
    · subst hm
      rw [hf] at hg
      cases hg
      exact ⟨f', by rw [List.getElem?_set_self (List.getElem?_eq_some_iff.mp hf).1], hev⟩
    · exact ⟨g, by rwa [List.getElem?_set_ne hm], .refl g⟩
  fresh m g hg := by
    have hm := (List.getElem?_eq_some_iff.mp hg).1
    rw [List.length_set] at hm
    exact .inl hm

end Evolves

namespace Browser

variable {serves : Browser σ ι κ μ → Flight ι μ → Response → μ → σ → Prop}
  {others : Browser σ ι κ μ → σ → Prop} {s s' : Browser σ ι κ μ}

/-- The network starts no `fetch`. -/
theorem Network.evolves (h : Network serves others s s') :
    Evolves (fun _ _ => False) s.flights s'.flights := by
  cases h with
  | serve n f resp mark server hf honce hserves =>
      refine .set hf ⟨rfl, rfl, rfl, fun a ha => ?_, fun _ => rfl⟩
      rw [honce] at ha
      cases ha
  | arrive n f resp mark readable hf hanswer hpending =>
      exact .set hf ⟨rfl, rfl, rfl, fun _ ha => ha, fun ho => absurd hpending ho⟩
  | fail n f hf hpending =>
      exact .set hf ⟨rfl, rfl, rfl, fun _ ha => ha, fun ho => absurd hpending ho⟩
  | expire => exact .refl _
  | others server h => exact .refl _

/-- The network leaves the pages alone. -/
theorem Network.page_eq (h : Network serves others s s') : s'.page = s.page := by
  cases h <;> rfl

/-- Every answer is within `A`. -/
def Sound (A : Fetch → Option String → Response → μ → Prop) (s : Browser σ ι κ μ) : Prop :=
  ∀ f ∈ s.flights, ∀ resp mark, f.answer = some (resp, mark) → A f.request f.cookie resp mark

variable {A : Fetch → Option String → Response → μ → Prop}

theorem Sound.network (hA : ∀ s f resp mark server, serves s f resp mark server →
    A f.request f.cookie resp mark) (hs : Sound A s) (h : Network serves others s s') :
    Sound A s' := by
  cases h with
  | serve n f resp mark server hf honce hserves =>
      intro g hg resp' mark' hanswer
      rcases List.mem_or_eq_of_mem_set hg with hg | rfl
      · exact hs g hg resp' mark' hanswer
      · cases hanswer
        exact hA s f resp mark server hserves
  | arrive n f resp mark readable hf hanswer hpending =>
      intro g hg resp' mark' hanswer'
      rcases List.mem_or_eq_of_mem_set hg with hg | rfl
      · exact hs g hg resp' mark' hanswer'
      · exact hs f (List.mem_of_getElem? hf) resp' mark' hanswer'
  | fail n f hf hpending =>
      intro g hg resp' mark' hanswer
      rcases List.mem_or_eq_of_mem_set hg with hg | rfl
      · exact hs g hg resp' mark' hanswer
      · exact hs f (List.mem_of_getElem? hf) resp' mark' hanswer
  | expire => exact hs
  | others server h => exact hs

/-- A response that is there was answered. -/
theorem responded_ok {n status : ℕ} (h : s.responded n = .ok status) :
    ∃ f resp mark, s.flights[n]? = some f ∧ f.answer = some (resp, mark) ∧ status = resp.status := by
  unfold responded at h
  split at h
  · rename_i thread f cookie resp mark readable hf
    cases h
    exact ⟨_, resp, mark, hf, rfl, rfl⟩
  · cases h

/-- A body that was read was answered. -/
theorem read_ok {n : ℕ} {body : Json} (h : s.read n = .ok body) :
    ∃ f resp mark, s.flights[n]? = some f ∧ f.answer = some (resp, mark) ∧
      resp.body.json = some body := by
  unfold read at h
  split at h
  · rename_i thread f cookie resp mark hf
    split at h
    · rename_i body' hbody
      cases h
      exact ⟨_, resp, mark, hf, rfl, hbody⟩
    · cases h
  · cases h

variable [DecidableEq κ] {page : ι → κ} {i : ι}

/-- What an operation does to the flights: only `fetch` starts one. -/
theorem exec_flights (op : WebOp) (s : Browser σ ι κ μ) :
    (exec page i op s).2.flights = match op with
      | .fetch f => s.flights ++ [{
          thread := i, request := f, cookie := if f.attaches then s.jar else none }]
      | _ => s.flights := by
  cases op with
  | joinRefresh =>
      simp only [exec]
      split <;> rfl
  | _ => rfl

/-- A flight after an operation was there before, or it was just started with what is in the jar. -/
theorem mem_exec_flights {op : WebOp} {s : Browser σ ι κ μ} {g : Flight ι μ}
    (hg : g ∈ (exec page i op s).2.flights) :
    g ∈ s.flights ∨ g.answer = none ∧ op = .fetch g.request ∧
      ∀ token, g.cookie = some token → s.jar = some token := by
  rw [exec_flights] at hg
  cases op with
  | fetch f =>
      rw [List.mem_append, List.mem_singleton] at hg
      refine hg.imp_right fun hg => ?_
      subst hg
      refine ⟨rfl, rfl, fun token hcookie => ?_⟩
      dsimp only at hcookie
      split at hcookie
      · exact hcookie
      · cases hcookie
  | _ => exact .inl hg

/-- An operation changes neither the server nor the jar. -/
theorem exec_server (op : WebOp) (s : Browser σ ι κ μ) :
    (exec page i op s).2.server = s.server ∧ (exec page i op s).2.jar = s.jar := by
  cases op with
  | joinRefresh =>
      simp only [exec]
      split <;> exact ⟨rfl, rfl⟩
  | _ => exact ⟨rfl, rfl⟩

/-- An operation changes the session store of its own page only. -/
theorem exec_auth (op : WebOp) (s : Browser σ ι κ μ) (k : κ) :
    ((exec page i op s).2.page k).auth =
      if k = page i then op.store (s.page k).auth else (s.page k).auth := by
  by_cases hk : k = page i
  · subst hk
    rw [if_pos rfl]
    cases op with
    | joinRefresh =>
        simp only [exec]
        split
        · rfl
        · simp [onPage, WebOp.store]
    | _ => simp [exec, onPage, WebOp.store]
  · rw [if_neg hk]
    cases op with
    | joinRefresh =>
        simp only [exec]
        split
        · rfl
        · simp [onPage, Function.update_of_ne hk]
    | _ => simp [exec, onPage, Function.update_of_ne hk]

/-- A thread starts no flights but its own. -/
theorem exec_evolves {T : ι → Fetch → Prop} (op : WebOp) (s : Browser σ ι κ μ)
    (hT : ∀ f, op = .fetch f → T i f) : Evolves T s.flights (exec page i op s).2.flights := by
  rw [exec_flights]
  cases op with
  | fetch f => exact .append (hT f rfl)
  | _ => exact .refl _

theorem Sound.exec (hs : Sound A s) (op : WebOp) : Sound A (exec page i op s).2 := by
  intro g hg resp mark hanswer
  rcases mem_exec_flights hg with hold | ⟨hnone, -⟩
  · exact hs g hold resp mark hanswer
  · rw [hnone] at hanswer
    cases hanswer

end Browser

/-! ### Schedules -/

/-- What can happen next: a thread acts, or the network. -/
inductive Event (σ ι μ : Type) where
  | act (i : ι)
  | serve (n : ℕ) (resp : Response) (mark : μ) (server : σ)
  | arrive (n : ℕ) (readable : Bool)
  | fail (n : ℕ)

namespace Event

variable {α : Type} [DecidableEq ι] [DecidableEq κ]

/-- The state after an event. -/
def next (page : ι → κ) (e : Event σ ι μ) (P : Pool WebEff (Browser σ ι κ μ) ι α) :
    Pool WebEff (Browser σ ι κ μ) ι α :=
  match e with
  | .act i => P.act (Browser.exec page) i
  | .serve n resp mark server =>
      match P.state.flights[n]? with
      | none => P
      | some f => ⟨{ P.state with
          server := server
          flights := P.state.flights.set n { f with answer := some (resp, mark) } }, P.thread⟩
  | .arrive n readable =>
      match P.state.flights[n]? with
      | none => P
      | some f => ⟨{ P.state with
          jar := match f.answer with
            | some (resp, _) => jarAfter P.state.jar resp.cookie
            | none => P.state.jar
          flights := P.state.flights.set n { f with outcome := .arrived readable } }, P.thread⟩
  | .fail n =>
      match P.state.flights[n]? with
      | none => P
      | some f => ⟨{ P.state with flights := P.state.flights.set n { f with outcome := .failed } }, P.thread⟩

/-- An event can happen, with a call that meets `C`. -/
def Allowed (C : ι → WebOp → Browser σ ι κ μ → Prop)
    (serves : Browser σ ι κ μ → Flight ι μ → Response → μ → σ → Prop) (e : Event σ ι μ)
    (P : Pool WebEff (Browser σ ι κ μ) ι α) : Prop :=
  match e with
  | .act i =>
      match P.thread i with
      | .pure _ => True
      | .call op _ => C i op P.state
  | .serve n resp mark server =>
      ∃ f, P.state.flights[n]? = some f ∧ f.answer = none ∧ serves P.state f resp mark server
  | .arrive n _ => ∃ f answer, P.state.flights[n]? = some f ∧ f.answer = some answer ∧ f.outcome = .pending
  | .fail n => ∃ f, P.state.flights[n]? = some f ∧ f.outcome = .pending

/-- Events one after the other. -/
def play (page : ι → κ) (l : List (Event σ ι μ)) (P : Pool WebEff (Browser σ ι κ μ) ι α) :
    Pool WebEff (Browser σ ι κ μ) ι α :=
  l.foldl (fun P e => e.next page P) P

/-- Each of some events can happen after those before it. -/
def AllAllowed (page : ι → κ) (C : ι → WebOp → Browser σ ι κ μ → Prop)
    (serves : Browser σ ι κ μ → Flight ι μ → Response → μ → σ → Prop) :
    List (Event σ ι μ) → Pool WebEff (Browser σ ι κ μ) ι α → Prop
  | [], _ => True
  | e :: l, P => e.Allowed C serves P ∧ AllAllowed page C serves l (e.next page P)

variable {page : ι → κ} {C : ι → WebOp → Browser σ ι κ μ → Prop}
  {serves : Browser σ ι κ μ → Flight ι μ → Response → μ → σ → Prop}
  {others : Browser σ ι κ μ → σ → Prop} {P : Pool WebEff (Browser σ ι κ μ) ι α}

theorem next_run {e : Event σ ι μ} (h : e.Allowed C serves P) :
    Pool.Run (Browser.exec page) (Browser.Network serves others) C P (e.next page P) := by
  cases e with
  | act i =>
      show Pool.Run _ _ _ _ (P.act (Browser.exec page) i)
      unfold Pool.act
      dsimp only [Allowed] at h
      cases hk : P.thread i with
      | pure a => exact .refl
      | call op k =>
          rw [hk] at h
          exact .single (.act P i op k hk h)
  | serve n resp mark server =>
      obtain ⟨f, hf, honce, hserves⟩ := h
      unfold next
      dsimp only
      rw [hf]
      exact .single (.env P _ (.serve P.state n f resp mark server hf honce hserves))
  | arrive n readable =>
      obtain ⟨f, ⟨resp, mark⟩, hf, hanswer, hpending⟩ := h
      have hjar : (match f.answer with
        | some (resp, _) => jarAfter P.state.jar resp.cookie
        | none => P.state.jar) = jarAfter P.state.jar resp.cookie := by rw [hanswer]
      unfold next
      dsimp only
      rw [hf]
      dsimp only
      rw [hjar]
      exact .single (.env P _ (.arrive P.state n f resp mark readable hf hanswer hpending))
  | fail n =>
      obtain ⟨f, hf, hpending⟩ := h
      unfold next
      dsimp only
      rw [hf]
      exact .single (.env P _ (.fail P.state n f hf hpending))

/-- Events that can happen are a run. -/
theorem play_run {l : List (Event σ ι μ)} (h : AllAllowed page C serves l P) :
    Pool.Run (Browser.exec page) (Browser.Network serves others) C P (play page l P) := by
  induction l generalizing P with
  | nil => exact .refl
  | cons e l ih =>
      obtain ⟨he, hl⟩ := h
      exact (next_run he).trans (ih hl)

end Event

end SuperAdmin.Web
