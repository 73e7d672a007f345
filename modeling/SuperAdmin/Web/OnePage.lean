import SuperAdmin.Web.SingleFlight
import SuperAdmin.Web.Tabs

/-! # A browser with one page

What the guard of `http.ts` is for: in a browser with one page no refresh is taken for a theft, as long as
no answer to a refresh is lost.  With one refresh on its way at a time, the token that the next one sends is
the one that the last one has brought. -/

namespace SuperAdmin.Tabs

open Effects Http Web Rotation SingleFlight
open Usecase (hashToken)

variable {ι κ : Type} {d : Deps} {web : Http.Web} {query : String → String → String}

/-- An answer that has exchanged the token of its request. -/
def Fresh (f : Flight ι Mark) : Prop := ∃ resp pair, f.answer = some (resp, some (.ok pair))

/-- What happens around the page: nobody signs in, and no answer to a refresh is lost.  A refresh that the
page has given up does not reach the server, and one that was exchanged arrives. -/
def Delivers (d : Deps) (web : Http.Web) (query : String → String → String)
    (s s' : Browser (World d) ι κ Mark) : Prop :=
  Browser.Network (fun s f resp mark w' => Handled d web query s f resp mark w' ∧
      (∀ id, matchRoute f.request.method f.request.path ≠ some (.login, id)) ∧
      (IsRefresh f.request → f.outcome = .pending)) Harmless s s' ∧
    ∀ f ∈ s'.flights, Fresh f → f.outcome ≠ .failed

/-! ### The answers -/

/-- A token comes only with the answer to a refresh that was exchanged. -/
structure Brings (f : Fetch) (_ : Option String) (resp : Response) (mark : Mark) : Prop where
  set : ∀ token, resp.cookie = .set token → IsRefresh f ∧ ∃ pair, mark = some (.ok pair)
  mark : ∀ pair, mark = some (.ok pair) → IsRefresh f ∧ resp.cookie = .set pair.refreshToken

theorem brings_handled {s : Browser (World d) ι κ Mark} {f : Flight ι Mark} {resp : Response} {mark : Mark}
    {w' : World d} (h : Handled d web query s f resp mark w')
    (hlogin : ∀ id, matchRoute f.request.method f.request.path ≠ some (.login, id)) :
    Brings f.request f.cookie resp mark := by
  cases h with
  | refresh r rc id resp w' hmatch hrun =>
      have hend := serve_refresh_end rfl hrun
      generalize refreshMark d r s.server (requestOf query rc f.request f.cookie .refresh id) = mark at hend
      cases hend with
      | refused resp hkeep =>
          exact ⟨fun token hset => (by rw [hkeep] at hset; cases hset), fun pair h => by cases h⟩
      | failed raw e w' resp hcookie hrefresh hkeep =>
          exact ⟨fun token hset => absurd hset (hkeep token), fun pair h => by cases h⟩
      | exchanged raw pair w' resp hcookie hrefresh hset =>
          refine ⟨fun token _ => ⟨⟨id, hmatch⟩, pair, rfl⟩, fun pair' h => ?_⟩
          cases h
          exact ⟨⟨id, hmatch⟩, hset⟩
  | login r rc id resp w' hmatch => exact absurd hmatch (hlogin id)
  | other rc route id resp hmatch hroute hreturn =>
      have hkeep := (serve_keepsCookie hroute).canReturn hreturn
      exact ⟨fun token hset => (by rw [hkeep] at hset; cases hset), fun pair h => by cases h⟩
  | missing hmatch => exact ⟨fun token hset => (by cases hset), fun pair h => by cases h⟩

/-! ### The invariant -/

variable {s s' : Browser (World d) ι κ Mark}

/-- The token that the page sends next is usable, unless another one is on its way. -/
structure OnTime (s : Browser (World d) ι κ Mark) : Prop where
  silent : ∀ f ∈ s.flights, ∀ resp, f.answer ≠ some (resp, alarm)
  brings : s.Sound Brings
  jar : ∀ token, s.jar = some token → Usable s.server (hashToken token) ∨
    ∃ f ∈ s.flights, f.outcome = .pending ∧ Fresh f
  sent : ∀ f ∈ s.flights, IsRefresh f.request → f.outcome = .pending → f.answer = none →
    ∀ token, f.cookie = some token → Usable s.server (hashToken token)
  answered : ∀ f ∈ s.flights, f.outcome = .pending → ∀ resp mark, f.answer = some (resp, mark) →
    ∀ token, resp.cookie = .set token → Usable s.server (hashToken token)

/-- A flight of a list in which one was changed. -/
theorem mem_set_cases {l : List (Flight ι Mark)} {n : ℕ} {f g : Flight ι Mark} (hg : g ∈ l.set n f) :
    g = f ∨ ∃ m, m ≠ n ∧ l[m]? = some g := by
  obtain ⟨m, hm⟩ := List.mem_iff_getElem?.mp hg
  by_cases hmn : n = m
  · subst hmn
    have hlt := (List.getElem?_eq_some_iff.mp hm).1
    rw [List.length_set] at hlt
    rw [List.getElem?_set_self hlt] at hm
    exact .inl (Option.some.inj hm).symm
  · rw [List.getElem?_set_ne hmn] at hm
    exact .inr ⟨m, Ne.symm hmn, hm⟩

/-- A flight that is not the changed one is there afterwards. -/
theorem mem_set_of_ne {l : List (Flight ι Mark)} {n m : ℕ} {f g : Flight ι Mark} (hmn : m ≠ n)
    (hg : l[m]? = some g) : g ∈ l.set n f :=
  List.mem_of_getElem? (i := m) (by rwa [List.getElem?_set_ne (Ne.symm hmn)])

/-- Every token that the page waits for or sends is one that the browser has. -/
theorem OnTime.harmless {w' : World d} (h : OnTime s) (hharmless : Harmless s w') :
    OnTime { s with server := w' } where
  silent := h.silent
  brings := h.brings
  jar token htoken := (h.jar token htoken).imp_left fun husable =>
    hharmless.usable ⟨token, rfl, .inl htoken⟩ husable
  sent f hf hfetch hpending hnone token hcookie :=
    hharmless.usable ⟨token, rfl, .inr ⟨f, hf, .inl hcookie⟩⟩
      (h.sent f hf hfetch hpending hnone token hcookie)
  answered f hf hpending resp mark hanswer token hset :=
    hharmless.usable ⟨token, rfl, .inr ⟨f, hf, .inr ⟨resp, mark, hanswer, hset⟩⟩⟩
      (h.answered f hf hpending resp mark hanswer token hset)

/-- An answer that brings no token leaves everything as it was. -/
theorem OnTime.dull {n : ℕ} {f : Flight ι Mark} {resp : Response} {mark : Mark} (h : OnTime s)
    (hf : s.flights[n]? = some f) (honce : f.answer = none) (hsilent : mark ≠ alarm)
    (hdull : ∀ pair, mark ≠ some (.ok pair)) (hbrings : Brings f.request f.cookie resp mark) :
    OnTime { s with flights := s.flights.set n { f with answer := some (resp, mark) } } where
  silent g hg resp' hanswer := by
    rcases mem_set_cases hg with rfl | ⟨m, -, hm⟩
    · cases hanswer
      exact hsilent rfl
    · exact h.silent g (List.mem_of_getElem? hm) resp' hanswer
  brings g hg resp' mark' hanswer := by
    rcases mem_set_cases hg with rfl | ⟨m, -, hm⟩
    · cases hanswer
      exact hbrings
    · exact h.brings g (List.mem_of_getElem? hm) resp' mark' hanswer
  jar token htoken := by
    rcases h.jar token htoken with husable | ⟨g, hg, hpending, resp', pair, hanswer⟩
    · exact .inl husable
    · obtain ⟨m, hm⟩ := List.mem_iff_getElem?.mp hg
      refine .inr ⟨g, mem_set_of_ne ?_ hm, hpending, resp', pair, hanswer⟩
      rintro rfl
      rw [hf] at hm
      cases hm
      rw [honce] at hanswer
      cases hanswer
  sent g hg hfetch hpending hnone token hcookie := by
    rcases mem_set_cases hg with rfl | ⟨m, -, hm⟩
    · cases hnone
    · exact h.sent g (List.mem_of_getElem? hm) hfetch hpending hnone token hcookie
  answered g hg hpending resp' mark' hanswer token hset := by
    rcases mem_set_cases hg with rfl | ⟨m, -, hm⟩
    · cases hanswer
      obtain ⟨-, pair, hpair⟩ := hbrings.set token hset
      exact absurd hpair (hdull pair)
    · exact h.answered g (List.mem_of_getElem? hm) hpending resp' mark' hanswer token hset

/-- An exchange, if no other refresh is on its way. -/
theorem OnTime.exchanged {n : ℕ} {f : Flight ι Mark} {resp : Response} {pair : TokenPair} {w' : World d}
    (h : OnTime s) (hf : s.flights[n]? = some f) (hpending : f.outcome = .pending)
    (hbrings : Brings f.request f.cookie resp (some (.ok pair)))
    (hnew : Usable w' (hashToken pair.refreshToken))
    (halone : ∀ (m : ℕ) (g : Flight ι Mark), s.flights[m]? = some g → IsRefresh g.request →
      g.outcome = .pending → m = n) :
    OnTime { s with
      server := w'
      flights := s.flights.set n { f with answer := some (resp, some (.ok pair)) } } where
  silent g hg resp' hanswer := by
    rcases mem_set_cases hg with rfl | ⟨m, -, hm⟩
    · cases hanswer
    · exact h.silent g (List.mem_of_getElem? hm) resp' hanswer
  brings g hg resp' mark' hanswer := by
    rcases mem_set_cases hg with rfl | ⟨m, -, hm⟩
    · cases hanswer
      exact hbrings
    · exact h.brings g (List.mem_of_getElem? hm) resp' mark' hanswer
  jar token htoken :=
    .inr ⟨_, List.mem_set (List.getElem?_eq_some_iff.mp hf).1 _, hpending, resp, pair, rfl⟩
  sent g hg hfetch hpending' hnone token hcookie := by
    rcases mem_set_cases hg with rfl | ⟨m, hmn, hm⟩
    · cases hnone
    · exact absurd (halone m g hm hfetch hpending') hmn
  answered g hg hpending' resp' mark' hanswer token hset := by
    rcases mem_set_cases hg with rfl | ⟨m, hmn, hm⟩
    · cases hanswer
      have hpair := (hbrings.mark pair rfl).2
      rw [hset] at hpair
      cases hpair
      exact hnew
    · have hfetch := ((h.brings g (List.mem_of_getElem? hm) resp' mark' hanswer).set token hset).1
      exact absurd (halone m g hm hfetch hpending') hmn

/-- A flight that ends: it arrives and stores its cookie, or it fails. -/
theorem OnTime.ended {n : ℕ} {f : Flight ι Mark} {outcome : Outcome} {jar : Option String} (h : OnTime s)
    (hf : s.flights[n]? = some f) (hended : outcome ≠ .pending)
    (hjar : ∀ token, jar = some token → Usable s.server (hashToken token) ∨
      s.jar = some token ∧ ¬ Fresh f) :
    OnTime { s with jar := jar, flights := s.flights.set n { f with outcome := outcome } } where
  silent g hg resp hanswer := by
    rcases mem_set_cases hg with rfl | ⟨m, -, hm⟩
    · exact h.silent f (List.mem_of_getElem? hf) resp hanswer
    · exact h.silent g (List.mem_of_getElem? hm) resp hanswer
  brings g hg resp mark hanswer := by
    rcases mem_set_cases hg with rfl | ⟨m, -, hm⟩
    · exact h.brings f (List.mem_of_getElem? hf) resp mark hanswer
    · exact h.brings g (List.mem_of_getElem? hm) resp mark hanswer
  jar token htoken := by
    rcases hjar token htoken with husable | ⟨hsame, hstale⟩
    · exact .inl husable
    · rcases h.jar token hsame with husable | ⟨g, hg, hpending, hfresh⟩
      · exact .inl husable
      · obtain ⟨m, hm⟩ := List.mem_iff_getElem?.mp hg
        refine .inr ⟨g, mem_set_of_ne ?_ hm, hpending, hfresh⟩
        rintro rfl
        rw [hf] at hm
        cases hm
        exact hstale hfresh
  sent g hg hfetch hpending hnone token hcookie := by
    rcases mem_set_cases hg with rfl | ⟨m, -, hm⟩
    · exact absurd hpending hended
    · exact h.sent g (List.mem_of_getElem? hm) hfetch hpending hnone token hcookie
  answered g hg hpending resp mark hanswer token hset := by
    rcases mem_set_cases hg with rfl | ⟨m, -, hm⟩
    · exact absurd hpending hended
    · exact h.answered g (List.mem_of_getElem? hm) hpending resp mark hanswer token hset

/-! ### The steps -/

/-- The server handles a flight of the page, which sends one refresh at a time. -/
theorem OnTime.handled {n : ℕ} {f : Flight ι Mark} {resp : Response} {mark : Mark} {w' : World d} (h : OnTime s)
    (hf : s.flights[n]? = some f) (honce : f.answer = none) (hhandled : Handled d web query s f resp mark w')
    (hlogin : ∀ id, matchRoute f.request.method f.request.path ≠ some (.login, id))
    (hpending : IsRefresh f.request → f.outcome = .pending)
    (halone : ∀ (m : ℕ) (g : Flight ι Mark), s.flights[m]? = some g → IsRefresh g.request →
      g.outcome = .pending → IsRefresh f.request → m = n) :
    OnTime { s with
      server := w'
      flights := s.flights.set n { f with answer := some (resp, mark) } } := by
  have hbrings := brings_handled hhandled hlogin
  have hdull : mark ≠ alarm → (∀ pair, mark ≠ some (.ok pair)) → w' = s.server →
      OnTime { s with
        server := w'
        flights := s.flights.set n { f with answer := some (resp, mark) } } := by
    rintro hsilent hdull rfl
    exact h.dull hf honce hsilent hdull hbrings
  cases hhandled with
  | refresh r rc id resp w' hmatch hrun =>
      have hend := serve_refresh_end rfl hrun
      generalize refreshMark d r s.server (requestOf query rc f.request f.cookie .refresh id) = mark
        at hend hbrings hdull
      have hgood : ∀ raw, f.cookie = some raw → Usable s.server (hashToken raw) :=
        h.sent f (List.mem_of_getElem? hf) ⟨id, hmatch⟩ (hpending ⟨id, hmatch⟩) honce
      cases hend with
      | refused resp hkeep => exact hdull (fun h => by cases h) (fun _ h => by cases h) rfl
      | failed raw e w' resp hcookie hrefresh hkeep =>
          have hrefreshed := refresh_usable r (requestOf query rc f.request f.cookie .refresh id).context
            (hgood raw hcookie)
          rw [hrefresh] at hrefreshed
          cases hrefreshed with
          | failed e he => exact hdull (fun h => by cases h; exact he rfl) (fun _ h => by cases h) rfl
      | exchanged raw pair w' resp hcookie hrefresh hset =>
          have hrefreshed := refresh_usable r (requestOf query rc f.request f.cookie .refresh id).context
            (hgood raw hcookie)
          rw [hrefresh] at hrefreshed
          cases hrefreshed with
          | exchanged pair w' hnew =>
              refine h.exchanged hf (hpending ⟨id, hmatch⟩) hbrings (hnew _ (.inl rfl)) ?_
              exact fun m g hg hfetch hpending' => halone m g hg hfetch hpending' ⟨id, hmatch⟩
  | login r rc id resp w' hmatch => exact absurd hmatch (hlogin id)
  | other rc route id resp hmatch => exact hdull (fun h => by cases h) (fun _ h => by cases h) rfl
  | missing hmatch => exact hdull (fun h => by cases h) (fun _ h => by cases h) rfl

/-- An answer arrives, and the jar takes its cookie. -/
theorem OnTime.arrives {n : ℕ} {f : Flight ι Mark} {resp : Response} {mark : Mark} (readable : Bool) (h : OnTime s)
    (hf : s.flights[n]? = some f) (hanswer : f.answer = some (resp, mark)) (hpending : f.outcome = .pending) :
    OnTime { s with
      jar := jarAfter s.jar resp.cookie
      flights := s.flights.set n { f with outcome := .arrived readable } } := by
  refine h.ended hf (fun h => by cases h) fun token hjar => ?_
  have hbrings := h.brings f (List.mem_of_getElem? hf) resp mark hanswer
  cases hcookie : resp.cookie with
  | set token' =>
      rw [hcookie] at hjar
      cases hjar
      exact .inl (h.answered f (List.mem_of_getElem? hf) hpending resp mark hanswer token hcookie)
  | keep =>
      rw [hcookie] at hjar
      refine .inr ⟨hjar, ?_⟩
      rintro ⟨resp', pair, hfresh⟩
      rw [hanswer] at hfresh
      cases hfresh
      have hset := (hbrings.mark pair rfl).2
      rw [hcookie] at hset
      cases hset
  | clear =>
      rw [hcookie] at hjar
      cases hjar

theorem OnTime.delivers (h : OnTime s) (hstep : Delivers d web query s s')
    (halone : ∀ (n m : ℕ) (f g : Flight ι Mark), s.flights[n]? = some f → s.flights[m]? = some g →
      IsRefresh f.request → IsRefresh g.request → f.outcome = .pending → g.outcome = .pending → n = m) :
    OnTime s' := by
  obtain ⟨hstep, hkept⟩ := hstep
  cases hstep with
  | serve n f resp mark server hf honce hserves =>
      obtain ⟨hhandled, hlogin, hpending⟩ := hserves
      refine h.handled hf honce hhandled hlogin hpending fun m g hg hfetch hpending' hfetch' => ?_
      exact halone m n g f hg hf hfetch hfetch' hpending' (hpending hfetch')
  | arrive n f resp mark readable hf hanswer hpending => exact h.arrives readable hf hanswer hpending
  | fail n f hf hpending =>
      refine h.ended hf (fun h => by cases h) fun token hjar => .inr ⟨hjar, fun hfresh => ?_⟩
      exact hkept _ (List.mem_set (List.getElem?_eq_some_iff.mp hf).1 _) hfresh rfl
  | expire => exact ⟨h.silent, h.brings, fun token hjar => (by cases hjar), h.sent, h.answered⟩
  | others server hharmless => exact h.harmless hharmless

variable [DecidableEq κ] {page : ι → κ} {i : ι}

/-- The page sends a refresh only when none is on its way. -/
theorem OnTime.exec (h : OnTime s) (op : WebOp)
    (halone : ∀ f, op = .fetch f → IsRefresh f → ∀ g ∈ s.flights, IsRefresh g.request →
      g.outcome ≠ .pending) : OnTime (Browser.exec page i op s).2 := by
  obtain ⟨hserver, hjar⟩ : (Browser.exec page i op s).2.server = s.server ∧
      (Browser.exec page i op s).2.jar = s.jar := Browser.exec_server op s
  have hkept : ∀ g ∈ s.flights, g ∈ (Browser.exec page i op s).2.flights := by
    intro g hg
    rw [Browser.exec_flights]
    cases op with
    | fetch f => exact List.mem_append_left _ hg
    | _ => exact hg
  constructor
  · intro g hg resp hanswer
    rcases Browser.mem_exec_flights hg with hold | ⟨hnone, -⟩
    · exact h.silent g hold resp hanswer
    · rw [hnone] at hanswer
      cases hanswer
  · exact h.brings.exec op
  · intro token htoken
    rw [hjar] at htoken
    rw [hserver]
    refine (h.jar token htoken).imp_right ?_
    rintro ⟨g, hg, hpending, hfresh⟩
    exact ⟨g, hkept g hg, hpending, hfresh⟩
  · intro g hg hfetch hpending hnone token hcookie
    rw [hserver]
    rcases Browser.mem_exec_flights hg with hold | ⟨-, hop, hsent⟩
    · exact h.sent g hold hfetch hpending hnone token hcookie
    · rcases h.jar token (hsent token hcookie) with husable | ⟨g', hg', hpending', resp, pair, hanswer⟩
      · exact husable
      · -- the token that is on its way is that of a refresh
        have hrefresh := ((h.brings g' hg' resp _ hanswer).mark pair rfl).1
        exact absurd hpending' (halone g.request hop hfetch g' hg' hrefresh)
  · intro g hg hpending resp mark hanswer token hset
    rw [hserver]
    rcases Browser.mem_exec_flights hg with hold | ⟨hnone, -⟩
    · exact h.answered g hold hpending resp mark hanswer token hset
    · rw [hnone] at hanswer
      cases hanswer

/-! ### All runs -/

variable [DecidableEq ι]

/-- **No false alarm on one page.**  In every run of flows on one page that refresh only through
`refreshAccessToken`, in which nobody signs in and no answer to a refresh is lost: no refresh is answered
with `ErrSessionRevoked`. -/
theorem one_page_no_alarm {flow : ι → Flow}
    {P P' : Pool WebEff (Browser (World d) ι κ Mark) ι (Except Failure (Option Json))}
    (hpage : ∀ i j, page i = page j)
    (hr : Pool.Run (Browser.exec page) (Delivers d web query) (fun i op s => s.Ready page i op) P P')
    (hflow : ∀ i, P.thread i = (flow i).prog) (hguards : ∀ i, Guards (flow i))
    (hflights : P.state.flights = [])
    (hjar : ∀ token, P.state.jar = some token → Usable P.state.server (hashToken token)) :
    ∀ f ∈ P'.state.flights, ∀ resp, f.answer ≠ some (resp, alarm) := by
  obtain ⟨tr, hrun, -, -⟩ := guarded_run (fun _ _ h => h.1) (fun _ _ _ h => h) hr hflow hguards hflights
  have hstart : OnTime P.state := by
    refine ⟨fun f hf => ?_, fun f hf => ?_, fun token htoken => .inl (hjar token htoken), fun f hf => ?_,
      fun f hf => ?_⟩
    all_goals
      rw [hflights] at hf
      cases hf
  have hontime := Pool.Run.invariant
    (I := fun s : Traced (World d) ι κ Mark => OwnedOnce page s ∧ Single page s ∧ OnTime s.now)
    ?_ ?_ hrun ⟨ownedOnce_start _, single_start hflights, hstart⟩
  · exact hontime.2.2.silent
  · rintro i op s ⟨⟨⟨-, howned⟩, hguard⟩, hsingle⟩ ⟨-, -, hs⟩
    refine ⟨howned.step, hsingle.step howned hguard, hs.exec op fun f hop hfetch g hg hrefresh => ?_⟩
    subst hop
    obtain ⟨n, hn⟩ := List.mem_iff_getElem?.mp hg
    exact hguard.alone hfetch howned hsingle hn hrefresh (hpage _ _)
  · rintro s s' ⟨hstep, htrace⟩ ⟨howned, hsingle, hs⟩
    have hnetwork : ∀ s s' : Browser (World d) ι κ Mark, Delivers d web query s s' → Browser.Network _ _ s s' :=
      fun _ _ h => h.1
    refine ⟨howned.network hnetwork ⟨hstep, htrace⟩, hsingle.network hnetwork ⟨hstep, htrace⟩,
      hs.delivers hstep fun n m f g hf hg hfetch hfetch' hpending hpending' => ?_⟩
    exact hsingle.flight howned hf hg (hpage _ _) hfetch hfetch' hpending hpending'

end SuperAdmin.Tabs
