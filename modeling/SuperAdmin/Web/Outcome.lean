import SuperAdmin.Web.Client

/-! # What a silent refresh comes to

`doRefresh` sends one request, and what it returns is said by that request alone: it is rejected where the
request is, or where the body of a success is none with a token, and otherwise it says whether the answer
was a success. -/

namespace SuperAdmin.Web

open Effects Http

variable {σ ι κ μ : Type}

/-! ### Flights that are over -/

/-- A flight has ended for its page: it has failed, or its answer is there. -/
def Flight.Over (f : Flight ι μ) : Prop :=
  f.outcome = .failed ∨ ∃ answer readable, f.answer = some answer ∧ f.outcome = .arrived readable

theorem Flight.Over.not_pending {f : Flight ι μ} (h : f.Over) : f.outcome ≠ .pending := by
  rcases h with h | ⟨_, _, -, h⟩
  · rw [h]
    exact fun h => by cases h
  · rw [h]
    exact fun h => by cases h

theorem Flight.Over.evolves {f f' : Flight ι μ} (h : f.Over) (hev : f.Evolves f') : f'.Over := by
  have hsame := hev.outcome h.not_pending
  rcases h with hfailed | ⟨answer, readable, hanswer, harrived⟩
  · exact .inl (hsame.trans hfailed)
  · exact .inr ⟨answer, readable, hev.answer _ hanswer, hsame.trans harrived⟩

namespace Browser

/-- What arrives was answered. -/
def Orderly (s : Browser σ ι κ μ) : Prop := ∀ f ∈ s.flights, f.outcome ≠ .pending → f.Over

variable {serves : Browser σ ι κ μ → Flight ι μ → Response → μ → σ → Prop}
  {others : Browser σ ι κ μ → σ → Prop} {s s' : Browser σ ι κ μ}

theorem Orderly.network (h : s.Orderly) (hstep : Network serves others s s') : s'.Orderly := by
  cases hstep with
  | serve n f resp mark server hf honce hserves =>
      intro g hg hdone
      rcases List.mem_or_eq_of_mem_set hg with hg | rfl
      · exact h g hg hdone
      · rcases h f (List.mem_of_getElem? hf) hdone with hfailed | ⟨answer, _, hanswer, -⟩
        · exact .inl hfailed
        · rw [honce] at hanswer
          cases hanswer
  | arrive n f resp mark readable hf hanswer hpending =>
      intro g hg hdone
      rcases List.mem_or_eq_of_mem_set hg with hg | rfl
      · exact h g hg hdone
      · exact .inr ⟨_, readable, hanswer, rfl⟩
  | fail n f hf hpending =>
      intro g hg hdone
      rcases List.mem_or_eq_of_mem_set hg with hg | rfl
      · exact h g hg hdone
      · exact .inl rfl
  | expire => exact h
  | others server hothers => exact h

theorem Orderly.exec [DecidableEq κ] {page : ι → κ} {i : ι} (h : s.Orderly) (op : WebOp) :
    (Browser.exec page i op s).2.Orderly := by
  intro g hg hdone
  rw [exec_flights] at hg
  cases op with
  | fetch f =>
      rw [List.mem_append, List.mem_singleton] at hg
      rcases hg with hg | rfl
      · exact h g hg hdone
      · exact absurd rfl hdone
  | _ => exact h g hg hdone

theorem orderly_start (h : s.flights = []) : s.Orderly := by
  intro f hf
  rw [h] at hf
  cases hf

/-! ### What a flight says -/

section ended

variable {n : ℕ} {f : Flight ι μ} {resp : Response} {mark : μ} {readable : Bool}

theorem responded_failed (hf : s.flights[n]? = some f) (h : f.outcome = .failed) :
    s.responded n = .error .network := by
  obtain ⟨thread, request, cookie, answer, outcome⟩ := f
  cases h
  unfold responded
  rw [hf]
  cases answer <;> rfl

theorem responded_arrived (hf : s.flights[n]? = some f) (hanswer : f.answer = some (resp, mark))
    (h : f.outcome = .arrived readable) : s.responded n = .ok resp.status := by
  obtain ⟨thread, request, cookie, answer, outcome⟩ := f
  cases h
  cases hanswer
  unfold responded
  rw [hf]

theorem read_failed (hf : s.flights[n]? = some f) (h : f.outcome = .failed) :
    s.read n = .error .network := by
  obtain ⟨thread, request, cookie, answer, outcome⟩ := f
  cases h
  unfold read
  rw [hf]
  cases answer <;> rfl

theorem read_arrived (hf : s.flights[n]? = some f) (hanswer : f.answer = some (resp, mark))
    (h : f.outcome = .arrived readable) : s.read n =
      if readable = true then (resp.body.json.elim (.error .notJson) .ok) else .error .network := by
  obtain ⟨thread, request, cookie, answer, outcome⟩ := f
  cases h
  cases hanswer
  unfold read
  rw [hf]
  cases readable with
  | false => rfl
  | true =>
      rw [if_pos rfl]
      dsimp only
      cases resp.body.json <;> rfl

end ended

end Browser

/-- What `doRefresh` makes of the flight that it has sent. -/
def refreshOutcome (s : Browser σ ι κ μ) (n : ℕ) : Except Failure Bool :=
  match s.responded n with
  | .error e => .error e
  | .ok status =>
      if !(FetchResponse.mk n status).ok then .ok false
      else
        match s.read n with
        | .error e => .error e
        | .ok body =>
            match refreshedToken body with
            | .error e => .error e
            | .ok _ => .ok true

section outcome

variable {s : Browser σ ι κ μ} {n status : ℕ} {e : Failure}

theorem refreshOutcome_error (h : s.responded n = .error e) : refreshOutcome s n = .error e := by
  unfold refreshOutcome
  rw [h]

theorem refreshOutcome_refused (h : s.responded n = .ok status) (hok : (FetchResponse.mk n status).ok = false) :
    refreshOutcome s n = .ok false := by
  unfold refreshOutcome
  rw [h]
  dsimp only
  rw [hok, Bool.not_false, if_pos rfl]

theorem refreshOutcome_success (h : s.responded n = .ok status) (hok : (FetchResponse.mk n status).ok = true) :
    refreshOutcome s n = ((s.read n).bind refreshedToken).map fun _ => true := by
  unfold refreshOutcome
  rw [h]
  dsimp only
  rw [hok, Bool.not_true, if_neg Bool.false_ne_true]
  cases s.read n with
  | error e => rfl
  | ok body =>
      show _ = (refreshedToken body).map fun _ => true
      dsimp only
      cases refreshedToken body <;> rfl

end outcome

/-- A flight that is over. -/
def Landed (n : ℕ) (s : Browser σ ι κ μ) : Prop := ∃ f, s.flights[n]? = some f ∧ f.Over

/-- What a flight that is over says stays the same. -/
theorem Landed.evolves {T : ι → Fetch → Prop} {n : ℕ} {s s' : Browser σ ι κ μ} (h : Landed n s)
    (hev : Evolves T s.flights s'.flights) :
    Landed n s' ∧ s'.responded n = s.responded n ∧ s'.read n = s.read n := by
  obtain ⟨f, hf, hover⟩ := h
  obtain ⟨f', hf', hflight⟩ := hev.kept n f hf
  have hsame := hflight.outcome hover.not_pending
  refine ⟨⟨f', hf', hover.evolves hflight⟩, ?_⟩
  rcases hover with hfailed | ⟨⟨resp, mark⟩, readable, hanswer, harrived⟩
  · rw [Browser.responded_failed hf hfailed, Browser.read_failed hf hfailed,
      Browser.responded_failed hf' (hsame.trans hfailed), Browser.read_failed hf' (hsame.trans hfailed)]
    exact ⟨rfl, rfl⟩
  · have hanswer' := hflight.answer _ hanswer
    rw [Browser.responded_arrived hf hanswer harrived, Browser.read_arrived hf hanswer harrived,
      Browser.responded_arrived hf' hanswer' (hsame.trans harrived),
      Browser.read_arrived hf' hanswer' (hsame.trans harrived)]
    exact ⟨rfl, rfl⟩

theorem Landed.outcome {T : ι → Fetch → Prop} {n : ℕ} {s s' : Browser σ ι κ μ} (h : Landed n s)
    (hev : Evolves T s.flights s'.flights) : refreshOutcome s' n = refreshOutcome s n := by
  obtain ⟨-, hresponded, hread⟩ := h.evolves hev
  unfold refreshOutcome
  rw [hresponded, hread]

/-! ### What is said of a refresh -/

/-- The body has a `data` that is neither absent nor null. -/
def HasData (body : Json) : Prop := ∃ data, property "data" (some body) = .ok (some data) ∧ data ≠ .null

/-- An answer that tells whether there is a session. -/
def Flight.Decides (f : Flight ι μ) : Prop :=
  ∃ resp mark readable, f.answer = some (resp, mark) ∧ f.outcome = .arrived readable ∧
    (200 ≤ resp.status ∧ resp.status < 300 →
      readable = true ∧ ∃ body, resp.body.json = some body ∧ HasData body)

theorem refreshedToken_ok {body : Json} : (∃ token, refreshedToken body = .ok token) ↔ HasData body := by
  unfold HasData refreshedToken envelope
  rcases property "data" (some body) with e | data
  · constructor
    · rintro ⟨token, h⟩
      cases h
    · rintro ⟨data, h, -⟩
      cases h
  · rcases data with - | data
    · constructor
      · rintro ⟨token, h⟩
        cases h
      · rintro ⟨data, h, -⟩
        cases h
    · by_cases hnull : data = .null
      · subst hnull
        constructor
        · rintro ⟨token, h⟩
          cases h
        · rintro ⟨data, h, hne⟩
          cases h
          exact absurd rfl hne
      · refine iff_of_true ?_ ⟨data, rfl, hnull⟩
        cases data with
        | null => exact absurd rfl hnull
        | _ => exact ⟨_, rfl⟩

/-- A refresh resolves exactly if its request is answered, and the body of a success has its data. -/
theorem refreshOutcome_ok {s : Browser σ ι κ μ} {n : ℕ} {f : Flight ι μ} (hf : s.flights[n]? = some f)
    (hover : f.Over) : (∃ b, refreshOutcome s n = .ok b) ↔ f.Decides := by
  rcases hover with hfailed | ⟨⟨resp, mark⟩, readable, hanswer, harrived⟩
  · rw [refreshOutcome_error (Browser.responded_failed hf hfailed)]
    constructor
    · rintro ⟨b, h⟩
      cases h
    · rintro ⟨_, _, _, -, h, -⟩
      rw [hfailed] at h
      cases h
  · have hdecides : f.Decides ↔ (200 ≤ resp.status ∧ resp.status < 300 →
        readable = true ∧ ∃ body, resp.body.json = some body ∧ HasData body) := by
      constructor
      · rintro ⟨resp', mark', readable', hanswer', harrived', h⟩
        rw [hanswer] at hanswer'
        cases hanswer'
        rw [harrived] at harrived'
        cases harrived'
        exact h
      · exact fun h => ⟨resp, mark, readable, hanswer, harrived, h⟩
    rw [hdecides]
    have hstatus := Browser.responded_arrived hf hanswer harrived
    by_cases hok : 200 ≤ resp.status ∧ resp.status < 300
    · rw [refreshOutcome_success hstatus (decide_eq_true hok), Browser.read_arrived hf hanswer harrived,
        forall_prop_of_true hok]
      cases readable with
      | false => simp [Except.bind, Except.map]
      | true =>
          cases resp.body.json with
          | none => simp [Except.bind, Except.map]
          | some body =>
              simp only [if_true, Option.elim_some, true_and, Option.some.injEq, exists_eq_left',
                ← refreshedToken_ok, Except.bind]
              cases refreshedToken body <;> simp [Except.map]
    · rw [refreshOutcome_refused hstatus (decide_eq_false hok)]
      exact iff_of_true ⟨false, rfl⟩ fun h => absurd h hok

/-! ### The run of a refresh -/

section run

variable [DecidableEq κ] {τ : Type} {h : Handler WebEff τ} {now : τ → Browser σ ι κ μ} {page : ι → κ} {i : ι}
  {Γ : Rules WebEff τ}

/-- Rules for a thread of a browser that is a part of the state. -/
structure Tracks (page : ι → κ) (i : ι) (h : Handler WebEff τ) (now : τ → Browser σ ι κ μ)
    (Γ : Rules WebEff τ) : Prop where
  answer : ∀ op s, (h op s).1 = (Browser.exec page i op (now s)).1
  next : ∀ op s, now (h op s).2 = (Browser.exec page i op (now s)).2
  ready : ∀ op s, Γ.assume op s → (now s).Ready page i op
  flights : ∀ s s', Γ.rely s s' → Evolves (fun _ _ => True) (now s).flights (now s').flights
  orderly : ∀ s s', Γ.rely s s' → (now s).Orderly → (now s').Orderly

/-- The calls of a refresh after its request. -/
def WebOp.handlesResponse : WebOp → Prop
  | .response _ | .json _ | .updateAccessToken _ => True
  | _ => False

theorem handlesResponse_flights {op : WebOp} (hop : op.handlesResponse) (s : Browser σ ι κ μ) :
    (Browser.exec page i op s).2.flights = s.flights := by
  rw [Browser.exec_flights]
  cases op with
  | fetch f => exact hop.elim
  | _ => rfl

omit [DecidableEq κ] in
theorem doRefresh_calls : doRefresh.Only fun op : WebOp => op = .fetch refreshFetch ∨ op.handlesResponse := by
  refine .bind (.step (.inl rfl) fun n => .step (.inr trivial) fun r => trivial) fun r => ?_
  cases r with
  | error e => trivial
  | ok response =>
      dsimp only
      split
      · trivial
      · refine .step (.inr trivial) fun r => ?_
        cases r with
        | error e => trivial
        | ok body =>
            dsimp only
            cases refreshedToken body with
            | error e => trivial
            | ok token => exact .step (.inr trivial) fun _ => trivial

/-- What is known of the request of a refresh once it is over. -/
def Concluded (now : τ → Browser σ ι κ μ) (B : ℕ → τ → Prop) (n : ℕ) (s : τ) : Prop :=
  B n s ∧ Landed n (now s)

section concluded

variable {B : ℕ → τ → Prop} {n : ℕ} {s : τ}
variable (htracks : Tracks page i h now Γ) (hB : ∀ n s s', Γ.rely s s' → B n s → B n s')
  (hhandles : ∀ n op s, op.handlesResponse → Γ.assume op s → B n s → Γ.guar op s ∧ B n (h op s).2)
include htracks hB

/-- What the others do leaves it, and what the request says. -/
theorem Concluded.rely {s' : τ} (hc : Concluded now B n s) (h' : Γ.rely s s') :
    Concluded now B n s' ∧ (now s').responded n = (now s).responded n ∧ (now s').read n = (now s).read n := by
  obtain ⟨hlanded, hsays⟩ := hc.2.evolves (htracks.flights s s' h')
  exact ⟨⟨hB n s s' h' hc.1, hlanded⟩, hsays⟩

/-- What the request says is what the refresh may return. -/
theorem Concluded.returned {outcome : Except Failure Bool} (hc : Concluded now B n s)
    (houtcome : refreshOutcome (now s) n = outcome) :
    (Prog.pure outcome : WebProc _).Safe h Γ (fun outcome s' => ∃ n, Concluded now B n s' ∧
      refreshOutcome (now s') n = outcome) s := by
  refine .pure fun s' h' => ?_
  obtain ⟨hc', -⟩ := hc.rely htracks hB h'
  exact ⟨n, hc', (hc.2.outcome (htracks.flights s s' h')).trans houtcome⟩

include hhandles

omit hB in
/-- A call of the refresh itself leaves it too. -/
theorem Concluded.call (op : WebOp) (hc : Concluded now B n s) (hop : op.handlesResponse)
    (hassume : Γ.assume op s) :
    Γ.guar op s ∧ Concluded now B n (h op s).2 ∧ (now (h op s).2).responded n = (now s).responded n ∧
      (now (h op s).2).read n = (now s).read n := by
  obtain ⟨hguar, hBn⟩ := hhandles n op s hop hassume hc.1
  have hev : Evolves (fun _ _ => True) (now s).flights (now (h op s).2).flights := by
    rw [htracks.next, handlesResponse_flights hop]
    exact .refl _
  obtain ⟨hlanded, hsays⟩ := hc.2.evolves hev
  exact ⟨hguar, ⟨hBn, hlanded⟩, hsays⟩

/-- The token of a success is stored. -/
theorem Concluded.stored {token : String} (hc : Concluded now B n s)
    (houtcome : refreshOutcome (now s) n = .ok true) :
    (perform (.updateAccessToken token) >>= fun _ => (Prog.pure (.ok true) : WebProc _)).Safe h Γ
      (fun outcome s' => ∃ n, Concluded now B n s' ∧ refreshOutcome (now s') n = outcome) s := by
  refine .step fun s₁ h₁ hassume => ?_
  obtain ⟨hc₁, hresponded₁, hread₁⟩ := hc.rely htracks hB h₁
  obtain ⟨hguar, hc₂, hresponded₂, hread₂⟩ :=
    hc₁.call htracks hhandles (.updateAccessToken token) trivial hassume
  refine ⟨hguar, hc₂.returned htracks hB ?_⟩
  rw [← houtcome]
  unfold refreshOutcome
  rw [hresponded₂, hresponded₁, hread₂, hread₁]

/-- The request of a refresh: when it is over, its answer is what it says. -/
theorem refreshFetch_safe {A : τ → Prop} (hA : ∀ s s', Γ.rely s s' → A s → A s')
    (hfetch : ∀ s, Γ.assume (.fetch refreshFetch) s → A s →
      Γ.guar (.fetch refreshFetch) s ∧ B (now s).flights.length (h (.fetch refreshFetch) s).2)
    (hs : A s) (horderly : (now s).Orderly) :
    (fetch refreshFetch).Safe h Γ (fun r s' => ∃ n, Concluded now B n s' ∧
      r = ((now s').responded n).map (FetchResponse.mk n)) s := by
  unfold fetch
  refine .step fun s₁ h₁ hassume₁ => ?_
  obtain ⟨hguar, hB₁⟩ := hfetch s₁ hassume₁ (hA s s₁ h₁ hs)
  refine ⟨hguar, ?_⟩
  have hanswer : (h (.fetch refreshFetch) s₁).1 = (now s₁).flights.length := htracks.answer _ _
  rw [hanswer]
  have horderly₁ : (now (h (.fetch refreshFetch) s₁).2).Orderly := by
    rw [htracks.next]
    exact (htracks.orderly s s₁ h₁ horderly).exec _
  obtain ⟨f, hf⟩ : ∃ f, (now (h (.fetch refreshFetch) s₁).2).flights[(now s₁).flights.length]? = some f := by
    rw [htracks.next]
    exact ⟨_, List.getElem?_concat_length⟩
  generalize (now s₁).flights.length = n at hB₁ hf ⊢
  refine .step fun s₂ h₂ hassume₂ => ?_
  have hlanded₂ : Landed n (now s₂) := by
    obtain ⟨f', hf', -⟩ := (htracks.flights _ s₂ h₂).kept n f hf
    refine ⟨f', hf', htracks.orderly _ s₂ h₂ horderly₁ f' (List.mem_of_getElem? hf') ?_⟩
    exact htracks.ready _ s₂ hassume₂ f' hf'
  have hc₂ : Concluded now B n s₂ := ⟨hB n _ s₂ h₂ hB₁, hlanded₂⟩
  obtain ⟨hguar₂, hc₃, hresponded₃, -⟩ := hc₂.call htracks hhandles (.response n) trivial hassume₂
  refine ⟨hguar₂, .pure fun s₄ h₄ => ?_⟩
  obtain ⟨hc₄, hresponded₄, -⟩ := hc₃.rely htracks hB h₄
  refine ⟨n, hc₄, ?_⟩
  have hanswer₂ : (h (.response n) s₂).1 = (now s₂).responded n := htracks.answer _ _
  rw [hanswer₂, hresponded₄, hresponded₃]

end concluded

/-- A refresh sends one request, after which something holds of it, and returns what that request says. -/
theorem doRefresh_safe (htracks : Tracks page i h now Γ) {A : τ → Prop} {B : ℕ → τ → Prop}
    (hA : ∀ s s', Γ.rely s s' → A s → A s') (hB : ∀ n s s', Γ.rely s s' → B n s → B n s')
    (hfetch : ∀ s, Γ.assume (.fetch refreshFetch) s → A s →
      Γ.guar (.fetch refreshFetch) s ∧ B (now s).flights.length (h (.fetch refreshFetch) s).2)
    (hhandles : ∀ n op s, op.handlesResponse → Γ.assume op s → B n s → Γ.guar op s ∧ B n (h op s).2)
    {s : τ} (hs : A s) (horderly : (now s).Orderly) :
    doRefresh.Safe h Γ (fun outcome s' => ∃ n, B n s' ∧ Landed n (now s') ∧
      refreshOutcome (now s') n = outcome) s := by
  suffices hsafe : doRefresh.Safe h Γ (fun outcome s' => ∃ n, Concluded now B n s' ∧
      refreshOutcome (now s') n = outcome) s by
    refine hsafe.mono ?_
    rintro outcome s' ⟨n, ⟨hBn, hlanded⟩, houtcome⟩
    exact ⟨n, hBn, hlanded, houtcome⟩
  unfold doRefresh
  refine .bind ((refreshFetch_safe htracks hB hhandles hA hfetch hs horderly).mono ?_)
  rintro _ s₁ ⟨n, hc, rfl⟩
  cases hstatus : (now s₁).responded n with
  | error e => exact hc.returned htracks hB (refreshOutcome_error hstatus)
  | ok status =>
      simp only [Except.map]
      by_cases hok : (FetchResponse.mk n status).ok = true
      · rw [hok, Bool.not_true, if_neg Bool.false_ne_true]
        refine .step fun s₂ h₂ hassume => ?_
        obtain ⟨hc₂, hresponded₂, -⟩ := hc.rely htracks hB h₂
        obtain ⟨hguar, hc₃, hresponded₃, hread₃⟩ := hc₂.call htracks hhandles (.json n) trivial hassume
        refine ⟨hguar, ?_⟩
        have hanswer : (h (.json n) s₂).1 = (now s₂).read n := htracks.answer _ _
        have houtcome : refreshOutcome (now (h (.json n) s₂).2) n = _ :=
          refreshOutcome_success (by rw [hresponded₃, hresponded₂, hstatus]) hok
        rw [hanswer, ← hread₃]
        generalize (h (.json n) s₂).2 = s₃ at hc₃ houtcome ⊢
        cases hread : (now s₃).read n with
        | error e =>
            rw [hread] at houtcome
            exact hc₃.returned htracks hB houtcome
        | ok body =>
            rw [hread] at houtcome
            dsimp only
            cases htoken : refreshedToken body with
            | error e => exact hc₃.returned htracks hB (houtcome.trans (congrArg _ htoken))
            | ok token => exact hc₃.stored htracks hB hhandles (houtcome.trans (congrArg _ htoken))
      · rw [Bool.eq_false_iff.mpr hok, Bool.not_false, if_pos rfl]
        exact hc.returned htracks hB (refreshOutcome_refused hstatus (Bool.eq_false_iff.mpr hok))

end run

end SuperAdmin.Web
