import SuperAdmin.Web.Outcome
import SuperAdmin.Web.SingleFlight

/-! # What the promises of a page are settled with

A promise of `refreshAccessToken` is created, and one request is sent for it; it is settled with what that
request came to.  So whoever waits for it gets what the refresh that is on its way comes to. -/

namespace SuperAdmin.SingleFlight

open Effects Http Web

variable {σ ι κ μ : Type} {page : ι → κ}

/-! ### The request of a promise -/

/-- A call that sends a refresh while its page waits for the promise `id`; it gets the number `n`. -/
def Sends (page : ι → κ) (k : κ) (id n : ℕ) (e : Effects.Event WebEff (Browser σ ι κ μ) ι) : Prop :=
  page e.tid = k ∧ (∃ f, e.op = .fetch f ∧ IsRefresh f) ∧ (e.before.page k).refreshPromise = some id ∧
    e.before.flights.length = n

/-- A refresh was sent for a promise. -/
def SentFor (page : ι → κ) (k : κ) (id n : ℕ) (s : Traced σ ι κ μ) : Prop := ∃ e ∈ s.trace, Sends page k id n e

/-- One refresh was sent for a promise. -/
def Sole (page : ι → κ) (k : κ) (id n : ℕ) (s : Traced σ ι κ μ) : Prop := ∀ m, SentFor page k id m s ↔ m = n

/-- What a thread that owns a promise relies on: the others send nothing for it. -/
structure Heeds (page : ι → κ) (i : ι) (s s' : Traced σ ι κ μ) : Prop where
  follows : Follows page i s s'
  orderly : s.now.Orderly → s'.now.Orderly
  sent : ∀ id n, Owns page i id s → (SentFor page (page i) id n s' ↔ SentFor page (page i) id n s)

theorem SentFor.mono {k : κ} {id n : ℕ} {s s' : Traced σ ι κ μ} (htrace : ∀ e ∈ s.trace, e ∈ s'.trace)
    (h : SentFor page k id n s) : SentFor page k id n s' := by
  obtain ⟨e, he, hsends⟩ := h
  exact ⟨e, htrace e he, hsends⟩

/-- A promise that waits is not settled, and what was sent was sent for a promise of the page. -/
structure Numbered (page : ι → κ) (s : Traced σ ι κ μ) : Prop where
  waiting : ∀ k id, (s.now.page k).refreshPromise = some id → (s.now.page k).refreshes[id]? = some none
  sent : ∀ k id n, SentFor page k id n s → id < (s.now.page k).refreshes.length

/-! ### The rules of a thread -/

/-- A promise is settled with what the one request that was sent for it came to. -/
def Faithful (page : ι → κ) (i : ι) (op : WebOp) (s : Traced σ ι κ μ) : Prop :=
  match op with
  | .settleRefresh id outcome =>
      ∃ n, Sole page (page i) id n s ∧ Landed n s.now ∧ refreshOutcome s.now n = outcome
  | _ => True

/-- The rules of a thread. -/
def promiseRules (page : ι → κ) (i : ι) : Rules WebEff (Traced σ ι κ μ) where
  assume op s := s.now.Ready page i op ∧ Numbered page s ∧ s.now.Orderly
  rely := Heeds page i
  guar := Faithful page i
  rely_refl s := ⟨(rules page i).rely_refl s, fun h => h, fun _ _ _ => Iff.rfl⟩
  rely_trans h h' := ⟨(rules page i).rely_trans h.follows h'.follows, fun ho => h'.orderly (h.orderly ho),
    fun id n howns => (h'.sent id n (howns.mono h.follows.trace)).trans (h.sent id n howns)⟩

variable {i : ι} {s : Traced σ ι κ μ}

theorem not_sends {j : ι} {op : WebOp} {k : κ} {id n : ℕ} (hop : ∀ f, op ≠ .fetch f) :
    ¬ Sends page k id n ⟨j, op, s.now⟩ := by
  rintro ⟨-, ⟨f, hf, -⟩, -⟩
  exact hop f hf

theorem heeds_network {serves : Browser σ ι κ μ → Flight ι μ → Response → μ → σ → Prop}
    {others : Browser σ ι κ μ → σ → Prop} {s' : Traced σ ι κ μ}
    (h : recordEnv (Browser.Network serves others) s s') : Heeds page i s s' where
  follows := follows_network i h
  orderly ho := ho.network h.1
  sent id n _ := by
    unfold SentFor
    rw [h.2]

variable [DecidableEq κ]

theorem sentFor_record {j : ι} {op : WebOp} {k : κ} {id n : ℕ} :
    SentFor page k id n (record (Browser.exec page) j op s).2 ↔
      Sends page k id n ⟨j, op, s.now⟩ ∨ SentFor page k id n s := by
  simp [SentFor]

/-- What a thread does for its own promise does not disturb the others. -/
theorem heeds_record {j : ι} {op : WebOp} (hij : j ≠ i) (howned : OwnedOnce page s)
    (hguard : Guarded page j op s) : Heeds page i s (record (Browser.exec page) j op s).2 where
  follows := follows_record hij howned hguard
  orderly h := h.exec op
  sent id n howns := by
    rw [sentFor_record, or_iff_right]
    rintro ⟨hpage, ⟨f, rfl, hrefresh⟩, hpromise, -⟩
    obtain ⟨id', howns', hpromise'⟩ := hguard.2 hrefresh
    have hpage : page j = page i := hpage
    have hpromise : (s.now.page (page i)).refreshPromise = some id := hpromise
    rw [hpage, hpromise] at hpromise'
    cases hpromise'
    exact hij (howned.unique j i id hpage howns' howns)

/-! ### The code -/

theorem tracks : Tracks page i (record (Browser.exec page) i) (fun s : Traced σ ι κ μ => s.now)
    (promiseRules page i) where
  answer _ _ := rfl
  next _ _ := rfl
  ready _ _ h := h.1
  flights _ _ h := h.follows.flights.mono fun _ _ _ => trivial
  orderly _ _ h := h.orderly

/-- A promise for which nothing was sent yet. -/
structure Created (page : ι → κ) (i : ι) (id : ℕ) (s : Traced σ ι κ μ) : Prop where
  settles : Settles page i id s
  unsent : ∀ n, ¬ SentFor page (page i) id n s

/-- A promise for which one request was sent. -/
structure Requested (page : ι → κ) (i : ι) (id n : ℕ) (s : Traced σ ι κ μ) : Prop where
  settles : Settles page i id s
  sole : Sole page (page i) id n s

omit [DecidableEq κ] in
theorem Created.heeds {id : ℕ} {s' : Traced σ ι κ μ} (h : Created page i id s) (hs : Heeds page i s s') :
    Created page i id s' where
  settles := h.settles.follows hs.follows
  unsent n := by
    rw [hs.sent id n h.settles.1]
    exact h.unsent n

omit [DecidableEq κ] in
theorem Requested.heeds {id n : ℕ} {s' : Traced σ ι κ μ} (h : Requested page i id n s) (hs : Heeds page i s s') :
    Requested page i id n s' where
  settles := h.settles.follows hs.follows
  sole m := (hs.sent id m h.settles.1).trans (h.sole m)

/-- The owner keeps its promise until it settles it. -/
theorem Settles.step {id : ℕ} {op : WebOp} (h : Settles page i id s)
    (hop : ∀ id' outcome, op ≠ .settleRefresh id' outcome) :
    Settles page i id (record (Browser.exec page) i op s).2 :=
  ⟨h.1.mono fun _ he => List.mem_cons_of_mem _ he,
    exec_refreshPromise_some h.2 fun id' outcome hsettle => absurd hsettle (hop id' outcome)⟩

theorem isRefresh_refreshFetch : IsRefresh refreshFetch := ⟨"", by decide⟩

theorem Created.request {id : ℕ} (h : Created page i id s) : Requested page i id s.now.flights.length
    (record (Browser.exec page) i (.fetch refreshFetch) s).2 where
  settles := h.settles.step fun _ _ h => by cases h
  sole m := by
    rw [sentFor_record, or_iff_left (h.unsent m)]
    constructor
    · rintro ⟨-, -, -, hlength⟩
      exact hlength.symm
    · rintro rfl
      exact ⟨rfl, ⟨_, rfl, isRefresh_refreshFetch⟩, h.settles.2, rfl⟩

theorem Requested.handles {id n : ℕ} {op : WebOp} (hop : op.handlesResponse) (h : Requested page i id n s) :
    Requested page i id n (record (Browser.exec page) i op s).2 where
  settles := by
    apply h.settles.step
    rintro id' outcome rfl
    exact hop
  sole m := by
    rw [sentFor_record, or_iff_right, h.sole m]
    apply not_sends
    rintro f rfl
    exact hop

/-- The owner of a promise sends one request for it and settles it with what that request comes to. -/
theorem startRefresh_faithful {id : ℕ} (hs : Created page i id s) (horderly : s.now.Orderly) :
    (startRefresh id).Safe (record (Browser.exec page) i) (promiseRules page i) (fun _ _ => True) s := by
  have hrefresh : doRefresh.Safe (record (Browser.exec page) i) (promiseRules page i) (fun outcome s' =>
      ∃ n, Requested page i id n s' ∧ Landed n s'.now ∧ refreshOutcome s'.now n = outcome) s := by
    apply doRefresh_safe tracks (A := Created page i id)
    · exact fun s s' h hs => hs.heeds h
    · exact fun n s s' h hs => hs.heeds h
    · exact fun s _ hs => ⟨trivial, hs.request⟩
    · refine fun n op s hop _ hs => ⟨?_, hs.handles hop⟩
      cases op with
      | settleRefresh id outcome => exact hop.elim
      | _ => trivial
    · exact hs
    · exact horderly
  refine .bind (hrefresh.mono fun outcome s₁ h₁ s₂ h₂ _ => ?_)
  obtain ⟨n, hrequested, hlanded, houtcome⟩ := h₁
  refine ⟨⟨n, (hrequested.heeds h₂).sole, ?_, ?_⟩, fun _ _ => trivial⟩
  · exact (hlanded.evolves h₂.follows.flights).1
  · rw [hlanded.outcome h₂.follows.flights, houtcome]

/-- A thread that starts a refresh owns a promise for which nothing was sent. -/
theorem created_joinRefresh (hnumbered : Numbered page s)
    (hpromise : (s.now.page (page i)).refreshPromise = none) :
    Created page i (s.now.page (page i)).refreshes.length (record (Browser.exec page) i .joinRefresh s).2 where
  settles := by
    refine ⟨⟨_, List.mem_cons_self, rfl, rfl, hpromise, rfl⟩, ?_⟩
    rw [record_now, exec_joinRefresh_none hpromise]
    simp [Browser.onPage]
  unsent n := by
    rw [sentFor_record, or_iff_right (not_sends fun _ h => by cases h)]
    intro hsent
    have hlt := hnumbered.sent _ _ n hsent
    omega

theorem refreshAccessToken_faithful :
    refreshAccessToken.Safe (record (Browser.exec page) i) (promiseRules page i) (fun _ _ => True) s := by
  have hawait : ∀ id (s : Traced σ ι κ μ), (Web.perform (.awaitRefresh id)).Safe (record (Browser.exec page) i)
      (promiseRules page i) (fun _ _ => True) s := fun id s _ _ _ => ⟨trivial, fun _ _ => trivial⟩
  refine .step fun s₁ h₁ hassume => ⟨trivial, ?_⟩
  obtain ⟨-, hnumbered, horderly⟩ := hassume
  cases hpromise : (s₁.now.page (page i)).refreshPromise with
  | some id =>
      have hanswer : (record (Browser.exec page) i .joinRefresh s₁).1 = (false, id) := by
        rw [record_answer, exec_joinRefresh_some hpromise]
      rw [hanswer]
      exact hawait id _
  | none =>
      have hanswer : (record (Browser.exec page) i .joinRefresh s₁).1 =
          (true, (s₁.now.page (page i)).refreshes.length) := by
        rw [record_answer, exec_joinRefresh_none hpromise]
      rw [hanswer]
      refine .bind ((startRefresh_faithful (created_joinRefresh hnumbered hpromise) ?_).mono fun _ s₂ _ => ?_)
      · exact horderly.exec _
      · exact hawait _ s₂

/-! ### The flows -/

/-- A call that has nothing to do with promises. -/
def isPlain : WebOp → Bool
  | .joinRefresh | .settleRefresh _ _ | .awaitRefresh _ => false
  | _ => true

section flows

variable {M : (α : Type) → WebProc α → Prop}
variable (hpure : ∀ (α : Type) (a : α), M α (.pure a))
variable (hbind : ∀ (α β : Type) (p : WebProc α) (f : α → WebProc β), M α p → (∀ a, M β (f a)) → M β (p >>= f))
variable (hcall : ∀ op, isPlain op = true → M op.Res (Web.perform op))
variable (hrefresh : M _ refreshAccessToken)
include hpure hbind hcall

theorem send_rule (path : String) (init : RequestInit) : M _ (send path init) := by
  apply hbind
  · exact hcall _ rfl
  · intro auth
    apply hbind
    · exact hcall _ rfl
    · exact fun n => hbind _ _ _ _ (hcall _ rfl) fun status => hpure _ _

theorem unwrap_rule (response : FetchResponse) : M _ (unwrap response) := by
  unfold unwrap
  split
  · exact hbind _ _ _ _ (hcall _ rfl) fun _ => hpure _ _
  · split
    · exact hpure _ _
    · exact hbind _ _ _ _ (hcall _ rfl) fun _ => hpure _ _

include hrefresh

theorem request_rule (path : String) (init : RequestInit) : M _ (request path init) := by
  apply hbind
  · exact send_rule hpure hbind hcall path init
  · intro res
    cases res with
    | error e => exact hpure _ _
    | ok response =>
        dsimp only
        split
        · apply hbind
          · exact hrefresh
          · intro outcome
            rcases outcome with e | ok
            · exact hpure _ _
            · cases ok with
              | true =>
                  apply hbind
                  · exact send_rule hpure hbind hcall path init
                  · intro res
                    cases res with
                    | error e => exact hpure _ _
                    | ok response => exact unwrap_rule hpure hbind hcall response
              | false => exact hbind _ _ _ _ (hcall .clearSession rfl) fun _ => unwrap_rule hpure hbind hcall response
        · exact unwrap_rule hpure hbind hcall response

/-- What holds of `refreshAccessToken` and of the calls that have nothing to do with promises, and of what
is made of them, holds of every flow. -/
theorem flow_rule (flow : Flow) : M _ flow.prog := by
  have hrequest := request_rule hpure hbind hcall hrefresh
  cases flow with
  | request path init => exact hrequest path init
  | logout =>
      apply hbind
      · exact hbind _ _ _ _ (hrequest _ _) fun _ => hbind _ _ _ _ (hcall .clearSession rfl) fun _ => hpure _ _
      · exact fun _ => hpure _ _
  | login email password =>
      apply hbind
      · apply hbind
        · exact hrequest _ _
        · intro res
          cases res with
          | error e => exact hpure _ _
          | ok body =>
              dsimp only
              cases loginSession body with
              | error e => exact hpure _ _
              | ok session => exact hbind _ _ _ _ (hcall (.setSession _ _) rfl) fun _ => hpure _ _
      · exact fun _ => hpure _ _
  | restoreSession =>
      apply hbind
      · apply hbind
        · exact hrefresh
        · intro outcome
          rcases outcome with e | ok
          · exact hpure _ _
          · cases ok with
            | false => exact hbind _ _ _ _ (hcall .clearSession rfl) fun _ => hpure _ _
            | true =>
                apply hbind
                · exact hrequest _ _
                · intro res
                  cases res with
                  | error e => exact hbind _ _ _ _ (hcall .clearSession rfl) fun _ => hpure _ _
                  | ok me =>
                      apply hbind
                      · apply hbind
                        · exact hcall .getAuthState rfl
                        · intro auth
                          cases toAuthUser me with
                          | error e => exact hcall .clearSession rfl
                          | ok user => exact hcall (.setSession _ _) rfl
                      · exact fun _ => hpure _ _
      · exact fun _ => hpure _ _

end flows

/-- Every flow settles its promises with what their requests came to. -/
theorem flow_faithful (flow : Flow) :
    flow.prog.Safe (record (Browser.exec page) i) (promiseRules page i) (fun _ _ => True) s := by
  refine flow_rule (M := fun α p => ∀ s : Traced σ ι κ μ, p.Safe (record (Browser.exec page) i)
    (promiseRules page i) (fun _ _ => True) s) ?_ ?_ ?_ ?_ flow s
  · exact fun α a s => .pure fun _ _ => trivial
  · exact fun α β p f hp hf s => .bind ((hp s).mono fun a s' _ => hf a s')
  · intro op hop s s₁ _ _
    refine ⟨?_, fun _ _ => trivial⟩
    cases op with
    | settleRefresh id outcome => cases hop
    | _ => trivial
  · exact fun s => refreshAccessToken_faithful

/-! ### Settled promises -/

/-- Whatever a promise was settled with, is what the one request that was sent for it came to. -/
def Honoured (page : ι → κ) (s : Traced σ ι κ μ) : Prop :=
  ∀ k id outcome, s.now.settled k id = some outcome →
    ∃ n, Sole page k id n s ∧ Landed n s.now ∧ refreshOutcome s.now n = outcome

/-- A refresh that is on its way was sent for the promise that its page waits for. -/
def Current (page : ι → κ) (s : Traced σ ι κ μ) : Prop :=
  ∀ (n : ℕ) (f : Flight ι μ), s.now.flights[n]? = some f → IsRefresh f.request → f.outcome = .pending →
    ∃ id, (s.now.page (page f.thread)).refreshPromise = some id ∧ SentFor page (page f.thread) id n s

/-- Only two operations change the promises of a page. -/
theorem exec_refreshes {j : ι} {op : WebOp} (s : Browser σ ι κ μ) (hjoin : op ≠ .joinRefresh)
    (hsettle : ∀ id outcome, op ≠ .settleRefresh id outcome) (k : κ) :
    ((Browser.exec page j op s).2.page k).refreshes = (s.page k).refreshes := by
  cases op with
  | joinRefresh => exact absurd rfl hjoin
  | settleRefresh id outcome => exact absurd rfl (hsettle id outcome)
  | setSession token user | clearSession | updateAccessToken token =>
      by_cases hk : k = page j
      · subst hk
        simp [Browser.exec, Browser.onPage]
      · simp [Browser.exec, Browser.onPage, Function.update_of_ne hk]
  | _ => rfl

theorem Numbered.step {j : ι} {op : WebOp} (hs : Numbered page s) :
    Numbered page (record (Browser.exec page) j op s).2 where
  waiting k id hpromise := by
    rw [record_now] at hpromise ⊢
    by_cases hjoin : op = .joinRefresh
    · subst hjoin
      cases hwas : (s.now.page (page j)).refreshPromise with
      | some id' =>
          rw [exec_joinRefresh_some hwas] at hpromise ⊢
          exact hs.waiting k id hpromise
      | none =>
          rw [exec_joinRefresh_none hwas] at hpromise ⊢
          by_cases hk : k = page j
          · subst hk
            simp only [Browser.onPage, Function.update_self, Option.some.injEq] at hpromise
            subst hpromise
            simp [Browser.onPage]
          · simp only [Browser.onPage, Function.update_of_ne hk] at hpromise ⊢
            exact hs.waiting k id hpromise
    · by_cases hsettle : ∃ id' outcome, op = .settleRefresh id' outcome
      · obtain ⟨id', outcome, rfl⟩ := hsettle
        by_cases hk : k = page j
        · subst hk
          simp [Browser.exec, Browser.onPage] at hpromise
        · simp only [Browser.exec, Browser.onPage, Function.update_of_ne hk] at hpromise ⊢
          exact hs.waiting k id hpromise
      · have hsettle : ∀ id outcome, op ≠ .settleRefresh id outcome :=
          fun id' outcome h => hsettle ⟨id', outcome, h⟩
        rw [exec_refreshes _ hjoin hsettle]
        rw [exec_refreshPromise _ hjoin hsettle] at hpromise
        exact hs.waiting k id hpromise
  sent k id n hsent := by
    refine lt_of_lt_of_le ?_ (exec_refreshes_length op s.now k)
    rcases sentFor_record.mp hsent with ⟨-, -, hpromise, -⟩ | hsent
    · exact (List.getElem?_eq_some_iff.mp (hs.waiting k id hpromise)).1
    · exact hs.sent k id n hsent

/-- Nothing more is sent for a promise that was settled. -/
theorem sole_record {j : ι} {op : WebOp} {k : κ} {id n : ℕ} {outcome : Except Failure Bool}
    (hnumbered : Numbered page s) (hsettled : s.now.settled k id = some outcome) (h : Sole page k id n s) :
    Sole page k id n (record (Browser.exec page) j op s).2 := by
  intro m
  rw [sentFor_record, or_iff_right, h m]
  rintro ⟨-, -, hpromise, -⟩
  have hwaiting := hnumbered.waiting k id hpromise
  unfold Browser.settled at hsettled
  rw [hwaiting] at hsettled
  cases hsettled

/-- What a promise was settled with, before or by a call. -/
theorem settled_record {j : ι} {op : WebOp} {k : κ} {id : ℕ} {outcome : Except Failure Bool}
    (h : (Browser.exec page j op s.now).2.settled k id = some outcome) :
    s.now.settled k id = some outcome ∨ op = .settleRefresh id outcome ∧ k = page j := by
  unfold Browser.settled at h ⊢
  cases op with
  | joinRefresh =>
      cases hwas : (s.now.page (page j)).refreshPromise with
      | some id' =>
          rw [exec_joinRefresh_some hwas] at h
          exact .inl h
      | none =>
          rw [exec_joinRefresh_none hwas] at h
          by_cases hk : k = page j
          · subst hk
            simp only [Browser.onPage, Function.update_self, Option.join_eq_some_iff] at h ⊢
            left
            rcases lt_or_ge id (s.now.page (page j)).refreshes.length with hlt | hge
            · rwa [List.getElem?_append_left hlt] at h
            · rw [List.getElem?_append_right hge] at h
              simp [List.getElem?_singleton] at h
          · simp only [Browser.onPage, Function.update_of_ne hk] at h
            exact .inl h
  | settleRefresh id' outcome' =>
      by_cases hk : k = page j
      · subst hk
        simp only [Browser.exec, Browser.onPage, Function.update_self, Option.join_eq_some_iff] at h
        by_cases hid : id' = id
        · subst hid
          obtain ⟨hlt, hset⟩ := List.getElem?_eq_some_iff.mp h
          rw [List.getElem_set_self] at hset
          cases hset
          exact .inr ⟨rfl, rfl⟩
        · rw [List.getElem?_set_ne hid] at h
          exact .inl (Option.join_eq_some_iff.mpr h)
      · simp only [Browser.exec, Browser.onPage, Function.update_of_ne hk] at h
        exact .inl h
  | _ =>
      rw [exec_refreshes _ (fun h => by cases h) fun _ _ h => by cases h] at h
      exact .inl h

theorem Honoured.step {j : ι} {op : WebOp} (hs : Honoured page s) (hnumbered : Numbered page s)
    (hfaithful : Faithful page j op s) : Honoured page (record (Browser.exec page) j op s).2 := by
  have hev : Evolves (fun _ _ => True) s.now.flights (Browser.exec page j op s.now).2.flights :=
    Browser.exec_evolves op s.now fun _ _ => trivial
  intro k id outcome hsettled
  rcases settled_record hsettled with hold | ⟨rfl, rfl⟩
  · obtain ⟨n, hsole, hlanded, houtcome⟩ := hs k id outcome hold
    exact ⟨n, sole_record hnumbered hold hsole, (hlanded.evolves hev).1, (hlanded.outcome hev).trans houtcome⟩
  · obtain ⟨n, hsole, hlanded, houtcome⟩ := hfaithful
    refine ⟨n, fun m => ?_, (hlanded.evolves hev).1, (hlanded.outcome hev).trans houtcome⟩
    rw [sentFor_record, or_iff_right (not_sends fun _ h => by cases h)]
    exact hsole m

theorem Current.step {j : ι} {op : WebOp} (hs : Current page s) (howned : OwnedOnce page s)
    (hsingle : Single page s) (hguard : Guarded page j op s) :
    Current page (record (Browser.exec page) j op s).2 := by
  -- a promise that a refresh is on its way for is not settled
  have hkeeps : ∀ (n : ℕ) (f : Flight ι μ), s.now.flights[n]? = some f → IsRefresh f.request →
      f.outcome = .pending → ∃ id,
        ((record (Browser.exec page) j op s).2.now.page (page f.thread)).refreshPromise = some id ∧
          SentFor page (page f.thread) id n (record (Browser.exec page) j op s).2 := by
    intro n f hf hrefresh hpending
    obtain ⟨id, hpromise, hsent⟩ := hs n f hf hrefresh hpending
    refine ⟨id, exec_refreshPromise_some hpromise fun id' outcome hop hpage => ?_,
      hsent.mono fun _ he => List.mem_cons_of_mem _ he⟩
    subst hop
    obtain ⟨hidle, howns, hpromise'⟩ := hguard
    obtain ⟨id'', howns'', hpromise''⟩ := hsingle.owner n f hf hrefresh hpending
    rw [hpage, hpromise'] at hpromise''
    cases hpromise''
    exact hidle n f hf (howned.unique f.thread j id' hpage howns'' howns) hpending
  intro n f hf hrefresh hpending
  have hflights : (record (Browser.exec page) j op s).2.now.flights = _ := Browser.exec_flights op s.now
  rw [hflights] at hf
  cases op with
  | fetch g =>
      rcases getElem?_sent hf with hold | ⟨rfl, rfl⟩
      · exact hkeeps n f hold hrefresh hpending
      · obtain ⟨id, -, hpromise⟩ := hguard.2 hrefresh
        exact ⟨id, hpromise, sentFor_record.mpr (.inl ⟨rfl, ⟨g, rfl, hrefresh⟩, hpromise, rfl⟩)⟩
  | _ => exact hkeeps n f hf hrefresh hpending

section environment

variable {serves : Browser σ ι κ μ → Flight ι μ → Response → μ → σ → Prop}
  {others : Browser σ ι κ μ → σ → Prop} {s' : Traced σ ι κ μ}

omit [DecidableEq κ] in
theorem Numbered.network (hs : Numbered page s) (h : recordEnv (Browser.Network serves others) s s') :
    Numbered page s' where
  waiting k id hpromise := by
    rw [h.1.page_eq] at hpromise ⊢
    exact hs.waiting k id hpromise
  sent k id n hsent := by
    rw [h.1.page_eq]
    exact hs.sent k id n (hsent.mono fun e he => h.2 ▸ he)

omit [DecidableEq κ] in
theorem Honoured.network (hs : Honoured page s) (h : recordEnv (Browser.Network serves others) s s') :
    Honoured page s' := by
  intro k id outcome hsettled
  unfold Browser.settled at hsettled
  rw [h.1.page_eq] at hsettled
  obtain ⟨n, hsole, hlanded, houtcome⟩ := hs k id outcome hsettled
  refine ⟨n, ?_, (hlanded.evolves h.1.evolves).1, (hlanded.outcome h.1.evolves).trans houtcome⟩
  unfold Sole SentFor
  rw [h.2]
  exact hsole

omit [DecidableEq κ] in
theorem Current.network (hs : Current page s) (h : recordEnv (Browser.Network serves others) s s') :
    Current page s' := by
  intro n f' hf' hrefresh hpending
  have hn := (h.1.evolves.fresh n f' hf').resolve_right id
  obtain ⟨f, hf, hthread, hrequest, hwas⟩ := pending_before h.1.evolves hf' hn hpending
  obtain ⟨id, hpromise, hsent⟩ := hs n f hf (hrequest ▸ hrefresh) hwas
  rw [hthread, h.1.page_eq]
  exact ⟨id, hpromise, hsent.mono fun e he => h.2 ▸ he⟩

end environment

/-! ### All runs -/

section runs

variable [DecidableEq ι] {serves : Browser σ ι κ μ → Flight ι μ → Response → μ → σ → Prop}
  {others : Browser σ ι κ μ → σ → Prop} {flow : ι → Flow}
  {P P' : Pool WebEff (Traced σ ι κ μ) ι (Except Failure (Option Json))}

/-- Pages that were just loaded, of which nothing is on its way. -/
structure Loaded (s : Traced σ ι κ μ) : Prop where
  trace : s.trace = []
  flights : s.now.flights = []
  promise : ∀ k, (s.now.page k).refreshPromise = none
  refreshes : ∀ k, (s.now.page k).refreshes = []

omit [DecidableEq κ] [DecidableEq ι] in
theorem numbered_loaded (h : Loaded s) : Numbered page s where
  waiting k id hpromise := by
    rw [h.promise] at hpromise
    cases hpromise
  sent k id n hsent := by
    obtain ⟨e, he, -⟩ := hsent
    rw [h.trace] at he
    cases he

omit [DecidableEq κ] [DecidableEq ι] in
theorem honoured_loaded (h : Loaded s) : Honoured page s := by
  intro k id outcome hsettled
  unfold Browser.settled at hsettled
  rw [h.refreshes] at hsettled
  cases hsettled

omit [DecidableEq κ] [DecidableEq ι] in
theorem current_loaded (h : Loaded s) : Current page s := by
  intro n f hf
  rw [h.flights] at hf
  cases hf

/-- In every run of flows on pages that were just loaded, every call finds promises that were settled with
what their requests came to. -/
theorem promises_run
    (hr : Pool.Run (record (Browser.exec page)) (recordEnv (Browser.Network serves others))
      (fun i op s => s.now.Ready page i op) P P')
    (hflow : ∀ i, P.thread i = (flow i).prog) (hguards : ∀ i, Guards (flow i)) (hloaded : Loaded P.state) :
    Pool.Run (record (Browser.exec page)) (recordEnv (Browser.Network serves others))
      (fun i op s => s.now.Ready page i op ∧ Honoured page s ∧ Current page s) P P' := by
  obtain ⟨hguarded, -⟩ := guarded_recorded (fun _ _ h => h) (fun _ _ _ h => h) hr hflow hguards
    hloaded.trace hloaded.flights
  have hnumbered := hguarded.with_invariant (I := fun s => Numbered page s ∧ s.now.Orderly)
    (fun i op s _ hs => ⟨hs.1.step, hs.2.exec op⟩) (fun s s' h hs => ⟨hs.1.network h, hs.2.network h.1⟩)
    ⟨numbered_loaded hloaded, Browser.orderly_start hloaded.flights⟩
  have hfaithful := Pool.Run.guaranteed (Γ := promiseRules page) (Q := fun _ _ _ => True)
    (fun i op s h => ⟨h.1.1.1.1, h.2⟩) (fun i j hij op s h _ => heeds_record hij h.1.1.1.2 h.1.1.2)
    (fun j s s' h => heeds_network h) hnumbered fun i => by
      rw [hflow i]
      exact flow_faithful (flow i)
  have hhonoured := hfaithful.with_invariant (I := fun s => Honoured page s ∧ Current page s)
    (fun i op s h hs => ⟨hs.1.step h.1.2.1 h.2, hs.2.step h.1.1.1.1.2 h.1.1.2 h.1.1.1.2⟩)
    (fun s s' h hs => ⟨hs.1.network h, hs.2.network h⟩) ⟨honoured_loaded hloaded, current_loaded hloaded⟩
  exact hhonoured.mono fun i op s h => ⟨h.1.1.1.1.1.1, h.2⟩

end runs

end SuperAdmin.SingleFlight
