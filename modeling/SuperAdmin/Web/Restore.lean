import SuperAdmin.Web.Outcome
import SuperAdmin.Web.SingleFlight

/-! # Whether the restored session is decided

A page that was just loaded is `checking` until `restoreSession` has asked the server.  What fails after the
first refresh is caught, and the store is decided.  The first refresh stands before the `try`: where it is
rejected, the store is never decided. -/

namespace SuperAdmin.Restore

open Effects Http Web

variable {σ ι κ μ : Type}

/-! ### The first request of a thread -/

/-- The earliest flight of a thread. -/
structure First (i : ι) (n : ℕ) (f : Flight ι μ) (l : List (Flight ι μ)) : Prop where
  there : l[n]? = some f
  thread : f.thread = i
  earliest : ∀ (m : ℕ) (g : Flight ι μ), l[m]? = some g → g.thread = i → n ≤ m

namespace First

variable {i : ι} {n m : ℕ} {f g : Flight ι μ} {l l' : List (Flight ι μ)}

theorem unique (hf : First i n f l) (hg : First i m g l) : f = g := by
  have hle := hf.earliest m g hg.there hg.thread
  have hle' := hg.earliest n f hf.there hf.thread
  obtain rfl : n = m := by omega
  exact Option.some.inj (hf.there.symm.trans hg.there)

theorem evolves {T : ι → Fetch → Prop} (h : First i n f l) (hev : Evolves T l l') :
    ∃ f', First i n f' l' ∧ f.Evolves f' := by
  obtain ⟨f', hf', hflight⟩ := hev.kept n f h.there
  refine ⟨f', ⟨hf', hflight.thread.trans h.thread, fun m g' hg' hgi => ?_⟩, hflight⟩
  by_cases hm : m < l.length
  · obtain ⟨g, hg, hflightg⟩ := hev.before hg' hm
    exact h.earliest m g hg (hflightg.thread ▸ hgi)
  · have hn := (List.getElem?_eq_some_iff.mp h.there).1
    omega

theorem started (hnone : ∀ f ∈ l, f.thread ≠ i) (hf : f.thread = i) : First i l.length f (l ++ [f]) where
  there := List.getElem?_concat_length
  thread := hf
  earliest m g hg hgi := by
    rcases getElem?_sent hg with hold | ⟨rfl, -⟩
    · exact absurd hgi (hnone g (List.mem_of_getElem? hold))
    · exact le_refl _

end First

/-! ### The rules of a thread -/

variable {page : ι → κ} {i : ι}

/-- What a thread that is alone on its page relies on. -/
structure Undisturbed (page : ι → κ) (i : ι) (s s' : Browser σ ι κ μ) : Prop where
  page : s'.page (page i) = s.page (page i)
  flights : Evolves (fun j _ => j ≠ i) s.flights s'.flights
  orderly : s.Orderly → s'.Orderly

/-- The rules of a thread that is alone on its page. -/
def rules (page : ι → κ) (i : ι) : Rules WebEff (Browser σ ι κ μ) where
  assume op s := s.Ready page i op
  rely := Undisturbed page i
  guar _ _ := True
  rely_refl _ := ⟨rfl, .refl _, fun h => h⟩
  rely_trans h h' := ⟨h'.page.trans h.page, h.flights.trans h'.flights, fun ho => h'.orderly (h.orderly ho)⟩

/-- The first request of a thread is over, and a refresh that has sent it would return `outcome`. -/
structure Known (i : ι) (outcome : Except Failure Bool) (n : ℕ) (s : Browser σ ι κ μ) : Prop where
  first : ∃ f, First i n f s.flights
  landed : Landed n s
  outcome : refreshOutcome s n = outcome

theorem Known.evolves {T : ι → Fetch → Prop} {outcome : Except Failure Bool} {n : ℕ} {s s' : Browser σ ι κ μ}
    (h : Known i outcome n s) (hev : Evolves T s.flights s'.flights) : Known i outcome n s' where
  first := by
    obtain ⟨f, hf⟩ := h.first
    obtain ⟨f', hf', -⟩ := hf.evolves hev
    exact ⟨f', hf'⟩
  landed := (h.landed.evolves hev).1
  outcome := (h.landed.outcome hev).trans h.outcome

/-- The answer to the first request of a thread tells whether there is a session. -/
def Told (i : ι) (s : Browser σ ι κ μ) : Prop := ∃ n f, First i n f s.flights ∧ f.Decides

theorem Known.told {outcome : Except Failure Bool} {n : ℕ} {s : Browser σ ι κ μ} (h : Known i outcome n s) :
    Told i s ↔ ∃ b, outcome = .ok b := by
  obtain ⟨f, hf⟩ := h.first
  obtain ⟨f', hf', hover⟩ := h.landed
  obtain rfl : f = f' := Option.some.inj (hf.there.symm.trans hf')
  rw [← h.outcome, refreshOutcome_ok hf' hover]
  constructor
  · rintro ⟨m, g, hg, hdecides⟩
    rwa [hf.unique hg]
  · exact fun hdecides => ⟨n, f, hf, hdecides⟩

/-! ### The code -/

section code

variable [DecidableEq κ] {s : Browser σ ι κ μ}

theorem tracks : Tracks page i (Browser.exec page i) (fun s : Browser σ ι κ μ => s) (rules page i) where
  answer _ _ := rfl
  next _ _ := rfl
  ready _ _ h := h
  flights _ _ h := h.flights.mono fun _ _ _ => trivial
  orderly _ _ h := h.orderly

/-- A page whose first refresh is on its way. -/
def waiting : Page := { refreshPromise := some 0, refreshes := [none] }

/-- The first refresh is on its way, and the request that it has sent is the first of the thread. -/
structure Sent (page : ι → κ) (i : ι) (n : ℕ) (s : Browser σ ι κ μ) : Prop where
  first : ∃ f, First i n f s.flights
  refreshes : (s.page (page i)).refreshes = [none]
  checking : (s.page (page i)).auth.status = .checking

omit [DecidableEq κ] in
theorem Sent.undisturbed {n : ℕ} {s' : Browser σ ι κ μ} (h : Sent page i n s) (hs : Undisturbed page i s s') :
    Sent page i n s' where
  first := by
    obtain ⟨f, hf⟩ := h.first
    obtain ⟨f', hf', -⟩ := hf.evolves hs.flights
    exact ⟨f', hf'⟩
  refreshes := by rw [hs.page, h.refreshes]
  checking := by rw [hs.page, h.checking]

theorem Sent.handles {n : ℕ} {op : WebOp} (hop : op.handlesResponse) (h : Sent page i n s) :
    Sent page i n (Browser.exec page i op s).2 where
  first := by
    rw [handlesResponse_flights hop]
    exact h.first
  refreshes := by
    cases op with
    | updateAccessToken token => simpa [Browser.exec, Browser.onPage] using h.refreshes
    | response n | json n => exact h.refreshes
    | _ => exact hop.elim
  checking := by
    cases op with
    | updateAccessToken token => simpa [Browser.exec, Browser.onPage, updateAccessToken] using h.checking
    | response n | json n => exact h.checking
    | _ => exact hop.elim

omit [DecidableEq κ] in
theorem mine_undisturbed {s' : Browser σ ι κ μ} (hnone : ∀ f ∈ s.flights, f.thread ≠ i)
    (hs : Undisturbed page i s s') : ∀ f ∈ s'.flights, f.thread ≠ i := by
  intro f hf hthread
  obtain ⟨n, hn⟩ := List.mem_iff_getElem?.mp hf
  rcases hs.flights.fresh n f hn with hlt | hother
  · obtain ⟨g, hg, hflight⟩ := hs.flights.before hn hlt
    exact hnone g (List.mem_of_getElem? hg) (hflight.thread.symm.trans hthread)
  · exact hother hthread

theorem refresh_safe (hpage : s.page (page i) = waiting) (hnone : ∀ f ∈ s.flights, f.thread ≠ i)
    (horderly : s.Orderly) : doRefresh.Safe (Browser.exec page i) (rules page i)
      (fun outcome s' => ∃ n, Sent page i n s' ∧ Landed n s' ∧ refreshOutcome s' n = outcome) s := by
  apply doRefresh_safe tracks (A := fun s => s.page (page i) = waiting ∧ ∀ f ∈ s.flights, f.thread ≠ i)
  · rintro s s' hs ⟨hpage, hnone⟩
    exact ⟨by rw [hs.page, hpage], mine_undisturbed hnone hs⟩
  · exact fun n s s' hs h => h.undisturbed hs
  · rintro s - ⟨hpage, hnone⟩
    refine ⟨trivial, ⟨_, .started hnone rfl⟩, ?_, ?_⟩
    · show (s.page (page i)).refreshes = [none]
      rw [hpage]
      rfl
    · show (s.page (page i)).auth.status = .checking
      rw [hpage]
      rfl
  · exact fun n op s hop _ h => ⟨trivial, h.handles hop⟩
  · exact ⟨hpage, hnone⟩
  · exact horderly

/-- The refresh of a page that is alone returns what its request says, and leaves the store undecided. -/
theorem refreshAccessToken_safe (hpage : s.page (page i) = {}) (hnone : ∀ f ∈ s.flights, f.thread ≠ i)
    (horderly : s.Orderly) :
    refreshAccessToken.Safe (Browser.exec page i) (rules page i)
      (fun outcome s' => (∃ n, Known i outcome n s') ∧ (s'.page (page i)).auth.status = .checking) s := by
  refine .step fun s₁ h₁ _ => ⟨trivial, ?_⟩
  have hpromise : (s₁.page (page i)).refreshPromise = none := by rw [h₁.page, hpage]
  have hnone₁ := mine_undisturbed hnone h₁
  have hid : (s₁.page (page i)).refreshes.length = 0 := by
    rw [h₁.page, hpage]
    rfl
  rw [SingleFlight.exec_joinRefresh_none hpromise, hid]
  have hwaiting : ((s₁.onPage (page i) fun p => { p with
      refreshPromise := some 0, refreshes := p.refreshes ++ [none] }).page (page i)) = waiting := by
    simp [Browser.onPage, h₁.page, hpage, waiting]
  have horderly₂ : (s₁.onPage (page i) fun p => { p with
      refreshPromise := some 0, refreshes := p.refreshes ++ [none] }).Orderly := h₁.orderly horderly
  have hnone₂ : ∀ f ∈ (s₁.onPage (page i) fun p => { p with
      refreshPromise := some 0, refreshes := p.refreshes ++ [none] }).flights, f.thread ≠ i := hnone₁
  generalize (s₁.onPage (page i) fun p => { p with
      refreshPromise := some 0, refreshes := p.refreshes ++ [none] }) = s₂ at hwaiting horderly₂ hnone₂ ⊢
  dsimp only
  rw [if_pos rfl]
  refine .bind (.bind ((refresh_safe hwaiting hnone₂ horderly₂).mono fun outcome s₃ h₃ => ?_))
  obtain ⟨n, hsent, hlanded, houtcome⟩ := h₃
  intro s₄ h₄ _
  refine ⟨trivial, fun s₅ h₅ => ?_⟩
  have hknown : Known i outcome n s₅ := by
    have hknown₃ : Known i outcome n s₃ := ⟨hsent.first, hlanded, houtcome⟩
    have hknown₄ : Known i outcome n (Browser.exec page i (.settleRefresh 0 outcome) s₄).2 :=
      hknown₃.evolves h₄.flights
    exact hknown₄.evolves h₅.flights
  have hsettled : (s₅.page (page i)).refreshes = [some outcome] := by
    rw [h₅.page]
    simp [Browser.exec, Browser.onPage, h₄.page, hsent.refreshes]
  have hchecking : (s₅.page (page i)).auth.status = .checking := by
    rw [h₅.page]
    simp [Browser.exec, Browser.onPage, h₄.page, hsent.checking]
  intro s₆ h₆ _
  refine ⟨trivial, fun s₇ h₇ => ?_⟩
  have hanswer : (Browser.exec page i (.awaitRefresh 0) s₆).1 = outcome := by
    simp [Browser.exec, Browser.settled, h₆.page, hsettled]
  rw [hanswer]
  refine ⟨⟨n, (hknown.evolves h₆.flights).evolves h₇.flights⟩, ?_⟩
  rw [h₇.page]
  show (s₆.page (page i)).auth.status = .checking
  rw [h₆.page, hchecking]

/-- What follows the first refresh keeps what is known of it. -/
theorem known_safe {α : Type} {outcome : Except Failure Bool} {n : ℕ} (p : WebProc α)
    (hknown : Known i outcome n s) :
    p.Safe (Browser.exec page i) (rules page i) (fun _ s' => Known i outcome n s') s := by
  refine ((Prog.only_true p).safe (Prog.returns_true p) (I := Known i outcome n) ?_ ?_ hknown).mono
    fun _ _ h => h.2
  · exact fun s s' hs h => h.evolves hs.flights
  · exact fun op s _ _ h => ⟨trivial, h.evolves (Browser.exec_evolves (T := fun _ _ => True) op s fun _ _ => trivial)⟩

/-- The first refresh of a page has settled, and the store is decided exactly if it was resolved. -/
def Settled (page : ι → κ) (i : ι) (s : Browser σ ι κ μ) : Prop :=
  ∃ outcome n, Known i outcome n s ∧
    ((s.page (page i)).auth.status ≠ .checking ↔ ∃ b, outcome = .ok b)

omit [DecidableEq κ] in
theorem Settled.undisturbed {s' : Browser σ ι κ μ} (h : Settled page i s) (hs : Undisturbed page i s s') :
    Settled page i s' := by
  obtain ⟨outcome, n, hknown, hiff⟩ := h
  refine ⟨outcome, n, hknown.evolves hs.flights, ?_⟩
  rw [hs.page]
  exact hiff

/-- A call that decides the store. -/
theorem decides_safe {b : Bool} {n : ℕ} {op : WebOp} (hop : ∀ a, (op.store a).status ≠ .checking)
    (hknown : Known i (.ok b) n s) :
    (Web.perform op).Safe (Browser.exec page i) (rules page i) (fun _ s' => Settled page i s') s := by
  intro s₁ h₁ _
  refine ⟨trivial, fun s₂ h₂ => ?_⟩
  have hsettled : Settled page i (Browser.exec page i op s₁).2 := by
    have hev : Evolves (fun _ _ => True) s₁.flights (Browser.exec page i op s₁).2.flights :=
      Browser.exec_evolves op s₁ fun _ _ => trivial
    refine ⟨.ok b, n, (hknown.evolves h₁.flights).evolves hev, iff_of_true ?_ ⟨b, rfl⟩⟩
    rw [Browser.exec_auth, if_pos rfl]
    apply hop
  exact hsettled.undisturbed h₂

theorem restoreUser_safe {n : ℕ} (me : Option Json) (hknown : Known i (.ok true) n s) :
    (restoreUser me).Safe (Browser.exec page i) (rules page i) (fun _ s' => Settled page i s') s := by
  refine .bind ((known_safe (Web.perform .getAuthState) hknown).mono fun auth s' hknown' => ?_)
  cases toAuthUser me with
  | error e => exact decides_safe (fun _ h => by cases h) hknown'
  | ok user => exact decides_safe (fun _ h => by cases h) hknown'

theorem restoreSession_safe (hpage : s.page (page i) = {}) (hnone : ∀ f ∈ s.flights, f.thread ≠ i)
    (horderly : s.Orderly) :
    restoreSession.Safe (Browser.exec page i) (rules page i) (fun _ s' => Settled page i s') s := by
  have hpure : ∀ (res : Except Failure Unit) (s' : Browser σ ι κ μ), Settled page i s' →
      (Prog.pure res : WebProc _).Safe (Browser.exec page i) (rules page i)
        (fun _ s' => Settled page i s') s' := fun _ s' h => .pure fun _ hs => h.undisturbed hs
  refine .bind ((refreshAccessToken_safe hpage hnone horderly).mono fun outcome s' h => ?_)
  obtain ⟨⟨n, hknown⟩, hchecking⟩ := h
  rcases outcome with e | ok
  · -- nothing catches this
    refine hpure _ _ ⟨.error e, n, hknown, iff_of_false (fun h => h hchecking) ?_⟩
    rintro ⟨b, hb⟩
    cases hb
  · cases ok with
    | false =>
        refine .bind ((decides_safe (fun _ h => by cases h) hknown).mono fun _ s₁ h₁ => ?_)
        exact hpure _ _ h₁
    | true =>
        refine .bind ((known_safe (request "/me" {}) hknown).mono fun res s₁ hknown₁ => ?_)
        cases res with
        | error e =>
            refine .bind ((decides_safe (fun _ h => by cases h) hknown₁).mono fun _ s₂ h₂ => ?_)
            exact hpure _ _ h₂
        | ok me =>
            refine .bind ((restoreUser_safe me hknown₁).mono fun _ s₂ h₂ => ?_)
            exact hpure _ _ h₂

/-- An operation leaves the other pages alone. -/
theorem exec_page_of_ne {j : ι} {k : κ} (hk : k ≠ page j) (op : WebOp) :
    (Browser.exec page j op s).2.page k = s.page k := by
  cases op with
  | joinRefresh =>
      simp only [Browser.exec]
      split
      · rfl
      · simp [Browser.onPage, Function.update_of_ne hk]
  | setSession token user | clearSession | updateAccessToken token | settleRefresh id outcome =>
      simp [Browser.exec, Browser.onPage, Function.update_of_ne hk]
  | _ => rfl

end code

/-! ### All runs -/

section runs

variable [DecidableEq ι] [DecidableEq κ] {serves : Browser σ ι κ μ → Flight ι μ → Response → μ → σ → Prop}
  {others : Browser σ ι κ μ → σ → Prop}
  {P P' : Pool WebEff (Browser σ ι κ μ) ι (Except Failure (Option Json))}

/-- **Session restore.**  A page was loaded and runs `restoreSession` alone, and whatever the network and the
server do, it has settled: the store is decided exactly if the first refresh was answered, and the body of a
success has its data. -/
theorem restore_decides_iff
    (hr : Pool.Run (Browser.exec page) (Browser.Network serves others) (fun i op s => s.Ready page i op) P P')
    (hthread : P.thread i = Flow.restoreSession.prog) (halone : ∀ j, page j = page i → j = i)
    (hpage : P.state.page (page i) = {}) (hflights : P.state.flights = [])
    {res : Except Failure (Option Json)} (hdone : P'.thread i = .pure res) :
    (P'.state.page (page i)).auth.status ≠ .checking ↔ Told i P'.state := by
  have hothers : ∀ (j : ι) (op : WebOp) (s : Browser σ ι κ μ), j ≠ i → s.Ready page j op →
      Undisturbed page i s (Browser.exec page j op s).2 := by
    intro j op s hj _
    refine ⟨exec_page_of_ne (fun h => hj (halone j h.symm)) op, ?_, fun h => h.exec op⟩
    exact Browser.exec_evolves op s fun _ _ => hj
  have hnetwork : ∀ s s', Browser.Network serves others s s' → Undisturbed page i s s' := by
    intro s s' hs
    exact ⟨by rw [hs.page_eq], hs.evolves.mono fun _ _ h => h.elim, fun h => h.network hs⟩
  have hnone : ∀ f ∈ P.state.flights, f.thread ≠ i := by simp [hflights]
  have hsafe : (P.thread i).Safe (Browser.exec page i) (rules page i) (fun _ s => Settled page i s)
      P.state := by
    rw [hthread]
    refine .bind ((restoreSession_safe hpage hnone (Browser.orderly_start hflights)).mono fun _ s h => ?_)
    exact .pure fun s' hs => h.undisturbed hs
  obtain ⟨outcome, n, hknown, hiff⟩ :=
    Pool.Run.thread_result (C := fun i op s => s.Ready page i op) (fun _ _ h => h) hothers hnetwork hr hsafe hdone
  rw [hiff, hknown.told]

end runs

/-! ### Two loads of a page -/

/-- A page that was just loaded. -/
def loaded : Pool WebEff (Browser Unit Unit Unit Unit) Unit (Except Failure (Option Json)) where
  state := { server := (), jar := none, page := fun _ => {}, flights := [] }
  thread _ := Flow.restoreSession.prog

/-- The server has no session for the page. -/
def turnedAway : List (Event Unit Unit Unit) := [
  .act (), .act (), .serve 0 (.error (.sentinel .unauthenticated)) () (), .arrive 0 true, .act (), .act (),
  .act (), .act ()]

theorem turnedAway_allowed : Event.AllAllowed (fun _ => ()) (fun i op s => s.Ready (fun _ => ()) i op)
    (fun _ _ _ _ _ => True) turnedAway loaded := by
  refine ⟨trivial, trivial, ⟨_, rfl, rfl, trivial⟩, ⟨_, _, rfl, rfl, rfl⟩, ?_, trivial, rfl, trivial, trivial⟩
  rintro f ⟨⟩ hpending
  cases hpending

theorem decided_turnedAway :
    ((Event.play (fun _ => ()) turnedAway loaded).state.page ()).auth.status ≠ .checking := by
  have hrun : Pool.Run (Browser.exec fun _ => ()) (Browser.Network (fun _ _ _ _ _ => True) fun _ _ => False)
      (fun i op s => s.Ready (fun _ => ()) i op) loaded _ := Event.play_run turnedAway_allowed
  refine (restore_decides_iff (i := ()) hrun rfl (fun _ _ => rfl) rfl rfl rfl).mpr ⟨0, _, ⟨rfl, rfl, ?_⟩, ?_⟩
  · exact fun m _ _ _ => Nat.zero_le m
  · exact ⟨_, (), true, rfl, rfl, fun hok => absurd hok (by decide)⟩

/-- The network is down. -/
def offline : List (Event Unit Unit Unit) := [.act (), .act (), .fail 0, .act (), .act (), .act ()]

theorem offline_allowed : Event.AllAllowed (fun _ => ()) (fun i op s => s.Ready (fun _ => ()) i op)
    (fun _ _ _ _ _ => True) offline loaded := by
  refine ⟨trivial, trivial, ⟨_, rfl, rfl⟩, ?_, trivial, rfl, trivial⟩
  rintro f ⟨⟩ hpending
  cases hpending

/-- The page stays empty. -/
theorem undecided_offline : ¬ ∀ (P P' : Pool WebEff (Browser Unit Unit Unit Unit) Unit (Except Failure (Option Json)))
    (res : Except Failure (Option Json)),
    Pool.Run (Browser.exec fun _ => ()) (Browser.Network (fun _ _ _ _ _ => True) fun _ _ => False)
      (fun i op s => s.Ready (fun _ => ()) i op) P P' →
    P.thread () = Flow.restoreSession.prog → P.state.page () = {} → P.state.flights = [] →
    P'.thread () = .pure res → (P'.state.page ()).auth.status ≠ .checking := by
  intro hclaim
  exact hclaim loaded _ _ (Event.play_run offline_allowed) rfl rfl rfl rfl rfl

end SuperAdmin.Restore
