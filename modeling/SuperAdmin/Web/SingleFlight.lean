import SuperAdmin.Web.Wire

/-! # One refresh of a page at a time

`refreshPromise` is the guard of `http.ts`: the thread that finds it empty sends the refresh, and it is
not emptied before that thread has got its answer.  So at most one refresh of a page is on its way,
whatever its threads are.  The guard is a variable of the page: it says nothing about two pages. -/

namespace SuperAdmin.SingleFlight

open Effects Http Web

variable {σ ι κ μ : Type}

/-- A request that is routed to `Refresh`. -/
def IsRefresh (f : Fetch) : Prop := ∃ id, matchRoute f.method f.path = some (.refresh, id)

/-- No request of a thread is on its way. -/
def Idle (i : ι) (s : Browser σ ι κ μ) : Prop :=
  ∀ (n : ℕ) (f : Flight ι μ), s.flights[n]? = some f → f.thread = i → f.outcome ≠ .pending

/-- The flights of a list are the same, or go on without a new one of a thread. -/
theorem Idle.evolves {i : ι} {s s' : Browser σ ι κ μ} (h : Idle i s)
    (hev : Evolves (fun j _ => j ≠ i) s.flights s'.flights) : Idle i s' := by
  intro n f' hf' hthread hpending
  rcases hev.fresh n f' hf' with hlt | hother
  · obtain ⟨f, hf, hflight⟩ := hev.before hf' hlt
    have hdone := h n f hf (hflight.thread.symm.trans hthread)
    rw [hflight.outcome hdone] at hpending
    exact hdone hpending
  · exact hother hthread

/-! ### The owner of a promise -/

/-- A state with the calls that led to it. -/
abbrev Traced (σ ι κ μ : Type) : Type := Recorded WebEff (Browser σ ι κ μ) ι

variable {page : ι → κ}

/-- A call that created the promise `id` of its page. -/
def Creates (page : ι → κ) (e : Effects.Event WebEff (Browser σ ι κ μ) ι) (id : ℕ) : Prop :=
  e.op = .joinRefresh ∧ (e.before.page (page e.tid)).refreshPromise = none ∧
    (e.before.page (page e.tid)).refreshes.length = id

/-- A thread has created the promise `id` of its page. -/
def Owns (page : ι → κ) (i : ι) (id : ℕ) (s : Traced σ ι κ μ) : Prop :=
  ∃ e ∈ s.trace, e.tid = i ∧ Creates page e id

/-- A thread has created the promise that its page waits for. -/
def Settles (page : ι → κ) (i : ι) (id : ℕ) (s : Traced σ ι κ μ) : Prop :=
  Owns page i id s ∧ (s.now.page (page i)).refreshPromise = some id

/-- No two threads own one promise. -/
structure OwnedOnce (page : ι → κ) (s : Traced σ ι κ μ) : Prop where
  lt : ∀ i id, Owns page i id s → id < (s.now.page (page i)).refreshes.length
  unique : ∀ i j id, page i = page j → Owns page i id s → Owns page j id s → i = j

/-! ### The rules of a thread -/

/-- What a thread relies on: the others send no request of it, and leave a promise that it owns alone. -/
structure Follows (page : ι → κ) (i : ι) (s s' : Traced σ ι κ μ) : Prop where
  trace : ∀ e ∈ s.trace, e ∈ s'.trace
  flights : Evolves (fun j _ => j ≠ i) s.now.flights s'.now.flights
  settles : ∀ id, Settles page i id s → (s'.now.page (page i)).refreshPromise = some id

theorem Owns.mono {i : ι} {id : ℕ} {s s' : Traced σ ι κ μ} (htrace : ∀ e ∈ s.trace, e ∈ s'.trace)
    (h : Owns page i id s) : Owns page i id s' := by
  obtain ⟨e, he, hi, hcreates⟩ := h
  exact ⟨e, htrace e he, hi, hcreates⟩

theorem Settles.follows {i : ι} {id : ℕ} {s s' : Traced σ ι κ μ} (h : Settles page i id s)
    (hs : Follows page i s s') : Settles page i id s' := ⟨h.1.mono hs.trace, hs.settles id h⟩

/-- What a thread guarantees: it sends one request at a time, a refresh only for a promise that it owns,
and it settles only such promises. -/
def Guarded (page : ι → κ) (i : ι) (op : WebOp) (s : Traced σ ι κ μ) : Prop :=
  match op with
  | .fetch f => Idle i s.now ∧ (IsRefresh f → ∃ id, Settles page i id s)
  | .settleRefresh id _ => Idle i s.now ∧ Settles page i id s
  | _ => True

/-- The rules of a thread. -/
def rules (page : ι → κ) (i : ι) : Rules WebEff (Traced σ ι κ μ) where
  assume op s := s.now.Ready page i op
  rely := Follows page i
  guar := Guarded page i
  rely_refl _ := ⟨fun _ he => he, .refl _, fun _ h => h.2⟩
  rely_trans h h' := ⟨fun e he => h'.trace e (h.trace e he), h.flights.trans h'.flights,
    fun _ hid => ((hid.follows h).follows h').2⟩

theorem follows_network {serves : Browser σ ι κ μ → Flight ι μ → Response → μ → σ → Prop}
    {others : Browser σ ι κ μ → σ → Prop} {s s' : Traced σ ι κ μ} (j : ι)
    (h : recordEnv (Browser.Network serves others) s s') : Follows page j s s' where
  trace e he := h.2 ▸ he
  flights := h.1.evolves.mono fun _ _ h => h.elim
  settles id hid := by
    rw [h.1.page_eq]
    exact hid.2

/-! ### One request of a thread, one refresh of a page -/

/-- A refresh that is on its way belongs to the promise of its page, and a thread has one request at a
time on its way. -/
structure Single (page : ι → κ) (s : Traced σ ι κ μ) : Prop where
  owner : ∀ (n : ℕ) (f : Flight ι μ), s.now.flights[n]? = some f → IsRefresh f.request →
    f.outcome = .pending → ∃ id, Settles page f.thread id s
  one : ∀ (n m : ℕ) (f g : Flight ι μ), s.now.flights[n]? = some f → s.now.flights[m]? = some g →
    f.thread = g.thread → f.outcome = .pending → g.outcome = .pending → n = m

/-- Of the refreshes of a page at most one is on its way. -/
theorem Single.flight {s : Traced σ ι κ μ} (hs : Single page s) (howned : OwnedOnce page s) {n m : ℕ}
    {f g : Flight ι μ} (hf : s.now.flights[n]? = some f) (hg : s.now.flights[m]? = some g)
    (hpage : page f.thread = page g.thread) (hfetch : IsRefresh f.request) (hfetch' : IsRefresh g.request)
    (hpending : f.outcome = .pending) (hpending' : g.outcome = .pending) : n = m := by
  obtain ⟨id, howns, hpromise⟩ := hs.owner n f hf hfetch hpending
  obtain ⟨id', howns', hpromise'⟩ := hs.owner m g hg hfetch' hpending'
  rw [hpage, hpromise'] at hpromise
  cases hpromise
  have hthread := howned.unique f.thread g.thread id hpage howns howns'
  exact hs.one n m f g hf hg hthread hpending hpending'

/-- A flight that is on its way was on its way before. -/
theorem pending_before {T : ι → Fetch → Prop} {l l' : List (Flight ι μ)} (hev : Evolves T l l') {n : ℕ}
    {f' : Flight ι μ} (hf' : l'[n]? = some f') (hn : n < l.length) (hpending : f'.outcome = .pending) :
    ∃ f, l[n]? = some f ∧ f'.thread = f.thread ∧ f'.request = f.request ∧ f.outcome = .pending := by
  obtain ⟨f, hf, hflight⟩ := hev.before hf' hn
  refine ⟨f, hf, hflight.thread, hflight.request, ?_⟩
  by_contra hdone
  rw [hflight.outcome hdone] at hpending
  exact hdone hpending

/-- A step that sends nothing and settles no promise of a refresh that is on its way. -/
theorem Single.keeps {s s' : Traced σ ι κ μ} (hs : Single page s)
    (hev : Evolves (fun _ _ => False) s.now.flights s'.now.flights)
    (hsettles : ∀ f ∈ s.now.flights, f.outcome = .pending → ∀ id, Settles page f.thread id s →
      Settles page f.thread id s') : Single page s' where
  owner n f' hf' hfetch hpending := by
    have hn := (hev.fresh n f' hf').resolve_right id
    obtain ⟨f, hf, hthread, hrequest, hwas⟩ := pending_before hev hf' hn hpending
    obtain ⟨id, hid⟩ := hs.owner n f hf (hrequest ▸ hfetch) hwas
    rw [hthread]
    exact ⟨id, hsettles f (List.mem_of_getElem? hf) hwas id hid⟩
  one n m f' g' hf' hg' hsame hpending hpending' := by
    have hn := (hev.fresh n f' hf').resolve_right id
    have hm := (hev.fresh m g' hg').resolve_right id
    obtain ⟨f, hf, hthread, -, hwas⟩ := pending_before hev hf' hn hpending
    obtain ⟨g, hg, hthread', -, hwas'⟩ := pending_before hev hg' hm hpending'
    exact hs.one n m f g hf hg (by rw [← hthread, ← hthread', hsame]) hwas hwas'

/-- When a thread sends a refresh, none of its page is on its way. -/
theorem Guarded.alone {i : ι} {f : Fetch} {s : Traced σ ι κ μ} (h : Guarded page i (.fetch f) s)
    (hfetch : IsRefresh f) (howned : OwnedOnce page s) (hs : Single page s) {n : ℕ} {g : Flight ι μ}
    (hg : s.now.flights[n]? = some g) (hrefresh : IsRefresh g.request) (hpage : page g.thread = page i) :
    g.outcome ≠ .pending := by
  intro hpending
  obtain ⟨hidle, howner⟩ := h
  obtain ⟨id, howns, hpromise⟩ := howner hfetch
  obtain ⟨id', howns', hpromise'⟩ := hs.owner n g hg hrefresh hpending
  rw [hpage, hpromise] at hpromise'
  cases hpromise'
  have hthread := howned.unique g.thread i id hpage howns' howns
  exact hidle n g hg hthread hpending

section environment

variable {serves : Browser σ ι κ μ → Flight ι μ → Response → μ → σ → Prop}
  {others : Browser σ ι κ μ → σ → Prop} {env : Browser σ ι κ μ → Browser σ ι κ μ → Prop}

theorem OwnedOnce.network (henv : ∀ s s', env s s' → Browser.Network serves others s s') {s s' : Traced σ ι κ μ}
    (h : recordEnv env s s') (hs : OwnedOnce page s) : OwnedOnce page s' := by
  have howns : ∀ i id, Owns page i id s' → Owns page i id s := fun i id =>
    Owns.mono fun e he => h.2 ▸ he
  refine ⟨fun i id h' => ?_, fun i j id hpage h h' => hs.unique i j id hpage (howns i id h) (howns j id h')⟩
  rw [(henv _ _ h.1).page_eq]
  exact hs.lt i id (howns i id h')

theorem Single.network (henv : ∀ s s', env s s' → Browser.Network serves others s s') {s s' : Traced σ ι κ μ}
    (h : recordEnv env s s') (hs : Single page s) : Single page s' := by
  have hfollows : ∀ i, Follows page i s s' := fun i => follows_network i ⟨henv _ _ h.1, h.2⟩
  exact hs.keeps (henv _ _ h.1).evolves fun f _ _ id hid => hid.follows (hfollows f.thread)

end environment

theorem idle_start {s : Browser σ ι κ μ} (h : s.flights = []) (i : ι) : Idle i s := by
  intro n f hf
  rw [h] at hf
  cases hf

theorem ownedOnce_start (s : Browser σ ι κ μ) : OwnedOnce page (⟨s, []⟩ : Traced σ ι κ μ) where
  lt i id h := by
    obtain ⟨e, he, -⟩ := h
    cases he
  unique i j id _ h _ := by
    obtain ⟨e, he, -⟩ := h
    cases he

theorem single_start {s : Browser σ ι κ μ} (h : s.flights = []) :
    Single page (⟨s, []⟩ : Traced σ ι κ μ) where
  owner n f hf _ hpending := absurd hpending (idle_start h f.thread n f hf rfl)
  one n _ f _ hf _ _ hpending _ := absurd hpending (idle_start h f.thread n f hf rfl)

/-- Between its calls a thread has no request on its way, and it owns the promise that it is to settle. -/
structure Between (page : ι → κ) (i : ι) (o : Option ℕ) (s : Traced σ ι κ μ) : Prop where
  idle : Idle i s.now
  settles : ∀ id, o = some id → Settles page i id s

theorem Between.follows {i : ι} {o : Option ℕ} {s s' : Traced σ ι κ μ} (h : Between page i o s)
    (hs : Follows page i s s') : Between page i o s' where
  idle := h.idle.evolves hs.flights
  settles id hid := (h.settles id hid).follows hs

/-! ### The steps -/

variable [DecidableEq κ]

/-- Only two operations change the promise of a page. -/
theorem exec_refreshPromise {i : ι} {op : WebOp} (s : Browser σ ι κ μ) (hjoin : op ≠ .joinRefresh)
    (hsettle : ∀ id outcome, op ≠ .settleRefresh id outcome) (k : κ) :
    ((Browser.exec page i op s).2.page k).refreshPromise = (s.page k).refreshPromise := by
  cases op with
  | joinRefresh => exact absurd rfl hjoin
  | settleRefresh id outcome => exact absurd rfl (hsettle id outcome)
  | setSession token user | clearSession | updateAccessToken token =>
      by_cases hk : k = page i
      · subst hk
        simp [Browser.exec, Browser.onPage]
      · simp [Browser.exec, Browser.onPage, Function.update_of_ne hk]
  | _ => rfl

/-- A page that waits for no refresh gets a new promise. -/
theorem exec_joinRefresh_none {i : ι} {s : Browser σ ι κ μ} (h : (s.page (page i)).refreshPromise = none) :
    Browser.exec page i .joinRefresh s = ((true, (s.page (page i)).refreshes.length),
      s.onPage (page i) fun p => { p with
        refreshPromise := some (s.page (page i)).refreshes.length
        refreshes := p.refreshes ++ [none] }) := by
  simp only [Browser.exec, h]

/-- A page that waits for a refresh joins it. -/
theorem exec_joinRefresh_some {i : ι} {s : Browser σ ι κ μ} {id : ℕ}
    (h : (s.page (page i)).refreshPromise = some id) :
    Browser.exec page i .joinRefresh s = ((false, id), s) := by
  simp only [Browser.exec, h]

/-- The promises of a page are only ever added to. -/
theorem exec_refreshes_length {i : ι} (op : WebOp) (s : Browser σ ι κ μ) (k : κ) :
    (s.page k).refreshes.length ≤ ((Browser.exec page i op s).2.page k).refreshes.length := by
  have honPage : ∀ f : Page → Page, (∀ p, p.refreshes.length ≤ (f p).refreshes.length) →
      (s.page k).refreshes.length ≤ ((s.onPage (page i) f).page k).refreshes.length := by
    intro f hf
    by_cases hk : k = page i
    · subst hk
      simpa [Browser.onPage] using hf _
    · simp [Browser.onPage, Function.update_of_ne hk]
  cases op with
  | setSession token user => exact honPage (fun p => { p with auth := setSession token user }) fun _ => le_refl _
  | clearSession => exact honPage (fun p => { p with auth := clearSession }) fun _ => le_refl _
  | updateAccessToken token =>
      exact honPage (fun p => { p with auth := updateAccessToken token p.auth }) fun _ => le_refl _
  | settleRefresh id outcome =>
      refine honPage (fun p => { p with
        refreshPromise := none, refreshes := p.refreshes.set id (some outcome) }) fun p => ?_
      rw [List.length_set]
  | joinRefresh =>
      cases hpromise : (s.page (page i)).refreshPromise with
      | none =>
          rw [exec_joinRefresh_none hpromise]
          refine honPage (fun p => { p with
            refreshPromise := some (s.page (page i)).refreshes.length
            refreshes := p.refreshes ++ [none] }) fun p => ?_
          rw [List.length_append]
          omega
      | some id => rw [exec_joinRefresh_some hpromise]
  | _ => exact le_refl _

/-- A page waits for its promise until it is settled. -/
theorem exec_refreshPromise_some {i : ι} {op : WebOp} {s : Browser σ ι κ μ} {k : κ} {id : ℕ}
    (h : (s.page k).refreshPromise = some id)
    (hsettle : ∀ id' outcome, op = .settleRefresh id' outcome → k ≠ page i) :
    ((Browser.exec page i op s).2.page k).refreshPromise = some id := by
  cases op with
  | joinRefresh =>
      cases hpromise : (s.page (page i)).refreshPromise with
      | some id' => rwa [exec_joinRefresh_some hpromise]
      | none =>
          have hk : k ≠ page i := by
            rintro rfl
            rw [h] at hpromise
            cases hpromise
          rw [exec_joinRefresh_none hpromise]
          simpa [Browser.onPage, Function.update_of_ne hk] using h
  | settleRefresh id' outcome =>
      have hk := hsettle id' outcome rfl
      simpa [Browser.exec, Browser.onPage, Function.update_of_ne hk] using h
  | _ =>
      rw [exec_refreshPromise s (fun h => by cases h) (fun _ _ h => by cases h)]
      exact h

theorem owns_record {i j : ι} {op : WebOp} {id : ℕ} {s : Traced σ ι κ μ} :
    Owns page j id (record (Browser.exec page) i op s).2 ↔
      Owns page j id s ∨ i = j ∧ Creates page ⟨i, op, s.now⟩ id := by
  unfold Owns
  rw [record_trace]
  constructor
  · rintro ⟨e, he, hj, hcreates⟩
    rw [List.mem_cons] at he
    rcases he with rfl | he
    · exact .inr ⟨hj, hcreates⟩
    · exact .inl ⟨e, he, hj, hcreates⟩
  · rintro (⟨e, he, hj, hcreates⟩ | ⟨hj, hcreates⟩)
    · exact ⟨e, List.mem_cons_of_mem _ he, hj, hcreates⟩
    · exact ⟨_, List.mem_cons_self, hj, hcreates⟩

theorem OwnedOnce.step {i : ι} {op : WebOp} {s : Traced σ ι κ μ} (hs : OwnedOnce page s) :
    OwnedOnce page (record (Browser.exec page) i op s).2 where
  lt j id howns := by
    rw [record_now]
    rcases owns_record.mp howns with hold | ⟨rfl, rfl, hnone, hlength⟩
    · exact lt_of_lt_of_le (hs.lt j id hold) (exec_refreshes_length op s.now _)
    · have hnone : (s.now.page (page i)).refreshPromise = none := hnone
      have hlength : (s.now.page (page i)).refreshes.length = id := hlength
      rw [exec_joinRefresh_none hnone]
      simp [Browser.onPage]
      omega
  unique j j' id hpage howns howns' := by
    -- a new promise has a number that no promise of the page has
    have hfresh : ∀ j, page j = page i → Creates page ⟨i, op, s.now⟩ id → ¬ Owns page j id s := by
      rintro j hj ⟨-, -, hlength⟩ hold
      have hlt := hs.lt j id hold
      have hlength : (s.now.page (page i)).refreshes.length = id := hlength
      rw [hj, hlength] at hlt
      omega
    rcases owns_record.mp howns with hold | ⟨rfl, hcreates⟩
    · rcases owns_record.mp howns' with hold' | ⟨rfl, hcreates'⟩
      · exact hs.unique j j' id hpage hold hold'
      · exact absurd hold (hfresh j hpage hcreates')
    · rcases owns_record.mp howns' with hold' | ⟨rfl, -⟩
      · exact absurd hold' (hfresh j' hpage.symm hcreates)
      · rfl

/-- What a thread guarantees is within what the others rely on. -/
theorem follows_record {i j : ι} {op : WebOp} {s : Traced σ ι κ μ} (hij : i ≠ j) (howned : OwnedOnce page s)
    (hguard : Guarded page i op s) : Follows page j s (record (Browser.exec page) i op s).2 where
  trace _ he := List.mem_cons_of_mem _ he
  flights := Browser.exec_evolves op s.now fun _ _ => hij
  settles id hid := by
    refine exec_refreshPromise_some hid.2 fun id' outcome hop hpage => ?_
    subst hop
    obtain ⟨-, howns, hpromise⟩ := hguard
    rw [← hpage, hid.2] at hpromise
    cases hpromise
    exact hij (howned.unique i j id hpage.symm howns hid.1)

theorem Single.step {i : ι} {op : WebOp} {s : Traced σ ι κ μ} (hs : Single page s)
    (howned : OwnedOnce page s) (hguard : Guarded page i op s) :
    Single page (record (Browser.exec page) i op s).2 := by
  -- an owner of a promise keeps it, unless it settles the promise itself
  have hsettles : ∀ f ∈ s.now.flights, f.outcome = .pending → ∀ id, Settles page f.thread id s →
      Settles page f.thread id (record (Browser.exec page) i op s).2 := by
    intro f hf hpending id hid
    by_cases hthread : i = f.thread
    · refine ⟨hid.1.mono fun _ he => List.mem_cons_of_mem _ he,
        exec_refreshPromise_some hid.2 fun id' outcome hop _ => ?_⟩
      subst hop
      obtain ⟨n, hn⟩ := List.mem_iff_getElem?.mp hf
      exact hguard.1 n f hn hthread.symm hpending
    · exact hid.follows (follows_record hthread howned hguard)
  cases op with
  | fetch f =>
      obtain ⟨hidle, howner⟩ := hguard
      have hflights : (record (Browser.exec page) i (.fetch f) s).2.now.flights = s.now.flights ++ [{
          thread := i, request := f, cookie := if f.attaches then s.now.jar else none }] := rfl
      have hcases : ∀ (n : ℕ) (g : Flight ι μ),
          (record (Browser.exec page) i (.fetch f) s).2.now.flights[n]? = some g →
            s.now.flights[n]? = some g ∨ n = s.now.flights.length ∧ g.thread = i ∧ g.request = f := by
        intro n g hg
        rw [hflights] at hg
        rcases getElem?_sent hg with hold | ⟨hn, rfl⟩
        · exact .inl hold
        · exact .inr ⟨hn, rfl, rfl⟩
      constructor
      · intro n g hg hfetch hpending
        rcases hcases n g hg with hold | ⟨-, hthread, hrequest⟩
        · obtain ⟨id, hid⟩ := hs.owner n g hold hfetch hpending
          exact ⟨id, hsettles g (List.mem_of_getElem? hold) hpending id hid⟩
        · obtain ⟨id, howns, hpromise⟩ := howner (hrequest ▸ hfetch)
          rw [hthread]
          exact ⟨id, howns.mono fun _ he => List.mem_cons_of_mem _ he, hpromise⟩
      · intro n m g g' hg hg' hsame hpending hpending'
        rcases hcases n g hg with hold | ⟨hn, hthread, -⟩
        · rcases hcases m g' hg' with hold' | ⟨-, hthread', -⟩
          · exact hs.one n m g g' hold hold' hsame hpending hpending'
          · exact absurd hpending (hidle n g hold (hsame.trans hthread'))
        · rcases hcases m g' hg' with hold' | ⟨hm, -, -⟩
          · exact absurd hpending' (hidle m g' hold' (hsame.symm.trans hthread))
          · omega
  | _ =>
      refine hs.keeps ?_ hsettles
      rw [record_now, Browser.exec_flights]
      exact .refl _

/-! ### The code of a page -/

section code

variable {i : ι} {o : Option ℕ} {α β : Type} {s : Traced σ ι κ μ}

/-- A program that a thread can run between its calls. -/
def Keeps (σ μ : Type) (page : ι → κ) (i : ι) (o : Option ℕ) (p : WebProc α) : Prop :=
  ∀ s : Traced σ ι κ μ, Between page i o s →
    p.Safe (record (Browser.exec page) i) (rules page i) (fun _ s' => Between page i o s') s

theorem keeps_pure (a : α) : Keeps σ μ page i o (Prog.pure a : WebProc α) :=
  fun _ hs => .pure fun _ h => hs.follows h

theorem keeps_bind {p : WebProc α} {f : α → WebProc β} (hp : Keeps σ μ page i o p)
    (hf : ∀ a, Keeps σ μ page i o (f a)) : Keeps σ μ page i o (p >>= f) :=
  fun s hs => .bind ((hp s hs).mono fun a s' hs' => hf a s' hs')

/-- A call that neither sends a request nor touches a promise. -/
def isQuiet : WebOp → Bool
  | .fetch _ | .joinRefresh | .settleRefresh _ _ => false
  | _ => true

theorem Between.exec {op : WebOp} (hs : Between page i o s) (hop : isQuiet op = true) :
    Between page i o (record (Browser.exec page) i op s).2 where
  idle := by
    have hflights : (record (Browser.exec page) i op s).2.now.flights = s.now.flights := by
      rw [record_now, Browser.exec_flights]
      cases op with
      | fetch f => cases hop
      | _ => rfl
    unfold Idle
    rw [hflights]
    exact hs.idle
  settles id hid := by
    obtain ⟨howns, hpromise⟩ := hs.settles id hid
    refine ⟨howns.mono fun _ he => List.mem_cons_of_mem _ he,
      exec_refreshPromise_some hpromise fun id' outcome h => ?_⟩
    subst h
    cases hop

theorem keeps_perform {op : WebOp} (hop : isQuiet op = true) : Keeps σ μ page i o (Web.perform op) := by
  intro s hs s₁ h₁ _
  refine ⟨?_, ?_⟩
  · cases op with
    | fetch f => cases hop
    | settleRefresh id outcome => cases hop
    | _ => trivial
  · exact fun s' h' => ((hs.follows h₁).exec hop).follows h'

/-- A call and what follows its answer. -/
theorem keeps_step {op : WebOp} {f : op.Res → WebProc β} (hop : isQuiet op = true)
    (hf : ∀ r, Keeps σ μ page i o (f r)) : Keeps σ μ page i o (Web.perform op >>= f) :=
  keeps_bind (keeps_perform hop) hf

/-- A request that is awaited. -/
theorem keeps_fetch {f : Fetch} (hf : IsRefresh f → o.isSome = true) : Keeps σ μ page i o (fetch f) := by
  intro s hs
  refine .step fun s₁ h₁ _ => ?_
  have hs₁ := hs.follows h₁
  refine ⟨⟨hs₁.idle, fun hrefresh => ?_⟩, .step fun s₂ h₂ hready => ⟨trivial, .pure fun s₃ h₃ => ?_⟩⟩
  · obtain ⟨id, hid⟩ := Option.isSome_iff_exists.mp (hf hrefresh)
    exact ⟨id, hs₁.settles id hid⟩
  · have hbetween : Between page i o s₂ := by
      constructor
      · intro n g hg hthread hpending
        rcases h₂.flights.fresh n g hg with hlt | hother
        · obtain ⟨g', hg', hsame, -, hwas⟩ := pending_before h₂.flights hg hlt hpending
          have hg' : (s₁.now.flights ++ [_])[n]? = some g' := hg'
          rcases getElem?_sent hg' with hold | ⟨rfl, -⟩
          · -- what was sent before is done
            exact hs₁.idle n g' hold (hsame.symm.trans hthread) hwas
          · exact hready g hg hpending
        · exact hother hthread
      · intro id hid
        obtain ⟨howns, hpromise⟩ := hs₁.settles id hid
        have hsent : Settles page i id (record (Browser.exec page) i (.fetch f) s₁).2 :=
          ⟨howns.mono fun _ he => List.mem_cons_of_mem _ he, hpromise⟩
        exact hsent.follows h₂
    exact (hbetween.exec rfl).follows h₃

theorem keeps_doRefresh {id : ℕ} : Keeps σ μ page i (some id) doRefresh := by
  refine keeps_bind (keeps_fetch fun _ => rfl) fun r => ?_
  cases r with
  | error e => exact keeps_pure _
  | ok response =>
      dsimp only
      split
      · exact keeps_pure _
      · refine keeps_step rfl fun r => ?_
        cases r with
        | error e => exact keeps_pure _
        | ok body =>
            dsimp only
            cases refreshedToken body with
            | error e => exact keeps_pure _
            | ok token => exact keeps_step rfl fun _ => keeps_pure _

/-- The thread that has created a promise settles it. -/
theorem startRefresh_safe {id : ℕ} (hs : Between page i (some id) s) :
    (startRefresh id).Safe (record (Browser.exec page) i) (rules page i)
      (fun _ s' => Between page i none s') s := by
  refine .bind ((keeps_doRefresh s hs).mono fun outcome s₁ hs₁ s₂ h₂ _ => ?_)
  have hs₂ := hs₁.follows h₂
  refine ⟨⟨hs₂.idle, hs₂.settles id rfl⟩, fun s₃ h₃ => ?_⟩
  have hsettled : Between page i none (record (Browser.exec page) i (.settleRefresh id outcome) s₂).2 :=
    ⟨hs₂.idle, fun _ h => by cases h⟩
  exact hsettled.follows h₃

/-- A thread joins the refresh of its page, or it owns a new one. -/
theorem Between.join (hs : Between page i none s) :
    Between page i none (record (Browser.exec page) i .joinRefresh s).2 ∧
      ((record (Browser.exec page) i .joinRefresh s).1.1 = true →
        Between page i (some (record (Browser.exec page) i .joinRefresh s).1.2)
          (record (Browser.exec page) i .joinRefresh s).2) := by
  have hidle : Idle i (record (Browser.exec page) i .joinRefresh s).2.now := by
    unfold Idle
    rw [record_now, Browser.exec_flights]
    exact hs.idle
  refine ⟨⟨hidle, fun _ h => by cases h⟩, fun hstarted => ⟨hidle, fun id hid => ?_⟩⟩
  rw [record_answer] at hstarted hid
  cases hpromise : (s.now.page (page i)).refreshPromise with
  | some id' =>
      rw [exec_joinRefresh_some hpromise] at hstarted
      cases hstarted
  | none =>
      rw [exec_joinRefresh_none hpromise] at hid
      cases hid
      refine ⟨⟨_, List.mem_cons_self, rfl, rfl, hpromise, rfl⟩, ?_⟩
      rw [record_now, exec_joinRefresh_none hpromise]
      simp [Browser.onPage]

theorem keeps_refreshAccessToken : Keeps σ μ page i none refreshAccessToken := by
  intro s hs
  refine .step fun s₁ h₁ _ => ⟨trivial, ?_⟩
  have hawait : ∀ id, Keeps σ μ page i none (Web.perform (.awaitRefresh id)) := fun id => keeps_perform rfl
  obtain ⟨hjoined, hstarted⟩ := (hs.follows h₁).join
  generalize record (Browser.exec page) i .joinRefresh s₁ = res at hjoined hstarted
  obtain ⟨⟨started, id⟩, s₂⟩ := res
  cases started with
  | false => exact hawait id s₂ hjoined
  | true => exact .bind ((startRefresh_safe (hstarted rfl)).mono fun _ s₃ hs₃ => hawait id s₃ hs₃)

/-! ### The flows -/

variable {path : String} {init : RequestInit}

/-- A request whose path does not lead to `Refresh`. -/
theorem keeps_send (hpath : ∀ id, matchRoute init.method path ≠ some (.refresh, id)) :
    Keeps σ μ page i none (send path init) :=
  keeps_step rfl fun _ => keeps_fetch fun ⟨id, hid⟩ => absurd hid (hpath id)

theorem keeps_unwrap (response : FetchResponse) : Keeps σ μ page i none (unwrap response) := by
  unfold unwrap
  split
  · exact keeps_step rfl fun _ => keeps_pure _
  · split
    · exact keeps_pure _
    · exact keeps_step rfl fun _ => keeps_pure _

theorem keeps_request (hpath : ∀ id, matchRoute init.method path ≠ some (.refresh, id)) :
    Keeps σ μ page i none (request path init) := by
  refine keeps_bind (keeps_send hpath) fun res => ?_
  cases res with
  | error e => exact keeps_pure _
  | ok response =>
      dsimp only
      split
      · refine keeps_bind keeps_refreshAccessToken fun outcome => ?_
        rcases outcome with e | ok
        · exact keeps_pure _
        · cases ok with
          | true =>
              refine keeps_bind (keeps_send hpath) fun res => ?_
              cases res with
              | error e => exact keeps_pure _
              | ok response => exact keeps_unwrap response
          | false => exact keeps_step rfl fun _ => keeps_unwrap response
      · exact keeps_unwrap response

/-- A flow that refreshes only through `refreshAccessToken`. -/
def Guards : Flow → Prop
  | .request path init => ∀ id, matchRoute init.method path ≠ some (.refresh, id)
  | _ => True

theorem keeps_flow {flow : Flow} (hflow : Guards flow) : Keeps σ μ page i none flow.prog := by
  have hother : ∀ {method : Method} {path : String} {route : Route} {init : RequestInit},
      matchRoute method path = some (route, "") → route ≠ .refresh → init.method = method →
        Keeps σ μ page i none (request path init) := by
    rintro method path route init hmatch hroute rfl
    refine keeps_request fun id h => hroute ?_
    rw [hmatch] at h
    cases h
    rfl
  have hlogin : matchRoute .post "/auth/login" = some (.login, "") := by decide
  have hlogout : matchRoute .post "/auth/logout" = some (.logout, "") := by decide
  have hme : matchRoute .get "/me" = some (.me, "") := by decide
  cases flow with
  | request path init => exact keeps_request hflow
  | logout =>
      refine keeps_bind (keeps_bind (hother hlogout (by decide) rfl) fun _ => ?_) fun _ => keeps_pure _
      exact keeps_step rfl fun _ => keeps_pure _
  | login email password =>
      refine keeps_bind (keeps_bind (hother hlogin (by decide) rfl) fun res => ?_) fun _ => keeps_pure _
      cases res with
      | error e => exact keeps_pure _
      | ok body =>
          dsimp only
          cases loginSession body with
          | error e => exact keeps_pure _
          | ok session => exact keeps_step rfl fun _ => keeps_pure _
  | restoreSession =>
      refine keeps_bind (keeps_bind keeps_refreshAccessToken fun outcome => ?_) fun _ => keeps_pure _
      rcases outcome with e | ok
      · exact keeps_pure _
      · cases ok with
        | false => exact keeps_step rfl fun _ => keeps_pure _
        | true =>
            refine keeps_bind (hother hme (by decide) rfl) fun res => ?_
            cases res with
            | error e => exact keeps_step rfl fun _ => keeps_pure _
            | ok me =>
                refine keeps_bind (keeps_step rfl fun auth => ?_) fun _ => keeps_pure _
                cases toAuthUser me with
                | error e => exact keeps_perform rfl
                | ok user => exact keeps_perform rfl

end code

/-! ### All runs -/

section runs

variable [DecidableEq ι] {α : Type} {serves : Browser σ ι κ μ → Flight ι μ → Response → μ → σ → Prop}
  {others : Browser σ ι κ μ → σ → Prop} {env : Browser σ ι κ μ → Browser σ ι κ μ → Prop}
  {C : ι → WebOp → Browser σ ι κ μ → Prop} {flow : ι → Flow}
  {P P' : Pool WebEff (Browser σ ι κ μ) ι (Except Failure (Option Json))}

/-- Along a recorded run every call is guarded, and what the guard keeps single stays so. -/
theorem guarded_recorded {R R' : Pool WebEff (Traced σ ι κ μ) ι (Except Failure (Option Json))}
    (henv : ∀ s s', env s s' → Browser.Network serves others s s')
    (hC : ∀ i op s, C i op s → s.Ready page i op)
    (hr : Pool.Run (record (Browser.exec page)) (recordEnv env) (fun i op s => C i op s.now) R R')
    (hflow : ∀ i, R.thread i = (flow i).prog) (hguards : ∀ i, Guards (flow i)) (htrace : R.state.trace = [])
    (hflights : R.state.now.flights = []) :
    Pool.Run (record (Browser.exec page)) (recordEnv env)
        (fun i op s => ((C i op s.now ∧ OwnedOnce page s) ∧ Guarded page i op s) ∧ Single page s) R R' ∧
      OwnedOnce page R'.state ∧ Single page R'.state := by
  obtain ⟨⟨s, tr⟩, thread⟩ := R
  cases htrace
  have howned₀ : OwnedOnce page (⟨s, []⟩ : Traced σ ι κ μ) := ownedOnce_start _
  have hsingle₀ : Single page (⟨s, []⟩ : Traced σ ι κ μ) := single_start hflights
  -- the owners are single whatever the threads do
  have howned := hr.with_invariant (I := OwnedOnce page) (fun i op s _ hs => hs.step)
    (fun s s' h hs => hs.network henv h) howned₀
  have howned' := hr.invariant (I := OwnedOnce page) (fun i op s _ hs => hs.step)
    (fun s s' h hs => hs.network henv h) howned₀
  -- so the threads do not get in each other's way
  have hguarded := Pool.Run.guaranteed (Γ := rules page) (Q := fun _ _ _ => True)
    (fun i op s h => hC i op s.now h.1) (fun i j hij op s h hguard => follows_record hij h.2 hguard)
    (fun j s s' h => follows_network j ⟨henv _ _ h.1, h.2⟩) howned fun i => by
      rw [hflow i]
      exact (keeps_flow (hguards i) _ ⟨idle_start hflights i, fun _ h => by cases h⟩).mono fun _ _ _ => trivial
  have hsingle := hguarded.with_invariant (I := Single page)
    (fun i op s h hs => hs.step h.1.2 h.2) (fun s s' h hs => hs.network henv h) hsingle₀
  have hsingle' := hguarded.invariant (I := Single page)
    (fun i op s h hs => hs.step h.1.2 h.2) (fun s s' h hs => hs.network henv h) hsingle₀
  exact ⟨hsingle, howned', hsingle'⟩

/-- The recorded version of a run. -/
theorem guarded_run (henv : ∀ s s', env s s' → Browser.Network serves others s s')
    (hC : ∀ i op s, C i op s → s.Ready page i op) (hr : Pool.Run (Browser.exec page) env C P P')
    (hflow : ∀ i, P.thread i = (flow i).prog) (hguards : ∀ i, Guards (flow i))
    (hflights : P.state.flights = []) :
    ∃ tr, Pool.Run (record (Browser.exec page)) (recordEnv env)
        (fun i op s => ((C i op s.now ∧ OwnedOnce page s) ∧ Guarded page i op s) ∧ Single page s)
        ⟨⟨P.state, []⟩, P.thread⟩ ⟨⟨P'.state, tr⟩, P'.thread⟩ ∧
      OwnedOnce page (⟨P'.state, tr⟩ : Traced σ ι κ μ) ∧ Single page (⟨P'.state, tr⟩ : Traced σ ι κ μ) := by
  obtain ⟨tr, hrec⟩ := hr.recorded
  exact ⟨tr, guarded_recorded henv hC hrec hflow hguards rfl hflights⟩

end runs

end SuperAdmin.SingleFlight
