import SuperAdmin.Sample

/-! # A refresh token is exchanged once

Every call of `Refresh` that returns a pair has marked the token used (`refresh_marks`), and a
row is marked by at most one call as long as each `MarkUsed` finds its row unused
(`MarkedOnce`).  Nothing in the code makes it find it so: the update is conditional, but its
row count is not read, and two calls that have both read the token as unused both return a
pair. -/

namespace SuperAdmin.Rotation

open Effects Usecase

variable {d : Deps} {ι : Type}

/-- A `MarkUsed` is executed on a row that is still unused. -/
def marksUnused : Op → World d → Bool
  | .tokens (.markUsed id _ _), w => w.tokens.rows.any fun t => t.id == id && !t.isUsed
  | _, _ => true

theorem marksUnused_markUsed {id replacedBy : UUID} {now : Time} {w : World d} :
    marksUnused (.tokens (.markUsed id replacedBy now)) w = true ↔
      ∃ t ∈ w.tokens.rows, t.id = id ∧ t.isUsed = false := by
  simp [marksUnused]

/-- An executed call that marked the row `id` used. -/
def Marks (e : Event Eff (World d) ι) (id : UUID) : Prop :=
  ∃ replacedBy now, e.op = .tokens (.markUsed id replacedBy now) ∧
    (TokensOp.exec e.before.hasUser e.before.clock (.markUsed id replacedBy now) e.before.tokens).1 =
      .ok ()

/-! ### A row is marked once -/

/-- The rows that were marked are used, and none of them was marked twice. -/
structure MarkedOnce (s : Recorded Eff (World d) ι) : Prop where
  used : ∀ e ∈ s.trace, ∀ id, Marks e id → ∃ t ∈ s.now.tokens.rows, t.id = id ∧ t.isUsed = true
  once : s.trace.Pairwise fun e e' => ∀ id, Marks e id → ¬ Marks e' id

theorem markedOnce_step (draws : ι → Draws) {i : ι} {op : Op} {s : Recorded Eff (World d) ι}
    (hop : op.keepsRows = true) (hmark : marksUnused op s.now = true) (hs : MarkedOnce s) :
    MarkedOnce (record (fun i => exec d (draws i)) i op s).2 where
  used := by
    intro e he id hm
    rw [record_trace, List.mem_cons] at he
    rcases he with rfl | he
    · obtain ⟨replacedBy, now, hop', hok⟩ := hm
      dsimp only at hop' hok
      subst hop'
      -- the row that the condition provides is used afterwards
      obtain ⟨t, ht, hid, -⟩ := marksUnused_markUsed.mp hmark
      obtain ⟨u, hu, htu⟩ := grows_exec (r := draws i) (w := s.now) hop t ht
      have huid : u.id = id := htu.id.trans hid
      exact ⟨u, hu, huid, TokensOp.markUsed_used hok hu huid⟩
    · obtain ⟨t, ht, hid, hused⟩ := hs.used e he id hm
      obtain ⟨u, hu, htu⟩ := grows_exec (r := draws i) hop t ht
      exact ⟨u, hu, htu.id.trans hid, htu.used hused⟩
  once := by
    rw [record_trace, List.pairwise_cons]
    refine ⟨fun e he id hm hm' => ?_, hs.once⟩
    obtain ⟨replacedBy, now, hop', -⟩ := hm
    dsimp only at hop'
    subst hop'
    obtain ⟨t, ht, hid, hunused⟩ := marksUnused_markUsed.mp hmark
    obtain ⟨u, hu, huid, hused⟩ := hs.used e he id hm'
    have heq : t = u := TokenTable.eq_of_id ht hu (hid.trans huid.symm)
    rw [heq, hused] at hunused
    cases hunused

/-! ### A pair is returned only after a mark -/

/-- Steps that keep the rows and extend the trace. -/
structure Follows (s s' : Recorded Eff (World d) ι) : Prop where
  grows : s.now.tokens.Grows s'.now.tokens
  trace : ∀ e ∈ s.trace, e ∈ s'.trace

theorem Follows.refl (s : Recorded Eff (World d) ι) : Follows s s := ⟨.refl _, fun _ h => h⟩

theorem Follows.trans {a b c : Recorded Eff (World d) ι} (h₁ : Follows a b) (h₂ : Follows b c) :
    Follows a c := ⟨h₁.grows.trans h₂.grows, fun e he => h₂.trace e (h₁.trace e he)⟩

/-- A thread that keeps the rows, among threads that keep the rows. -/
def rules : Rules Eff (Recorded Eff (World d) ι) where
  assume op _ := op.keepsRows = true
  rely := Follows
  guar _ _ := True
  rely_refl := Follows.refl
  rely_trans := Follows.trans

theorem follows_record (draws : ι → Draws) (i : ι) {op : Op} {s : Recorded Eff (World d) ι}
    (h : op.keepsRows = true) : Follows s (record (fun i => exec d (draws i)) i op s).2 where
  grows := grows_exec h
  trace := fun _ he => List.mem_cons_of_mem _ he

/-- Thread `i` has marked the row of a hash. -/
def MarkedBy (hash : Bytes) (i : ι) (s : Recorded Eff (World d) ι) : Prop :=
  ∃ e ∈ s.trace, e.tid = i ∧ ∃ t ∈ s.now.tokens.rows, t.tokenHash = hash ∧ Marks e t.id

theorem MarkedBy.follows {hash : Bytes} {i : ι} {s s' : Recorded Eff (World d) ι}
    (h : MarkedBy hash i s) (hs : Follows s s') : MarkedBy hash i s' := by
  obtain ⟨e, he, hi, t, ht, hhash, hm⟩ := h
  obtain ⟨u, hu, htu⟩ := hs.grows t ht
  refine ⟨e, hs.trace e he, hi, u, hu, htu.tokenHash.trans hhash, ?_⟩
  rwa [htu.id]

/-- What a returned pair says about the past. -/
def MarkedIfPair (hash : Bytes) (i : ι) (res : Except Error TokenPair)
    (s : Recorded Eff (World d) ι) : Prop := ∀ pair, res = .ok pair → MarkedBy hash i s

theorem markedIfPair_error (hash : Bytes) (i : ι) (e : Error) (s : Recorded Eff (World d) ι) :
    MarkedIfPair hash i (.error e) s := fun _ h => by cases h

section refresh

variable (draws : ι → Draws) (i : ι) (rc : RequestContext) {s : Recorded Eff (World d) ι}

/-- Whatever keeps the rows keeps a property that such steps keep. -/
theorem keepsRows_safe {α : Type} {p : Proc α} {R : α → Prop}
    {I : Recorded Eff (World d) ι → Prop} (hp : KeepsRows p) (hres : p.Returns R)
    (hI : ∀ s s', Follows s s' → I s → I s') (hs : I s) :
    p.Safe (record (fun i => exec d (draws i)) i) rules (fun a s' => R a ∧ I s') s :=
  hp.safe hres hI
    (fun _ _ hop _ hs => ⟨trivial, hI _ _ (follows_record draws i hop) hs⟩) hs

theorem refreshRotate_marks (stored : RefreshToken) (user : SuperAdminUser) (now : Time)
    {hash : Bytes}
    (hstored : ∃ t ∈ s.now.tokens.rows, t.id = stored.id ∧ t.tokenHash = hash) :
    (Auth.refreshRotate d stored user rc now).Safe (record (fun i => exec d (draws i)) i) rules
      (MarkedIfPair hash i) s := by
  have hkept : ∀ s s' : Recorded Eff (World d) ι, Follows s s' →
      (∃ t ∈ s.now.tokens.rows, t.id = stored.id ∧ t.tokenHash = hash) →
      ∃ t ∈ s'.now.tokens.rows, t.id = stored.id ∧ t.tokenHash = hash := by
    rintro s s' hs ⟨t, ht, hid, hhash⟩
    obtain ⟨u, hu, htu⟩ := hs.grows t ht
    exact ⟨u, hu, htu.id.trans hid, htu.tokenHash.trans hhash⟩
  refine .bind ((keepsRows_safe draws i (Auth.byAuth_issuePairWithID d user rc now _).keepsRows
    (Prog.returns_true _) hkept hstored).mono ?_)
  rintro (e | p) s₁ ⟨-, hs₁⟩
  · exact .pure fun s' _ => markedIfPair_error _ _ _ _
  · refine .step fun s₂ hs₂ hk => ⟨trivial, ?_⟩
    split
    · exact .pure fun s' _ => markedIfPair_error _ _ _ _
    · rename_i hok
      -- the call that was just executed is the mark
      have hmarked : MarkedBy hash i (record (fun i => exec d (draws i)) i
          (.tokens (.markUsed stored.id p.refreshTokenID now)) s₂).2 := by
        obtain ⟨t, ht, hid, hhash⟩ := hkept _ _ hs₂ hs₁
        obtain ⟨u, hu, htu⟩ := grows_exec (r := draws i) (w := s₂.now) hk t ht
        refine ⟨_, List.mem_cons_self, rfl, u, hu, htu.tokenHash.trans hhash, ?_⟩
        rw [htu.id, hid]
        exact ⟨_, _, rfl, hok⟩
      refine .bind ((keepsRows_safe draws i (quiet_writeAudit _).byAuth.keepsRows (Prog.returns_true _)
        (fun _ _ hs h => h.follows hs) hmarked).mono ?_)
      rintro _ s₃ ⟨-, hs₃⟩
      exact .pure fun s' hs' pair _ => hs₃.follows hs'

theorem refresh_marks (refreshToken : String) :
    (Auth.refresh d refreshToken rc).Safe (record (fun i => exec d (draws i)) i) rules
      (MarkedIfPair (hashToken refreshToken) i) s := by
  refine .step fun s₁ _ hk => ⟨trivial, ?_⟩
  refine .step fun s₂ _ hk => ⟨trivial, ?_⟩
  split
  · exact .pure fun s' _ => markedIfPair_error _ _ _ _
  · rename_i stored hget
    obtain ⟨hmem, hhash⟩ := World.tokenByHash_some (orNotFound_eq_ok.mp hget)
    split
    · refine (keepsRows_safe draws i (Auth.quiet_refreshReuse rc _ stored).byAuth.keepsRows
        (Auth.refreshReuse_fails rc _ stored) (fun _ _ _ _ => trivial) trivial).mono ?_
      rintro _ s' ⟨⟨e, rfl⟩, -⟩
      exact markedIfPair_error _ _ _ _
    · split
      · exact .pure fun s' _ => markedIfPair_error _ _ _ _
      · refine .step fun s₃ hs₃ hk => ⟨trivial, ?_⟩
        split
        · exact .pure fun s' _ => markedIfPair_error _ _ _ _
        · split
          · refine .step fun s₄ _ hk => ⟨trivial, ?_⟩
            split <;> exact .pure fun s' _ => markedIfPair_error _ _ _ _
          · obtain ⟨u, hu, htu⟩ := (hs₃.trans (follows_record draws i hk)).grows stored hmem
            exact refreshRotate_marks draws i rc stored _ _ ⟨u, hu, htu.id, htu.tokenHash.trans hhash⟩

end refresh

/-! ### Concurrent calls -/

/-- Calls of `Refresh` that present one token. -/
def refreshPool (d : Deps) (refreshToken : String) (rc : ι → RequestContext) (w : World d) :
    Pool Eff (World d) ι (Except Error TokenPair) :=
  ⟨w, fun i => Auth.refresh d refreshToken (rc i)⟩

/-- A call that has returned a pair. -/
def returnedPair (p : Proc (Except Error TokenPair)) : Bool := p.result?.any fun res => res.isOk

theorem returnedPair_iff {p : Proc (Except Error TokenPair)} :
    returnedPair p = true ↔ ∃ pair, p = .pure (.ok pair) := by
  unfold returnedPair
  rw [Option.any_eq_true]
  constructor
  · rintro ⟨res, hres, hok⟩
    cases res with
    | ok pair => exact ⟨pair, Prog.result?_eq_some.mp hres⟩
    | error e => cases hok
  · rintro ⟨pair, rfl⟩
    exact ⟨_, rfl, rfl⟩

variable [DecidableEq ι]

/-- In a run in which every `MarkUsed` finds its row unused, at most one of any number of
concurrent calls with one token returns a pair. -/
theorem refresh_at_most_once {draws : ι → Draws} {rc : ι → RequestContext} {w : World d}
    {refreshToken : String} {P : Pool Eff (World d) ι (Except Error TokenPair)}
    (hr : Pool.Run (fun i => exec d (draws i)) Ticks (fun _ op w => marksUnused op w = true)
      (refreshPool d refreshToken rc w) P) :
    {i | returnedPair (P.thread i) = true}.Subsingleton := by
  obtain ⟨tr, hrec⟩ := hr.recorded
  obtain ⟨hrec, -⟩ := hrec.only (K := fun _ (op : Op) => op.keepsRows = true)
    fun i => (Auth.byAuth_refresh d (rc i) refreshToken).keepsRows
  have hticks : ∀ s s' : Recorded Eff (World d) ι, recordEnv Ticks s s' →
      s'.now.tokens = s.now.tokens ∧ s'.trace = s.trace := by
    rintro s s' ⟨⟨t, -, ht⟩, htrace⟩
    rw [ht]
    exact ⟨rfl, htrace⟩
  -- along the run a row is marked once
  have honce : MarkedOnce (⟨P.state, tr⟩ : Recorded Eff (World d) ι) := by
    refine hrec.invariant (I := MarkedOnce) (fun i op s hC hs => ?_) (fun s s' he hs => ?_) ?_
    · exact markedOnce_step draws hC.2 hC.1 hs
    · obtain ⟨htokens, htrace⟩ := hticks s s' he
      constructor
      · rw [htrace, htokens]
        exact hs.used
      · rw [htrace]
        exact hs.once
    · exact ⟨fun e he => (by cases he), .nil⟩
  -- and whoever returned a pair has marked the row of the token
  have hmarked : ∀ i pair, P.thread i = .pure (.ok pair) →
      MarkedBy (hashToken refreshToken) i (⟨P.state, tr⟩ : Recorded Eff (World d) ι) := by
    intro i pair hi
    refine Pool.Run.thread_result (fun op s hC => hC.2)
      (fun i op s _ hC => follows_record draws i hC.2) ?_ hrec
      (refresh_marks draws i (rc i) refreshToken) hi pair rfl
    intro s s' he
    obtain ⟨htokens, htrace⟩ := hticks s s' he
    exact ⟨by rw [htokens]; exact .refl _, fun e he => by rwa [htrace]⟩
  intro i hi j hj
  obtain ⟨pair, hi⟩ := returnedPair_iff.mp hi
  obtain ⟨pair', hj⟩ := returnedPair_iff.mp hj
  obtain ⟨e, he, hei, t, ht, hhash, hm⟩ := hmarked i pair hi
  obtain ⟨e', he', hej, t', ht', hhash', hm'⟩ := hmarked j pair' hj
  have htt' : t = t' := TokenTable.eq_of_hash ht ht' (hhash.trans hhash'.symm)
  subst htt'
  by_contra hne
  have hee' : e ≠ e' := by
    rintro rfl
    exact hne (hei.symm.trans hej)
  have hsymm : Std.Symm fun e e' : Event Eff (World d) ι => ∀ id, Marks e id → ¬ Marks e' id :=
    ⟨fun _ _ h id hm' hm => h id hm hm'⟩
  exact honce.once.forall he he' hee' t.id hm hm'

/-- Two calls with the token of the sample login, under a schedule. -/
def race (schedule : List (Fin 2)) :
    Pool Eff (World Sample.deps) (Fin 2) (Except Error TokenPair) :=
  (refreshPool Sample.deps Sample.firstToken (fun _ => Sample.context) Sample.loggedIn).play
    (fun i => exec Sample.deps (Sample.draws (i.castLE Sample.two_le_eight + 1))) schedule

/-- One call after the other: the first returns a pair, and so the second does not. -/
theorem refresh_at_most_once_sequential :
    returnedPair ((race (List.replicate 12 0 ++ List.replicate 12 1)).thread 0) = true ∧
      {i | returnedPair ((race (List.replicate 12 0 ++ List.replicate 12 1)).thread i) = true}.Subsingleton :=
  ⟨by decide +kernel, refresh_at_most_once (Pool.play_meets (by decide +kernel))⟩

/-- Two calls that have both read the token as unused both return a pair. -/
theorem refresh_race_returns_two_pairs :
    ¬ ∀ (d : Deps) (draws : Fin 2 → Draws) (rc : Fin 2 → RequestContext) (w : World d)
        (refreshToken : String) (P : Pool Eff (World d) (Fin 2) (Except Error TokenPair)),
      Reachable d w →
      Pool.Run (fun i => exec d (draws i)) Ticks (fun _ _ _ => True)
        (refreshPool d refreshToken rc w) P →
      {i | returnedPair (P.thread i) = true}.Subsingleton := by
  intro hclaim
  have hboth : ∀ i : Fin 2,
      returnedPair ((race (List.replicate 12 [0, 1]).flatten).thread i) = true := by decide +kernel
  have hsub := hclaim _ _ _ _ _ (race (List.replicate 12 [0, 1]).flatten)
    Sample.reachable_loggedIn (Pool.play_run _ _)
  exact absurd (hsub (hboth 0) (hboth 1)) (by decide)

end SuperAdmin.Rotation
