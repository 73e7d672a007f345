import SuperAdmin.Rotation.Chain

/-! # States with and without purged tokens

`Purged` relates a state to one in which expired refresh tokens were deleted: the same tokens are
alive, and what is missing in the purged table has expired.  Every statement of `Auth` keeps the
relation; so do whole calls, unless they present a token whose row is needed and gone. -/

namespace SuperAdmin.Rotation

open Effects Usecase

variable {d : Deps}

/-! ### Rows and tables -/

/-- A token that was exchanged or revoked: presenting it reveals a theft. -/
def stale (t : RefreshToken) : Bool := t.isUsed || t.isRevoked

/-- The rows of one token in the two runs. -/
structure Alike (t u : RefreshToken) : Prop where
  id : u.id = t.id
  userID : u.userID = t.userID
  sessionID : u.sessionID = t.sessionID
  tokenHash : u.tokenHash = t.tokenHash
  expiresAt : u.expiresAt = t.expiresAt
  stale : stale u = stale t

theorem Alike.refl (t : RefreshToken) : Alike t t := ⟨rfl, rfl, rfl, rfl, rfl, rfl⟩

theorem Alike.usable {t u : RefreshToken} (h : Alike t u) (now : Time) :
    u.isUsable now = t.isUsable now := by
  have hsplit : ∀ x : RefreshToken, x.isUsable now = (!x.isExpired now && !Rotation.stale x) := by
    intro x
    cases hu : x.isUsed <;> cases hr : x.isRevoked <;>
      simp [RefreshToken.isUsable, Rotation.stale, hu, hr]
  have hexpired : u.isExpired now = t.isExpired now := by
    unfold RefreshToken.isExpired
    rw [h.expiresAt]
  rw [hsplit, hsplit, hexpired, h.stale]

/-- The table `U` has been purged and `T` has not: what is missing has expired. -/
structure PurgedTable (now : Time) (T U : TokenTable) : Prop where
  kept : ∀ u ∈ U.rows, ∃ t ∈ T.rows, Alike t u
  gone : ∀ t ∈ T.rows, (∃ u ∈ U.rows, Alike t u) ∨ t.isExpired now = true

/-- Two states that differ in the purge of tokens, and in the journal. -/
structure Purged (w w' : World d) : Prop where
  same : w' = { w with tokens := w'.tokens, audit := w'.audit }
  tokens : PurgedTable w.clock w.tokens w'.tokens

theorem Purged.refl (w : World d) : Purged w w where
  same := rfl
  tokens := ⟨fun t ht => ⟨t, ht, .refl t⟩, fun t ht => .inl ⟨t, ht, .refl t⟩⟩

namespace PurgedTable

variable {now : Time} {T U : TokenTable}

/-- Time goes on. -/
theorem later {now' : Time} (h : PurgedTable now T U) (hle : now ≤ now') : PurgedTable now' T U where
  kept := h.kept
  gone := by
    intro t ht
    refine (h.gone t ht).imp_right fun hexpired => ?_
    simp only [RefreshToken.isExpired, Bool.not_eq_true', decide_eq_false_iff_not, not_lt] at *
    exact le_trans hexpired hle

/-- Statements on both tables, which rewrite their rows alike. -/
theorem map {T' U' : TokenTable} {f g : RefreshToken → RefreshToken} (h : PurgedTable now T U)
    (hT : T'.rows = T.rows.map f) (hU : U'.rows = U.rows.map g)
    (hf : ∀ t, ∀ u ∈ U.rows, Alike t u → Alike (f t) (g u))
    (hexp : ∀ t, (f t).expiresAt = t.expiresAt) :
    PurgedTable now T' U' where
  kept := by
    intro u' hu'
    rw [hU] at hu'
    obtain ⟨u, hu, rfl⟩ := List.mem_map.mp hu'
    obtain ⟨t, ht, htu⟩ := h.kept u hu
    exact ⟨f t, hT ▸ List.mem_map_of_mem ht, hf t u hu htu⟩
  gone := by
    intro t' ht'
    rw [hT] at ht'
    obtain ⟨t, ht, rfl⟩ := List.mem_map.mp ht'
    rcases h.gone t ht with ⟨u, hu, htu⟩ | hexpired
    · exact .inl ⟨g u, hU ▸ List.mem_map_of_mem hu, hf t u hu htu⟩
    · refine .inr ?_
      unfold RefreshToken.isExpired at hexpired ⊢
      rw [hexp]
      exact hexpired

/-- One row is inserted into both tables. -/
theorem append {T' U' : TokenTable} {row : RefreshToken} (h : PurgedTable now T U)
    (hT : T'.rows = T.rows ++ [row]) (hU : U'.rows = U.rows ++ [row]) : PurgedTable now T' U' where
  kept := by
    intro u hu
    rw [hU] at hu
    rw [hT]
    rcases List.mem_append.mp hu with hold | hnew
    · obtain ⟨t, ht, htu⟩ := h.kept u hold
      exact ⟨t, List.mem_append_left _ ht, htu⟩
    · rw [List.mem_singleton.mp hnew]
      exact ⟨row, List.mem_append_right _ (List.mem_singleton_self row), .refl row⟩
  gone := by
    intro t ht
    rw [hT] at ht
    rw [hU]
    rcases List.mem_append.mp ht with hold | hnew
    · exact (h.gone t hold).imp_left fun ⟨u, hu, htu⟩ => ⟨u, List.mem_append_left _ hu, htu⟩
    · rw [List.mem_singleton.mp hnew]
      exact .inl ⟨row, List.mem_append_right _ (List.mem_singleton_self row), .refl row⟩

/-- The rows of `T` that a row of `U` stands for. -/
theorem partner (h : PurgedTable now T U) {t u : RefreshToken} (ht : t ∈ T.rows) (hu : u ∈ U.rows)
    (hid : u.id = t.id) : Alike t u := by
  obtain ⟨x, hx, hxu⟩ := h.kept u hu
  have hxt : x = t := TokenTable.eq_of_id hx ht (hxu.id.symm.trans hid)
  rwa [← hxt]

/-- The usable tokens are those of the table without purges. -/
theorem usable_iff (h : PurgedTable now T U) (id : UUID) (hash : Bytes) :
    (∃ u ∈ U.rows, u.isUsable now = true ∧ u.id = id ∧ u.tokenHash = hash) ↔
      ∃ t ∈ T.rows, t.isUsable now = true ∧ t.id = id ∧ t.tokenHash = hash := by
  constructor
  · rintro ⟨u, hu, husable, rfl, rfl⟩
    obtain ⟨t, ht, htu⟩ := h.kept u hu
    rw [htu.usable] at husable
    exact ⟨t, ht, husable, htu.id.symm, htu.tokenHash.symm⟩
  · rintro ⟨t, ht, husable, rfl, rfl⟩
    rcases h.gone t ht with ⟨u, hu, htu⟩ | hexpired
    · rw [← htu.usable] at husable
      exact ⟨u, hu, husable, htu.id, htu.tokenHash⟩
    · simp [RefreshToken.isUsable, hexpired] at husable

/-- `DeleteExpired` on the purged table alone. -/
theorem deleteExpired (h : PurgedTable now T U) (hasUser : UUID → Bool) (clock : Time) {before : Time}
    (hbefore : before ≤ now) :
    PurgedTable now T (TokensOp.exec hasUser clock (.deleteExpired before) U).2 where
  kept := by
    intro u' hu'
    obtain ⟨u, hu, rfl⟩ := (Table.mem_update fun _ => by rfl).mp hu'
    obtain ⟨t, ht, htu⟩ := h.kept u (List.mem_of_mem_filter hu)
    refine ⟨t, ht, ?_⟩
    split
    · exact ⟨htu.id, htu.userID, htu.sessionID, htu.tokenHash, htu.expiresAt, htu.stale⟩
    · exact htu
  gone := by
    intro t ht
    rcases h.gone t ht with ⟨u, hu, htu⟩ | hexpired
    · by_cases hdeleted : u.expiresAt < before.timestamptz
      · refine .inr ?_
        have hle : before.timestamptz ≤ before := by
          show before.ns / 1000 * 1000 ≤ before.ns
          omega
        have hnow : t.expiresAt ≤ now := by
          rw [← htu.expiresAt]
          exact le_trans (le_of_lt hdeleted) (le_trans hle hbefore)
        simpa [RefreshToken.isExpired] using hnow
      · have hkept : u ∈ (U.delete fun t => decide (t.expiresAt < before.timestamptz)).rows :=
          List.mem_filter.mpr ⟨hu, by simpa using hdeleted⟩
        refine .inl ⟨_, (Table.mem_update fun _ => by rfl).mpr ⟨u, hkept, rfl⟩, ?_⟩
        split
        · exact ⟨htu.id, htu.userID, htu.sessionID, htu.tokenHash, htu.expiresAt, htu.stale⟩
        · exact htu
    · exact .inr hexpired

end PurgedTable

/-! ### Statements on both states -/

theorem stale_revokeIf (q : RefreshToken → Bool) (reason : String) (now : Time) (t : RefreshToken) :
    stale (revokeIf q reason now t) = (q t || stale t) := by
  unfold stale
  rw [revokeIf_isUsed, revokeIf_isRevoked]
  cases q t <;> simp

theorem alike_revokeIf {q q' : RefreshToken → Bool} {t u : RefreshToken} (h : Alike t u)
    (hq : (q' u || stale u) = (q t || stale t)) (reason : String) (now : Time) :
    Alike (revokeIf q reason now t) (revokeIf q' reason now u) where
  id := by simpa using h.id
  userID := by simpa using h.userID
  sessionID := by simpa using h.sessionID
  tokenHash := by simpa using h.tokenHash
  expiresAt := by simpa using h.expiresAt
  stale := by rw [stale_revokeIf, stale_revokeIf, hq]

theorem alike_exchangeIf (id new : UUID) (now : Time) (t u : RefreshToken) (h : Alike t u) :
    Alike (exchangeIf id new now t) (exchangeIf id new now u) := by
  have hmarked : ∀ x : RefreshToken, Rotation.stale (exchangeIf id new now x) =
      (Rotation.stale x || x.id == id) := by
    intro x
    unfold exchangeIf Rotation.stale
    cases hid : x.id == id <;> cases hu : x.isUsed <;> simp [hu]
  have hkeep : ∀ x : RefreshToken, (exchangeIf id new now x).id = x.id ∧
      (exchangeIf id new now x).userID = x.userID ∧
      (exchangeIf id new now x).sessionID = x.sessionID ∧
      (exchangeIf id new now x).tokenHash = x.tokenHash ∧
      (exchangeIf id new now x).expiresAt = x.expiresAt := by
    intro x
    unfold exchangeIf
    split <;> exact ⟨rfl, rfl, rfl, rfl, rfl⟩
  obtain ⟨htid, htuser, htsession, hthash, htexpires⟩ := hkeep t
  obtain ⟨huid, huuser, husession, huhash, huexpires⟩ := hkeep u
  refine ⟨?_, ?_, ?_, ?_, ?_, ?_⟩
  · rw [huid, htid, h.id]
  · rw [huuser, htuser, h.userID]
  · rw [husession, htsession, h.sessionID]
  · rw [huhash, hthash, h.tokenHash]
  · rw [huexpires, htexpires, h.expiresAt]
  · rw [hmarked, hmarked, h.stale, h.id]

/-- The calls that a purge does not disturb. -/
def undisturbed : Op → Bool
  | .tokens (.revokeSession _ _ _) | .tokens (.revokeAllForUser _ _ _) => true
  | .tokens _ | .journal _ => false
  | _ => true

section statements

variable {r : Draws} {w w' : World d}

theorem Purged.revokeSession (h : Purged w w') (sessionID : UUID) (reason : String) (now : Time) :
    Purged (w.after r (.tokens (.revokeSession sessionID reason now)))
      (w'.after r (.tokens (.revokeSession sessionID reason now))) where
  same := by rw [h.same]; rfl
  tokens := h.tokens.map (f := revokeIf (·.sessionID == sessionID) reason now)
    (g := revokeIf (·.sessionID == sessionID) reason now) rfl rfl
    (fun t u _ htu => alike_revokeIf htu (by rw [htu.sessionID, htu.stale]) reason now)
    (fun t => revokeIf_expiresAt _ reason now t)

theorem Purged.revokeAllForUser (h : Purged w w') (userID : UUID) (reason : String) (now : Time) :
    Purged (w.after r (.tokens (.revokeAllForUser userID reason now)))
      (w'.after r (.tokens (.revokeAllForUser userID reason now))) where
  same := by rw [h.same]; rfl
  tokens := h.tokens.map (f := revokeIf (·.userID == userID) reason now)
    (g := revokeIf (·.userID == userID) reason now) rfl rfl
    (fun t u _ htu => alike_revokeIf htu (by rw [htu.userID, htu.stale]) reason now)
    (fun t => revokeIf_expiresAt _ reason now t)

theorem exec_purged {op : Op} (hop : undisturbed op = true) (h : Purged w w') :
    (exec d r op w).1 = (exec d r op w').1 ∧ Purged (exec d r op w).2 (exec d r op w').2 := by
  obtain ⟨hsame, htokens⟩ := h
  by_cases htop : ∃ top, op = .tokens top
  · obtain ⟨top, rfl⟩ := htop
    cases top with
    | revokeSession sessionID reason now =>
        exact ⟨rfl, Purged.revokeSession ⟨hsame, htokens⟩ sessionID reason now⟩
    | revokeAllForUser userID reason now =>
        exact ⟨rfl, Purged.revokeAllForUser ⟨hsame, htokens⟩ userID reason now⟩
    | _ => cases hop
  · rw [hsame]
    cases op with
    | tokens top => exact absurd ⟨top, rfl⟩ htop
    | journal f => cases hop
    | audit e =>
        have huser : World.hasUser { w with tokens := w'.tokens, audit := w'.audit } = w.hasUser := rfl
        by_cases hactor : e.actorID.all w.hasUser = true
        · simp only [exec, World.writeAudit, huser, if_pos hactor]
          exact ⟨trivial, rfl, htokens⟩
        · simp only [exec, World.writeAudit, huser, if_neg hactor]
          exact ⟨trivial, rfl, htokens⟩
    | _ => exact ⟨rfl, rfl, htokens⟩

end statements

/-! ### Calls on both states -/

/-- The id and the hash that a call draws for a new token are not those of a purged row. -/
def FreshDraws (r : Draws) (w w' : World d) : Prop :=
  ∀ t ∈ w.tokens.rows, (∃ u ∈ w'.tokens.rows, u.id = t.id) ∨
    (t.id ≠ r.uuid .refreshToken ∧ ∀ raw, r.rand .secureToken = .ok raw →
      t.tokenHash ≠ hashToken (rawURLEncodeToString raw))

/-- A program returns the same in both states, and leaves them alike. -/
def SameRun {α : Type} (r : Draws) (w w' : World d) (p : Proc α) : Prop :=
  (p.run (exec d r) w).1 = (p.run (exec d r) w').1 ∧
    Purged (p.run (exec d r) w).2 (p.run (exec d r) w').2

section calls

variable {r : Draws} {w w' : World d}

theorem SameRun.pure {α : Type} (h : Purged w w') (a : α) : SameRun r w w' (Prog.pure a : Proc α) :=
  ⟨rfl, h⟩

theorem SameRun.step {α : Type} {op : Op} {f : op.Res → Proc α} (hop : undisturbed op = true)
    (h : Purged w w')
    (hf : ∀ a (w₁ w₁' : World d), w₁.tokens = (exec d r op w).2.tokens → w₁'.tokens = (exec d r op w').2.tokens →
      Purged w₁ w₁' → SameRun r w₁ w₁' (f a)) :
    SameRun r w w' (perform op >>= f) := by
  obtain ⟨hanswer, hnext⟩ := exec_purged (r := r) hop h
  exact Prog.Agree.step (R := Purged) hanswer (hf _ _ _ rfl rfl hnext)

theorem SameRun.bind {α β : Type} {p : Proc α} {f : α → Proc β} (hp : SameRun r w w' p)
    (hf : ∀ a (w₁ w₁' : World d), Purged w₁ w₁' → SameRun r w₁ w₁' (f a)) :
    SameRun r w w' (p >>= f) :=
  Prog.Agree.bind (R := Purged) hp hf

theorem sameRun_of_only {α : Type} {p : Proc α} (hp : p.Only fun op : Op => undisturbed op = true)
    (h : Purged w w') : SameRun r w w' p :=
  hp.related (R := Purged) (fun _ _ _ hop hw => exec_purged hop hw) h

theorem sameRun_of_blind {α : Type} {p : Proc α} (hp : Blind p) (h : Purged w w') : SameRun r w w' p := by
  refine sameRun_of_only (hp.mono fun op hop => ?_) h
  unfold Op.blind at hop
  split at hop <;> first | rfl | cases hop

theorem sameRun_writeAudit (h : Purged w w') (e : AuditEntry) : SameRun r w w' (writeAudit e) :=
  sameRun_of_blind (blind_writeAudit e) h

/-! ### A new token -/

/-- The row of a drawn token is inserted into both tables, or into none. -/
theorem insert_purged {T U : TokenTable} {now : Time} (row : RefreshToken) (h : PurgedTable now T U)
    (hfresh : ∀ t ∈ T.rows, (∃ u ∈ U.rows, u.id = t.id) ∨
      (t.id ≠ row.id ∧ t.tokenHash ≠ row.tokenHash)) :
    (T.insert? row = none ∧ U.insert? row = none) ∨
      ∃ T' U', T.insert? row = some T' ∧ U.insert? row = some U' ∧
        T'.rows = T.rows ++ [row] ∧ U'.rows = U.rows ++ [row] := by
  cases hT : T.insert? row with
  | some T' =>
      obtain ⟨hrows, hfree⟩ := Table.insert?_eq_some hT
      obtain ⟨U', hU⟩ := Table.insert?_isSome (t := U) (r := row) fun u hu hclash => by
        obtain ⟨t, ht, htu⟩ := h.kept u hu
        exact hfree t ht (by rwa [htu.id, htu.tokenHash] at hclash)
      exact .inr ⟨T', U', rfl, hU, hrows, (Table.insert?_eq_some hU).1⟩
  | none =>
      refine .inl ⟨rfl, ?_⟩
      cases hU : U.insert? row with
      | none => rfl
      | some U' =>
          obtain ⟨-, hfree⟩ := Table.insert?_eq_some hU
          obtain ⟨T', hT'⟩ := Table.insert?_isSome (t := T) (r := row) fun t ht hclash => by
            rcases hfresh t ht with ⟨u, hu, hid⟩ | ⟨hid, hhash⟩
            · have htu := h.partner ht hu hid
              exact hfree u hu (by rwa [htu.id, htu.tokenHash])
            · exact hclash.elim hid hhash
          rw [hT] at hT'
          cases hT'

theorem create_purged (h : Purged w w') {t : RefreshToken}
    (hfresh : ∀ x ∈ w.tokens.rows, (∃ u ∈ w'.tokens.rows, u.id = x.id) ∨
      (x.id ≠ t.id ∧ x.tokenHash ≠ t.tokenHash)) :
    (exec d r (.tokens (.create t)) w).1 = (exec d r (.tokens (.create t)) w').1 ∧
      Purged (w.after r (.tokens (.create t))) (w'.after r (.tokens (.create t))) ∧
      ∀ record, (exec d r (.tokens (.create t)) w').1 = .ok record →
        (∃ u ∈ (w.after r (.tokens (.create t))).tokens.rows, u.id = record.id) ∧
        ∃ u ∈ (w'.after r (.tokens (.create t))).tokens.rows, u.id = record.id := by
  obtain ⟨hsame, htokens⟩ := h
  have hclock : w'.clock = w.clock := by rw [hsame]
  have huser : w'.hasUser = w.hasUser := by rw [hsame]; rfl
  have hinsert := insert_purged (t.inserted w.clock) htokens hfresh
  have hw : exec d r (.tokens (.create t)) w =
      ((TokensOp.exec w.hasUser w.clock (.create t) w.tokens).1,
        { w with tokens := (TokensOp.exec w.hasUser w.clock (.create t) w.tokens).2 }) := rfl
  have hw' : exec d r (.tokens (.create t)) w' =
      ((TokensOp.exec w.hasUser w.clock (.create t) w'.tokens).1,
        { w' with tokens := (TokensOp.exec w.hasUser w.clock (.create t) w'.tokens).2 }) := by
    rw [← hclock, ← huser]
    rfl
  unfold World.after
  rw [hw, hw']
  rcases hinsert with ⟨hT, hU⟩ | ⟨T, U, hT, hU, hTrows, hUrows⟩
  · simp only [TokensOp.exec, hT, hU]
    exact ⟨trivial, ⟨hsame, htokens⟩, fun _ hres => by cases hres⟩
  · simp only [TokensOp.exec, hT, hU]
    by_cases hu : w.hasUser t.userID = true
    · simp only [if_pos hu]
      refine ⟨trivial, ⟨by rw [hsame], htokens.append hTrows hUrows⟩, fun record hres => ?_⟩
      cases hres
      exact ⟨⟨_, hTrows ▸ List.mem_append_right _ (List.mem_singleton_self _), rfl⟩,
        ⟨_, hUrows ▸ List.mem_append_right _ (List.mem_singleton_self _), rfl⟩⟩
    · simp only [if_neg hu]
      exact ⟨trivial, ⟨hsame, htokens⟩, fun _ hres => by cases hres⟩

/-- A pair is issued in both states, or in none. -/
theorem issue_purged (h : Purged w w') (hfresh : FreshDraws r w w') (user : SuperAdminUser)
    (sessionID : UUID) (rc : RequestContext) (now : Time) :
    SameRun r w w' (Auth.issuePairWithID d user sessionID rc now) ∧
      ∀ p, ((Auth.issuePairWithID d user sessionID rc now).run (exec d r) w').1 = .ok p →
        (∃ u ∈ ((Auth.issuePairWithID d user sessionID rc now).run (exec d r) w).2.tokens.rows,
          u.id = p.refreshTokenID) ∧
        ∃ u ∈ ((Auth.issuePairWithID d user sessionID rc now).run (exec d r) w').2.tokens.rows,
          u.id = p.refreshTokenID := by
  unfold SameRun Auth.issuePairWithID generateSecureToken
  simp only [Prog.run_bind, run_op, exec_newUUID, exec_issue]
  cases d.issuer.issue (Auth.accessClaims d user sessionID (r.uuid .accessToken) now) with
  | error e => exact ⟨⟨rfl, h⟩, fun _ hres => by cases hres⟩
  | ok access =>
      simp only [Prog.run_bind, run_op, exec_randRead]
      cases hraw : r.rand .secureToken with
      | error e => exact ⟨⟨rfl, h⟩, fun _ hres => by cases hres⟩
      | ok raw =>
          simp only [Prog.run_bind, run_op, exec_newUUID, Prog.pure_eq, Prog.run_pure]
          obtain ⟨hanswer, hnext, hthere⟩ := create_purged (r := r) h
            (t := Auth.refreshRecord d user (r.uuid .refreshToken) sessionID
              (rawURLEncodeToString raw) rc now)
            fun x hx => (hfresh x hx).imp_right fun hne => ⟨hne.1, hne.2 raw hraw⟩
          rw [hanswer]
          revert hthere
          cases (exec d r (.tokens (.create (Auth.refreshRecord d user (r.uuid .refreshToken)
            sessionID (rawURLEncodeToString raw) rc now))) w').1 with
          | error e => exact fun _ => ⟨⟨rfl, hnext⟩, fun _ hres => by cases hres⟩
          | ok record =>
              refine fun hthere => ⟨⟨rfl, hnext⟩, fun p hres => ?_⟩
              cases hres
              exact hthere record rfl

/-! ### Refresh -/

/-- What the two states know of a presented token. -/
theorem lookup_purged (h : Purged w w') (hash : Bytes) :
    (∃ t u, w.tokenByHash hash = some t ∧ w'.tokenByHash hash = some u ∧ Alike t u) ∨
      (w'.tokenByHash hash = none ∧
        ∀ t, w.tokenByHash hash = some t → t.isExpired w.clock = true) := by
  cases hu : w'.tokenByHash hash with
  | some u =>
      obtain ⟨humem, rfl⟩ := World.tokenByHash_some hu
      obtain ⟨t, ht, htu⟩ := h.tokens.kept u humem
      refine .inl ⟨t, u, ?_, rfl, htu⟩
      rw [htu.tokenHash]
      exact World.tokenByHash_of_mem ht
  | none =>
      refine .inr ⟨rfl, fun t ht => ?_⟩
      obtain ⟨htmem, rfl⟩ := World.tokenByHash_some ht
      rcases h.tokens.gone t htmem with ⟨u, humem, htu⟩ | hexpired
      · rw [← htu.tokenHash, World.tokenByHash_of_mem humem] at hu
        cases hu
      · exact hexpired

theorem markUsed_purged (h : Purged w w') (id : UUID) {new : UUID} (now : Time)
    (hw : ∃ u ∈ w.tokens.rows, u.id = new) (hw' : ∃ u ∈ w'.tokens.rows, u.id = new) :
    (exec d r (.tokens (.markUsed id new now)) w).1 = .ok () ∧
      (exec d r (.tokens (.markUsed id new now)) w').1 = .ok () ∧
      Purged (w.after r (.tokens (.markUsed id new now)))
        (w'.after r (.tokens (.markUsed id new now))) := by
  have hmark : ∀ v : World d, (∃ u ∈ v.tokens.rows, u.id = new) →
      (exec d r (.tokens (.markUsed id new now)) v).1 = .ok () := by
    intro v hv
    have hany : v.tokens.rows.any (fun t => t.id == new) = true := by simpa using hv
    show (TokensOp.exec v.hasUser v.clock (.markUsed id new now) v.tokens).1 = .ok ()
    simp [TokensOp.exec, hany]
  refine ⟨hmark w hw, hmark w' hw', ?_, ?_⟩
  · rw [h.same]
    rfl
  · have hexp : ∀ t, (exchangeIf id new now t).expiresAt = t.expiresAt := by
      intro t
      unfold exchangeIf
      split <;> rfl
    exact h.tokens.map (markUsed_rows r w (hmark w hw)) (markUsed_rows r w' (hmark w' hw'))
      (fun t u _ htu => alike_exchangeIf id new now t u htu) hexp

theorem refreshRotate_purged (h : Purged w w') (hfresh : FreshDraws r w w') (stored : RefreshToken)
    (user : SuperAdminUser) (rc : RequestContext) (now : Time) :
    SameRun r w w' (Auth.refreshRotate d stored user rc now) := by
  obtain ⟨⟨hresult, hnext⟩, hthere⟩ := issue_purged h hfresh user stored.sessionID rc now
  unfold SameRun Auth.refreshRotate
  rw [Prog.run_bind, Prog.run_bind, hresult]
  cases hp : ((Auth.issuePairWithID d user stored.sessionID rc now).run (exec d r) w').1 with
  | error e => exact ⟨rfl, hnext⟩
  | ok p =>
      obtain ⟨hw, hw'⟩ := hthere p hp
      obtain ⟨hok, hok', hmarked⟩ := markUsed_purged (r := r) hnext stored.id now hw hw'
      dsimp only
      rw [Prog.run_bind, Prog.run_bind, run_op, run_op, hok, hok']
      exact (sameRun_writeAudit hmarked _).bind fun _ w₁ w₁' h₁ => .pure h₁ _

/-- The rotation reads only the id and the session of the presented token. -/
theorem refreshRotate_alike {t u : RefreshToken} (h : Alike t u) (user : SuperAdminUser)
    (rc : RequestContext) (now : Time) :
    Auth.refreshRotate d u user rc now = Auth.refreshRotate d t user rc now := by
  obtain ⟨hid, -, hsession, -, -, -⟩ := h
  cases t
  cases u
  dsimp only at hid hsession
  subst hid hsession
  unfold Auth.refreshRotate
  congr 1
  funext res
  cases res with
  | error e => rfl
  | ok p =>
      dsimp only
      congr 1
      funext res
      cases res <;> rfl

/-- `Refresh` with a token that the purge has not forgotten. -/
theorem refresh_purged (h : Purged w w') (hfresh : FreshDraws r w w') (refreshToken : String)
    (rc : RequestContext)
    (hremembers : w'.tokenByHash (hashToken refreshToken) = none →
      ∀ t, w.tokenByHash (hashToken refreshToken) = some t → stale t = false) :
    SameRun r w w' (Auth.refresh d refreshToken rc) := by
  have hclock : w'.clock = w.clock := by rw [h.same]
  have husers : ∀ id, w'.userByID id = w.userByID id := by rw [h.same]; exact fun _ => rfl
  unfold SameRun
  rw [Auth.refresh_run, Auth.refresh_run]
  rcases lookup_purged h (hashToken refreshToken) with ⟨t, u, ht, hu, htu⟩ | ⟨hnone, hexpired⟩
  · rw [ht, hu]
    have hstale : (u.isUsed || u.isRevoked) = (t.isUsed || t.isRevoked) := htu.stale
    have hexpired : u.isExpired w.clock = t.isExpired w.clock := by
      unfold RefreshToken.isExpired
      rw [htu.expiresAt]
    dsimp only
    rw [hstale, hclock, hexpired, htu.userID, husers, htu.sessionID]
    split
    · refine ⟨rfl, ?_⟩
      unfold Auth.reused
      rw [hclock, htu.sessionID, htu.userID, htu.id]
      have hrevoked := h.revokeSession (r := r) t.sessionID RevokeReason.reuse w.clock
      exact (sameRun_writeAudit (r := r) hrevoked _).2
    · split
      · exact ⟨rfl, h⟩
      · split
        · exact ⟨rfl, h⟩
        · split
          · exact ⟨rfl, h.revokeSession (r := r) _ _ _⟩
          · rw [refreshRotate_alike htu]
            exact refreshRotate_purged h hfresh t _ rc _
  · rw [hnone]
    cases ht : w.tokenByHash (hashToken refreshToken) with
    | none => exact ⟨rfl, h⟩
    | some t =>
        have hstale : (t.isUsed || t.isRevoked) = false := hremembers hnone t ht
        dsimp only
        rw [hstale, if_neg Bool.false_ne_true, if_pos (hexpired t ht)]
        exact ⟨rfl, h⟩

/-! ### Login and logout -/

theorem loginUser_purged (h : Purged w w') (hfresh : FreshDraws r w w') (user : SuperAdminUser)
    (rc : RequestContext) (now : Time) : SameRun r w w' (Auth.loginUser d user rc now) := by
  unfold Auth.loginUser
  split
  · exact (sameRun_writeAudit h _).bind fun _ w₁ w₁' h₁ => .pure h₁ _
  · refine .step rfl h fun res w₁ w₁' hw₁ hw₁' h₁ => ?_
    cases res with
    | error e => exact .pure h₁ _
    | ok _ =>
        refine .step rfl h₁ fun sessionID w₂ w₂' hw₂ hw₂' h₂ => ?_
        have hfresh₂ : FreshDraws r w₂ w₂' := by
          unfold FreshDraws
          rw [hw₂, hw₂']
          show FreshDraws r w₁ w₁'
          unfold FreshDraws
          rw [hw₁, hw₁']
          exact hfresh
        have hpair : SameRun r w₂ w₂' (Auth.issuePair d user sessionID rc now) := by
          refine (issue_purged h₂ hfresh₂ user sessionID rc now).1.bind fun res w₃ w₃' h₃ => ?_
          cases res <;> exact .pure h₃ _
        refine hpair.bind fun res w₃ w₃' h₃ => ?_
        cases res with
        | error e => exact .pure h₃ _
        | ok pair => exact (sameRun_writeAudit h₃ _).bind fun _ w₄ w₄' h₄ => .pure h₄ _

theorem login_purged (h : Purged w w') (hfresh : FreshDraws r w w') (creds : Credentials)
    (rc : RequestContext) : SameRun r w w' (Auth.login d creds rc) := by
  have hclock : w'.clock = w.clock := by rw [h.same]
  have huser : ∀ email, w'.userByEmail email = w.userByEmail email := by rw [h.same]; exact fun _ => rfl
  unfold SameRun
  rw [Auth.login_run, Auth.login_run, huser, hclock]
  split
  · split
    · exact sameRun_of_blind (Auth.blind_loginRefused d rc w.clock _ creds) h
    · exact ⟨rfl, h⟩
  · exact loginUser_purged h hfresh _ rc _

/-- Revoking one session in the one state and another in the other, where this changes no token that
is left. -/
theorem sessionRevoked_purged (h : Purged w w') {s s' : UUID}
    (hs : s = s' ∨ ∀ u ∈ w'.tokens.rows, u.sessionID ≠ UUID.nil →
      u.sessionID = s ∨ u.sessionID = s' → stale u = true) :
    Purged (Auth.sessionRevoked w r s) (Auth.sessionRevoked w' r s') where
  same := by
    rw [h.same]
    unfold Auth.sessionRevoked
    split <;> split <;> rfl
  tokens := by
    have hclock : (Auth.sessionRevoked w r s).clock = w.clock := by
      unfold Auth.sessionRevoked
      split
      · exact exec_clock r _ w
      · rfl
    have hclock' : w'.clock = w.clock := by rw [h.same]
    have hrows' := sessionRevoked_rows (r := r) w' s'
    rw [hclock'] at hrows'
    rw [hclock]
    refine h.tokens.map (sessionRevoked_rows w s) hrows' (fun t u hu htu => ?_)
      fun t => revokeIf_expiresAt _ _ _ t
    refine alike_revokeIf htu ?_ _ _
    rw [htu.sessionID, htu.stale]
    rcases hs with rfl | hleft
    · rfl
    · cases hstale : stale t with
      | true => rw [Bool.or_true, Bool.or_true]
      | false =>
          have hlive : stale u ≠ true := by rw [htu.stale, hstale]; exact Bool.false_ne_true
          have hother : ∀ s'' : UUID, (s'' = s ∨ s'' = s') →
              (s'' != UUID.nil && t.sessionID == s'') = false := by
            intro s'' hs''
            by_contra hne
            simp only [Bool.not_eq_false, Bool.and_eq_true, bne_iff_ne, beq_iff_eq] at hne
            obtain ⟨hnil, hsession⟩ := hne
            have husession : u.sessionID = s'' := htu.sessionID.trans hsession
            refine hlive (hleft u hu (by rwa [husession]) ?_)
            rwa [husession]
          rw [hother s (.inl rfl), hother s' (.inr rfl)]

theorem logoutAccess_purged (h : Purged w w') (s s' : UUID) (claims : Option AccessClaims)
    (rc : RequestContext) (now : Time) :
    Purged ((Auth.logoutAccess s claims rc now).run (exec d r) w).2
      ((Auth.logoutAccess s' claims rc now).run (exec d r) w').2 := by
  have hentry : ∀ {v v' : World d} (e e' : AuditEntry), Purged v v' →
      Purged (v.audited e) (v'.audited e') := by
    intro v v' e e' hv
    have hframe : ∀ (x : World d) (e : AuditEntry), ∃ a, x.audited e = { x with audit := a } := by
      intro x e
      unfold World.audited World.writeAudit
      split
      · exact ⟨_, rfl⟩
      · exact ⟨x.audit, rfl⟩
    obtain ⟨a, ha⟩ := hframe v e
    obtain ⟨a', ha'⟩ := hframe v' e'
    rw [ha, ha']
    refine ⟨?_, hv.tokens⟩
    rw [hv.same]
  cases claims with
  | none => exact h
  | some claims =>
      have hlist : SameRun r w w' (Auth.listAlive claims now) :=
        sameRun_of_blind (Auth.blind_listAlive now claims) h
      rw [Auth.logoutAccess_run, Auth.logoutAccess_run]
      obtain ⟨hresult, hnext⟩ := hlist
      revert hresult hnext
      generalize (Auth.listAlive claims now).run (exec d r) w = res
      generalize (Auth.listAlive claims now).run (exec d r) w' = res'
      obtain ⟨a, v⟩ := res
      obtain ⟨a', v'⟩ := res'
      rintro rfl hnext
      cases a with
      | error e => exact hnext
      | ok _ => exact hentry _ _ hnext

end calls

end SuperAdmin.Rotation
