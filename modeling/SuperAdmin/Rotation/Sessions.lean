import SuperAdmin.Lib.TokenFamily
import SuperAdmin.Rotation.Chain
import SuperAdmin.Audit.Completeness

/-! # The sessions are families of one-time keys

What `Login`, `Refresh`, `Logout`, `LogoutAll` and `Team.Revoke` are for, in a machine that knows neither
rows nor programs: a session is a family of keys, of which at most one is good.  Call by call, a
sequential run from an empty token table gives the answers of that machine, and its rows are those of the
machine's families. -/

namespace SuperAdmin.Rotation

open Effects Usecase TokenFamily

variable {d : Deps}

/-- The sessions of the server: keys are hashes of refresh tokens. -/
abbrev Sessions : Type := State UUID UUID Bytes Time

/-! ### Rows and families -/

/-- A row that can still be exchanged, its expiry apart. -/
def live (t : RefreshToken) : Bool := !(t.isUsed || t.isRevoked)

/-- The rows say what the families are. -/
structure Refines (rows : List RefreshToken) (σ : Sessions) : Prop where
  owner : ∀ k s, σ.owner k = some s ↔ ∃ t ∈ rows, t.tokenHash = k ∧ t.sessionID = s
  user : ∀ s u, (∃ f, σ.family s = some f ∧ f.user = u) ↔ ∃ t ∈ rows, t.sessionID = s ∧ t.userID = u
  current : ∀ s k e, (∃ f, σ.family s = some f ∧ f.current = some (k, e)) ↔
    ∃ t ∈ rows, t.sessionID = s ∧ t.tokenHash = k ∧ t.expiresAt = e ∧ live t = true

section refines

variable {rows : List RefreshToken} {σ : Sessions}

theorem refines_empty : Refines [] (State.empty : Sessions) := by
  constructor <;> simp [State.empty]

theorem Refines.owner_none (h : Refines rows σ) {k : Bytes} (hk : ∀ t ∈ rows, t.tokenHash ≠ k) :
    σ.owner k = none := by
  cases howner : σ.owner k with
  | none => rfl
  | some s =>
      obtain ⟨t, ht, htk, -⟩ := (h.owner k s).mp howner
      exact absurd htk (hk t ht)

theorem Refines.family_none (h : Refines rows σ) {s : UUID} (hs : ∀ t ∈ rows, t.sessionID ≠ s) :
    σ.family s = none := by
  cases hf : σ.family s with
  | none => rfl
  | some f =>
      obtain ⟨t, ht, hts, -⟩ := (h.user s f.user).mp ⟨f, hf, rfl⟩
      exact absurd hts (hs t ht)

/-- The family of a row. -/
theorem Refines.family_of_mem (h : Refines rows σ) {t : RefreshToken} (ht : t ∈ rows) :
    σ.owner t.tokenHash = some t.sessionID ∧ ∃ f, σ.family t.sessionID = some f ∧ f.user = t.userID :=
  ⟨(h.owner _ _).mpr ⟨t, ht, rfl, rfl⟩, (h.user _ _).mpr ⟨t, ht, rfl, rfl⟩⟩

/-- A live row is the good key of its family. -/
theorem Refines.current_of_live (h : Refines rows σ) {t : RefreshToken} (ht : t ∈ rows)
    (hlive : live t = true) {f : Family UUID Bytes Time} (hf : σ.family t.sessionID = some f) :
    f.current = some (t.tokenHash, t.expiresAt) := by
  obtain ⟨f', hf', hcurrent⟩ := (h.current _ _ _).mpr ⟨t, ht, rfl, rfl, rfl, hlive⟩
  rw [hf] at hf'
  cases hf'
  exact hcurrent

/-- A session has at most one live row. -/
theorem Refines.live_unique (h : Refines rows σ) {a b : RefreshToken} (ha : a ∈ rows) (hb : b ∈ rows)
    (hsession : a.sessionID = b.sessionID) (halive : live a = true) (hblive : live b = true) :
    a.tokenHash = b.tokenHash := by
  obtain ⟨-, f, hf, -⟩ := h.family_of_mem ha
  have hacurrent := h.current_of_live ha halive hf
  have hbcurrent := h.current_of_live hb hblive (hsession ▸ hf)
  rw [hacurrent, Option.some.injEq, Prod.mk.injEq] at hbcurrent
  exact hbcurrent.1

/-- Single rows change, so that those of the families that end are not live any more. -/
theorem Refines.mapped (h : Refines rows σ) {g : RefreshToken → RefreshToken}
    {p : UUID → Family UUID Bytes Time → Bool}
    (hkeep : ∀ t, (g t).sessionID = t.sessionID ∧ (g t).userID = t.userID ∧
      (g t).tokenHash = t.tokenHash ∧ (g t).expiresAt = t.expiresAt)
    (hlive : ∀ t ∈ rows, ∀ f, f.user = t.userID → live (g t) = (live t && !p t.sessionID f)) :
    Refines (rows.map g) (σ.endIf p) where
  owner k s := by
    rw [State.endIf_owner, h.owner]
    simp [List.mem_map, hkeep]
  user s u := by
    have hkept : (∃ f, (σ.endIf p).family s = some f ∧ f.user = u) ↔
        ∃ f, σ.family s = some f ∧ f.user = u := by
      rw [State.endIf_family]
      cases σ.family s with
      | none => simp
      | some f =>
          simp only [Option.map_some, Option.some.injEq, exists_eq_left']
          split <;> rfl
    rw [hkept, h.user]
    simp [List.mem_map, hkeep]
  current s k e := by
    rw [State.endIf_family]
    constructor
    · rintro ⟨f, hf, hcurrent⟩
      obtain ⟨f', hf', rfl⟩ := Option.map_eq_some_iff.mp hf
      by_cases hp : p s f' = true
      · rw [if_pos hp] at hcurrent
        cases hcurrent
      · rw [if_neg hp] at hcurrent
        obtain ⟨t, ht, rfl, htk, hte, htlive⟩ := (h.current s k e).mp ⟨f', hf', hcurrent⟩
        obtain ⟨-, f'', hf'', huser⟩ := h.family_of_mem ht
        rw [hf'] at hf''
        cases hf''
        obtain ⟨hsession, -, hhash, hexpires⟩ := hkeep t
        refine ⟨_, List.mem_map_of_mem ht, hsession, hhash.trans htk, hexpires.trans hte, ?_⟩
        rw [hlive t ht f' huser, htlive, Bool.eq_false_iff.mpr hp]
        rfl
    · rintro ⟨x, hx, hxs, hxk, hxe, hxlive⟩
      obtain ⟨t, ht, rfl⟩ := List.mem_map.mp hx
      obtain ⟨hsession, -, hhash, hexpires⟩ := hkeep t
      rw [hsession] at hxs
      subst hxs
      obtain ⟨-, f, hf, huser⟩ := h.family_of_mem ht
      rw [hlive t ht f huser, Bool.and_eq_true, Bool.not_eq_true'] at hxlive
      refine ⟨f, ?_, ?_⟩
      · rw [hf, Option.map_some, if_neg (Bool.eq_false_iff.mp hxlive.2)]
      · rw [h.current_of_live ht hxlive.1 hf, ← hhash, ← hexpires, hxk, hxe]

/-- Rows are revoked by their session or by their user. -/
theorem Refines.revoked (h : Refines rows σ) {q : RefreshToken → Bool} {reason : String} {now : Time}
    {p : UUID → Family UUID Bytes Time → Bool}
    (hq : ∀ t ∈ rows, ∀ f, f.user = t.userID → p t.sessionID f = q t) :
    Refines (rows.map (revokeIf q reason now)) (σ.endIf p) := by
  refine h.mapped (fun t => by simp) fun t ht f hf => ?_
  rw [hq t ht f hf]
  unfold live
  rw [revokeIf_isUsed, revokeIf_isRevoked]
  cases t.isUsed <;> cases t.isRevoked <;> cases q t <;> rfl

/-- The live row of a session is exchanged. -/
theorem Refines.marked (h : Refines rows σ) {t : RefreshToken} (new : UUID) (now : Time) (ht : t ∈ rows)
    (htlive : live t = true) (hids : ∀ x ∈ rows, x.id = t.id → x = t)
    (hhashes : ∀ x ∈ rows, x.tokenHash = t.tokenHash → x = t) :
    Refines (rows.map (exchangeIf t.id new now)) (σ.stop t.sessionID) := by
  refine h.mapped (fun x => ?_) fun x hx f _ => ?_
  · unfold exchangeIf
    split <;> exact ⟨rfl, rfl, rfl, rfl⟩
  · by_cases hxt : x = t
    · subst hxt
      have hunused : x.isUsed = false := by
        unfold live at htlive
        rw [Bool.not_eq_true', Bool.or_eq_false_iff] at htlive
        exact htlive.1
      have hmarked : exchangeIf x.id new now x = x.used new now := by simp [exchangeIf, hunused]
      rw [hmarked]
      simp [live]
    · have hid : (x.id == t.id) = false := beq_false_of_ne fun hid => hxt (hids x hx hid)
      have hsame : exchangeIf t.id new now x = x := by
        unfold exchangeIf
        rw [hid]
        rfl
      rw [hsame]
      by_cases hsession : x.sessionID = t.sessionID
      · cases hxlive : live x with
        | false => rfl
        | true => exact absurd (hhashes x hx (h.live_unique hx ht hsession hxlive htlive)) hxt
      · rw [decide_eq_false hsession]
        simp

/-- A row is added to a session without a live one. -/
theorem Refines.given (h : Refines rows σ) {new : RefreshToken} (hlive : live new = true)
    (huser : ∀ t ∈ rows, t.sessionID = new.sessionID → t.userID = new.userID)
    (hdead : ∀ t ∈ rows, t.sessionID = new.sessionID → live t = false)
    (hhash : ∀ t ∈ rows, t.tokenHash ≠ new.tokenHash) :
    Refines (rows ++ [new]) (σ.give new.sessionID new.userID new.tokenHash new.expiresAt) := by
  have hsplit : ∀ P : RefreshToken → Prop, (∃ t ∈ rows ++ [new], P t) ↔ (∃ t ∈ rows, P t) ∨ P new := by
    intro P
    simp only [List.mem_append, List.mem_singleton, or_and_right, exists_or, exists_eq_left]
  constructor
  · intro k s
    rw [hsplit, State.give_owner]
    by_cases hk : k = new.tokenHash
    · rw [if_pos hk, Option.some.injEq]
      refine ⟨fun hs => .inr ⟨hk.symm, hs⟩, ?_⟩
      rintro (⟨t, ht, htk, -⟩ | ⟨-, hs⟩)
      · exact absurd (htk.trans hk) (hhash t ht)
      · exact hs
    · rw [if_neg hk, h.owner]
      exact ⟨.inl, fun hs => hs.resolve_right fun hnew => hk hnew.1.symm⟩
  · intro s u
    rw [hsplit, State.give_family]
    by_cases hs : s = new.sessionID
    · rw [if_pos hs]
      constructor
      · rintro ⟨f, hf, hfu⟩
        cases hf
        exact .inr ⟨hs.symm, hfu⟩
      · rintro (⟨t, ht, hts, htu⟩ | ⟨-, hu⟩)
        · exact ⟨_, rfl, (huser t ht (hts.trans hs)).symm.trans htu⟩
        · exact ⟨_, rfl, hu⟩
    · rw [if_neg hs, h.user]
      exact ⟨.inl, fun hu => hu.resolve_right fun hnew => hs hnew.1.symm⟩
  · intro s k e
    rw [hsplit, State.give_family]
    by_cases hs : s = new.sessionID
    · rw [if_pos hs]
      constructor
      · rintro ⟨f, hf, hfk⟩
        cases hf
        cases hfk
        exact .inr ⟨hs.symm, rfl, rfl, hlive⟩
      · rintro (⟨t, ht, hts, -, -, htlive⟩ | ⟨-, hk, he, -⟩)
        · rw [hdead t ht (hts.trans hs)] at htlive
          cases htlive
        · exact ⟨_, rfl, by rw [hk, he]⟩
    · rw [if_neg hs, h.current]
      exact ⟨.inl, fun hk => hk.resolve_right fun hnew => hs hnew.1.symm⟩

end refines

/-! ### What a call does with the families -/

/-- The user may go on with a session. -/
def mayLogin (w : World d) (id : UUID) : Bool :=
  (w.userByID id).any fun user => (user.ensureCanLogin w.clock).isNone

/-- The key that `issuePairWithID` would store, and its expiry. -/
def successor (d : Deps) (r : Draws) (w : World d) (rc : RequestContext) (sessionID userID : UUID) :
    Option (Bytes × Time) :=
  (w.userByID userID).bind fun user =>
    match ((Auth.issuePairWithID d user sessionID rc w.clock).run (exec d r) w).1 with
    | .ok p => some (hashToken p.pair.refreshToken, p.pair.refreshExpiresAt.timestamptz)
    | .error _ => none

/-- What a call does with the families. -/
def use (d : Deps) (r : Draws) (w : World d) : Call → Use UUID UUID Bytes Time
  | .login creds rc =>
      match ((Auth.login d creds rc).run (exec d r) w).1 with
      | .ok (pair, user) => .start (r.uuid .session) user.id (hashToken pair.refreshToken)
          pair.refreshExpiresAt.timestamptz
      | .error _ => .skip
  | .refresh refreshToken rc =>
      .present (hashToken refreshToken) (fun expiresAt => decide (w.clock < expiresAt)) (mayLogin w)
        (successor d r w rc)
  | .logout refreshToken claims _ => .stop (Auth.logoutSessionID w refreshToken claims)
  | .logoutAll userID _ _ => .stopAll userID
  | .revoke actor memberID rc =>
      match ((Team.revoke actor memberID rc).run (exec d r) w).1 with
      | .ok _ => .stopAll memberID
      | .error _ => .skip
  | .invite _ _ _ _ | .updateRole _ _ _ _ => .skip

/-- What a reply says about the families. -/
def answerOf : Reply → Answer Bytes
  | .refresh (.ok pair) => .renewed (hashToken pair.refreshToken)
  | .refresh (.error (.sentinel .sessionRevoked)) => .stale
  | .refresh (.error (.sentinel .unauthenticated)) => .refused
  | .refresh (.error _) => .failed
  | _ => .done

section calls

variable {r : Draws} {w : World d} {σ : Sessions}

/-- The record of an issued pair. -/
theorem issued_record {user : SuperAdminUser} {sessionID : UUID} {rc : RequestContext}
    {p : Auth.IssuedPair} {w' : World d}
    (h : Auth.IssueEnd r w user sessionID rc w.clock (.ok p, w')) :
    ∃ new : RefreshToken, w'.tokens.rows = w.tokens.rows ++ [new] ∧ live new = true ∧
      new.sessionID = sessionID ∧ new.userID = user.id ∧ new.id = p.refreshTokenID ∧
      new.tokenHash = hashToken p.pair.refreshToken ∧
      new.expiresAt = p.pair.refreshExpiresAt.timestamptz ∧
      ∀ x ∈ w.tokens.rows, x.id ≠ new.id ∧ x.tokenHash ≠ new.tokenHash := by
  cases h with
  | issued access raw T hissue hraw hinsert huser =>
      obtain ⟨hrows, hfree⟩ := Table.insert?_eq_some hinsert
      exact ⟨_, hrows, rfl, rfl, rfl, rfl, rfl, rfl, fun x hx =>
        ⟨fun hid => hfree x hx (.inl hid), fun hhash => hfree x hx (.inr hhash)⟩⟩

/-- The exchange of a live row by a new one. -/
theorem Refines.exchanged (h : Refines w.tokens.rows σ) {stored new : RefreshToken} (now : Time)
    (hstored : stored ∈ w.tokens.rows) (hlive : live stored = true) (hnew : live new = true)
    (hsession : new.sessionID = stored.sessionID) (huser : new.userID = stored.userID)
    (hfresh : ∀ x ∈ w.tokens.rows, x.id ≠ new.id ∧ x.tokenHash ≠ new.tokenHash) :
    Refines ((w.tokens.rows ++ [new]).map (exchangeIf stored.id new.id now))
      (σ.give stored.sessionID stored.userID new.tokenHash new.expiresAt) := by
  have hids : ∀ x ∈ w.tokens.rows, x.id = stored.id → x = stored :=
    fun x hx hid => TokenTable.eq_of_id hx hstored hid
  have hhashes : ∀ x ∈ w.tokens.rows, x.tokenHash = stored.tokenHash → x = stored :=
    fun x hx hhash => TokenTable.eq_of_hash hx hstored hhash
  have hkept : exchangeIf stored.id new.id now new = new := by
    unfold exchangeIf
    rw [beq_false_of_ne (hfresh stored hstored).1.symm]
    rfl
  have hkeep : ∀ x, (exchangeIf stored.id new.id now x).sessionID = x.sessionID ∧
      (exchangeIf stored.id new.id now x).userID = x.userID ∧
      (exchangeIf stored.id new.id now x).tokenHash = x.tokenHash := by
    intro x
    unfold exchangeIf
    split <;> exact ⟨rfl, rfl, rfl⟩
  have hmarked := h.marked new.id now hstored hlive hids hhashes
  have hone : ∀ x ∈ w.tokens.rows, x.sessionID = stored.sessionID → x.userID = stored.userID := by
    intro x hx hxs
    obtain ⟨-, f, hf, hfx⟩ := h.family_of_mem hx
    obtain ⟨-, f', hf', hfs⟩ := h.family_of_mem hstored
    rw [hxs, hf'] at hf
    cases hf
    exact hfx.symm.trans hfs
  have hgiven : Refines (w.tokens.rows.map (exchangeIf stored.id new.id now) ++ [new])
      ((σ.stop stored.sessionID).give new.sessionID new.userID new.tokenHash new.expiresAt) := by
    refine hmarked.given hnew ?_ ?_ ?_
    · intro t ht hts
      obtain ⟨x, hx, rfl⟩ := List.mem_map.mp ht
      obtain ⟨hxs, hxu, -⟩ := hkeep x
      rw [hxu, huser]
      exact hone x hx (hxs.symm.trans (hts.trans hsession))
    · intro t ht hts
      -- the family has just lost its good key
      cases htlive : live t with
      | false => rfl
      | true =>
          obtain ⟨f, hf, hcurrent⟩ := (hmarked.current _ _ _).mpr ⟨t, ht, rfl, rfl, rfl, htlive⟩
          unfold State.stop at hf
          rw [State.endIf_family, Option.map_eq_some_iff] at hf
          obtain ⟨f', -, rfl⟩ := hf
          rw [decide_eq_true (hts.trans hsession)] at hcurrent
          cases hcurrent
    · intro t ht
      obtain ⟨x, hx, rfl⟩ := List.mem_map.mp ht
      rw [(hkeep x).2.2]
      exact (hfresh x hx).2
  rw [List.map_append, List.map_singleton, hkept]
  rw [hsession, huser, State.give_stop] at hgiven
  exact hgiven

/-- The rotation of a live row. -/
theorem rotate_refines {stored : RefreshToken} {user : SuperAdminUser} {rc : RequestContext}
    (h : Refines w.tokens.rows σ) (hstored : stored ∈ w.tokens.rows) (hlive : live stored = true)
    (huser : w.userByID stored.userID = some user) :
    answerOf (.refresh ((Auth.refreshRotate d stored user rc w.clock).run (exec d r) w).1) =
        (σ.renew stored.sessionID stored.userID
          (successor d r w rc stored.sessionID stored.userID)).1 ∧
      Refines ((Auth.refreshRotate d stored user rc w.clock).run (exec d r) w).2.tokens.rows
        (σ.renew stored.sessionID stored.userID
          (successor d r w rc stored.sessionID stored.userID)).2 := by
  unfold Auth.refreshRotate successor State.renew
  rw [Prog.run_bind, huser, Option.bind_some]
  have hissue := Auth.issuePairWithID_run r w user stored.sessionID rc w.clock
  generalize (Auth.issuePairWithID d user stored.sessionID rc w.clock).run (exec d r) w = res at hissue
  obtain ⟨e | p, w'⟩ := res
  · cases hissue with
    | failed text operands => exact ⟨rfl, h⟩
  · obtain ⟨-, hid⟩ := World.userByID_some huser
    obtain ⟨new, hrows, hnew, hsession, hnewUser, hnewID, hhash, hexpires, hfresh⟩ := issued_record hissue
    have hmark := Auth.markUsed_of_issued r w hissue stored.id w.clock
    have howner : σ.owner new.tokenHash = none := h.owner_none fun t ht => (hfresh t ht).2
    have hexchanged := h.exchanged w.clock hstored hlive hnew hsession (hnewUser.trans hid) hfresh
    have hmarked : (w'.after r (.tokens (.markUsed stored.id p.refreshTokenID w.clock))).tokens.rows =
        (w.tokens.rows ++ [new]).map (exchangeIf stored.id new.id w.clock) := by
      rw [← hrows, hnewID]
      exact markUsed_rows r w' (congrArg Prod.fst hmark)
    dsimp only
    rw [← hhash, ← hexpires, howner, Prog.run_bind, run_op, hmark]
    refine ⟨congrArg Answer.renewed hhash.symm, ?_⟩
    show Refines (World.audited _ _).tokens.rows _
    rw [World.writeAudit_tokens, hmarked]
    exact hexchanged

/-- The revocation of a session is the end of its family. -/
theorem Refines.sessionEnded (h : Refines w.tokens.rows σ) (sessionID : UUID) (reason : String)
    (now : Time) :
    Refines (w.after r (.tokens (.revokeSession sessionID reason now))).tokens.rows (σ.stop sessionID) :=
  h.revoked (q := (·.sessionID == sessionID)) fun t _ f _ => by
    by_cases hs : t.sessionID = sessionID <;> simp [hs]

theorem Refines.userEnded (h : Refines w.tokens.rows σ) (userID : UUID) (reason : String) (now : Time) :
    Refines (w.after r (.tokens (.revokeAllForUser userID reason now))).tokens.rows (σ.stopAll userID) :=
  h.revoked (q := (·.userID == userID)) fun t _ f hf => by
    by_cases hu : t.userID = userID <;> simp [hf, hu]

theorem refresh_refines (refreshToken : String) (rc : RequestContext) (h : Refines w.tokens.rows σ)
    (husers : ∀ t ∈ w.tokens.rows, w.hasUser t.userID = true) :
    answerOf (.refresh ((Auth.refresh d refreshToken rc).run (exec d r) w).1) =
        (σ.step (use d r w (.refresh refreshToken rc))).1 ∧
      Refines ((Auth.refresh d refreshToken rc).run (exec d r) w).2.tokens.rows
        (σ.step (use d r w (.refresh refreshToken rc))).2 := by
  unfold use State.step
  rw [Auth.refresh_run]
  dsimp only
  cases hfind : w.tokenByHash (hashToken refreshToken) with
  | none =>
      have howner : σ.owner (hashToken refreshToken) = none := h.owner_none fun t ht hhash => by
        rw [← hhash, World.tokenByHash_of_mem ht] at hfind
        cases hfind
      rw [State.present_unknown howner]
      exact ⟨rfl, h⟩
  | some stored =>
      obtain ⟨hstored, hhash⟩ := World.tokenByHash_some hfind
      obtain ⟨howner, f, hf, hfu⟩ := h.family_of_mem hstored
      rw [← hhash, State.present_of howner hf]
      dsimp only
      cases hdead : (stored.isUsed || stored.isRevoked) with
      | true =>
          have hstale : ∀ e, f.current ≠ some (stored.tokenHash, e) := by
            intro e he
            obtain ⟨t, ht, -, hhash', -, hlive⟩ := (h.current _ _ _).mp ⟨f, hf, he⟩
            rw [TokenTable.eq_of_hash ht hstored hhash', live, hdead] at hlive
            cases hlive
          rw [State.presentIn_stale hstale, if_pos rfl, Auth.reused, World.writeAudit_tokens]
          exact ⟨rfl, h.sessionEnded stored.sessionID RevokeReason.reuse w.clock⟩
      | false =>
          have hlive : live stored = true := by rw [live, hdead]; rfl
          rw [if_neg (by decide), State.presentIn_current (h.current_of_live hstored hlive hf)]
          by_cases hexpired : stored.isExpired w.clock = true
          · have hover : decide (w.clock < stored.expiresAt) = false := by
              unfold RefreshToken.isExpired at hexpired
              rwa [Bool.not_eq_true'] at hexpired
            rw [if_pos hexpired, hover]
            exact ⟨rfl, h⟩
          · have halive : decide (w.clock < stored.expiresAt) = true := by
              unfold RefreshToken.isExpired at hexpired
              rwa [Bool.not_eq_true, Bool.not_eq_false'] at hexpired
            obtain ⟨user, huser⟩ : ∃ user, w.userByID stored.userID = some user :=
              Option.isSome_iff_exists.mp (List.find?_isSome.mpr (List.any_eq_true.mp (husers stored hstored)))
            rw [if_neg hexpired, halive, if_pos rfl, hfu, mayLogin, huser, Option.any_some]
            dsimp only
            cases hlogin : user.ensureCanLogin w.clock with
            | some e =>
                exact ⟨rfl, h.sessionEnded (r := r) stored.sessionID RevokeReason.userDisabled w.clock⟩
            | none => exact rotate_refines h hstored hlive huser

theorem login_refines (creds : Credentials) (rc : RequestContext) (h : Refines w.tokens.rows σ)
    (hfree : ∀ t ∈ w.tokens.rows, t.sessionID ≠ r.uuid .session) :
    Answer.done = (σ.step (use d r w (.login creds rc))).1 ∧
      Refines ((Auth.login d creds rc).run (exec d r) w).2.tokens.rows
        (σ.step (use d r w (.login creds rc))).2 := by
  unfold use
  dsimp only
  rw [Auth.login_run]
  rcases Auth.outcome d creds.password (w.userByEmail (Password.normalizeEmail d creds.email)) with
    ⟨user, e⟩ | user
  · dsimp only
    by_cases hinvalid : e.is .invalidCredentials = true
    · rw [if_pos hinvalid, Auth.loginRefused_run, World.writeAudit_tokens]
      cases user <;> exact ⟨rfl, h⟩
    · rw [if_neg hinvalid]
      exact ⟨rfl, h⟩
  · dsimp only
    have hend := Auth.loginUser_run r w user rc
    generalize (Auth.loginUser d user rc w.clock).run (exec d r) w = res at hend
    cases hend with
    | refused e hlogin =>
        rw [World.writeAudit_tokens]
        exact ⟨rfl, h⟩
    | failed e hlogin hissue => exact ⟨rfl, h⟩
    | issued p w' entry hlogin hissue hactor =>
        obtain ⟨new, hrows, hnew, hsession, huser, -, hhash, hexpires, hfresh⟩ := issued_record hissue
        have hfamily : σ.family (r.uuid .session) = none := h.family_none hfree
        have howner : σ.owner (hashToken p.pair.refreshToken) = none := by
          rw [← hhash]
          exact h.owner_none fun t ht => (hfresh t ht).2
        have hgiven := h.given hnew
          (fun t ht hts => absurd (hts.trans hsession) (hfree t ht))
          (fun t ht hts => absurd (hts.trans hsession) (hfree t ht)) fun t ht => (hfresh t ht).2
        unfold State.step
        dsimp only
        rw [hfamily, howner, World.writeAudit_tokens, hrows]
        rw [hsession, huser, hhash, hexpires] at hgiven
        exact ⟨rfl, hgiven⟩

/-- A call answers as the machine does and leaves the rows of its families. -/
theorem call_refines (c : Call) (h : Refines w.tokens.rows σ)
    (husers : ∀ t ∈ w.tokens.rows, w.hasUser t.userID = true)
    (hnil : ∀ t ∈ w.tokens.rows, t.sessionID ≠ UUID.nil)
    (hfree : c.isLogin = true → ∀ t ∈ w.tokens.rows, t.sessionID ≠ r.uuid .session) :
    answerOf ((c.proc d).run (exec d r) w).1 = (σ.step (use d r w c)).1 ∧
      Refines ((c.proc d).run (exec d r) w).2.tokens.rows (σ.step (use d r w c)).2 := by
  cases c with
  | login creds rc =>
      rw [Call.proc, Prog.run_map]
      exact login_refines creds rc h (hfree rfl)
  | refresh refreshToken rc =>
      rw [Call.proc, Prog.run_map]
      exact refresh_refines refreshToken rc h husers
  | logout refreshToken claims rc =>
      rw [Call.proc, Prog.run_map, Auth.logout_run, Auth.logoutSession_run, Auth.logoutAccess_tokens,
        sessionRevoked_rows]
      refine ⟨rfl, h.revoked fun t ht f _ => ?_⟩
      by_cases hs : t.sessionID = Auth.logoutSessionID w refreshToken claims
      · rw [← hs, decide_eq_true rfl, bne_iff_ne.mpr (hnil t ht)]
        simp
      · rw [decide_eq_false hs, beq_false_of_ne hs, Bool.and_false]
  | logoutAll userID actor rc =>
      rw [Call.proc, Prog.run_map, Auth.logoutAll_run, World.writeAudit_tokens]
      exact ⟨rfl, h.userEnded userID _ _⟩
  | invite actor email role rc =>
      rw [Call.proc, Prog.run_map]
      have hend := Team.invite_run r w actor email role rc
      generalize (Team.invite actor email role rc).run (exec d r) w = res at hend
      cases hend with
      | failed e => exact ⟨rfl, h⟩
      | done a op entry hop hactor =>
          obtain ⟨inv, rfl⟩ := hop
          rw [World.writeAudit_tokens]
          exact ⟨rfl, h⟩
  | updateRole actor memberID role rc =>
      rw [Call.proc, Prog.run_map]
      have hend := Team.updateRole_run r w actor memberID role rc
      generalize (Team.updateRole actor memberID role rc).run (exec d r) w = res at hend
      cases hend with
      | failed e => exact ⟨rfl, h⟩
      | done a op entry hop hactor =>
          cases hop
          rw [World.writeAudit_tokens]
          exact ⟨rfl, h⟩
  | revoke actor memberID rc =>
      rw [Call.proc, Prog.run_map]
      unfold use
      dsimp only
      have hend := Team.revoke_run r w actor memberID rc
      generalize (Team.revoke actor memberID rc).run (exec d r) w = res at hend
      cases hend with
      | failed e => exact ⟨rfl, h⟩
      | done entry hactor =>
          rw [World.writeAudit_tokens]
          have hkept : Refines (w.after r (.users (.updateStatus memberID .suspended))).tokens.rows σ := h
          exact ⟨rfl, hkept.userEnded memberID _ _⟩

end calls

/-! ### Sequential runs -/

/-- What the calls of some turns do with the families. -/
def uses (d : Deps) : List Turn → World d → List (Use UUID UUID Bytes Time)
  | [], _ => []
  | t :: l, w => use d t.draws { w with clock := t.now } t.call :: uses d l (t.run d w).2

/-- The replies to the calls of some turns. -/
def replies (d : Deps) : List Turn → World d → List Reply
  | [], _ => []
  | t :: l, w => (t.run d w).1 :: replies d l (t.run d w).2

/-- The rows after some turns, with the families that they are of. -/
structure Tracks (l : List Turn) (w : World d) (σ : Sessions) : Prop where
  refines : Refines w.tokens.rows σ
  users : ∀ t ∈ w.tokens.rows, w.hasUser t.userID = true
  chained : Chained l w.tokens.rows

/-- A turn answers as the machine does and leaves the rows of its families. -/
theorem Tracks.turn {l : List Turn} {t : Turn} {w : World d} {σ : Sessions} (h : Tracks l w σ)
    (hnew : NewSessions (l ++ [t])) :
    answerOf (t.run d w).1 = (σ.step (use d t.draws { w with clock := t.now } t.call)).1 ∧
      Tracks (l ++ [t]) (t.run d w).2 (σ.step (use d t.draws { w with clock := t.now } t.call)).2 := by
  have hnil : ∀ x ∈ w.tokens.rows, x.sessionID ≠ UUID.nil := by
    intro x hx hs
    obtain ⟨a, -, -, has⟩ := h.chained.opened x hx
    exact a.draws.uuid_ne_nil _ (has.trans hs)
  have hcall := call_refines (d := d) (r := t.draws) (w := { w with clock := t.now }) t.call h.refines
    h.users hnil (h.chained.free hnew)
  refine ⟨hcall.1, hcall.2, ?_, h.chained.turn hnew⟩
  exact (t.call.keepsRows d).run (I := fun w' : World d => ∀ x ∈ w'.tokens.rows, w'.hasUser x.userID = true)
    (fun _ _ hop hw' => Audit.tokens_name_users hop hw') h.users

theorem Tracks.run {l l' : List Turn} {w : World d} {σ : Sessions} (h : Tracks l w σ)
    (hnew : NewSessions (l ++ l')) :
    (replies d l' w).map answerOf = σ.answers (uses d l' w) ∧
      Tracks (l ++ l') (runTurns d l' w) (σ.after (uses d l' w)) := by
  induction l' generalizing l w σ with
  | nil =>
      rw [List.append_nil]
      exact ⟨rfl, h⟩
  | cons t l' ih =>
      rw [List.append_cons] at hnew ⊢
      obtain ⟨hanswer, hnext⟩ := h.turn (List.pairwise_append.mp hnew).1
      obtain ⟨hanswers, hend⟩ := ih hnext hnew
      exact ⟨List.cons_eq_cons.mpr ⟨hanswer, hanswers⟩, hend⟩

theorem tracks_empty {w : World d} (hempty : w.tokens.rows = []) : Tracks [] w (State.empty : Sessions) := by
  have hmem : ∀ t, t ∉ w.tokens.rows := by
    intro t ht
    rw [hempty] at ht
    cases ht
  refine ⟨hempty ▸ refines_empty, fun t ht => absurd ht (hmem t), ⟨fun s => ?_, fun t ht => absurd ht (hmem t)⟩⟩
  rw [hempty]
  exact .nil

/-- Along every sequential run from an empty token table the calls answer as the machine of one-time keys
does, and the rows at its end are those of the machine's families. -/
theorem sessions_refine {l : List Turn} {w : World d} (hempty : w.tokens.rows = [])
    (hnew : NewSessions l) :
    (replies d l w).map answerOf = State.empty.answers (uses d l w) ∧
      Refines (runTurns d l w).tokens.rows (State.empty.after (uses d l w)) := by
  obtain ⟨hanswers, hend⟩ := (tracks_empty hempty).run (l := []) hnew
  exact ⟨hanswers, hend.refines⟩

/-- A login, a refresh with its token, and the same token once more: the machine calls it stale. -/
theorem sessions_refine_reuse :
    (State.empty.answers (uses Sample.deps reuseTurns Sample.world)).getLast? = some .stale ∧
      (replies Sample.deps reuseTurns Sample.world).map answerOf =
        State.empty.answers (uses Sample.deps reuseTurns Sample.world) := by
  have hnew : NewSessions reuseTurns := by
    unfold NewSessions
    decide
  exact ⟨by decide +kernel, (sessions_refine rfl hnew).1⟩

/-- In a sequential run no refresh token is exchanged twice, and none of a session that has ended: a
token that is not live at some moment is refused whenever it is presented after that moment. -/
theorem dead_token_refused {l₁ l₂ : List Turn} {again : Turn} {w : World d} (hempty : w.tokens.rows = [])
    (hnew : NewSessions (l₁ ++ l₂ ++ [again])) {x : RefreshToken}
    (hx : x ∈ (runTurns d l₁ w).tokens.rows) (hdead : live x = false) (hagain : RefreshOf x again) :
    ∃ e, (again.run d (runTurns d (l₁ ++ l₂) w)).1 = .refresh (.error e) := by
  have hnew₂ : NewSessions (l₁ ++ l₂) := (List.pairwise_append.mp hnew).1
  have hnew₁ : NewSessions l₁ := (List.pairwise_append.mp hnew₂).1
  obtain ⟨-, htracks⟩ := (tracks_empty (d := d) hempty).run (l := []) hnew₁
  obtain ⟨-, hlater⟩ := htracks.run hnew₂
  obtain ⟨hanswer, -⟩ := hlater.turn hnew
  -- the key of the row is spent, and stays so
  have hspent : (State.empty.after (uses d l₁ w) : Sessions).Spent x.tokenHash := by
    obtain ⟨howner, -⟩ := htracks.refines.family_of_mem hx
    refine ⟨x.sessionID, howner, fun f hf e he => ?_⟩
    obtain ⟨t, ht, -, hhash, -, hlive⟩ := (htracks.refines.current _ _ _).mp ⟨f, hf, he⟩
    rw [TokenTable.eq_of_hash ht hx hhash, hdead] at hlive
    cases hlive
  obtain ⟨refreshToken, rc, hcall, hhash⟩ := hagain
  rw [← hhash] at hspent
  rw [← runTurns_append] at hanswer
  have hreply : ∃ res, (again.run d (runTurns d (l₁ ++ l₂) w)).1 = .refresh res := by
    unfold Turn.run
    rw [hcall, Call.proc, Prog.run_map]
    exact ⟨_, rfl⟩
  obtain ⟨res, hres⟩ := hreply
  rw [hres] at hanswer ⊢
  cases res with
  | error e => exact ⟨e, rfl⟩
  | ok pair =>
      rw [hcall] at hanswer
      exact absurd hanswer.symm ((hspent.run _).not_renewed _)

end SuperAdmin.Rotation
