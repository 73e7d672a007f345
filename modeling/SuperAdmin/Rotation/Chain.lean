import SuperAdmin.Endings
import SuperAdmin.Rotation.Finality
import Mathlib.Data.List.Chain

/-! # The chain of a session

Taken in the order of their creation, the tokens of a session form a chain: each was exchanged
for the next one, the last one was not exchanged, and they are revoked together.  A call that
runs alone changes the rows in one of four ways (`Change`), each of which keeps every chain a
chain, so that the invariant holds along every sequential run. -/

namespace SuperAdmin.Rotation

open Effects Usecase

variable {d : Deps}

/-! ### Chains -/

/-- The tokens of a session in the order of their creation. -/
def chainOf (s : UUID) (rows : List RefreshToken) : List RefreshToken :=
  rows.filter (·.sessionID == s)

/-- Each token was exchanged for the next one, and the last one was not exchanged. -/
structure Linked (l : List RefreshToken) : Prop where
  links : l.IsChain fun a b => a.isUsed = true ∧ a.replacedBy = some b.id
  last : ∀ t ∈ l.getLast?, t.isUsed = false ∧ t.replacedBy = none

/-- The tokens of one session. -/
structure SessionChain (l : List RefreshToken) : Prop where
  oneUser : ∀ a ∈ l, ∀ b ∈ l, a.userID = b.userID
  linked : Linked l
  revoked : (∀ t ∈ l, t.isRevoked = true) ∨ ∀ t ∈ l, t.isRevoked = false

/-- A token as it is inserted. -/
structure Unexchanged (t : RefreshToken) : Prop where
  used : t.isUsed = false
  revoked : t.isRevoked = false
  replacedBy : t.replacedBy = none

theorem mem_chainOf {s : UUID} {rows : List RefreshToken} {t : RefreshToken} :
    t ∈ chainOf s rows ↔ t ∈ rows ∧ t.sessionID = s := by
  simp [chainOf, List.mem_filter]

/-- A change of single rows that leaves their session changes the chain row by row. -/
theorem chainOf_map {s : UUID} {rows : List RefreshToken} {f : RefreshToken → RefreshToken}
    (hf : ∀ t, (f t).sessionID = t.sessionID) :
    chainOf s (rows.map f) = (chainOf s rows).map f := by
  unfold chainOf
  rw [List.filter_map]
  congr 1
  apply List.filter_congr
  intro t _
  simp [hf t]

theorem linked_nil : Linked [] := ⟨.nil, fun t ht => by cases ht⟩

theorem linked_singleton {t : RefreshToken} (ht : Unexchanged t) : Linked [t] where
  links := .singleton t
  last := by
    intro x hx
    cases hx
    exact ⟨ht.used, ht.replacedBy⟩

/-- What keeps ids and exchanges keeps the links. -/
theorem Linked.map {l : List RefreshToken} (h : Linked l) {f : RefreshToken → RefreshToken}
    (hid : ∀ t, (f t).id = t.id) (hused : ∀ t, (f t).isUsed = t.isUsed)
    (hreplaced : ∀ t, (f t).replacedBy = t.replacedBy) : Linked (l.map f) where
  links := by
    rw [List.isChain_map]
    refine h.links.imp fun a b hab => ?_
    rw [hused, hreplaced, hid]
    exact hab
  last := by
    intro t ht
    rw [List.getLast?_map, Option.mem_map] at ht
    obtain ⟨x, hx, rfl⟩ := ht
    rw [hused, hreplaced]
    exact h.last x hx

/-- The only token of a chain that was not exchanged is the last one. -/
theorem Linked.eq_concat {l : List RefreshToken} (h : Linked l) {t : RefreshToken} (ht : t ∈ l)
    (hunused : t.isUsed = false) : ∃ front, l = front ++ [t] ∧ ∀ x ∈ front, x.isUsed = true := by
  rcases List.eq_nil_or_concat l with rfl | ⟨front, last, rfl⟩
  · cases ht
  · rw [List.concat_eq_append] at *
    have hfront : ∀ x ∈ front, x.isUsed = true := by
      intro x hx
      obtain ⟨a, b, rfl⟩ := List.append_of_mem hx
      have hlinks := h.links
      rw [List.append_assoc, List.cons_append, List.isChain_split] at hlinks
      obtain ⟨-, hx⟩ := hlinks
      cases b with
      | nil => exact (hx.rel_head? rfl).1
      | cons y b => exact (hx.rel_head? rfl).1
    refine ⟨front, ?_, hfront⟩
    rw [List.mem_append, List.mem_singleton] at ht
    rcases ht with ht | rfl
    · rw [hfront t ht] at hunused
      cases hunused
    · rfl

/-- The last token of a chain is exchanged for a new one. -/
theorem Linked.exchange {front : List RefreshToken} {t new : RefreshToken} {now : Time}
    (h : Linked (front ++ [t])) (hnew : Unexchanged new) :
    Linked (front ++ [t.used new.id now, new]) where
  links := by
    obtain ⟨hfront, -, hlast⟩ := List.isChain_append.mp h.links
    rw [List.isChain_append_cons_cons]
    refine ⟨hfront.append (.singleton _) ?_, ⟨rfl, rfl⟩, .singleton _⟩
    intro x hx y hy
    cases hy
    exact hlast x hx t rfl
  last := by
    intro x hx
    rw [List.getLast?_append] at hx
    cases hx
    exact ⟨hnew.used, hnew.replacedBy⟩

/-! ### What a call makes of the rows -/

/-- A row after the tokens that satisfy `q` were revoked. -/
def revokeIf (q : RefreshToken → Bool) (reason : String) (now : Time) (t : RefreshToken) :
    RefreshToken :=
  if q t && !t.isRevoked then t.revoked reason now else t

/-- A row after the token `id` was exchanged for `new`. -/
def exchangeIf (id new : UUID) (now : Time) (t : RefreshToken) : RefreshToken :=
  if t.id == id && !t.isUsed then t.used new now else t

/-- The four ways in which a call that runs alone changes the rows. -/
inductive Change (c : Call) (r : Draws) (rows : List RefreshToken) : List RefreshToken → Prop
  | none : Change c r rows rows
  | revoked (q : RefreshToken → Bool) (reason : String) (now : Time)
      (hq : (∃ s, q = (·.sessionID == s)) ∨ ∃ u, q = (·.userID == u)) :
      Change c r rows (rows.map (revokeIf q reason now))
  | opened (new : RefreshToken) (hlogin : c.isLogin = true) (hnew : Unexchanged new)
      (hsession : new.sessionID = r.uuid .session) : Change c r rows (rows ++ [new])
  | exchanged (t new : RefreshToken) (now : Time) (ht : t ∈ rows) (hused : t.isUsed = false)
      (hrevoked : t.isRevoked = false) (hnew : Unexchanged new)
      (hsession : new.sessionID = t.sessionID) (huser : new.userID = t.userID)
      (hids : ∀ x ∈ rows, x.id = t.id → x = t) (hfresh : new.id ≠ t.id) :
      Change c r rows ((rows ++ [new]).map (exchangeIf t.id new.id now))

section revokeIf

variable (q : RefreshToken → Bool) (reason : String) (now : Time) (t : RefreshToken)

@[simp] theorem revokeIf_id : (revokeIf q reason now t).id = t.id := by
  unfold revokeIf; split <;> rfl
@[simp] theorem revokeIf_userID : (revokeIf q reason now t).userID = t.userID := by
  unfold revokeIf; split <;> rfl
@[simp] theorem revokeIf_sessionID : (revokeIf q reason now t).sessionID = t.sessionID := by
  unfold revokeIf; split <;> rfl
@[simp] theorem revokeIf_tokenHash : (revokeIf q reason now t).tokenHash = t.tokenHash := by
  unfold revokeIf; split <;> rfl
@[simp] theorem revokeIf_expiresAt : (revokeIf q reason now t).expiresAt = t.expiresAt := by
  unfold revokeIf; split <;> rfl
@[simp] theorem revokeIf_isUsed : (revokeIf q reason now t).isUsed = t.isUsed := by
  unfold revokeIf; split <;> rfl
@[simp] theorem revokeIf_replacedBy : (revokeIf q reason now t).replacedBy = t.replacedBy := by
  unfold revokeIf; split <;> rfl

@[simp] theorem revokeIf_isRevoked : (revokeIf q reason now t).isRevoked = (q t || t.isRevoked) := by
  unfold revokeIf
  cases hq : q t <;> cases hr : t.isRevoked <;> simp [hr]

end revokeIf

theorem exchangeIf_sessionID (id new : UUID) (now : Time) (t : RefreshToken) :
    (exchangeIf id new now t).sessionID = t.sessionID := by
  unfold exchangeIf
  split <;> rfl

/-- A revocation of tokens that are not there, or not alive. -/
theorem map_revokeIf {l : List RefreshToken} {q : RefreshToken → Bool} {reason : String} {now : Time}
    (h : ∀ t ∈ l, t.isRevoked = false → q t = false) : l.map (revokeIf q reason now) = l := by
  refine map_eq_self fun t ht => ?_
  cases hlive : t.isRevoked with
  | true => simp [revokeIf, hlive]
  | false => simp [revokeIf, h t ht hlive]

/-- An exchange of a token that is not there, or was exchanged before. -/
theorem map_exchangeIf {l : List RefreshToken} {id new : UUID} {now : Time}
    (h : ∀ t ∈ l, t.id = id → t.isUsed = true) : l.map (exchangeIf id new now) = l := by
  refine map_eq_self fun t ht => ?_
  by_cases hid : t.id = id
  · simp [exchangeIf, h t ht hid]
  · simp [exchangeIf, hid]

/-- The rows after `Logout` has revoked a session. -/
theorem sessionRevoked_rows {r : Draws} (w : World d) (sessionID : UUID) :
    (Auth.sessionRevoked w r sessionID).tokens.rows = w.tokens.rows.map
      (revokeIf (fun t => sessionID != UUID.nil && t.sessionID == sessionID) RevokeReason.logout
        w.clock) := by
  unfold Auth.sessionRevoked
  by_cases hnil : sessionID = UUID.nil
  · rw [if_neg (not_not.mpr hnil)]
    exact (map_revokeIf fun t _ _ => by simp [hnil]).symm
  · have hne : (sessionID != UUID.nil) = true := bne_iff_ne.mpr hnil
    rw [if_pos hnil]
    simp only [hne, Bool.true_and]
    rfl

/-! ### The chains after a change -/

section change

variable {l : List RefreshToken}

theorem SessionChain.nil : SessionChain [] where
  oneUser := by intro a ha; cases ha
  linked := linked_nil
  revoked := .inl fun t ht => by cases ht

theorem SessionChain.singleton {new : RefreshToken} (hnew : Unexchanged new) :
    SessionChain [new] where
  oneUser := by
    intro a ha b hb
    rw [List.mem_singleton] at ha hb
    rw [ha, hb]
  linked := linked_singleton hnew
  revoked := by
    refine .inr fun t ht => ?_
    rw [List.mem_singleton] at ht
    rw [ht, hnew.revoked]

/-- All tokens of a session are revoked, or none. -/
theorem SessionChain.revokeIf (h : SessionChain l) {q : RefreshToken → Bool} {reason : String}
    {now : Time} (hq : ∀ a ∈ l, ∀ b ∈ l, q a = q b) : SessionChain (l.map (revokeIf q reason now)) where
  oneUser := by
    intro a ha b hb
    obtain ⟨x, hx, rfl⟩ := List.mem_map.mp ha
    obtain ⟨y, hy, rfl⟩ := List.mem_map.mp hb
    rw [revokeIf_userID, revokeIf_userID]
    exact h.oneUser x hx y hy
  linked := h.linked.map (revokeIf_id q reason now) (revokeIf_isUsed q reason now)
    (revokeIf_replacedBy q reason now)
  revoked := by
    by_cases hall : ∃ a ∈ l, q a = true
    · obtain ⟨a, ha, hqa⟩ := hall
      refine .inl fun t ht => ?_
      obtain ⟨x, hx, rfl⟩ := List.mem_map.mp ht
      rw [revokeIf_isRevoked, hq x hx a ha, hqa, Bool.true_or]
    · have hnone : ∀ x ∈ l, (Rotation.revokeIf q reason now x).isRevoked = x.isRevoked := by
        intro x hx
        have hqx : q x = false := by
          rw [Bool.eq_false_iff]
          exact fun hqx => hall ⟨x, hx, hqx⟩
        rw [revokeIf_isRevoked, hqx, Bool.false_or]
      refine h.revoked.imp (fun hr t ht => ?_) fun hr t ht => ?_ <;>
        obtain ⟨x, hx, rfl⟩ := List.mem_map.mp ht <;> rw [hnone x hx] <;> exact hr x hx

/-- The token that was not exchanged is exchanged for a new one. -/
theorem SessionChain.exchange (h : SessionChain l) {t new : RefreshToken} {now : Time} (ht : t ∈ l)
    (hused : t.isUsed = false) (hrevoked : t.isRevoked = false) (hnew : Unexchanged new)
    (huser : new.userID = t.userID) (hids : ∀ x ∈ l, x.id = t.id → x = t) (hfresh : new.id ≠ t.id) :
    SessionChain ((l ++ [new]).map (exchangeIf t.id new.id now)) := by
  obtain ⟨front, rfl, hfront⟩ := h.linked.eq_concat ht hused
  have hrows : (front ++ [t] ++ [new]).map (exchangeIf t.id new.id now) =
      front ++ [t.used new.id now, new] := by
    have hkeep : front.map (exchangeIf t.id new.id now) = front :=
      map_exchangeIf fun x hx _ => hfront x hx
    rw [List.map_append, List.map_append, hkeep, List.append_assoc]
    simp [exchangeIf, hused, hfresh]
  rw [hrows]
  have hlive : ∀ x ∈ front ++ [t], x.isRevoked = false := by
    rcases h.revoked with hr | hr
    · rw [hr t ht] at hrevoked
      cases hrevoked
    · exact hr
  have hmem : ∀ x ∈ front ++ [t.used new.id now, new],
      x.userID = t.userID ∧ x.isRevoked = false := by
    intro x hx
    rw [List.mem_append, List.mem_cons, List.mem_singleton] at hx
    rcases hx with hx | rfl | rfl
    · have hx' : x ∈ front ++ [t] := List.mem_append_left _ hx
      exact ⟨h.oneUser x hx' t ht, hlive x hx'⟩
    · exact ⟨rfl, hrevoked⟩
    · exact ⟨huser, hnew.revoked⟩
  exact ⟨fun a ha b hb => (hmem a ha).1.trans (hmem b hb).1.symm, h.linked.exchange hnew,
    .inr fun x hx => (hmem x hx).2⟩

theorem Change.chains {c : Call} {r : Draws} {rows rows' : List RefreshToken}
    (h : Change c r rows rows') (hrows : ∀ s, SessionChain (chainOf s rows))
    (hfree : c.isLogin = true → ∀ t ∈ rows, t.sessionID ≠ r.uuid .session) (s : UUID) :
    SessionChain (chainOf s rows') := by
  cases h with
  | none => exact hrows s
  | revoked q reason now hq =>
      rw [chainOf_map (revokeIf_sessionID q reason now)]
      refine (hrows s).revokeIf fun a ha b hb => ?_
      -- the tokens of the chain agree in their session and in their user
      have hsession : a.sessionID = b.sessionID :=
        (mem_chainOf.mp ha).2.trans (mem_chainOf.mp hb).2.symm
      have huser : a.userID = b.userID := (hrows s).oneUser a ha b hb
      rcases hq with ⟨s', rfl⟩ | ⟨u, rfl⟩
      · simp [hsession]
      · simp [huser]
  | opened new hlogin hnew hsession =>
      rw [chainOf, List.filter_append]
      by_cases hs : new.sessionID = s
      · have hnone : rows.filter (·.sessionID == s) = [] := by
          rw [List.filter_eq_nil_iff]
          intro t ht
          simpa [← hs, hsession] using hfree hlogin t ht
        rw [hnone]
        simpa [hs] using SessionChain.singleton hnew
      · simpa [hs, chainOf] using hrows s
  | exchanged t new now ht hused hrevoked hnew hsession huser hids hfresh =>
      rw [chainOf_map (exchangeIf_sessionID t.id new.id now), chainOf, List.filter_append]
      by_cases hs : new.sessionID = s
      · have hmem : t ∈ chainOf s rows := mem_chainOf.mpr ⟨ht, hsession.symm.trans hs⟩
        simpa [hs, chainOf] using (hrows s).exchange hmem hused hrevoked hnew huser
          (fun x hx => hids x (mem_chainOf.mp hx).1) hfresh
      · have hsame : (chainOf s rows).map (exchangeIf t.id new.id now) = chainOf s rows := by
          refine map_exchangeIf fun x hx hid => absurd ?_ hs
          obtain ⟨hxrows, hxs⟩ := mem_chainOf.mp hx
          have hxt : x = t := hids x hxrows hid
          rw [hxt] at hxs
          exact hsession.trans hxs
        have hnone : [new].filter (·.sessionID == s) = [] := by simp [hs]
        rw [hnone, List.append_nil, ← chainOf, hsame]
        exact hrows s

/-- A session of which every token is revoked stays so. -/
theorem Change.dead {c : Call} {r : Draws} {rows rows' : List RefreshToken} {s : UUID}
    (h : Change c r rows rows') (hs : ∃ t ∈ rows, t.sessionID = s)
    (hdead : ∀ t ∈ rows, t.sessionID = s → t.isRevoked = true)
    (hfree : c.isLogin = true → ∀ t ∈ rows, t.sessionID ≠ r.uuid .session) :
    ∀ t ∈ rows', t.sessionID = s → t.isRevoked = true := by
  cases h with
  | none => exact hdead
  | revoked q reason now hq =>
      intro x hx hxs
      obtain ⟨y, hy, rfl⟩ := List.mem_map.mp hx
      rw [revokeIf_sessionID] at hxs
      rw [revokeIf_isRevoked, hdead y hy hxs, Bool.or_true]
  | opened new hlogin hnew hsession =>
      intro x hx hxs
      rw [List.mem_append, List.mem_singleton] at hx
      rcases hx with hx | rfl
      · exact hdead x hx hxs
      · obtain ⟨t, ht, hts⟩ := hs
        exact absurd (hts.trans (hxs.symm.trans hsession)) (hfree hlogin t ht)
  | exchanged t new now ht hused hrevoked hnew hsession huser hids hfresh =>
      have hlive : t.sessionID ≠ s := by
        intro hts
        rw [hdead t ht hts] at hrevoked
        cases hrevoked
      intro x hx hxs
      obtain ⟨y, hy, rfl⟩ := List.mem_map.mp hx
      have hkeep : (exchangeIf t.id new.id now y).sessionID = y.sessionID ∧
          (exchangeIf t.id new.id now y).isRevoked = y.isRevoked := by
        unfold exchangeIf
        split <;> exact ⟨rfl, rfl⟩
      rw [hkeep.1] at hxs
      rw [hkeep.2]
      rw [List.mem_append, List.mem_singleton] at hy
      rcases hy with hy | rfl
      · exact hdead y hy hxs
      · exact absurd (hsession.symm.trans hxs) hlive

end change

/-! ### Every call is such a change -/

section calls

variable (r : Draws) (w : World d)

/-- The record that a pair leaves. -/
theorem issued_rows {user : SuperAdminUser} {sessionID : UUID} {rc : RequestContext} {now : Time}
    {p : Auth.IssuedPair} {w' : World d}
    (h : Auth.IssueEnd r w user sessionID rc now (.ok p, w')) :
    ∃ new : RefreshToken, w'.tokens.rows = w.tokens.rows ++ [new] ∧ Unexchanged new ∧
      new.sessionID = sessionID ∧ new.userID = user.id ∧ new.id = p.refreshTokenID ∧
      ∀ x ∈ w.tokens.rows, x.id ≠ new.id := by
  cases h with
  | issued access raw T hissue hraw hinsert huser =>
      obtain ⟨hrows, hfree⟩ := Table.insert?_eq_some hinsert
      exact ⟨_, hrows, ⟨rfl, rfl, rfl⟩, rfl, rfl, rfl, fun x hx hid => hfree x hx (.inl hid)⟩

theorem change_revokeSession {c : Call} (sessionID : UUID) (reason : String) (now : Time) :
    Change c r w.tokens.rows
      (w.after r (.tokens (.revokeSession sessionID reason now))).tokens.rows :=
  .revoked (·.sessionID == sessionID) reason now (.inl ⟨sessionID, rfl⟩)

theorem change_revokeAllForUser {c : Call} (userID : UUID) (reason : String) (now : Time) :
    Change c r w.tokens.rows
      (w.after r (.tokens (.revokeAllForUser userID reason now))).tokens.rows :=
  .revoked (·.userID == userID) reason now (.inr ⟨userID, rfl⟩)

/-- A `MarkUsed` that does not fail exchanges the token. -/
theorem markUsed_rows {id new : UUID} {now : Time}
    (h : (exec d r (.tokens (.markUsed id new now)) w).1 = .ok ()) :
    (w.after r (.tokens (.markUsed id new now))).tokens.rows =
      w.tokens.rows.map (exchangeIf id new now) := by
  have hres : (TokensOp.exec w.hasUser w.clock (.markUsed id new now) w.tokens).1 = .ok () := h
  show (TokensOp.exec w.hasUser w.clock (.markUsed id new now) w.tokens).2.rows = _
  rcases TokensOp.exec_markUsed w.hasUser w.clock (T := w.tokens) id new now with he | ⟨_, _, he⟩
  · rw [he]
    rfl
  · rw [he] at hres
    cases hres

theorem login_change (creds : Credentials) (rc : RequestContext) :
    Change (.login creds rc) r w.tokens.rows
      ((Auth.login d creds rc).run (exec d r) w).2.tokens.rows := by
  rw [Auth.login_run]
  split
  · split
    · rw [Auth.loginRefused_run, World.writeAudit_tokens]
      rename_i user e _ _
      cases user <;> exact .none
    · exact .none
  · rename_i user _
    have hend := Auth.loginUser_run r w user rc
    generalize (Auth.loginUser d user rc w.clock).run (exec d r) w = res at hend
    cases hend with
    | refused e h =>
        rw [World.writeAudit_tokens]
        exact .none
    | failed e h => exact .none
    | issued p w' entry h hissue hactor =>
        obtain ⟨new, hrows, hnew, hsession, -⟩ := issued_rows r _ hissue
        rw [World.writeAudit_tokens, hrows]
        exact .opened new rfl hnew hsession

theorem refresh_change (refreshToken : String) (rc : RequestContext) :
    Change (.refresh refreshToken rc) r w.tokens.rows
      ((Auth.refresh d refreshToken rc).run (exec d r) w).2.tokens.rows := by
  rw [Auth.refresh_run]
  split
  · exact .none
  · rename_i stored hfind
    split
    · rw [Auth.reused, World.writeAudit_tokens]
      exact change_revokeSession r w _ _ _
    · rename_i hreuse
      split
      · exact .none
      · split
        · exact .none
        · rename_i user huser
          split
          · exact change_revokeSession r w _ _ _
          · have hend := Auth.refreshRotate_run r w stored user rc
            generalize (Auth.refreshRotate d stored user rc w.clock).run (exec d r) w = res at hend
            cases hend with
            | failed text operands => exact .none
            | rotated p w' entry hissue hactor =>
                obtain ⟨ht, -⟩ := World.tokenByHash_some hfind
                obtain ⟨-, hid⟩ := World.userByID_some huser
                obtain ⟨new, hrows, hnew, hsession, hnewUser, hnewID, hfresh⟩ :=
                  issued_rows r _ hissue
                simp only [Bool.or_eq_true, not_or, Bool.not_eq_true] at hreuse
                rw [World.writeAudit_tokens, ← hnewID]
                have hmarked : (w'.after r
                    (.tokens (.markUsed stored.id new.id w.clock))).tokens.rows =
                      w'.tokens.rows.map (exchangeIf stored.id new.id w.clock) := by
                  have hmark := congrArg Prod.fst (Auth.markUsed_of_issued r w hissue stored.id w.clock)
                  rw [← hnewID] at hmark
                  exact markUsed_rows r w' hmark
                rw [hmarked, hrows]
                exact .exchanged stored new w.clock ht hreuse.1 hreuse.2 hnew hsession
                  (hnewUser.trans hid) (fun x hx hxid => TokenTable.eq_of_id hx ht hxid)
                  (hfresh stored ht).symm

theorem logout_change (refreshToken : String) (claims : Option AccessClaims) (rc : RequestContext) :
    Change (.logout refreshToken claims rc) r w.tokens.rows
      ((Auth.logout refreshToken claims rc).run (exec d r) w).2.tokens.rows := by
  rw [Auth.logout_run, Auth.logoutSession_run]
  rw [Auth.logoutAccess_tokens, Auth.sessionRevoked]
  split
  · exact change_revokeSession r w _ _ _
  · exact .none

theorem call_change (c : Call) : Change c r w.tokens.rows ((c.proc d).run (exec d r) w).2.tokens.rows := by
  cases c with
  | login creds rc =>
      rw [Call.proc, Prog.run_map]
      exact login_change r w creds rc
  | refresh refreshToken rc =>
      rw [Call.proc, Prog.run_map]
      exact refresh_change r w refreshToken rc
  | logout refreshToken claims rc =>
      rw [Call.proc, Prog.run_map]
      exact logout_change r w refreshToken claims rc
  | logoutAll userID actor rc =>
      rw [Call.proc, Prog.run_map, Auth.logoutAll_run, World.writeAudit_tokens]
      exact change_revokeAllForUser r w _ _ _
  | invite actor email role rc =>
      rw [Call.proc, Prog.run_map]
      have hend := Team.invite_run r w actor email role rc
      generalize (Team.invite actor email role rc).run (exec d r) w = res at hend
      cases hend with
      | failed e => exact .none
      | done a op entry hop hactor =>
          obtain ⟨inv, rfl⟩ := hop
          rw [World.writeAudit_tokens]
          exact .none
  | updateRole actor memberID role rc =>
      rw [Call.proc, Prog.run_map]
      have hend := Team.updateRole_run r w actor memberID role rc
      generalize (Team.updateRole actor memberID role rc).run (exec d r) w = res at hend
      cases hend with
      | failed e => exact .none
      | done a op entry hop hactor =>
          cases hop
          rw [World.writeAudit_tokens]
          exact .none
  | revoke actor memberID rc =>
      rw [Call.proc, Prog.run_map]
      have hend := Team.revoke_run r w actor memberID rc
      generalize (Team.revoke actor memberID rc).run (exec d r) w = res at hend
      cases hend with
      | failed e => exact .none
      | done entry hactor =>
          rw [World.writeAudit_tokens]
          exact change_revokeAllForUser r
            (w.after r (.users (.updateStatus memberID .suspended))) _ _ _

end calls

/-! ### Sequential runs -/

/-- The logins of a run draw different session ids. -/
def NewSessions (l : List Turn) : Prop :=
  l.Pairwise fun a b => a.call.isLogin = true → b.call.isLogin = true →
    a.draws.uuid .session ≠ b.draws.uuid .session

theorem turn_change (t : Turn) (w : World d) :
    Change t.call t.draws w.tokens.rows (t.run d w).2.tokens.rows :=
  call_change t.draws { w with clock := t.now } t.call

theorem turn_grows (t : Turn) (w : World d) : w.tokens.Grows (t.run d w).2.tokens :=
  (t.call.keepsRows d).run (I := fun w' : World d => w.tokens.Grows w'.tokens)
    (fun _ _ hop hw' => hw'.trans (grows_exec hop)) (.refl w.tokens)

/-- What holds after the turns `l`. -/
structure Chained (l : List Turn) (rows : List RefreshToken) : Prop where
  chains : ∀ s, SessionChain (chainOf s rows)
  opened : ∀ t ∈ rows, ∃ a ∈ l, a.call.isLogin = true ∧ a.draws.uuid .session = t.sessionID

theorem Change.sessions {c : Call} {r : Draws} {rows rows' : List RefreshToken}
    (h : Change c r rows rows') {t : RefreshToken} (ht : t ∈ rows') :
    (∃ x ∈ rows, x.sessionID = t.sessionID) ∨
      (c.isLogin = true ∧ r.uuid .session = t.sessionID) := by
  cases h with
  | none => exact .inl ⟨t, ht, rfl⟩
  | revoked q reason now hq =>
      obtain ⟨x, hx, rfl⟩ := List.mem_map.mp ht
      exact .inl ⟨x, hx, (revokeIf_sessionID q reason now x).symm⟩
  | opened new hlogin hnew hsession =>
      rw [List.mem_append, List.mem_singleton] at ht
      rcases ht with ht | rfl
      · exact .inl ⟨t, ht, rfl⟩
      · exact .inr ⟨hlogin, hsession.symm⟩
  | exchanged x new now hx hused hrevoked hnew hsession huser hids hfresh =>
      obtain ⟨y, hy, rfl⟩ := List.mem_map.mp ht
      have hkeep : (exchangeIf x.id new.id now y).sessionID = y.sessionID := by
        unfold exchangeIf
        split <;> rfl
      rw [hkeep]
      rw [List.mem_append, List.mem_singleton] at hy
      rcases hy with hy | rfl
      · exact .inl ⟨y, hy, rfl⟩
      · exact .inl ⟨x, hx, hsession.symm⟩

section run

variable {w : World d}

/-- A login of a later turn opens a session of its own. -/
theorem Chained.free {l : List Turn} {t : Turn} {rows : List RefreshToken} (h : Chained l rows)
    (hnew : NewSessions (l ++ [t])) (hlogin : t.call.isLogin = true) :
    ∀ x ∈ rows, x.sessionID ≠ t.draws.uuid .session := by
  intro x hx hxs
  obtain ⟨a, ha, halogin, has⟩ := h.opened x hx
  obtain ⟨-, -, hpairs⟩ := List.pairwise_append.mp hnew
  exact hpairs a ha t (List.mem_singleton_self t) halogin hlogin (has.trans hxs)

theorem Chained.turn {l : List Turn} {t : Turn} (h : Chained l w.tokens.rows)
    (hnew : NewSessions (l ++ [t])) : Chained (l ++ [t]) (t.run d w).2.tokens.rows where
  chains := (turn_change t w).chains h.chains (h.free hnew)
  opened := by
    intro x hx
    rcases (turn_change t w).sessions hx with ⟨y, hy, hyx⟩ | ⟨hlogin, hs⟩
    · obtain ⟨a, ha, halogin, has⟩ := h.opened y hy
      exact ⟨a, List.mem_append_left _ ha, halogin, has.trans hyx⟩
    · exact ⟨t, List.mem_append_right _ (List.mem_singleton_self t), hlogin, hs⟩

theorem chained_run {l : List Turn} (hempty : w.tokens.rows = []) (hnew : NewSessions l) :
    Chained l (runTurns d l w).tokens.rows := by
  induction l using List.reverseRecOn with
  | nil =>
      show Chained [] w.tokens.rows
      rw [hempty]
      exact ⟨fun s => .nil, fun t ht => by cases ht⟩
  | append_singleton l t ih =>
      rw [runTurns_append]
      exact (ih (List.pairwise_append.mp hnew).1).turn hnew

/-- A turn that presents the token of `x` to `Refresh`. -/
def RefreshOf (x : RefreshToken) (t : Turn) : Prop :=
  ∃ refreshToken rc, t.call = .refresh refreshToken rc ∧ hashToken refreshToken = x.tokenHash

/-- A token that was used or revoked is refused, and its session is revoked. -/
theorem refresh_refused {x : RefreshToken} {t : Turn} (hx : x ∈ w.tokens.rows)
    (ht : RefreshOf x t) (hstale : (x.isUsed || x.isRevoked) = true) :
    (t.run d w).1 = .refresh (.error (.sentinel .sessionRevoked)) ∧
      ∀ y ∈ (t.run d w).2.tokens.rows, y.sessionID = x.sessionID → y.isRevoked = true := by
  obtain ⟨refreshToken, rc, hcall, hhash⟩ := ht
  have hfind : World.tokenByHash { w with clock := t.now } (hashToken refreshToken) = some x := by
    rw [hhash]
    exact World.tokenByHash_of_mem hx
  unfold Turn.run
  rw [hcall, Call.proc, Prog.run_map, Auth.refresh_run, hfind]
  dsimp only
  rw [if_pos hstale]
  refine ⟨rfl, fun y hy hys => ?_⟩
  rw [Auth.reused, World.writeAudit_tokens] at hy
  exact revokeSession_revoked t.draws hy hys

/-- A revoked session stays revoked along the turns that follow. -/
theorem dead_run {l₁ l₂ : List Turn} {s : UUID} (h : Chained l₁ w.tokens.rows)
    (hnew : NewSessions (l₁ ++ l₂)) (hs : ∃ t ∈ w.tokens.rows, t.sessionID = s)
    (hdead : ∀ t ∈ w.tokens.rows, t.sessionID = s → t.isRevoked = true) :
    ∀ t ∈ (runTurns d l₂ w).tokens.rows, t.sessionID = s → t.isRevoked = true := by
  induction l₂ generalizing l₁ w with
  | nil => exact hdead
  | cons t l₂ ih =>
      rw [List.append_cons] at hnew
      have hnew₁ : NewSessions (l₁ ++ [t]) := (List.pairwise_append.mp hnew).1
      refine ih (h.turn hnew₁) hnew ?_ ((turn_change t w).dead hs hdead (h.free hnew₁))
      obtain ⟨x, hx, hxs⟩ := hs
      obtain ⟨y, hy, hxy⟩ := turn_grows t w x hx
      exact ⟨y, hy, hxy.sessionID.trans hxs⟩

/-- Along every sequential run from an empty token table the tokens of each session form a chain.
So a session has at most one usable token, and once a token that was already exchanged is presented
again, no token of its session is ever exchanged. -/
theorem session_chains {l : List Turn} (hempty : w.tokens.rows = []) (hnew : NewSessions l) :
    (∀ s, SessionChain (chainOf s (runTurns d l w).tokens.rows)) ∧
      (∀ a ∈ (runTurns d l w).tokens.rows, ∀ b ∈ (runTurns d l w).tokens.rows,
        a.sessionID = b.sessionID → ∀ now now', a.isUsable now = true → b.isUsable now' = true →
          a = b) ∧
      ∀ l₁ reuse l₂ again l₃, l = l₁ ++ reuse :: (l₂ ++ again :: l₃) →
        ∀ x ∈ (runTurns d l₁ w).tokens.rows, x.isUsed = true → RefreshOf x reuse →
        ∀ y ∈ (runTurns d (l₁ ++ reuse :: l₂) w).tokens.rows, y.sessionID = x.sessionID →
          RefreshOf y again →
          ∃ e, (again.run d (runTurns d (l₁ ++ reuse :: l₂) w)).1 = .refresh (.error e) := by
  have hchained := chained_run (d := d) hempty hnew
  refine ⟨hchained.chains, ?_, ?_⟩
  · intro a ha b hb hab now now' hausable hbusable
    have hunused : ∀ {t : RefreshToken} {now : Time}, t.isUsable now = true → t.isUsed = false := by
      intro t now ht
      simp only [RefreshToken.isUsable, Bool.and_eq_true, Bool.not_eq_true'] at ht
      exact ht.2
    have hlinked := (hchained.chains b.sessionID).linked
    -- both are the last token of the chain
    obtain ⟨front, hfront, -⟩ := hlinked.eq_concat (mem_chainOf.mpr ⟨ha, hab⟩) (hunused hausable)
    obtain ⟨front', hfront', -⟩ := hlinked.eq_concat (mem_chainOf.mpr ⟨hb, rfl⟩) (hunused hbusable)
    have heq := List.append_inj_right' (hfront.symm.trans hfront') rfl
    exact List.singleton_inj.mp heq
  · rintro l₁ reuse l₂ again l₃ rfl x hx hused hreuse y hy hys hagain
    rw [List.append_cons, ← List.append_assoc] at hnew
    have hnew₂ : NewSessions ((l₁ ++ [reuse]) ++ l₂) := (List.pairwise_append.mp hnew).1
    have hnew₁ : NewSessions (l₁ ++ [reuse]) := (List.pairwise_append.mp hnew₂).1
    have hl₁ : Chained l₁ (runTurns d l₁ w).tokens.rows :=
      chained_run hempty (List.pairwise_append.mp hnew₁).1
    -- the presented token was exchanged: its session is revoked, and stays so
    obtain ⟨-, hdead⟩ := refresh_refused hx hreuse (by rw [hused, Bool.true_or])
    have hthere : ∃ t ∈ (reuse.run d (runTurns d l₁ w)).2.tokens.rows,
        t.sessionID = x.sessionID := by
      obtain ⟨z, hz, hxz⟩ := turn_grows reuse (runTurns d l₁ w) x hx
      exact ⟨z, hz, hxz.sessionID⟩
    have hstill := dead_run (hl₁.turn hnew₁) hnew₂ hthere hdead
    rw [runTurns_append, runTurns_cons] at hy ⊢
    obtain ⟨hres, -⟩ := refresh_refused hy hagain (by rw [hstill y hy hys, Bool.or_true])
    exact ⟨_, hres⟩

end run

/-- A login, a refresh with its token, and the same token once more. -/
def reuseTurns : List Turn :=
  [⟨Sample.start, Sample.draws 0, .login ⟨"owner@example.com", "correct horse"⟩ Sample.context⟩,
    ⟨Sample.start.add Duration.hour, Sample.draws 1, .refresh Sample.firstToken Sample.context⟩,
    ⟨Sample.start.add Duration.hour, Sample.draws 2, .refresh Sample.firstToken Sample.context⟩]

/-- The session of the login has two tokens, linked and revoked together. -/
theorem session_chains_reuse :
    (chainOf session (runTurns Sample.deps reuseTurns Sample.world).tokens.rows).map
        (fun t => (t.isUsed, t.isRevoked)) = [(true, true), (false, true)] ∧
      SessionChain (chainOf session (runTurns Sample.deps reuseTurns Sample.world).tokens.rows) := by
  have hnew : NewSessions reuseTurns := by
    unfold NewSessions
    decide
  exact ⟨by decide +kernel, (session_chains rfl hnew).1 session⟩

end SuperAdmin.Rotation
