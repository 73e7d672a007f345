import SuperAdmin.Statements

/-! # What the token queries do to a row

No query of `refresh_token.sql` changes whose a token is: a row keeps its id, its user, its
session, its hash and its expiry, and it never becomes unused or unrevoked again
(`RefreshToken.Evolves`).  `mem_exec` says where the rows after a query come from. -/

namespace SuperAdmin

open Effects

/-! ### One row -/

/-- What later queries may make of a row. -/
structure RefreshToken.Evolves (t t' : RefreshToken) : Prop where
  id : t'.id = t.id
  userID : t'.userID = t.userID
  sessionID : t'.sessionID = t.sessionID
  tokenHash : t'.tokenHash = t.tokenHash
  expiresAt : t'.expiresAt = t.expiresAt
  used : t.isUsed = true → t'.isUsed = true
  revoked : t.isRevoked = true → t'.isRevoked = true

namespace RefreshToken

theorem Evolves.refl (t : RefreshToken) : t.Evolves t := ⟨rfl, rfl, rfl, rfl, rfl, fun h => h, fun h => h⟩

theorem Evolves.trans {a b c : RefreshToken} (h₁ : a.Evolves b) (h₂ : b.Evolves c) :
    a.Evolves c where
  id := h₂.id.trans h₁.id
  userID := h₂.userID.trans h₁.userID
  sessionID := h₂.sessionID.trans h₁.sessionID
  tokenHash := h₂.tokenHash.trans h₁.tokenHash
  expiresAt := h₂.expiresAt.trans h₁.expiresAt
  used := fun h => h₂.used (h₁.used h)
  revoked := fun h => h₂.revoked (h₁.revoked h)

theorem evolves_used (t : RefreshToken) (replacedBy : UUID) (now : Time) :
    t.Evolves (t.used replacedBy now):=
  ⟨rfl, rfl, rfl, rfl, rfl, fun _ => rfl, fun h => h⟩

theorem evolves_revoked (t : RefreshToken) (reason : String) (now : Time) :
    t.Evolves (t.revoked reason now):=
  ⟨rfl, rfl, rfl, rfl, rfl, fun h => h, fun _ => rfl⟩

@[simp] theorem isUsed_used (t : RefreshToken) (replacedBy : UUID) (now : Time) :
    (t.used replacedBy now).isUsed = true := rfl
@[simp] theorem isRevoked_revoked (t : RefreshToken) (reason : String) (now : Time) :
    (t.revoked reason now).isRevoked = true := rfl
@[simp] theorem isUsed_inserted (t : RefreshToken) (now : Time) :
    (t.inserted now).isUsed = false := rfl
@[simp] theorem isRevoked_inserted (t : RefreshToken) (now : Time) :
    (t.inserted now).isRevoked = false := rfl

end RefreshToken

/-! ### The table -/

namespace TokenTable

variable {T U : TokenTable}

/-- Two rows with one id are one row. -/
theorem eq_of_id {a b : RefreshToken} (ha : a ∈ T.rows) (hb : b ∈ T.rows) (h : a.id = b.id) :
    a = b :=
  Table.eq_of_clash (fun _ _ => EitherEq.symm) ha hb (.inl h)

/-- Two rows with one hash are one row. -/
theorem eq_of_hash {a b : RefreshToken} (ha : a ∈ T.rows) (hb : b ∈ T.rows)
    (h : a.tokenHash = b.tokenHash) : a = b :=
  Table.eq_of_clash (fun _ _ => EitherEq.symm) ha hb (.inr h)

/-- Every row of `T` is still there in `U`. -/
def Grows (T U : TokenTable) : Prop := ∀ t ∈ T.rows, ∃ u ∈ U.rows, t.Evolves u

theorem Grows.refl (T : TokenTable) : T.Grows T := fun t ht => ⟨t, ht, .refl t⟩

theorem Grows.trans {T U V : TokenTable} (h₁ : T.Grows U) (h₂ : U.Grows V) : T.Grows V := by
  intro t ht
  obtain ⟨u, hu, htu⟩ := h₁ t ht
  obtain ⟨v, hv, huv⟩ := h₂ u hu
  exact ⟨v, hv, htu.trans huv⟩

theorem grows_update {p : RefreshToken → Bool} {f : RefreshToken → RefreshToken}
    (hf : ∀ t, ((f t).id, (f t).tokenHash) = (t.id, t.tokenHash)) (h : ∀ t : RefreshToken, t.Evolves (f t)) :
    Grows T (T.update p f hf) := by
  intro t ht
  refine ⟨if p t then f t else t, (Table.mem_update hf).mpr ⟨t, ht, rfl⟩, ?_⟩
  split
  · exact h t
  · exact .refl t

theorem mem_update_evolves {p : RefreshToken → Bool} {f : RefreshToken → RefreshToken}
    (hf : ∀ t, ((f t).id, (f t).tokenHash) = (t.id, t.tokenHash)) (h : ∀ t : RefreshToken, t.Evolves (f t))
    {u : RefreshToken} (hu : u ∈ (T.update p f hf).rows) : ∃ t ∈ T.rows, t.Evolves u := by
  obtain ⟨t, ht, rfl⟩ := (Table.mem_update hf).mp hu
  refine ⟨t, ht, ?_⟩
  split
  · exact h t
  · exact .refl t

end TokenTable

/-! ### The queries -/

namespace TokensOp

open TokenTable

variable (hasUser : UUID → Bool) (clock : Time) {T : TokenTable}

/-- Every query but the purge leaves the rows there. -/
def keepsRows : TokensOp → Bool
  | deleteExpired _ => false
  | _ => true

theorem exec_create {t : RefreshToken} :
    (∃ U, T.insert? (t.inserted clock) = some U ∧ hasUser t.userID = true ∧
      exec hasUser clock (.create t) T = (.ok (t.inserted clock), U)) ∨
    ∃ text operands, exec hasUser clock (.create t) T = (.error (.errorf text operands), T) := by
  cases hi : T.insert? (t.inserted clock) with
  | none => exact .inr ⟨_, _, by simp only [exec, hi]; rfl⟩
  | some U =>
      by_cases hu : hasUser t.userID = true
      · exact .inl ⟨U, rfl, hu, by simp [exec, hi, hu]⟩
      · exact .inr ⟨_, _, by simp only [exec, hi, if_neg hu]; rfl⟩

theorem exec_markUsed (id replacedBy : UUID) (now : Time) :
    exec hasUser clock (.markUsed id replacedBy now) T =
        (.ok (), T.update (fun t => t.id == id && !t.isUsed) (·.used replacedBy now) fun _ => rfl) ∨
    ∃ text operands,
      exec hasUser clock (.markUsed id replacedBy now) T = (.error (.errorf text operands), T) := by
  by_cases h : (T.rows.any (fun t => t.id == id && !t.isUsed) &&
      !T.rows.any (fun t => t.id == replacedBy)) = true
  · exact .inr ⟨_, _, by simp only [exec, if_pos h]; rfl⟩
  · exact .inl (by simp only [exec, if_neg h])

theorem grows_exec {op : TokensOp} (h : op.keepsRows = true) :
    T.Grows (op.exec hasUser clock T).2 := by
  cases op with
  | create t =>
      rcases exec_create hasUser clock (T := T) (t := t) with ⟨U, hi, -, he⟩ | ⟨_, _, he⟩
      · rw [he]
        obtain ⟨hrows, -⟩ := Table.insert?_eq_some hi
        intro x hx
        exact ⟨x, by rw [hrows]; exact List.mem_append_left _ hx, .refl x⟩
      · rw [he]; exact .refl T
  | getByHash hash => exact .refl T
  | markUsed id replacedBy now =>
      rcases exec_markUsed hasUser clock (T := T) id replacedBy now with he | ⟨_, _, he⟩
      · rw [he]; exact grows_update (fun _ => by rfl) fun t => t.evolves_used _ _
      · rw [he]; exact .refl T
  | revokeSession sessionID reason now => exact grows_update (fun _ => by rfl) fun t => t.evolves_revoked _ _
  | revokeAllForUser userID reason now => exact grows_update (fun _ => by rfl) fun t => t.evolves_revoked _ _
  | deleteExpired before => cases h

/-- A row after a query was there before, or was created by it. -/
theorem mem_exec {op : TokensOp} (h : op.keepsRows = true) {u : RefreshToken}
    (hu : u ∈ (op.exec hasUser clock T).2.rows) :
    (∃ t ∈ T.rows, t.Evolves u) ∨ ∃ t, op = .create t ∧ u = t.inserted clock := by
  cases op with
  | create t =>
      rcases exec_create hasUser clock (T := T) (t := t) with ⟨U, hi, -, he⟩ | ⟨_, _, he⟩
      · rw [he] at hu
        rw [(Table.insert?_eq_some hi).1, List.mem_append, List.mem_singleton] at hu
        rcases hu with hu | hu
        · exact .inl ⟨u, hu, .refl u⟩
        · exact .inr ⟨t, rfl, hu⟩
      · rw [he] at hu; exact .inl ⟨u, hu, .refl u⟩
  | getByHash hash => exact .inl ⟨u, hu, .refl u⟩
  | markUsed id replacedBy now =>
      rcases exec_markUsed hasUser clock (T := T) id replacedBy now with he | ⟨_, _, he⟩
      · rw [he] at hu; exact .inl (mem_update_evolves (fun _ => by rfl) (fun t => t.evolves_used _ _) hu)
      · rw [he] at hu; exact .inl ⟨u, hu, .refl u⟩
  | revokeSession sessionID reason now =>
      exact .inl (mem_update_evolves (fun _ => by rfl) (fun t => t.evolves_revoked _ _) hu)
  | revokeAllForUser userID reason now =>
      exact .inl (mem_update_evolves (fun _ => by rfl) (fun t => t.evolves_revoked _ _) hu)
  | deleteExpired before => cases h

section answers

variable {hasUser : UUID → Bool} {clock : Time}

/-- After a `MarkUsed` that did not fail, the rows with the id are used. -/
theorem markUsed_used {id replacedBy : UUID} {now : Time}
    (h : (exec hasUser clock (.markUsed id replacedBy now) T).1 = .ok ()) {u : RefreshToken}
    (hu : u ∈ (exec hasUser clock (.markUsed id replacedBy now) T).2.rows) (hid : u.id = id) :
    u.isUsed = true := by
  rcases exec_markUsed hasUser clock (T := T) id replacedBy now with he | ⟨_, _, he⟩
  · rw [he] at hu
    obtain ⟨t, -, rfl⟩ := (Table.mem_update fun _ => by rfl).mp hu
    by_cases hp : (t.id == id && !t.isUsed) = true
    · rw [if_pos hp]; rfl
    · rw [if_neg hp] at hid ⊢
      simpa [hid] using hp
  · rw [he] at h; cases h

end answers

end TokensOp

theorem orNotFound_error {α : Type} {o : Option α} {e : Error} (h : orNotFound o = .error e) :
    e = .sentinel .notFound := by
  cases o with
  | none => exact (Except.error.inj h).symm
  | some a => cases h

/-- An insert fails with a wrapped error. -/
theorem create_error {d : Deps} {r : Draws} {w : World d} {t : RefreshToken} {e : Error}
    (h : (exec d r (.tokens (.create t)) w).1 = .error e) :
    ∃ text operands, e = .errorf text operands := by
  have hres : (TokensOp.exec w.hasUser w.clock (.create t) w.tokens).1 = Except.error e := h
  rcases TokensOp.exec_create w.hasUser w.clock with ⟨U, -, -, he⟩ | ⟨text, operands, he⟩
  · rw [he] at hres
    cases hres
  · rw [he] at hres
    exact ⟨text, operands, (Except.error.inj hres).symm⟩

/-- `MarkUsed` fails with a wrapped error. -/
theorem markUsed_error {d : Deps} {r : Draws} {w : World d} {id replacedBy : UUID} {now : Time}
    {e : Error} (h : (exec d r (.tokens (.markUsed id replacedBy now)) w).1 = .error e) :
    ∃ text operands, e = .errorf text operands := by
  have hres : (TokensOp.exec w.hasUser w.clock (.markUsed id replacedBy now) w.tokens).1 =
      Except.error e := h
  rcases TokensOp.exec_markUsed w.hasUser w.clock id replacedBy now with he | ⟨text, operands, he⟩
  · rw [he] at hres
    cases hres
  · rw [he] at hres
    exact ⟨text, operands, (Except.error.inj hres).symm⟩

/-- After `RevokeSession` every token of the session is revoked. -/
theorem revokeSession_revoked {d : Deps} (r : Draws) {w : World d} {sessionID : UUID}
    {reason : String} {now : Time} {u : RefreshToken}
    (hu : u ∈ (exec d r (.tokens (.revokeSession sessionID reason now)) w).2.tokens.rows)
    (hs : u.sessionID = sessionID) : u.isRevoked = true := by
  obtain ⟨t, -, rfl⟩ := (Table.mem_update fun _ => by rfl).mp hu
  by_cases hp : (t.sessionID == sessionID && !t.isRevoked) = true
  · rw [if_pos hp]; rfl
  · rw [if_neg hp] at hs ⊢
    simpa [hs] using hp

/-- After `RevokeAllForUser` every token of the user is revoked. -/
theorem revokeAllForUser_revoked {d : Deps} (r : Draws) {w : World d} {userID : UUID}
    {reason : String} {now : Time} {u : RefreshToken}
    (hu : u ∈ (exec d r (.tokens (.revokeAllForUser userID reason now)) w).2.tokens.rows)
    (hs : u.userID = userID) : u.isRevoked = true := by
  obtain ⟨t, -, rfl⟩ := (Table.mem_update fun _ => by rfl).mp hu
  by_cases hp : (t.userID == userID && !t.isRevoked) = true
  · rw [if_pos hp]; rfl
  · rw [if_neg hp] at hs ⊢
    simpa [hs] using hp

end SuperAdmin
