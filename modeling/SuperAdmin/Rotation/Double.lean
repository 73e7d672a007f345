import SuperAdmin.Rotation.FakeTokens
import Mathlib.Data.List.Forall2

/-! # The test double and the table

A sequence of calls is made to `fakeTokens` and to the table `refresh_tokens`, each `Create` of it with a new id
and a new hash.  The answers, and the tokens that are found afterwards, agree for as long as PostgreSQL accepts
what every call sends and the call is `Allowed`: it meets no foreign key, sets no column that
`CreateRefreshToken` leaves out, and marks only stored tokens. -/

namespace SuperAdmin.FakeTokens

open Effects

/-! ### Lists side by side -/

section forall₂

variable {A B : Type} {R : A → B → Prop} {l : List A} {m : List B}

theorem exists_of_mem_left (h : List.Forall₂ R l m) {a : A} (ha : a ∈ l) : ∃ b ∈ m, R a b := by
  induction h with
  | nil => cases ha
  | cons hab _ ih =>
      rcases List.mem_cons.mp ha with rfl | ha
      · exact ⟨_, List.mem_cons_self, hab⟩
      · obtain ⟨b, hb, hr⟩ := ih ha
        exact ⟨b, List.mem_cons_of_mem _ hb, hr⟩

theorem find?_rel (h : List.Forall₂ R l m) {p : A → Bool} {q : B → Bool} (hpq : ∀ a b, R a b → p a = q b) :
    Option.Rel R (l.find? p) (m.find? q) := by
  induction h with
  | nil => exact .none
  | cons hab _ ih =>
      rw [List.find?_cons, List.find?_cons, hpq _ _ hab]
      split
      · exact .some hab
      · exact ih

end forall₂

/-! ### What is compared -/

/-- What the columns keep of a token: its times to the microsecond, and a `created_at` of their own. -/
def kept (t : RefreshToken) (createdAt : Time) : RefreshToken :=
  { t with
    expiresAt := t.expiresAt.timestamptz
    usedAt := t.usedAt.map Time.timestamptz
    revokedAt := t.revokedAt.map Time.timestamptz
    createdAt := createdAt }

/-- A token of the double, and a row with the same values. -/
def Same (t u : RefreshToken) : Prop := ∃ createdAt, u = kept t createdAt

/-- Errors of one kind. -/
def SameKind (e e' : Error) : Prop := ∀ s : Sentinel, e.is s = e'.is s

/-- Both answers are values that are alike, or errors of one kind. -/
def SameAnswer {A : Type} (R : A → A → Prop) : Except Error A → Except Error A → Prop
  | .ok a, .ok b => R a b
  | .error e, .error e' => SameKind e e'
  | _, _ => False

/-- The answers to a call. -/
def SameResult : (op : TokensOp) → op.Res → op.Res → Prop
  | .create _ => SameAnswer Same
  | .getByHash _ => SameAnswer Same
  | .markUsed _ _ _ => SameAnswer Eq
  | .revokeSession _ _ _ => SameAnswer Eq
  | .revokeAllForUser _ _ _ => SameAnswer Eq
  | .deleteExpired _ => SameAnswer Eq

variable (hasUser : UUID → Bool) {now : Time} {f : FakeTokens} {T : TokenTable}

/-- What `GetByHash` finds in the table. -/
def lookup (T : TokenTable) (hash : Bytes) : Except Error RefreshToken :=
  orNotFound (T.find? (·.tokenHash == hash))

/-- What the table asks of a call that finds the tokens `l`. -/
def Allowed (l : List RefreshToken) : TokensOp → Prop
  | .create t => hasUser t.userID = true ∧
      t.usedAt = none ∧ t.revokedAt = none ∧ t.revokedReason = "" ∧ t.replacedBy = none
  | .markUsed id replacedBy _ => ∃ t ∈ l, t.id = id ∧ (t.isUsed = true ∨ ∃ x ∈ l, x.id = replacedBy)
  | .deleteExpired before => ∀ t ∈ l,
      (t.expiresAt < before → t.expiresAt.timestamptz < before.timestamptz) ∧
      (¬ t.expiresAt < before → ∀ r ∈ t.replacedBy, ∃ x ∈ l, x.id = r ∧ ¬ x.expiresAt < before)
  | _ => True

instance decidableAllowed (l : List RefreshToken) : (op : TokensOp) → Decidable (Allowed hasUser l op)
  | .create t => inferInstanceAs (Decidable (hasUser t.userID = true ∧
      t.usedAt = none ∧ t.revokedAt = none ∧ t.revokedReason = "" ∧ t.replacedBy = none))
  | .markUsed id replacedBy _ => inferInstanceAs (Decidable (∃ t ∈ l, t.id = id ∧
      (t.isUsed = true ∨ ∃ x ∈ l, x.id = replacedBy)))
  | .deleteExpired before =>
      -- not by trying every `UUID`
      have (t : RefreshToken) : Decidable (∀ r ∈ t.replacedBy, ∃ x ∈ l, x.id = r ∧ ¬ x.expiresAt < before) :=
        Option.decidableForallMem t.replacedBy
      inferInstanceAs (Decidable (∀ t ∈ l,
        (t.expiresAt < before → t.expiresAt.timestamptz < before.timestamptz) ∧
        (¬ t.expiresAt < before → ∀ r ∈ t.replacedBy, ∃ x ∈ l, x.id = r ∧ ¬ x.expiresAt < before)))
  | .getByHash _ | .revokeSession _ _ _ | .revokeAllForUser _ _ _ => isTrue trivial

/-! ### States that agree -/

/-- The double holds the tokens of the table. -/
structure Mirrors (f : FakeTokens) (T : TokenTable) : Prop where
  consistent : f.Consistent
  same : List.Forall₂ Same f.tokens T.rows

theorem sameAnswer_orNotFound {A : Type} {R : A → A → Prop} {o o' : Option A} (h : Option.Rel R o o') :
    SameAnswer R (orNotFound o) (orNotFound o') := by
  cases h with
  | none => exact fun _ => rfl
  | some h => exact h

theorem Mirrors.getByHash (h : Mirrors f T) (hash : Bytes) :
    SameAnswer Same (f.getByHash hash) (lookup T hash) := by
  rw [getByHash_tokens h.consistent]
  refine sameAnswer_orNotFound (find?_rel h.same ?_)
  rintro t _ ⟨createdAt, rfl⟩
  rfl

/-- What an update does to single tokens, it does to the states. -/
theorem Mirrors.update (h : Mirrors f T) (p : RefreshToken → Bool) (g' : RefreshToken → RefreshToken)
    (hkey : ∀ t, ((g' t).id, (g' t).tokenHash) = (t.id, t.tokenHash)) {f' : FakeTokens}
    {g : RefreshToken → RefreshToken} (hf : f'.Consistent ∧ f'.tokens = f.tokens.map g)
    (hg : ∀ t ∈ f.tokens, ∀ u, Same t u → Same (g t) (if p u then g' u else u)) :
    Mirrors f' (T.update p g' hkey) where
  consistent := hf.1
  same := by
    rw [hf.2, Table.rows_update, List.forall₂_map_left_iff, List.forall₂_map_right_iff]
    have hmem := (List.forall₂_and_left (p := (· ∈ f.tokens)) f.tokens T.rows).mpr ⟨fun t ht => ht, h.same⟩
    exact hmem.imp fun t u htu => hg t htu.1 u htu.2

/-- A `Create` has a new id and a new hash. -/
def New (T : TokenTable) : TokensOp → Prop
  | .create t => ∀ x ∈ T.rows, x.id ≠ t.id ∧ x.tokenHash ≠ t.tokenHash
  | _ => True

theorem Mirrors.create (h : Mirrors f T) {t : RefreshToken} (hnew : New T (.create t)) :
    (f.create t).Consistent ∧ (f.create t).tokens = f.tokens ++ [t] := by
  refine create_tokens h.consistent (fun x hx => ?_) fun x hx => ?_
  · obtain ⟨_, hu, createdAt, rfl⟩ := exists_of_mem_left h.same hx
    exact (hnew _ hu).1
  · obtain ⟨_, hu, createdAt, rfl⟩ := exists_of_mem_left h.same hx
    exact (hnew _ hu).2

/-- The rows that the query leaves. -/
def unexpired (T : TokenTable) (before : Time) : TokenTable :=
  T.delete fun t => decide (t.expiresAt < before.timestamptz)

/-- A row whose successor is gone. -/
def orphaned (T : TokenTable) (t : RefreshToken) : Bool := t.replacedBy.any fun r => !T.rows.any (·.id == r)

/-- A row after `ON DELETE SET NULL`. -/
def unlinked (t : RefreshToken) : RefreshToken := { t with replacedBy := none }

/-- The table after the query. -/
def purged (T : TokenTable) (before : Time) : TokenTable :=
  (unexpired T before).update (orphaned (unexpired T before)) unlinked fun _ => rfl

theorem mem_purged {u : RefreshToken} {before : Time} : u ∈ (purged T before).rows ↔
    ∃ x ∈ (unexpired T before).rows, u = if orphaned (unexpired T before) x then unlinked x else x :=
  Table.mem_update _

/-- Whether PostgreSQL accepts what a call sends.  It refuses a hash that is missing or too long for the index,
and U+0000 in a text; what is looked up may be any bytes. -/
structure Postgres where
  accepts : TokensOp → Bool
  accepts_getByHash : ∀ hash, accepts (.getByHash hash) = true

/-- The error of a call that is refused; `mapError` passes it on. -/
def refusal : Error := .foreign "refused by PostgreSQL"

/-- The answer to a call that is refused. -/
def refused : (op : TokensOp) → op.Res
  | .create _ | .getByHash _ => .error refusal
  | .markUsed _ _ _ | .revokeSession _ _ _ | .revokeAllForUser _ _ _ => .error refusal
  | .deleteExpired _ => .error refusal

/-- A call to the table: one that is refused changes nothing. -/
def Postgres.query (pg : Postgres) (now : Time) (op : TokensOp) (T : TokenTable) : op.Res × TokenTable :=
  if pg.accepts op then op.exec hasUser now T else (refused op, T)

variable (pg : Postgres)

/-- Every call is accepted, and allowed where the double stands. -/
def AllowedAlong : List (Time × TokensOp) → FakeTokens → Prop
  | [], _ => True
  | (_, op) :: l, f =>
      (pg.accepts op = true ∧ Allowed hasUser f.tokens op) ∧ AllowedAlong l (exec op f).2

instance decidableAllowedAlong : (l : List (Time × TokensOp)) → (f : FakeTokens) →
    Decidable (AllowedAlong hasUser pg l f)
  | [], _ => isTrue trivial
  | (_, op) :: l, f =>
      have := decidableAllowedAlong l (exec op f).2
      inferInstanceAs (Decidable ((pg.accepts op = true ∧ Allowed hasUser f.tokens op) ∧
        AllowedAlong hasUser pg l (exec op f).2))

/-- Two calls do not create tokens of one id or one hash. -/
def Apart (op op' : TokensOp) : Prop :=
  ∀ t u, op = .create t → op' = .create u → t.id ≠ u.id ∧ t.tokenHash ≠ u.tokenHash

/-- A row was there before, or was created. -/
theorem mem_exec {op : TokensOp} {u : RefreshToken} (hu : u ∈ (op.exec hasUser now T).2.rows) :
    (∃ t ∈ T.rows, u.id = t.id ∧ u.tokenHash = t.tokenHash) ∨
      ∃ t, op = .create t ∧ u.id = t.id ∧ u.tokenHash = t.tokenHash := by
  by_cases hkeeps : op.keepsRows = true
  · rcases TokensOp.mem_exec _ _ hkeeps hu with ⟨t, ht, htu⟩ | ⟨t, hop, rfl⟩
    · exact .inl ⟨t, ht, htu.id, htu.tokenHash⟩
    · exact .inr ⟨t, hop, rfl, rfl⟩
  · cases op with
    | deleteExpired before =>
        obtain ⟨x, hx, rfl⟩ := mem_purged.mp hu
        refine .inl ⟨x, List.mem_of_mem_filter hx, ?_⟩
        split <;> exact ⟨rfl, rfl⟩
    | _ => exact absurd rfl hkeeps

theorem mem_query {op : TokensOp} {u : RefreshToken} (hu : u ∈ (pg.query hasUser now op T).2.rows) :
    (∃ t ∈ T.rows, u.id = t.id ∧ u.tokenHash = t.tokenHash) ∨
      ∃ t, op = .create t ∧ u.id = t.id ∧ u.tokenHash = t.tokenHash := by
  unfold Postgres.query at hu
  split at hu
  · exact mem_exec hasUser hu
  · exact .inl ⟨u, hu, rfl, rfl⟩

theorem New.query {op op' : TokensOp} (h : New T op') (hapart : Apart op op') :
    New (pg.query hasUser now op T).2 op' := by
  cases op' with
  | create t =>
      intro u hu
      rcases mem_query hasUser pg hu with ⟨x, hx, hid, hhash⟩ | ⟨x, hop, hid, hhash⟩
      · rw [hid, hhash]
        exact h x hx
      · rw [hid, hhash]
        exact hapart x t hop rfl
  | _ => trivial

def token (id : UUID) (hash : Bytes) : RefreshToken where
  id := id
  userID := 1
  sessionID := 2
  tokenHash := hash
  expiresAt := ⟨1000⟩
  usedAt := none
  revokedAt := none
  revokedReason := ""
  replacedBy := none
  userAgent := "browser"
  ip := "203.0.113.7"
  createdAt := Time.zero

/-- A session of two tokens, which is revoked and purged. -/
def session : List (Time × TokensOp) :=
  [(⟨0⟩, .create (token 10 [0])), (⟨0⟩, .create (token 11 [1])), (⟨0⟩, .markUsed 10 11 ⟨500⟩),
    (⟨0⟩, .markUsed 10 11 ⟨600⟩), (⟨0⟩, .revokeSession 2 RevokeReason.logout ⟨700⟩), (⟨0⟩, .getByHash [1]),
    (⟨0⟩, .deleteExpired ⟨2000⟩)]

end SuperAdmin.FakeTokens
