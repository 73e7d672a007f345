import SuperAdmin.Lib.Dict
import SuperAdmin.Tokens
import Mathlib.Data.List.Forall2

/-! # The test double of the token repository

`fakeTokens` of the usecase tests keeps the refresh tokens in two maps, without the columns and constraints
of the table `refresh_tokens`.  Along a sequence of calls, each `Create` of which has a new id and a new hash,
it agrees with the table exactly as long as no call meets a constraint or a default that it lacks. -/

namespace SuperAdmin

open Effects

/-- `fakeTokens`. -/
structure FakeTokens where
  byID : Dict UUID RefreshToken
  byHash : Dict Bytes UUID

namespace FakeTokens

/-- `newFakeTokens`. -/
def new : FakeTokens := ⟨Table.empty, Table.empty⟩

/-- The panic of a read through a nil pointer. -/
def nilPointer : Error := .foreign "invalid memory address or nil pointer dereference"

def create (f : FakeTokens) (t : RefreshToken) : FakeTokens :=
  ⟨f.byID.set t.id t, f.byHash.set t.tokenHash t.id⟩

def getByHash (f : FakeTokens) (hash : Bytes) : Except Error RefreshToken :=
  match f.byHash.get? hash with
  | none => .error (.sentinel .notFound)
  | some id =>
      match f.byID.get? id with
      | some t => .ok t
      | none => .error nilPointer

/-- A token that `MarkUsed` has marked. -/
def marked (replacedBy : UUID) (now : Time) (t : RefreshToken) : RefreshToken :=
  { t with usedAt := some now, replacedBy := some replacedBy }

def markUsed (f : FakeTokens) (id replacedBy : UUID) (now : Time) : Except Error Unit × FakeTokens :=
  match f.byID.get? id with
  | none => (.error (.sentinel .notFound), f)
  | some t =>
      if t.isUsed then (.ok (), f)
      else (.ok (), { f with byID := f.byID.set id (marked replacedBy now t) })

/-- The loop of the revocations. -/
def revoke (f : FakeTokens) (p : RefreshToken → Bool) (reason : String) (now : Time) : FakeTokens :=
  { f with byID := f.byID.modify (fun t => p t && !t.isRevoked) fun t =>
    { t with revokedAt := some now, revokedReason := reason } }

def revokeSession (f : FakeTokens) (sessionID : UUID) (reason : String) (now : Time) : FakeTokens :=
  f.revoke (·.sessionID == sessionID) reason now

def revokeAllForUser (f : FakeTokens) (userID : UUID) (reason : String) (now : Time) : FakeTokens :=
  f.revoke (·.userID == userID) reason now

/-- One round of the loop of `DeleteExpired`. -/
def expire (before : Time) : ℕ × FakeTokens → UUID × RefreshToken → ℕ × FakeTokens
  | (n, f), (id, t) =>
      if t.expiresAt < before then (n + 1, ⟨f.byID.erase id, f.byHash.erase t.tokenHash⟩) else (n, f)

def deleteExpired (f : FakeTokens) (before : Time) : ℕ × FakeTokens :=
  f.byID.rows.foldl (expire before) (0, f)

/-- The methods of `fakeTokens`. -/
def exec : (op : TokensOp) → FakeTokens → op.Res × FakeTokens
  | .create t, f => (.ok t, f.create t)
  | .getByHash hash, f => (f.getByHash hash, f)
  | .markUsed id replacedBy now, f => f.markUsed id replacedBy now
  | .revokeSession sessionID reason now, f => (.ok (), f.revokeSession sessionID reason now)
  | .revokeAllForUser userID reason now, f => (.ok (), f.revokeAllForUser userID reason now)
  | .deleteExpired before, f => (.ok (f.deleteExpired before).1, (f.deleteExpired before).2)

/-! ### The double as a list of tokens -/

/-- The tokens in the order in which they were created. -/
def tokens (f : FakeTokens) : List RefreshToken := f.byID.rows.map Prod.snd

/-- The two maps know the same tokens. -/
structure Consistent (f : FakeTokens) : Prop where
  ids : ∀ e ∈ f.byID.rows, e.1 = e.2.id
  hashes : f.byHash.rows = f.byID.rows.map fun e => (e.2.tokenHash, e.1)

variable {f f' : FakeTokens} {t : RefreshToken}

theorem mem_tokens (hf : f.Consistent) : t ∈ f.tokens ↔ (t.id, t) ∈ f.byID.rows := by
  unfold tokens
  rw [List.mem_map]
  constructor
  · rintro ⟨⟨id, t⟩, hmem, rfl⟩
    obtain rfl : id = t.id := hf.ids _ hmem
    exact hmem
  · exact fun hmem => ⟨_, hmem, rfl⟩

theorem eq_of_id (hf : f.Consistent) {t u : RefreshToken} (ht : t ∈ f.tokens) (hu : u ∈ f.tokens)
    (h : t.id = u.id) : t = u :=
  congrArg Prod.snd (Dict.eq_of_key ((mem_tokens hf).mp ht) ((mem_tokens hf).mp hu) h)

theorem mem_byHash (hf : f.Consistent) (ht : t ∈ f.tokens) : (t.tokenHash, t.id) ∈ f.byHash.rows := by
  rw [hf.hashes, List.mem_map]
  exact ⟨_, (mem_tokens hf).mp ht, rfl⟩

theorem eq_of_hash (hf : f.Consistent) {t u : RefreshToken} (ht : t ∈ f.tokens) (hu : u ∈ f.tokens)
    (h : t.tokenHash = u.tokenHash) : t = u :=
  eq_of_id hf ht hu (congrArg Prod.snd (Dict.eq_of_key (mem_byHash hf ht) (mem_byHash hf hu) h))

/-! ### What the methods do to the tokens -/

theorem create_tokens (hf : f.Consistent) (hid : ∀ x ∈ f.tokens, x.id ≠ t.id)
    (hhash : ∀ x ∈ f.tokens, x.tokenHash ≠ t.tokenHash) :
    (f.create t).Consistent ∧ (f.create t).tokens = f.tokens ++ [t] := by
  have hbyID : (f.byID.set t.id t).rows = f.byID.rows ++ [(t.id, t)] := by
    refine Dict.rows_set_of_new fun e he => ?_
    rw [hf.ids e he]
    exact hid e.2 (List.mem_map_of_mem he)
  have hbyHash : (f.byHash.set t.tokenHash t.id).rows = f.byHash.rows ++ [(t.tokenHash, t.id)] := by
    refine Dict.rows_set_of_new fun e he => ?_
    rw [hf.hashes, List.mem_map] at he
    obtain ⟨x, hx, rfl⟩ := he
    exact hhash x.2 (List.mem_map_of_mem hx)
  refine ⟨⟨fun e he => ?_, ?_⟩, ?_⟩
  · rw [create, hbyID, List.mem_append, List.mem_singleton] at he
    rcases he with he | rfl
    · exact hf.ids e he
    · rfl
  · rw [create, hbyHash, hbyID, hf.hashes, List.map_append]
    rfl
  · rw [create, tokens, hbyID, List.map_append]
    rfl

/-- A token of the list is found by its hash. -/
theorem find?_tokens (hf : f.Consistent) (ht : t ∈ f.tokens) :
    f.tokens.find? (·.tokenHash == t.tokenHash) = some t := by
  cases hfound : f.tokens.find? (·.tokenHash == t.tokenHash) with
  | none => exact absurd (beq_self_eq_true t.tokenHash) (List.find?_eq_none.mp hfound t ht)
  | some u =>
      have hhash := List.find?_some hfound
      rw [eq_of_hash hf (List.mem_of_find?_eq_some hfound) ht (eq_of_beq hhash)]

theorem getByHash_tokens (hf : f.Consistent) (hash : Bytes) :
    f.getByHash hash = orNotFound (f.tokens.find? (·.tokenHash == hash)) := by
  unfold getByHash
  cases hid : f.byHash.get? hash with
  | none =>
      have hnone : f.tokens.find? (·.tokenHash == hash) = none := by
        rw [List.find?_eq_none]
        intro t ht hthash
        exact Dict.get?_eq_none.mp hid _ (mem_byHash hf ht) (eq_of_beq hthash)
      rw [hnone]
      rfl
  | some id =>
      have hmem := Dict.get?_eq_some.mp hid
      rw [hf.hashes, List.mem_map] at hmem
      obtain ⟨⟨id', t⟩, hx, heq⟩ := hmem
      obtain ⟨rfl, rfl⟩ := Prod.mk.inj heq
      have ht : t ∈ f.tokens := List.mem_map_of_mem hx
      have hget : f.byID.get? id' = some t := Dict.get?_eq_some.mpr hx
      dsimp only at hget ⊢
      rw [hget, find?_tokens hf ht]
      rfl

end FakeTokens

end SuperAdmin
