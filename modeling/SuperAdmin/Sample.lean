import SuperAdmin.Calls
import Mathlib.Logic.Encodable.Basic
import Mathlib.Logic.Equiv.List

/-! # A deployment that runs

Concrete choices for what the repository gets from elsewhere, so that a run can be evaluated:
a token is the code of its header and claims, a password hash is the password behind a prefix,
and the UUID parser reads the standard form.  The choices satisfy what the theorems assume of
the real libraries (`decodesSigned`, `readsBackUUIDs`). -/

namespace SuperAdmin.Sample

open Effects

/-! ### The coding of tokens -/

instance codeChar : Encodable Char :=
  Encodable.ofLeftInjection Char.toNat (fun n => some (Char.ofNat n)) fun c => by simp

instance codeString : Encodable String :=
  Encodable.ofLeftInjection String.toList (fun l => some (String.ofList l)) fun s => by simp

instance codeDate : Encodable NumericDate :=
  Encodable.ofLeftInjection NumericDate.seconds (fun n => some ⟨n⟩) fun _ => rfl

instance codeHeader : Encodable JwtHeader :=
  Encodable.ofLeftInjection (fun h => (h.alg, h.kid)) (fun p => some ⟨p.1, p.2⟩) fun _ => rfl

instance codeClaims : Encodable JwtClaims :=
  Encodable.ofLeftInjection
    (fun c => (c.email, c.role, c.sid, c.issuer, c.subject, c.id, c.issuedAt, c.expiresAt, c.notBefore))
    (fun ⟨email, role, sid, issuer, subject, id, issuedAt, expiresAt, notBefore⟩ =>
      some ⟨email, role, sid, issuer, subject, id, issuedAt, expiresAt, notBefore⟩)
    fun _ => rfl

/-- A library whose tokens are longer by one than the code of what they say. -/
def lib : JwtLib where
  signedString h c _ := .ok (String.ofList (List.replicate (Encodable.encode (h, c) + 1) '1'))
  parseUnverified token :=
    match (Encodable.decode (token.length - 1) : Option (JwtHeader × JwtClaims)) with
    | some p => .ok p
    | none => .error (.foreign "token is malformed")
  verify _ _ := true

theorem decodesSigned : Issuer.DecodesSigned lib := by
  intro h c key token ht
  have htoken : String.ofList (List.replicate (Encodable.encode (h, c) + 1) '1') = token :=
    Except.ok.inj ht
  have hlen : token.length - 1 = Encodable.encode (h, c) := by rw [← htoken]; simp
  simp only [lib, hlen, Encodable.encodek]

/-! ### The UUID parser -/

/-- The value of a hexadecimal digit. -/
def hexValue (c : Char) : ℕ := if c.toNat < 58 then c.toNat - 48 else c.toNat - 87

/-- The value of a string of hexadecimal digits. -/
def hexNumber (l : List Char) : ℕ := l.foldl (fun n c => 16 * n + hexValue c) 0

/-- Read the digits of a UUID in its standard form. -/
def uuidParse (s : String) : Except Error UUID :=
  if s.length = 36 then
    .ok (BitVec.ofNat 128 (hexNumber (s.toList.filter (· ≠ '-'))))
  else .error (.foreign "invalid UUID length")

theorem hexDigit_value (n : ℕ) (h : n < 16) :
    hexValue (UUID.hexDigit n) = n ∧ UUID.hexDigit n ≠ '-' := by
  revert n; decide

theorem hexDigits_length (k n : ℕ) : (UUID.hexDigits k n).length = k := by
  induction k generalizing n with
  | zero => rfl
  | succ k ih => rw [UUID.hexDigits, List.length_append, ih]; rfl

theorem hexDigits_ne_dash (k n : ℕ) : ∀ c ∈ UUID.hexDigits k n, c ≠ '-' := by
  induction k generalizing n with
  | zero => intro c hc; cases hc
  | succ k ih =>
      intro c hc
      rw [UUID.hexDigits, List.mem_append, List.mem_singleton] at hc
      rcases hc with hc | rfl
      · exact ih _ c hc
      · exact (hexDigit_value _ (Nat.mod_lt _ (by omega))).2

theorem hexDigits_value (k n : ℕ) :
    hexNumber (UUID.hexDigits k n) = n % 16 ^ k := by
  unfold hexNumber
  induction k generalizing n with
  | zero => simp [UUID.hexDigits, Nat.mod_one]
  | succ k ih =>
      have hdigit := (hexDigit_value (n % 16) (Nat.mod_lt _ (by omega))).1
      rw [UUID.hexDigits, List.foldl_append, ih, List.foldl_cons, List.foldl_nil, hdigit, Nat.pow_succ,
        Nat.mul_comm (16 ^ k) 16, Nat.mod_mul]
      omega

/-- The groups of a UUID's digits are its digits. -/
theorem groups_append (d : List Char) :
    d.take 8 ++ ((d.drop 8).take 4 ++ ((d.drop 12).take 4 ++ ((d.drop 16).take 4 ++ d.drop 20))) = d := by
  have h₁ : (d.drop 16).take 4 ++ d.drop 20 = d.drop 16 := by
    have h := List.take_append_drop 4 (d.drop 16)
    rwa [List.drop_drop] at h
  have h₂ : (d.drop 12).take 4 ++ d.drop 16 = d.drop 12 := by
    have h := List.take_append_drop 4 (d.drop 12)
    rwa [List.drop_drop] at h
  have h₃ : (d.drop 8).take 4 ++ d.drop 12 = d.drop 8 := by
    have h := List.take_append_drop 4 (d.drop 8)
    rwa [List.drop_drop] at h
  rw [h₁, h₂, h₃, List.take_append_drop]

/-- Without its dashes the string of a UUID is its digits. -/
theorem string_digits (id : UUID) :
    id.string.toList.filter (· ≠ '-') = UUID.hexDigits 32 id.toNat := by
  unfold UUID.string
  have hdash := hexDigits_ne_dash 32 id.toNat
  generalize UUID.hexDigits 32 id.toNat = d at hdash
  have hkeep : ∀ l : List Char, (∀ c ∈ l, c ∈ d) → l.filter (· ≠ '-') = l := by
    intro l hl
    exact List.filter_eq_self.mpr fun c hc => by simpa using hdash c (hl c hc)
  have hsub : ∀ a b : ℕ, ∀ c ∈ (d.drop a).take b, c ∈ d := fun a b c hc =>
    List.mem_of_mem_drop (List.mem_of_mem_take hc)
  simp only [String.toList_ofList, List.filter_append, List.filter_cons, ne_eq, not_true,
    decide_false, Bool.false_eq_true, if_false]
  rw [hkeep _ fun c hc => List.mem_of_mem_take hc, hkeep _ (hsub 8 4), hkeep _ (hsub 12 4),
    hkeep _ (hsub 16 4), hkeep _ fun c hc => List.mem_of_mem_drop hc]
  simpa only [List.append_assoc] using groups_append d

theorem string_length (id : UUID) : id.string.length = 36 := by
  have hlen := hexDigits_length 32 id.toNat
  unfold UUID.string
  generalize UUID.hexDigits 32 id.toNat = d at hlen
  rw [String.length_ofList]
  simp only [List.length_append, List.length_cons, List.length_take, List.length_drop, hlen]
  omega

theorem readsBackUUIDs : Issuer.ReadsBackUUIDs uuidParse := by
  intro id
  have hlt : id.toNat < 16 ^ 32 := id.isLt
  rw [uuidParse, if_pos (string_length id), string_digits, hexDigits_value, Nat.mod_eq_of_lt hlt,
    BitVec.ofNat_toNat, BitVec.setWidth_eq]

/-! ### The deployment -/

/-- A hasher whose encoded hash is the password behind a prefix. -/
def hasher : PasswordHasher where
  verify plain encodedHash := .ok (encodedHash == "argon2id$" ++ plain)

/-- The lower case of an ASCII letter. -/
def lower (c : Char) : Char := if 'A' ≤ c ∧ c ≤ 'Z' then Char.ofNat (c.toNat + 32) else c

def deps : Deps where
  hasher := hasher
  issuer := ⟨lib, uuidParse, [1], [2], "key-1", "superadmin"⟩
  authConfig := ⟨15 * Duration.minute, 720 * Duration.hour, 5, 15 * Duration.minute⟩
  unicodeToLower := lower
  citextLower := toLower lower

/-- The access token with some claims. -/
def token (c : AccessClaims) : String :=
  String.ofList (List.replicate (Encodable.encode
    ((⟨algEdDSA, some "key-1"⟩ : JwtHeader), deps.issuer.codedClaims c) + 1) '1')

theorem issue_token (c : AccessClaims) : deps.issuer.issue c = .ok (token c) := rfl

theorem token_ne_empty (c : AccessClaims) : token c ≠ "" := by
  intro h
  have hlen := congrArg String.length h
  simp [token] at hlen

theorem trimSpace_token (c : AccessClaims) : trimSpace (token c) = token c := by
  refine trimSpace_eq_self fun ch hch => ?_
  rw [token, String.toList_ofList] at hch
  rw [List.eq_of_mem_replicate hch]
  decide

/-- There are draws for eight calls. -/
instance neZeroEight : NeZero 8 := ⟨by decide⟩

theorem two_le_eight : 2 ≤ 8 := by decide

/-- One thread, or two, run beside each other. -/
instance neZeroOne : NeZero 1 := ⟨by decide⟩

instance neZeroTwo : NeZero 2 := ⟨by decide⟩

/-- The random values of the `n`-th call. -/
def draws (n : Fin 8) : Draws where
  uuid site :=
    let k := match site with
      | .session => 1
      | .accessToken => 2
      | .refreshToken => 3
      | .row => 4
    BitVec.ofNat 128 (16 * n.val + k)
  rand _ := .ok (List.replicate 32 (UInt8.ofNat n.val))
  uuid_ne_nil := by
    intro site
    cases site <;> revert n <;> decide

/-- The instant at which the runs start, in 2026. -/
def start : Time := ⟨1785000000 * 1000000000⟩

def user (id : UUID) (email : String) (role : Role) : SuperAdminUser where
  id := id
  email := email
  fullName := "Имя"
  passwordHash := "argon2id$correct horse"
  role := role
  status := .active
  totpEnrolledAt := none
  failedLoginAttempts := 0
  lockedUntil := none
  lastLoginAt := none
  createdAt := start

def owner : SuperAdminUser := user 1000 "owner@example.com" .owner
def support : SuperAdminUser := user 1001 "support@example.com" .support

/-- Two members of the team and nothing else. -/
def world : World deps where
  clock := start
  redis := ⟨true, []⟩
  users := ⟨[owner, support], by decide⟩
  tokens := Table.empty
  invitations := Table.empty
  clients := ⟨Table.empty, Table.empty, Table.empty⟩
  templates := Table.empty
  audit := []

/-- The state with a log of so many entries, a second apart. -/
def logged (n : ℕ) : World deps :=
  { world with audit := (List.range n).map fun i => {
      id := i + 1
      actorEmail := "owner@example.com"
      action := AuditAction.loginSuccess.string
      ip := "203.0.113.7"
      userAgent := "browser"
      createdAt := start.add (.ofNat i * Duration.second) } }

/-- A client on a trial that ends so many days from the start. -/
def onTrial (id : UUID) (email : String) (days : ℤ) : Tenant where
  id := id
  name := "Кафе"
  city := "Алматы"
  address := "Алматы, Абая 1"
  status := .trial
  plan := .growth
  employees := 0
  ownerName := "Владелец"
  phone := "+7"
  email := email
  lastActiveAt := none
  trialEndsAt := some ⟨start.ns + days * (86400 * 1000000000)⟩
  suspendedReason := none
  activationCode := none
  activationCodeExpiresAt := none
  createdAt := start

def context : RequestContext := ⟨"203.0.113.7", "browser"⟩

/-- The state after the owner has logged in. -/
def loggedIn : World deps :=
  ((callPool deps (fun _ : Fin 1 => .login ⟨"owner@example.com", "correct horse"⟩ context) world).play
    (fun _ => exec deps (draws 0)) (List.replicate 12 0)).state

/-- The refresh token of that login. -/
def firstToken : String := rawURLEncodeToString (List.replicate 32 0)

/-- What the access token of that login says. -/
def firstClaims : AccessClaims :=
  Usecase.Auth.accessClaims deps owner ((draws 0).uuid .session) ((draws 0).uuid .accessToken) start

theorem reachable_loggedIn : Reachable deps loggedIn :=
  ⟨Fin 1, inferInstance, _, fun _ => draws 0, world, _, rfl, Function.injective_of_subsingleton _,
    Pool.play_run _ _, rfl⟩

end SuperAdmin.Sample
