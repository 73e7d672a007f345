import SuperAdmin.Domain

/-! # Access tokens

`internal/pkg/jwt`.  The JWT library and the UUID parser are not part of the repository: they
are the parameters `JwtLib` (what it does with one token: sign it, decode it, check its
signature) and `uuidParse`.  The checks that the library makes in a documented order
(`parseWithClaims`) and the checks that `Issuer.Parse` adds are written out. -/

namespace SuperAdmin

/-- The part of a token's header that the code reads. -/
structure JwtHeader where
  alg : String
  kid : Option String

/-- `jwtlib.NumericDate`: whole seconds since the Unix epoch. -/
structure NumericDate where
  seconds : ℤ
deriving DecidableEq, Repr

namespace NumericDate

/-- `jwtlib.NewNumericDate`. -/
def ofTime (t : Time) : NumericDate := ⟨t.ns / 1000000000⟩

/-- `NumericDate.Time`. -/
def time (d : NumericDate) : Time := ⟨d.seconds * 1000000000⟩

end NumericDate

/-- The claims of a token as they are coded: `claims` with its `RegisteredClaims`. -/
structure JwtClaims where
  email : String
  role : String
  sid : String
  issuer : String
  subject : String
  id : String
  issuedAt : Option NumericDate
  expiresAt : Option NumericDate
  notBefore : Option NumericDate

/-- The JWT library with its signature scheme, on one token. -/
structure JwtLib where
  /-- `Token.SignedString` with a private key. -/
  signedString : JwtHeader → JwtClaims → Bytes → Except Error String
  /-- `Parser.ParseUnverified`: the three segments and their JSON. -/
  parseUnverified : String → Except Error (JwtHeader × JwtClaims)
  /-- The signature of the token is valid under a public key. -/
  verify : String → Bytes → Bool

/-- `SigningMethodEdDSA.Alg()`. -/
def algEdDSA : String := "EdDSA"

/-- `jwt.ErrInvalidToken`. -/
def errInvalidToken : Error := .foreign "некорректный токен"

/-- `jwt.ErrKeyMismatch`. -/
def errKeyMismatch : Error := .foreign "токен подписан неизвестным ключом"

/-- `jwt.Issuer`. -/
structure Issuer where
  lib : JwtLib
  uuidParse : String → Except Error UUID
  priv : Bytes
  pub : Bytes
  keyID : String
  issuer : String

namespace Issuer

variable (I : Issuer)

/-- The claims that `Issue` signs. -/
def codedClaims (c : AccessClaims) : JwtClaims where
  email := c.email
  role := c.role.string
  sid := c.sessionID.string
  issuer := I.issuer
  subject := c.userID.string
  id := c.tokenID.string
  issuedAt := some (.ofTime c.issuedAt)
  expiresAt := some (.ofTime c.expiresAt)
  notBefore := none

/-- `Issuer.Issue`. -/
def issue (c : AccessClaims) : Except Error String :=
  match I.lib.signedString ⟨algEdDSA, some I.keyID⟩ (I.codedClaims c) I.priv with
  | .error e => .error (.wrapf "подпись токена" e)
  | .ok signed => .ok signed

/-- The key function of `Parse`: EdDSA only, and no other `kid` than ours. -/
def keyFunc (h : JwtHeader) : Except Error Bytes :=
  if h.alg ≠ algEdDSA then .error (.withf errKeyMismatch ("алгоритм " ++ h.alg))
  else match h.kid with
    | some kid => if kid ≠ I.keyID then .error (.withf errKeyMismatch ("kid=" ++ kid)) else .ok I.pub
    | none => .ok I.pub

/-- The library's `Validator.Validate` under `WithExpirationRequired` and `WithIssuer`. -/
def validateClaims (now : Time) (c : JwtClaims) : Except Error Unit :=
  match c.expiresAt with
  | none => .error (.foreign "token is missing required claim: exp claim is required")
  | some exp =>
      if ¬ now < exp.time then .error (.foreign "token has invalid claims: token is expired")
      else if c.notBefore.any (fun nbf => decide (now < nbf.time)) then
        .error (.foreign "token has invalid claims: token is not valid yet")
      else if I.issuer ≠ "" ∧ c.issuer ≠ I.issuer then
        .error (.foreign "token has invalid claims: token has invalid issuer")
      else .ok ()

/-- The library's `ParseWithClaims` with the options of `Parse`. -/
def parseWithClaims (now : Time) (token : String) : Except Error JwtClaims :=
  match I.lib.parseUnverified token with
  | .error e => .error e
  | .ok (h, c) =>
      -- WithValidMethods comes before the key function
      if h.alg ≠ algEdDSA then .error (.foreign "token signature is invalid: signing method")
      else match I.keyFunc h with
        | .error e => .error (.wrapf "token is unverifiable: error while executing keyfunc" e)
        | .ok key =>
            if ¬ I.lib.verify token key then .error (.foreign "token signature is invalid")
            else match I.validateClaims now c with
              | .error e => .error e
              | .ok () => .ok c

/-- `Issuer.Parse` at the time `now` of the issuer's clock. -/
def parse (now : Time) (token : String) : Except Error AccessClaims :=
  match I.parseWithClaims now token with
  | .error e => .error (.errorf (errInvalidToken.text ++ ": " ++ e.text) [errInvalidToken, e])
  | .ok c =>
  match I.uuidParse c.subject with
  | .error _ => .error (.withf errInvalidToken "некорректный sub")
  | .ok userID =>
  match I.uuidParse c.id with
  | .error _ => .error (.withf errInvalidToken "некорректный jti")
  | .ok tokenID =>
  match I.uuidParse c.sid with
  | .error _ => .error (.withf errInvalidToken "некорректный sid")
  | .ok sessionID =>
  if (Role.ofString c.role).valid then
    .ok { userID := userID, email := c.email, role := Role.ofString c.role, sessionID := sessionID,
          tokenID := tokenID,
          issuedAt := (c.issuedAt.map NumericDate.time).getD Time.zero,
          expiresAt := (c.expiresAt.map NumericDate.time).getD Time.zero }
  else .error (.withf errInvalidToken ("неизвестная роль \"" ++ c.role ++ "\""))

/-! ### What an accepted token says -/

variable {I}

theorem validateClaims_ok {now : Time} {c : JwtClaims} (h : I.validateClaims now c = .ok ()) :
    ∃ exp, c.expiresAt = some exp ∧ now < exp.time ∧ (I.issuer ≠ "" → c.issuer = I.issuer) := by
  unfold validateClaims at h
  split at h
  · cases h
  · rename_i exp hexp
    rw [check_eq_ok_iff, check_eq_ok_iff, check_eq_ok_iff, not_not, not_and_not_right] at h
    obtain ⟨hlt, -, hissuer, -⟩ := h
    exact ⟨exp, hexp, hlt, hissuer⟩

/-- An accepted text has passed the key function and the checks of its claims. -/
theorem parseWithClaims_ok {now : Time} {token : String} {c : JwtClaims}
    (h : I.parseWithClaims now token = .ok c) :
    ∃ hd key, I.lib.parseUnverified token = .ok (hd, c) ∧ I.keyFunc hd = .ok key ∧
      I.validateClaims now c = .ok () := by
  unfold parseWithClaims at h
  split at h
  · cases h
  · rename_i hd c' hdec
    obtain ⟨-, h⟩ := check_eq_ok_iff.mp h
    split at h
    · cases h
    · rename_i key hkey
      obtain ⟨-, h⟩ := check_eq_ok_iff.mp h
      split at h
      · cases h
      · rename_i hv
        cases h
        exact ⟨hd, key, hdec, hkey, hv⟩

/-- What `Parse` returns is read off the claims of the text. -/
theorem parse_claims {now : Time} {token : String} {a : AccessClaims} (h : I.parse now token = .ok a) :
    ∃ c, I.parseWithClaims now token = .ok c ∧ a.role = Role.ofString c.role ∧ a.email = c.email ∧
      a.expiresAt = (c.expiresAt.map NumericDate.time).getD Time.zero ∧
      I.uuidParse c.subject = .ok a.userID ∧ I.uuidParse c.id = .ok a.tokenID ∧
      I.uuidParse c.sid = .ok a.sessionID := by
  unfold parse at h
  split at h
  · cases h
  · rename_i c hc
    split at h
    · cases h
    · rename_i userID hsub
      split at h
      · cases h
      · rename_i tokenID hid
        split at h
        · cases h
        · rename_i sessionID hsid
          split at h
          · cases h
            exact ⟨c, hc, rfl, rfl, rfl, hsub, hid, hsid⟩
          · cases h

/-- What `Parse` returns is read off the decoded claims, and the token has not expired. -/
theorem parse_ok {now : Time} {token : String} {a : AccessClaims}
    (h : I.parse now token = .ok a) :
    ∃ hd c exp, I.lib.parseUnverified token = .ok (hd, c) ∧ c.expiresAt = some exp ∧
      now < exp.time ∧ a.expiresAt = exp.time ∧ a.role = Role.ofString c.role ∧ a.email = c.email ∧
      I.uuidParse c.subject = .ok a.userID ∧ I.uuidParse c.id = .ok a.tokenID ∧
      I.uuidParse c.sid = .ok a.sessionID := by
  obtain ⟨c, hc, hrole, hemail, hexpires, hids⟩ := parse_claims h
  obtain ⟨hd, -, hdec, -, hval⟩ := parseWithClaims_ok hc
  obtain ⟨exp, hexp, hlt, -⟩ := validateClaims_ok hval
  rw [hexp] at hexpires
  exact ⟨hd, c, exp, hdec, hexp, hlt, hexpires, hrole, hemail, hids⟩

/-- A token is accepted only before its expiry. -/
theorem parse_before_expiry {now : Time} {token : String} {a : AccessClaims}
    (h : I.parse now token = .ok a) : now < a.expiresAt := by
  obtain ⟨_, _, _, _, _, hlt, ha, _⟩ := parse_ok h
  rw [ha]; exact hlt

/-! ### Tokens that were issued -/

/-- The library decodes the tokens that it signed to what was signed. -/
def DecodesSigned (lib : JwtLib) : Prop :=
  ∀ h c key token, lib.signedString h c key = .ok token → lib.parseUnverified token = .ok (h, c)

/-- The UUID parser reads back the string of a UUID. -/
def ReadsBackUUIDs (parse : String → Except Error UUID) : Prop :=
  ∀ id : UUID, parse id.string = .ok id

theorem ReadsBackUUIDs.string_inj {parse : String → Except Error UUID} (h : ReadsBackUUIDs parse) {a b : UUID}
    (hab : a.string = b.string) : a = b := by
  have hread := h a
  rw [hab, h b] at hread
  exact (Except.ok.inj hread).symm

theorem issue_ok {c : AccessClaims} {token : String} (h : I.issue c = .ok token) :
    I.lib.signedString ⟨algEdDSA, some I.keyID⟩ (I.codedClaims c) I.priv = .ok token := by
  unfold issue at h
  split at h
  · cases h
  · cases h; assumption

theorem issue_error {c : AccessClaims} {e : Error} (h : I.issue c = .error e) :
    ∃ text operands, e = .errorf text operands := by
  unfold issue at h
  split at h
  · cases h
    exact ⟨_, _, rfl⟩
  · cases h

/-- The claims of an issued token are those it was issued with, its expiry cut to a second. -/
theorem parse_issue (hlib : DecodesSigned I.lib) (huuid : ReadsBackUUIDs I.uuidParse)
    {c a : AccessClaims} {token : String} {now : Time} (hi : I.issue c = .ok token)
    (hp : I.parse now token = .ok a) :
    a.userID = c.userID ∧ a.email = c.email ∧ a.role = c.role ∧ a.sessionID = c.sessionID ∧
      a.tokenID = c.tokenID ∧ a.expiresAt = c.expiresAt.truncateSecond := by
  obtain ⟨hd, cc, exp, hdec, hexp, -, hea, hra, hem, hsub, hid, hsid⟩ := parse_ok hp
  have hsig := hlib _ _ _ _ (issue_ok hi)
  rw [hdec] at hsig
  cases hsig
  simp only [codedClaims, Option.some.injEq] at hexp
  subst hexp
  have huser := Except.ok.inj (hsub.symm.trans (huuid c.userID))
  have htoken := Except.ok.inj (hid.symm.trans (huuid c.tokenID))
  have hsession := Except.ok.inj (hsid.symm.trans (huuid c.sessionID))
  exact ⟨huser, hem, hra.trans (Role.ofString_string c.role), hsession, htoken, hea⟩

/-- The claims of an issued token as they are read: a token keeps whole seconds. -/
def parsed (c : AccessClaims) : AccessClaims :=
  { c with issuedAt := c.issuedAt.truncateSecond, expiresAt := c.expiresAt.truncateSecond }

/-- A token that is decoded to issued claims, and whose signature is valid, is accepted until its expiry. -/
theorem parse_decoded (huuid : ReadsBackUUIDs I.uuidParse) {c : AccessClaims} {token : String} {now : Time}
    (hdec : I.lib.parseUnverified token = .ok (⟨algEdDSA, some I.keyID⟩, I.codedClaims c))
    (hverify : I.lib.verify token I.pub = true) (hnow : now < c.expiresAt.truncateSecond)
    (hrole : c.role.valid = true) :
    I.parse now token = .ok (parsed c) := by
  have hkey : I.keyFunc ⟨algEdDSA, some I.keyID⟩ = .ok I.pub := by simp [keyFunc]
  have hvalid : I.validateClaims now (I.codedClaims c) = .ok () := by
    have hexp : now < (NumericDate.ofTime c.expiresAt).time := hnow
    simp [validateClaims, codedClaims, hexp]
  have hclaims : I.parseWithClaims now token = .ok (I.codedClaims c) := by
    simp [parseWithClaims, hdec, hkey, hverify, hvalid]
  have hsub : I.uuidParse (I.codedClaims c).subject = .ok c.userID := huuid c.userID
  have hid : I.uuidParse (I.codedClaims c).id = .ok c.tokenID := huuid c.tokenID
  have hsid : I.uuidParse (I.codedClaims c).sid = .ok c.sessionID := huuid c.sessionID
  have hread : Role.ofString (I.codedClaims c).role = c.role := Role.ofString_string c.role
  unfold parse
  simp only [hclaims, hsub, hid, hsid, hread, hrole, if_true]
  rfl

/-- An issued token whose signature is valid is accepted until its expiry. -/
theorem parse_issued (hlib : DecodesSigned I.lib) (huuid : ReadsBackUUIDs I.uuidParse)
    {c : AccessClaims} {token : String} {now : Time} (hi : I.issue c = .ok token)
    (hverify : I.lib.verify token I.pub = true) (hnow : now < c.expiresAt.truncateSecond)
    (hrole : c.role.valid = true) :
    I.parse now token = .ok (parsed c) :=
  parse_decoded huuid (hlib _ _ _ _ (issue_ok hi)) hverify hnow hrole

end Issuer

end SuperAdmin
