import SuperAdmin.Sample

/-! # Access tokens round-trip

What `Issue` writes `Parse` reads back, with its times cut to whole seconds, until the token expires; from
then on, and at an issuer with another key id or name, every answer wraps `ErrInvalidToken`. -/

namespace SuperAdmin

/-! ### What is assumed of the library -/

/-- A date from the years 1970 to 9999. -/
def NumericDate.Ordinary (d : NumericDate) : Prop := 0 ≤ d.seconds ∧ d.seconds < 253402300800

/-- An instant in the years 1970 to 9999. -/
def Time.Ordinary (t : Time) : Prop := 0 ≤ t.ns ∧ t.ns < 253402300800 * 1000000000

theorem Time.Ordinary.ofTime {t : Time} (h : t.Ordinary) : (NumericDate.ofTime t).Ordinary := by
  obtain ⟨hlow, hhigh⟩ := h
  unfold NumericDate.Ordinary NumericDate.ofTime
  dsimp only
  omega

/-- The dates of some claims, where they are there, are ordinary. -/
structure JwtClaims.Ordinary (c : JwtClaims) : Prop where
  issuedAt : ∀ d ∈ c.issuedAt, d.Ordinary
  expiresAt : ∀ d ∈ c.expiresAt, d.Ordinary
  notBefore : ∀ d ∈ c.notBefore, d.Ordinary

namespace Issuer

/-- The library signs claims with the key of the issuer, decodes them back, and accepts the signature; UUIDs
are read back from their strings. -/
structure Faithful (I : Issuer) : Prop where
  signs : ∀ kid c, c.Ordinary → ∃ token, I.lib.signedString ⟨algEdDSA, some kid⟩ c I.priv = .ok token
  decodes : ∀ kid c token, c.Ordinary → I.lib.signedString ⟨algEdDSA, some kid⟩ c I.priv = .ok token →
    I.lib.parseUnverified token = .ok (⟨algEdDSA, some kid⟩, c)
  verifies : ∀ kid c token, I.lib.signedString ⟨algEdDSA, some kid⟩ c I.priv = .ok token →
    I.lib.verify token I.pub = true
  uuids : ReadsBackUUIDs I.uuidParse

variable {I : Issuer} {c : AccessClaims} {now : Time} {token : String}

theorem ordinary_codedClaims (hissued : c.issuedAt.Ordinary) (hexpires : c.expiresAt.Ordinary) :
    (I.codedClaims c).Ordinary where
  issuedAt := by
    rintro d ⟨⟩
    exact hissued.ofTime
  expiresAt := by
    rintro d ⟨⟩
    exact hexpires.ofTime
  notBefore := by
    rintro d ⟨⟩

/-! ### Refusals -/

/-- Every error of `Parse` wraps `ErrInvalidToken`. -/
theorem parse_error_wrappedIn {e : Error} (h : I.parse now token = .error e) : errInvalidToken.WrappedIn e := by
  unfold parse at h
  split at h
  · cases h
    exact .operand List.mem_cons_self .self
  · split at h
    · cases h
      exact Error.wrappedIn_withf _ _
    · split at h
      · cases h
        exact Error.wrappedIn_withf _ _
      · split at h
        · cases h
          exact Error.wrappedIn_withf _ _
        · split at h
          · cases h
          · cases h
            exact Error.wrappedIn_withf _ _

/-- What does not accept a token refuses it with such an error. -/
theorem parse_refuses (h : ∀ a, I.parse now token ≠ .ok a) :
    ∃ e, I.parse now token = .error e ∧ errInvalidToken.WrappedIn e := by
  cases hparse : I.parse now token with
  | error e => exact ⟨e, rfl, parse_error_wrappedIn hparse⟩
  | ok a => exact absurd hparse (h a)

/-- A key id that is not ours is refused. -/
theorem keyFunc_kid {key : Bytes} {alg kid : String} (h : I.keyFunc ⟨alg, some kid⟩ = .ok key) :
    kid = I.keyID := by
  unfold keyFunc at h
  split at h
  · cases h
  · by_contra hne
    simp [hne] at h

/-! ### The round trip -/

/-- **Access tokens round-trip.**  A token is read back until it expires, and refused from then on; an issuer
with another key id or another name refuses it always. -/
theorem parse_issue_roundtrip (hI : I.Faithful) (hrole : c.role.valid = true)
    (hissued : c.issuedAt.Ordinary) (hexpires : c.expiresAt.Ordinary) :
    ∃ token, I.issue c = .ok token ∧
      (∀ now, now < c.expiresAt.truncateSecond → I.parse now token = .ok (parsed c)) ∧
      (∀ now, ¬ now < c.expiresAt.truncateSecond →
        ∃ e, I.parse now token = .error e ∧ errInvalidToken.WrappedIn e) ∧
      ∀ I' : Issuer, I'.lib = I.lib → (I'.keyID ≠ I.keyID ∨ I'.issuer ≠ I.issuer ∧ I'.issuer ≠ "") →
        ∀ now, ∃ e, I'.parse now token = .error e ∧ errInvalidToken.WrappedIn e := by
  have hordinary := ordinary_codedClaims (I := I) hissued hexpires
  obtain ⟨token, hsigned⟩ := hI.signs I.keyID _ hordinary
  have hdec := hI.decodes _ _ _ hordinary hsigned
  have hverify := hI.verifies _ _ _ hsigned
  refine ⟨token, by simp [issue, hsigned], fun now hnow => ?_, fun now hnow => ?_, fun I' hlib hother now => ?_⟩
  · exact parse_decoded hI.uuids hdec hverify hnow hrole
  · refine parse_refuses fun a hparse => ?_
    obtain ⟨hd, cc, exp, hdec', hexp, hlt, -⟩ := parse_ok hparse
    rw [hdec] at hdec'
    cases hdec'
    cases hexp
    exact hnow hlt
  · refine parse_refuses fun a hparse => ?_
    obtain ⟨cc, hclaims, -⟩ := parse_claims hparse
    obtain ⟨hd, key, hdec', hkey, hvalid⟩ := parseWithClaims_ok hclaims
    obtain ⟨-, -, -, hours⟩ := validateClaims_ok hvalid
    rw [hlib, hdec] at hdec'
    cases hdec'
    rcases hother with hkid | ⟨hissuer, hname⟩
    · exact hkid (keyFunc_kid hkey).symm
    · exact hissuer (hours hname).symm

theorem faithful_sample : Sample.deps.issuer.Faithful where
  signs _ _ _ := ⟨_, rfl⟩
  decodes _ c token _ hsigned := Sample.decodesSigned _ c _ token hsigned
  verifies _ _ _ _ := rfl
  uuids := Sample.readsBackUUIDs

/-- The token of the first login. -/
theorem parse_issue_roundtrip_first :
    ∃ token, Sample.deps.issuer.issue Sample.firstClaims = .ok token ∧
      (∀ now, now < Sample.firstClaims.expiresAt.truncateSecond →
        Sample.deps.issuer.parse now token = .ok (parsed Sample.firstClaims)) ∧
      (∀ now, ¬ now < Sample.firstClaims.expiresAt.truncateSecond →
        ∃ e, Sample.deps.issuer.parse now token = .error e ∧ errInvalidToken.WrappedIn e) ∧
      ∀ I' : Issuer, I'.lib = Sample.deps.issuer.lib →
        (I'.keyID ≠ Sample.deps.issuer.keyID ∨
          I'.issuer ≠ Sample.deps.issuer.issuer ∧ I'.issuer ≠ "") →
        ∀ now, ∃ e, I'.parse now token = .error e ∧ errInvalidToken.WrappedIn e :=
  parse_issue_roundtrip faithful_sample rfl ⟨by decide, by decide⟩ ⟨by decide, by decide⟩

end Issuer

end SuperAdmin
