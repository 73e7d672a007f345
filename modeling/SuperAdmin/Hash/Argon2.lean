import SuperAdmin.Go.Errors
import SuperAdmin.Go.Scan

/-! # The password hasher

`internal/pkg/hash`: `Hash` writes the parameters, the salt and the key of a password into one text, and
`Verify` takes them from that text.  The key derivation of `golang.org/x/crypto/argon2` stays open; it
panics where its time, its threads or the length of its key is zero, and `none` stands for that panic.

`Spells` is the grammar of a hash, and `decodeHash_eq_ok_iff` says that `Verify` reads this grammar and
nothing else. -/

namespace SuperAdmin

open Scan

/-- `golang.org/x/crypto/argon2`: the key derivation, where it does not panic. -/
structure Argon2 where
  derive : (password salt : Bytes) → (time memory : UInt32) → (threads : UInt8) → (keyLen : UInt32) → Bytes
  length : ∀ password salt time memory threads keyLen,
    (derive password salt time memory threads keyLen).length = keyLen.toNat

/-- `argon2.Version`. -/
def Argon2.version : ℕ := 19

/-- `argon2.IDKey`; `none` is a panic. -/
def Argon2.idKey (a : Argon2) (password salt : Bytes) (time memory : UInt32) (threads : UInt8)
    (keyLen : UInt32) : Option Bytes :=
  if time = 0 ∨ threads = 0 ∨ keyLen = 0 then none
  else some (a.derive password salt time memory threads keyLen)

theorem Argon2.idKey_eq_none_iff {a : Argon2} {password salt : Bytes} {time memory : UInt32}
    {threads : UInt8} {keyLen : UInt32} :
    a.idKey password salt time memory threads keyLen = none ↔ time = 0 ∨ threads = 0 ∨ keyLen = 0 := by
  unfold Argon2.idKey
  split
  · rename_i h
    exact iff_of_true rfl h
  · rename_i h
    exact iff_of_false (Option.some_ne_none _) h

/-- `hash.Params`. -/
structure Params where
  memory : UInt32
  iterations : UInt32
  parallelism : UInt8
  saltLength : UInt32
  keyLength : UInt32

/-- The salts of `rand.Read`. -/
abbrev Params.Salt (p : Params) : Type := {salt : Bytes // salt.length = p.saltLength.toNat}

/-- `TestParams`. -/
def Params.test : Params := ⟨64, 1, 1, 8, 16⟩

/-- The key derivation at the inputs that the instances below use; zeros elsewhere. -/
def Argon2.sample : Argon2 where
  derive password salt time memory threads keyLen :=
    if salt = bytesOf "somesalt" ∧ time = 1 ∧ memory = 64 ∧ threads = 1 ∧ keyLen = 16 then
      if password = bytesOf "password" then
        [0xa4, 0xc9, 0x70, 0x3a, 0xcf, 0xe0, 0x9f, 0xec, 0xdd, 0xbe, 0x80, 0x7f, 0x00, 0x68, 0x91, 0x34]
      else if password = bytesOf "differentpassword" then
        [0x0c, 0x9a, 0x74, 0x4c, 0xd1, 0x88, 0x41, 0x90, 0x1e, 0xf2, 0xaf, 0x97, 0xaf, 0xeb, 0x82, 0x1c]
      else List.replicate 16 0
    else List.replicate keyLen.toNat 0
  length := by
    intro password salt time memory threads keyLen
    split
    · rename_i h
      obtain ⟨-, -, -, -, rfl⟩ := h
      split
      · rfl
      · split <;> rfl
    · exact List.length_replicate

structure Argon2Hasher where
  argon2 : Argon2
  params : Params

/-- `ErrInvalidHashFormat`. -/
def errInvalidHashFormat : Error := .foreign "некорректный формат хеша пароля"

/-- `ErrIncompatibleAlgo`. -/
def errIncompatibleAlgo : Error := .foreign "несовместимый алгоритм хеширования"

/-- What a hash says. -/
structure Decoded where
  memory : UInt32
  iterations : UInt32
  parallelism : UInt8
  salt : Bytes
  want : Bytes

/-- The text of a hash: `Sprintf("$argon2id$v=%d$m=%d,t=%d,p=%d$%s$%s", ...)`. -/
def Decoded.text (d : Decoded) : String :=
  "$argon2id$v=" ++ Argon2.version.repr ++ "$m=" ++ d.memory.toNat.repr ++ ",t=" ++
    d.iterations.toNat.repr ++ ",p=" ++ d.parallelism.toNat.repr ++ "$" ++
    rawStdEncodeToString d.salt ++ "$" ++ rawStdEncodeToString d.want

/-! ### Reading a hash -/

def formatVersion : List Char := "v=%d".toList

def formatParams : List Char := "m=%d,t=%d,p=%d".toList

def readVersion (l : List Char) : Except Error ℤ :=
  match sscanf formatVersion [.int] l with
  | some [version] => .ok version
  | _ => .error errInvalidHashFormat

def readParams (l : List Char) : Except Error (UInt32 × UInt32 × UInt8) :=
  match sscanf formatParams [.uint32, .uint32, .uint8] l with
  | some [memory, iterations, parallelism] =>
      .ok (.ofInt memory, .ofInt iterations, .ofInt parallelism)
  | _ => .error errInvalidHashFormat

def readBytes (l : List Char) : Except Error Bytes :=
  match strictDecodeString l with
  | some b => .ok b
  | none => .error errInvalidHashFormat

/-- The part of `Verify` before the key is derived. -/
def decodeHash (encodedHash : String) : Except Error Decoded :=
  match encodedHash.toList.splitOn '$' with
  | [_, algo, version, params, salt, key] =>
      if algo ≠ "argon2id".toList then .error errIncompatibleAlgo
      else do
        let version ← readVersion version
        if version ≠ Argon2.version then .error errIncompatibleAlgo
        else do
          let (memory, iterations, parallelism) ← readParams params
          let salt ← readBytes salt
          let want ← readBytes key
          .ok ⟨memory, iterations, parallelism, salt, want⟩
  | _ => .error errInvalidHashFormat

/-! ### What Verify reads -/

/-- `s` is a hash that says `d`: six fields between `$` signs, the first of which is not looked at. -/
def Spells (s : String) (d : Decoded) : Prop :=
  ∃ first version params salt key : List Char,
    s.toList = ['$'].intercalate [first, "argon2id".toList, version, params, salt, key] ∧
    (∀ field ∈ [first, version, params, salt, key], '$' ∉ field) ∧
    Matches formatVersion [.int] version [Argon2.version] ∧
    Matches formatParams [.uint32, .uint32, .uint8] params
      [d.memory.toNat, d.iterations.toNat, d.parallelism.toNat] ∧
    (salt.filter fun c => !isLineEnd c) = rawStdDigits d.salt ∧
    (key.filter fun c => !isLineEnd c) = rawStdDigits d.want

theorem readVersion_eq_ok_iff {l : List Char} {version : ℤ} :
    readVersion l = .ok version ↔ Matches formatVersion [.int] l [version] := by
  rw [← sscanf_eq_some_iff]
  unfold readVersion
  split
  · rename_i heq
    rw [heq]
    constructor
    · rintro ⟨⟩
      rfl
    · rintro ⟨⟩
      rfl
  · rename_i hne
    exact iff_of_false nofun (hne version)

theorem ofInt_uint32 (n : UInt32) : UInt32.ofInt n.toNat = n := by
  have hn := n.toNat_lt
  rw [← UInt32.toNat_inj, UInt32.ofInt, UInt32.toNat_ofNat']
  omega

theorem toNat_ofInt_uint32 {n : ℤ} (h : IntType.uint32.Fits n) : ((UInt32.ofInt n).toNat : ℤ) = n := by
  obtain ⟨h0, hlt⟩ := h
  rw [UInt32.ofInt, UInt32.toNat_ofNat']
  omega

theorem ofInt_uint8 (n : UInt8) : UInt8.ofInt n.toNat = n := by
  have hn := n.toNat_lt
  rw [← UInt8.toNat_inj, UInt8.ofInt, UInt8.toNat_ofNat']
  omega

theorem toNat_ofInt_uint8 {n : ℤ} (h : IntType.uint8.Fits n) : ((UInt8.ofInt n).toNat : ℤ) = n := by
  obtain ⟨h0, hlt⟩ := h
  rw [UInt8.ofInt, UInt8.toNat_ofNat']
  omega

theorem readParams_eq_ok_iff {l : List Char} {memory iterations : UInt32} {parallelism : UInt8} :
    readParams l = .ok (memory, iterations, parallelism) ↔
      Matches formatParams [.uint32, .uint32, .uint8] l
        [memory.toNat, iterations.toNat, parallelism.toNat] := by
  rw [← sscanf_eq_some_iff]
  unfold readParams
  split
  · rename_i m t p heq
    rw [heq]
    constructor
    · rintro ⟨⟩
      have hfits := (sscanf_eq_some_iff.mp heq).fits
      cases hfits with
      | cons hm hfits =>
          cases hfits with
          | cons ht hfits =>
              cases hfits with
              | cons hp _ => rw [toNat_ofInt_uint32 hm, toNat_ofInt_uint32 ht, toNat_ofInt_uint8 hp]
    · rintro ⟨⟩
      rw [ofInt_uint32, ofInt_uint32, ofInt_uint8]
  · rename_i hne
    exact iff_of_false nofun (hne _ _ _)

theorem readBytes_eq_ok_iff {l : List Char} {b : Bytes} :
    readBytes l = .ok b ↔ (l.filter fun c => !isLineEnd c) = rawStdDigits b := by
  rw [← strictDecodeString_eq_some_iff]
  unfold readBytes
  split
  · rename_i heq
    rw [heq, Except.ok.injEq, Option.some.injEq]
  · rename_i heq
    rw [heq]
    exact iff_of_false nofun nofun

/-- The readers of the fields have one error. -/
theorem readVersion_error {l : List Char} {err : Error} (h : readVersion l = .error err) :
    err = errInvalidHashFormat := by
  unfold readVersion at h
  split at h <;> cases h
  rfl

theorem readParams_error {l : List Char} {err : Error} (h : readParams l = .error err) :
    err = errInvalidHashFormat := by
  unfold readParams at h
  split at h <;> cases h
  rfl

theorem readBytes_error {l : List Char} {err : Error} (h : readBytes l = .error err) :
    err = errInvalidHashFormat := by
  unfold readBytes at h
  split at h <;> cases h
  rfl

/-- An error is one of the two. -/
theorem decodeHash_error {s : String} {err : Error} (h : decodeHash s = .error err) :
    err = errInvalidHashFormat ∨ err = errIncompatibleAlgo := by
  unfold decodeHash at h
  split at h
  · split at h
    · cases h
      exact .inr rfl
    rcases bind_error h with hversion | ⟨version, -, h⟩
    · exact .inl (readVersion_error hversion)
    split at h
    · cases h
      exact .inr rfl
    rcases bind_error h with hparams | ⟨⟨memory, iterations, parallelism⟩, -, h⟩
    · exact .inl (readParams_error hparams)
    rcases bind_error h with hsalt | ⟨salt, -, h⟩
    · exact .inl (readBytes_error hsalt)
    rcases bind_error h with hkey | ⟨want, -, h⟩
    · exact .inl (readBytes_error hkey)
    · cases h
  · cases h
    exact .inl rfl

/-- `Verify` reads the grammar of a hash and nothing else. -/
theorem decodeHash_eq_ok_iff {s : String} {d : Decoded} : decodeHash s = .ok d ↔ Spells s d := by
  constructor
  · intro h
    unfold decodeHash at h
    split at h
    · rename_i first algo version params salt key hsplit
      split at h
      · cases h
      rename_i halgo
      obtain ⟨n, hversion, h⟩ := bind_ok h
      split at h
      · cases h
      rename_i hn
      obtain ⟨⟨memory, iterations, parallelism⟩, hparams, h⟩ := bind_ok h
      obtain ⟨saltBytes, hsalt, h⟩ := bind_ok h
      obtain ⟨want, hkey, h⟩ := bind_ok h
      cases h
      obtain rfl := of_not_not halgo
      obtain rfl := of_not_not hn
      refine ⟨first, version, params, salt, key, ?_, ?_, readVersion_eq_ok_iff.mp hversion,
        readParams_eq_ok_iff.mp hparams, readBytes_eq_ok_iff.mp hsalt, readBytes_eq_ok_iff.mp hkey⟩
      · rw [← hsplit, List.intercalate_splitOn]
      · intro field hfield
        refine not_mem_of_mem_splitOn (l := s.toList) ?_
        rw [hsplit]
        revert field
        simp
    · cases h
  · rintro ⟨first, version, params, salt, key, htext, hsep, hversion, hparams, hsalt, hkey⟩
    have hsplit : s.toList.splitOn '$' = [first, "argon2id".toList, version, params, salt, key] := by
      rw [htext]
      refine List.splitOn_intercalate '$' ?_ (List.cons_ne_nil _ _)
      intro field hfield
      rcases List.mem_cons.mp hfield with rfl | hfield
      · exact hsep _ List.mem_cons_self
      rcases List.mem_cons.mp hfield with rfl | hfield
      · decide
      · exact hsep _ (List.mem_cons_of_mem _ hfield)
    unfold decodeHash
    rw [hsplit]
    dsimp only
    rw [if_neg (not_not_intro rfl), readVersion_eq_ok_iff.mpr hversion, readParams_eq_ok_iff.mpr hparams,
      readBytes_eq_ok_iff.mpr hsalt, readBytes_eq_ok_iff.mpr hkey]
    exact if_neg (c := (Argon2.version : ℤ) ≠ Argon2.version) (t := .error errIncompatibleAlgo)
      (not_not_intro rfl)

theorem formatVersion_eq : formatVersion = ['v', '=', '%', 'd'] := by decide

theorem formatParams_eq :
    formatParams = ['m', '=', '%', 'd', ',', 't', '=', '%', 'd', ',', 'p', '=', '%', 'd'] := by decide

/-- The fourth field of a hash. -/
def Decoded.paramsText (d : Decoded) : List Char :=
  'm' :: '=' :: (Nat.toDigits 10 d.memory.toNat ++ ',' :: 't' :: '=' ::
    (Nat.toDigits 10 d.iterations.toNat ++ ',' :: 'p' :: '=' ::
      (Nat.toDigits 10 d.parallelism.toNat ++ [])))

theorem Decoded.toList_text (d : Decoded) : d.text.toList = ['$'].intercalate
    [[], "argon2id".toList, ['v', '=', '1', '9'], d.paramsText, rawStdDigits d.salt, rawStdDigits d.want] := by
  have hversion : Argon2.version.repr.toList = ['1', '9'] := by decide
  have hhead : "$argon2id$v=".toList = '$' :: ("argon2id".toList ++ ['$', 'v', '=']) := by decide
  have hm : "$m=".toList = ['$', 'm', '='] := by decide
  have ht : ",t=".toList = [',', 't', '='] := by decide
  have hp : ",p=".toList = [',', 'p', '='] := by decide
  have hsep : "$".toList = ['$'] := by decide
  generalize "argon2id".toList = algo at hhead ⊢
  unfold Decoded.text Decoded.paramsText rawStdEncodeToString
  simp only [String.toList_append, Nat.toList_repr, String.toList_ofList, hversion, hhead, hm, ht, hp, hsep]
  simp [List.intercalate]

theorem Decoded.not_mem_paramsText (d : Decoded) : '$' ∉ d.paramsText := by
  have hdigits : ∀ n, '$' ∉ Nat.toDigits 10 n := fun n h =>
    absurd (Nat.isDigit_of_mem_toDigits (by decide) (by decide) h) (by decide)
  simp [Decoded.paramsText, hdigits]

/-- No parameter breaks the number parsing. -/
theorem Decoded.matches_paramsText (d : Decoded) : Matches formatParams [.uint32, .uint32, .uint8]
    d.paramsText [d.memory.toNat, d.iterations.toNat, d.parallelism.toNat] := by
  have hmemory := d.memory.toNat_lt
  have hiterations := d.iterations.toNat_lt
  have hparallelism := d.parallelism.toNat_lt
  have hcomma : ∀ l, Ends (',' :: l) := fun l c hc => by
    cases hc
    decide
  rw [formatParams_eq]
  refine .literal (by decide) (.literal (by decide) (.digits ⟨by omega, by omega⟩ (hcomma _) ?_))
  refine .literal (by decide) (.literal (by decide) (.literal (by decide) ?_))
  refine .digits ⟨by omega, by omega⟩ (hcomma _) ?_
  refine .literal (by decide) (.literal (by decide) (.literal (by decide) ?_))
  exact .digits ⟨by omega, by omega⟩ nofun (.done [])

/-- The text of a hash is one, and says what it was made from. -/
theorem spells_text (d : Decoded) : Spells d.text d := by
  have hdollar : '$' ∉ stdAlphabet.letters := by decide
  refine ⟨[], ['v', '=', '1', '9'], d.paramsText, rawStdDigits d.salt, rawStdDigits d.want, d.toList_text, ?_, ?_,
    d.matches_paramsText, strictDecodeString_eq_some_iff.mp (strictDecodeString_rawStdDigits d.salt),
    strictDecodeString_eq_some_iff.mp (strictDecodeString_rawStdDigits d.want)⟩
  · simp [d.not_mem_paramsText, not_mem_rawStdDigits hdollar]
  · rw [formatVersion_eq]
    have hdigits : ['1', '9'] = Nat.toDigits 10 Argon2.version ++ [] := by decide
    rw [hdigits]
    exact .literal (by decide) (.literal (by decide) (.digits (by decide) nofun (.done [])))

/-! ### The hasher -/

namespace Argon2Hasher

/-- The key that the hasher derives from a password. -/
def key (h : Argon2Hasher) (salt : Bytes) (plain : String) : Bytes :=
  h.argon2.derive (bytesOf plain) salt h.params.iterations h.params.memory h.params.parallelism
    h.params.keyLength

/-- `Hash`, given what `rand.Read` answers. -/
def hash (h : Argon2Hasher) (read : Except Error h.params.Salt) (plain : String) :
    Option (Except Error String) :=
  match read with
  | .error err => some (.error (err.wrapf "генерация соли"))
  | .ok salt => do
      let key ← h.argon2.idKey (bytesOf plain) salt.1 h.params.iterations h.params.memory
        h.params.parallelism h.params.keyLength
      some (.ok (Decoded.text ⟨h.params.memory, h.params.iterations, h.params.parallelism, salt.1, key⟩))

/-- `Verify`. -/
def verify (h : Argon2Hasher) (plain encodedHash : String) : Option (Except Error Bool) :=
  match decodeHash encodedHash with
  | .error err => some (.error err)
  | .ok d => do
      let got ← h.argon2.idKey (bytesOf plain) d.salt d.iterations d.memory d.parallelism
        (.ofNat d.want.length)
      some (.ok (decide (got = d.want)))

variable {h : Argon2Hasher} {plain s : String}

/-! ### A hash verifies under any parameters -/

theorem decodeHash_text (d : Decoded) : decodeHash d.text = .ok d :=
  decodeHash_eq_ok_iff.mpr (spells_text d)

/-- Passwords verify by the key that the parameters and the salt of the hash give them; the parameters of
the hasher that verifies play no part. -/
theorem verify_hash (a : Argon2) (p₁ p₂ : Params) (hiterations : 1 ≤ p₁.iterations)
    (hparallelism : 1 ≤ p₁.parallelism) (hkeyLength : 1 ≤ p₁.keyLength) (salt : p₁.Salt) (x y : String) :
    ∃ encodedHash, (Argon2Hasher.mk a p₁).hash (.ok salt) x = some (.ok encodedHash) ∧
      (Argon2Hasher.mk a p₂).verify y encodedHash =
        some (.ok (decide ((Argon2Hasher.mk a p₁).key salt.1 y = (Argon2Hasher.mk a p₁).key salt.1 x))) ∧
      (Argon2Hasher.mk a p₂).verify x encodedHash = some (.ok true) := by
  have hne : ¬ (p₁.iterations = 0 ∨ p₁.parallelism = 0 ∨ p₁.keyLength = 0) := by
    rintro (h0 | h0 | h0)
    · rw [h0] at hiterations
      exact absurd hiterations (by decide)
    · rw [h0] at hparallelism
      exact absurd hparallelism (by decide)
    · rw [h0] at hkeyLength
      exact absurd hkeyLength (by decide)
  have hderive : ∀ plain, a.idKey (bytesOf plain) salt.1 p₁.iterations p₁.memory p₁.parallelism
      p₁.keyLength = some ((Argon2Hasher.mk a p₁).key salt.1 plain) := fun plain => if_neg hne
  have hlength : UInt32.ofNat ((Argon2Hasher.mk a p₁).key salt.1 x).length = p₁.keyLength := by
    rw [key, a.length, UInt32.ofNat_toNat]
  -- whatever is verified, the key is derived with the parameters and the salt of the hash
  have hverify : ∀ plain, (Argon2Hasher.mk a p₂).verify plain (Decoded.text
      ⟨p₁.memory, p₁.iterations, p₁.parallelism, salt.1, (Argon2Hasher.mk a p₁).key salt.1 x⟩) =
      some (.ok (decide ((Argon2Hasher.mk a p₁).key salt.1 plain = (Argon2Hasher.mk a p₁).key salt.1 x))) := by
    intro plain
    unfold verify
    rw [decodeHash_text]
    dsimp only
    rw [hlength, hderive]
    rfl
  refine ⟨_, ?_, hverify y, ?_⟩
  · unfold hash
    dsimp only
    rw [hderive]
    rfl
  · rw [hverify x, decide_eq_true rfl]

/-- The hash of one password, verified by a hasher with other parameters. -/
theorem verify_hash_password :
    ∃ encodedHash, (Argon2Hasher.mk .sample .test).hash (.ok ⟨bytesOf "somesalt", by decide⟩) "password" =
        some (.ok encodedHash) ∧
      (Argon2Hasher.mk .sample ⟨19 * 1024, 2, 4, 16, 32⟩).verify "differentpassword" encodedHash =
        some (.ok false) ∧
      (Argon2Hasher.mk .sample ⟨19 * 1024, 2, 4, 16, 32⟩).verify "password" encodedHash = some (.ok true) := by
  obtain ⟨encodedHash, hhash, hother, hsame⟩ := verify_hash .sample .test ⟨19 * 1024, 2, 4, 16, 32⟩
    (by decide) (by decide) (by decide) ⟨bytesOf "somesalt", by decide⟩ "password" "differentpassword"
  have hdiffer : (Argon2Hasher.mk .sample .test).key (bytesOf "somesalt") "differentpassword" ≠
      (Argon2Hasher.mk .sample .test).key (bytesOf "somesalt") "password" := by decide
  refine ⟨encodedHash, hhash, ?_, hsame⟩
  rw [hother, decide_eq_false hdiffer]

/-! ### Where Verify panics -/

/-- `Verify` returns a boolean or one of its two errors. -/
def Answers (h : Argon2Hasher) (plain s : String) : Prop :=
  ∃ r, h.verify plain s = some r ∧
    ∀ err, r = .error err → err = errInvalidHashFormat ∨ err = errIncompatibleAlgo

/-- What `argon2.IDKey` asks for, wherever `Verify` reaches it. -/
def Guarded (s : String) : Prop :=
  ∀ d, decodeHash s = .ok d → 1 ≤ d.iterations ∧ 1 ≤ d.parallelism ∧ d.want ≠ []

/-- A hash of no iteration, of no thread, or of a key whose length is zero as a `uint32`. -/
def Degenerate (s : String) : Prop :=
  ∃ d, Spells s d ∧ (d.iterations = 0 ∨ d.parallelism = 0 ∨ 2 ^ 32 ∣ d.want.length)

theorem ofNat_uint32_eq_zero_iff {n : ℕ} : UInt32.ofNat n = 0 ↔ 2 ^ 32 ∣ n := by
  rw [← UInt32.toNat_inj, UInt32.toNat_ofNat', UInt32.toNat_zero]
  exact Nat.dvd_iff_mod_eq_zero.symm

theorem verify_eq_none_iff : h.verify plain s = none ↔ Degenerate s := by
  unfold verify
  split
  · rename_i err hdecode
    refine iff_of_false (Option.some_ne_none _) ?_
    rintro ⟨d, hd, -⟩
    rw [decodeHash_eq_ok_iff.mpr hd] at hdecode
    cases hdecode
  · rename_i d hdecode
    rw [Option.bind_eq_bind, Option.bind_eq_none_iff]
    constructor
    · intro hnone
      have hkey : h.argon2.idKey (bytesOf plain) d.salt d.iterations d.memory d.parallelism
          (.ofNat d.want.length) = none := by
        rw [Option.eq_none_iff_forall_ne_some]
        exact fun got hgot => Option.some_ne_none _ (hnone got hgot)
      rw [Argon2.idKey_eq_none_iff, ofNat_uint32_eq_zero_iff] at hkey
      exact ⟨d, decodeHash_eq_ok_iff.mp hdecode, hkey⟩
    · rintro ⟨d', hd', hzero⟩ got hgot
      rw [decodeHash_eq_ok_iff.mpr hd'] at hdecode
      cases hdecode
      rw [← ofNat_uint32_eq_zero_iff] at hzero
      rw [Argon2.idKey_eq_none_iff.mpr hzero] at hgot
      cases hgot

/-- Only the text of the hash makes an error. -/
theorem verify_error {err : Error} (hv : h.verify plain s = some (.error err)) :
    decodeHash s = .error err := by
  unfold verify at hv
  split at hv
  · rename_i err' hdecode
    cases hv
    exact hdecode
  · obtain ⟨got, -, hgot⟩ := Option.bind_eq_some_iff.mp hv
    cases hgot

theorem one_le_uint32 {n : UInt32} (hn : n ≠ 0) : 1 ≤ n := by
  rw [Ne, ← UInt32.toNat_inj, UInt32.toNat_zero] at hn
  rw [UInt32.le_iff_toNat_le, UInt32.toNat_one]
  omega

theorem one_le_uint8 {n : UInt8} (hn : n ≠ 0) : 1 ≤ n := by
  rw [Ne, ← UInt8.toNat_inj, UInt8.toNat_zero] at hn
  rw [UInt8.le_iff_toNat_le, UInt8.toNat_one]
  omega

/-- A hash of no iteration. -/
theorem verify_answers_fails :
    ¬ ((Argon2Hasher.mk .sample .test).Answers "password"
        "$argon2id$v=19$m=64,t=0,p=1$c29tZXNhbHQ$pMlwOs/gn+zdvoB/AGiRNA" ∧
      Guarded "$argon2id$v=19$m=64,t=0,p=1$c29tZXNhbHQ$pMlwOs/gn+zdvoB/AGiRNA") := by
  have hpanic : ((Argon2Hasher.mk .sample .test).verify "password"
      "$argon2id$v=19$m=64,t=0,p=1$c29tZXNhbHQ$pMlwOs/gn+zdvoB/AGiRNA").isNone = true := by decide
  rintro ⟨⟨r, hr, -⟩, -⟩
  rw [hr] at hpanic
  cases hpanic

/-- `Verify` keeps the promise of the port exactly on the hashes that are not degenerate. -/
theorem verify_answers_iff (h : Argon2Hasher) (plain s : String) :
    h.Answers plain s ∧ Guarded s ↔ ¬ Degenerate s := by
  constructor
  · rintro ⟨⟨r, hr, -⟩, -⟩ hdegenerate
    rw [verify_eq_none_iff.mpr hdegenerate] at hr
    cases hr
  · intro hdegenerate
    constructor
    · obtain ⟨r, hr⟩ := Option.ne_none_iff_exists'.mp (mt verify_eq_none_iff.mp hdegenerate)
      refine ⟨r, hr, ?_⟩
      rintro err rfl
      exact decodeHash_error (verify_error hr)
    · intro d hd
      have hspells := decodeHash_eq_ok_iff.mp hd
      refine ⟨one_le_uint32 fun h0 => ?_, one_le_uint8 fun h0 => ?_, fun hnil => ?_⟩
      · exact hdegenerate ⟨d, hspells, .inl h0⟩
      · exact hdegenerate ⟨d, hspells, .inr (.inl h0)⟩
      · rw [List.eq_nil_iff_length_eq_zero] at hnil
        exact hdegenerate ⟨d, hspells, .inr (.inr (hnil ▸ Nat.dvd_zero _))⟩

end Argon2Hasher

end SuperAdmin
