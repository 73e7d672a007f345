import SuperAdmin.Clients.TrialEnd
import SuperAdmin.Web.ClientCache
import SuperAdmin.Web.Format

/-! # The form of a new client

`NewClientPage.tsx`: what the user edits, what the page checks, and what it sends.  The page leaves the
lengths to the server, which bounds them, and knows no more of an address than that it looks like one.
Whatever is typed, a form that the page sends is refused for these two reasons and for an email that another
client has, and for no other; otherwise the client that is stored is the one that the form describes. -/

namespace SuperAdmin.Web

/-! ### Fields -/

/-- `FieldKey`. -/
inductive FieldKey where
  | name
  | address
  | ownerName
  | phone
  | email
deriving DecidableEq, Repr

/-- The keys of `FIELDS`. -/
def fieldKeys : List FieldKey := [.name, .address, .ownerName, .phone, .email]

/-- `/^[^@\s]+@[^@\s]+\.[^@\s]+$/`: one at sign that is not the first character, no white space, and a dot
behind it between two other characters. -/
def looksLikeEmail (text : List Char) : Bool :=
  match text.splitOn '@' with
  | [user, host] => !text.any isSpace && !user.isEmpty && (host.drop 1).dropLast.contains '.'
  | _ => false

/-- `validate`; a field without an error has the empty one. -/
def validate (key : FieldKey) (value : String) : String :=
  let trimmed := trim value
  if trimmed = [] then "Заполните поле"
  else if key = .email ∧ looksLikeEmail trimmed = false then "Проверьте адрес: похоже, в нём опечатка"
  else if key = .phone ∧ (trimmed.filter Char.isDigit).length < 11 then
    "Укажите номер полностью, с кодом страны"
  else ""

/-- The choices of `STATUS_CHOICES`. -/
inductive Start where
  | trial
  | active
deriving DecidableEq, Repr

/-- The keys of `PLANS`. -/
inductive ClientPlan where
  | starter
  | growth
  | enterprise
deriving DecidableEq, Repr

def ClientPlan.key : ClientPlan → String
  | starter => "Starter"
  | growth => "Growth"
  | enterprise => "Enterprise"

/-- The text of the days of a trial, which the page keeps to three digits. -/
structure TrialDays where
  text : List Char
  digits : ∀ c ∈ text, c.isDigit = true
  short : text.length ≤ 3

/-- `value.replace(/\D/g, '').slice(0, 3)`. -/
def TrialDays.ofInput (value : String) : TrialDays where
  text := (value.toList.filter Char.isDigit).take 3
  digits _ hc := (List.mem_filter.mp (List.mem_of_mem_take hc)).2
  short := List.length_take_le 3 _

/-- `Number` of such a text. -/
def TrialDays.number (days : TrialDays) : ℕ := Nat.ofDigitChars 10 days.text 0

/-! ### The page -/

/-- The state of `NewClientPage`, without what only marks the fields. -/
structure NewClientPage where
  values : FieldKey → String
  plan : ClientPlan
  start : Start
  trialDays : TrialDays

/-- What `useEmailTaken` returns of the query. -/
structure EmailCheck where
  data : Option Bool
  isFetching : Bool

namespace NewClientPage

variable (toLowerCase : String → String) (page : NewClientPage) (check : EmailCheck)

/-- `values[key].trim()`. -/
def trimmed (key : FieldKey) : String := String.ofList (trim (page.values key))

/-- `email`. -/
def email : String := toLowerCase (page.trimmed .email)

/-- `errorOf`. -/
def errorOf (key : FieldKey) : String :=
  let error := validate key (page.values key)
  if error ≠ "" then error
  else if key = .email ∧ check.data = some true then "Этот email уже используется другим клиентом"
  else ""

/-- `days`. -/
def days : ℕ := page.trialDays.number

/-- `trialError`. -/
def trialError : String :=
  if page.start = .trial ∧ (page.days < 1 ∨ page.days > 365) then "Пробный период — от 1 до 365 дней" else ""

/-- `hasErrors`. -/
def hasErrors : Bool := fieldKeys.any (fun key => page.errorOf check key != "") || page.trialError != ""

/-- What `onSubmit` sends. -/
def newClient : NewClient where
  name := page.trimmed .name
  address := page.trimmed .address
  ownerName := page.trimmed .ownerName
  phone := page.trimmed .phone
  email := page.email toLowerCase
  plan := page.plan.key
  trialDays := if page.start = .trial then page.days else 0

/-- What `onSubmit` calls `create.mutate` with, if it does. -/
def onSubmit : Option NewClient :=
  if page.hasErrors check || check.isFetching then none else some (page.newClient toLowerCase)

end NewClientPage

/-! ### What the server decodes -/

open Effects Http Http.Handler ClientCache

section decode

variable {fields : List (String × Json)} {key name : String}
  (hkeys : (fields.map Prod.fst).filter (equalFold · name) = [key])
include hkeys

theorem equalFold_key : equalFold key name = true := by
  have hin : key ∈ (fields.map Prod.fst).filter (equalFold · name) := by
    rw [hkeys]
    exact List.mem_singleton_self key
  exact (List.mem_filter.mp hin).2

/-- Of the fields of a body only the one with the name counts. -/
theorem foldl_field {β : Type} (step : Option β → String × Json → Option β) (start : Option β)
    (hskip : ∀ acc p, equalFold p.1 name = false → step acc p = acc) {value : Json}
    (hmem : (key, value) ∈ fields) : fields.foldl step start = step start (key, value) := by
  have hothers : ∀ (l : List (String × Json)) (acc : Option β), (l.map Prod.fst).filter (equalFold · name) = [] →
      l.foldl step acc = acc := by
    intro l acc hl
    induction l generalizing acc with
    | nil => rfl
    | cons p l ih =>
        rw [List.map_cons, List.filter_cons] at hl
        split at hl
        · cases hl
        · rename_i hp
          rw [List.foldl_cons, hskip acc p (eq_false_of_ne_true hp)]
          exact ih acc hl
  have hkey := equalFold_key hkeys
  obtain ⟨l₁, l₂, rfl⟩ := List.append_of_mem hmem
  rw [List.map_append, List.filter_append, List.map_cons, List.filter_cons, if_pos hkey] at hkeys
  have hnil : (l₁.map Prod.fst).filter (equalFold · name) = [] ∧
      (l₂.map Prod.fst).filter (equalFold · name) = [] := by
    have hlen := congrArg List.length hkeys
    simp only [List.length_append, List.length_cons, List.length_nil] at hlen
    exact ⟨List.eq_nil_of_length_eq_zero (by omega), List.eq_nil_of_length_eq_zero (by omega)⟩
  rw [List.foldl_append, hothers l₁ start hnil.1, List.foldl_cons, hothers l₂ _ hnil.2]

theorem decodeString_field {value : String} (hmem : (key, .str value) ∈ fields) :
    decodeString fields name = some value := by
  unfold decodeString
  rw [foldl_field hkeys _ _ (fun acc p hp => if_neg (by rw [hp]; decide)) hmem, if_pos (equalFold_key hkeys)]

theorem decodeInt_field {value : ℤ} (hmem : (key, .num value) ∈ fields)
    (hfits : value = (Int64.ofInt value).toInt) : decodeInt fields name = some (.ofInt value) := by
  unfold decodeInt
  rw [foldl_field hkeys _ _ (fun acc p hp => if_neg (by rw [hp]; decide)) hmem, if_pos (equalFold_key hkeys)]
  exact if_pos hfits

end decode

namespace NewClient

variable (input : NewClient)

/-- The lengths that the server accepts, and an email that its validator accepts. -/
def Accepted (web : Http.Web) : Prop :=
  input.name.length ≤ 255 ∧ input.address.length ≤ 500 ∧ input.ownerName.length ≤ 255 ∧
    input.phone.length ≤ 64 ∧ input.email.length ≤ 255 ∧ web.isEmail input.email = true

instance (web : Http.Web) : Decidable (input.Accepted web) := by unfold Accepted; infer_instance

/-- What `ShouldBindJSON` makes of the body. -/
def bound : NewTenantRequest where
  name := input.name
  address := input.address
  ownerName := input.ownerName
  phone := input.phone
  email := input.email
  plan := input.plan
  trialDays := .ofInt input.trialDays

/-- No field is empty. -/
structure Filled : Prop where
  name : input.name ≠ ""
  address : input.address ≠ ""
  ownerName : input.ownerName ≠ ""
  phone : input.phone ≠ ""
  email : input.email ≠ ""
  plan : input.plan ≠ ""
  trialDays : 0 ≤ input.trialDays ∧ input.trialDays ≤ 365

variable {input}

theorem Filled.days (h : input.Filled) : (Int64.ofInt input.trialDays).toInt = input.trialDays :=
  Int64.toInt_ofInt_of_le (by have := h.trialDays; omega) (by have := h.trialDays; omega)

/-- The keys of the body. -/
def keys : List String := ["name", "address", "owner_name", "phone", "email", "plan", "trial_days"]

theorem decodeString_json {fields : List (String × Json)} (hfields : input.json = .obj fields)
    {key value : String} (hkey : keys.filter (equalFold · key) = [key]) (hmem : (key, .str value) ∈ fields) :
    decodeString fields key = some value := by
  cases hfields
  exact decodeString_field hkey hmem

/-- The server accepts the body of a filled form exactly within its bounds. -/
theorem bindNewTenant_json {web : Http.Web} {req : Request} (h : input.Filled)
    (hbody : req.body = some input.json) :
    bindNewTenant web req = if input.Accepted web then some input.bound else none := by
  obtain ⟨fields, hfields⟩ : ∃ fields, input.json = .obj fields := ⟨_, rfl⟩
  have hname : decodeString fields "name" = some input.name :=
    decodeString_json hfields (by decide) (by cases hfields; simp)
  have haddress : decodeString fields "address" = some input.address :=
    decodeString_json hfields (by decide) (by cases hfields; simp)
  have howner : decodeString fields "owner_name" = some input.ownerName :=
    decodeString_json hfields (by decide) (by cases hfields; simp)
  have hphone : decodeString fields "phone" = some input.phone :=
    decodeString_json hfields (by decide) (by cases hfields; simp)
  have hemail : decodeString fields "email" = some input.email :=
    decodeString_json hfields (by decide) (by cases hfields; simp)
  have hplan : decodeString fields "plan" = some input.plan :=
    decodeString_json hfields (by decide) (by cases hfields; simp)
  have hdays : decodeInt fields "trial_days" = some (.ofInt input.trialDays) := by
    have hkeys : keys.filter (equalFold · "trial_days") = ["trial_days"] := by decide
    cases hfields
    exact decodeInt_field hkeys (by simp) h.days.symm
  have hrequired : ∀ {s : String}, s ≠ "" → required s = true := fun hs => bne_iff_ne.mpr hs
  unfold bindNewTenant
  rw [hbody, hfields]
  simp only [bodyFields, Option.bind_eq_bind, Option.bind_some, hname, haddress, howner, hphone, hemail, hplan,
    hdays, hrequired h.name, hrequired h.address, hrequired h.ownerName, hrequired h.phone, hrequired h.email,
    hrequired h.plan, Bool.true_and, Bool.and_true]
  refine if_congr ?_ rfl rfl
  simp only [atMost, Bool.and_eq_true, decide_eq_true_eq, Accepted]
  tauto

end NewClient

/-! ### What the page sends -/

namespace NewClientPage

variable {toLowerCase : String → String} {page : NewClientPage} {check : EmailCheck} {input : NewClient}

theorem trimmed_ne {key : FieldKey} (h : validate key (page.values key) = "") : page.trimmed key ≠ "" := by
  intro hempty
  have htrim : trim (page.values key) = [] := String.ofList_injective hempty
  unfold validate at h
  dsimp only at h
  rw [htrim, if_pos rfl] at h
  exact absurd h (by decide)

theorem validate_of_errorOf {key : FieldKey} (h : page.errorOf check key = "") :
    validate key (page.values key) = "" := by
  by_contra hne
  unfold errorOf at h
  dsimp only at h
  rw [if_pos hne] at h
  exact hne h

/-- A page that sends something has no errors. -/
theorem onSubmit_some (h : page.onSubmit toLowerCase check = some input) :
    input = page.newClient toLowerCase ∧ (∀ key, page.errorOf check key = "") ∧ page.trialError = "" := by
  unfold onSubmit at h
  split at h
  · cases h
  · rename_i hsent
    cases h
    rw [Bool.or_eq_true, not_or, hasErrors, Bool.or_eq_true, not_or, List.any_eq_true, bne_iff_ne, ne_eq,
      not_not] at hsent
    refine ⟨rfl, fun key => ?_, hsent.1.2⟩
    by_contra hne
    exact hsent.1.1 ⟨key, by cases key <;> decide, bne_iff_ne.mpr hne⟩

theorem days_of_trialError (h : page.trialError = "") (hstart : page.start = .trial) :
    1 ≤ page.days ∧ page.days ≤ 365 := by
  unfold trialError at h
  split at h
  · exact absurd h (by decide)
  · rename_i hdays
    rw [not_and, not_or, not_lt, not_lt] at hdays
    exact hdays hstart

theorem filled (hlower : ∀ s, s ≠ "" → toLowerCase s ≠ "")
    (h : page.onSubmit toLowerCase check = some input) : input.Filled := by
  obtain ⟨rfl, herrors, htrial⟩ := onSubmit_some h
  have hne : ∀ key, page.trimmed key ≠ "" := fun key => trimmed_ne (validate_of_errorOf (herrors key))
  refine ⟨hne .name, hne .address, hne .ownerName, hne .phone, hlower _ (hne .email), ?_, ?_⟩
  · show page.plan.key ≠ ""
    cases page.plan <;> decide
  · show 0 ≤ (if page.start = .trial then (page.days : ℤ) else 0) ∧
      (if page.start = .trial then (page.days : ℤ) else 0) ≤ 365
    split
    · rename_i hstart
      have := days_of_trialError htrial hstart
      omega
    · omega

/-- The client that a form describes, created at some time. -/
structure Describes (toLowerCase : String → String) (page : NewClientPage) (now : Time)
    (t : SuperAdmin.Tenant) : Prop where
  name : t.name = page.trimmed .name
  address : t.address = page.trimmed .address
  city : t.city = trimSpace (String.ofList ((page.trimmed .address).toList.takeWhile (· ≠ ',')))
  ownerName : t.ownerName = page.trimmed .ownerName
  phone : t.phone = page.trimmed .phone
  email : t.email = page.email toLowerCase
  plan : t.plan.string = page.plan.key
  trial : page.start = .trial → TrialEnd.OnTrialFor page.days now t
  active : page.start = .active → t.status = .active ∧ t.trialEndsAt = none

/-! ### What the server stores -/

variable {d : Deps} {web : Http.Web} {req : Request} {ctx : Context} {r : Draws} {w : World d}
  {claims : AccessClaims} {code : String}

/-- What the handler passes on. -/
def inputOf (b : NewTenantRequest) : NewTenant where
  name := b.name
  city := trimSpace (String.ofList (b.address.toList.takeWhile (· ≠ ',')))
  address := b.address
  ownerName := b.ownerName
  phone := b.phone
  email := b.email
  plan := .ofString b.plan
  trialDays := b.trialDays

/-- The row that is inserted for it. -/
def rowOf (b : NewTenantRequest) (code : String) (r : Draws) (now : Time) : SuperAdmin.Tenant :=
  (Usecase.Tenant.newTenant (inputOf b) now code).inserted (r.uuid .row) now

theorem create_isOk {b : NewTenantRequest} (hplan : (TenantPlan.ofString b.plan).valid = true)
    (hcode : (Usecase.Tenant.generateActivationCode.run (exec d r) w).1 = .ok code) (claims : AccessClaims)
    (rc : RequestContext) :
    ((Usecase.Tenant.create claims (inputOf b) rc).run (exec d r) w).1.isOk =
      (w.clients.tenants.insert? (rowOf b code r w.clock)).isSome := by
  have hvalid : (inputOf b).plan.valid = true := hplan
  have hrow : (Usecase.Tenant.newTenant (inputOf b) w.clock code).plan.valid = true := hplan
  unfold Usecase.Tenant.create
  rw [if_neg (by simp [hvalid]), Prog.run_bind, run_op, exec_now, Prog.run_bind,
    Usecase.Tenant.reads_generateActivationCode.run r w, hcode]
  dsimp only
  rw [Prog.run_bind, run_op]
  cases hinsert : w.clients.tenants.insert? (rowOf b code r w.clock) with
  | none =>
      unfold rowOf at hinsert
      simp only [exec, TenantsOp.exec, if_pos hrow, hinsert]
      rfl
  | some T =>
      unfold rowOf at hinsert
      simp only [exec, TenantsOp.exec, if_pos hrow, hinsert]
      rfl

/-- The handler, once it has its input. -/
theorem create_eq {b : NewTenantRequest} (hclaims : ctx.claims = some claims)
    (hbound : bindNewTenant web req = some b) : Handler.Tenant.create web req ctx =
      (Usecase.Tenant.create claims (inputOf b) req.context >>= fun res =>
        respond res fun tenant => Response.created <$> Handler.Tenant.toTenantDetailResponse tenant) := by
  have hctx : claimsFrom ctx = .ok claims := by rw [claimsFrom, hclaims]
  unfold Handler.Tenant.create
  rw [hbound, hctx]
  rfl

/-- A bound request with a plan of the console succeeds exactly if its row can be inserted. -/
theorem create_status_lt_iff {b : NewTenantRequest} (hclaims : ctx.claims = some claims)
    (hbound : bindNewTenant web req = some b) (hplan : (TenantPlan.ofString b.plan).valid = true)
    (hcode : (Usecase.Tenant.generateActivationCode.run (exec d r) w).1 = .ok code) :
    ((Handler.Tenant.create web req ctx).run (exec d r) w).1.status < 400 ↔
      (w.clients.tenants.insert? (rowOf b code r w.clock)).isSome = true := by
  have hisOk : _ = (w.clients.tenants.insert? (rowOf b code r w.clock)).isSome :=
    create_isOk hplan hcode claims req.context
  rw [create_eq hclaims hbound, ← hisOk]
  constructor
  · intro hok
    obtain ⟨t, w', hrun, -⟩ := usecase_ok hok
    rw [hrun]
    rfl
  · intro hok
    rw [Prog.run_bind]
    generalize (Usecase.Tenant.create claims (inputOf b) req.context).run (exec d r) w = res at hok ⊢
    obtain ⟨e | t, w'⟩ := res
    · cases hok
    · show 201 < 400
      decide

/-- What such a success stores and answers. -/
theorem create_created {b : NewTenantRequest} (hclaims : ctx.claims = some claims)
    (hbound : bindNewTenant web req = some b)
    (hok : ((Handler.Tenant.create web req ctx).run (exec d r) w).1.status < 400) :
    ∃ code w', w'.clients.tenants.rows = w.clients.tenants.rows ++ [rowOf b code r w.clock] ∧
      (Handler.Tenant.create web req ctx).run (exec d r) w = (.created (cardOf w' (rowOf b code r w.clock)), w') := by
  rw [create_eq hclaims hbound] at hok ⊢
  obtain ⟨t, w', hrun, hsame⟩ := usecase_ok hok
  obtain ⟨code, T, rfl, hinsert, rfl⟩ := Usecase.Tenant.create_ok hrun
  refine ⟨code, _, ?_, hsame⟩
  rw [World.audited, World.writeAudit_clients]
  exact (Table.insert?_eq_some hinsert).1

/-- A new id clashes with no row; the email may. -/
theorem insert_isSome_iff {b : NewTenantRequest} (hfresh : ∀ t ∈ w.clients.tenants.rows, t.id ≠ r.uuid .row) :
    (w.clients.tenants.insert? (rowOf b code r w.clock)).isSome = true ↔ emailTaken w b.email = false := by
  rw [Option.isSome_iff_exists]
  constructor
  · rintro ⟨T, hinsert⟩
    exact emailTaken_before hinsert rfl
  · intro hfree
    refine Table.insert?_isSome fun x hx hclash => ?_
    rcases hclash with hid | hemail
    · exact hfresh x hx hid
    · exact List.any_eq_false.mp hfree x hx (beq_iff_eq.mpr hemail)

theorem plan_valid (plan : ClientPlan) : (TenantPlan.ofString plan.key).valid = true := by cases plan <;> decide

theorem plan_string (plan : ClientPlan) : (TenantPlan.ofString plan.key).string = plan.key := by
  cases plan <;> decide

/-- A year is short enough for the trial to end when it should. -/
theorem onTrialFor_rowOf {b : NewTenantRequest} {days : ℕ} (hdays : b.trialDays.toInt = days) (hone : 1 ≤ days)
    (hyear : days ≤ 365) (code : String) (r : Draws) (now : Time) :
    TrialEnd.OnTrialFor days now (rowOf b code r now) := by
  have hpos : 0 < b.trialDays := by
    rw [Int64.lt_iff_toInt_lt, hdays]
    show (0 : ℤ) < days
    omega
  have hends : (rowOf b code r now).trialEndsAt =
      some (now.add (b.trialDays * 24 * Duration.hour)).timestamptz := by
    show Option.map Time.timestamptz (if b.trialDays > 0 then _ else none) = _
    rw [if_pos hpos]
    rfl
  rw [(TrialEnd.timestamptz_add_iff now hpos).mpr (by omega), hdays] at hends
  refine ⟨if_pos hpos, hends, ?_⟩
  rw [hends]
  rintro ends ⟨⟩
  show now.ns < (now.ns + days * TrialEnd.day) / 1000 * 1000
  unfold TrialEnd.day
  omega

/-- The row is the client that the form describes. -/
theorem describes_rowOf (hlower : ∀ s, s ≠ "" → toLowerCase s ≠ "")
    (h : page.onSubmit toLowerCase check = some input) (code : String) (r : Draws) (now : Time) :
    page.Describes toLowerCase now (rowOf input.bound code r now) := by
  have hdays := (filled hlower h).days
  obtain ⟨rfl, -, htrial⟩ := onSubmit_some h
  refine ⟨rfl, rfl, rfl, rfl, rfl, rfl, plan_string page.plan, fun hstart => ?_, fun hstart => ?_⟩
  · obtain ⟨hone, hyear⟩ := days_of_trialError htrial hstart
    refine onTrialFor_rowOf (hdays.trans (if_pos hstart)) hone hyear code r now
  · have hzero : (page.newClient toLowerCase).bound.trialDays = 0 := by
      show Int64.ofInt (if page.start = .trial then (page.days : ℤ) else 0) = 0
      rw [if_neg (by rw [hstart]; decide)]
      rfl
    refine ⟨?_, ?_⟩
    · show (if (page.newClient toLowerCase).bound.trialDays > 0 then TenantStatus.trial else .active) = .active
      rw [hzero]
      rfl
    · show Option.map Time.timestamptz (if (page.newClient toLowerCase).bound.trialDays > 0 then _ else none) = none
      rw [hzero]
      rfl

/-- What the server answers to a form, and the state after it. -/
def save (d : Deps) (web : Http.Web) (r : Draws) (w : World d) (browser : RequestContext) (authorization : String)
    (input : NewClient) : Response × World d :=
  (serve d web ((ClientMutation.create input).request browser authorization)).run (exec d r) w

/-- **What a sent form comes to.** Whatever was typed: the server refuses the form exactly if a text is longer
than it allows, if its validator rejects the email, or if another client has the email; otherwise it stores
the client that the form describes and answers with its card. -/
theorem sent_form_stored (hlower : ∀ s, s ≠ "" → toLowerCase s ≠ "")
    (hsent : page.onSubmit toLowerCase check = some input) {browser : RequestContext} {authorization : String}
    (hpasses : Middleware.Passes w ((ClientMutation.create input).request browser authorization) claims)
    (hcan : Authz.can ⟨claims.userID.string, claims.role⟩ .tenant .create = true)
    (hcode : (Usecase.Tenant.generateActivationCode.run (exec d r) w).1 = .ok code)
    (hfresh : ∀ t ∈ w.clients.tenants.rows, t.id ≠ r.uuid .row) :
    ((save d web r w browser authorization input).1.status < 400 ↔
      input.Accepted web ∧ emailTaken w input.email = false) ∧
    ((save d web r w browser authorization input).1.status < 400 →
      ∃ t w', page.Describes toLowerCase w.clock t ∧ w'.clients.tenants.rows = w.clients.tenants.rows ++ [t] ∧
        save d web r w browser authorization input = (.created (cardOf w' t), w')) := by
  generalize hreq : (ClientMutation.create input).request browser authorization = req at hpasses
  have hbody : req.body = some input.json := by
    rw [← hreq]
    rfl
  have hserve : save d web r w browser authorization input =
      (Handler.Tenant.create web req (Middleware.contextOf claims)).run (exec d r) w := by
    have haccess : req.route = .tenantCreate := by
      rw [← hreq]
      rfl
    have hrequire : Middleware.require (Middleware.contextOf claims) .tenant .create = none := by
      have hauthorize : Authz.authorize ⟨claims.userID.string, claims.role⟩ .tenant .create = none := by
        rw [Authz.authorize, if_pos hcan]
      unfold Middleware.require
      dsimp only [Middleware.contextOf]
      rw [hauthorize]
    have hpassed : (middleware req req.route.access).run (exec d r) w =
        (.ok (Middleware.contextOf claims), w) := by
      rw [haccess]
      exact hpasses.middleware r .tenant .create hrequire
    rw [save, hreq, serve, Prog.run_bind, hpassed]
    show (Http.handle d web req (Middleware.contextOf claims)).run (exec d r) w = _
    rw [Http.handle, haccess]
  have hfilled := filled hlower hsent
  have hplan : (TenantPlan.ofString input.bound.plan).valid = true := by
    rw [(onSubmit_some hsent).1]
    exact plan_valid page.plan
  rw [hserve]
  by_cases haccepted : input.Accepted web
  · have hbound : bindNewTenant web req = some input.bound :=
      (NewClient.bindNewTenant_json hfilled hbody).trans (if_pos haccepted)
    refine ⟨?_, fun hok => ?_⟩
    · rw [create_status_lt_iff rfl hbound hplan hcode, insert_isSome_iff hfresh]
      exact (and_iff_right haccepted).symm
    · obtain ⟨code, w', hrows, hrun⟩ := create_created rfl hbound hok
      exact ⟨_, w', describes_rowOf hlower hsent code r w.clock, hrows, hrun⟩
  · have hrefused :
        ¬ ((Handler.Tenant.create web req (Middleware.contextOf claims)).run (exec d r) w).1.status < 400 := by
      intro hok
      unfold Handler.Tenant.create at hok
      obtain ⟨b, hb⟩ := withInput_ok (refuses_bound _ _ _) hok
      rw [NewClient.bindNewTenant_json hfilled hbody, if_neg haccepted] at hb
      cases hb
    exact ⟨iff_of_false hrefused fun h => haccepted h.1, fun hok => absurd hok hrefused⟩

/-! ### A client of the sample deployment -/

/-- The form as the owner has filled it in. -/
def cafe : NewClientPage where
  values
    | .name => " Кафе "
    | .address => "Алматы, Абая 1"
    | .ownerName => "Владелец"
    | .phone => "+7 701 244 18 03"
    | .email => "Cafe@example.com"
  plan := .growth
  start := .trial
  trialDays := .ofInput "30 дней"

/-- `String.prototype.toLowerCase`, on ASCII. -/
def asciiLower (s : String) : String := String.ofList (s.toList.map Char.toLower)

theorem asciiLower_ne (s : String) (h : s ≠ "") : asciiLower s ≠ "" := by
  intro hempty
  have hnil := List.map_eq_nil_iff.mp (String.ofList_injective hempty)
  exact h (String.toList_injective hnil)

def cafeClient : NewClient := cafe.newClient asciiLower

theorem cafe_sent : cafe.onSubmit asciiLower ⟨some false, false⟩ = some cafeClient := by
  have hclean : (cafe.hasErrors ⟨some false, false⟩ || false) = false := by decide
  show (if (cafe.hasErrors ⟨some false, false⟩ || false) = true then none else some cafeClient) = some cafeClient
  rw [hclean]
  rfl

/-- The owner saves the form, and nobody has the email. -/
theorem sent_form_stored_cafe : ∃ t w', cafe.Describes asciiLower Sample.start t ∧
    save Sample.deps anyEmail (Sample.draws 0) Sample.world Sample.context (bearer (Sample.token Sample.firstClaims))
      cafeClient = (.created (cardOf w' t), w') := by
  have hpasses : Middleware.Passes Sample.world ((ClientMutation.create cafeClient).request Sample.context
      (bearer (Sample.token Sample.firstClaims))) (Issuer.parsed Sample.firstClaims) := by
    have h := Sample.passes_request (w := Sample.world) .tenantCreate (c := Sample.firstClaims)
      (by decide) (by decide) (by decide) (by decide)
    exact ⟨h.token, h.up, h.unlisted⟩
  have hcode : ((Usecase.Tenant.generateActivationCode.run (exec Sample.deps (Sample.draws 0))
      Sample.world).1).isOk = true := by decide
  cases hres : (Usecase.Tenant.generateActivationCode.run (exec Sample.deps (Sample.draws 0)) Sample.world).1 with
  | error e =>
      rw [hres] at hcode
      cases hcode
  | ok code =>
      have hfresh : ∀ t ∈ Sample.world.clients.tenants.rows, t.id ≠ (Sample.draws 0).uuid .row := by decide
      have hmain : ((save Sample.deps anyEmail (Sample.draws 0) Sample.world Sample.context
          (bearer (Sample.token Sample.firstClaims)) cafeClient).1.status < 400 ↔ _) ∧ _ :=
        sent_form_stored asciiLower_ne cafe_sent hpasses (by decide) hres hfresh
      obtain ⟨t, w', ht, -, hsaved⟩ := hmain.2 (hmain.1.mpr ⟨by decide, by decide⟩)
      exact ⟨t, w', ht, hsaved⟩

end NewClientPage

end SuperAdmin.Web
