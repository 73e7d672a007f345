import SuperAdmin.Lib.Tally
import SuperAdmin.Lib.History
import SuperAdmin.Http.Served
import SuperAdmin.Http.Repertoire

/-! # The answer tells what was done

The database may fail at any call.  A request that is there to change the team, a client, a ticket or the
template makes one statement that does so; the answer is a success exactly if this statement and all that
follow it have succeeded.  So an error leaves everything as it was, unless one of the few calls has failed
that some handlers make after the change: to end the sessions of the member, or to look up names for the
answer.  Over a database that does not fail, the requests that only read and those that were refused can be
left out of any run without anyone noticing. -/

namespace SuperAdmin

open Effects Http Usecase

/-- The statements that change the team, a client, a ticket or the template. -/
def Op.alters : Op → Bool
  | .users (.updateRole _ _) | .users (.updateStatus _ _) | .invites (.create _) => true
  | .tenants (.create _) | .tenants (.updateStatus _ _ _) => true
  | .tenants (.setActivationCode _ _ _) | .tenants (.delete _) => true
  | .tickets (.updateStatus _ _) | .tickets (.updatePriority _ _) => true
  | .tickets (.assignTo _ _) | .tickets (.addMessage _) | .templates (.update _ _ _ _) => true
  | _ => false

/-- What a handler calls after the change, and answers with an error if it fails. -/
def Op.follows : Op → Bool
  | .tokens (.revokeAllForUser _ _ _) | .users .list | .tenants .list => true
  | _ => false

/-- The routes that change the team, a client, a ticket or the template. -/
def Http.Route.alters : Route → Bool
  | .teamInvite | .teamUpdateRole | .teamRevoke | .settingsSaveTemplate => true
  | .tenantCreate | .tenantSuspend | .tenantResume | .tenantIssueCode | .tenantDelete => true
  | .ticketReply | .ticketAssign | .ticketUpdateStatus | .ticketUpdatePriority => true
  | _ => false

namespace Reported

/-! ### A report of the calls -/

/-- What has come of the calls of a request: the number of statements that were to change something,
whether one of them has succeeded, whether all that follows has, and whether anything else was written
before. -/
structure Report where
  made : ℕ
  done : Bool
  sound : Bool
  early : Bool
deriving DecidableEq

namespace Report

/-- Before the first call. -/
def start : Report := ⟨0, false, true, false⟩

/-- One more call. -/
def add (r : Report) (c : Answered Eff) : Report where
  made := r.made + (if c.1.alters then 1 else 0)
  done := r.done || (c.1.alters && !c.1.failed c.2)
  sound := r.sound && !(c.1.follows && c.1.failed c.2)
  early := r.early || !(c.1.reads || c.1.alters || r.done)

/-- The change was made, and nothing has failed after it. -/
def good (r : Report) : Bool := r.done && r.sound

/-- What a report says of the calls. -/
theorem foldl_add (l : List (Answered Eff)) (r : Report) :
    (l.foldl add r).made = r.made + (l.filter fun c => c.1.alters).length ∧
      (l.foldl add r).done = (r.done || l.any fun c => c.1.alters && !c.1.failed c.2) ∧
      (l.foldl add r).sound = (r.sound && l.all fun c => !(c.1.follows && c.1.failed c.2)) := by
  induction l generalizing r with
  | nil => simp
  | cons c l ih =>
      obtain ⟨hmade, hdone, hsound⟩ := ih (r.add c)
      refine ⟨?_, ?_, ?_⟩
      · rw [List.foldl_cons, hmade]
        cases h : c.1.alters <;> simp [add, h]
        omega
      · rw [List.foldl_cons, hdone]
        simp [add, Bool.or_assoc]
      · rw [List.foldl_cons, hsound]
        simp [add, Bool.and_assoc]

/-- Where nothing was written early and no change was made, the calls have read, or were to change. -/
theorem foldl_early {l : List (Answered Eff)} {r : Report} (hearly : (l.foldl add r).early = false)
    (hdone : (l.foldl add r).done = false) :
    r.early = false ∧ ∀ c ∈ l, c.1.reads = true ∨ c.1.alters = true := by
  induction l generalizing r with
  | nil => exact ⟨hearly, fun c hc => by cases hc⟩
  | cons c l ih =>
      obtain ⟨hadd, hrest⟩ := ih hearly hdone
      have hnone : r.done = false := by
        rw [(foldl_add (c :: l) r).2.1, Bool.or_eq_false_iff] at hdone
        exact hdone.1
      obtain ⟨hr, hc⟩ : r.early = false ∧ (c.1.reads = true ∨ c.1.alters = true) := by
        simpa [add, hnone, or_iff_not_imp_left] using hadd
      refine ⟨hr, fun c' hc' => ?_⟩
      rcases List.mem_cons.mp hc' with rfl | hc'
      · exact hc
      · exact hrest c' hc'

end Report

/-- The calls that count for nothing once the change was made. -/
def Logs (op : Op) : Prop := op.alters = false ∧ op.follows = false

/-- The calls that count for nothing at any time. -/
def Silent (op : Op) : Prop := Logs op ∧ op.reads = true

theorem add_logs {op : Op} (h : Logs op) {r : Report} (hdone : op.reads = true ∨ r.done = true) (res : op.Res) :
    r.add ⟨op, res⟩ = r := by
  obtain ⟨made, done, sound, early⟩ := r
  rcases hdone with hreads | hdone
  · simp [Report.add, h.1, h.2, hreads]
  · obtain rfl : done = true := hdone
    simp [Report.add, h.1, h.2]

theorem add_silent {op : Op} (h : Silent op) (r : Report) (res : op.Res) : r.add ⟨op, res⟩ = r :=
  add_logs h.1 (.inl h.2) res

/-! ### Programs that tell -/

/-- What a report says of a result: a success if it is good, with one statement at most and nothing early. -/
structure Told (success : Bool) (r : Report) : Prop where
  success : success = r.good
  made : r.made ≤ 1
  early : r.early = false

/-- The program returns a success exactly if the report is good by then. -/
abbrev Tells {α : Type} (success : α → Bool) (p : Proc α) (r : Report) : Prop :=
  p.Tallied Report.add (fun a r => Told (success a) r) r

/-- A usecase that has not failed. -/
abbrev UsecaseTells {α : Type} (p : Proc (Except Error α)) (r : Report) : Prop := Tells Except.isOk p r

/-- A status below 400. -/
def succeeded (resp : Response) : Bool := decide (resp.status < 400)

section rules

variable {α β : Type} {success : β → Bool} {r : Report}

theorem tells_silent {p : Proc α} {f : α → Proc β} (hp : p.Only Silent) (hf : ∀ a, Tells success (f a) r) :
    Tells success (p >>= f) r :=
  .bind (hp.tallied fun _ res h => add_silent h r res) fun a _ h => h.1 ▸ hf a

theorem tells_step {op : Op} {f : op.Res → Proc β} (hop : Silent op) (hf : ∀ res, Tells success (f res) r) :
    Tells success (perform op >>= f) r := .skip (fun res => add_silent hop r res) hf

/-- After the change what was done is written down. -/
theorem tells_logs {p : Proc α} {f : α → Proc β} (hp : p.Only Logs) (hdone : r.done = true)
    (hf : ∀ a, Tells success (f a) r) : Tells success (p >>= f) r :=
  .bind (hp.tallied fun _ res h => add_logs h (.inr hdone) res) fun a _ h => h.1 ▸ hf a

theorem logs_writeAudit (e : AuditEntry) : (writeAudit e).Only Logs := .step ⟨rfl, rfl⟩ fun _ => trivial

theorem tells_writeAudit {e : AuditEntry} {f : Unit → Proc β} (hdone : r.done = true)
    (hf : ∀ a, Tells success (f a) r) : Tells success (writeAudit e >>= f) r :=
  tells_logs (logs_writeAudit e) hdone hf

/-- A check that answers what it refuses with no success. -/
theorem tells_input {input : Except Response α} {k : α → Proc Response} (hinput : Refuses input)
    (hk : ∀ a, Tells succeeded (k a) .start) : Tells succeeded (withInput input k) .start := by
  cases input with
  | error resp => exact ⟨decide_eq_false (Nat.not_lt.mpr (hinput resp rfl)), Nat.zero_le 1, rfl⟩
  | ok a => exact hk a

/-- The answer to what a usecase has returned. -/
theorem tells_respond {res : Except Error α} {k : α → Proc Response} (hres : Told res.isOk r)
    (hk : ∀ a, r.good = true → Tells succeeded (k a) r) : Tells succeeded (respond res k) r := by
  cases res with
  | error err =>
      exact ⟨(decide_eq_false (Nat.not_lt.mpr (Response.error_status err))).trans hres.success, hres.made, hres.early⟩
  | ok a => exact hk a hres.success.symm

/-- A handler that acts in the name of the caller. -/
theorem tells_acting {ctx : Context} {p : AccessClaims → Proc (Except Error α)}
    {k : AccessClaims → Except Error α → Proc Response} (hp : ∀ claims, UsecaseTells (p claims) .start)
    (hk : ∀ claims res r, Told res.isOk r → Tells succeeded (k claims res) r) :
    Tells succeeded (withInput (claimsFrom ctx) fun claims => p claims >>= k claims) .start :=
  tells_input (refuses_claimsFrom ctx) fun claims => .bind (hp claims) fun res r h => hk claims res r h

end rules

/-! ### Usecases -/

section usecases

variable (actor : AccessClaims) (rc : RequestContext)

theorem tells_invite (email : String) (role : Role) : UsecaseTells (Team.invite actor email role rc) .start := by
  unfold Team.invite
  split
  · exact ⟨rfl, Nat.zero_le 1, rfl⟩
  · refine tells_step ⟨⟨rfl, rfl⟩, rfl⟩ fun res => ?_
    cases res with
    | ok _ => exact ⟨rfl, Nat.zero_le 1, rfl⟩
    | error e =>
        dsimp only
        split
        · exact ⟨rfl, Nat.zero_le 1, rfl⟩
        · refine tells_step ⟨⟨rfl, rfl⟩, rfl⟩ fun res => ?_
          cases res with
          | error e => exact ⟨rfl, Nat.zero_le 1, rfl⟩
          | ok pending =>
              dsimp only
              split
              · exact ⟨rfl, Nat.zero_le 1, rfl⟩
              · have hsecure : generateSecureToken.Only Silent := by
                  refine .step ⟨⟨rfl, rfl⟩, rfl⟩ fun res => ?_
                  cases res <;> trivial
                refine tells_silent hsecure fun res => ?_
                cases res with
                | error e => exact ⟨rfl, Nat.zero_le 1, rfl⟩
                | ok rawToken =>
                    refine tells_step ⟨⟨rfl, rfl⟩, rfl⟩ fun now => .step fun res => ?_
                    cases res with
                    | error e => exact ⟨rfl, le_refl 1, rfl⟩
                    | ok inv => exact tells_writeAudit rfl fun _ => ⟨rfl, le_refl 1, rfl⟩

theorem tells_updateRole (memberID : UUID) (role : Role) :
    UsecaseTells (Team.updateRole actor memberID role rc) .start := by
  unfold Team.updateRole
  split
  · exact ⟨rfl, Nat.zero_le 1, rfl⟩
  · refine tells_step ⟨⟨rfl, rfl⟩, rfl⟩ fun res => ?_
    cases res with
    | error e => exact ⟨rfl, Nat.zero_le 1, rfl⟩
    | ok member =>
        dsimp only
        split
        · exact ⟨rfl, Nat.zero_le 1, rfl⟩
        · refine .step fun res => ?_
          cases res with
          | error e => exact ⟨rfl, le_refl 1, rfl⟩
          | ok updated =>
              exact tells_step ⟨⟨rfl, rfl⟩, rfl⟩ fun now => tells_writeAudit rfl fun _ => ⟨rfl, le_refl 1, rfl⟩

/-- The sessions of the member are ended after the change. -/
theorem tells_revoke (memberID : UUID) : UsecaseTells (Team.revoke actor memberID rc) .start := by
  refine tells_step ⟨⟨rfl, rfl⟩, rfl⟩ fun res => ?_
  cases res with
  | error e => exact ⟨rfl, Nat.zero_le 1, rfl⟩
  | ok member =>
      dsimp only
      split
      · exact ⟨rfl, Nat.zero_le 1, rfl⟩
      · refine tells_step ⟨⟨rfl, rfl⟩, rfl⟩ fun now => .step fun res => ?_
        cases res with
        | error e => exact ⟨rfl, le_refl 1, rfl⟩
        | ok _ =>
            refine .step fun res => ?_
            cases res with
            | error e => exact ⟨rfl, le_refl 1, rfl⟩
            | ok _ => exact tells_writeAudit rfl fun _ => ⟨rfl, le_refl 1, rfl⟩

theorem tells_saveTemplate (body : String) : UsecaseTells (Settings.saveTemplate actor body rc) .start := by
  refine tells_step ⟨⟨rfl, rfl⟩, rfl⟩ fun now => .step fun res => ?_
  cases res with
  | error e => exact ⟨rfl, le_refl 1, rfl⟩
  | ok tpl => exact tells_writeAudit rfl fun _ => ⟨rfl, le_refl 1, rfl⟩

/-! ### Clients -/

theorem logs_tenantAudit (action : AuditAction) (tenant : SuperAdmin.Tenant) (extra : List (String × String)) :
    (Tenant.writeAudit actor action tenant rc extra).Only Logs :=
  .step ⟨rfl, rfl⟩ fun _ => logs_writeAudit _

theorem silent_generateActivationCode : Tenant.generateActivationCode.Only Silent := by
  have hgroup : ∀ site, (Tenant.randomAlphabetString site).Only Silent := by
    intro site
    refine .step ⟨⟨rfl, rfl⟩, rfl⟩ fun res => ?_
    cases res <;> trivial
  refine .bind (hgroup _) fun res => ?_
  cases res with
  | error e => trivial
  | ok group =>
      refine .bind (hgroup _) fun res => ?_
      cases res <;> trivial

theorem tells_create (input : NewTenant) : UsecaseTells (Tenant.create actor input rc) .start := by
  unfold Tenant.create
  split
  · exact ⟨rfl, Nat.zero_le 1, rfl⟩
  · refine tells_step ⟨⟨rfl, rfl⟩, rfl⟩ fun now => tells_silent silent_generateActivationCode fun res => ?_
    cases res with
    | error e => exact ⟨rfl, Nat.zero_le 1, rfl⟩
    | ok code =>
        refine .step fun res => ?_
        cases res with
        | error e => exact ⟨rfl, le_refl 1, rfl⟩
        | ok tenant => exact tells_logs (logs_tenantAudit actor rc _ _ _) rfl fun _ => ⟨rfl, le_refl 1, rfl⟩

theorem tells_suspend (id : UUID) (reason : String) :
    UsecaseTells (Tenant.suspend actor id reason rc) .start := by
  unfold Tenant.suspend
  split
  · exact ⟨rfl, Nat.zero_le 1, rfl⟩
  · refine .step fun res => ?_
    cases res with
    | error e => exact ⟨rfl, le_refl 1, rfl⟩
    | ok tenant => exact tells_logs (logs_tenantAudit actor rc _ _ _) rfl fun _ => ⟨rfl, le_refl 1, rfl⟩

theorem tells_resume (id : UUID) : UsecaseTells (Tenant.resume actor id rc) .start := by
  refine .step fun res => ?_
  cases res with
  | error e => exact ⟨rfl, le_refl 1, rfl⟩
  | ok tenant => exact tells_logs (logs_tenantAudit actor rc _ _ _) rfl fun _ => ⟨rfl, le_refl 1, rfl⟩

theorem tells_issueActivationCode (id : UUID) :
    UsecaseTells (Tenant.issueActivationCode actor id rc) .start := by
  refine tells_silent silent_generateActivationCode fun res => ?_
  cases res with
  | error e => exact ⟨rfl, Nat.zero_le 1, rfl⟩
  | ok code =>
      refine tells_step ⟨⟨rfl, rfl⟩, rfl⟩ fun now => .step fun res => ?_
      cases res with
      | error e => exact ⟨rfl, le_refl 1, rfl⟩
      | ok tenant => exact tells_logs (logs_tenantAudit actor rc _ _ _) rfl fun _ => ⟨rfl, le_refl 1, rfl⟩

theorem tells_delete (id : UUID) : UsecaseTells (Tenant.delete actor id rc) .start := by
  refine tells_step ⟨⟨rfl, rfl⟩, rfl⟩ fun res => ?_
  cases res with
  | error e => exact ⟨rfl, Nat.zero_le 1, rfl⟩
  | ok tenant =>
      refine .step fun res => ?_
      cases res with
      | error e => exact ⟨rfl, le_refl 1, rfl⟩
      | ok _ => exact tells_logs (logs_tenantAudit actor rc _ _ _) rfl fun _ => ⟨rfl, le_refl 1, rfl⟩

/-! ### Tickets -/

theorem logs_ticketAudit (action : AuditAction) (ticket : SuperAdmin.Ticket) (extra : List (String × String)) :
    (Ticket.writeAudit actor action ticket rc extra).Only Logs :=
  .step ⟨rfl, rfl⟩ fun _ => .step ⟨rfl, rfl⟩ fun _ => logs_writeAudit _

theorem tells_reply (ticketID : UUID) (body : String) :
    UsecaseTells (Ticket.reply actor ticketID body rc) .start := by
  unfold Ticket.reply
  split
  · exact ⟨rfl, Nat.zero_le 1, rfl⟩
  · refine tells_step ⟨⟨rfl, rfl⟩, rfl⟩ fun res => ?_
    cases res with
    | error e => exact ⟨rfl, Nat.zero_le 1, rfl⟩
    | ok found =>
        refine tells_step ⟨⟨rfl, rfl⟩, rfl⟩ fun user => .step fun res => ?_
        cases res with
        | error e => exact ⟨rfl, le_refl 1, rfl⟩
        | ok message => exact tells_logs (logs_ticketAudit actor rc _ _ _) rfl fun _ => ⟨rfl, le_refl 1, rfl⟩

theorem tells_assignToSelf (ticketID : UUID) : UsecaseTells (Ticket.assignToSelf actor ticketID rc) .start := by
  refine .step fun res => ?_
  cases res with
  | error e => exact ⟨rfl, le_refl 1, rfl⟩
  | ok ticket => exact tells_logs (logs_ticketAudit actor rc _ _ _) rfl fun _ => ⟨rfl, le_refl 1, rfl⟩

theorem tells_updateStatus (ticketID : UUID) (status : TicketStatus) :
    UsecaseTells (Ticket.updateStatus actor ticketID status rc) .start := by
  unfold Ticket.updateStatus
  split
  · exact ⟨rfl, Nat.zero_le 1, rfl⟩
  · refine .step fun res => ?_
    cases res with
    | error e => exact ⟨rfl, le_refl 1, rfl⟩
    | ok ticket => exact tells_logs (logs_ticketAudit actor rc _ _ _) rfl fun _ => ⟨rfl, le_refl 1, rfl⟩

theorem tells_updatePriority (ticketID : UUID) (priority : TicketPriority) :
    UsecaseTells (Ticket.updatePriority actor ticketID priority rc) .start := by
  unfold Ticket.updatePriority
  split
  · exact ⟨rfl, Nat.zero_le 1, rfl⟩
  · refine .step fun res => ?_
    cases res with
    | error e => exact ⟨rfl, le_refl 1, rfl⟩
    | ok ticket => exact tells_logs (logs_ticketAudit actor rc _ _ _) rfl fun _ => ⟨rfl, le_refl 1, rfl⟩

end usecases

/-! ### Requests -/

section serve

variable {d : Deps} {web : Web} {req : Request} {ctx : Context} {r : Report}

/-- The card of a client counts its open tickets, or none if that fails. -/
theorem tells_detail {res : Except Error SuperAdmin.Tenant} {answer : Json → Response}
    (hanswer : ∀ json, (answer json).status < 400) (hres : Told res.isOk r) :
    Tells succeeded (respond res fun tenant => answer <$> Handler.Tenant.toTenantDetailResponse tenant) r :=
  tells_respond hres fun _ hgood => tells_step ⟨⟨rfl, rfl⟩, rfl⟩ fun _ =>
    ⟨(decide_eq_true (hanswer _)).trans hgood.symm, hres.made, hres.early⟩

/-- A call after the change decides the rest. -/
theorem told_add (op : Op) (halters : op.alters = false) (hfollows : op.follows = true) (res : op.Res)
    (hr : Told true r) : Told (!op.failed res) (r.add ⟨op, res⟩) := by
  obtain ⟨hdone, hsound⟩ := Bool.and_eq_true_iff.mp hr.success.symm
  refine ⟨?_, ?_, ?_⟩
  · simp [Report.good, Report.add, halters, hfollows, hdone, hsound]
  · simpa [Report.add, halters] using hr.made
  · simpa [Report.add, hdone] using hr.early

theorem tells_buildLookups (hr : Told true r) : UsecaseTells Handler.Ticket.buildLookups r := by
  refine .step fun res => ?_
  have husers := told_add (.users .list) rfl rfl res hr
  cases res with
  | error e => exact husers
  | ok users =>
      refine .step fun res => ?_
      have htenants := told_add (.tenants .list) rfl rfl res husers
      cases res with
      | error e => exact htenants
      | ok tenants => exact htenants

/-- The answer with a ticket looks up names, and fails if that does. -/
theorem tells_changed {res : Except Error SuperAdmin.Ticket} (hres : Told res.isOk r) :
    Tells succeeded (Handler.Ticket.changed res) r :=
  tells_respond hres fun _ hgood => .bind (tells_buildLookups ⟨hgood.symm, hres.made, hres.early⟩)
    fun _ _ hlookups => tells_respond hlookups fun _ hgood' => ⟨hgood'.symm, hlookups.made, hlookups.early⟩

/-- A usecase without a result to look anything up for. -/
theorem tells_answer {α : Type} {res : Except Error α} {answer : α → Response}
    (hanswer : ∀ a, (answer a).status < 400) (hres : Told res.isOk r) :
    Tells succeeded (respond res fun a => pure (answer a)) r :=
  tells_respond hres fun a hgood => ⟨(decide_eq_true (hanswer a)).trans hgood.symm, hres.made, hres.early⟩

theorem tells_handle (hroute : req.route.alters = true) : Tells succeeded (handle d web req ctx) .start := by
  have hok : ∀ json, (Response.ok json).status < 400 := fun _ => (by decide : 200 < 400)
  have hcreated : ∀ json, (Response.created json).status < 400 := fun _ => (by decide : 201 < 400)
  have hnoContent : Response.noContent.status < 400 := by decide
  unfold handle
  cases h : req.route with
  | teamInvite =>
      exact tells_input (refuses_bound _ _ _) fun input =>
        tells_acting (fun claims => tells_invite claims _ _ _) fun _ _ _ => tells_answer fun _ => hcreated _
  | teamUpdateRole =>
      exact tells_input (refuses_paramID _) fun id => tells_input (refuses_bound _ _ _) fun role =>
        tells_acting (fun claims => tells_updateRole claims _ id _) fun _ _ _ => tells_answer fun _ => hok _
  | teamRevoke =>
      exact tells_input (refuses_paramID _) fun id =>
        tells_acting (fun claims => tells_revoke claims _ id) fun _ _ _ => tells_answer fun _ => hnoContent
  | settingsSaveTemplate =>
      exact tells_input (refuses_bound _ _ _) fun text =>
        tells_acting (fun claims => tells_saveTemplate claims _ text) fun _ _ _ => tells_answer fun _ => hok _
  | tenantCreate =>
      exact tells_input (refuses_bound _ _ _) fun input =>
        tells_acting (fun claims => tells_create claims _ _) fun _ _ _ => tells_detail hcreated
  | tenantSuspend =>
      exact tells_input (refuses_paramID _) fun id => tells_input (refuses_bound _ _ _) fun reason =>
        tells_acting (fun claims => tells_suspend claims _ id reason) fun _ _ _ => tells_detail hok
  | tenantResume =>
      exact tells_input (refuses_paramID _) fun id =>
        tells_acting (fun claims => tells_resume claims _ id) fun _ _ _ => tells_detail hok
  | tenantIssueCode =>
      exact tells_input (refuses_paramID _) fun id =>
        tells_acting (fun claims => tells_issueActivationCode claims _ id) fun _ _ _ => tells_detail hok
  | tenantDelete =>
      exact tells_input (refuses_paramID _) fun id =>
        tells_acting (fun claims => tells_delete claims _ id) fun _ _ _ => tells_answer fun _ => hnoContent
  | ticketReply =>
      exact tells_input (refuses_paramID _) fun id => tells_input (refuses_bound _ _ _) fun text =>
        tells_acting (fun claims => tells_reply claims _ id text) fun _ _ _ => tells_answer fun _ => hcreated _
  | ticketAssign =>
      exact tells_input (refuses_paramID _) fun id =>
        tells_acting (fun claims => tells_assignToSelf claims _ id) fun _ _ _ => tells_changed
  | ticketUpdateStatus =>
      exact tells_input (refuses_paramID _) fun id => tells_input (refuses_bound _ _ _) fun status =>
        tells_acting (fun claims => tells_updateStatus claims _ id _) fun _ _ _ => tells_changed
  | ticketUpdatePriority =>
      exact tells_input (refuses_paramID _) fun id => tells_input (refuses_bound _ _ _) fun priority =>
        tells_acting (fun claims => tells_updatePriority claims _ id _) fun _ _ _ => tells_changed
  | _ =>
      rw [h] at hroute
      cases hroute

/-- The answer of the server tells what was done. -/
theorem tells_serve (hroute : req.route.alters = true) : Tells succeeded (serve d web req) .start := by
  have hsilent : (middleware req req.route.access).Only Silent :=
    middleware_only (fun _ => ⟨⟨rfl, rfl⟩, rfl⟩) (fun _ => ⟨⟨rfl, rfl⟩, rfl⟩) _ _
  refine .bind (hsilent.tallied_meets (fun _ res h => add_silent h _ res)
    (screened_middleware req.route.access)) fun res r h => ?_
  obtain ⟨rfl, hscreened⟩ := h
  cases res with
  | error resp => exact ⟨decide_eq_false (Nat.not_lt.mpr hscreened), Nat.zero_le 1, rfl⟩
  | ok ctx => exact tells_handle hroute

end serve

/-! ### Over a database that fails -/

section run

variable {d : Deps} {web : Web} {w : World d}

/-- Any call may fail; one that fails leaves everything as it was. -/
def Unreliable (d : Deps) (r : Draws) (h : Handler Eff (World d)) : Prop :=
  ∀ op w, h op w = exec d r op w ∨ op.failed (h op w).1 = true ∧ (h op w).2 = w

variable {ι : Type} {draws : ι → Draws} {requests : ι → Request} {h : ι → Handler Eff (World d)}
  {P : Pool Eff (Recorded Eff (World d) ι) ι Response} {i : ι} {resp : Response}

/-- The call of an event was answered with an error. -/
def failedCall (h : ι → Handler Eff (World d)) (e : Event Eff (World d) ι) : Bool :=
  e.op.failed (h e.tid e.op e.before).1

/-- The call of an event has changed nothing. -/
def Unchanged (h : ι → Handler Eff (World d)) (e : Event Eff (World d) ι) : Prop :=
  (h e.tid e.op e.before).2 = e.before

theorem unchanged_failed {e : Event Eff (World d) ι} (hh : Unreliable d (draws e.tid) (h e.tid))
    (hfailed : failedCall h e = true) : Unchanged h e := by
  rcases hh e.op e.before with hexec | ⟨-, hsame⟩
  · unfold failedCall at hfailed
    rw [hexec] at hfailed
    unfold Unchanged
    rw [hexec, exec_failed _ _ hfailed]
  · exact hsame

theorem unchanged_reads {e : Event Eff (World d) ι} (hh : Unreliable d (draws e.tid) (h e.tid))
    (hreads : e.op.reads = true) : Unchanged h e := by
  rcases hh e.op e.before with hexec | ⟨-, hsame⟩
  · unfold Unchanged
    rw [hexec, exec_reads hreads]
  · exact hsame

variable [DecidableEq ι]

section report

variable {tr : List (Event Eff (World d) ι)}

theorem report_made : ((calls h i tr).foldl Report.add .start).made =
    (tr.filter fun e => e.tid = i ∧ e.op.alters).length := by
  rw [(Report.foldl_add _ _).1, length_filter_calls]
  exact Nat.zero_add _

theorem report_done : ((calls h i tr).foldl Report.add .start).done = true ↔
    ∃ e ∈ tr, e.tid = i ∧ e.op.alters = true ∧ failedCall h e = false := by
  rw [(Report.foldl_add _ _).2.1, Report.start, Bool.false_or, List.any_eq_true, exists_mem_calls]
  simp [failedCall]

theorem report_sound : ((calls h i tr).foldl Report.add .start).sound = true ↔
    ∀ e ∈ tr, e.tid = i → e.op.follows = true → failedCall h e = false := by
  rw [(Report.foldl_add _ _).2.2, Report.start, Bool.true_and, List.all_eq_true, forall_mem_calls]
  simp [failedCall, imp_iff_not_or]

end report

/-- What the report of its calls says of the answer to a request. -/
theorem told_answer (hr : Pool.Run (record h) (recordEnv Ticks) (fun _ _ _ => True)
      (Mediation.serverPool d web requests w) P)
    (hroute : (requests i).route.alters = true) (hresp : (P.thread i).result? = some resp) :
    Told (succeeded resp) ((calls h i P.state.trace).foldl Report.add .start) :=
  hr.tallied rfl (tells_serve hroute) hresp

/-- A request whose change was not made has changed nothing. -/
theorem unchanged_of_not_done (hh : ∀ i, Unreliable d (draws i) (h i)) {tr : List (Event Eff (World d) ι)}
    (hearly : ((calls h i tr).foldl Report.add .start).early = false)
    (hdone : ((calls h i tr).foldl Report.add .start).done = false) :
    ∀ e ∈ tr, e.tid = i → Unchanged h e := by
  have hcalls := (Report.foldl_early hearly hdone).2
  rw [forall_mem_calls] at hcalls
  intro e he hi
  rcases hcalls e he hi with hreads | halters
  · exact unchanged_reads (hh e.tid) hreads
  · refine unchanged_failed (hh e.tid) ?_
    by_contra hok
    rw [report_done.mpr ⟨e, he, hi, halters, Bool.not_eq_true _ ▸ hok⟩] at hdone
    cases hdone

/-- **The answer tells what was done.** However the calls of any requests interleave, and whichever of them
fail: a request that is there to change something makes one statement at most that does, and is answered
with a success exactly if this statement has succeeded and nothing that follows it has failed.  Under an
error none of its calls has changed anything, unless a call that follows the change has failed. -/
theorem answer_tells (hh : ∀ i, Unreliable d (draws i) (h i))
    (hr : Pool.Run (record h) (recordEnv Ticks) (fun _ _ _ => True) (Mediation.serverPool d web requests w) P)
    (hroute : (requests i).route.alters = true) (hresp : (P.thread i).result? = some resp) :
    (P.state.trace.filter fun e => e.tid = i ∧ e.op.alters).length ≤ 1 ∧
    (resp.status < 400 ↔
      (∃ e ∈ P.state.trace, e.tid = i ∧ e.op.alters = true ∧ failedCall h e = false) ∧
        ∀ e ∈ P.state.trace, e.tid = i → e.op.follows = true → failedCall h e = false) ∧
    (400 ≤ resp.status → (∀ e ∈ P.state.trace, e.tid = i → Unchanged h e) ∨
      ∃ e ∈ P.state.trace, e.tid = i ∧ e.op.follows = true ∧ failedCall h e = true) := by
  obtain ⟨hsuccess, hmade, hearly⟩ := told_answer hr hroute hresp
  have hstatus : resp.status < 400 ↔ ((calls h i P.state.trace).foldl Report.add .start).done = true ∧
      ((calls h i P.state.trace).foldl Report.add .start).sound = true := by
    rw [← Bool.and_eq_true_iff]
    exact decide_eq_true_iff.symm.trans (Bool.eq_iff_iff.mp hsuccess)
  rw [report_made] at hmade
  refine ⟨hmade, ?_, fun herror => or_iff_not_imp_right.mpr fun hfollow => ?_⟩
  · rw [hstatus, report_done, report_sound]
  · refine unchanged_of_not_done hh hearly ?_
    by_contra hdone
    have hsound : ((calls h i P.state.trace).foldl Report.add .start).sound = true := by
      refine report_sound.mpr fun e he hi hfollows => ?_
      by_contra hfailed
      exact hfollow ⟨e, he, hi, hfollows, Bool.not_eq_false _ ▸ hfailed⟩
    exact absurd (hstatus.mpr ⟨Bool.not_eq_false _ ▸ hdone, hsound⟩) (Nat.not_lt.mpr herror)

/-- The token store fails when the sessions of a member are to be ended. -/
def tokensFail : Handler Eff (World Mediation.desk) := fun op w =>
  match op with
  | .tokens (.revokeAllForUser _ _ _) => (.error (.foreign "conn closed"), w)
  | op => exec Mediation.desk (Sample.draws 0) op w

/-- The owner takes the access of the other member meanwhile. -/
def revoking : Pool Eff (Recorded Eff (World Mediation.desk) (Fin 1)) (Fin 1) Response :=
  (Mediation.serverPool Mediation.desk ⟨fun _ => true⟩ (fun _ : Fin 1 => Mediation.revokeRequest)
    Mediation.deskWorld).play (record fun _ => tokensFail) (List.replicate 6 0)

/-- The answer is an error, and the member is suspended all the same. -/
theorem answer_tells_revoke : ∃ resp, (revoking.thread 0).result? = some resp ∧ 400 ≤ resp.status ∧
    (∃ u ∈ revoking.state.now.users.rows, u.status = .suspended) ∧
    ∃ e ∈ revoking.state.trace, e.op.follows = true ∧ failedCall (fun _ => tokensFail) e = true := by
  have hunreliable : Unreliable Mediation.desk (Sample.draws 0) tokensFail := by
    intro op w
    unfold tokensFail
    split
    · exact .inr ⟨rfl, rfl⟩
    · exact .inl rfl
  have hanswered : ((revoking.thread 0).result?.map Response.status) = some 500 := by decide
  have hsuspended : ∃ u ∈ revoking.state.now.users.rows, u.status = .suspended := by decide
  have hchanged : ∃ e ∈ revoking.state.trace,
      (tokensFail e.op e.before).2.users.rows.map SuperAdminUser.status ≠
        e.before.users.rows.map SuperAdminUser.status := by decide
  obtain ⟨resp, hresp, hstatus⟩ := Option.map_eq_some_iff.mp hanswered
  have herror : 400 ≤ resp.status := hstatus ▸ (by decide : 400 ≤ 500)
  rcases (answer_tells (i := 0) (fun _ => hunreliable) (Pool.play_run _ _) rfl hresp).2.2 herror with
    hsame | ⟨e, he, -, hfollows, hfailed⟩
  · obtain ⟨e, he, hne⟩ := hchanged
    exact absurd (congrArg (fun w => w.users.rows.map SuperAdminUser.status) (hsame e he (Subsingleton.elim _ _))) hne
  · exact ⟨resp, hresp, herror, hsuspended, e, he, hfollows, hfailed⟩

/-! ### Requests that come to nothing -/

/-- A request that only reads, or that was there to change something and was answered with an error. -/
def idle (req : Request) (p : Proc Response) : Bool :=
  Audit.reading req.route || (req.route.alters && p.result?.any fun resp => decide (400 ≤ resp.status))

theorem unreliable_exec (r : Draws) : Unreliable d r (exec d r) := fun _ _ => .inl rfl

/-- What follows a change does not fail where the database does not. -/
theorem exec_follows {op : Op} (h : op.follows = true) (r : Draws) (w : World d) :
    op.failed (exec d r op w).1 = false := by
  unfold Op.follows at h
  split at h
  · rfl
  · rfl
  · rfl
  · cases h

theorem reads_serve {req : Request} (h : Audit.reading req.route = true) : Reads (serve d web req) := by
  refine .bind (Repertoire.reads_middleware _) fun res => ?_
  cases res with
  | error resp => trivial
  | ok ctx => exact Audit.handle_reads h

/-- No call of such a request has changed anything. -/
theorem unchanged_idle (hr : Pool.Run (record fun i => exec d (draws i)) (recordEnv Ticks) (fun _ _ _ => True)
      (Mediation.serverPool d web requests w) P) (hidle : idle (requests i) (P.thread i) = true) :
    ∀ e ∈ P.state.trace, e.tid = i → Unchanged (fun i => exec d (draws i)) e := by
  rcases Bool.or_eq_true_iff.mp hidle with hreading | hrefused
  · have hserve : ∀ j, (serve d web (requests j)).Only fun op : Op =>
        Audit.reading (requests j).route = true → op.reads = true := by
      intro j
      by_cases h : Audit.reading (requests j).route = true
      · exact (reads_serve h).mono fun _ hop _ => hop
      · exact (Prog.only_true _).mono fun _ _ h' => absurd h' h
    intro e he hi
    obtain ⟨newer, older, htrace⟩ := List.append_of_mem he
    obtain ⟨-, hop⟩ := (hr.only hserve).1.always rfl newer e older htrace
    exact unchanged_reads (unreliable_exec _) (hop (hi ▸ hreading))
  · obtain ⟨hroute, hany⟩ := Bool.and_eq_true_iff.mp hrefused
    cases hresp : (P.thread i).result? with
    | none =>
        rw [hresp] at hany
        cases hany
    | some resp =>
        rw [hresp] at hany
        obtain ⟨hsuccess, -, hearly⟩ := told_answer hr hroute hresp
        refine unchanged_of_not_done (fun i => unreliable_exec (draws i)) hearly ?_
        -- nothing that follows fails, so that the change itself was not made
        have hsound : ((calls (fun i => exec d (draws i)) i P.state.trace).foldl Report.add .start).sound = true :=
          report_sound.mpr fun e _ _ hfollows => exec_follows hfollows (draws e.tid) e.before
        rw [succeeded, decide_eq_false (Nat.not_lt.mpr (of_decide_eq_true hany)), Report.good] at hsuccess
        rwa [hsound, Bool.and_true, eq_comm] at hsuccess

/-- **Reading and refused requests are invisible.** For every run over a database that does not fail there is one
in which the requests that only read, and those that were to change something and were answered with an error,
have not begun: it ends in the same state, and all other requests have made the same calls in the same states
and stand where they stood. -/
theorem idle_invisible (hr : Pool.Run (record fun i => exec d (draws i)) (recordEnv Ticks) (fun _ _ _ => True)
      (Mediation.serverPool d web requests w) P) :
    ∃ Q, Pool.Run (record fun i => exec d (draws i)) (recordEnv Ticks) (fun _ _ _ => True)
        (Mediation.serverPool d web requests w) Q ∧ Q.state.now = P.state.now ∧
      Q.state.trace = P.state.trace.filter (fun e => !idle (requests e.tid) (P.thread e.tid)) ∧
      ∀ i, Q.thread i = if idle (requests i) (P.thread i) then serve d web (requests i) else P.thread i := by
  obtain ⟨Q, hrun, hnow, htrace, hthread⟩ := hr.erase rfl (fun i => idle (requests i) (P.thread i) = true)
    fun e he hidle => unchanged_idle hr hidle e he rfl
  refine ⟨Q, hrun, hnow, ?_, hthread⟩
  rw [htrace]
  simp

/-- The owner takes the access of the other member, and somebody without a token tries to. -/
def twoRequests (i : Fin 2) : Request :=
  if i = 0 then Mediation.revokeRequest else { Mediation.revokeRequest with authorization := "Bearer nobody" }

def both : Pool Eff (Recorded Eff (World Mediation.desk) (Fin 2)) (Fin 2) Response :=
  (Mediation.serverPool Mediation.desk ⟨fun _ => true⟩ twoRequests Mediation.deskWorld).play
    (record fun _ => exec Mediation.desk (Sample.draws 0)) [0, 1, 0, 0, 0, 0, 0, 0]

/-- The second request might as well not have come. -/
theorem idle_invisible_refused : (both.thread 1).result?.map Response.status = some 401 ∧
    ∃ Q, Pool.Run (record fun _ => exec Mediation.desk (Sample.draws 0)) (recordEnv Ticks) (fun _ _ _ => True)
        (Mediation.serverPool Mediation.desk ⟨fun _ => true⟩ twoRequests Mediation.deskWorld) Q ∧
      Q.state.now = both.state.now ∧ (Q.thread 0).result?.map Response.status = some 204 ∧
      Q.thread 1 = serve Mediation.desk ⟨fun _ => true⟩ (twoRequests 1) := by
  obtain ⟨Q, hrun, hnow, -, hthread⟩ := idle_invisible (Pool.play_run [0, 1, 0, 0, 0, 0, 0, 0]
    (Mediation.serverPool Mediation.desk ⟨fun _ => true⟩ twoRequests Mediation.deskWorld))
  have hkept : ¬idle (twoRequests 0) (both.thread 0) = true := by decide
  have herased : idle (twoRequests 1) (both.thread 1) = true := by decide
  refine ⟨by decide, Q, hrun, hnow, ?_, ?_⟩
  · have hsame : Q.thread 0 = both.thread 0 := (hthread 0).trans (if_neg hkept)
    rw [hsame]
    decide
  · exact (hthread 1).trans (if_pos herased)

end run

end Reported

end SuperAdmin
