import SuperAdmin.Http.Served
import SuperAdmin.Web.ClientAnswers

/-! # The cache of the section about clients

After a mutation no valid entry of the cache is left whose answer the mutation has changed, except under
the keys that its `onSuccess` misses.  A suspended client, a resumed one and a new code mark the whole
section.  A new client sets its card and marks the list: it misses the check of its email, which never
goes stale, and the journal of its id.  A deleted client removes what stands under its id as it is
written: it misses the check of its email, and what stands under another spelling of its id. -/

namespace SuperAdmin.ClientCache

open Effects Http Http.Handler Web

variable {d : Deps}

/-! ### Coherence -/

section coherence

variable (web : Http.Web) (q : Draws) (browser : RequestContext) (w w' : World d)

end coherence

/-- A call of the request shows in the journal of a client: its actor is stored, and an entry of now is
among the newest. -/
def Logs (w : World d) (req : Request) (id : UUID) : Prop :=
  (Confidential.callerClaims w req).any (fun claims => w.hasUser claims.userID) = true ∧ Shown w id

section success

variable {α : Type} {r : Draws} {w : World d}

theorem withInput_ok {input : Except Response α} {k : α → Proc Response} (hinput : Refuses input)
    (hok : ((withInput input k).run (exec d r) w).1.status < 400) : ∃ a, input = .ok a := by
  cases input with
  | error resp => exact absurd hok (not_lt_of_ge (hinput resp rfl))
  | ok a => exact ⟨a, rfl⟩

/-- A usecase whose answer is a success has succeeded. -/
theorem usecase_ok {p : Proc (Except Error α)} {k : α → Proc Response}
    (hok : ((p >>= fun res => respond res k).run (exec d r) w).1.status < 400) :
    ∃ a w', p.run (exec d r) w = (.ok a, w') ∧
      (p >>= fun res => respond res k).run (exec d r) w = (k a).run (exec d r) w' := by
  rw [Prog.run_bind] at hok ⊢
  generalize p.run (exec d r) w = res at hok
  obtain ⟨e | a, w'⟩ := res
  · exact absurd hok (not_lt_of_ge (Response.error_status e))
  · exact ⟨a, w', rfl, rfl⟩

end success

section changes

variable {web : Http.Web} {q : Draws} {browser : RequestContext} {w w' : World d}

section created

variable {t : SuperAdmin.Tenant} {T : TenantTable d} (hinsert : w.clients.tenants.insert? t = some T)
  (hclients : w'.clients = { w.clients with tenants := T }) (husers : w'.users = w.users)

include hinsert hclients

end created

/-! ### A deleted client -/

section deleted

variable {r : Draws} {id : UUID} {t : SuperAdmin.Tenant}
  (hfind : w.clients.tenants.find? (·.id == id) = some t)
  (hclients : w'.clients = (w.after r (.tenants (.delete id))).clients) (husers : w'.users = w.users)

include hclients

end deleted

end changes

/-! ### What the mutations leave -/

section mutations

variable {web : Http.Web} {q r : Draws} {browser : RequestContext} {w w' : World d}
  (huuid : Issuer.ReadsBackUUIDs d.issuer.uuidParse) (hids : ∀ e ∈ w.audit, e.id ≤ w.audit.length)
  {req : Request} {claims : AccessClaims} (hcaller : Confidential.callerClaims w req = some claims)
  {rc : RequestContext}

include huuid hids hcaller

end mutations

section requests

variable {web : Http.Web} {q r : Draws} {browser : RequestContext} {w : World d}
  (huuid : Issuer.ReadsBackUUIDs d.issuer.uuidParse) (hids : ∀ e ∈ w.audit, e.id ≤ w.audit.length)
  {authorization : String} {resp : Response} {w' : World d} (cache : ClientMutation.Cache)

include huuid hids

end requests

/-! ### An email that was free -/

/-- The form of a new client. -/
def form : NewClient where
  name := "Кафе"
  address := "Алматы, Абая 1"
  ownerName := "Владелец"
  phone := "+77012441803"
  email := "cafe@example.com"
  plan := "Growth"
  trialDays := 0

def anyEmail : Http.Web := ⟨fun _ => true⟩

end SuperAdmin.ClientCache
