import SuperAdmin.Audit.Clients
import SuperAdmin.Journal.Confidential
import SuperAdmin.Lib.Least
import SuperAdmin.Web.ClientSection

/-! # What the section about clients is told

The answers to the queries of the section in terms of the tables, and which of them a new client, a
deleted client and an entry of the journal change. -/

namespace SuperAdmin.ClientCache

open Effects Http Http.Handler Web

variable {d : Deps}

/-! ### The answers -/

section answers

/-- The tickets of a client, the last active first. -/
def ticketsOf (w : World d) (id : UUID) : List SuperAdmin.Ticket := listed w { tenantID := some id }

/-- The card of a client. -/
def cardOf (w : World d) (t : SuperAdmin.Tenant) : Json :=
  .obj (Tenant.toTenantResponse t ++ [
    ("address", .str t.address),
    ("owner_name", .str t.ownerName),
    ("phone", .str t.phone),
    ("email", .str t.email),
    ("open_tickets", .num (Tenant.openCount (.ok (ticketsOf w t.id)))),
    ("suspended_reason", .ofOption .str t.suspendedReason),
    ("activation_code", Tenant.toActivationCode t)])

/-- Whether a client has an email. -/
def emailTaken (w : World d) (email : String) : Bool :=
  w.clients.tenants.rows.any fun t => d.citextLower t.email == d.citextLower email

variable (web : Http.Web) (r : Draws) (browser : RequestContext) (w : World d)

end answers

/-! ### What the answers depend on -/

section frame

variable {w w' : World d}

end frame

/-! ### A new client -/

section created

variable {w w' : World d} {t : SuperAdmin.Tenant} {T : TenantTable d}
  (hinsert : w.clients.tenants.insert? t = some T)
  (hclients : w'.clients = { w.clients with tenants := T }) (husers : w'.users = w.users)

include hinsert hclients

omit hclients in
/-- Nobody had the email of the new client. -/
theorem emailTaken_before {email : String} (h : d.citextLower email = d.citextLower t.email) :
    emailTaken w email = false := by
  unfold emailTaken
  refine List.any_eq_false.mpr fun x hx hsame => ?_
  exact (Table.insert?_eq_some hinsert).2 x hx (.inr ((eq_of_beq hsame).trans h))

end created

/-! ### A deleted client -/

section deleted

variable {w w' : World d} {r : Draws} {id : UUID}
  (hclients : w'.clients = (w.after r (.tenants (.delete id))).clients) (husers : w'.users = w.users)

include hclients

end deleted

/-! ### An entry of the journal -/

section entries

/-- An entry that is written now is among the newest 200 about the client: fewer than 200 have a later
date. -/
def Shown (w : World d) (id : UUID) : Prop :=
  w.audit.countP (fun e => (Confidential.clientFilter id).keeps e && decide (w.clock.timestamptz < e.createdAt)) < 200

/-- Every call keeps the numbers of the entries within their count. -/
theorem exec_numbered (r : Draws) (op : Op) {w : World d} (h : ∀ x ∈ w.audit, x.id ≤ w.audit.length) :
    ∀ x ∈ (exec d r op w).2.audit, x.id ≤ (exec d r op w).2.audit.length := by
  by_cases hop : ∃ e, op = .audit e
  · obtain ⟨e, rfl⟩ := hop
    show ∀ x ∈ (w.writeAudit e).2.audit, x.id ≤ (w.writeAudit e).2.audit.length
    unfold World.writeAudit
    split
    · intro x hx
      rw [List.length_append]
      rcases List.mem_append.mp hx with hx | hx
      · exact Nat.le_succ_of_le (h x hx)
      · rw [List.mem_singleton.mp hx]
        exact le_rfl
    · exact h
  · rw [exec_audit r op w fun e he => hop ⟨e, he⟩]
    exact h

variable {w v : World d} (hclock : v.clock = w.clock) (husers : v.users = w.users) (haudit : v.audit = w.audit)
  {e : AuditEntry} {target : UUID} (htype : e.targetType = "tenant") (htarget : e.targetID = target.string)
  (hnow : e.createdAt = w.clock) (hids : ∀ x ∈ w.audit, x.id ≤ w.audit.length)

end entries

end SuperAdmin.ClientCache
