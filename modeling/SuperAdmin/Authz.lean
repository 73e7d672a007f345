import SuperAdmin.Domain
import Mathlib.Data.String.Basic

/-! # The policy table

`internal/pkg/authz`: what each role may do. -/

namespace SuperAdmin

/-- `domain.Subject`. -/
structure Subject where
  userID : String
  role : Role

namespace Authz

def crudActions : List Action := [.read, .create, .update, .delete]
def tenantActions : List Action := [.read, .create, .update, .delete, .suspend]
def ticketActions : List Action := [.read, .create, .update]
def readOnly : List Action := [.read]

/-- `defaultPolicy`: the rules of a role; a role that is no constant has none. -/
def defaultPolicy : Role → List (Resource × List Action)
  | .owner =>
      [(.tenant, tenantActions), (.supportTicket, crudActions), (.superAdmin, crudActions),
        (.auditLog, readOnly), (.metrics, readOnly), (.settings, crudActions)]
  | .admin =>
      [(.tenant, tenantActions), (.supportTicket, crudActions), (.superAdmin, readOnly),
        (.auditLog, readOnly), (.metrics, readOnly), (.settings, crudActions)]
  | .support =>
      [(.tenant, readOnly), (.supportTicket, ticketActions), (.metrics, readOnly),
        (.settings, readOnly)]
  | .viewer =>
      [(.tenant, readOnly), (.supportTicket, readOnly), (.auditLog, readOnly), (.metrics, readOnly),
        (.settings, readOnly)]
  | .unknown _ _ => []

/-- `Table.Can`. -/
def can (s : Subject) (res : Resource) (act : Action) : Bool :=
  (defaultPolicy s.role).any fun rule => rule.1 == res && rule.2.contains act

/-- `Table.Authorize`; `none` is the nil error. -/
def authorize (s : Subject) (res : Resource) (act : Action) : Option Error :=
  if can s res act then none else some (.sentinel .forbidden)

/-- `Table.Permissions`, sorted. -/
def permissions (role : Role) : List String :=
  ((defaultPolicy role).flatMap fun rule =>
    rule.2.map fun act => rule.1.string ++ ":" ++ act.string).mergeSort fun a b => decide (a ≤ b)

end Authz

end SuperAdmin
