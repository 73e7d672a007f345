import SuperAdmin.Usecase.Auth

/-! # The usecase of the team

`internal/usecase/team.go`. -/

namespace SuperAdmin.Usecase.Team

open Effects

/-- `invitationTTL`. -/
def invitationTTL : Duration := 7 * 24 * Duration.hour

/-- `invitableRoles`: everyone but the owner. -/
def invitableRoles : Role → Bool
  | .admin | .support | .viewer => true
  | .owner | .unknown _ _ => false

/-- `Team.List`. -/
def list : Proc (Except Error (List SuperAdminUser)) := do
  match ← perform (.users .list) with
  | .error e => return .error e
  | .ok all => return .ok (all.filter fun u => u.status == .active)

/-- `Team.Invite` once the email is known to be free. -/
def inviteFree (actor : AccessClaims) (email : String) (role : Role) (rc : RequestContext) :
    Proc (Except Error (Invitation × String)) := do
  match ← generateSecureToken with
  | .error e => return .error e
  | .ok rawToken =>
  let now ← perform .now
  let inv : Invitation := {
    id := UUID.nil
    email := email
    role := role
    tokenHash := hashToken rawToken
    invitedBy := some actor.userID
    expiresAt := now.add invitationTTL
    acceptedAt := none
    createdAt := Time.zero }
  match ← perform (.invites (.create inv)) with
  | .error e => return .error e
  | .ok inv =>
  writeAudit {
    actorID := some actor.userID
    actorEmail := actor.email
    action := AuditAction.superAdminInvited.string
    targetType := Resource.superAdmin.string
    metadata := [("email", email), ("role", role.string)]
    ip := rc.ip
    userAgent := rc.userAgent
    createdAt := now }
  return .ok (inv, rawToken)

/-- `Team.Invite`. -/
def invite (actor : AccessClaims) (email : String) (role : Role) (rc : RequestContext) :
    Proc (Except Error (Invitation × String)) := do
  if !invitableRoles role then return .error (.invalid "role" "недопустимая роль для приглашения")
  else
  match ← perform (.users (.getByEmail email)) with
  | .ok _ => return .error (.withf (.sentinel .conflict) "сотрудник с таким email уже в команде")
  | .error e =>
  if !e.is .notFound then return .error e
  else
  match ← perform (.invites (.hasPending email)) with
  | .error e => return .error e
  | .ok pending =>
  if pending then return .error (.withf (.sentinel .conflict) "этот сотрудник уже приглашён")
  else inviteFree actor email role rc

/-- `Team.UpdateRole`. -/
def updateRole (actor : AccessClaims) (memberID : UUID) (role : Role) (rc : RequestContext) :
    Proc (Except Error SuperAdminUser) := do
  if !invitableRoles role then return .error (.invalid "role" "недопустимая роль")
  else
  match ← perform (.users (.getByID memberID)) with
  | .error e => return .error e
  | .ok member =>
  if member.role = .owner then
    return .error (.withf (.sentinel .forbidden) "роль владельца изменить нельзя")
  else
  match ← perform (.users (.updateRole memberID role)) with
  | .error e => return .error e
  | .ok updated =>
  let now ← perform .now
  writeAudit {
    actorID := some actor.userID
    actorEmail := actor.email
    action := AuditAction.superAdminRoleChanged.string
    targetType := Resource.superAdmin.string
    targetID := memberID.string
    metadata := [("email", updated.email), ("from", member.role.string), ("to", role.string)]
    ip := rc.ip
    userAgent := rc.userAgent
    createdAt := now }
  return .ok updated

/-- `Team.Revoke`. -/
def revoke (actor : AccessClaims) (memberID : UUID) (rc : RequestContext) :
    Proc (Except Error Unit) := do
  match ← perform (.users (.getByID memberID)) with
  | .error e => return .error e
  | .ok member =>
  if member.role = .owner then
    return .error (.withf (.sentinel .forbidden) "у владельца нельзя отозвать доступ")
  else
  let now ← perform .now
  match ← perform (.users (.updateStatus memberID .suspended)) with
  | .error e => return .error e
  | .ok _ =>
  match ← perform (.tokens (.revokeAllForUser memberID RevokeReason.userDisabled now)) with
  | .error e => return .error e
  | .ok () =>
  writeAudit {
    actorID := some actor.userID
    actorEmail := actor.email
    action := AuditAction.superAdminAccessRevoked.string
    targetType := Resource.superAdmin.string
    targetID := memberID.string
    metadata := [("email", member.email)]
    ip := rc.ip
    userAgent := rc.userAgent
    createdAt := now }
  return .ok ()

end SuperAdmin.Usecase.Team
