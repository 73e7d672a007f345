import SuperAdmin.Clients.OpenTickets

/-! # The filter by assignee, in the browser and on the server

`TicketsPage.tsx` has a chip for every member of the team and keeps the tickets whose assignee has the name
on the chip; the server keeps the tickets whose assignee has the id that it is asked for.  Members of one
name share their tickets in the browser.  For tickets without an assignee the two filters are one. -/

namespace SuperAdmin.Assignee

open Effects Http Http.Handler Web

variable {d : Deps} (r : Draws) (browser : RequestContext) {w : World d}

/-! ### The chips and what they show -/

/-- `/tickets?assignee=value`. -/
def assigneeQuery (value : String) (name : String) : String := if name = "assignee" then value else ""

/-- The name of a `TeamMemberWire`. -/
def memberName : Json → Option String
  | .obj m => do
      let .str name ← m.lookup "name" | none
      some name
  | _ => none

/-- `assigneeNames`, of an answer to `/team`. -/
def assigneeNames (resp : Response) : Option (List String) :=
  match resp.body with
  | .data (.arr members) => members.mapM memberName
  | _ => none

/-- The tickets that the page shows with the status filter `all`. -/
def shown (w : World d) (assignee : String) : Option (List GlobalTicket) :=
  (fetchTickets d r browser (fun _ => "") w).map (filteredTickets "all" assignee)

theorem mapM_memberName (actorID : UUID) (members : List SuperAdminUser) :
    (members.map (Handler.Team.toTeamMemberResponse actorID)).mapM memberName =
      some (members.map SuperAdminUser.fullName) := by
  induction members with
  | nil => rfl
  | cons m members ih =>
      rw [List.map_cons, List.mapM_cons, ih]
      rfl

/-- Every active member has a chip. -/
theorem mem_assigneeNames (ctx : Context) {claims : AccessClaims} (hclaims : claimsFrom ctx = .ok claims)
    {m : SuperAdminUser} (hm : m ∈ w.users.rows) (hactive : m.status = .active) :
    ∃ names, assigneeNames ((Handler.Team.list ctx).run (exec d r) w).1 = some names ∧ m.fullName ∈ names := by
  have hlisted : m ∈ (w.users.rows.mergeSort fun a b => decide (a.createdAt ≤ b.createdAt)).filter
      fun u => u.status == .active :=
    List.mem_filter.mpr ⟨(List.mergeSort_perm _ _).mem_iff.mpr hm, beq_iff_eq.mpr hactive⟩
  refine ⟨_, ?_, List.mem_map.mpr ⟨m, hlisted, rfl⟩⟩
  rw [← mapM_memberName claims.userID]
  unfold Handler.Team.list withInput
  rw [hclaims]
  rfl

/-! ### The names behind the ids -/

theorem assigneeName_of_mem {u : SuperAdminUser} (hu : u ∈ w.users.rows) :
    (lookupsOf w).assigneeName (some u.id) = some u.fullName := by
  have hmem : ∀ x, x ∈ (lookupsOf w).users ↔ x ∈ w.users.rows := fun x => (List.mergeSort_perm _ _).mem_iff
  show ((lookupsOf w).users.find? (·.id == u.id)).map SuperAdminUser.fullName = _
  cases hfind : (lookupsOf w).users.find? (·.id == u.id) with
  | none =>
      have hfree := List.find?_eq_none.mp hfind u ((hmem u).mpr hu)
      exact absurd (beq_self_eq_true u.id) hfree
  | some x =>
      have hx := (hmem x).mp (List.mem_of_find?_eq_some hfind)
      have hid : x.id = u.id := eq_of_beq (List.find?_some (p := fun x : SuperAdminUser => x.id == u.id) hfind)
      rw [Option.map_some, Table.eq_of_clash (fun _ _ => EitherEq.symm) hx hu (.inl hid)]

/-- The assignee of a stored ticket is a stored user. -/
theorem exists_assignee (hkeys : w.TicketKeys) {t : SuperAdmin.Ticket} (ht : t ∈ w.clients.tickets.rows)
    {id : UUID} (hid : t.assigneeID = some id) : ∃ u ∈ w.users.rows, u.id = id := by
  have hstored := hkeys.assignee t ht
  rw [hid] at hstored
  obtain ⟨u, hu, heq⟩ := List.any_eq_true.mp hstored
  exact ⟨u, hu, eq_of_beq heq⟩

theorem mem_listed {f : TicketFilter} {t : SuperAdmin.Ticket} :
    t ∈ listed w f ↔ t ∈ w.clients.tickets.rows ∧ f.keeps t = true := by
  unfold listed
  rw [List.mem_filter, (List.mergeSort_perm _ _).mem_iff]

theorem filter_listed (f : TicketFilter) (w : World d) : (listed w {}).filter f.keeps = listed w f := by
  unfold listed
  rw [List.filter_filter]
  exact List.filter_congr fun t _ => by rw [OpenTickets.keeps_all, Bool.and_true]

/-- What the page shows, in terms of the tickets. -/
theorem shown_eq (w : World d) (assignee : String) : shown r browser w assignee =
    some (((listed w {}).filter fun t => assignee == "all" ||
      if assignee == "unassigned" then (lookupsOf w).assigneeName t.assigneeID == none
      else (lookupsOf w).assigneeName t.assigneeID == some assignee).map
        (GlobalTicket.ofTicket (lookupsOf w))) := by
  unfold shown filteredTickets
  rw [fetchTickets_eq r browser w (f := {}) rfl, Option.map_some, List.filter_map]
  rfl

/-! ### The requests -/

theorem parse_unassigned : Handler.Ticket.parseTicketFilter d (ticketsRequest (assigneeQuery "unassigned") browser) =
    .ok { onlyUnassigned := true } := rfl

theorem parse_assignee (huuid : Issuer.ReadsBackUUIDs d.issuer.uuidParse) (id : UUID) :
    Handler.Ticket.parseTicketFilter d (ticketsRequest (assigneeQuery id.string) browser) =
      .ok { assigneeID := some id } := by
  have hlength := Sample.string_length id
  have hread := huuid id
  have hquery : (ticketsRequest (assigneeQuery id.string) browser).query "assignee" = id.string := rfl
  have hstatus : (ticketsRequest (assigneeQuery id.string) browser).query "status" = "" := rfl
  have htenant : (ticketsRequest (assigneeQuery id.string) browser).query "tenant_id" = "" := rfl
  unfold Handler.Ticket.parseTicketFilter
  rw [hquery, hstatus, htenant]
  generalize id.string = text at hlength hread
  dsimp only
  split
  · rename_i hinvalid
    exact absurd rfl hinvalid.1
  split
  · exact absurd hlength (by decide)
  · exact absurd hlength (by decide)
  · rw [hread]
    rfl

/-! ### Where the two filters agree -/

/-- No ticket is assigned to another user of the name of `m`. -/
def OwnsName (w : World d) (m : SuperAdminUser) : Prop :=
  ∀ t ∈ w.clients.tickets.rows, ∀ u ∈ w.users.rows, t.assigneeID = some u.id → u.fullName = m.fullName →
    u.id = m.id

/-- A ticket is assigned to a user of this name. -/
def assignedTo (w : World d) (name : String) (t : SuperAdmin.Ticket) : Bool :=
  w.users.rows.any fun u => t.assigneeID == some u.id && u.fullName == name

theorem assignedTo_eq_true {name : String} {t : SuperAdmin.Ticket} : assignedTo w name t = true ↔
    ∃ u ∈ w.users.rows, t.assigneeID = some u.id ∧ u.fullName = name := by
  simp [assignedTo]

theorem shown_unassigned (hkeys : w.TicketKeys) :
    shown r browser w "unassigned" = fetchTickets d r browser (assigneeQuery "unassigned") w := by
  rw [shown_eq, fetchTickets_eq r browser w (parse_unassigned browser),
    ← filter_listed { onlyUnassigned := true }]
  congr 2
  refine List.filter_congr fun t ht => ?_
  cases hid : t.assigneeID with
  | none => simp [Handler.Ticket.Lookups.assigneeName, TicketFilter.keeps, hid]
  | some id =>
      obtain ⟨u, hu, rfl⟩ := exists_assignee hkeys (mem_listed.mp ht).1 hid
      simp [assigneeName_of_mem hu, TicketFilter.keeps, hid]

/-- A chip shows the tickets of all users of its name. -/
theorem shown_name (hkeys : w.TicketKeys) {name : String} (hall : name ≠ "all")
    (hunassigned : name ≠ "unassigned") : shown r browser w name =
      some (((listed w {}).filter (assignedTo w name)).map (GlobalTicket.ofTicket (lookupsOf w))) := by
  rw [shown_eq]
  congr 2
  refine List.filter_congr fun t ht => ?_
  rw [beq_false_of_ne hall, Bool.false_or, beq_false_of_ne hunassigned, if_neg Bool.false_ne_true,
    Bool.eq_iff_iff, assignedTo_eq_true]
  cases hid : t.assigneeID with
  | none => simp [Handler.Ticket.Lookups.assigneeName]
  | some id =>
      obtain ⟨u, hu, rfl⟩ := exists_assignee hkeys (mem_listed.mp ht).1 hid
      rw [assigneeName_of_mem hu, beq_iff_eq, Option.some.injEq]
      constructor
      · intro hname
        exact ⟨u, hu, rfl, hname⟩
      · rintro ⟨u', hu', hsame, rfl⟩
        rw [Table.eq_of_clash (fun _ _ => EitherEq.symm) hu hu' (.inl (Option.some.inj hsame))]

theorem shown_name_iff (huuid : Issuer.ReadsBackUUIDs d.issuer.uuidParse) (hkeys : w.TicketKeys)
    {m : SuperAdminUser} (hm : m ∈ w.users.rows) (hall : m.fullName ≠ "all")
    (hunassigned : m.fullName ≠ "unassigned") :
    shown r browser w m.fullName = fetchTickets d r browser (assigneeQuery m.id.string) w ↔ OwnsName w m := by
  rw [shown_name r browser hkeys hall hunassigned, fetchTickets_eq r browser w (parse_assignee browser huuid m.id),
    Option.some.injEq]
  constructor
  · intro hsame t ht u hu hassigned hname
    have hshown : GlobalTicket.ofTicket (lookupsOf w) t ∈
        ((listed w {}).filter (assignedTo w m.fullName)).map (GlobalTicket.ofTicket (lookupsOf w)) :=
      List.mem_map.mpr ⟨t, List.mem_filter.mpr ⟨mem_listed.mpr ⟨ht, rfl⟩,
        assignedTo_eq_true.mpr ⟨u, hu, hassigned, hname⟩⟩, rfl⟩
    rw [hsame] at hshown
    obtain ⟨t', ht', heq⟩ := List.mem_map.mp hshown
    obtain ⟨hrow, hkeeps⟩ := mem_listed.mp ht'
    have hstring := congrArg GlobalTicket.id heq
    rw [GlobalTicket.ofTicket_id, GlobalTicket.ofTicket_id] at hstring
    have hid : t'.id = t.id := huuid.string_inj hstring
    obtain rfl : t' = t := Table.eq_of_clash (fun _ _ => Eq.symm) hrow ht hid
    have hmine : t'.assigneeID = some m.id := by simpa [TicketFilter.keeps] using hkeeps
    rw [hassigned] at hmine
    exact Option.some.inj hmine
  · intro howns
    rw [← filter_listed { assigneeID := some m.id }]
    congr 1
    refine List.filter_congr fun t ht => ?_
    have hkeeps : ({ assigneeID := some m.id } : TicketFilter).keeps t = (t.assigneeID == some m.id) := by
      simp [TicketFilter.keeps]
    rw [hkeeps, Bool.eq_iff_iff, assignedTo_eq_true, beq_iff_eq]
    constructor
    · rintro ⟨u, hu, hassigned, hname⟩
      rw [hassigned, howns t (mem_listed.mp ht).1 u hu hassigned hname]
    · exact fun hassigned => ⟨m, hm, hassigned, rfl⟩

/-- The chip of a member shows the tickets assigned to a user of that name, which are those of the server
for the id of the member exactly if no other user of that name has one; without an assignee the two
filters show the same. -/
theorem assignee_filter (huuid : Issuer.ReadsBackUUIDs d.issuer.uuidParse) (hkeys : w.TicketKeys) :
    shown r browser w "unassigned" = fetchTickets d r browser (assigneeQuery "unassigned") w ∧
      ∀ m ∈ w.users.rows, m.status = .active → m.fullName ≠ "all" → m.fullName ≠ "unassigned" →
        shown r browser w m.fullName = some (((listed w {}).filter (assignedTo w m.fullName)).map
          (GlobalTicket.ofTicket (lookupsOf w))) ∧
        (shown r browser w m.fullName = fetchTickets d r browser (assigneeQuery m.id.string) w ↔ OwnsName w m) :=
  ⟨shown_unassigned r browser hkeys, fun _ hm _ hall hunassigned =>
    ⟨shown_name r browser hkeys hall hunassigned, shown_name_iff r browser huuid hkeys hm hall hunassigned⟩⟩

/-! ### Two members of one name -/

/-- A ticket of each member of the sample team, whose members have one name. -/
def oneName : World Sample.deps :=
  OpenTickets.withTickets ⟨[OpenTickets.ticket 1 .opened (some Sample.owner.id),
    OpenTickets.ticket 2 .opened (some Sample.support.id)], by decide⟩

theorem ticketKeys_oneName : oneName.TicketKeys := ⟨by decide, by decide⟩

theorem owner_mem : Sample.owner ∈ oneName.users.rows := by
  show Sample.owner ∈ [Sample.owner, Sample.support]
  exact List.mem_cons_self

theorem assignee_filter_one_name :
    shown (Sample.draws 0) Sample.context oneName "unassigned" =
        fetchTickets Sample.deps (Sample.draws 0) Sample.context (assigneeQuery "unassigned") oneName ∧
      shown (Sample.draws 0) Sample.context oneName "Имя" =
        some (((listed oneName {}).filter (assignedTo oneName "Имя")).map
          (GlobalTicket.ofTicket (lookupsOf oneName))) := by
  obtain ⟨hnone, hmembers⟩ := assignee_filter (d := Sample.deps) (Sample.draws 0) Sample.context
    Sample.readsBackUUIDs ticketKeys_oneName
  exact ⟨hnone, (hmembers Sample.owner owner_mem rfl (by decide) (by decide)).1⟩

/-- The chip of the owner shows the ticket of the other member. -/
theorem chip_shows_other_member : oneName.TicketKeys ∧ Sample.owner ∈ oneName.users.rows ∧
    Sample.owner.status = .active ∧
    shown (Sample.draws 0) Sample.context oneName Sample.owner.fullName ≠
      fetchTickets Sample.deps (Sample.draws 0) Sample.context (assigneeQuery Sample.owner.id.string) oneName := by
  refine ⟨ticketKeys_oneName, owner_mem, rfl, ?_⟩
  rw [Ne, shown_name_iff (d := Sample.deps) (Sample.draws 0) Sample.context Sample.readsBackUUIDs
    ticketKeys_oneName owner_mem (by decide) (by decide)]
  intro howns
  have hother := howns (OpenTickets.ticket 2 .opened (some Sample.support.id)) (by decide) Sample.support
    (by decide) rfl rfl
  revert hother
  decide

end SuperAdmin.Assignee
