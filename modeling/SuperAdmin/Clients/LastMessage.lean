import SuperAdmin.Sample
import Mathlib.Order.Bounds.Basic

/-! # The time of the last message

`last_message_at` of a ticket is kept by a trigger that copies the time of the message just inserted.
That is the time of the latest message exactly as long as the messages of a ticket arrive in the order
of their times. -/

namespace SuperAdmin.LastMessage

open Effects

variable {d : Deps} {hasUser : UUID → Bool}

/-! ### An insert with its trigger -/

/-- `INSERT INTO support_ticket_messages` of a row, whoever sends it, with the trigger
`touch_ticket_last_message`. -/
def insertMessage (hasUser : UUID → Bool) (row : TicketMessage) (c : Clients d) :
    Except Error (Clients d) :=
  match c.messages.insert? row with
  | none => .error (uniqueViolation "support_ticket_messages_pkey")
  | some messages =>
      if c.tickets.rows.any (·.id == row.ticketID) && row.authorID.all hasUser then
        .ok { c with
          messages := messages
          tickets := c.tickets.update (·.id == row.ticketID)
            (fun t => { t with lastMessageAt := row.sentAt }) fun _ => rfl }
      else .error (foreignKeyViolation "support_ticket_messages_ticket_id_fkey")

/-- `TicketRepo.AddMessage` inserts a row with the time of its transaction. -/
theorem exec_addMessage (rowID : UUID) (clock : Time) (m : TicketMessage) (c : Clients d) :
    TicketsOp.exec d hasUser rowID clock (.addMessage m) c =
      match insertMessage hasUser { m with id := rowID, sentAt := clock.timestamptz } c with
      | .error e => (.error e, c)
      | .ok c' => (.ok { m with id := rowID, sentAt := clock.timestamptz }, c') := by
  unfold insertMessage
  simp only [TicketsOp.exec]
  cases c.messages.insert? { m with id := rowID, sentAt := clock.timestamptz } with
  | none => rfl
  | some messages =>
      dsimp only
      split <;> rfl

/-- The tables after an insert; one that fails changes nothing. -/
def inserted (hasUser : UUID → Bool) (row : TicketMessage) (c : Clients d) : Clients d :=
  (insertMessage hasUser row c).toOption.getD c

/-! ### The latest message -/

/-- The times of the messages of a ticket. -/
def sentTimes (c : Clients d) (ticketID : UUID) : Set Time :=
  {s | ∃ m ∈ c.messages.rows, m.ticketID = ticketID ∧ m.sentAt = s}

/-- Every ticket with a message has the time of its latest one. -/
def LatestKept (c : Clients d) : Prop :=
  ∀ t ∈ c.tickets.rows, (sentTimes c t.id).Nonempty →
    IsGreatest (sentTimes c t.id) t.lastMessageAt

/-- `TicketRepo.List` returns the tickets by their latest messages, latest first. -/
def ListedByActivity (hasUser : UUID → Bool) (c : Clients d) : Prop :=
  ∀ rowID clock f tickets,
    (TicketsOp.exec d hasUser rowID clock (.list f) c).1 = .ok tickets →
    tickets.Pairwise fun a b => ∀ sa sb, IsGreatest (sentTimes c a.id) sa →
      IsGreatest (sentTimes c b.id) sb → sb ≤ sa

theorem listedByActivity {c : Clients d} (hc : LatestKept c) :
    ListedByActivity hasUser c := by
  intro rowID clock f tickets hlist
  have htickets : (c.tickets.rows.mergeSort fun a b =>
      decide (b.lastMessageAt ≤ a.lastMessageAt)).filter f.keeps = tickets := Except.ok.inj hlist
  have hsorted : (c.tickets.rows.mergeSort fun a b =>
      decide (b.lastMessageAt ≤ a.lastMessageAt)).Pairwise
      fun a b => decide (b.lastMessageAt ≤ a.lastMessageAt) = true := by
    apply List.pairwise_mergeSort
    · intro a b e hab hbe
      simp only [decide_eq_true_eq] at hab hbe ⊢
      exact le_trans hbe hab
    · intro a b
      simp only [Bool.or_eq_true, decide_eq_true_eq]
      exact le_total _ _
  have hmem : ∀ t ∈ tickets, t ∈ c.tickets.rows := by
    intro t ht
    rw [← htickets] at ht
    exact List.mem_mergeSort.mp (List.mem_of_mem_filter ht)
  have hpairs := hsorted.filter f.keeps
  rw [htickets] at hpairs
  refine hpairs.imp_of_mem fun {a b} ha hb hle sa sb hsa hsb => ?_
  have hla := hc a (hmem a ha) ⟨sa, hsa.1⟩
  have hlb := hc b (hmem b hb) ⟨sb, hsb.1⟩
  rw [hsa.unique hla, hsb.unique hlb]
  exact of_decide_eq_true hle

/-! ### One insert -/

/-- No message of the ticket is later than the row. -/
def Latest (row : TicketMessage) (c : Clients d) : Prop :=
  row.sentAt ∈ upperBounds (sentTimes c row.ticketID)

theorem insertMessage_ok {row : TicketMessage} {c c' : Clients d}
    (h : insertMessage hasUser row c = .ok c') :
    c'.messages.rows = c.messages.rows ++ [row] ∧
      c'.tickets.rows = c.tickets.rows.map (fun t =>
        if t.id == row.ticketID then { t with lastMessageAt := row.sentAt } else t) ∧
      ∃ t ∈ c.tickets.rows, t.id = row.ticketID := by
  unfold insertMessage at h
  split at h
  · cases h
  · rename_i messages hinsert
    split at h
    · rename_i hkeys
      cases h
      obtain ⟨hticket, -⟩ := Bool.and_eq_true_iff.mp hkeys
      obtain ⟨t, ht, hid⟩ := List.any_eq_true.mp hticket
      exact ⟨(Table.insert?_eq_some hinsert).1, rfl, t, ht, eq_of_beq hid⟩
    · cases h

theorem sentTimes_insert {row : TicketMessage} {c c' : Clients d}
    (h : insertMessage hasUser row c = .ok c') (ticketID : UUID) :
    sentTimes c' ticketID =
      if row.ticketID = ticketID then insert row.sentAt (sentTimes c ticketID)
      else sentTimes c ticketID := by
  obtain ⟨hmessages, -, -⟩ := insertMessage_ok h
  ext s
  unfold sentTimes
  rw [hmessages]
  split
  · rename_i hid
    constructor
    · rintro ⟨m, hm, hticket, hs⟩
      rcases List.mem_append.mp hm with hold | hnew
      · exact .inr ⟨m, hold, hticket, hs⟩
      · rw [List.mem_singleton.mp hnew] at hs
        exact .inl hs.symm
    · rintro (rfl | ⟨m, hm, hticket, hs⟩)
      · exact ⟨row, List.mem_append_right _ (List.mem_singleton_self row), hid, rfl⟩
      · exact ⟨m, List.mem_append_left _ hm, hticket, hs⟩
  · rename_i hid
    constructor
    · rintro ⟨m, hm, hticket, hs⟩
      rcases List.mem_append.mp hm with hold | hnew
      · exact ⟨m, hold, hticket, hs⟩
      · rw [List.mem_singleton.mp hnew] at hticket
        exact absurd hticket hid
    · rintro ⟨m, hm, hticket, hs⟩
      exact ⟨m, List.mem_append_left _ hm, hticket, hs⟩

/-- A row that is the latest of its ticket keeps every ticket right. -/
theorem latestKept_insert {row : TicketMessage} {c c' : Clients d}
    (h : insertMessage hasUser row c = .ok c') (hc : LatestKept c) (hrow : Latest row c) :
    LatestKept c' := by
  obtain ⟨-, htickets, -⟩ := insertMessage_ok h
  intro t ht hsome
  rw [htickets] at ht
  obtain ⟨v, hv, rfl⟩ := List.mem_map.mp ht
  by_cases hid : v.id = row.ticketID
  · rw [if_pos (beq_iff_eq.mpr hid)]
    dsimp only
    rw [sentTimes_insert h, if_pos hid.symm, hid]
    refine ⟨Set.mem_insert _ _, ?_⟩
    rintro s (rfl | hs)
    · exact le_refl _
    · exact hrow hs
  · have hother : ¬ (v.id == row.ticketID) = true := fun hbeq => hid (eq_of_beq hbeq)
    rw [if_neg hother] at hsome ⊢
    rw [sentTimes_insert h, if_neg fun h' => hid h'.symm] at hsome ⊢
    exact hc v hv hsome

/-- After the insert of a row that is not the latest of its ticket, that ticket has the wrong time. -/
theorem not_latestKept_insert {row : TicketMessage} {c c' : Clients d}
    (h : insertMessage hasUser row c = .ok c') (hrow : ¬ Latest row c) : ¬ LatestKept c' := by
  obtain ⟨-, htickets, v, hv, hid⟩ := insertMessage_ok h
  intro hkept
  have hmem : { v with lastMessageAt := row.sentAt } ∈ c'.tickets.rows := by
    rw [htickets]
    exact List.mem_map.mpr ⟨v, hv, if_pos (beq_iff_eq.mpr hid)⟩
  have htimes : sentTimes c' v.id = insert row.sentAt (sentTimes c row.ticketID) := by
    rw [sentTimes_insert h, if_pos hid.symm, hid]
  have hgreatest := hkept _ hmem (by
    show (sentTimes c' v.id).Nonempty
    rw [htimes]
    exact Set.insert_nonempty _ _)
  have hbound : row.sentAt ∈ upperBounds (sentTimes c' v.id) := hgreatest.2
  rw [htimes] at hbound
  exact hrow fun s hs => hbound (Set.mem_insert_of_mem _ hs)

/-! ### Sequences of inserts -/

/-- `P` holds after every insert of a sequence. -/
def AfterEach (hasUser : UUID → Bool) (P : Clients d → Prop) : List TicketMessage → Clients d → Prop
  | [], _ => True
  | row :: rows, c => P (inserted hasUser row c) ∧ AfterEach hasUser P rows (inserted hasUser row c)

/-- Every row of a sequence that is accepted is the latest of its ticket. -/
def InOrder (hasUser : UUID → Bool) : List TicketMessage → Clients d → Prop
  | [], _ => True
  | row :: rows, c => ((insertMessage hasUser row c).isOk = true → Latest row c) ∧
      InOrder hasUser rows (inserted hasUser row c)

/-- After every insert of a sequence, every ticket has the time of its latest message and the tickets are
listed by it, if and only if each inserted message is the latest of its ticket. -/
theorem last_message_iff {rows : List TicketMessage} {c : Clients d} (hc : LatestKept c) :
    AfterEach hasUser (fun c' => LatestKept c' ∧ ListedByActivity hasUser c') rows c ↔
      InOrder hasUser rows c := by
  induction rows generalizing c with
  | nil => exact Iff.rfl
  | cons row rows ih =>
      rw [AfterEach, InOrder]
      cases hinsert : insertMessage hasUser row c with
      | error e =>
          have hsame : inserted hasUser row c = c := by rw [inserted, hinsert]; rfl
          rw [hsame, ih hc]
          constructor
          · exact fun h => ⟨fun hok => (by cases hok), h.2⟩
          · exact fun h => ⟨⟨hc, listedByActivity hc⟩, h.2⟩
      | ok c' =>
          have hnext : inserted hasUser row c = c' := by rw [inserted, hinsert]; rfl
          rw [hnext]
          constructor
          · rintro ⟨⟨hkept, -⟩, hrest⟩
            refine ⟨fun _ => ?_, (ih hkept).mp hrest⟩
            by_contra hrow
            exact not_latestKept_insert hinsert hrow hkept
          · rintro ⟨hrow, hrest⟩
            have hkept := latestKept_insert hinsert hc (hrow rfl)
            exact ⟨⟨hkept, listedByActivity hkept⟩, (ih hkept).mpr hrest⟩

/-- A client with one ticket. -/
def oneTicket : Clients Sample.deps where
  tenants := Table.empty
  tickets := ⟨[{
    id := 7
    tenantID := 5
    subject := "Не приходит код"
    status := .opened
    priority := .normal
    assigneeID := none
    contactName := "Контакт"
    lastMessageAt := Sample.start
    createdAt := Sample.start }], List.pairwise_singleton _ _⟩
  messages := Table.empty

/-- A message of the client, some minutes after the ticket was opened. -/
def clientMessage (id : UUID) (minutes : Duration) : TicketMessage where
  id := id
  ticketID := 7
  author := .client
  authorName := "Контакт"
  authorID := none
  body := "Ждём обновления."
  sentAt := Sample.start.add (minutes * Duration.minute)

theorem latestKept_oneTicket : LatestKept oneTicket := by
  rintro t - ⟨s, m, hm, -⟩
  cases hm

/-- Two messages in the order of their times. -/
theorem last_message_in_order :
    AfterEach (fun _ => true) (fun c => LatestKept c ∧ ListedByActivity (fun _ => true) c)
      [clientMessage 1 5, clientMessage 2 10] oneTicket := by
  refine (last_message_iff latestKept_oneTicket).mpr ⟨fun _ => ?_, fun _ => ?_, trivial⟩
  · rintro s ⟨m, hm, -⟩
    cases hm
  · have hearlier : ∀ m ∈ (inserted (fun _ => true) (clientMessage 1 5) oneTicket).messages.rows,
        m.sentAt ≤ (clientMessage 2 10).sentAt := by decide
    rintro s ⟨m, hm, -, rfl⟩
    exact hearlier m hm

/-- A message that arrives late moves the time of its ticket back. -/
theorem late_message_moves_back :
    ¬ ∀ (d : Deps) (hasUser : UUID → Bool) (c : Clients d) (rows : List TicketMessage),
      c.messages.rows = [] → AfterEach hasUser LatestKept rows c := by
  intro hclaim
  obtain ⟨-, hkept, -⟩ := hclaim Sample.deps (fun _ => true) oneTicket
    [clientMessage 1 10, clientMessage 2 5] rfl
  have hticket : ∃ t ∈ (inserted (fun _ => true) (clientMessage 2 5)
      (inserted (fun _ => true) (clientMessage 1 10) oneTicket)).tickets.rows,
      t.id = 7 ∧ t.lastMessageAt < (clientMessage 1 10).sentAt := by decide
  have hmessage : clientMessage 1 10 ∈ (inserted (fun _ => true) (clientMessage 2 5)
      (inserted (fun _ => true) (clientMessage 1 10) oneTicket)).messages.rows := by decide
  obtain ⟨t, ht, hid, hlt⟩ := hticket
  have hsent : (clientMessage 1 10).sentAt ∈ sentTimes (inserted (fun _ => true) (clientMessage 2 5)
      (inserted (fun _ => true) (clientMessage 1 10) oneTicket)) t.id := ⟨_, hmessage, hid.symm, rfl⟩
  exact absurd ((hkept t ht ⟨_, hsent⟩).2 hsent) (not_le_of_gt hlt)

end SuperAdmin.LastMessage
