import SuperAdmin.Access.Mediation
import SuperAdmin.Journal.Slice
import SuperAdmin.Journal.Walk
import SuperAdmin.Lib.Paging

/-! # Walking the journal while it grows

The pages of a walk are asked for one after the other, and between two of them the server writes the entries
of other requests.  These come in front of the others or, with the time of an earlier clock, among them: no
entry moves up, so a walk may show one twice but misses none that was there when it began. -/

namespace SuperAdmin.Growing

open Effects Http Http.Handler Walk

variable {d : Deps} {r : Draws} {req : Request} {f : AuditFilter}

/-! ### What the server does to the log -/

/-- The numbers of the entries are a key and within their count. -/
structure Numbered (log : List AuditEntry) : Prop where
  nodup : (log.map (·.id)).Nodup
  le_length : ∀ e ∈ log, e.id ≤ log.length

/-- The entries that the filter keeps, as the page from each offset finds them. -/
def found (worlds : ℕ → World d) (f : AuditFilter) (o : ℕ) : List AuditEntry := f.matching (worlds o).audit

/-- The items of collected entries. -/
def items (worlds : ℕ → World d) (collected : List (ℕ × AuditEntry)) : List Json :=
  collected.map fun p => Journal.toJournalEntryResponse (worlds p.1).listedUsers p.2

variable {worlds : ℕ → World d}

/-- The desk with three entries in its log. -/
def desk₃ : World Mediation.desk := { Mediation.deskWorld with audit := (Sample.logged 3).audit }

/-- The server before and after it has served the revocation. -/
def revoking (n : ℕ) : Pool Eff (World Mediation.desk) (Fin 1) Response :=
  Pool.play (fun _ => exec Mediation.desk (Sample.draws 0)) (List.replicate (if n = 0 then 0 else 9) 0)
    ⟨desk₃, fun _ => serve Mediation.desk ⟨fun _ => true⟩ Mediation.revokeRequest⟩

end SuperAdmin.Growing
