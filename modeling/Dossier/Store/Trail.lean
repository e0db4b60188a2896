import Dossier.Store.Statement

/-!
# Evidence and audits in the store

What was handed out and what was done stays on record in the order in which it happened.
-/

namespace Dossier.Store

/-- Rows of evidence added one after the other.  A score has to be a number, and an identifier names
at most one row. -/
def addEvidence (held : List EvidenceEntry) :
    List EvidenceEntry → Except StoreError (List EvidenceEntry)
  | [] => .ok held
  | row :: rest =>
    if row.score.isNaN then .error (.violated .other)
    else if held.any (·.id == row.id) then .error (.violated .unique)
    else addEvidence (held ++ [row]) rest

/-- Adds rows of evidence with one statement, and with none if there are no rows. -/
def insertEvidence (rows : List EvidenceEntry) : StoreAction Unit :=
  if rows.isEmpty then pure ()
  else statement .insertEvidence fun s => do
    let evidence ← addEvidence s.evidence rows
    return ((), { s with evidence })

/-- The evidence of a pack of a tenant. -/
def listEvidence (tenant : String) (pack : Id) : StoreAction (List EvidenceEntry) :=
  reading .readEvidence fun s => s.evidence.filter fun row => row.tenant == tenant && row.pack == pack

/-- Adds an audit event. -/
def insertAudit (event : AuditEvent) : StoreAction Unit :=
  statement .insertAudit fun s =>
    if s.audits.any (·.id == event.id) then .error (.violated .unique)
    else .ok ((), { s with audits := s.audits ++ [{ event with details := event.details.reread }] })

/-- The audit events of an action for a tenant. -/
def listAudits (tenant action : String) : StoreAction (List AuditEvent) :=
  reading .readAudits fun s =>
    s.audits.filter fun event => event.tenant == tenant && event.action == action

end Dossier.Store
