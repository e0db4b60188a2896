/-!
# The schema of a store

The tables and indexes that a store is made of, and the statements that create them.
-/

namespace Dossier.Store

/-- A table: its columns with their types and rules, and rules of the whole table. -/
structure Table where
  name : String
  columns : List (String × String)
  rules : List String := []

/-- An index over columns of a table, of all rows or of those that meet a condition. -/
structure Index where
  name : String
  table : String
  columns : List String
  unique : Bool := false
  condition : Option String := none

/-- A part of a schema. -/
inductive SchemaItem where
  | table (t : Table)
  | index (i : Index)

/-- The statement that creates a table. -/
def Table.statement (t : Table) : String :=
  let lines := t.columns.map (fun (name, rule) => name ++ " " ++ rule) ++ t.rules
  "CREATE TABLE IF NOT EXISTS " ++ t.name ++ " (\n" ++
    ",\n".intercalate (lines.map fun line => "\t" ++ line) ++ "\n)"

/-- The longest statement that is written on one line. -/
def lineLimit : Nat := 90

/-- The statement that creates an index, on several lines if it is long. -/
def Index.statement (i : Index) : String :=
  let head := "CREATE " ++ (if i.unique then "UNIQUE " else "") ++ "INDEX IF NOT EXISTS " ++ i.name
  let target := "ON " ++ i.table ++ " (" ++ ", ".intercalate i.columns ++ ")"
  let parts := head :: target :: i.condition.toList.map ("WHERE " ++ ·)
  let line := " ".intercalate parts
  if line.length ≤ lineLimit then line else "\n\t".intercalate parts

/-- The statement that creates a part of a schema. -/
def SchemaItem.statement : SchemaItem → String
  | table t => t.statement
  | index i => i.statement

/-- Records. -/
def recordTable : Table where
  name := "knowledge_records"
  columns := [("record_id", "BLOB PRIMARY KEY"), ("tenant_id", "TEXT NOT NULL"),
    ("source_kind", "TEXT NOT NULL"), ("title", "TEXT NOT NULL"), ("raw_content", "TEXT NOT NULL"),
    ("normalized_content", "TEXT NOT NULL"), ("content_hash", "TEXT NOT NULL"),
    ("entity_kind", "TEXT NULL"), ("entity_id", "TEXT NULL"), ("owner_id", "TEXT NULL"),
    ("metadata", "TEXT NOT NULL DEFAULT '\x7b\x7d'"), ("deleted_at", "TEXT NULL"),
    ("created_at", "TEXT NOT NULL"), ("updated_at", "TEXT NOT NULL"), ("indexed_at", "TEXT NULL")]

/-- Chunks. -/
def chunkTable : Table where
  name := "knowledge_chunks"
  columns := [("chunk_id", "BLOB PRIMARY KEY"),
    ("record_id", "BLOB NOT NULL REFERENCES knowledge_records(record_id) ON DELETE CASCADE"),
    ("chunk_index", "INTEGER NOT NULL"), ("start_offset", "INTEGER NOT NULL"),
    ("end_offset", "INTEGER NOT NULL"), ("text", "TEXT NOT NULL"),
    ("token_count", "INTEGER NOT NULL"), ("embedding_status", "TEXT NOT NULL DEFAULT 'pending'"),
    ("last_error", "TEXT NULL"), ("created_at", "TEXT NOT NULL")]
  rules := ["UNIQUE (record_id, chunk_index)"]

/-- Vectors. -/
def vectorTable : Table where
  name := "chunk_vectors"
  columns := [("seq", "INTEGER PRIMARY KEY AUTOINCREMENT"),
    ("chunk_id", "BLOB NOT NULL REFERENCES knowledge_chunks(chunk_id) ON DELETE CASCADE"),
    ("tenant_id", "TEXT NOT NULL"), ("embedding_version", "TEXT NOT NULL"),
    ("embedding_dim", "INTEGER NOT NULL"), ("vec", "TEXT NOT NULL"),
    ("created_at", "TEXT NOT NULL")]
  rules := ["UNIQUE (chunk_id, tenant_id)"]

/-- Evidence. -/
def evidenceTable : Table where
  name := "evidence_records"
  columns := [("evidence_id", "BLOB PRIMARY KEY"), ("pack_id", "BLOB NOT NULL"),
    ("tenant_id", "TEXT NOT NULL"), ("record_id", "BLOB NOT NULL"), ("chunk_id", "BLOB NOT NULL"),
    ("method", "TEXT NOT NULL"), ("score", "REAL NOT NULL"), ("snippet", "TEXT NULL"),
    ("redacted", "INTEGER NOT NULL DEFAULT 0"), ("created_at", "TEXT NOT NULL")]

/-- Audit events. -/
def auditTable : Table where
  name := "audit_events"
  columns := [("event_id", "BLOB PRIMARY KEY"), ("tenant_id", "TEXT NOT NULL"),
    ("actor", "TEXT NOT NULL"), ("action", "TEXT NOT NULL"), ("entity_ref", "TEXT NULL"),
    ("outcome", "TEXT NOT NULL"), ("details", "TEXT NOT NULL DEFAULT '\x7b\x7d'"),
    ("created_at", "TEXT NOT NULL")]

/-- The whole schema. -/
def schema : List SchemaItem :=
  [ .table recordTable,
    .index ⟨"idx_knowledge_records_live_entity", "knowledge_records",
      ["tenant_id", "entity_kind", "entity_id"], true,
      some "deleted_at IS NULL AND entity_kind IS NOT NULL AND entity_id IS NOT NULL"⟩,
    .index ⟨"idx_knowledge_records_tenant", "knowledge_records", ["tenant_id", "record_id"], false,
      none⟩,
    .table chunkTable,
    .index ⟨"idx_knowledge_chunks_status", "knowledge_chunks", ["record_id", "embedding_status"],
      false, none⟩,
    .table vectorTable,
    .index ⟨"idx_chunk_vectors_tenant", "chunk_vectors", ["tenant_id"], false, none⟩,
    .table evidenceTable,
    .index ⟨"idx_evidence_records_pack", "evidence_records", ["pack_id"], false, none⟩,
    .table auditTable,
    .index ⟨"idx_audit_events_tenant_action", "audit_events",
      ["tenant_id", "action", "created_at"], false, none⟩ ]

/-- The statements that create the schema. -/
def schemaStatements : List String := schema.map SchemaItem.statement

end Dossier.Store
