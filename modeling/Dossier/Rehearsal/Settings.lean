import Dossier.Config.Types
import Dossier.Rehearsal.Script

/-!
# Settings of a rehearsal

A rehearsal keeps its store in memory and speaks to nobody outside.  Its settings may be changed
field by field, and so may the policy that it works under.
-/

namespace Dossier.Rehearsal

/-- The settings, as JSON. -/
def settings : Json := .obj [
  ("embedder", .obj [("base_backoff_ms", .nat 0)]),
  ("providers", .obj [("embedding", .obj [("api_base", .str "http://127.0.0.1:1"),
    ("api_key", .str "test-key"), ("dimensions", .nat 16), ("model", .str "test-embedding"),
    ("path", .str "/v1/embeddings"), ("provider_id", .str "test"), ("timeout_ms", .nat 1000)])]),
  ("service", .obj [("admin_bind", .str "127.0.0.1:0"), ("http_bind", .str "127.0.0.1:0"),
    ("log_level", .str "info")]),
  ("storage", .obj [("sqlite", .obj [("dsn", .str "sqlite::memory:"), ("pool_max_conns", .nat 4)])])]

/-- The configuration that the settings give once some of them are changed. -/
def config? (changes : Json) : Option Config := Config.ofJson (settings.overlay changes)

/-- How a policy behaves in a rehearsal. -/
inductive Stance where
  | standard
  /-- Permissions cannot be told. -/
  | failing (e : ServiceError)
  /-- Only records of another tenant may be seen. -/
  | confined (tenant : String)
  /-- The last redacted text is lost. -/
  | losing
  /-- Redacted texts come in reverse order. -/
  | reversing

namespace Stance

/-- Which records a principal may see. -/
def permissions (stance : Stance) (p : Principal) : Except ServiceError PermissionFilter :=
  match stance with
  | failing e => .error e
  | confined tenant => .ok ⟨tenant, .any⟩
  | _ => .ok (Policy.standardFilter p)

/-- How texts are handed out. -/
def redact (stance : Stance) (texts : List RedactionItem) : List RedactedItem :=
  let redacted := Policy.standardRedaction texts
  match stance with
  | losing => redacted.dropLast
  | reversing => redacted.reverse
  | _ => redacted

end Stance

/-- The service of a rehearsal. -/
def service (config : Config) (registry : Entity.Registry) (fresh : Nat → Id) (stance : Stance) :
    Service Rehearsal where
  config
  registry
  fresh
  embed := embed config.embedding.dimensions
  permissions p _ := stance.permissions p
  redact texts _ := .ok (stance.redact texts)
  audit
  entity

end Dossier.Rehearsal
