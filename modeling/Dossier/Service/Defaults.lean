import Dossier.Embedding.Client
import Dossier.Service.World

/-!
# The providers that come with a service

A service that is given no others has its texts embedded by the client of an embedding service,
follows the standard policy, accepts every audit event, which then stands in the store, and has no
source of entities.
-/

namespace Dossier

/-- The service with the providers that come with it; `client` says what a batch of texts comes to
at the embedding service. -/
def Service.withDefaults {σ : Type} (config : Config) (fresh : Nat → Id)
    (client : EmbeddingConfig → List String → Except Embedding.ClientError (List Vec)) :
    Service σ where
  config
  registry := .standard
  fresh
  embed texts o :=
    let outcome := (client config.embedding texts).mapError fun e =>
      ServiceError.provider (.reported e.message)
    ⟨outcome, fun s => s, false, o⟩
  permissions p _ := .ok (Policy.standardFilter p)
  redact items _ := .ok (Policy.standardRedaction items)
  audit _ o := (.ok (), o)
  entity _ _ o := (.ok none, o)

end Dossier
