import Dossier.Proofs.Retrieval.Summation
import Dossier.Proofs.Service.Pack

/-!
# The order of the terms

A search goes through the terms of its query in an order that is not its own choice.  The order
decides nothing but how the scores of chunks are rounded, so that a request has the same outcome in
another order that ranks alike (`Service.RanksAlike`); and every order does if no chunk of the
tenant holds more than two of the terms, for then the scores are the same.
-/

namespace Dossier

variable {σ : Type} {svc : Service σ} {w : World σ} {tenant query : String} {order : TermOrder}

namespace Service

/-- The service as it goes through the terms of every query in one order. -/
def inOrder (svc : Service σ) (order : TermOrder) : Service σ :=
  { svc with order := fun _ => order }

end Service

end Dossier
