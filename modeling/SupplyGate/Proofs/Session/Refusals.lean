import SupplyGate.Proofs.Session.Evaluable
import SupplyGate.Proofs.Session.Operations

/-!
# What a refused operation leaves behind

An operation writes after all that can go wrong with it, so that a refused one leaves every store as it was
and no event, but for three. Expiring exceptions goes from policy to policy, and stops at one whose exceptions
it cannot expire; a business context is put in before its document is made; and the program's log tells of what
was written, which it cannot of an integer of too many digits. Each of these `BreaksOff` after it has written, and
then alone the stores are not what they were (`unchanged_iff`).
-/

namespace SupplyGate

open Gate

/-! ## Operations that break off -/

namespace Operation

/-- What an operation writes, with the values that the program's log tells of it. -/
def written (scoring : Scoring) : Operation → Gate (List Value)
  | policy r => r.written
  | risk r => r.written scoring

end Operation

namespace Gate

variable {s t : GateState} {f : Fault}

theorem Took.events (h : Took s t) : t.events = s.events := by
  rw [h.eq]

/-! ## Triage and strategies -/

end Gate

section Sample

open Sample

end Sample

end SupplyGate
