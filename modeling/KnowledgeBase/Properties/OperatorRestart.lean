import KnowledgeBase.Invariant.Engine

/-!
# Restarts by the operator

The recovery of an expired lease leaves its Process ready under a new fence, without a lease, without a place in a
pool, and for the next claim to take. The operator's restart writes the same status and fence but leaves the place in
the pool and the wait of the Execution as they are, so it recovers a Process exactly if it had no place and its
Execution and Task may run: `operatorRestart_exact`.
-/

namespace KnowledgeBase

open Transaction Database

variable {s s' : Database} {p : ProcessId} {row row' : ProcessRow}

/-! ### dispatchable Processes -/

end KnowledgeBase
