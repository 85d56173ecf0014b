import KnowledgeBase.Retrieval.Pack
import Mathlib.Algebra.GroupWithZero.Nat

/-!
# The law of the context pack

A pack is described by what each result contributes: nothing, its focus, or its focus and its document root. The
description follows the results, and says what was lost of each of them.
-/

namespace KnowledgeBase

/-- What a result contributes to a pack. -/
structure PackedHit where
  focus : PackSegment
  root : Option PackSegment

namespace PackedHit

/-- The segments of a result, none if it is left out. -/
def segments : Option PackedHit → List PackSegment
  | none => []
  | some h => h.focus :: h.root.toList

end PackedHit

variable {B : PackBudget} {st st' : PackState} {r : RetrievalResult} {rs : List RetrievalResult}
  {roots : List ArtifactId} {tier : ContextTier} {coordinate : UnitCoordinate} {content ref : Option Text}
  {available : Int} {s : PackSegment} {n : Nat} {cut : Bool}

/-- What holds of the locals before a result. -/
structure Ready (B : PackBudget) (st : PackState) (roots : List ArtifactId) : Prop where
  charsLe : st.usedChars ≤ B.maxChars
  known : roots ⊆ st.packedRoots
  exact_ : st.truncated = true ∨ st.packedRoots ⊆ roots

end KnowledgeBase
