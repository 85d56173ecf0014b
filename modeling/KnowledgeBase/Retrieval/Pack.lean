import KnowledgeBase.Serving.Inflation

/-!
# The context pack

`_pack` and `_pack_segment` of the retrieval service: the segments of the results in their order under one budget of
hits and one of characters. What `assert_safe_public_data` admits is a parameter.
-/

namespace KnowledgeBase

/-- `GenerationScopedCoordinate`. -/
structure UnitCoordinate where
  generation : ArtifactId
  unitId : Text
  granularity : Nat
  channel : VectorChannel
  deriving DecidableEq

inductive ContextTier
  | focusFragment | documentRoot
  deriving DecidableEq

/-- The fields of `RetrievalResult` that the pack reads. -/
structure RetrievalResult where
  coordinate : UnitCoordinate
  granularity : Nat
  payloadContent : Option Text
  payloadContentRef : Option Text
  inflationStatus : InflationStatus
  inflationRootCoordinate : Option UnitCoordinate
  inflationRootContent : Option Text
  inflationRootContentRef : Option Text
  deriving DecidableEq

/-- `PackSegment`. -/
structure PackSegment where
  tier : ContextTier
  coordinate : UnitCoordinate
  content : Option Text
  contentRef : Option Text
  deriving DecidableEq

/-- `PackView`. -/
structure PackView where
  text : Option Text
  segments : List PackSegment
  packHitCount : Nat
  packCharCount : Nat
  truncated : Bool
  deriving DecidableEq

/-- The budgets of the service, and which segments pass their validator. -/
structure PackBudget where
  maxHits : Nat
  maxChars : Nat
  isSafe : PackSegment → Bool

/-- The locals of `_pack`. -/
structure PackState where
  segments : List PackSegment := []
  textParts : List Text := []
  usedChars : Nat := 0
  includedHits : Nat := 0
  truncated : Bool := false
  packedRoots : List ArtifactId := []

/-- The refusal of a validator. -/
structure PackRefused where

namespace PackBudget

variable (B : PackBudget)

/-- The constructor of a segment with its validator. -/
def segment (tier : ContextTier) (coordinate : UnitCoordinate) (content contentRef : Option Text) :
    Except PackRefused PackSegment :=
  if B.isSafe ⟨tier, coordinate, content, contentRef⟩ then .ok ⟨tier, coordinate, content, contentRef⟩ else .error {}

/-- `_pack_segment`: the segment if there is one, its characters, and whether room was lacking. -/
def packSegment (tier : ContextTier) (coordinate : UnitCoordinate) (content contentRef : Option Text)
    (availableChars : Int) : Except PackRefused (Option PackSegment × Nat × Bool) :=
  if availableChars < 0 then .ok (none, 0, true)
  else
    match content with
    | none =>
      match contentRef with
      | none => .ok (none, 0, false)
      | some ref => (B.segment tier coordinate none (some ref)).map fun s => (some s, 0, false)
    | some content =>
      if availableChars = 0 then .ok (none, 0, true)
      else
        let included := content.take availableChars.toNat
        (B.segment tier coordinate (some included) none).map fun s =>
          (some s, included.length, decide (included.length < content.length))

/-- `if content: text_parts.append(content)`. -/
def appendText (parts : List Text) (content : Option Text) : List Text :=
  match content with
  | some t => if t.isEmpty then parts else parts ++ [t]
  | none => parts

/-- A packed segment is added to the locals. -/
def added (st : PackState) (s : PackSegment) (chars : Nat) (cut : Bool) : PackState :=
  { st with
    segments := st.segments ++ [s]
    textParts := appendText st.textParts s.content
    usedChars := st.usedChars + chars
    truncated := st.truncated || cut }

def focusTier (r : RetrievalResult) : ContextTier := if r.granularity = 0 then .documentRoot else .focusFragment

/-- The root of an included result, and whether the loop goes on to its check of the characters. -/
def packRoot (st : PackState) (r : RetrievalResult) : Except PackRefused (PackState × Bool) :=
  if r.inflationStatus = .attached ∨ r.inflationStatus = .truncated then
    match r.inflationRootCoordinate with
    | none => .ok ({ st with truncated := true }, false)
    | some root =>
      if st.packedRoots.contains root.generation then .ok (st, false)
      else
        let st := { st with packedRoots := st.packedRoots ++ [root.generation] }
        match B.packSegment .documentRoot root r.inflationRootContent r.inflationRootContentRef
          (B.maxChars - st.usedChars) with
        | .error e => .error e
        | .ok (none, _, _) => .ok ({ st with truncated := true }, true)
        | .ok (some s, chars, cut) => .ok (added st s chars cut, true)
  else .ok (st, true)

/-- The locals after the focus of a result. -/
def withFocus (st : PackState) (r : RetrievalResult) (s : PackSegment) (chars : Nat) (cut : Bool) : PackState :=
  let st := added st s chars cut
  { st with
    includedHits := st.includedHits + 1
    packedRoots := if r.granularity = 0 then st.packedRoots ++ [r.coordinate.generation] else st.packedRoots }

/-- One result. -/
def packResult (st : PackState) (r : RetrievalResult) : Except PackRefused (PackState × Bool) :=
  match B.packSegment (focusTier r) r.coordinate r.payloadContent r.payloadContentRef (B.maxChars - st.usedChars) with
  | .error e => .error e
  | .ok (none, _, _) => .ok ({ st with truncated := true }, false)
  | .ok (some s, chars, cut) => B.packRoot (withFocus st r s chars cut) r

/-- The loop of `_pack` over the results that are left. -/
def packLoop : PackState → List RetrievalResult → Except PackRefused PackState
  | st, [] => .ok st
  | st, r :: rest =>
    if B.maxHits ≤ st.includedHits then .ok { st with truncated := true }
    else
      match B.packResult st r with
      | .error e => .error e
      | .ok (st, checked) =>
        if checked = true ∧ B.maxChars ≤ st.usedChars ∧ rest ≠ [] then .ok { st with truncated := true }
        else packLoop st rest

/-- `"\n\n".join(parts)`. -/
def joinParts : List Text → Text
  | [] => []
  | [t] => t
  | t :: parts => t ++ ['\n', '\n'] ++ joinParts parts

/-- `_pack`. -/
def pack (results : List RetrievalResult) : Except PackRefused PackView :=
  (B.packLoop {} results).map fun st =>
    { text := if st.textParts.isEmpty then none else some (joinParts st.textParts)
      segments := st.segments
      packHitCount := st.includedHits
      packCharCount := st.usedChars
      truncated := st.truncated || decide (st.includedHits < results.length) }

end PackBudget

end KnowledgeBase
