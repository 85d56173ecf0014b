import KnowledgeBase.Library.Text
import KnowledgeBase.Serving.Search

/-!
# Document inflation

The search attaches to a hit the original of its document root, looked up among the published vector records of the
hit's generation by the granularity that a unit's identity spells. The body port is a function of the row and the
channel.
-/

namespace KnowledgeBase

open Checked Relational

/-! ### the granularity of an identity -/

/-- The separators of the patterns. -/
def isSeparator (c : Char) : Bool := c == '.' || c == '_' || c == ':' || c == '/' || c == '-'

/-- A letter of a pattern that ignores case. -/
def foldsTo (p c : Char) : Bool := c.toLower == p || (p == 'i' && (c == 'İ' || c == 'ı'))

/-- What follows the word, which is matched without regard to case. -/
def stripWord : Text → Text → Option Text
  | [], t => some t
  | _ :: _, [] => none
  | p :: word, c :: t => if foldsTo p c then stripWord word t else none

/-- `([012])` before a separator or the end. -/
def digitAt : Text → Option Nat
  | [] => none
  | d :: rest =>
    if (d == '0' || d == '1' || d == '2') && (rest == [] || rest == ['\n'] || rest.head?.any isSeparator) then
      some (d.toNat - '0'.toNat)
    else none

/-- `[=_:-]?([012])` before a separator or the end. -/
def digitAfter (t : Text) : Option Nat :=
  (digitAt t).or (match t with
    | [] => none
    | c :: rest => if c == '=' || c == '_' || c == ':' || c == '-' then digitAt rest else none)

/-- `g(?:ranularity)?[=_:-]?([012])` before a separator or the end. -/
def granularityAt (t : Text) : Option Nat :=
  (stripWord "g".toList t).bind fun rest =>
    ((stripWord "ranularity".toList rest).bind digitAfter).or (digitAfter rest)

/-- The same behind a separator, at the first place it matches. -/
def granularityBehind : Text → Option Nat
  | [] => none
  | c :: rest => if isSeparator c then (granularityAt rest).or (granularityBehind rest) else granularityBehind rest

/-- `^(?:granularity[=_:-]?)?([012])` before a separator or the end. -/
def granularityPrefix (t : Text) : Option Nat := ((stripWord "granularity".toList t).bind digitAfter).or (digitAt t)

/-- `_infer_granularity`. -/
def inferGranularity (casefold : Text → Text) (unitId : Text) : Nat :=
  match ((granularityAt unitId).or (granularityBehind unitId)).or (granularityPrefix unitId) with
  | some g => g
  | none =>
    if ["root".toList, "document".toList, "full".toList].any (casefold unitId).hasSub then 0
    else if ["leaf".toList, "sentence".toList, "paragraph".toList, "fragment".toList].any (casefold unitId).hasSub then 2
    else 1

/-! ### inflation -/

inductive InflationStatus
  | notRequested | attached | missing | truncated | skipped
deriving DecidableEq

/-- A body that the port has loaded, or a fallback reference. -/
structure Material where
  content : Option Text
  contentRef : Option Text
  granularity : Option Int
deriving DecidableEq

def Material.available (m : Material) : Bool := m.content.isSome || m.contentRef.isSome

/-- A hit with what inflation adds to it. -/
structure ResultWork where
  candidate : Candidate
  granularity : Int
  inflationStatus : InflationStatus
  inflationRoot : Option (ArtifactId × Nat)
  inflationContent : Option Text
  inflationContentRef : Option Text
deriving DecidableEq

/-- The service's limits, the text of a unit's symbol, the filters besides the channel, and the body port. -/
structure Inflation where
  maxRoots : Nat
  perRootMaxChars : Nat
  unitName : Nat → Text
  casefold : Text → Text
  filters : VectorRecordRow → ItemRow → Bool
  loadMaterial : Candidate → VectorChannel → Except MkbError Material

namespace Inflation

/-- The first fetched row of the generation whose identity spells granularity 0. -/
def root? (f : Inflation) (rows : List Candidate) (generation : ArtifactId) : Option Candidate :=
  rows.find? fun row => row.generationArtifact == generation && inferGranularity f.casefold (f.unitName row.unitId) == 0

/-- One item, after the generations attached so far. -/
def inflateItem (f : Inflation) (rows : List Candidate) (attached : List ArtifactId) (item : ResultWork) :
    Except MkbError (List ArtifactId × ResultWork) :=
  let generation := item.candidate.generationArtifact
  if item.granularity = 0 then .ok (attached, item)
  else match f.root? rows generation with
  | none => .ok (attached, { item with inflationStatus := .missing })
  | some root =>
    if !attached.contains generation && decide (f.maxRoots ≤ attached.length) then
      .ok (attached, { item with inflationStatus := .skipped })
    else do
      let material ← f.loadMaterial root .original
      if !material.available then return (attached, { item with inflationStatus := .missing })
      else if material.granularity.getD (inferGranularity f.casefold (f.unitName root.unitId)) ≠ 0 then
        return (attached, { item with inflationStatus := .missing })
      else
        let isLong := material.content.any fun content => decide (f.perRootMaxChars < content.length)
        return (if attached.contains generation then attached else attached ++ [generation],
          { item with
            inflationRoot := some (generation, root.unitId)
            inflationContent :=
              if isLong then material.content.map fun content => content.take f.perRootMaxChars else material.content
            inflationContentRef := material.contentRef
            inflationStatus := if isLong then .truncated else .attached })

def inflateItems (f : Inflation) (rows : List Candidate) : List ArtifactId → List ResultWork →
    Except MkbError (List ResultWork)
  | _, [] => .ok []
  | attached, item :: work => do
    let r ← f.inflateItem rows attached item
    let rest ← f.inflateItems rows r.1 work
    return r.2 :: rest

/-- The scan for the originals of the generations. -/
def query (f : Inflation) (q : SearchInput) (targets : List ArtifactId) : SearchInput :=
  { q with filters := fun r i => f.filters r i && targets.contains r.generationArtifact && r.channel == .original }

/-- `_inflate_documents`. -/
def inflateDocuments (f : Inflation) (s : Serving) (q : SearchInput) (work : List ResultWork) :
    Except MkbError (List ResultWork) :=
  let targets := ((work.filter fun item => item.granularity != 0).map fun item =>
    item.candidate.generationArtifact).dedup
  if targets.isEmpty || f.maxRoots == 0 then .ok work
  else match s.fetchCandidateRows (f.query q targets) with
  | .error _ => .ok (work.map fun item =>
      if item.granularity ≠ 0 then { item with inflationStatus := .missing } else item)
  | .ok rows => f.inflateItems rows [] work

end Inflation

end KnowledgeBase
