import KnowledgeBase.Lsrag.Cuts
import KnowledgeBase.Serving.Rows

/-!
# Revision semantics

The ten registered semantics of a Revision, their fingerprint, and what a metadata update makes of them: admission
compares the submitted values one by one, acquisition and acceptance merge them and derive the two metadata blobs
again. A digest of a value stands for the value, and the JSON text of a blob for the blob.
-/

namespace KnowledgeBase

/-- `DEFAULT_SEMANTICS`, by key. -/
inductive SemanticKey
  | canonicalContent | channel | contextMetadata | contextTags | filterMetadata | isActive | realm | sourceName
  | sourceRepresentation | type
deriving DecidableEq

inductive SemanticValueKind
  | text | int
deriving DecidableEq

/-- A row of `mkb_intake_semantic_definitions`. -/
structure SemanticDefinition where
  semanticKey : SemanticKey
  definitionVersion : Nat
  valueKind : SemanticValueKind
  fingerprintParticipation : Bool
deriving DecidableEq

/-- The row the registry writes for a key: `v1`, which takes part in the fingerprint. -/
def SemanticKey.definition : SemanticKey → SemanticDefinition
  | .isActive => ⟨.isActive, 1, .int, true⟩
  | key => ⟨key, 1, .text, true⟩

/-- The registered definitions in the order of their keys. -/
def semanticDefinitions : List SemanticDefinition :=
  [.canonicalContent, .channel, .contextMetadata, .contextTags, .filterMetadata, .isActive, .realm, .sourceName,
    .sourceRepresentation, .type].map SemanticKey.definition

structure FilterMeta where
  realm : Text
  type : Text
  channel : Text
  sourceName : Text
  isActive : Int
deriving DecidableEq

structure ContextMeta where
  realm : Text
  type : Text
  channel : Text
  sourceName : Text
  title : Text
  tags : List Text
deriving DecidableEq

inductive SemanticValue
  | text (t : Text)
  | int (n : Int)
  | filterBlob (filter : FilterMeta)
  | contextBlob (context : ContextMeta)
deriving DecidableEq

/-- The values of a Revision. -/
structure RevisionSemantics where
  sourceRepresentation : Text
  canonicalContent : Text
  contextMetadata : ContextMeta
  filterMetadata : FilterMeta
  realm : Text
  type : Text
  channel : Text
  sourceName : Text
  isActive : Int
  contextTags : Text
deriving DecidableEq

namespace RevisionSemantics

def value (s : RevisionSemantics) : SemanticKey → SemanticValue
  | .canonicalContent => .text s.canonicalContent
  | .channel => .text s.channel
  | .contextMetadata => .contextBlob s.contextMetadata
  | .contextTags => .text s.contextTags
  | .filterMetadata => .filterBlob s.filterMetadata
  | .isActive => .int s.isActive
  | .realm => .text s.realm
  | .sourceName => .text s.sourceName
  | .sourceRepresentation => .text s.sourceRepresentation
  | .type => .text s.type

/-- `_semantic_fingerprint`: the participating entries in the order of their keys. -/
def fingerprint (s : RevisionSemantics) : List (SemanticKey × Nat × SemanticValue) :=
  (semanticDefinitions.filter SemanticDefinition.fingerprintParticipation).map fun d =>
    (d.semanticKey, d.definitionVersion, s.value d.semanticKey)

theorem ext_value {s t : RevisionSemantics} (h : ∀ key, s.value key = t.value key) : s = t := by
  have hcontent := h .canonicalContent
  have hchannel := h .channel
  have hcontext := h .contextMetadata
  have htags := h .contextTags
  have hfilter := h .filterMetadata
  have hactive := h .isActive
  have hrealm := h .realm
  have hname := h .sourceName
  have hsource := h .sourceRepresentation
  have htype := h .type
  simp only [value, SemanticValue.text.injEq, SemanticValue.int.injEq, SemanticValue.filterBlob.injEq,
    SemanticValue.contextBlob.injEq] at hcontent hchannel hcontext htags hfilter hactive hrealm hname hsource htype
  cases s
  cases t
  simp_all

theorem fingerprint_injective {s t : RevisionSemantics} (h : s.fingerprint = t.fingerprint) : s = t := by
  refine ext_value fun key => ?_
  unfold fingerprint at h
  rw [List.map_inj_left] at h
  have hkey : key.definition ∈ semanticDefinitions.filter SemanticDefinition.fingerprintParticipation := by
    cases key <;> decide
  have hvalue := h key.definition hkey
  have hsame : key.definition.semanticKey = key := by cases key <;> rfl
  rw [hsame] at hvalue
  exact (Prod.mk.inj (Prod.mk.inj hvalue).2).2

end RevisionSemantics

/-! ### the metadata blobs -/

section blobs

-- `casefold` is `str.casefold`.
variable (casefold : Text → Text)

/-- A text field of `FilterMeta`: within its length, stripped, neither empty nor "unknown". -/
def filterField (maxLength : Nat) (t : Text) : Option Text :=
  if 1 ≤ t.length ∧ t.length ≤ maxLength ∧ stripText t ≠ [] ∧ casefold (stripText t) ≠ "unknown".toList then
    some (stripText t)
  else none

/-- `FilterMeta(...)`. -/
def filterMeta (realm type channel sourceName : Text) (isActive : Int) : Option FilterMeta := do
  let realm ← filterField casefold 256 realm
  let type ← filterField casefold 256 type
  let channel ← filterField casefold 256 channel
  let sourceName ← filterField casefold 512 sourceName
  if isActive = 0 ∨ isActive = 1 then some ⟨realm, type, channel, sourceName, isActive⟩ else none

/-- The lengths of `ContextMeta`. -/
def ContextMeta.isValid (c : ContextMeta) : Bool :=
  decide (1 ≤ c.realm.length ∧ c.realm.length ≤ 256 ∧ 1 ≤ c.type.length ∧ c.type.length ≤ 256 ∧
    1 ≤ c.channel.length ∧ c.channel.length ≤ 256 ∧ 1 ≤ c.sourceName.length ∧ c.sourceName.length ≤ 512 ∧
    1 ≤ c.title.length ∧ c.title.length ≤ 4096 ∧ c.tags.length ≤ 256)

/-- What ends a line for `str.splitlines`. -/
def isLineEnd (c : Char) : Bool :=
  [10, 11, 12, 13, 28, 29, 30, 0x85, 0x2028, 0x2029].contains c.toNat

/-- `str.splitlines`, with the line read so far. -/
def splitLinesFrom (line : Text) : Text → List Text
  | [] => if line.isEmpty then [] else [line]
  | '\r' :: '\n' :: rest => line :: splitLinesFrom [] rest
  | c :: rest => if isLineEnd c then line :: splitLinesFrom [] rest else splitLinesFrom (line ++ [c]) rest

def splitLines (t : Text) : List Text := splitLinesFrom [] t

/-- The title kept from the prior context, unless it is blank. -/
def keptTitle (prior : ContextMeta) (sourceName : Text) : Text :=
  if prior.title.isBlank then sourceName else prior.title

def derivedContext (filter : FilterMeta) (prior : ContextMeta) (contextTags : Text) : ContextMeta where
  realm := filter.realm
  type := filter.type
  channel := filter.channel
  sourceName := filter.sourceName
  title := keptTitle prior filter.sourceName
  tags := splitLines contextTags

def metadataIncomplete : MkbError :=
  ⟨"METADATA_SEMANTICS_INCOMPLETE", "Metadata refresh requires a complete coherent semantic six-tuple", 422⟩

/-- `_cohere_metadata_blobs_tx`: both blobs derived again. -/
def cohereMetadataBlobs (s : RevisionSemantics) : Except MkbError RevisionSemantics := do
  let filter ← Checked.required (filterMeta casefold s.realm s.type s.channel s.sourceName s.isActive) metadataIncomplete
  let context := derivedContext filter s.contextMetadata s.contextTags
  Checked.failIf (!context.isValid) metadataIncomplete
  return { s with filterMetadata := filter, contextMetadata := context }

/-- `_initial_semantics_tx` of a Revision accepted with its metadata, which the semantic tuples repeat. -/
def initialSemantics (sourceKind cleanDigest : Text) (realm type channel sourceName : Text) (isActive : Int)
    (context : ContextMeta) : Except MkbError RevisionSemantics := do
  let incomplete : MkbError :=
    ⟨"INTAKE_SEMANTICS_INCOMPLETE", "Accepted intake requires a complete six-tuple semantic authority", 422⟩
  let filter ← Checked.required (filterMeta casefold realm type channel sourceName isActive) incomplete
  Checked.failIf (!context.isValid) incomplete
  return {
    sourceRepresentation := sourceKind
    canonicalContent := cleanDigest
    contextMetadata := context
    filterMetadata := filter
    realm := filter.realm
    type := filter.type
    channel := filter.channel
    sourceName := filter.sourceName
    isActive := filter.isActive
    contextTags := ['\n'].intercalate context.tags }

/-! ### the update -/

/-- The values a caller may submit; the other keys are system-owned. -/
structure MetadataSubmission where
  channel : Option Text
  contextTags : Option Text
  realm : Option Text
  sourceName : Option Text
  type : Option Text
deriving DecidableEq

namespace MetadataSubmission

/-- The submitted values by key. -/
def values (m : MetadataSubmission) : List (SemanticKey × Text) :=
  (m.channel.map fun t => (.channel, t)).toList ++ (m.contextTags.map fun t => (.contextTags, t)).toList ++
    (m.realm.map fun t => (.realm, t)).toList ++ (m.sourceName.map fun t => (.sourceName, t)).toList ++
    (m.type.map fun t => (.type, t)).toList

/-- The submitted values in place of those of the base. -/
def replace (m : MetadataSubmission) (base : RevisionSemantics) : RevisionSemantics :=
  { base with
    channel := m.channel.getD base.channel
    contextTags := m.contextTags.getD base.contextTags
    realm := m.realm.getD base.realm
    sourceName := m.sourceName.getD base.sourceName
    type := m.type.getD base.type }

end MetadataSubmission

/-- The disposition of `resolve_metadata_update`: changed at the first submitted value that the base does not have. -/
def metadataDisposition (base : RevisionSemantics) (m : MetadataSubmission) : MetadataDisposition :=
  if m.values.all fun v => base.value v.1 == .text v.2 then .noChange else .changed

/-- `_merged_metadata_semantics_tx`. -/
def mergedMetadataSemantics (base : RevisionSemantics) (m : MetadataSubmission) : Except MkbError RevisionSemantics :=
  cohereMetadataBlobs casefold (m.replace base)

end blobs

end KnowledgeBase
