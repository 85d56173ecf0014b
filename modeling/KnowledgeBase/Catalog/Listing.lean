import KnowledgeBase.Library.Keyset
import KnowledgeBase.Lsrag.Cuts
import Mathlib.Data.Char
import Mathlib.Data.List.Lex
import Mathlib.Data.Prod.Lex

/-!
# Keyset listings

The four listings that are read page by page: `items` and `namespaces` of the workflow catalog, `list_artifacts` and
`list_pointers` of the generation reads. Each is one keyset read with its own filter, time column, uuid column and
cursor codec. Base64 and JSON, the digest of a filter, `str.casefold` and how the driver binds a number are parameters.
-/

namespace KnowledgeBase

open Json (Dict)

/-- The time and the uuid of a row, compared as texts by code points. -/
abbrev RowKey := Lex (Text × Text)

/-- A value of a decoded cursor: `surrogates` is a string with a lone surrogate, `composite` an array or an object. -/
inductive CursorValue
  | text (t : Text)
  | surrogates
  | null
  | bool (b : Bool)
  | int (n : Int)
  | float (lexeme : Text)
  | composite
  deriving DecidableEq

abbrev CursorMembers := List (String × CursorValue)

/-- A cursor after base64 and JSON: an exception that `_decode_cursor` catches, `RecursionError`, which it does not, an
object, or another value. -/
inductive Decoded
  | failed
  | tooDeep
  | object (d : CursorMembers)
  | other

/-- What a listing raises: a typed error, `KeyError`, `RecursionError`, or the refusal of the driver to bind a value. -/
inductive ListingError
  | mkb (e : MkbError)
  | keyError
  | recursionError
  | unboundValue

/-- The functions that the cursors rest on: the text of a payload, and its readers with and without the check of the
base64 alphabet. The driver may refuse an integer, and binds a float that is no number as NULL. -/
structure CursorCodec where
  encode : List (String × Text) → Text
  loads : Text → Decoded
  loadsStrict : Text → Decoded
  stableDigest : Dict → Text
  casefold : Text → Text
  bindInt : Int → Option Text
  bindFloat : Text → Option Text

/-- The refusal of a cursor by the catalog. -/
def catalogRefusal : ListingError := .mkb ⟨"CATALOG_CURSOR_INVALID", "Catalog cursor is invalid", 422⟩

/-- The refusal of a cursor by the generation reads. -/
def generationRefusal : ListingError := .mkb ⟨"cursor-invalid", "Cursor is invalid", 422⟩

/-- A listing: its filter, the columns of its order, the payload of its cursors, and what identifies a row. -/
structure Listing (ρ ι : Type) where
  kind : String
  stampField : String
  uuidField : String
  filterDigest : Text
  stamp : ρ → Text
  uuid : ρ → Text
  ident : ρ → ι
  isMatch : ρ → Bool
  payload : RowKey → List (String × Text)
  ident_eq : ∀ r r', isMatch r = true → isMatch r' = true → uuid r = uuid r' → ident r = ident r'
  payload_sorted : ∀ k, ((payload k).map Prod.fst).Pairwise (· < ·)
  payload_length : ∀ k, (payload k).length = 4
  payload_kind : ∀ k, (payload k).lookup "kind" = some kind.toList
  payload_digest : ∀ k, (payload k).lookup "filter_digest" = some filterDigest
  payload_stamp : ∀ k, (payload k).lookup stampField = some (ofLex k).1
  payload_uuid : ∀ k, (payload k).lookup uuidField = some (ofLex k).2

namespace Listing

variable {ρ ι : Type} (C : CursorCodec) (L : Listing ρ ι)

def key (r : ρ) : RowKey := toLex (L.stamp r, L.uuid r)

/-- A value as it is compared with a text column: `none` is NULL. -/
def bindText : CursorValue → Except ListingError (Option Text)
  | .text t => .ok (some t)
  | .surrogates => .error .unboundValue
  | .null => .ok none
  | .bool b => .ok (some (if b then "1".toList else "0".toList))
  | .int n => (Checked.required (C.bindInt n) .unboundValue).map some
  | .float lexeme => .ok (C.bindFloat lexeme)
  | .composite => .error .unboundValue

/-- The key behind which a read resumes: the time and the uuid, as the driver binds them. No uuid precedes NULL. -/
def resumeKey (d : CursorMembers) : Except ListingError RowKey := do
  let stamp ← Checked.required (d.lookup L.stampField) .keyError
  let uuid ← Checked.required (d.lookup L.uuidField) .keyError
  let stamp ← bindText C stamp
  let uuid ← bindText C uuid
  return toLex (stamp.getD [], uuid.getD [])

/-- The checks of `_decode_cursor`, and the parameters of the query behind them. -/
def afterChecks (passes : CursorMembers → Bool) (refusal : ListingError) : Decoded → Except ListingError RowKey
  | .failed => .error refusal
  | .tooDeep => .error .recursionError
  | .object d => if passes d then L.resumeKey C d else .error refusal
  | .other => .error refusal

def isStr : CursorValue → Bool
  | .text _ => true
  | .surrogates => true
  | _ => false

def isNonemptyStr (v : CursorValue) : Bool := isStr v && v != .text []

/-- The checks of the catalog: the kind, the filter and a time. -/
def isCatalogCursor (d : CursorMembers) : Bool :=
  d.lookup "kind" == some (.text L.kind.toList) && d.lookup "filter_digest" == some (.text L.filterDigest) &&
    (d.lookup L.stampField).any isStr

/-- `WorkflowCatalogService._decode_cursor`, and the parameters that its result becomes. -/
def decodeCatalog (cursor : Text) : Except ListingError RowKey :=
  L.afterChecks C L.isCatalogCursor catalogRefusal (C.loads cursor)

/-- The checks of the generation reads: no other members, the required ones non-empty strings, the kind and the
filter. -/
def isGenerationCursor (d : CursorMembers) : Bool :=
  d.length == 4 && d.lookup "kind" == some (.text L.kind.toList) &&
    ["filter_digest", L.stampField, L.uuidField].all (fun name => (d.lookup name).any isNonemptyStr) &&
    d.lookup "filter_digest" == some (.text L.filterDigest)

/-- `GenerationArtifactReadService._decode_cursor`, with the comparison of the filter digest. -/
def decodeStrict (cursor : Text) : Except ListingError RowKey :=
  if 2048 < cursor.length then .error generationRefusal
  else L.afterChecks C L.isGenerationCursor generationRefusal (C.loadsStrict cursor)

/-- One read behind a key: the rows of the page and the next cursor. -/
def readBehind (limit : Nat) (k : Option RowKey) (t : List ρ) : List ρ × Option Text :=
  let p := Keyset.page L.key limit k (t.filter L.isMatch)
  (p.1, p.2.map fun k => C.encode (L.payload k))

/-- One read; an empty cursor is none. -/
def read (decode : Text → Except ListingError RowKey) (limit : Nat) (cursor : Option Text) (t : List ρ) :
    Except ListingError (List ρ × Option Text) :=
  match cursor with
  | none => .ok (L.readBehind C limit none t)
  | some [] => .ok (L.readBehind C limit none t)
  | some (c :: cs) => (decode (c :: cs)).map fun k => L.readBehind C limit (some k) t

end Listing

/-! ### the catalog -/

/-- The columns of `mkb_intake_items` and its source that `items` reads. -/
structure CatalogItem where
  team : Text
  itemUuid : Text
  externalKey : Text
  sourceKind : Text
  lifecycleState : Text
  rowRevision : Nat
  latestRevision : Option Text
  servingRevision : Option Text
  createdAt : Text
  updatedAt : Text
  deriving DecidableEq

/-- The columns of `mkb_vector_namespaces` that `namespaces` reads. -/
structure CatalogNamespace where
  team : Text
  namespaceUuid : Text
  namespaceKey : Text
  modelKey : Text
  modelVersion : Text
  dimension : Nat
  status : Text
  updatedAt : Text
  deriving DecidableEq

structure ItemFilter where
  team : Text
  sourceKind : Option Text
  externalKey : Option Text
  lifecycleState : Option Text

structure NamespaceFilter where
  team : Text
  status : Option Text
  namespaceKey : Option Text

/-- A condition that is left out where its parameter is `None`. -/
def holdsFor (wanted : Option Text) (value : Text) : Bool := wanted.all fun w => w == value

def limitInvalid : ListingError := .mkb ⟨"CATALOG_LIMIT_INVALID", "Catalog limit must be between 1 and 100", 422⟩

def filterInvalid (message : String) : ListingError := .mkb ⟨"CATALOG_FILTER_INVALID", message, 422⟩

namespace CursorCodec

variable (C : CursorCodec)

def foldedKey (externalKey : Option Text) : Option Text := externalKey.map fun k => C.casefold (stripText k)

def itemDigest (f : ItemFilter) : Text :=
  C.stableDigest
    [("external_key", Json.ofOption .str (C.foldedKey f.externalKey)),
      ("lifecycle_state", Json.ofOption .str f.lifecycleState), ("source_kind", Json.ofOption .str f.sourceKind),
      ("team_uuid", .str f.team)]

def itemListing (f : ItemFilter) : Listing CatalogItem (Text × Text) where
  kind := "items"
  stampField := "updated_at"
  uuidField := "intake_item_uuid"
  filterDigest := C.itemDigest f
  stamp := CatalogItem.updatedAt
  uuid := CatalogItem.itemUuid
  ident r := (r.team, r.itemUuid)
  isMatch r := r.team == f.team && holdsFor f.sourceKind r.sourceKind &&
    holdsFor (C.foldedKey f.externalKey) r.externalKey && holdsFor f.lifecycleState r.lifecycleState
  payload k := [("filter_digest", C.itemDigest f), ("intake_item_uuid", (ofLex k).2),
    ("kind", "items".toList), ("updated_at", (ofLex k).1)]
  ident_eq r r' h h' hu := by
    simp only [Bool.and_eq_true, beq_iff_eq] at h h'
    rw [h.1.1.1, h'.1.1.1, hu]
  payload_sorted _ := by simp only [List.map_cons, List.map_nil]; decide
  payload_length _ := rfl
  payload_kind _ := rfl
  payload_digest _ := rfl
  payload_stamp _ := rfl
  payload_uuid _ := rfl

/-- `WorkflowCatalogService.items`. -/
def items (f : ItemFilter) (limit : Int) (cursor : Option Text) (t : List CatalogItem) :
    Except ListingError (List CatalogItem × Option Text) :=
  if ¬(1 ≤ limit ∧ limit ≤ 100) then .error limitInvalid
  else if ¬f.lifecycleState.all (["active".toList, "deactivated".toList, "deleted".toList].contains ·) then
    .error (filterInvalid "Lifecycle filter is invalid")
  else if f.externalKey.any Text.isBlank then .error (filterInvalid "External key filter is invalid")
  else (C.itemListing f).read C ((C.itemListing f).decodeCatalog C) limit.toNat cursor t

def namespaceDigest (f : NamespaceFilter) : Text :=
  C.stableDigest
    [("namespace_key", Json.ofOption .str f.namespaceKey), ("status", Json.ofOption .str f.status),
      ("team_uuid", .str f.team)]

def namespaceListing (f : NamespaceFilter) : Listing CatalogNamespace Text where
  kind := "namespaces"
  stampField := "updated_at"
  uuidField := "namespace_uuid"
  filterDigest := C.namespaceDigest f
  stamp := CatalogNamespace.updatedAt
  uuid := CatalogNamespace.namespaceUuid
  ident := CatalogNamespace.namespaceUuid
  isMatch r := r.team == f.team && holdsFor f.status r.status && holdsFor (f.namespaceKey.map stripText) r.namespaceKey
  payload k := [("filter_digest", C.namespaceDigest f), ("kind", "namespaces".toList),
    ("namespace_uuid", (ofLex k).2), ("updated_at", (ofLex k).1)]
  ident_eq _ _ _ _ hu := hu
  payload_sorted _ := by simp only [List.map_cons, List.map_nil]; decide
  payload_length _ := rfl
  payload_kind _ := rfl
  payload_digest _ := rfl
  payload_stamp _ := rfl
  payload_uuid _ := rfl

/-- `WorkflowCatalogService.namespaces`. -/
def namespaces (f : NamespaceFilter) (limit : Int) (cursor : Option Text) (t : List CatalogNamespace) :
    Except ListingError (List CatalogNamespace × Option Text) :=
  if ¬(1 ≤ limit ∧ limit ≤ 100) then .error limitInvalid
  else if ¬f.status.all (["active".toList, "disabled".toList, "deleted".toList].contains ·) then
    .error (filterInvalid "Namespace status filter is invalid")
  else if f.namespaceKey.any Text.isBlank then .error (filterInvalid "Namespace key filter is invalid")
  else (C.namespaceListing f).read C ((C.namespaceListing f).decodeCatalog C) limit.toNat cursor t

end CursorCodec

/-! ### the generation reads -/

/-- The columns of `mkb_generation_artifacts`, joined with the Execution, that the filter and the order read. -/
structure ListedArtifact where
  team : Text
  task : Text
  artifactUuid : Text
  artifactType : Text
  validationDisposition : Text
  taskGeneration : Nat
  createdAt : Text
  deriving DecidableEq

/-- A pointer joined with its Execution. `owner` gives the Execution and the type of an artifact; the writer of
pointers sets the pointer of the artifact's own Execution and type. -/
structure ListedPointer (owner : Text → Text × Text) where
  team : Text
  task : Text
  execution : Text
  artifactType : Text
  currentArtifact : Text
  pointerRevision : Nat
  taskGeneration : Nat
  updatedAt : Text
  owned : owner currentArtifact = (execution, artifactType)

structure GenerationFilter where
  team : Text
  task : Text
  artifactType : Option Text
  validationDisposition : Option Text
  generation : Option Nat

def artifactTypes : List Text :=
  ["structure_document".toList, "retrieval_block_projection".toList, "structure_validation_report".toList,
    "construction_document".toList, "dual_channel_projection".toList, "construction_validation_report".toList]

def validationDispositions : List Text := ["full_valid".toList, "invalid".toList, "partial_rejected".toList]

def typeInvalid : ListingError :=
  .mkb ⟨"generation-artifact-type-invalid", "Generation artifact type filter is invalid", 422⟩

def dispositionInvalid : ListingError :=
  .mkb ⟨"generation-artifact-validation-invalid", "Generation artifact validation filter is invalid", 422⟩

def generationInvalid : ListingError := .mkb ⟨"generation-invalid", "generation must be positive", 422⟩

namespace CursorCodec

variable (C : CursorCodec)

/-- `_limit`. -/
def clampLimit (limit : Int) : Nat := (min (max limit 1) 100).toNat

/-- `_filter_digest`. -/
def generationDigest (kind : String) (f : GenerationFilter) : Text :=
  C.stableDigest
    [("artifact_type", Json.ofOption .str f.artifactType),
      ("generation", Json.ofOption (fun n : Nat => .int n) f.generation), ("kind", .str kind.toList),
      ("task_uuid", .str f.task), ("team_uuid", .str f.team),
      ("validation_disposition", Json.ofOption .str f.validationDisposition)]

def artifactListing (f : GenerationFilter) : Listing ListedArtifact Text where
  kind := "task-generation-artifacts"
  stampField := "created_at"
  uuidField := "generation_artifact_uuid"
  filterDigest := C.generationDigest "task-generation-artifacts" f
  stamp := ListedArtifact.createdAt
  uuid := ListedArtifact.artifactUuid
  ident := ListedArtifact.artifactUuid
  isMatch r := r.team == f.team && r.task == f.task && holdsFor f.artifactType r.artifactType &&
    holdsFor f.validationDisposition r.validationDisposition && f.generation.all (· == r.taskGeneration)
  payload k := [("created_at", (ofLex k).1),
    ("filter_digest", C.generationDigest "task-generation-artifacts" f),
    ("generation_artifact_uuid", (ofLex k).2), ("kind", "task-generation-artifacts".toList)]
  ident_eq _ _ _ _ hu := hu
  payload_sorted _ := by simp only [List.map_cons, List.map_nil]; decide
  payload_length _ := rfl
  payload_kind _ := rfl
  payload_digest _ := rfl
  payload_stamp _ := rfl
  payload_uuid _ := rfl

/-- `list_artifacts` of a visible Task. -/
def listArtifacts (f : GenerationFilter) (limit : Int) (cursor : Option Text)
    (t : List ListedArtifact) : Except ListingError (List ListedArtifact × Option Text) :=
  if ¬f.artifactType.all artifactTypes.contains then .error typeInvalid
  else if ¬f.validationDisposition.all validationDispositions.contains then .error dispositionInvalid
  else if f.generation.any (· < 1) then .error generationInvalid
  else (C.artifactListing f).read C ((C.artifactListing f).decodeStrict C) (clampLimit limit) cursor t

/-- The digest of a pointer filter, which has no disposition. -/
def pointerDigest (f : GenerationFilter) : Text :=
  C.generationDigest "task-generation-artifact-pointers" { f with validationDisposition := none }

variable (owner : Text → Text × Text)

def pointerListing (f : GenerationFilter) : Listing (ListedPointer owner) (Text × Text) where
  kind := "task-generation-artifact-pointers"
  stampField := "updated_at"
  uuidField := "current_generation_artifact_uuid"
  filterDigest := C.pointerDigest f
  stamp := ListedPointer.updatedAt
  uuid := ListedPointer.currentArtifact
  ident r := (r.execution, r.artifactType)
  isMatch r := r.team == f.team && r.task == f.task && holdsFor f.artifactType r.artifactType &&
    f.generation.all (· == r.taskGeneration)
  payload k := [("current_generation_artifact_uuid", (ofLex k).2),
    ("filter_digest", C.pointerDigest f), ("kind", "task-generation-artifact-pointers".toList),
    ("updated_at", (ofLex k).1)]
  ident_eq r r' _ _ hu := by rw [← r.owned, ← r'.owned, hu]
  payload_sorted _ := by simp only [List.map_cons, List.map_nil]; decide
  payload_length _ := rfl
  payload_kind _ := rfl
  payload_digest _ := rfl
  payload_stamp _ := rfl
  payload_uuid _ := rfl

/-- `list_pointers` of a visible Task. -/
def listPointers (f : GenerationFilter) (limit : Int) (cursor : Option Text) (t : List (ListedPointer owner)) :
    Except ListingError (List (ListedPointer owner) × Option Text) :=
  if ¬f.artifactType.all artifactTypes.contains then .error typeInvalid
  else if f.generation.any (· < 1) then .error generationInvalid
  else (C.pointerListing owner f).read C ((C.pointerListing owner f).decodeStrict C) (clampLimit limit) cursor t

end CursorCodec

end KnowledgeBase
