import KnowledgeBase.Library.Checked
import KnowledgeBase.Library.Json
import KnowledgeBase.Store.Database

/-!
# Layered content

The layered-content wire shape with the checks `validate_layered_content` makes beyond the shape itself, and the
text recipe applied before anchors are matched. A `Platform` is what the kernel takes from its runtime: canonical
bytes, digests and Unicode.
-/

namespace KnowledgeBase

/-- The runtime of the kernel: canonical bytes and their digest, NFC and the decimal digits of Unicode. -/
structure Platform (β : Type) extends JsonCodec β where
  nfc : Text → Text
  isDecimal : Char → Bool

def schemaError (code message : String) : MkbError := ⟨code, message, 422⟩

structure LayeredChannel where
  title : Option Text
  body : Option Text
deriving DecidableEq

structure LayeredBlock where
  blockId : Nat
  granularity : Nat
  originalContent : LayeredChannel
  llmSummary : LayeredChannel
deriving DecidableEq

/-- `context_meta`: every field may be absent, and null when present. -/
structure LayeredMeta where
  title : Option (Option Text)
  author : Option (Option Text)
  publisher : Option (Option Text)
  realm : Option (Option Text)
  type : Option (Option Text)
  tags : Option (Option (List Text))
  channel : Option (Option Text)
  defaultLocale : Option (Option Text)
  sourceName : Option (Option Text)
  sourceUrl : Option (Option Text)
deriving DecidableEq

structure LayeredDate where
  processedAt : Option (Option Text)
  publishedAt : Option (Option Text)
deriving DecidableEq

structure KnowledgeTree where
  originalFile : Option (Option Text)
  upstreamFiles : Option (Option (List Text))
  downstreamFiles : Option (Option (List Text))
deriving DecidableEq

structure LayeredContent where
  contextMeta : LayeredMeta
  date : Option LayeredDate
  knowledgeTree : Option KnowledgeTree
  blocks : List LayeredBlock
deriving DecidableEq

namespace LayeredMeta

def text (key : String) (field : Option (Option Text)) : Json.Dict :=
  match field with
  | none => []
  | some v => [(key, .ofOption .str v)]

def tagMember (field : Option (Option (List Text))) : Json.Dict :=
  match field with
  | none => []
  | some v => [("tags", .ofOption (fun l => .arr (l.map .str)) v)]

/-- The members present, by key. -/
def toDict (m : LayeredMeta) : Json.Dict :=
  text "author" m.author ++ text "channel" m.channel ++ text "default_locale" m.defaultLocale ++
    text "publisher" m.publisher ++ text "realm" m.realm ++ text "source_name" m.sourceName ++
    text "source_url" m.sourceUrl ++ tagMember m.tags ++ text "title" m.title ++ text "type" m.type

end LayeredMeta

namespace Text

def isLowerHex (c : Char) : Bool := c.isDigit || ('a' ≤ c && c ≤ 'f')

/-- `_UUID`. -/
def isUuid (t : Text) : Bool :=
  t.length == 36 && (List.range 36).all fun i =>
    if i == 8 || i == 13 || i == 18 || i == 23 then t[i]? == some '-' else (t[i]?.map isLowerHex).getD false

/-- `_URI`: a scheme and a colon. -/
def isUri (t : Text) : Bool :=
  match t with
  | [] => false
  | c :: rest => c.isAlpha && (rest.dropWhile fun c => c.isAlphanum || c == '+' || c == '.' || c == '-').head? == some ':'

end Text

section Validation

variable {β : Type} (P : Platform β)

/-- `normalize_layered_text`. -/
def normalizeLayeredText (t : Text) : Text := P.nfc t.unifyNewlines

/-- `_DATETIME`. -/
def isDateTime (t : Text) : Bool :=
  (List.range 11).all fun i =>
    if i == 4 || i == 7 then t[i]? == some '-'
    else if i == 10 then t[i]? == some 'T'
    else (t[i]?.map P.isDecimal).getD false

/-- A present, non-null, non-empty text meets the check. -/
def textMeets (check : Text → Bool) : Option (Option Text) → Bool
  | some (some t) => t.isEmpty || check t
  | _ => true

def uuidsMeet : Option (Option (List Text)) → Bool
  | some (some l) => l.all Text.isUuid
  | _ => true

/-- `_UUID` on the original file, which an empty text does not meet. -/
def originalFileMeets : Option (Option Text) → Bool
  | some (some t) => t.isUuid
  | _ => true

/-- The checks on one block. -/
def validateBlock (summaryRequired summariesMustBeNull : Bool) (block : LayeredBlock) : Except MkbError Unit := do
  Checked.failIf (summaryRequired && block.llmSummary.body.all Text.isBlank)
    (schemaError "STRUCTURE_SUMMARY_INVALID" "C summary body must be non-empty")
  Checked.failIf (summariesMustBeNull && block.llmSummary != ⟨none, none⟩)
    (schemaError "STRUCTURE_SUMMARY_INVALID" "B candidate summaries must be null")

/-- The checks of the envelope. -/
def validateEnvelope (content : LayeredContent) : Except MkbError Unit := do
  Checked.failIf (content.knowledgeTree.any fun tree => !originalFileMeets tree.originalFile)
    (schemaError "STRUCTURE_SCHEMA_INVALID" "original_file_uuid must be a UUID string")
  Checked.failIf (content.knowledgeTree.any fun tree => !uuidsMeet tree.upstreamFiles)
    (schemaError "STRUCTURE_SCHEMA_INVALID" "upstream_file_uuids must be an array of UUID strings")
  Checked.failIf (content.knowledgeTree.any fun tree => !uuidsMeet tree.downstreamFiles)
    (schemaError "STRUCTURE_SCHEMA_INVALID" "downstream_file_uuids must be an array of UUID strings")
  Checked.failIf (!textMeets Text.isUri content.contextMeta.sourceUrl)
    (schemaError "STRUCTURE_SCHEMA_INVALID" "context_meta.source_url must be a URI")
  Checked.failIf (content.date.any fun date => !(textMeets (isDateTime P) date.processedAt))
    (schemaError "STRUCTURE_SCHEMA_INVALID" "date.processed_at must be date-time")
  Checked.failIf (content.date.any fun date => !(textMeets (isDateTime P) date.publishedAt))
    (schemaError "STRUCTURE_SCHEMA_INVALID" "date.published_at must be date-time")

/-- `validate_layered_content` on a candidate of the wire shape. -/
def validateLayeredContent (content : LayeredContent) (summaryRequired summariesMustBeNull : Bool) :
    Except MkbError Unit := do
  validateEnvelope P content
  Checked.failIf content.blocks.isEmpty
    (schemaError "STRUCTURE_SCHEMA_INVALID" "layered_content must be a non-empty array")
  Checked.checkEach content.blocks (validateBlock summaryRequired summariesMustBeNull)
  Checked.failIf (content.blocks.all fun block => block.granularity != 0)
    (schemaError "STRUCTURE_SCHEMA_INVALID" "layered_content must contain a granularity 0 block")

end Validation

end KnowledgeBase
