import KnowledgeBase.Library.JsonMeaning
import KnowledgeBase.Library.Text
import KnowledgeBase.Store.Database

/-!
# Classified and decoded representations

The bytes of a representation are classified by what they are: JSON is what the canonicaliser accepts of a text that
starts with a brace or a bracket. A representation that is classified as JSON is decoded by the same canonicaliser, and
its text is then encoded for its digest and for the object store. The hint of HTML, the parser of PDF and the
normalisation of plain text are parameters.
-/

namespace KnowledgeBase

open JsonText

/-- What the classification is given: the pattern of HTML and the budgets. -/
structure Classifier where
  htmlHint : Text → Bool
  acquisitionMaxResponseBytes : Nat
  printMaxResponseBytes : Nat

/-- The budget of a mode. -/
def Classifier.limit (C : Classifier) (mode : String) : Nat :=
  if mode = "print_pdf" then C.printMaxResponseBytes else C.acquisitionMaxResponseBytes

/-- What the decoding is given: the parser of PDF of the deployment, and LF and NFC. -/
structure Decoders where
  pdfParser : Option (CodePoints → Except MkbError CodePoints)
  canonicalText : CodePoints → CodePoints

/-- `_AcquiredContent`. -/
structure AcquiredContent where
  rawText : CodePoints
  isBinary : Bool
  mediaType : String

/-- A decoded text with its UTF-8. -/
structure DecodedText where
  text : CodePoints
  utf8 : ByteArray

def codePoints (text : Text) : CodePoints := text.map Char.toNat

def startsWith (value : ByteArray) (start : List UInt8) : Bool := start.isPrefixOf value.data.toList

def byteOrderMark : List UInt8 := [0xEF, 0xBB, 0xBF]

/-- `value.decode("utf-8-sig")`. -/
def decodeUtf8Sig (value : ByteArray) : Option Text :=
  (String.fromUTF8? (if startsWith value byteOrderMark then value.extract 3 value.size else value)).map String.toList

def decodeJsonInvalid : MkbError := ⟨"DECODE_JSON_INVALID", "JSON representation is not canonicalizable", 422⟩

section doubles

variable {D : Type} (F : Doubles D)

/-- `_canonical_json_text`. -/
def canonicalJsonText (text : CodePoints) : Except MkbError CodePoints :=
  match scan F text with
  | none => .error decodeJsonInvalid
  | some tree =>
    match dumps F (JsonText.value tree) with
    | none => .error decodeJsonInvalid
    | some text => .ok text

/-- `_sniff_media_type`. -/
def sniffMediaType (C : Classifier) (value : ByteArray) : String :=
  if startsWith value [0x25, 0x50, 0x44, 0x46, 0x2D] then "application/pdf"
  else if startsWith value [0x89, 0x50, 0x4E, 0x47, 0x0D, 0x0A, 0x1A, 0x0A] then "image/png"
  else if startsWith value [0xFF, 0xD8, 0xFF] then "image/jpeg"
  else if startsWith value [0x47, 0x49, 0x46, 0x38, 0x37, 0x61] || startsWith value [0x47, 0x49, 0x46, 0x38, 0x39, 0x61]
    then "image/gif"
  else if startsWith value [0x52, 0x49, 0x46, 0x46] &&
      (value.data.toList.drop 8).take 4 == [0x57, 0x45, 0x42, 0x50] then "image/webp"
  else if startsWith value [0x50, 0x4B, 0x03, 0x04] || startsWith value [0x50, 0x4B, 0x05, 0x06] ||
      startsWith value [0x50, 0x4B, 0x07, 0x08] then "application/zip"
  else match decodeUtf8Sig value with
    | none => "application/octet-stream"
    | some text =>
      let stripped := text.dropWhile Text.isSpace
      if (stripped.head?.any fun c => c = '{' || c = '[') && (canonicalJsonText F (codePoints text)).toOption.isSome then
        "application/json"
      else if C.htmlHint stripped then "text/html"
      else "text/plain"

def officeDocuments : List String :=
  ["application/vnd.openxmlformats-officedocument.wordprocessingml.document",
    "application/vnd.openxmlformats-officedocument.spreadsheetml.sheet",
    "application/vnd.openxmlformats-officedocument.presentationml.presentation"]

def isImageType (mediaType : String) : Bool := "image/".toList.isPrefixOf mediaType.toList

def isTextType (mediaType : String) : Bool := "text/".toList.isPrefixOf mediaType.toList

/-- `_verified_media_type`. -/
def verifiedMediaType (declared : Option String) (detected mode : String) : Except MkbError String :=
  if mode = "pdf" && detected ≠ "application/pdf" then
    .error ⟨"ACQUISITION_MEDIA_MISMATCH", "PDF mode did not return a PDF representation", 422⟩
  else if declared = some "application/pdf" && detected ≠ "application/pdf" then
    .error ⟨"ACQUISITION_MEDIA_MISMATCH", "Declared PDF representation did not verify", 422⟩
  else if declared.any isImageType && declared ≠ some detected then
    .error ⟨"ACQUISITION_MEDIA_MISMATCH", "Declared image representation did not verify", 422⟩
  else match declared with
    | none => .ok detected
    | some declared =>
      if detected = "application/zip" && officeDocuments.contains declared then .ok declared
      else if detected ≠ "application/octet-stream" then .ok detected
      else .ok declared

/-- `_representation_from_bytes`, of a declared type that is normalised. -/
def representationFromBytes (C : Classifier) (declared : Option String) (mode : String) (data : ByteArray) :
    Except MkbError AcquiredContent := do
  let verified ← verifiedMediaType declared (sniffMediaType F C data) mode
  let binary := !(isTextType verified || verified = "application/json")
  let rawText ← (match (if binary then some (data.data.toList.map UInt8.toNat)
      else (decodeUtf8Sig data).map codePoints) with
    | none => .error ⟨"ACQUISITION_DECODE_UNSUPPORTED", "Representation is not supported UTF-8 text", 422⟩
    | some rawText => .ok rawText)
  if C.limit mode < data.size then
    .error ⟨"ACQUISITION_BUDGET_EXCEEDED", "Acquisition exceeded the configured response budget", 413⟩
  else .ok ⟨rawText, binary, verified⟩

/-- The text a representation is decoded to. -/
def decodedText (P : Decoders) (content : AcquiredContent) : Except MkbError CodePoints :=
  if content.isBinary then
    if content.mediaType = "application/pdf" then
      match P.pdfParser with
      | none => .error ⟨"PDF_PARSE_CAPABILITY_UNAVAILABLE",
        "Isolated PDF parser is not configured for this deployment", 503⟩
      | some parse => parse content.rawText
    else if isImageType content.mediaType then .ok []
    else .error ⟨"ACQUISITION_DECODE_UNSUPPORTED", "Binary representation has no registered decoder", 422⟩
  else if content.mediaType = "application/json" then canonicalJsonText F content.rawText
  else if isTextType content.mediaType then .ok (P.canonicalText content.rawText)
  else .error ⟨"ACQUISITION_DECODE_UNSUPPORTED", "Verified media type has no registered decoder", 422⟩

/-- `_decode`. The digest and the object store take the UTF-8 of the text, which a text with surrogates does not have. -/
def decodeContent (P : Decoders) (processKey : String) (content : AcquiredContent) : Except MkbError DecodedText :=
  if content.mediaType.isEmpty then
    .error ⟨"ACQUISITION_EVIDENCE_INVALID", "Verified media type is unavailable", 422⟩
  else if processKey ≠ (if content.mediaType = "application/pdf" then "intake.decode.pdf"
      else "intake.decode.text_json_html") then
    .error ⟨"DECODE_CAPABILITY_MISMATCH", "Source representation does not match the bound decoder", 409⟩
  else (decodedText F P content).bind fun text =>
    match encodeUtf8 text with
    | none => .error ⟨"UnicodeEncodeError", "surrogates not allowed", 500⟩
    | some utf8 => .ok ⟨text, utf8⟩

end doubles

end KnowledgeBase
