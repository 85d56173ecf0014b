import KnowledgeBase.Library.Checked
import KnowledgeBase.Library.Json
import KnowledgeBase.Library.Occurrences
import KnowledgeBase.Store.Database

/-!
# Cuts

The pack of quoted cuts with the checks of `validate_cuts`, and the search of `find_anchor_span` for the span that a
cut quotes: first for its anchors as they are, then for what is left of them without the ignorable characters.
-/

namespace KnowledgeBase

/-- What the runtime shows of values: the code points that `repr` leaves as they are, and `str` of other values. -/
structure Printer where
  isPrintable : Char → Bool
  strOf : Json → Text

namespace Printer

variable (R : Printer)

def hexPadded (width n : Nat) : Text :=
  List.replicate (width - (Nat.toDigits 16 n).length) '0' ++ Nat.toDigits 16 n

def reprChar (quote c : Char) : Text :=
  if c == quote || c == '\\' then ['\\', c]
  else if c == '\t' then ['\\', 't']
  else if c == '\n' then ['\\', 'n']
  else if c == '\r' then ['\\', 'r']
  else if c.toNat < 32 || c.toNat == 127 then ['\\', 'x'] ++ hexPadded 2 c.toNat
  else if c.toNat < 127 || R.isPrintable c then [c]
  else if c.toNat < 256 then ['\\', 'x'] ++ hexPadded 2 c.toNat
  else if c.toNat < 65536 then ['\\', 'u'] ++ hexPadded 4 c.toNat
  else ['\\', 'U'] ++ hexPadded 8 c.toNat

/-- `repr` of a string: in apostrophes, unless it has some and no quotation mark. -/
def pyRepr (t : Text) : String :=
  let apostrophe := Char.ofNat 39
  let mark := Char.ofNat 34
  let quote := if t.contains apostrophe && !t.contains mark then mark else apostrophe
  String.ofList (quote :: t.flatMap (R.reprChar quote) ++ [quote])

/-- `repr` of a list of strings. -/
def pyReprList (keys : List String) : String :=
  "[" ++ ", ".intercalate (keys.map fun key => R.pyRepr key.toList) ++ "]"

/-- `repr` of what `get` returns. -/
def pyReprValue : Option Json → String
  | none => "None"
  | some (.str t) => R.pyRepr t
  | some v => String.ofList (R.strOf v)

end Printer

def cutsError (code detail : String) : MkbError := ⟨code, detail, 422⟩

/-! ### the pack -/

def cutsTopAllowed : List String := ["schema_version", "cuts", "context_meta"]

def cutsBlockAllowed : List String := ["title", "start", "end"]

/-- `_CUTS_FORBIDDEN`, sorted. -/
def cutsForbidden : List String :=
  ["block_id", "body", "clean", "end_byte", "granularity", "index", "layered_content", "offset", "original", "span",
    "start_byte"]

structure ValidatedCut where
  title : Option Text
  startAnchor : Text
  endAnchor : Text

structure ValidatedCuts where
  cuts : List ValidatedCut
  contextMeta : Option Json.Dict

section validation

variable (R : Printer)

/-- No forbidden field, and no field but the allowed ones. -/
def checkCutsFields (place : String) (allowed : List String) (members : Json.Dict) : Except MkbError Unit := do
  Checked.checkEach cutsForbidden fun key => Checked.failIf (members.lookup key).isSome
    (cutsError "CUTS_SCHEMA_INVALID" (place ++ " contains forbidden field: " ++ key))
  let unknown := (members.map Prod.fst).filter fun key => !allowed.contains key
  Checked.failIf (!unknown.isEmpty)
    (cutsError "CUTS_SCHEMA_INVALID" (place ++ " contains unknown fields: " ++ R.pyReprList unknown))

def nonEmptyText (value : Option Json) (place : String) : Except MkbError Text :=
  let invalid := cutsError "CUTS_SCHEMA_INVALID" (place ++ " must be non-empty string")
  match value with
  | some (.str t) => do
    Checked.failIf t.isBlank invalid
    return t
  | _ => .error invalid

def optionalTitle (value : Option Json) (place : String) : Except MkbError (Option Text) :=
  match value with
  | none => .ok none
  | some .null => .ok none
  | some (.str t) => .ok (some t)
  | some _ => .error (cutsError "CUTS_SCHEMA_INVALID" (place ++ ".title must be string or null"))

/-- One element of `cuts`. -/
def validateCut (idx : Nat) (raw : Json) : Except MkbError ValidatedCut :=
  let place := "cuts[" ++ toString idx ++ "]"
  match raw with
  | .obj members => do
    checkCutsFields R place cutsBlockAllowed members
    Checked.failIf ((members.lookup "start").isNone || (members.lookup "end").isNone)
      (cutsError "CUTS_SCHEMA_INVALID" (place ++ " missing start/end"))
    let startAnchor ← nonEmptyText (members.lookup "start") (place ++ ".start")
    let endAnchor ← nonEmptyText (members.lookup "end") (place ++ ".end")
    let title ← optionalTitle (members.lookup "title") place
    return ⟨title, startAnchor, endAnchor⟩
  | _ => .error (cutsError "CUTS_SCHEMA_INVALID" (place ++ " must be an object"))

/-- `cuts`: present, a list and not empty. -/
def cutsOf (value : Option Json) : Except MkbError (List Json) :=
  match value with
  | none => .error (cutsError "CUTS_EMPTY" "cuts array is required")
  | some .null => .error (cutsError "CUTS_EMPTY" "cuts array is required")
  | some (.arr []) => .error (cutsError "CUTS_EMPTY" "cuts array must be non-empty")
  | some (.arr cuts) => .ok cuts
  | some _ => .error (cutsError "CUTS_SCHEMA_INVALID" "cuts must be an array")

def isCutsSchema : Option Json → Bool
  | some (.str t) => t == "mkb.b-json-cuts.v1".toList
  | _ => false

def dictOf? : Option Json → Option Json.Dict
  | some (.obj members) => some members
  | _ => none

/-- `validate_cuts`. -/
def validateCuts (pack : Json) : Except MkbError ValidatedCuts :=
  match pack with
  | .obj members => do
    checkCutsFields R "top-level" cutsTopAllowed members
    let schemaVersion := members.lookup "schema_version"
    Checked.failIf (!isCutsSchema schemaVersion)
      (cutsError "CUTS_SCHEMA_INVALID"
        ("schema_version must be 'mkb.b-json-cuts.v1', got " ++ R.pyReprValue schemaVersion))
    let cuts ← cutsOf (members.lookup "cuts")
    let validated ← Checked.mapEach cuts.zipIdx fun p => validateCut R p.2 p.1
    return ⟨validated, dictOf? (members.lookup "context_meta")⟩
  | _ => .error (cutsError "CUTS_SCHEMA_INVALID" "cuts pack must be a JSON object")

end validation

/-! ### the characters of the resilient search -/

/-- `_IGNORABLE_CHARS`. -/
def isIgnorable (c : Char) : Bool :=
  "#*_`~>|+-=。，,！!？?:：;；()（）[]【】\"'“”'、\t\r\n ".toList.contains c

/-- What may stand between the start of a line and the start anchor. -/
def isLineMark (c : Char) : Bool := "#*_`~>|-+ \t".toList.contains c

/-- What is taken after the end anchor. -/
def isCloser (c : Char) : Bool := "`)]）】\"' \t".toList.contains c && c != '\n'

/-- What is taken once after the closers. -/
def isStop (c : Char) : Bool := "。，.!,;；：:".toList.contains c

def isKept (c : Char) : Bool := !isIgnorable c

/-- The text without its ignorable characters. -/
def compactText (t : Text) : Text := t.filter isKept

/-- `str.strip`. -/
def stripText (t : Text) : Text := ((t.dropWhile Text.isSpace).reverse.dropWhile Text.isSpace).reverse

/-- An anchor without its ignorable characters, or stripped if it has no others. -/
def compactQuery (query : Text) : Text :=
  if (compactText query).isEmpty then stripText query else compactText query

/-! ### the search -/

/-- What the search raises: an error of the kernel, or that of an index out of range. -/
inductive AnchorError
  | mkb (error : MkbError)
  | indexError

/-- `l[i]`, where an index below zero counts from the end. -/
def pyGet? {α : Type} (l : List α) (i : Int) : Option α :=
  if 0 ≤ i then l[i.toNat]?
  else if -i ≤ l.length then l[(l.length + i).toNat]?
  else none

/-- The position after the last newline before the position. -/
def lineStartOf (t : Text) (i : Nat) : Nat := i - ((t.take i).reverse.takeWhile (· != '\n')).length

section search

variable (R : Printer) (clean startQuery endQuery : Text) (searchStart idx : Nat)

def anchorAmbiguous : AnchorError :=
  .mkb (cutsError "CUTS_ANCHOR_AMBIGUOUS"
    ("cuts[" ++ toString idx ++ "].start appears multiple times before end: " ++ R.pyRepr startQuery))

def startMissing : AnchorError :=
  .mkb (cutsError "CUTS_ANCHOR_MISSING"
    ("cuts[" ++ toString idx ++ "].start not found in clean text: " ++ R.pyRepr startQuery))

def endMissing : AnchorError :=
  .mkb (cutsError "CUTS_ANCHOR_MISSING"
    ("cuts[" ++ toString idx ++ "].end not found after start: " ++ R.pyRepr endQuery))

def orderInvalid : AnchorError :=
  .mkb (cutsError "CUTS_ORDER_INVALID" ("cuts[" ++ toString idx ++ "] end position <= start position"))

/-- The text is found again after the position and before the other one. -/
def foundBetween (t sub : Text) (s e : Nat) : Bool := (t.findFrom sub (s + 1)).any fun second => decide (second < e)

/-- The exact match tier: the span, if both anchors are found as they are. -/
def exactSpan : Except AnchorError (Option (Nat × Nat)) :=
  match clean.findFrom startQuery searchStart with
  | none => .ok none
  | some s =>
    match clean.findFrom endQuery s with
    | none => .ok none
    | some e => do
      Checked.failIf (foundBetween clean startQuery s e) (anchorAmbiguous R startQuery idx)
      let endPos := e + endQuery.length
      return if endPos > s then some (s, endPos) else none

/-- The start of the span: the start of the line if only line marks stand before the anchor. -/
def widenStart (sIdx : Nat) : Nat :=
  let lineStart := lineStartOf clean sIdx
  if (clean.slice lineStart sIdx).all isLineMark then lineStart else sIdx

/-- What the span takes of the text that follows the end anchor. -/
def closing (rest : Text) : Text :=
  rest.takeWhile isCloser ++ ((rest.dropWhile isCloser).head?.filter isStop).toList

/-- The resilient tier: the span between the places of the anchors in the compacted text, widened on both sides. -/
def resilientSpan : Except AnchorError (Nat × Nat) := do
  let kept := keptFrom isKept searchStart (clean.drop searchStart)
  let compactStr := kept.map Prod.fst
  let origIndices := kept.map Prod.snd
  let startCompact := compactQuery startQuery
  let endCompact := compactQuery endQuery
  let cS ← Checked.required (Text.findFrom compactStr startCompact 0) (startMissing R startQuery idx)
  let cE ← Checked.required (Text.findFrom compactStr endCompact cS) (endMissing R endQuery idx)
  Checked.failIf (foundBetween compactStr startCompact cS cE) (anchorAmbiguous R startQuery idx)
  let sIdx ← Checked.required (pyGet? origIndices cS) AnchorError.indexError
  let lastCompactIdx : Int := cE + endCompact.length - 1
  let last ← Checked.required (pyGet? origIndices lastCompactIdx) AnchorError.indexError
  let eIdx := last + 1 + (closing (clean.drop (last + 1))).length
  Checked.failIf (decide (eIdx ≤ widenStart clean sIdx)) (orderInvalid idx)
  return (widenStart clean sIdx, eIdx)

/-- `find_anchor_span`. -/
def findAnchorSpan : Except AnchorError (Nat × Nat) := do
  match ← exactSpan R clean startQuery endQuery searchStart idx with
  | some span => return span
  | none => resilientSpan R clean startQuery endQuery searchStart idx

end search

end KnowledgeBase
