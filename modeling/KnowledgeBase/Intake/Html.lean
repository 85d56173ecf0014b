import KnowledgeBase.Lsrag.Cuts
import Mathlib.Algebra.GroupWithZero.Nat

/-!
# HTML cleaning

The sanitizer and the text extractor, two handlers of the tokens of `HTMLParser`, and the cleaning of plain text. The
parser, `str.lower`, `str.casefold` and the normal form are parameters; the parser hands over names in lower case.
-/

namespace KnowledgeBase

/-- What the parser hands to its handlers. -/
inductive HtmlToken
  | startTag (name : Text) (attrs : List (Text × Option Text))
  | startEndTag (name : Text) (attrs : List (Text × Option Text))
  | endTag (name : Text)
  | data (t : Text)
  | comment (t : Text)

structure HtmlPlatform where
  parse : Text → List HtmlToken
  lower : Text → Text
  casefold : Text → Text
  nfc : Text → Text

def dropElements : List Text :=
  ["script", "style", "svg", "noscript", "iframe", "object", "embed", "nav", "footer", "header", "aside", "form",
    "template"].map String.toList

def allowedAttributes : List Text :=
  ["href", "src", "alt", "title", "colspan", "rowspan", "lang", "datetime"].map String.toList

def voidElements : List Text :=
  ["area", "base", "br", "col", "embed", "hr", "img", "input", "link", "meta", "source", "track", "wbr"].map
    String.toList

def ignoredElements : List Text :=
  ["script", "style", "template", "noscript", "svg", "canvas"].map String.toList

def blockElements : List Text :=
  ["address", "article", "aside", "blockquote", "br", "div", "dl", "dt", "dd", "figcaption", "figure", "footer", "h1",
    "h2", "h3", "h4", "h5", "h6", "header", "hr", "li", "main", "nav", "ol", "p", "pre", "section", "table", "td", "th",
    "tr", "ul"].map String.toList

/-! ### what the sanitizer writes -/

/-- `html.escape` of a character; 34 and 39 are the quotes. -/
def escapeChar (quote : Bool) (c : Char) : Text :=
  if c = '&' then "&amp;".toList
  else if c = '<' then "&lt;".toList
  else if c = '>' then "&gt;".toList
  else if quote = true ∧ c.toNat = 34 then "&quot;".toList
  else if quote = true ∧ c.toNat = 39 then "&#x27;".toList
  else [c]

def escapeHtml (quote : Bool) (t : Text) : Text := t.flatMap (escapeChar quote)

def writeAttribute : Text × Option Text → Text
  | (name, none) => name
  | (name, some value) => name ++ '=' :: Char.ofNat 34 :: (escapeHtml true value ++ [Char.ofNat 34])

/-- A start tag with the attributes selected. -/
def writeStart (name : Text) (selected : List (Text × Option Text)) : Text :=
  '<' :: (name ++ selected.flatMap (fun a => ' ' :: writeAttribute a) ++ ['>'])

def writeEnd (name : Text) : Text := '<' :: '/' :: (name ++ ['>'])

/-! ### the sanitizer -/

/-- `_Sanitizer`, with its parts joined; the evidence counts the names that are logged as dropped. -/
structure Sanitizer where
  parts : Text
  droppedDepth : Nat
  droppedElements : List Text
  droppedAttributes : List Text

namespace HtmlPlatform

variable (P : HtmlPlatform)

def foldAttributes (attrs : List (Text × Option Text)) : List (Text × Option Text) :=
  attrs.map fun a => (P.casefold a.1, a.2)

def handleStarttag (s : Sanitizer) (tag : Text) (attrs : List (Text × Option Text)) : Sanitizer :=
  let normalized := P.casefold tag
  if dropElements.contains normalized then
    { s with droppedElements := s.droppedElements ++ [normalized], droppedDepth := s.droppedDepth + 1 }
  else if s.droppedDepth ≠ 0 then s
  else
    { s with
      parts := s.parts ++
        writeStart normalized ((P.foldAttributes attrs).filter fun a => allowedAttributes.contains a.1)
      droppedAttributes := s.droppedAttributes ++
        ((P.foldAttributes attrs).filter fun a => !allowedAttributes.contains a.1).map Prod.fst }

/-- The end tag of an element that is neither in a dropped element nor void. -/
def closeTag (s : Sanitizer) (normalized : Text) : Sanitizer :=
  if s.droppedDepth = 0 ∧ voidElements.contains normalized = false then
    { s with parts := s.parts ++ writeEnd normalized }
  else s

def handleStartendtag (s : Sanitizer) (tag : Text) (attrs : List (Text × Option Text)) : Sanitizer :=
  let normalized := P.casefold tag
  if dropElements.contains normalized then { s with droppedElements := s.droppedElements ++ [normalized] }
  else closeTag (P.handleStarttag s normalized attrs) normalized

def handleEndtag (s : Sanitizer) (tag : Text) : Sanitizer :=
  let normalized := P.casefold tag
  if dropElements.contains normalized then { s with droppedDepth := s.droppedDepth - 1 }
  else closeTag s normalized

def handleData (s : Sanitizer) (data : Text) : Sanitizer :=
  if s.droppedDepth = 0 then { s with parts := s.parts ++ escapeHtml false data } else s

def sanitizeToken (s : Sanitizer) : HtmlToken → Sanitizer
  | .startTag name attrs => P.handleStarttag s name attrs
  | .startEndTag name attrs => P.handleStartendtag s name attrs
  | .endTag name => P.handleEndtag s name
  | .data t => handleData s t
  | .comment _ => s

/-- `sanitize_html_document`. -/
def sanitizeHtmlDocument (html : Text) : Text × List Text × List Text :=
  let sanitizer := (P.parse html).foldl P.sanitizeToken ⟨[], 0, [], []⟩
  (sanitizer.parts, sanitizer.droppedElements, sanitizer.droppedAttributes)

def sanitizeHtml (html : Text) : Text := (P.sanitizeHtmlDocument html).1

end HtmlPlatform

/-! ### the extractor -/

/-- `DeterministicHtmlTextExtractor`, with its parts joined. -/
structure TextExtractor where
  parts : Text
  ignoredDepth : Nat
  removedTags : List Text

namespace TextExtractor

def startTag (s : TextExtractor) (tag : Text) : TextExtractor :=
  if ignoredElements.contains tag then
    { s with ignoredDepth := s.ignoredDepth + 1, removedTags := s.removedTags ++ [tag] }
  else if s.ignoredDepth = 0 ∧ blockElements.contains tag = true then { s with parts := s.parts ++ ['\n'] }
  else s

def endTag (s : TextExtractor) (tag : Text) : TextExtractor :=
  if ignoredElements.contains tag then { s with ignoredDepth := s.ignoredDepth - 1 }
  else if s.ignoredDepth = 0 ∧ blockElements.contains tag = true then { s with parts := s.parts ++ ['\n'] }
  else s

def extractToken (s : TextExtractor) : HtmlToken → TextExtractor
  | .startTag name _ => s.startTag name
  | .startEndTag name _ => (s.startTag name).endTag name
  | .endTag name => s.endTag name
  | .data t => if s.ignoredDepth = 0 then { s with parts := s.parts ++ t } else s
  | .comment _ => s

end TextExtractor

/-! ### plain text -/

/-- A run of white space without line feeds becomes one blank. -/
def collapseSpaces : Bool → Text → Text
  | _, [] => []
  | inRun, c :: t =>
    if Text.isSpace c && c != '\n' then if inRun then collapseSpaces true t else ' ' :: collapseSpaces true t
    else c :: collapseSpaces false t

/-- A run of three or more line feeds becomes two; the number counts those of the run so far. -/
def collapseBlanks : Nat → Text → Text
  | _, [] => []
  | n, c :: t =>
    if c = '\n' then if n < 2 then c :: collapseBlanks (n + 1) t else collapseBlanks (n + 1) t
    else c :: collapseBlanks 0 t

namespace HtmlPlatform

variable (P : HtmlPlatform)

/-- `clean_plain_text`. -/
def cleanPlainText (value : Text) : Text :=
  stripText (collapseBlanks 0 (collapseSpaces false (P.nfc value.unifyNewlines)))

/-- `extract_html_text`. -/
def extractHtmlText (value : Text) : Text × List Text :=
  let extractor := (P.parse value).foldl TextExtractor.extractToken ⟨[], 0, []⟩
  (P.cleanPlainText extractor.parts, extractor.removedTags)

def cleanEmpty : MkbError := ⟨"CLEAN_EMPTY", "Web cleaning produced no admissible text", 422⟩

/-- A text that cleaning returns must not be empty. -/
def admitText (text : Text) : Except MkbError Text := if text.isEmpty then .error cleanEmpty else .ok text

/-- The text that `clean_html_representation` returns. -/
def cleanHtmlRepresentation (html : Text) : Except MkbError Text :=
  admitText (P.extractHtmlText (P.sanitizeHtml html)).1

end HtmlPlatform

/-! ### what the parser reads -/

/-- Neither NUL, nor white space, a slash or a closing bracket. -/
def isNameChar (c : Char) : Bool := !([0, 9, 10, 12, 13, 32, 47, 62].contains c.toNat)

/-- A name as the parser cuts it. -/
def isTagName (t : Text) : Bool := t.head?.any Char.isAlpha && t.all isNameChar

/-- `CDATA_CONTENT_ELEMENTS`: their content is no markup. -/
def cdataElements : List Text := ["script", "style"].map String.toList

/-- Some character references. -/
def references : List (Text × Char) :=
  [("&amp;".toList, '&'), ("&lt;".toList, '<'), ("&gt;".toList, '>'), ("&quot;".toList, Char.ofNat 34),
    ("&#x27;".toList, Char.ofNat 39)]

/-- The first text spells the second one in front of a stop: by characters, and by references. -/
inductive Spells (stop : Char) : Text → Text → Prop
  | nil : Spells stop [] []
  | char {c : Char} {raw t : Text} : c ≠ stop → c ≠ '&' → Spells stop raw t → Spells stop (c :: raw) (c :: t)
  | reference {r : Text × Char} {raw t : Text} : r ∈ references → Spells stop raw t →
      Spells stop (r.1 ++ raw) (r.2 :: t)

/-- The attributes that a part of a start tag spells. -/
inductive SpellsAttributes : Text → List (Text × Option Text) → Prop
  | nil : SpellsAttributes [] []
  | bare {name raw : Text} {attrs : List (Text × Option Text)} : name ≠ [] → name.all Char.isLower = true →
      SpellsAttributes raw attrs → SpellsAttributes (' ' :: name ++ raw) ((name, none) :: attrs)
  | valued {name rawValue value raw : Text} {attrs : List (Text × Option Text)} : name ≠ [] →
      name.all Char.isLower = true → Spells (Char.ofNat 34) rawValue value → SpellsAttributes raw attrs →
      SpellsAttributes (' ' :: name ++ '=' :: Char.ofNat 34 :: rawValue ++ Char.ofNat 34 :: raw)
        ((name, some value) :: attrs)

/-- The token that a piece of markup spells. -/
inductive SpellsToken (P : HtmlPlatform) : Text → HtmlToken → Prop
  | data {raw t : Text} : Spells '<' raw t → SpellsToken P raw (.data t)
  | startTag {name raw : Text} {attrs : List (Text × Option Text)} : isTagName name = true →
      P.lower name ∉ cdataElements → SpellsAttributes raw attrs →
      SpellsToken P ('<' :: name ++ raw ++ ['>']) (.startTag (P.lower name) attrs)
  | endTag {name : Text} : isTagName name = true →
      SpellsToken P ('<' :: '/' :: name ++ ['>']) (.endTag (P.lower name))

/-- The parser joins the texts between two tags. -/
def joinData : List HtmlToken → List HtmlToken
  | [] => []
  | .data t :: rest =>
    match joinData rest with
    | .data u :: r => .data (t ++ u) :: r
    | r => if t.isEmpty then r else .data t :: r
  | token :: rest => token :: joinData rest

/-- The documented behaviour of the standard library: the parser reads markup as the tokens that it spells; folding and
lowering do what they do to names; and the normal form neither makes white space of other characters, nor drops one of
these, nor reaches across white space. -/
structure HtmlPlatform.Lawful (P : HtmlPlatform) : Prop where
  parse (l : List (Text × HtmlToken)) : (∀ p ∈ l, SpellsToken P p.1 p.2) →
    joinData (P.parse (l.flatMap Prod.fst)) = joinData (l.map Prod.snd)
  casefold_casefold (t : Text) : P.casefold (P.casefold t) = P.casefold t
  casefold_lower (t : Text) : P.casefold (P.lower t) = P.casefold t
  ascii (t : Text) : (t.all fun c => c.isLower || c.isDigit) = true → P.lower t = t ∧ P.casefold t = t
  casefold_tagName (t : Text) : isTagName t = true → isTagName (P.casefold t) = true
  nfc_weight : ∃ weight : Char → Nat, (∀ c, weight c = 0 ↔ Text.isSpace c = true) ∧
    ∀ t, ((P.nfc t).map weight).sum = (t.map weight).sum
  nfc_blank (t w : Text) : w.isBlank = true → ∃ w', w'.isBlank = true ∧ P.nfc (t ++ w) = P.nfc t ++ w'

/-! ### well-formed streams -/

/-- What a well-formed stream is made of: texts, comments, void elements, self-closing tags, and elements with what they
enclose, each followed by the rest. -/
inductive HtmlForest
  | nil
  | text (t : Text) (rest : HtmlForest)
  | comment (t : Text) (rest : HtmlForest)
  | void (name : Text) (attrs : List (Text × Option Text)) (rest : HtmlForest)
  | selfClosing (name : Text) (attrs : List (Text × Option Text)) (rest : HtmlForest)
  | element (name : Text) (attrs : List (Text × Option Text)) (children rest : HtmlForest)

namespace HtmlForest

def tokens : HtmlForest → List HtmlToken
  | nil => []
  | text t rest => .data t :: rest.tokens
  | comment t rest => .comment t :: rest.tokens
  | void name attrs rest => .startTag name attrs :: rest.tokens
  | selfClosing name attrs rest => .startEndTag name attrs :: rest.tokens
  | element name attrs children rest => .startTag name attrs :: (children.tokens ++ .endTag name :: rest.tokens)

/-- Exactly the HTML void elements have no end tag, and the names are names of tags. -/
def WellFormed (P : HtmlPlatform) : HtmlForest → Prop
  | nil => True
  | text _ rest => rest.WellFormed P
  | comment _ rest => rest.WellFormed P
  | void name _ rest => (isTagName name = true ∧ voidElements.contains (P.casefold name) = true) ∧ rest.WellFormed P
  | selfClosing name _ rest => isTagName name = true ∧ rest.WellFormed P
  | element name _ children rest =>
    (isTagName name = true ∧ voidElements.contains (P.casefold name) = false) ∧ children.WellFormed P ∧
      rest.WellFormed P

end HtmlForest

end KnowledgeBase
