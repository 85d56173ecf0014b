import KnowledgeBase.Library.JsonNumber
import Mathlib.Data.List.Lex
import Mathlib.Tactic.IntervalCases

/-!
# JSON texts

`scan` reads a text as the tree it is written as, with the members of an object in their order and as often as they
occur; `value` makes of every object the dictionary of its members, sorted by name, where the last member of a name
wins; `render` writes a tree without blanks. The doubles are a parameter, with the text of each and the double of a
text.
-/

namespace KnowledgeBase

/-- The double that a number denotes, the text of a double, and which doubles are finite. -/
structure Doubles (D : Type) where
  ofText : CodePoints → D
  text : D → CodePoints
  finite : D → Bool

/-- The text of a finite double is a number with a fraction or an exponent, in ASCII, and it denotes the double. -/
structure Doubles.Lawful {D : Type} (F : Doubles D) : Prop where
  number : ∀ d, F.finite d = true → ∃ integer tail, JsonText.lexNumber (F.text d) = some (integer, tail, []) ∧
    tail ≠ [] ∧ integer ++ tail = F.text d
  ofText_text : ∀ d, F.finite d = true → F.ofText (F.text d) = d
  ascii : ∀ d, F.finite d = true → ∀ c ∈ F.text d, c < 128

inductive JsonTree (D : Type)
  | null
  | bool (b : Bool)
  | int (n : Int)
  | float (d : D)
  | str (s : CodePoints)
  | arr (items : List (JsonTree D))
  | obj (members : List (CodePoints × JsonTree D))

namespace JsonText

abbrev quotationMark : Nat := 34
abbrev comma : Nat := 44
abbrev colon : Nat := 58
abbrev leftBracket : Nat := 91
abbrev reverseSolidus : Nat := 92
abbrev rightBracket : Nat := 93
abbrev leftBrace : Nat := 123
abbrev rightBrace : Nat := 125

abbrev nullText : CodePoints := [110, 117, 108, 108]
abbrev trueText : CodePoints := [116, 114, 117, 101]
abbrev falseText : CodePoints := [102, 97, 108, 115, 101]

/-- The limit of the digits of an integer. -/
def maxDigits : Nat := 4300

def isBlank (c : Nat) : Bool := c = 32 || c = 9 || c = 10 || c = 13

def skipBlanks (text : CodePoints) : CodePoints := text.dropWhile isBlank

/-! ### strings -/

def hexValue? (c : Nat) : Option Nat :=
  if isDigit c then some (c - 48)
  else if 97 ≤ c && c ≤ 102 then some (c - 87)
  else if 65 ≤ c && c ≤ 70 then some (c - 55)
  else none

/-- Four hexadecimal digits. -/
def scanUnit : CodePoints → Option (Nat × CodePoints)
  | a :: b :: c :: d :: rest => do
    let a ← hexValue? a
    let b ← hexValue? b
    let c ← hexValue? c
    let d ← hexValue? d
    some (((a * 16 + b) * 16 + c) * 16 + d, rest)
  | _ => none

def isHighSurrogate (c : Nat) : Bool := 0xD800 ≤ c && c ≤ 0xDBFF

def isLowSurrogate (c : Nat) : Bool := 0xDC00 ≤ c && c ≤ 0xDFFF

/-- The escape of a low surrogate. -/
def scanLow : CodePoints → Option (Nat × CodePoints)
  | c :: u :: rest =>
    if c = reverseSolidus && u = 117 then (scanUnit rest).filter fun (unit, _) => isLowSurrogate unit else none
  | _ => none

/-- The escapes of two characters. -/
def shortEscapes : List (Nat × Nat) :=
  [(34, 34), (92, 92), (47, 47), (98, 8), (102, 12), (110, 10), (114, 13), (116, 9)]

/-- What follows a reverse solidus; a high surrogate is joined with the low one that is escaped after it. -/
def scanEscape : CodePoints → Option (Nat × CodePoints)
  | [] => none
  | c :: rest =>
    if c = 117 then do
      let (unit, rest) ← scanUnit rest
      match (if isHighSurrogate unit then scanLow rest else none) with
      | some (low, rest) => some (0x10000 + (unit - 0xD800) * 0x400 + (low - 0xDC00), rest)
      | none => some (unit, rest)
    else (shortEscapes.lookup c).map fun d => (d, rest)

/-- The characters of a string up to its end. -/
def scanChars : Nat → CodePoints → Option (CodePoints × CodePoints)
  | 0, _ => none
  | _ + 1, [] => none
  | n + 1, c :: rest =>
    if c = quotationMark then some ([], rest)
    else if c = reverseSolidus then do
      let (d, rest) ← scanEscape rest
      let (s, rest) ← scanChars n rest
      some (d :: s, rest)
    else if c < 32 then none
    else do
      let (s, rest) ← scanChars n rest
      some (c :: s, rest)

/-- Every character of a string takes one of the text, so that its length is enough. -/
def scanString (text : CodePoints) : Option (CodePoints × CodePoints) := scanChars text.length text

def hexChar (d : Nat) : Nat := if d < 10 then d + 48 else d + 87

/-- A character of a string as it is written. -/
def escapeChar (c : Nat) : CodePoints :=
  if c = 34 then [reverseSolidus, 34]
  else if c = 92 then [reverseSolidus, 92]
  else if c = 8 then [reverseSolidus, 98]
  else if c = 12 then [reverseSolidus, 102]
  else if c = 10 then [reverseSolidus, 110]
  else if c = 13 then [reverseSolidus, 114]
  else if c = 9 then [reverseSolidus, 116]
  else if c < 32 then [reverseSolidus, 117, 48, 48, hexChar (c / 16), hexChar (c % 16)]
  else [c]

/-- A string up to its end. -/
def stringText (s : CodePoints) : CodePoints := s.flatMap escapeChar ++ [quotationMark]

section trees

variable {D : Type} (F : Doubles D)

/-! ### reading -/

/-- A number: an integer within the limit, or a double. -/
def scanNumber (text : CodePoints) : Option (JsonTree D × CodePoints) :=
  match lexNumber text with
  | none => none
  | some (integer, tail, rest) =>
    if tail.isEmpty then
      if maxDigits < (lexSign integer).2.length then none else some (.int (intOf integer), rest)
    else some (.float (F.ofText (integer ++ tail)), rest)

/-- A literal name or a number. -/
def scanAtom (text : CodePoints) : Option (JsonTree D × CodePoints) :=
  match text.dropPrefix? nullText with
  | some rest => some (.null, rest)
  | none =>
    match text.dropPrefix? trueText with
    | some rest => some (.bool true, rest)
    | none =>
      match text.dropPrefix? falseText with
      | some rest => some (.bool false, rest)
      | none => scanNumber F text

mutual

def scanValue : Nat → CodePoints → Option (JsonTree D × CodePoints)
  | 0, _ => none
  | _ + 1, [] => none
  | n + 1, c :: rest =>
    if c = quotationMark then (scanString rest).map fun (s, rest) => (.str s, rest)
    else if c = leftBracket then
      match skipBlanks rest with
      | [] => none
      | d :: rest =>
        if d = rightBracket then some (.arr [], rest)
        else (scanItems n (d :: rest)).map fun (items, rest) => (.arr items, rest)
    else if c = leftBrace then
      match skipBlanks rest with
      | [] => none
      | d :: rest =>
        if d = rightBrace then some (.obj [], rest)
        else (scanMembers n (d :: rest)).map fun (members, rest) => (.obj members, rest)
    else scanAtom F (c :: rest)

/-- The items of an array, at least one, up to its end. -/
def scanItems : Nat → CodePoints → Option (List (JsonTree D) × CodePoints)
  | 0, _ => none
  | n + 1, text =>
    match scanValue n text with
    | none => none
    | some (item, rest) =>
      match skipBlanks rest with
      | [] => none
      | c :: rest =>
        if c = comma then (scanItems n (skipBlanks rest)).map fun (items, rest) => (item :: items, rest)
        else if c = rightBracket then some ([item], rest)
        else none

/-- The members of an object, at least one, up to its end. -/
def scanMembers : Nat → CodePoints → Option (List (CodePoints × JsonTree D) × CodePoints)
  | 0, _ => none
  | _ + 1, [] => none
  | n + 1, c :: rest =>
    if c ≠ quotationMark then none
    else match scanString rest with
      | none => none
      | some (key, rest) =>
        match skipBlanks rest with
        | [] => none
        | c :: rest =>
          if c ≠ colon then none
          else match scanValue n (skipBlanks rest) with
            | none => none
            | some (item, rest) =>
              match skipBlanks rest with
              | [] => none
              | c :: rest =>
                if c = comma then
                  (scanMembers n (skipBlanks rest)).map fun (members, rest) => ((key, item) :: members, rest)
                else if c = rightBrace then some ([(key, item)], rest)
                else none

end

/-- The tree of a text. Every value takes a character of the text, so that its length is enough. -/
def scan (text : CodePoints) : Option (JsonTree D) :=
  match scanValue F (text.length + 1) (skipBlanks text) with
  | none => none
  | some (tree, rest) => if (skipBlanks rest).isEmpty then some tree else none

/-! ### dictionaries -/

/-- A dictionary with a value put under a name. -/
def putMember {α : Type} : List (CodePoints × α) → CodePoints → α → List (CodePoints × α)
  | [], k, v => [(k, v)]
  | (k', v') :: d, k, v =>
    if k < k' then (k, v) :: (k', v') :: d else if k = k' then (k, v) :: d else (k', v') :: putMember d k v

/-- The dictionary of a list of members. -/
def ofMembers {α : Type} (members : List (CodePoints × α)) : List (CodePoints × α) :=
  members.foldl (fun d m => putMember d m.1 m.2) []

mutual

/-- The value of a tree: every object is the dictionary of its members. -/
def value : JsonTree D → JsonTree D
  | .null => .null
  | .bool b => .bool b
  | .int n => .int n
  | .float d => .float d
  | .str s => .str s
  | .arr items => .arr (valueItems items)
  | .obj members => .obj (ofMembers (valueMembers members))

def valueItems : List (JsonTree D) → List (JsonTree D)
  | [] => []
  | item :: items => value item :: valueItems items

def valueMembers : List (CodePoints × JsonTree D) → List (CodePoints × JsonTree D)
  | [] => []
  | (key, item) :: members => (key, value item) :: valueMembers members

end

/-! ### writing -/

mutual

def render : JsonTree D → CodePoints
  | .null => nullText
  | .bool true => trueText
  | .bool false => falseText
  | .int n => intText n
  | .float d => F.text d
  | .str s => quotationMark :: stringText s
  | .arr items => leftBracket :: renderItems items
  | .obj members => leftBrace :: renderMembers members

def renderItems : List (JsonTree D) → CodePoints
  | [] => [rightBracket]
  | item :: items => render item ++ renderMoreItems items

def renderMoreItems : List (JsonTree D) → CodePoints
  | [] => [rightBracket]
  | item :: items => comma :: render item ++ renderMoreItems items

def renderMembers : List (CodePoints × JsonTree D) → CodePoints
  | [] => [rightBrace]
  | (key, item) :: members => quotationMark :: stringText key ++ colon :: render item ++ renderMoreMembers members

def renderMoreMembers : List (CodePoints × JsonTree D) → CodePoints
  | [] => [rightBrace]
  | (key, item) :: members =>
    comma :: quotationMark :: stringText key ++ colon :: render item ++ renderMoreMembers members

end

mutual

/-- A tree and all the trees in it. -/
def subtrees : JsonTree D → List (JsonTree D)
  | .arr items => .arr items :: subtreesItems items
  | .obj members => .obj members :: subtreesMembers members
  | .null => [.null]
  | .bool b => [.bool b]
  | .int n => [.int n]
  | .float d => [.float d]
  | .str s => [.str s]

def subtreesItems : List (JsonTree D) → List (JsonTree D)
  | [] => []
  | item :: items => subtrees item ++ subtreesItems items

def subtreesMembers : List (CodePoints × JsonTree D) → List (JsonTree D)
  | [] => []
  | (_, item) :: members => subtrees item ++ subtreesMembers members

end

/-- A number that can be written: a finite double, or an integer within the limit. -/
def writable : JsonTree D → Bool
  | .int n => (natText n.natAbs).length ≤ maxDigits
  | .float d => F.finite d
  | _ => true

/-- The text of a tree, if all its numbers can be written. -/
def dumps (tree : JsonTree D) : Option CodePoints :=
  if (subtrees tree).all (writable F) then some (render F tree) else none

end trees

end JsonText

end KnowledgeBase
