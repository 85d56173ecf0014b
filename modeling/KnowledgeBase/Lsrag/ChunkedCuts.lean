import KnowledgeBase.Lsrag.Cuts
import Mathlib.Data.List.DropRight

/-!
# Chunked cuts

The JSON user material of the structurize stage, and the path that sends a long material in chunks: split in front of
the markdown headings, packed greedily, one run for each chunk, and the cuts of the runs put together. `γ` is the type
of a cut.
-/

namespace KnowledgeBase

open Checked

/-! ### the user material -/

/-- One character of a JSON string, written without `ensure_ascii`. -/
def jsonEscapeChar (c : Char) : Text :=
  if c == Char.ofNat 34 || c == '\\' then ['\\', c]
  else if c == '\n' then ['\\', 'n']
  else if c == '\r' then ['\\', 'r']
  else if c == '\t' then ['\\', 't']
  else if c == Char.ofNat 8 then ['\\', 'b']
  else if c == Char.ofNat 12 then ['\\', 'f']
  else if c.toNat < 32 then ['\\', 'u'] ++ Printer.hexPadded 4 c.toNat
  else [c]

def jsonString (t : Text) : Text := [Char.ofNat 34] ++ t.flatMap jsonEscapeChar ++ [Char.ofNat 34]

/-- The member between its separators. -/
def jsonMember (key : String) (value : Text) : Text := jsonString key.toList ++ [':'] ++ value

/-- `_bjson_user_material`; a blank markdown is no markdown. -/
def bjsonUserMaterial (cleanText : Text) (markdownText : Option Text) : Text :=
  ['\x7b'] ++ jsonMember "clean" (jsonString cleanText) ++ [','] ++
    jsonMember "markdown" (((markdownText.filter fun t => !t.isBlank).map jsonString).getD "null".toList) ++ [','] ++
    jsonMember "schema_version" (jsonString "mkb.b-json-material.v1".toList) ++ ['\x7d']

/-! ### sections and chunks -/

/-- A line break before a markdown heading. -/
def headingAt : Text → Bool
  | c :: d :: rest => c == '\n' && d == '#' && (rest.dropWhile (· == '#')).head? == some ' '
  | _ => false

/-- The character in front of the first piece. -/
def consHead (c : Char) : List Text → List Text
  | [] => [[c]]
  | piece :: pieces => (c :: piece) :: pieces

/-- `re.split` at the places in front of a suffix that matches. -/
def splitBefore (isMatch : Text → Bool) : Text → List Text
  | [] => [[]]
  | c :: t =>
    if isMatch (c :: t) then [] :: consHead c (splitBefore isMatch t) else consHead c (splitBefore isMatch t)

def stripNewlines (t : Text) : Text := (t.dropWhile (· == '\n')).rdropWhile (· == '\n')

/-- The pieces without the line breaks around them, the empty ones left out. -/
def trimmedPieces (pieces : List Text) : List Text := (pieces.map stripNewlines).filter fun piece => !piece.isEmpty

/-- The sections of a text. -/
def sectionsOf (text : Text) : List Text := trimmedPieces (splitBefore headingAt ('\n' :: text))

def chunkLimit : Nat := 10000

/-- The chunks closed so far, and the sections of the open one with their length. -/
structure ChunkState where
  chunks : List Text
  current : List Text
  length : Nat

def joinSections (sections : List Text) : Text := ['\n', '\n'].intercalate sections

def ChunkState.add (s : ChunkState) (sec : Text) : ChunkState :=
  if decide (chunkLimit < s.length + sec.length) && !s.current.isEmpty then
    ⟨s.chunks ++ [joinSections s.current], [sec], sec.length⟩
  else ⟨s.chunks, s.current ++ [sec], s.length + sec.length⟩

/-- The prompts of the chunked path. -/
def promptChunks (promptInput : Text) : List Text :=
  let s := (sectionsOf promptInput).foldl ChunkState.add ⟨[], [], 0⟩
  if s.current.isEmpty then s.chunks else s.chunks ++ [joinSections s.current]

/-! ### the runs -/

/-- The structured output of a run: no mapping, or a mapping whose cuts, if they are a list, may hold other values. -/
abbrev CutsOutput (γ : Type) := Option (Option (List (Option γ)))

/-- The cuts of one output. -/
def outputCuts {γ : Type} : CutsOutput γ → Except MkbError (List γ)
  | none => .error ⟨"STRUCTURE_CANDIDATE_INVALID", "B.json worker did not return structured output", 422⟩
  | some cuts => .ok ((cuts.getD []).reduceOption)

/-- The n-th run and its cuts. -/
def runChunk {γ : Type} (run : Nat → Text → Except MkbError (CutsOutput γ)) (chunk : Text × Nat) :
    Except MkbError (List γ) := do
  let output ← run chunk.2 chunk.1
  outputCuts output

/-- The chunked path of `_cli_layered_candidate`. -/
def chunkedCuts {γ : Type} (run : Nat → Text → Except MkbError (CutsOutput γ)) (promptInput : Text) :
    Except MkbError (List γ) := do
  let cuts ← mapEach (promptChunks promptInput).zipIdx (runChunk run)
  return cuts.flatten

end KnowledgeBase
