import KnowledgeBase.Lsrag.Adopt
import KnowledgeBase.Lsrag.Cuts

/-!
# Assembly from cuts

The layered candidate that a pack of quoted cuts stands for: one g1 block for each cut, holding the slice that its
anchors quote, behind the g0 block of the system. The `context_meta` of the pack is handed on unread.
-/

namespace KnowledgeBase

/-! ### the wire shape of `context_meta` -/

/-- `_META_KEYS`. -/
def metaKeys : List String :=
  ["author", "channel", "default_locale", "publisher", "realm", "source_name", "source_url", "tags", "title", "type"]

/-- `_nullable_text` on a member that may be absent. -/
def nullableText? (members : Json.Dict) (key : String) : Option (Option (Option Text)) :=
  match members.lookup key with
  | none => some none
  | some .null => some (some none)
  | some (.str t) => some (some (some t))
  | some _ => none

def textOf? : Json → Option Text
  | .str t => some t
  | _ => none

/-- `tags`: a list of strings, or null. -/
def nullableTags? (members : Json.Dict) : Option (Option (Option (List Text))) :=
  match members.lookup "tags" with
  | none => some none
  | some .null => some (some none)
  | some (.arr tags) => (tags.mapM textOf?).map fun tags => some (some tags)
  | some _ => none

/-- The `context_meta` that `validate_layered_content` reads, if it has the wire shape. -/
def LayeredMeta.ofDict? (members : Json.Dict) : Option LayeredMeta := do
  guard (members.all fun member => metaKeys.contains member.1)
  let title ← nullableText? members "title"
  let author ← nullableText? members "author"
  let publisher ← nullableText? members "publisher"
  let realm ← nullableText? members "realm"
  let type ← nullableText? members "type"
  let channel ← nullableText? members "channel"
  let defaultLocale ← nullableText? members "default_locale"
  let sourceName ← nullableText? members "source_name"
  let sourceUrl ← nullableText? members "source_url"
  let tags ← nullableTags? members
  return ⟨title, author, publisher, realm, type, tags, channel, defaultLocale, sourceName, sourceUrl⟩

/-! ### the assembled candidate -/

/-- A candidate of layered blocks, its `context_meta` as it came. -/
structure RawCandidate where
  contextMeta : Option Json.Dict
  blocks : List LayeredBlock

/-- The candidate of the wire shape, if its `context_meta` has it. -/
def RawCandidate.wire? (candidate : RawCandidate) : Option LayeredContent :=
  (LayeredMeta.ofDict? (candidate.contextMeta.getD [])).map fun contextMeta =>
    { contextMeta := contextMeta, date := none, knowledgeTree := none, blocks := candidate.blocks }

section assembly

variable {β : Type} (P : Platform β) (R : Printer)

/-- The g0 block of the system. -/
def systemG0 (clean : Text) : LayeredBlock := ⟨0, 0, ⟨none, some clean⟩, ⟨none, none⟩⟩

/-- `overlay_system_g0`: the g0 blocks of the candidate give way to that of the system, the others are numbered anew. -/
def overlaySystemG0 (cleanText : Text) (candidate : RawCandidate) : RawCandidate :=
  let remaining := candidate.blocks.filter fun block => block.granularity != 0
  ⟨some (candidate.contextMeta.getD []), systemG0 (normalizeLayeredText P cleanText) ::
    remaining.zipIdx.map fun p => { p.1 with blockId := p.2 + 1 }⟩

/-- The g1 block of a cut. -/
def cutBlock (clean : Text) (idx : Nat) (cut : ValidatedCut) : Except AnchorError LayeredBlock := do
  let span ← findAnchorSpan R clean cut.startAnchor cut.endAnchor 0 idx
  return ⟨idx + 1, 1, ⟨cut.title, some (clean.slice span.1 span.2)⟩, ⟨none, none⟩⟩

/-- `assemble_from_cuts`. -/
def assembleFromCuts (cleanText : Text) (cutsPack : Json) : Except AnchorError RawCandidate := do
  let clean := normalizeLayeredText P cleanText
  let validated ← (validateCuts R cutsPack).mapError AnchorError.mkb
  let blocks ← Checked.mapEach validated.cuts.zipIdx fun p => cutBlock R clean p.2 p.1
  return overlaySystemG0 P clean ⟨validated.contextMeta, blocks⟩

end assembly

end KnowledgeBase
