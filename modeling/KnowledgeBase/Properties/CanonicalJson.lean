import KnowledgeBase.Intake.Decoding
import KnowledgeBase.Library.Checked

/-!
# Canonical JSON

Whatever is classified as JSON has been accepted by the canonicaliser once, so that it is never refused when it is
decoded: `canonicalJson_iff` says that what comes out is a canonical form of the document if and only if the document is
one of I-JSON.
-/

namespace KnowledgeBase

open Checked JsonText

section doubles

variable {D : Type} {F : Doubles D}

/-- The text is one of I-JSON. -/
def IsIJson (F : Doubles D) (text : CodePoints) : Prop := ∃ tree, scan F text = some tree ∧ IJson F tree

/-- The decoding of text, HTML and JSON. -/
abbrev decodeTextJsonHtml (F : Doubles D) (P : Decoders) (content : AcquiredContent) : Except MkbError DecodedText :=
  decodeContent F P "intake.decode.text_json_html" content

/-- The decoding raises the typed error exactly when the text is not one of I-JSON, and else yields a text with its
UTF-8 that means the same and that the canonicaliser leaves as it is. -/
structure DecodesCanonically (F : Doubles D) (P : Decoders) (content : AcquiredContent) : Prop where
  typed : ∀ e, decodeTextJsonHtml F P content = .error e → e.code = "DECODE_JSON_INVALID"
  refuses : (∃ e, decodeTextJsonHtml F P content = .error e) ↔ ¬ IsIJson F content.rawText
  encodable : ∀ out, decodeTextJsonHtml F P content = .ok out → encodeUtf8 out.text = some out.utf8
  means : ∀ out, decodeTextJsonHtml F P content = .ok out → ∃ tree tree', scan F content.rawText = some tree ∧
    scan F out.text = some tree' ∧ meaning tree' = meaning tree
  fixed : ∀ out, decodeTextJsonHtml F P content = .ok out → canonicalJsonText F out.text = .ok out.text

/-- Two documents with one text mean the same. -/
def Separates (F : Doubles D) (P : Decoders) (content content' : AcquiredContent) : Prop :=
  ∀ out out' tree tree', decodeTextJsonHtml F P content = .ok out → decodeTextJsonHtml F P content' = .ok out' →
    out.text = out'.text → scan F content.rawText = some tree → scan F content'.rawText = some tree' →
    meaning tree = meaning tree'

/-! ### the canonicaliser -/

theorem canonicalJsonText_ok {text out : CodePoints} (h : canonicalJsonText F text = .ok out) :
    ∃ tree, scan F text = some tree ∧ dumps F (JsonText.value tree) = some out := by
  unfold canonicalJsonText at h
  split at h
  · cases h
  next tree hscan =>
    split at h
    · cases h
    next hdumps =>
      cases h
      exact ⟨tree, hscan, hdumps⟩

theorem canonicalJsonText_fixed (hF : F.Lawful) {text out : CodePoints} (h : canonicalJsonText F text = .ok out) :
    canonicalJsonText F out = .ok out := by
  obtain ⟨tree, -, hdumps⟩ := canonicalJsonText_ok h
  unfold canonicalJsonText
  rw [scan_dumps hF hdumps]
  dsimp only
  rw [value_value, hdumps]

theorem encodeUtf8_of_iJson (hF : F.Lawful) {tree : JsonTree D} {out : CodePoints} (h : IJson F tree)
    (hdumps : dumps F (JsonText.value tree) = some out) : ∃ utf8, encodeUtf8 out = some utf8 := by
  unfold dumps at hdumps
  split at hdumps
  next hwritable =>
    obtain rfl := Option.some.inj hdumps
    have hscalar := scalar_render hF tree h (List.all_eq_true.1 hwritable)
    refine ⟨_, if_pos ?_⟩
    exact List.all_eq_true.2 hscalar
  · cases hdumps

/-! ### classification -/

theorem verifiedMediaType_json {declared : Option String} {detected mode : String}
    (h : verifiedMediaType declared detected mode = .ok "application/json") :
    detected = "application/json" ∨ detected = "application/octet-stream" := by
  unfold verifiedMediaType at h
  split at h
  · cases h
  split at h
  · cases h
  split at h
  · cases h
  split at h
  · exact .inl (Except.ok.inj h)
  split at h
  next hoffice =>
    -- an office document is not declared as JSON
    cases h
    exact absurd hoffice (by simp [officeDocuments])
  split at h
  · exact .inl (Except.ok.inj h)
  next hoctet => exact .inr (by simpa using hoctet)

theorem sniffMediaType_spec {C : Classifier} {value : ByteArray} :
    (sniffMediaType F C value = "application/json" → ∃ text out, decodeUtf8Sig value = some text ∧
      canonicalJsonText F (codePoints text) = .ok out) ∧
    (sniffMediaType F C value = "application/octet-stream" → decodeUtf8Sig value = none) := by
  unfold sniffMediaType
  split
  · exact ⟨fun h => absurd h (by decide), fun h => absurd h (by decide)⟩
  split
  · exact ⟨fun h => absurd h (by decide), fun h => absurd h (by decide)⟩
  split
  · exact ⟨fun h => absurd h (by decide), fun h => absurd h (by decide)⟩
  split
  · exact ⟨fun h => absurd h (by decide), fun h => absurd h (by decide)⟩
  split
  · exact ⟨fun h => absurd h (by decide), fun h => absurd h (by decide)⟩
  split
  · exact ⟨fun h => absurd h (by decide), fun h => absurd h (by decide)⟩
  split
  next hnone => exact ⟨fun h => absurd h (by decide), fun _ => hnone⟩
  next text htext =>
    dsimp only
    split
    next hjson =>
      refine ⟨fun _ => ⟨text, ?_⟩, fun h => absurd h (by decide)⟩
      rw [Bool.and_eq_true] at hjson
      cases hcanonical : canonicalJsonText F (codePoints text) with
      | error e =>
        rw [hcanonical] at hjson
        exact absurd hjson.2 Bool.false_ne_true
      | ok out => exact ⟨out, htext, rfl⟩
    · split
      · exact ⟨fun h => absurd h (by decide), fun h => absurd h (by decide)⟩
      · exact ⟨fun h => absurd h (by decide), fun h => absurd h (by decide)⟩

theorem representationFromBytes_json {C : Classifier} {declared : Option String} {mode : String} {data : ByteArray}
    {content : AcquiredContent} (h : representationFromBytes F C declared mode data = .ok content)
    (hjson : content.mediaType = "application/json") :
    content.isBinary = false ∧ ∃ out, canonicalJsonText F content.rawText = .ok out := by
  unfold representationFromBytes at h
  obtain ⟨verified, hverified, h⟩ := bind_ok_iff.1 h
  obtain ⟨rawText, hraw, h⟩ := bind_ok_iff.1 h
  split at h
  · cases h
  cases h
  obtain rfl : verified = "application/json" := hjson
  have hbinary : (!(isTextType "application/json" || "application/json" = "application/json")) = false := by decide
  refine ⟨hbinary, ?_⟩
  simp only at hraw
  rcases verifiedMediaType_json hverified with hdetected | hdetected
  · obtain ⟨text, out, htext, hcanonical⟩ := sniffMediaType_spec.1 hdetected
    rw [htext] at hraw
    cases hraw
    exact ⟨out, hcanonical⟩
  · rw [sniffMediaType_spec.2 hdetected] at hraw
    cases hraw

/-! ### decoding -/

variable {P : Decoders} {content : AcquiredContent} {canonical : CodePoints}

theorem decode_json (hjson : content.mediaType = "application/json") (hbinary : content.isBinary = false)
    (h : canonicalJsonText F content.rawText = .ok canonical) :
    decodeTextJsonHtml F P content = match encodeUtf8 canonical with
      | none => .error ⟨"UnicodeEncodeError", "surrogates not allowed", 500⟩
      | some utf8 => .ok ⟨canonical, utf8⟩ := by
  unfold decodeTextJsonHtml decodeContent decodedText
  rw [hjson, hbinary, h]
  rfl

theorem decode_ok (hjson : content.mediaType = "application/json") (hbinary : content.isBinary = false)
    (h : canonicalJsonText F content.rawText = .ok canonical) {out : DecodedText}
    (hout : decodeTextJsonHtml F P content = .ok out) :
    out.text = canonical ∧ encodeUtf8 canonical = some out.utf8 := by
  rw [decode_json hjson hbinary h] at hout
  cases hencode : encodeUtf8 canonical with
  | none => simp [hencode] at hout
  | some utf8 =>
    rw [hencode] at hout
    cases hout
    exact ⟨rfl, rfl⟩

theorem decodesCanonically_iff (hF : F.Lawful) (hjson : content.mediaType = "application/json")
    (hbinary : content.isBinary = false) (h : canonicalJsonText F content.rawText = .ok canonical) :
    DecodesCanonically F P content ↔ IsIJson F content.rawText := by
  obtain ⟨tree, hscan, hdumps⟩ := canonicalJsonText_ok h
  constructor
  · intro hdecodes
    by_contra hnot
    obtain ⟨e, he⟩ := hdecodes.refuses.2 hnot
    have hcode := hdecodes.typed e he
    -- the only error left is that of the encoder
    rw [decode_json hjson hbinary h] at he
    cases hencode : encodeUtf8 canonical with
    | none =>
      rw [hencode] at he
      cases he
      exact absurd hcode (by decide)
    | some utf8 =>
      rw [hencode] at he
      cases he
  · intro hiJson
    obtain ⟨tree', hscan', htree⟩ := hiJson
    obtain rfl := Option.some.inj (hscan.symm.trans hscan')
    obtain ⟨utf8, hencode⟩ := encodeUtf8_of_iJson hF htree hdumps
    have hdecode : decodeTextJsonHtml F P content = .ok ⟨canonical, utf8⟩ := by
      rw [decode_json hjson hbinary h, hencode]
    refine ⟨fun e he => ?_, ⟨?_, fun hnot => absurd ⟨tree, hscan, htree⟩ hnot⟩, fun out hout => ?_, fun out hout => ?_,
      fun out hout => ?_⟩
    · rw [hdecode] at he
      cases he
    · rintro ⟨e, he⟩
      rw [hdecode] at he
      cases he
    · obtain ⟨htext, hutf8⟩ := decode_ok hjson hbinary h hout
      rw [htext, hutf8]
    · obtain ⟨htext, -⟩ := decode_ok hjson hbinary h hout
      refine ⟨tree, JsonText.value tree, hscan, ?_, meaning_value htree⟩
      rw [htext, scan_dumps hF hdumps]
    · obtain ⟨htext, -⟩ := decode_ok hjson hbinary h hout
      rw [htext]
      exact canonicalJsonText_fixed hF h

theorem separates_of_iJson (hF : F.Lawful) {content' : AcquiredContent} {canonical' : CodePoints}
    (hjson : content.mediaType = "application/json") (hbinary : content.isBinary = false)
    (h : canonicalJsonText F content.rawText = .ok canonical) (hjson' : content'.mediaType = "application/json")
    (hbinary' : content'.isBinary = false) (h' : canonicalJsonText F content'.rawText = .ok canonical')
    (hiJson : IsIJson F content.rawText) (hiJson' : IsIJson F content'.rawText) : Separates F P content content' := by
  intro out out' tree tree' hout hout' htext hscan hscan'
  obtain ⟨written, hwritten, hdumps⟩ := canonicalJsonText_ok h
  obtain ⟨written', hwritten', hdumps'⟩ := canonicalJsonText_ok h'
  obtain rfl := Option.some.inj (hwritten.symm.trans hscan)
  obtain rfl := Option.some.inj (hwritten'.symm.trans hscan')
  obtain ⟨_, hread, htree⟩ := hiJson
  obtain rfl := Option.some.inj (hwritten.symm.trans hread)
  obtain ⟨_, hread', htree'⟩ := hiJson'
  obtain rfl := Option.some.inj (hwritten'.symm.trans hread')
  have hsame : canonical = canonical' := by
    rw [← (decode_ok hjson hbinary h hout).1, ← (decode_ok hjson' hbinary' h' hout').1]
    exact htext
  have hvalue := dumps_inj hF hdumps (hsame ▸ hdumps')
  rw [← meaning_value htree, ← meaning_value htree', hvalue]

/-- Two representations that are classified as JSON are decoded canonically, and to one text only if they mean the same,
if and only if both are documents of I-JSON. -/
theorem canonicalJson_iff (hF : F.Lawful) (C : Classifier) (P : Decoders) (declared declared' : Option String)
    (mode mode' : String) (data data' : ByteArray) (content content' : AcquiredContent)
    (hdata : representationFromBytes F C declared mode data = .ok content)
    (hjson : content.mediaType = "application/json")
    (hdata' : representationFromBytes F C declared' mode' data' = .ok content')
    (hjson' : content'.mediaType = "application/json") :
    (DecodesCanonically F P content ∧ DecodesCanonically F P content' ∧ Separates F P content content') ↔
      IsIJson F content.rawText ∧ IsIJson F content'.rawText := by
  obtain ⟨hbinary, canonical, h⟩ := representationFromBytes_json hdata hjson
  obtain ⟨hbinary', canonical', h'⟩ := representationFromBytes_json hdata' hjson'
  have hiff := @decodesCanonically_iff D F P content canonical hF hjson hbinary h
  have hiff' := @decodesCanonically_iff D F P content' canonical' hF hjson' hbinary' h'
  constructor
  · rintro ⟨hdecodes, hdecodes', -⟩
    exact ⟨hiff.1 hdecodes, hiff'.1 hdecodes'⟩
  · rintro ⟨hiJson, hiJson'⟩
    exact ⟨hiff.2 hiJson, hiff'.2 hiJson',
      separates_of_iJson hF hjson hbinary h hjson' hbinary' h' hiJson hiJson'⟩

end doubles

/-! ### two documents -/

/-- The doubles that are their own text. -/
def isDoubleText (text : CodePoints) : Bool :=
  text.all (· < 128) && (lexNumber text).any fun (integer, tail, rest) =>
    !tail.isEmpty && rest.isEmpty && integer ++ tail == text

def plainDoubles : Doubles CodePoints := ⟨id, id, isDoubleText⟩

theorem plainDoubles_lawful : plainDoubles.Lawful := by
  have hfinite {d : CodePoints} (h : isDoubleText d = true) :
      (∀ c ∈ d, c < 128) ∧ ∃ integer tail, lexNumber d = some (integer, tail, []) ∧ tail ≠ [] ∧ integer ++ tail = d := by
    simp only [isDoubleText, Bool.and_eq_true, List.all_eq_true, decide_eq_true_eq, Option.any_eq_true] at h
    obtain ⟨hascii, ⟨integer, tail, rest⟩, hlex, htail⟩ := h
    simp only [Bool.not_eq_true', List.isEmpty_eq_false_iff, List.isEmpty_iff, beq_iff_eq] at htail
    obtain ⟨⟨hne, rfl⟩, hwhole⟩ := htail
    exact ⟨hascii, integer, tail, hlex, hne, hwhole⟩
  exact ⟨fun d h => (hfinite h).2, fun d _ => rfl, fun d h => (hfinite h).1⟩

def plainClassifier : Classifier := ⟨fun _ => false, 8388608, 16777216⟩

def plainDecoders : Decoders := ⟨none, id⟩

theorem decodeUtf8Sig_toByteArray {s : String} (h : startsWith s.toByteArray byteOrderMark = false) :
    decodeUtf8Sig s.toByteArray = some s.toList := by
  unfold decodeUtf8Sig
  rw [if_neg (by simp [h])]
  have hread : String.fromUTF8? s.toByteArray = some s := by
    unfold String.fromUTF8?
    rw [dif_pos s.isValidUTF8]
    rfl
  rw [hread]
  rfl

/-- A document with a double and a pair of surrogates. -/
def sampleDocument : String := "\x7b\"b\": [1.5, true], \"a\": \"\\ud83d\\ude00\"\x7d"

/-- The same value with its names in order and without blanks. -/
def respelledDocument : String := "\x7b\"a\":\"\\uD83D\\uDE00\",\"b\":[1.5,true]\x7d"

/-- A document with a name twice. -/
def repeatedName : String := "\x7b\"a\": 1, \"a\": 2\x7d"

def documentContent (s : String) : AcquiredContent := ⟨codePoints s.toList, false, "application/json"⟩

theorem representation_plain {s : String}
    (hsniff : sniffMediaType plainDoubles plainClassifier s.toByteArray = "application/json")
    (hbom : startsWith s.toByteArray byteOrderMark = false) (hsize : s.toByteArray.size ≤ 8388608) :
    representationFromBytes plainDoubles plainClassifier none "staged_inline" s.toByteArray =
      .ok (documentContent s) := by
  unfold representationFromBytes
  rw [hsniff]
  dsimp only [bind, Except.bind, verifiedMediaType]
  rw [decodeUtf8Sig_toByteArray hbom]
  change (if 8388608 < s.toByteArray.size then _ else _) = _
  rw [if_neg (by omega)]
  rfl

theorem sniff_document {s : String} (hbom : startsWith s.toByteArray byteOrderMark = false)
    (hbinary : s.toByteArray.data.toList.head? = some 0x7B)
    (hstart : ((s.toList.dropWhile Text.isSpace).head?.any fun c => c = '{' || c = '[') = true)
    (hcanonical : (canonicalJsonText plainDoubles (codePoints s.toList)).toOption.isSome = true) :
    sniffMediaType plainDoubles plainClassifier s.toByteArray = "application/json" := by
  have hfirst (c : UInt8) (start : List UInt8) (hc : c ≠ 0x7B) : startsWith s.toByteArray (c :: start) = false := by
    unfold startsWith
    cases hlist : s.toByteArray.data.toList with
    | nil => rfl
    | cons b rest =>
      rw [hlist] at hbinary
      obtain rfl := Option.some.inj hbinary
      simp [List.isPrefixOf, hc]
  unfold sniffMediaType
  simp only [hfirst _ _ (by decide : (0x25 : UInt8) ≠ 0x7B), hfirst _ _ (by decide : (0x89 : UInt8) ≠ 0x7B),
    hfirst _ _ (by decide : (0xFF : UInt8) ≠ 0x7B), hfirst _ _ (by decide : (0x47 : UInt8) ≠ 0x7B),
    hfirst _ _ (by decide : (0x52 : UInt8) ≠ 0x7B), hfirst _ _ (by decide : (0x50 : UInt8) ≠ 0x7B), Bool.or_self,
    Bool.false_and, Bool.false_eq_true, if_false, decodeUtf8Sig_toByteArray hbom, hstart, hcanonical, Bool.and_self,
    if_true]

theorem representation_document {s : String} (hbom : startsWith s.toByteArray byteOrderMark = false)
    (hbinary : s.toByteArray.data.toList.head? = some 0x7B)
    (hstart : ((s.toList.dropWhile Text.isSpace).head?.any fun c => c = '{' || c = '[') = true)
    (hcanonical : (canonicalJsonText plainDoubles (codePoints s.toList)).toOption.isSome = true)
    (hsize : s.toByteArray.size ≤ 8388608) :
    representationFromBytes plainDoubles plainClassifier none "staged_inline" s.toByteArray = .ok (documentContent s) :=
  representation_plain (sniff_document hbom hbinary hstart hcanonical) hbom hsize

theorem representation_sample : representationFromBytes plainDoubles plainClassifier none "staged_inline"
    sampleDocument.toByteArray = .ok (documentContent sampleDocument) :=
  representation_document (by decide +kernel) (by decide +kernel) (by decide +kernel) (by decide +kernel) (by decide +kernel)

theorem representation_respelled : representationFromBytes plainDoubles plainClassifier none "staged_inline"
    respelledDocument.toByteArray = .ok (documentContent respelledDocument) :=
  representation_document (by decide +kernel) (by decide +kernel) (by decide +kernel) (by decide +kernel) (by decide +kernel)

theorem representation_repeatedName : representationFromBytes plainDoubles plainClassifier none "staged_inline"
    repeatedName.toByteArray = .ok (documentContent repeatedName) :=
  representation_document (by decide +kernel) (by decide +kernel) (by decide +kernel) (by decide +kernel) (by decide +kernel)

theorem isIJson_iff_any {D : Type} {F : Doubles D} {text : CodePoints} :
    IsIJson F text ↔ ((scan F text).any fun tree => decide (IJson F tree)) = true := by
  rw [Option.any_eq_true]
  simp only [decide_eq_true_eq]
  rfl

/-- Two spellings of one value, of which the same text comes out. -/
theorem canonicalJson_iff_respelled :
    (DecodesCanonically plainDoubles plainDecoders (documentContent sampleDocument) ∧
      DecodesCanonically plainDoubles plainDecoders (documentContent respelledDocument) ∧
      Separates plainDoubles plainDecoders (documentContent sampleDocument) (documentContent respelledDocument)) ∧
    (documentContent sampleDocument).rawText ≠ (documentContent respelledDocument).rawText ∧
    (decodeTextJsonHtml plainDoubles plainDecoders (documentContent sampleDocument)).toOption.map DecodedText.text =
      (decodeTextJsonHtml plainDoubles plainDecoders (documentContent respelledDocument)).toOption.map
        DecodedText.text := by
  refine ⟨(canonicalJson_iff plainDoubles_lawful plainClassifier plainDecoders none none "staged_inline" "staged_inline"
    _ _ _ _ representation_sample rfl representation_respelled rfl).2 ⟨?_, ?_⟩, by decide +kernel, by decide +kernel⟩
  · exact isIJson_iff_any.2 (by decide +kernel)
  · exact isIJson_iff_any.2 (by decide +kernel)

/-- A document with a name twice is classified as JSON and decoded, but it is not one of I-JSON. -/
theorem repeated_name_decoded :
    representationFromBytes plainDoubles plainClassifier none "staged_inline" repeatedName.toByteArray =
        .ok (documentContent repeatedName) ∧
      (documentContent repeatedName).mediaType = "application/json" ∧
      ¬ DecodesCanonically plainDoubles plainDecoders (documentContent repeatedName) := by
  refine ⟨representation_repeatedName, rfl, fun hdecodes => ?_⟩
  have hnot : ¬ IsIJson plainDoubles (documentContent repeatedName).rawText := by
    rw [isIJson_iff_any]
    decide +kernel
  obtain ⟨e, he⟩ := hdecodes.refuses.2 hnot
  have hok : (decodeTextJsonHtml plainDoubles plainDecoders (documentContent repeatedName)).toOption.isSome = true := by
    decide +kernel
  rw [he] at hok
  exact Bool.false_ne_true hok

end KnowledgeBase
