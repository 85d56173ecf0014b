import KnowledgeBase.Lsrag.Assembly
import KnowledgeBase.Properties.Anchoring
import KnowledgeBase.Properties.AnchorSpan

/-!
# Assembly of placed cuts

Every cut is looked for from the start of the text, so a cut that can be placed is bound to the section that its start
anchor opens first. `cutsAssembly_exact`: for cuts that can be placed in order, the assembly is adopted at such a
placement exactly if they can be placed where their texts repeat those first sections, each of which has its start
anchor once before its end anchor, and the `context_meta` of the pack has the wire shape.
-/

namespace KnowledgeBase

open Checked

variable {β : Type} {P : Platform β} {R : Printer}

/-! ### placements of cuts -/

/-- The end of the first occurrence of the end anchor from the position on. -/
def EndsFirst (clean : Text) (cut : ValidatedCut) (span : Nat × Nat) : Prop :=
  ∃ e, span.1 ≤ e ∧ clean.OccursAt cut.endAnchor e ∧ (∀ j, span.1 ≤ j → clean.OccursAt cut.endAnchor j → e ≤ j) ∧
    span.2 = e + cut.endAnchor.length

/-- A span of the cut: it begins with the start anchor and ends with the first end anchor after it. -/
structure CutSpan (clean : Text) (cut : ValidatedCut) (span : Nat × Nat) : Prop where
  starts : cut.startAnchor <+: clean.slice span.1 span.2
  ends : EndsFirst clean cut span

/-- Spans of the cuts, in their order, left to right and disjoint. -/
structure CutsPlaced (clean : Text) (cuts : List ValidatedCut) (spans : List (Nat × Nat)) : Prop where
  each : List.Forall₂ (CutSpan clean) cuts spans
  apart : spans.Pairwise fun a b => a.2 ≤ b.1

/-- The section that the start anchor opens where it first occurs, and where it does not occur again before the end
anchor. -/
structure FirstSection (clean : Text) (cut : ValidatedCut) (span : Nat × Nat) : Prop where
  first : clean.OccursAt cut.startAnchor span.1 ∧ ∀ j, clean.OccursAt cut.startAnchor j → span.1 ≤ j
  ends : EndsFirst clean cut span
  once : ∀ j, span.1 < j → j + cut.endAnchor.length < span.2 → ¬ clean.OccursAt cut.startAnchor j

/-- The text is that of the first section of the cut. -/
def FirstText (clean : Text) (cut : ValidatedCut) (text : Text) : Prop :=
  ∃ first, FirstSection clean cut first ∧ text = clean.slice first.1 first.2

/-- The cuts can be placed where they repeat their first sections. -/
def PlacedAsFirst (clean : Text) (cuts : List ValidatedCut) : Prop :=
  ∃ spans, CutsPlaced clean cuts spans ∧
    List.Forall₂ (fun cut span => FirstText clean cut (clean.slice span.1 span.2)) cuts spans

/-- The `context_meta` of the pack is absent or has the wire shape. -/
def ValidatedCuts.MetaFits (validated : ValidatedCuts) : Prop :=
  ∃ contextMeta, LayeredMeta.ofDict? (validated.contextMeta.getD []) = some contextMeta ∧
    textMeets Text.isUri contextMeta.sourceUrl = true

/-- The g1 block stands at the span. -/
structure StandsAt (clean : Text) (span : Nat × Nat) (block : RetrievalBlock) : Prop where
  text : block.originalText = clean.slice span.1 span.2
  span : block.orderedSourceSpans = [⟨clean.byteOffset span.1, clean.byteOffset span.2⟩]

/-- The assembly succeeds and is adopted, with one g0 block that is the clean text, and with g1 blocks at a placement of
the cuts, in their order. -/
def Completes (P : Platform β) (R : Printer) (cleanText : Text) (pack : Json) (cuts : List ValidatedCut)
    (a : AdoptArguments) : Prop :=
  ∃ assembled layered structure_ projection, assembleFromCuts P R cleanText pack = .ok assembled ∧
    assembled.wire? = some layered ∧ adoptLayeredJson P cleanText layered a = .ok (structure_, projection) ∧
    (projection.blocks.filter fun block => block.granularity == 0).map RetrievalBlock.originalText =
      [normalizeLayeredText P cleanText] ∧
    ∃ spans, CutsPlaced (normalizeLayeredText P cleanText) cuts spans ∧
      List.Forall₂ (StandsAt (normalizeLayeredText P cleanText)) spans
        (projection.blocks.filter fun block => block.granularity == 1)

/-- What Unicode promises of NFC besides: a piece of a normalized text is normalized. -/
def Platform.KeepsPieces (P : Platform β) : Prop := ∀ t piece, piece <:+: t → P.nfc t = t → P.nfc piece = piece

/-! ### spans -/

section spans

variable {clean : Text} {cut : ValidatedCut} {span : Nat × Nat}

theorem EndsFirst.bounds (hne : cut.endAnchor ≠ []) (h : EndsFirst clean cut span) :
    span.1 < span.2 ∧ span.2 ≤ clean.length := by
  obtain ⟨e, hle, hocc, -, hend⟩ := h
  have hpos := List.length_pos_iff.2 hne
  have hbound := hocc.le (occursAt_le_length hne hocc)
  exact ⟨by omega, by omega⟩

theorem CutSpan.occurs (h : CutSpan clean cut span) : clean.OccursAt cut.startAnchor span.1 :=
  h.starts.trans (Text.slice_prefix ..)

theorem CutSpan.again (hne : cut.endAnchor ≠ []) (h : CutSpan clean cut span) {q : Nat}
    (hq : clean.OccursAt (clean.slice span.1 span.2) q) :
    CutSpan clean cut (q, q + (clean.slice span.1 span.2).length) := by
  obtain ⟨hlt, hbound⟩ := h.ends.bounds hne
  obtain ⟨e, hle, hocc, hfirst, hend⟩ := h.ends
  have hlen : (clean.slice span.1 span.2).length = span.2 - span.1 := Text.length_slice hbound
  have hhere : clean.OccursAt (clean.slice span.1 span.2) span.1 := Text.slice_prefix ..
  refine ⟨?_, q + (e - span.1), Nat.le_add_right _ _, ?_, ?_, ?_⟩
  · show _ <+: clean.slice q (q + _)
    rw [Text.slice_of_prefix hq]
    exact h.starts
  · rw [hq.inside (by omega), ← hhere.inside (by omega), Nat.add_sub_cancel' hle]
    exact hocc
  · intro j hj hoccj
    by_contra hbefore
    obtain ⟨d, rfl⟩ := Nat.exists_eq_add_of_le hj
    -- an earlier end anchor would lie in the first span as well
    have hinside := (hhere.inside (by omega)).2 ((hq.inside (by omega)).1 hoccj)
    have hearlier := hfirst _ (Nat.le_add_right _ _) hinside
    omega
  · show q + _ = q + (e - span.1) + _
    omega

theorem EndsFirst.unique {span' : Nat × Nat} (h : EndsFirst clean cut span) (h' : EndsFirst clean cut span')
    (hstart : span.1 = span'.1) : span = span' := by
  obtain ⟨e, hle, hocc, hfirst, hend⟩ := h
  obtain ⟨e', hle', hocc', hfirst', hend'⟩ := h'
  have hee' := hfirst e' (by omega) hocc'
  have he'e := hfirst' e (by omega) hocc
  exact Prod.ext hstart (by omega)

theorem FirstSection.unique {span' : Nat × Nat} (h : FirstSection clean cut span) (h' : FirstSection clean cut span') :
    span = span' :=
  h.ends.unique h'.ends (Nat.le_antisymm (h.first.2 _ h'.first.1) (h'.first.2 _ h.first.1))

theorem firstText_unique (clean : Text) : Relator.RightUnique (FirstText clean) := by
  rintro cut text text' ⟨first, hfirst, rfl⟩ ⟨first', hfirst', rfl⟩
  rw [hfirst.unique hfirst']

end spans

/-! ### the search for a cut that can be placed -/

theorem foundBetween_of_occursAt {t sub : Text} {s e j : Nat} (hne : sub ≠ []) (hafter : s < j) (hbefore : j < e)
    (hocc : t.OccursAt sub j) : foundBetween t sub s e = true := by
  have hsome : ∃ second, t.findFrom sub (s + 1) = some second :=
    Text.findFrom_isSome hafter (occursAt_le_length hne hocc) hocc
  obtain ⟨second, hsecond⟩ := hsome
  have hle := (Text.findFrom_eq_some_iff.1 hsecond).2 j hafter hocc
  unfold foundBetween
  rw [hsecond, Option.any_some, decide_eq_true_eq]
  omega

section search

variable {clean : Text} {cut : ValidatedCut}

theorem firstSection_iff (hstart : cut.startAnchor ≠ []) {s e : Nat} (hs : clean.findFrom cut.startAnchor 0 = some s)
    (he : clean.findFrom cut.endAnchor s = some e) {found : Nat × Nat} :
    FirstSection clean cut found ↔
      foundBetween clean cut.startAnchor s e = false ∧ found = (s, e + cut.endAnchor.length) := by
  obtain ⟨⟨-, -, hoccs⟩, hfirsts⟩ := Text.findFrom_eq_some_iff.1 hs
  obtain ⟨⟨hse, -, hocce⟩, hfirste⟩ := Text.findFrom_eq_some_iff.1 he
  have hends : EndsFirst clean cut (s, e + cut.endAnchor.length) := ⟨e, hse, hocce, hfirste, rfl⟩
  constructor
  · intro h
    have hfound := h.ends.unique hends (Nat.le_antisymm (h.first.2 s hoccs) (hfirsts _ (Nat.zero_le _) h.first.1))
    refine ⟨?_, hfound⟩
    rw [Bool.eq_false_iff]
    intro hbetween
    obtain ⟨second, hafter, hbefore, hagain⟩ := foundBetween_eq_true hbetween
    rw [hfound] at h
    exact h.once second hafter (Nat.add_lt_add_right hbefore _) hagain
  · rintro ⟨hbetween, rfl⟩
    refine ⟨⟨hoccs, fun j hj => hfirsts j (Nat.zero_le j) hj⟩, hends, fun j hafter hbefore hagain => ?_⟩
    rw [foundBetween_of_occursAt hstart hafter (Nat.lt_of_add_lt_add_right hbefore) hagain] at hbetween
    cases hbetween

/-- The search returns the first section of a cut that can be placed, and nothing else. -/
theorem findAnchorSpan_eq_ok_iff (hstart : cut.startAnchor ≠ []) (hend : cut.endAnchor ≠ []) {span : Nat × Nat}
    (h : CutSpan clean cut span) {idx : Nat} {found : Nat × Nat} :
    findAnchorSpan R clean cut.startAnchor cut.endAnchor 0 idx = .ok found ↔ FirstSection clean cut found := by
  obtain ⟨j, hle, hoccj, -, -⟩ := h.ends
  obtain ⟨s, e, hs, he⟩ := (bothOccur_iff hstart hend).1 ⟨span.1, j, Nat.zero_le _, hle, h.occurs, hoccj⟩
  rw [firstSection_iff hstart hs he]
  unfold findAnchorSpan
  rw [exactSpan_of_found hend hs he]
  cases foundBetween clean cut.startAnchor s e with
  | true => exact iff_of_false (fun hok => by cases hok) (fun hfalse => by cases hfalse.1)
  | false => exact ⟨fun hok => ⟨rfl, (Except.ok.inj hok).symm⟩, fun hfound => congrArg Except.ok hfound.2.symm⟩

end search

/-! ### the assembled blocks -/

/-- The block quotes the first section of the cut. -/
def Quotes (clean : Text) (p : ValidatedCut × Nat) (block : LayeredBlock) : Prop :=
  ∃ first, FirstSection clean p.1 first ∧
    block = ⟨p.2 + 1, 1, ⟨p.1.title, some (clean.slice first.1 first.2)⟩, ⟨none, none⟩⟩

theorem Quotes.firstText {clean : Text} {p : ValidatedCut × Nat} {block : LayeredBlock} (h : Quotes clean p block) :
    FirstText clean p.1 block.bodyText := by
  obtain ⟨first, hfirst, rfl⟩ := h
  exact ⟨first, hfirst, rfl⟩

section assembled

variable {clean : Text} {cuts : List ValidatedCut} {blocks : List LayeredBlock}

theorem renumbered_eq {k : Nat}
    (h : List.Forall₂ (fun (p : ValidatedCut × Nat) (block : LayeredBlock) => block.blockId = p.2 + 1) (cuts.zipIdx k)
      blocks) : ((blocks.zipIdx k).map fun p => { p.1 with blockId := p.2 + 1 }) = blocks := by
  induction cuts generalizing k blocks with
  | nil =>
    rw [List.zipIdx_nil, List.forall₂_nil_left_iff] at h
    rw [h]
    rfl
  | cons cut cuts ih =>
    rw [List.zipIdx_cons, List.forall₂_cons_left_iff] at h
    obtain ⟨block, rest, hblock, hrest, rfl⟩ := h
    rw [List.zipIdx_cons, List.map_cons, ih hrest, ← hblock]

theorem granularity_of_quotes (h : List.Forall₂ (Quotes clean) cuts.zipIdx blocks) :
    ∀ block ∈ blocks, block.granularity = 1 := by
  intro block hblock
  obtain ⟨p, -, first, -, rfl⟩ := forall₂_exists_of_mem_right h hblock
  rfl

theorem ascending_of_quotes (h : List.Forall₂ (Quotes clean) cuts.zipIdx blocks) :
    blocks.Pairwise fun a b => a.blockId < b.blockId := by
  have hids : blocks.map LayeredBlock.blockId = (cuts.zipIdx.map Prod.snd).map (· + 1) := by
    rw [List.map_map]
    refine forall₂_map_eq ?_ h
    rintro p block ⟨first, -, rfl⟩
    rfl
  rw [List.zipIdx_map_snd] at hids
  rw [← List.pairwise_map (f := LayeredBlock.blockId) (R := (· < ·)), hids, List.pairwise_map]
  exact (List.pairwise_lt_range').imp fun hlt => Nat.add_lt_add_right hlt 1

theorem filter_of_quotes (h : List.Forall₂ (Quotes clean) cuts.zipIdx blocks) :
    (blocks.filter fun block => block.granularity != 0) = blocks := by
  rw [List.filter_eq_self]
  intro block hblock
  rw [granularity_of_quotes h block hblock]
  rfl

/-- The assembly of cuts that can be placed succeeds exactly if they have first sections, and quotes these. -/
theorem assembleFromCuts_eq_ok_iff (hn : P.IsNfc) {cleanText : Text} {pack : Json} {validated : ValidatedCuts}
    (hvalid : validateCuts R pack = .ok validated) {spans : List (Nat × Nat)}
    (hplaced : CutsPlaced (normalizeLayeredText P cleanText) validated.cuts spans) {assembled : RawCandidate} :
    assembleFromCuts P R cleanText pack = .ok assembled ↔
      ∃ blocks, List.Forall₂ (Quotes (normalizeLayeredText P cleanText)) validated.cuts.zipIdx blocks ∧
        assembled = ⟨some (validated.contextMeta.getD []), systemG0 (normalizeLayeredText P cleanText) :: blocks⟩ := by
  have hcut : ∀ p ∈ validated.cuts.zipIdx, ∀ block,
      cutBlock R (normalizeLayeredText P cleanText) p.2 p.1 = .ok block ↔
        Quotes (normalizeLayeredText P cleanText) p block := by
    intro p hp block
    have hmem := List.fst_mem_of_mem_zipIdx hp
    obtain ⟨hstart, hend⟩ := validateCuts_anchors hvalid p.1 hmem
    obtain ⟨span, -, hspan⟩ := forall₂_exists_of_mem_right hplaced.each.flip hmem
    unfold cutBlock
    simp only [bind_ok_iff, pure_ok_iff,
      findAnchorSpan_eq_ok_iff (Text.ne_nil_of_not_blank hstart) (Text.ne_nil_of_not_blank hend) hspan]
    exact exists_congr fun first => and_congr_right fun _ => eq_comm
  have hblocks (blocks : List LayeredBlock) :
      mapEach validated.cuts.zipIdx (fun p => cutBlock R (normalizeLayeredText P cleanText) p.2 p.1) = .ok blocks ↔
        List.Forall₂ (Quotes (normalizeLayeredText P cleanText)) validated.cuts.zipIdx blocks := by
    rw [mapEach_ok_iff]
    constructor
    · intro h
      exact ((List.forall₂_and_left _ _).2 ⟨hcut, h⟩).imp fun p block hp => (hp.1 block).1 hp.2
    · intro h
      exact ((List.forall₂_and_left _ _).2 ⟨hcut, h⟩).imp fun p block hp => (hp.1 block).2 hp.2
  unfold assembleFromCuts
  simp only [bind_ok_iff, pure_ok_iff, mapError_ok_iff, hvalid, Except.ok.injEq, exists_eq_left', hblocks]
  refine exists_congr fun blocks => and_congr_right fun hquotes => ?_
  have hoverlay : overlaySystemG0 P (normalizeLayeredText P cleanText) ⟨validated.contextMeta, blocks⟩ =
      ⟨some (validated.contextMeta.getD []), systemG0 (normalizeLayeredText P cleanText) :: blocks⟩ := by
    unfold overlaySystemG0
    simp only [normalizeLayeredText_idem hn, filter_of_quotes hquotes]
    rw [renumbered_eq (hquotes.imp fun p block hq => by obtain ⟨first, -, rfl⟩ := hq; rfl)]
  rw [hoverlay]
  exact eq_comm

end assembled

/-! ### the candidate under its profile -/

theorem validateCuts_ne_nil {pack : Json} {validated : ValidatedCuts} (h : validateCuts R pack = .ok validated) :
    validated.cuts ≠ [] := by
  unfold validateCuts at h
  split at h
  · simp only [bind_ok_iff, pure_ok_iff] at h
    obtain ⟨-, -, -, -, cuts, hcuts, validatedCuts, hall, rfl⟩ := h
    have hne : cuts ≠ [] := by
      unfold cutsOf at hcuts
      split at hcuts
      · cases hcuts
      · cases hcuts
      · cases hcuts
      · rename_i hnil _
        rw [← Except.ok.inj hcuts]
        intro heq
        exact hnil (by rw [heq])
      · cases hcuts
    intro hnil
    have hlength := (mapEach_ok_iff.1 hall).length_eq
    rw [show validatedCuts = [] from hnil, List.length_zipIdx, List.length_nil] at hlength
    exact hne (List.length_eq_zero_iff.1 hlength)
  · cases h

/-- The block with its title normalized. -/
def LayeredBlock.withNormalTitle (P : Platform β) (block : LayeredBlock) : LayeredBlock :=
  { block with originalContent :=
      ⟨block.originalContent.title.map (normalizeLayeredText P), block.originalContent.body⟩ }

theorem normalizeBlock_of_hasBody {clean : Text} {block : LayeredBlock} (h : block.HasBody P) :
    normalizeBlock P clean block = .ok (block.withNormalTitle P) := by
  obtain ⟨body, hbody, hnormal, hblank⟩ := h
  have hkept : block.originalContent.body.map (normalizeLayeredText P) = block.originalContent.body := by
    rw [hbody, Option.map_some, hnormal]
  have hcheck : block.originalContent.body.all Text.isBlank = false := by
    rw [hbody]
    exact hblank
  unfold normalizeBlock
  simp only [hkept, hcheck]
  rfl

section candidate

variable {cleanText : Text} {cuts : List ValidatedCut} {blocks : List LayeredBlock} {contextMeta : LayeredMeta}

theorem hasBody_systemG0 (hn : P.IsNfc) (hblank : (normalizeLayeredText P cleanText).isBlank = false) :
    (systemG0 (normalizeLayeredText P cleanText)).HasBody P :=
  ⟨_, rfl, normalizeLayeredText_idem hn cleanText, hblank⟩

theorem hasBody_of_quotes (hn : P.IsNfc) (hpieces : P.KeepsPieces)
    (hanchors : ∀ cut ∈ cuts, cut.startAnchor.isBlank = false ∧ cut.endAnchor.isBlank = false)
    (h : List.Forall₂ (Quotes (normalizeLayeredText P cleanText)) cuts.zipIdx blocks) :
    ∀ block ∈ blocks, block.HasBody P := by
  intro block hblock
  obtain ⟨p, hp, first, hfirst, rfl⟩ := forall₂_exists_of_mem_right h hblock
  have hpiece : (normalizeLayeredText P cleanText).slice first.1 first.2 <:+: normalizeLayeredText P cleanText :=
    (Text.slice_prefix ..).isInfix.trans (List.drop_suffix _ _).isInfix
  refine ⟨_, rfl, ?_, ?_⟩
  · have hreturn : '\r' ∉ normalizeLayeredText P cleanText := hn.noReturn _ (Text.not_mem_unifyNewlines cleanText)
    unfold normalizeLayeredText at hreturn hpiece ⊢
    rw [Text.unifyNewlines_of_not_mem fun hr => hreturn (hpiece.subset hr)]
    exact hpieces _ _ hpiece (hn.idempotent _)
  · obtain ⟨e, hle, hocc, -, hend⟩ := hfirst.ends
    refine Text.not_blank_of_subset ?_ (hanchors p.1 (List.fst_mem_of_mem_zipIdx hp)).2
    rw [hend]
    exact (Text.suffix_slice hle hocc).subset

theorem nodup_of_quotes {clean : Text} (h : List.Forall₂ (Quotes clean) cuts.zipIdx blocks) :
    ((systemG0 clean :: blocks).map LayeredBlock.key).Nodup := by
  rw [List.map_cons, List.nodup_cons]
  constructor
  · intro hmem
    obtain ⟨block, hblock, hkey⟩ := List.mem_map.1 hmem
    have hg : block.granularity = 0 := congrArg Prod.fst hkey
    rw [granularity_of_quotes h block hblock] at hg
    cases hg
  · unfold List.Nodup
    rw [List.pairwise_map]
    refine (ascending_of_quotes h).imp fun hlt hkey => ?_
    have hid := congrArg Prod.snd hkey
    exact absurd hid (Nat.ne_of_lt hlt)

theorem normalizeLayeredCandidate_assembled (hn : P.IsNfc) (hpieces : P.KeepsPieces) {granularitySet : Option (List Int)}
    (hprofile : declaredGranularities granularitySet = .ok [0, 1])
    (hblank : (normalizeLayeredText P cleanText).isBlank = false)
    (hanchors : ∀ cut ∈ cuts, cut.startAnchor.isBlank = false ∧ cut.endAnchor.isBlank = false) (hne : cuts ≠ [])
    (huri : textMeets Text.isUri contextMeta.sourceUrl = true)
    (h : List.Forall₂ (Quotes (normalizeLayeredText P cleanText)) cuts.zipIdx blocks) :
    normalizeLayeredCandidate P cleanText
        ⟨contextMeta, none, none, systemG0 (normalizeLayeredText P cleanText) :: blocks⟩ granularitySet =
      .ok ⟨contextMeta, none, none,
        (systemG0 (normalizeLayeredText P cleanText) :: blocks).map (LayeredBlock.withNormalTitle P)⟩ := by
  have hone := granularity_of_quotes h
  obtain ⟨block, hblock⟩ : ∃ block, block ∈ blocks := by
    have hlength := h.length_eq
    rw [List.length_zipIdx] at hlength
    exact List.length_pos_iff_exists_mem.1 (hlength ▸ List.length_pos_iff.2 hne)
  rw [normalizeLayeredCandidate_eq_ok_iff]
  refine ⟨[0, 1], hprofile, ?_, ?_, ?_, ?_, rfl⟩
  · unfold validateLayeredContent validateEnvelope
    simp only [bind_ok_iff, failIf_ok_iff, checkEach_ok_iff, Option.any_none, huri]
    refine ⟨(), ⟨(), trivial, (), trivial, (), trivial, (), rfl, (), trivial, trivial⟩, (), rfl, (), ?_, rfl⟩
    intro block hmem
    rcases List.mem_cons.1 hmem with rfl | hmem
    · rfl
    · obtain ⟨p, -, first, -, rfl⟩ := forall₂_exists_of_mem_right h hmem
      rfl
  · rw [sameSet_eq_true_iff]
    intro g
    rw [List.map_cons, List.mem_cons, List.mem_map, List.mem_cons, List.mem_singleton]
    constructor
    · rintro (rfl | ⟨block', hmem, rfl⟩)
      · exact .inl rfl
      · rw [hone block' hmem]
        exact .inr rfl
    · rintro (rfl | rfl)
      · exact .inl rfl
      · exact .inr ⟨block, hblock, by rw [hone block hblock]; rfl⟩
  · have hnone : (blocks.filter fun block => block.granularity == 0) = [] := by
      rw [List.filter_eq_nil_iff]
      intro block' hmem
      rw [hone block' hmem]
      decide
    rw [List.filter_cons_of_pos rfl, hnone]
    rfl
  · unfold normalizeBlocks
    rw [eachDistinct_ok_iff]
    refine ⟨nodup_of_quotes h, fun _ _ => List.not_mem_nil, ?_⟩
    rw [List.forall₂_map_right_iff, List.forall₂_same]
    intro block' hmem
    refine normalizeBlock_of_hasBody ?_
    rcases List.mem_cons.1 hmem with rfl | hmem
    · exact hasBody_systemG0 hn hblank
    · exact hasBody_of_quotes hn hpieces hanchors h block' hmem

end candidate

/-! ### places and spans -/

/-- The span of a block at a place. -/
def spanOf (p : LayeredBlock × Nat) : Nat × Nat := (p.2, p.2 + p.1.bodyText.length)

theorem exists_placed {clean : Text} {blocks : List LayeredBlock} {spans : List (Nat × Nat)}
    (hspans : ∀ span ∈ spans, span.1 < span.2 ∧ span.2 ≤ clean.length)
    (h : blocks.map LayeredBlock.bodyText = spans.map fun span => clean.slice span.1 span.2) :
    ∃ placed : List (LayeredBlock × Nat), placed.map Prod.fst = blocks ∧ placed.map spanOf = spans ∧
      ∀ p ∈ placed, clean.OccursAt p.1.bodyText p.2 := by
  induction blocks generalizing spans with
  | nil =>
    rw [List.map_nil, eq_comm, List.map_eq_nil_iff] at h
    exact ⟨[], rfl, h.symm, fun p hp => absurd hp List.not_mem_nil⟩
  | cons block blocks ih =>
    rw [List.map_cons, eq_comm] at h
    obtain ⟨span, rest, rfl, hbody, hrest⟩ := List.map_eq_cons_iff.1 h
    obtain ⟨placed, hfst, hplaced, hoccurs⟩ := ih (fun s hs => hspans s (List.mem_cons_of_mem _ hs)) hrest.symm
    obtain ⟨hlt, hbound⟩ := hspans span List.mem_cons_self
    have hlength : block.bodyText.length = span.2 - span.1 := by
      rw [← hbody]
      exact Text.length_slice hbound
    refine ⟨(block, span.1) :: placed, by rw [List.map_cons, hfst], ?_, ?_⟩
    · rw [List.map_cons, hplaced]
      congr 1
      refine Prod.ext rfl ?_
      show span.1 + block.bodyText.length = span.2
      omega
    · intro p hp
      rcases List.mem_cons.1 hp with rfl | hp
      · show clean.OccursAt block.bodyText span.1
        rw [← hbody]
        exact Text.slice_prefix ..
      · exact hoccurs p hp

theorem map_bodyText_withNormalTitle (blocks : List LayeredBlock) :
    (blocks.map (LayeredBlock.withNormalTitle P)).map LayeredBlock.bodyText = blocks.map LayeredBlock.bodyText := by
  rw [List.map_map]
  rfl

theorem filter_accepted {clean : Text} {cuts : List ValidatedCut} {blocks : List LayeredBlock}
    (h : List.Forall₂ (Quotes clean) cuts.zipIdx blocks) (g : Nat) :
    (((systemG0 clean :: blocks).map (LayeredBlock.withNormalTitle P)).filter fun block => block.granularity == g) =
      if g = 0 then [systemG0 clean] else if g = 1 then blocks.map (LayeredBlock.withNormalTitle P) else [] := by
  have hone : ∀ block ∈ blocks.map (LayeredBlock.withNormalTitle P), block.granularity = 1 := by
    intro block hmem
    obtain ⟨raw, hraw, rfl⟩ := List.mem_map.1 hmem
    exact granularity_of_quotes h raw hraw
  rw [List.map_cons]
  split
  · rename_i hg
    subst hg
    have hnone : ((blocks.map (LayeredBlock.withNormalTitle P)).filter fun block => block.granularity == 0) = [] := by
      rw [List.filter_eq_nil_iff]
      intro block hmem
      rw [hone block hmem]
      decide
    rw [List.filter_cons_of_pos rfl, hnone]
    rfl
  · rename_i hg
    have hsystem : ¬ ((systemG0 clean).withNormalTitle P).granularity == g := by
      rw [beq_iff_eq]
      exact fun h0 => hg h0.symm
    rw [List.filter_cons, if_neg hsystem]
    split
    · rename_i hg1
      rw [List.filter_eq_self]
      intro block hmem
      rw [hone block hmem, hg1]
      rfl
    · rename_i hg1
      rw [List.filter_eq_nil_iff]
      intro block hmem
      rw [hone block hmem, beq_iff_eq]
      exact fun h1 => hg1 h1.symm

section accepted

variable {clean : Text} {cuts : List ValidatedCut} {blocks : List LayeredBlock} {contextMeta : LayeredMeta}

/-- The candidate that is accepted for the assembled one. -/
def acceptedCuts (P : Platform β) (clean : Text) (contextMeta : LayeredMeta) (blocks : List LayeredBlock) :
    LayeredContent :=
  ⟨contextMeta, none, none, (systemG0 clean :: blocks).map (LayeredBlock.withNormalTitle P)⟩

theorem g0_acceptedCuts (h : List.Forall₂ (Quotes clean) cuts.zipIdx blocks) :
    ∀ block ∈ (acceptedCuts P clean contextMeta blocks).blocks, block.granularity = 0 →
      block.originalContent.body = some clean := by
  intro block hblock hg
  obtain ⟨raw, hraw, rfl⟩ := List.mem_map.1 hblock
  rcases List.mem_cons.1 hraw with rfl | hraw
  · rfl
  · have hone : raw.granularity = 0 := hg
    rw [granularity_of_quotes h raw hraw] at hone
    cases hone

theorem ascending_withNormalTitle (h : List.Forall₂ (Quotes clean) cuts.zipIdx blocks) :
    (blocks.map (LayeredBlock.withNormalTitle P)).Pairwise fun a b => a.blockId < b.blockId := by
  rw [List.pairwise_map]
  exact ascending_of_quotes h

theorem fst_of_places (h : List.Forall₂ (Quotes clean) cuts.zipIdx blocks) {placed : List (LayeredBlock × Nat)}
    (hplaces : Places clean (acceptedCuts P clean contextMeta blocks) 1 placed) :
    placed.map Prod.fst = blocks.map (LayeredBlock.withNormalTitle P) := by
  have hperm : (placed.map Prod.fst).Perm
      (((systemG0 clean :: blocks).map (LayeredBlock.withNormalTitle P)).filter fun block => block.granularity == 1) :=
    hplaces.blocks
  rw [filter_accepted h 1, if_neg (by decide), if_pos rfl] at hperm
  have hascending : (placed.map Prod.fst).Pairwise fun a b => a.blockId < b.blockId := by
    rw [List.pairwise_map]
    exact hplaces.ascending
  refine hperm.eq_of_pairwise ?_ hascending (ascending_withNormalTitle h)
  intro a b _ _ hab hba
  omega

/-- Cuts that can be placed with the texts of the blocks give the blocks of every granularity places. -/
theorem exists_places (hends : ∀ cut ∈ cuts, cut.endAnchor ≠ [])
    (h : List.Forall₂ (Quotes clean) cuts.zipIdx blocks) {spans : List (Nat × Nat)} (hplaced : CutsPlaced clean cuts spans)
    (htexts : blocks.map LayeredBlock.bodyText = spans.map fun span => clean.slice span.1 span.2) (g : Nat) :
    ∃ placed, Places clean (acceptedCuts P clean contextMeta blocks) g placed := by
  have hfilter := filter_accepted (P := P) h g
  by_cases h0 : g = 0
  · rw [if_pos h0] at hfilter
    refine ⟨[(systemG0 clean, 0)], ?_, List.pairwise_singleton _ _, List.pairwise_singleton _ _, ?_⟩
    · exact List.Perm.of_eq hfilter.symm
    · intro p hp
      obtain rfl := List.mem_singleton.1 hp
      exact List.prefix_rfl
  · rw [if_neg h0] at hfilter
    by_cases h1 : g = 1
    · rw [if_pos h1] at hfilter
      have hbounds : ∀ span ∈ spans, span.1 < span.2 ∧ span.2 ≤ clean.length := by
        intro span hspan
        obtain ⟨cut, hcut, hc⟩ := forall₂_exists_of_mem_right hplaced.each hspan
        exact hc.ends.bounds (hends cut hcut)
      rw [← map_bodyText_withNormalTitle (P := P)] at htexts
      obtain ⟨placed, hfst, hspans, hoccurs⟩ := exists_placed hbounds htexts
      refine ⟨placed, ?_, ?_, ?_, hoccurs⟩
      · rw [hfst]
        exact List.Perm.of_eq hfilter.symm
      · have hascending := ascending_withNormalTitle (P := P) h
        rwa [← hfst, List.pairwise_map] at hascending
      · have hapart := hplaced.apart
        rwa [← hspans, List.pairwise_map] at hapart
    · rw [if_neg h1] at hfilter
      exact ⟨[], List.Perm.of_eq hfilter.symm, .nil, .nil, fun p hp => absurd hp List.not_mem_nil⟩

theorem cutsPlaced_of_places (hends : ∀ cut ∈ cuts, cut.endAnchor ≠ [])
    (h : List.Forall₂ (Quotes clean) cuts.zipIdx blocks) {spans : List (Nat × Nat)} (hplaced : CutsPlaced clean cuts spans)
    (htexts : blocks.map LayeredBlock.bodyText = spans.map fun span => clean.slice span.1 span.2)
    {placed : List (LayeredBlock × Nat)} (hplaces : Places clean (acceptedCuts P clean contextMeta blocks) 1 placed) :
    CutsPlaced clean cuts (placed.map spanOf) := by
  have hcuts : List.Forall₂ (fun cut text => cut.endAnchor ≠ [] ∧ ∃ span, CutSpan clean cut span ∧
      text = clean.slice span.1 span.2) cuts (spans.map fun span => clean.slice span.1 span.2) := by
    rw [List.forall₂_and_left, List.forall₂_map_right_iff]
    exact ⟨hends, hplaced.each.imp fun cut span hspan => ⟨span, hspan, rfl⟩⟩
  rw [← htexts, ← map_bodyText_withNormalTitle (P := P), ← fst_of_places h hplaces, List.map_map,
    List.forall₂_map_right_iff] at hcuts
  constructor
  · rw [List.forall₂_map_right_iff]
    refine List.Forall₂.flip ?_
    have hoccurs := (List.forall₂_and_left _ _).2 ⟨hplaces.occurs, hcuts.flip⟩
    refine hoccurs.imp ?_
    rintro p cut ⟨hocc, hne, span, hspan, htext⟩
    have hbody : p.1.bodyText = clean.slice span.1 span.2 := htext
    show CutSpan clean cut (p.2, p.2 + p.1.bodyText.length)
    rw [hbody] at hocc ⊢
    exact hspan.again hne hocc
  · rw [List.pairwise_map]
    exact hplaces.apart

theorem standsAt_of_anchored {block : RetrievalBlock} {p : LayeredBlock × Nat} (hocc : clean.OccursAt p.1.bodyText p.2)
    (h : AnchoredAt clean p block) : StandsAt clean (spanOf p) block := by
  obtain ⟨span, hspan, hstart, hend, -, -⟩ := h.span
  refine ⟨h.body.trans (Text.slice_of_prefix hocc).symm, ?_⟩
  rw [hspan]
  congr 1
  cases span
  simp only [TextSpan.mk.injEq]
  exact ⟨hstart, hend⟩

end accepted

/-! ### the whole assembly -/

theorem uri_of_adopt {cleanText : Text} {layered : LayeredContent} {a : AdoptArguments}
    {documents : StructureDocument × RetrievalBlockProjection} (h : adoptLayeredJson P cleanText layered a = .ok documents) :
    textMeets Text.isUri layered.contextMeta.sourceUrl = true := by
  obtain ⟨structure_, projection⟩ := documents
  obtain ⟨declared, candidate, adopted, -, -, -, hcandidate, -⟩ := adoptLayeredJson_eq_ok P h
  obtain ⟨_, -, hnormalized⟩ := normalizeLayeredCandidate_eq_ok_iff.1 hcandidate
  have hvalid := hnormalized.valid
  unfold validateLayeredContent validateEnvelope at hvalid
  simp only [bind_ok_iff, failIf_ok_iff, Bool.not_eq_false'] at hvalid
  obtain ⟨-, ⟨-, -, -, -, -, -, -, huri, -⟩, -⟩ := hvalid
  exact huri

/-- For cuts that can be placed in order, the assembly is adopted at such a placement exactly if the `context_meta` has
the wire shape and the cuts can be placed where they repeat the sections that their start anchors open first. -/
theorem cutsAssembly_exact (P : Platform β) (R : Printer) (hn : P.IsNfc) (hpieces : P.KeepsPieces) (cleanText : Text)
    (pack : Json) (validated : ValidatedCuts) (a : AdoptArguments) (hvalid : validateCuts R pack = .ok validated)
    (hbinds : a.Binds P (normalizeLayeredText P cleanText))
    (hprofile : declaredGranularities a.granularitySet = .ok [0, 1])
    (hplaced : ∃ spans, CutsPlaced (normalizeLayeredText P cleanText) validated.cuts spans) :
    Completes P R cleanText pack validated.cuts a ↔
      validated.MetaFits ∧ PlacedAsFirst (normalizeLayeredText P cleanText) validated.cuts := by
  obtain ⟨spans₀, hplaced⟩ := hplaced
  have hanchors := validateCuts_anchors hvalid
  have hne := validateCuts_ne_nil hvalid
  have hends : ∀ cut ∈ validated.cuts, cut.endAnchor ≠ [] := fun cut hcut => Text.ne_nil_of_not_blank (hanchors cut hcut).2
  have hblank : (normalizeLayeredText P cleanText).isBlank = false := by
    obtain ⟨cut, hcut⟩ := List.exists_mem_of_ne_nil _ hne
    obtain ⟨span, -, hspan⟩ := forall₂_exists_of_mem_right hplaced.each.flip hcut
    have hinside := hspan.occurs.isInfix.trans (List.drop_suffix _ _).isInfix
    exact Text.not_blank_of_subset hinside.subset (hanchors cut hcut).1
  constructor
  · rintro ⟨assembled, layered, structure_, projection, hassembled, hwire, hadopt, -, spans, hspans, hstands⟩
    obtain ⟨blocks, hquotes, rfl⟩ := (assembleFromCuts_eq_ok_iff hn hvalid hplaced).1 hassembled
    obtain ⟨contextMeta, hmeta, rfl⟩ := Option.map_eq_some_iff.1 hwire
    have huri := uri_of_adopt hadopt
    refine ⟨⟨contextMeta, hmeta, huri⟩, spans, hspans, ?_⟩
    have hnorm := normalizeLayeredCandidate_assembled hn hpieces hprofile hblank hanchors hne huri hquotes
    obtain ⟨placed, hplaces, hanchored⟩ := places_of_adopt hn hnorm (g0_acceptedCuts hquotes) (.inl rfl) hadopt 1
    have htexts : blocks.map LayeredBlock.bodyText =
        spans.map fun span => (normalizeLayeredText P cleanText).slice span.1 span.2 := by
      have hbodies := forall₂_map_eq (fun p block h => h.body) hanchored.anchored
      have hslices := forall₂_map_eq (fun span block h => h.text) hstands
      rw [← hslices, ← map_bodyText_withNormalTitle (P := P), ← fst_of_places hquotes hplaces, List.map_map]
      exact hbodies.symm
    have hfirst : List.Forall₂ (fun cut block => FirstText (normalizeLayeredText P cleanText) cut block.bodyText)
        validated.cuts blocks := forall₂_of_zipIdx (hquotes.imp fun p block h => h.firstText)
    rw [← List.forall₂_map_right_iff (f := LayeredBlock.bodyText), htexts, List.forall₂_map_right_iff] at hfirst
    exact hfirst
  · rintro ⟨⟨contextMeta, hmeta, huri⟩, spans, hspans, hfirst⟩
    obtain ⟨blocks, hquotes⟩ : ∃ blocks,
        List.Forall₂ (Quotes (normalizeLayeredText P cleanText)) validated.cuts.zipIdx blocks := by
      refine exists_forall₂ fun p hp => ?_
      obtain ⟨span, -, first, hsection, -⟩ :=
        forall₂_exists_of_mem_right hfirst.flip (List.fst_mem_of_mem_zipIdx hp)
      exact ⟨_, first, hsection, rfl⟩
    have htexts : blocks.map LayeredBlock.bodyText =
        spans.map fun span => (normalizeLayeredText P cleanText).slice span.1 span.2 := by
      have hquoted : List.Forall₂ (FirstText (normalizeLayeredText P cleanText)) validated.cuts
          (blocks.map LayeredBlock.bodyText) := by
        rw [List.forall₂_map_right_iff]
        exact forall₂_of_zipIdx (hquotes.imp fun p block h => h.firstText)
      refine List.right_unique_forall₂' (firstText_unique _) hquoted ?_
      rw [List.forall₂_map_right_iff]
      exact hfirst
    have hnorm := normalizeLayeredCandidate_assembled hn hpieces hprofile hblank hanchors hne huri hquotes
    have hg0 : ∀ block ∈ (acceptedCuts P (normalizeLayeredText P cleanText) contextMeta blocks).blocks,
        block.granularity = 0 → block.originalContent.body = some (normalizeLayeredText P cleanText) :=
      g0_acceptedCuts hquotes
    obtain ⟨⟨structure_, projection⟩, hadopt⟩ := adopt_of_places hn hnorm hg0 (.inl rfl) hblank hbinds
      (exists_places hends hquotes hspans htexts)
    refine ⟨_, _, structure_, projection, (assembleFromCuts_eq_ok_iff hn hvalid hplaced).2 ⟨blocks, hquotes, rfl⟩,
      Option.map_eq_some_iff.2 ⟨contextMeta, hmeta, rfl⟩, hadopt, ?_, ?_⟩
    · obtain ⟨placed, hplaces, hanchored⟩ := places_of_adopt hn hnorm hg0 (.inl rfl) hadopt 0
      have hperm := hplaces.blocks
      rw [filter_accepted hquotes 0, if_pos rfl, List.perm_singleton] at hperm
      have hbodies := forall₂_map_eq (fun p block h => h.body) hanchored.anchored
      have hone : placed.map (fun p => p.1.bodyText) = (placed.map Prod.fst).map LayeredBlock.bodyText := by
        rw [List.map_map]
        rfl
      rw [hone, hperm] at hbodies
      exact hbodies
    · obtain ⟨placed, hplaces, hanchored⟩ := places_of_adopt hn hnorm hg0 (.inl rfl) hadopt 1
      refine ⟨placed.map spanOf, cutsPlaced_of_places hends hquotes hspans htexts hplaces, ?_⟩
      rw [List.forall₂_map_left_iff]
      exact ((List.forall₂_and_left _ _).2 ⟨hplaces.occurs, hanchored.anchored⟩).imp fun p block h =>
        standsAt_of_anchored h.1 h.2

/-! ### repeated sections -/

theorem plainPlatform_keepsPieces : plainPlatform.KeepsPieces := fun _ _ _ _ => rfl

/-- A cut of a section that begins with one mark and ends with a full stop. -/
def markCut : ValidatedCut := ⟨none, "A".toList, ".".toList⟩

def markCuts : Json :=
  .obj [("cuts", .arr [.obj [("end", .str ".".toList), ("start", .str "A".toList)],
      .obj [("end", .str ".".toList), ("start", .str "A".toList)]]),
    ("schema_version", .str "mkb.b-json-cuts.v1".toList)]

theorem validateCuts_markCuts : validateCuts plainPrinter markCuts = .ok ⟨[markCut, markCut], none⟩ := by rfl

def cutsArguments : AdoptArguments := ⟨"s".toList, none, "c".toList, none, some [0, 1]⟩

theorem cutsArguments_binds (clean : Text) : cutsArguments.Binds plainPlatform clean :=
  ⟨by decide, by decide, by decide, fun d hd => by cases hd⟩

theorem endsFirst_of_findFrom {clean : Text} {cut : ValidatedCut} {s e : Nat}
    (h : clean.findFrom cut.endAnchor s = some e) : EndsFirst clean cut (s, e + cut.endAnchor.length) := by
  obtain ⟨⟨hle, -, hocc⟩, hfirst⟩ := Text.findFrom_eq_some_iff.1 h
  exact ⟨e, hle, hocc, hfirst, rfl⟩

/-- Two sections of one text are bound to the first of them and find their places. -/
theorem cutsAssembly_repeated :
    Completes plainPlatform plainPrinter "A. A.".toList markCuts [markCut, markCut] cutsArguments := by
  have hplaced : CutsPlaced (normalizeLayeredText plainPlatform "A. A.".toList) [markCut, markCut] [(0, 2), (3, 5)] :=
    ⟨.cons ⟨by decide, endsFirst_of_findFrom rfl⟩ (.cons ⟨by decide, endsFirst_of_findFrom rfl⟩ .nil), by decide⟩
  have hfirst : FirstSection (normalizeLayeredText plainPlatform "A. A.".toList) markCut (0, 2) :=
    (firstSection_iff (by decide) rfl rfl).2 ⟨rfl, rfl⟩
  exact (cutsAssembly_exact plainPlatform plainPrinter plainPlatform_isNfc plainPlatform_keepsPieces "A. A.".toList
    markCuts _ cutsArguments validateCuts_markCuts (cutsArguments_binds _) rfl ⟨_, hplaced⟩).2
    ⟨⟨_, rfl, rfl⟩, _, hplaced, .cons ⟨_, hfirst, rfl⟩ (.cons ⟨_, hfirst, rfl⟩ .nil)⟩

/-- Two sections under one heading: both cuts are bound to the first, which has one place only. -/
theorem cutsAssembly_bindsFirst : ¬ ∀ (β : Type) (P : Platform β) (R : Printer), P.IsNfc → P.KeepsPieces →
    ∀ (cleanText : Text) (pack : Json) (validated : ValidatedCuts) (a : AdoptArguments),
      validateCuts R pack = .ok validated → a.Binds P (normalizeLayeredText P cleanText) →
      declaredGranularities a.granularitySet = .ok [0, 1] →
      (∃ spans, CutsPlaced (normalizeLayeredText P cleanText) validated.cuts spans) →
      Completes P R cleanText pack validated.cuts a := by
  intro h
  have hplaced : CutsPlaced (normalizeLayeredText plainPlatform "A1. A2.".toList) [markCut, markCut] [(0, 3), (4, 7)] :=
    ⟨.cons ⟨by decide, endsFirst_of_findFrom rfl⟩ (.cons ⟨by decide, endsFirst_of_findFrom rfl⟩ .nil), by decide⟩
  obtain ⟨assembled, layered, structure_, projection, hassembled, hwire, hadopt, -⟩ :=
    h _ plainPlatform plainPrinter plainPlatform_isNfc plainPlatform_keepsPieces "A1. A2.".toList markCuts _ cutsArguments
      validateCuts_markCuts (cutsArguments_binds _) rfl ⟨_, hplaced⟩
  obtain rfl := Except.ok.inj hassembled
  obtain rfl := Option.some.inj hwire
  cases hadopt

end KnowledgeBase
