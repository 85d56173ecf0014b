import KnowledgeBase.Properties.Handoff
import KnowledgeBase.Properties.StructureTree

/-!
# Greedy anchoring

Adoption anchors the blocks of a granularity one after the other, each at its first occurrence after the last one. No
choice of occurrences succeeds where this one fails, so an admissible adoption of an accepted candidate succeeds
exactly if the bodies of each granularity have places in the clean text, and then its spans are such places:
`adoption_exact`.
-/

namespace KnowledgeBase

open Checked

variable {β : Type} {P : Platform β}

/-! ### one block -/

/-- The body of a candidate block. -/
def LayeredBlock.bodyText (block : LayeredBlock) : Text := block.originalContent.body.getD []

/-- A candidate block that adoption can look for: its body is normalized, and the clean text if it is the g0 block. -/
structure LayeredBlock.Searchable (P : Platform β) (clean : Text) (block : LayeredBlock) : Prop where
  body : block.HasBody P
  g0 : block.granularity = 0 → block.bodyText = clean

/-- The block that stands for a candidate block found at a position. -/
def adoptedAt (P : Platform β) (clean : Text) (p : LayeredBlock × Nat) : RetrievalBlock :=
  ⟨projectionBlockId p.1.granularity p.1.blockId, p.1.granularity, [leafId],
    [⟨clean.byteOffset p.2, clean.byteOffset (p.2 + p.1.bodyText.length)⟩], p.1.bodyText, P.textDigest p.1.bodyText⟩

/-- The text to place and its position. -/
def place (p : LayeredBlock × Nat) : Text × Nat := (p.1.bodyText, p.2)

theorem LayeredBlock.HasBody.bodyText {block : LayeredBlock} (h : block.HasBody P) :
    block.originalContent.body = some block.bodyText ∧ normalizeLayeredText P block.bodyText = block.bodyText ∧
      block.bodyText.isBlank = false := by
  obtain ⟨body, hbody, hnormal, hblank⟩ := h
  have heq : block.bodyText = body := by
    unfold LayeredBlock.bodyText
    rw [hbody, Option.getD_some]
  rw [heq]
  exact ⟨hbody, hnormal, hblank⟩

theorem adoptBlock_searchable {clean : Text} {searchFrom : Nat} {block : LayeredBlock} (h : block.Searchable P clean)
    {block' : RetrievalBlock} {next : Nat} :
    (∃ report, adoptBlock P clean searchFrom block = .ok (block', report, next)) ↔
      ∃ i, clean.findFrom block.bodyText searchFrom = some i ∧ block' = adoptedAt P clean (block, i) ∧
        next = i + block.bodyText.length := by
  obtain ⟨hbody, hnormal, hblank⟩ := h.body.bodyText
  have hlen := List.length_pos_iff.2 (Text.ne_nil_of_not_blank hblank)
  have hmax : max block.bodyText.length 1 = block.bodyText.length := by omega
  unfold adoptBlock
  rw [hbody]
  simp only [Option.getD_some, hnormal, hmax, bind_ok_iff, failIf_ok_iff,
    required_ok_iff, pure_ok_iff, Prod.mk.injEq]
  constructor
  · rintro ⟨report, _, -, _, -, _, -, i, hi, rfl, -, rfl⟩
    exact ⟨i, hi, rfl, rfl⟩
  · rintro ⟨i, hi, rfl, rfl⟩
    obtain ⟨⟨-, hle, hocc⟩, -⟩ := Text.findFrom_eq_some_iff.1 hi
    obtain ⟨j, hj⟩ := Text.findFrom_isSome (Nat.zero_le i) hle hocc
    refine ⟨_, (), hblank, (), ?_, (), ?_, i, hi, rfl, rfl, rfl⟩
    · rw [Bool.and_eq_false_iff, beq_eq_false_iff_ne, bne_eq_false_iff_eq]
      by_cases hg : block.granularity = 0
      · exact .inr (h.g0 hg)
      · exact .inl hg
    · unfold Text.hasSub
      rw [hj]
      rfl

/-! ### the blocks in order -/

/-- The pairs of one granularity. -/
def ofGranularity (g : Nat) (l : List (LayeredBlock × Nat)) : List (LayeredBlock × Nat) :=
  l.filter fun p => p.1.granularity == g

theorem ofGranularity_cons_self {p : LayeredBlock × Nat} {l : List (LayeredBlock × Nat)} :
    ofGranularity p.1.granularity (p :: l) = p :: ofGranularity p.1.granularity l := by
  unfold ofGranularity
  rw [List.filter_cons_of_pos (by simp)]

theorem ofGranularity_cons_ne {g : Nat} {p : LayeredBlock × Nat} {l : List (LayeredBlock × Nat)}
    (h : p.1.granularity ≠ g) : ofGranularity g (p :: l) = ofGranularity g l := by
  unfold ofGranularity
  rw [List.filter_cons_of_neg (by simpa using h)]

theorem placed_of_adoptBlocks {clean : Text} {searchFrom : Nat → Nat} {l : List LayeredBlock}
    (hl : ∀ block ∈ l, block.Searchable P clean) {l' : List (RetrievalBlock × AnchorReport)}
    (h : adoptBlocks P clean searchFrom l = .ok l') :
    ∃ placed : List (LayeredBlock × Nat), placed.map Prod.fst = l ∧ l'.map Prod.fst = placed.map (adoptedAt P clean) ∧
      ∀ g, clean.Placed (searchFrom g) ((ofGranularity g placed).map place) := by
  induction l generalizing searchFrom l' with
  | nil =>
    obtain rfl := Except.ok.inj h
    exact ⟨[], rfl, rfl, fun _ => trivial⟩
  | cons block l ih =>
    unfold adoptBlocks at h
    simp only [bind_ok_iff, pure_ok_iff] at h
    obtain ⟨⟨block', report, next⟩, hstep, rest, hrest, rfl⟩ := h
    have hsearch := hl block List.mem_cons_self
    obtain ⟨i, hi, rfl, rfl⟩ := (adoptBlock_searchable hsearch).1 ⟨report, hstep⟩
    obtain ⟨placed, hfst, hblocks, hplaced⟩ := ih (fun b hb => hl b (List.mem_cons_of_mem _ hb)) hrest
    obtain ⟨⟨hstart, -, hocc⟩, -⟩ := Text.findFrom_eq_some_iff.1 hi
    refine ⟨(block, i) :: placed, ?_, ?_, fun g => ?_⟩
    · rw [List.map_cons, hfst]
    · rw [List.map_cons, List.map_cons, hblocks]
    · have hg := hplaced g
      by_cases heq : block.granularity = g
      · subst heq
        rw [Function.update_self] at hg
        have hcons := ofGranularity_cons_self (p := (block, i)) (l := placed)
        rw [hcons, List.map_cons]
        exact ⟨hstart, hocc, hg⟩
      · rw [Function.update_of_ne (fun hne => heq hne.symm)] at hg
        rw [ofGranularity_cons_ne heq]
        exact hg

theorem adoptBlocks_of_placed {clean : Text} {searchFrom : Nat → Nat} {l : List LayeredBlock}
    (hl : ∀ block ∈ l, block.Searchable P clean)
    (h : ∀ g, ∃ placed : List (LayeredBlock × Nat), placed.map Prod.fst = l.filter (fun block => block.granularity == g) ∧
      clean.Placed (searchFrom g) (placed.map place)) : ∃ l', adoptBlocks P clean searchFrom l = .ok l' := by
  induction l generalizing searchFrom with
  | nil => exact ⟨[], rfl⟩
  | cons block l ih =>
    have hsearch := hl block List.mem_cons_self
    have hne := Text.ne_nil_of_not_blank hsearch.body.bodyText.2.2
    obtain ⟨placed, hfst, hplaced⟩ := h block.granularity
    rw [List.filter_cons_of_pos (by simp)] at hfst
    obtain ⟨⟨block₀, i⟩, rest, rfl, rfl, hrest⟩ := List.map_eq_cons_iff.1 hfst
    obtain ⟨j, hj, hexchange⟩ := hplaced.exchange hne
    obtain ⟨report, hstep⟩ := (adoptBlock_searchable hsearch).2 ⟨j, hj, rfl, rfl⟩
    have hothers : ∀ g, ∃ placed : List (LayeredBlock × Nat),
        placed.map Prod.fst = l.filter (fun block => block.granularity == g) ∧
          clean.Placed (Function.update searchFrom block₀.granularity (j + block₀.bodyText.length) g)
            (placed.map place) := by
      intro g
      by_cases heq : block₀.granularity = g
      · subst heq
        rw [Function.update_self]
        exact ⟨rest, hrest, hexchange⟩
      · obtain ⟨other, hother, hplacedOther⟩ := h g
        rw [List.filter_cons_of_neg (by simpa using heq)] at hother
        rw [Function.update_of_ne (fun hne => heq hne.symm)]
        exact ⟨other, hother, hplacedOther⟩
    obtain ⟨rest', hrest'⟩ := ih (fun b hb => hl b (List.mem_cons_of_mem _ hb)) hothers
    unfold adoptBlocks
    exact ⟨_, bind_ok_iff.2 ⟨_, hstep, bind_ok_iff.2 ⟨rest', hrest', rfl⟩⟩⟩

/-! ### normalizing an accepted candidate again -/

theorem declaredGranularities_again {granularitySet : Option (List Int)} {declared : List Int}
    (h : declaredGranularities granularitySet = .ok declared) : declaredGranularities (some declared) = .ok declared := by
  have hg := h
  unfold declaredGranularities at hg ⊢
  simp only [bind_ok_iff, failIf_ok_iff, pure_ok_iff, Option.getD_some] at hg ⊢
  obtain ⟨_, hcheck, hdeclared⟩ := hg
  rw [hdeclared] at hcheck
  have hmem : (0 : Int) ∈ declared := by
    rw [Bool.or_eq_false_iff, Bool.not_eq_false', List.contains_iff_mem] at hcheck
    exact hcheck.2
  have hne : declared.isEmpty = false := List.isEmpty_eq_false_iff.2 (List.ne_nil_of_mem hmem)
  have hnodup : declared.Nodup := by
    rw [← hdeclared]
    exact (List.perm_insertionSort _ _).nodup_iff.2 (List.nodup_dedup _)
  have hsorted : declared.Pairwise (· ≤ ·) := by
    rw [← hdeclared]
    exact List.pairwise_insertionSort _ _
  have hagain : (if declared.isEmpty = true then [0, 1, 2] else declared).dedup.insertionSort (· ≤ ·) = declared := by
    rw [hne, if_neg (by decide), hnodup.dedup, hsorted.insertionSort_eq]
  exact ⟨(), by rw [hagain]; exact hcheck, hagain⟩

theorem normalizeBlock_again (hn : P.IsNfc) {clean : Text} (hclean : normalizeLayeredText P clean = clean)
    (hblank : clean.isBlank = false) {block block' : LayeredBlock} (h : normalizeBlock P clean block = .ok block') :
    normalizeBlock P clean block' = .ok block' := by
  obtain ⟨-, -, hbody⟩ := normalizeBlock_eq_ok hn hclean hblank h
  obtain ⟨hsome, hnormal, hnotBlank⟩ := hbody.bodyText
  have htitle : block'.originalContent.title.map (normalizeLayeredText P) = block'.originalContent.title := by
    have hfrom : block'.originalContent.title = block.originalContent.title.map (normalizeLayeredText P) := by
      unfold normalizeBlock at h
      simp only at h
      split at h
      · split at h
        · rw [← Except.ok.inj h]
        · cases h
      · rw [← Except.ok.inj h]
    rw [hfrom, Option.map_map]
    congr 1
    funext t
    exact normalizeLayeredText_idem hn t
  have hkept : block'.originalContent.body.map (normalizeLayeredText P) = block'.originalContent.body := by
    rw [hsome, Option.map_some, hnormal]
  have hcheck : block'.originalContent.body.all Text.isBlank = false := by
    rw [hsome]
    exact hnotBlank
  unfold normalizeBlock
  simp only [htitle, hkept, hcheck]
  rfl

/-- What normalization under a profile accepts. -/
structure NormalizedAs (P : Platform β) (clean : Text) (declared : List Int) (layered accepted : LayeredContent) :
    Prop where
  valid : validateLayeredContent P layered false true = .ok ()
  granularities : sameSet (layered.blocks.map fun block => (block.granularity : Int)) declared = true
  g0 : (layered.blocks.filter fun block => block.granularity == 0).length = 1
  blocks : normalizeBlocks P clean layered.blocks = .ok accepted.blocks
  envelope : accepted = { layered with blocks := accepted.blocks }

theorem normalizeLayeredCandidate_eq_ok_iff {cleanText : Text} {layered accepted : LayeredContent}
    {granularitySet : Option (List Int)} :
    normalizeLayeredCandidate P cleanText layered granularitySet = .ok accepted ↔
      ∃ declared, declaredGranularities granularitySet = .ok declared ∧
        NormalizedAs P (normalizeLayeredText P cleanText) declared layered accepted := by
  unfold normalizeLayeredCandidate
  simp only [bind_ok_iff, failIf_ok_iff, pure_ok_iff, Bool.not_eq_false',
    bne_eq_false_iff_eq]
  constructor
  · rintro ⟨declared, hdeclared, _, hvalid, _, hset, _, hg0, blocks, hblocks, rfl⟩
    exact ⟨declared, hdeclared, hvalid, hset, hg0, hblocks, rfl⟩
  · rintro ⟨declared, hdeclared, h⟩
    exact ⟨declared, hdeclared, (), h.valid, (), h.granularities, (), h.g0, accepted.blocks, h.blocks, h.envelope.symm⟩

theorem NormalizedAs.again (hn : P.IsNfc) {cleanText : Text} {declared : List Int} {layered accepted : LayeredContent}
    (hblank : (normalizeLayeredText P cleanText).isBlank = false)
    (h : NormalizedAs P (normalizeLayeredText P cleanText) declared layered accepted)
    (haccepts : Accepts P layered accepted) :
    NormalizedAs P (normalizeLayeredText P cleanText) declared accepted accepted := by
  have hgranularity : accepted.blocks.map LayeredBlock.granularity = layered.blocks.map LayeredBlock.granularity := by
    have hfst := congrArg (List.map Prod.fst) haccepts.keys
    rwa [List.map_map, List.map_map] at hfst
  refine ⟨haccepts.valid, ?_, ?_, ?_, rfl⟩
  · have hint (l : List LayeredBlock) :
        l.map (fun block => (block.granularity : Int)) = (l.map LayeredBlock.granularity).map Int.ofNat := by
      rw [List.map_map]
      rfl
    rw [hint, hgranularity, ← hint]
    exact h.granularities
  · have hcount (l : List LayeredBlock) :
        (l.filter fun block => block.granularity == 0).length = (l.map LayeredBlock.granularity).countP (· == 0) := by
      rw [List.countP_map, List.countP_eq_length_filter]
      rfl
    rw [hcount, hgranularity, ← hcount]
    exact h.g0
  · have hblocks := h.blocks
    unfold normalizeBlocks at hblocks ⊢
    rw [eachDistinct_ok_iff] at hblocks ⊢
    refine ⟨haccepts.nodup, fun _ _ => List.not_mem_nil, ?_⟩
    rw [List.forall₂_same]
    intro block hblock
    obtain ⟨raw, -, hraw⟩ := forall₂_exists_of_mem_right hblocks.2.2 hblock
    exact normalizeBlock_again hn (normalizeLayeredText_idem hn cleanText) hblank hraw

theorem normalizeLayeredCandidate_again (hn : P.IsNfc) {cleanText : Text} {layered accepted candidate : LayeredContent}
    {declared : List Int} (hblank : (normalizeLayeredText P cleanText).isBlank = false)
    (hdeclared : declaredGranularities (some declared) = .ok declared)
    (h : NormalizedAs P (normalizeLayeredText P cleanText) declared layered accepted)
    (haccepts : Accepts P layered accepted) (hcandidate : candidate = layered ∨ candidate = accepted) :
    normalizeLayeredCandidate P (normalizeLayeredText P cleanText) candidate (some declared) = .ok accepted := by
  rw [normalizeLayeredCandidate_eq_ok_iff, normalizeLayeredText_idem hn]
  refine ⟨declared, hdeclared, ?_⟩
  rcases hcandidate with rfl | rfl
  · exact h
  · exact h.again hn hblank haccepts

/-! ### the adopted structure passes its own validation -/

theorem validateTree_adopted (clean generationArtifact cleanArtifact : Text) (contextMeta : Json.Dict) :
    validateTree (adoptedStructure P clean generationArtifact cleanArtifact contextMeta) = .ok () := rfl

theorem isSlice_whole (t : Text) : IsSlice t ⟨0, t.utf8Length⟩ t := by
  refine ⟨0, t.length, by omega, ?_, rfl, ?_⟩
  · rw [List.drop_zero, List.take_length]
  · rw [Nat.zero_add, Text.byteOffset_length]

theorem validateCoverage_adopted {clean : Text} (hblank : clean.isBlank = false) (generationArtifact cleanArtifact : Text)
    (contextMeta : Json.Dict) :
    validateCoverage P.toJsonCodec (adoptedStructure P clean generationArtifact cleanArtifact contextMeta) clean
      = .ok () := by
  have hread : spanText clean 0 clean.utf8Length = .ok clean := spanText_of_isSlice (isSlice_whole clean)
  have hpos := Text.utf8Length_pos (Text.ne_nil_of_not_blank hblank)
  have hleaves : (adoptedStructure P clean generationArtifact cleanArtifact contextMeta).contentLeaves =
      [⟨leafId, "paragraph".toList, some rootId, 0, 1, 1, "content".toList, some ⟨0, clean.utf8Length⟩,
        some (P.textDigest clean), P.textDigest clean⟩] := rfl
  have hanchors : mapEach (adoptedStructure P clean generationArtifact cleanArtifact contextMeta).contentLeaves
      (leafAnchor P.toJsonCodec clean) = .ok [⟨0, clean.utf8Length⟩] := by
    rw [hleaves, mapEach_ok_iff]
    refine .cons ?_ .nil
    unfold leafAnchor
    simp only [bind_ok_iff, failIf_ok_iff, required_ok_iff, pure_ok_iff]
    exact ⟨_, rfl, clean, hread, (), by simp, rfl⟩
  have hcover : foldEach (coverSpan clean) 0 [⟨0, clean.utf8Length⟩] = .ok (clean.utf8Length : Int) := by
    unfold foldEach coverSpan
    simp only [bind_ok_iff, failIf_ok_iff, pure_ok_iff]
    refine ⟨_, ⟨clean, hread, (), ?_, rfl⟩, rfl⟩
    rw [decide_eq_false_iff_not]
    omega
  unfold validateCoverage
  simp only [bind_ok_iff, failIf_ok_iff]
  exact ⟨_, hanchors, _, hcover, by simp⟩

theorem isSlice_adoptedAt {clean : Text} {p : LayeredBlock × Nat} (hocc : clean.OccursAt p.1.bodyText p.2)
    (hne : p.1.bodyText ≠ []) :
    IsSlice clean ⟨clean.byteOffset p.2, clean.byteOffset (p.2 + p.1.bodyText.length)⟩ p.1.bodyText := by
  have hi : p.2 ≤ clean.length := by
    by_contra hlt
    have hlen := hocc.length_le
    rw [List.drop_eq_nil_of_le (by omega)] at hlen
    exact hne (List.eq_nil_of_length_eq_zero (by simpa using hlen))
  exact ⟨p.2, p.1.bodyText.length, hocc.le hi, hocc.take.symm, rfl, rfl⟩

theorem validateProjectionBlock_adoptedAt {clean : Text} {nodeIds taken : List Text} {p : LayeredBlock × Nat}
    (hp : p.1.Searchable P clean) (hg : isGranularity p.1.granularity = true) (hocc : clean.OccursAt p.1.bodyText p.2)
    (hleaf : leafId ∈ nodeIds) (htaken : (adoptedAt P clean p).blockId ∉ taken) :
    validateProjectionBlock P.toJsonCodec nodeIds clean taken (adoptedAt P clean p) =
      .ok (taken ++ [(adoptedAt P clean p).blockId]) := by
  have hne := Text.ne_nil_of_not_blank hp.body.bodyText.2.2
  have hslice := isSlice_adoptedAt hocc hne
  have hread := spanText_of_isSlice hslice
  have hlt : (clean.byteOffset p.2 : Int) < clean.byteOffset (p.2 + p.1.bodyText.length) := by
    have hpos := Text.utf8Length_pos hne
    rw [hocc.byteOffset_add]
    omega
  have hfold : foldEach (anchorPiece clean) (-1, []) (adoptedAt P clean p).orderedSourceSpans =
      .ok ((clean.byteOffset (p.2 + p.1.bodyText.length) : Int), p.1.bodyText) := by
    unfold adoptedAt foldEach anchorPiece
    simp only [bind_ok_iff, failIf_ok_iff, pure_ok_iff]
    refine ⟨_, ⟨(), ?_, p.1.bodyText, hread, rfl⟩, rfl⟩
    rw [decide_eq_false_iff_not]
    omega
  unfold validateProjectionBlock
  simp only [bind_ok_iff, failIf_ok_iff, pure_ok_iff]
  refine ⟨(), ?_, (), ?_, _, hfold, (), ?_, trivial⟩
  · have hcontains : taken.contains (adoptedAt P clean p).blockId = false := by
      rw [← Bool.not_eq_true, List.contains_iff_mem]
      exact htaken
    rw [hcontains]
    simp [adoptedAt, hg]
  · simp [adoptedAt, hleaf]
  · simp [adoptedAt]

theorem validateProjectionBlocks_adoptedAt {clean : Text} {nodeIds taken : List Text} {placed : List (LayeredBlock × Nat)}
    (hleaf : leafId ∈ nodeIds)
    (hplaced : ∀ p ∈ placed, p.1.Searchable P clean ∧ isGranularity p.1.granularity = true ∧
      clean.OccursAt p.1.bodyText p.2)
    (hnodup : (taken ++ placed.map fun p => (adoptedAt P clean p).blockId).Nodup) :
    ∃ taken', foldEach (validateProjectionBlock P.toJsonCodec nodeIds clean) taken
      (placed.map (adoptedAt P clean)) = .ok taken' := by
  induction placed generalizing taken with
  | nil => exact ⟨taken, rfl⟩
  | cons p placed ih =>
    obtain ⟨hp, hg, hocc⟩ := hplaced p List.mem_cons_self
    rw [List.map_cons, List.append_cons] at hnodup
    have htaken : (adoptedAt P clean p).blockId ∉ taken := by
      have hfirst := (List.nodup_append'.1 hnodup).1
      intro hmem
      exact (List.nodup_append'.1 hfirst).2.2 hmem List.mem_cons_self
    obtain ⟨taken', hrest⟩ := ih (fun q hq => hplaced q (List.mem_cons_of_mem p hq)) hnodup
    refine ⟨taken', ?_⟩
    unfold foldEach
    exact bind_ok_iff.2 ⟨_, validateProjectionBlock_adoptedAt hp hg hocc hleaf htaken, hrest⟩

theorem sameSet_eq_true_iff {l l' : List Int} : sameSet l l' = true ↔ ∀ g, g ∈ l ↔ g ∈ l' := by
  unfold sameSet
  simp only [Bool.and_eq_true, List.all_eq_true, List.contains_iff_mem]
  constructor
  · rintro ⟨h, h'⟩ g
    exact ⟨h g, h' g⟩
  · intro h
    exact ⟨fun g => (h g).1, fun g => (h g).2⟩

/-! ### the order of adoption -/

instance : Std.Total fun a b : LayeredBlock => a.precedes b = true where
  total a b := by
    simp only [LayeredBlock.precedes, Bool.or_eq_true, Bool.and_eq_true, decide_eq_true_eq, beq_iff_eq]
    omega

instance : IsTrans LayeredBlock fun a b => a.precedes b = true where
  trans a b c := by
    simp only [LayeredBlock.precedes, Bool.or_eq_true, Bool.and_eq_true, decide_eq_true_eq, beq_iff_eq]
    omega

/-- The candidate in the order of adoption. -/
def adoptionOrder (accepted : LayeredContent) : List LayeredBlock :=
  accepted.blocks.insertionSort fun a b => a.precedes b = true

theorem adoptionOrder_perm (accepted : LayeredContent) : (adoptionOrder accepted).Perm accepted.blocks :=
  List.perm_insertionSort _ _

theorem adoptionOrder_pairwise {accepted : LayeredContent} (hnodup : (accepted.blocks.map LayeredBlock.key).Nodup)
    (g : Nat) : ((adoptionOrder accepted).filter fun block => block.granularity == g).Pairwise fun a b =>
      a.blockId < b.blockId := by
  have hsorted : (adoptionOrder accepted).Pairwise fun a b => a.precedes b = true := List.pairwise_insertionSort _ _
  have hkeys : (adoptionOrder accepted).Pairwise fun a b => a.key ≠ b.key := by
    rw [← List.pairwise_map (f := LayeredBlock.key) (R := (· ≠ ·))]
    exact ((adoptionOrder_perm accepted).map LayeredBlock.key).nodup_iff.2 hnodup
  refine ((hsorted.and hkeys).filter _).imp_of_mem ?_
  rintro a b ha hb ⟨hprecedes, hkey⟩
  have hag : a.granularity = g := by simpa using (List.mem_filter.1 ha).2
  have hbg : b.granularity = g := by simpa using (List.mem_filter.1 hb).2
  have hne : a.blockId ≠ b.blockId := fun heq => hkey (Prod.ext (hag.trans hbg.symm) heq)
  simp only [LayeredBlock.precedes, Bool.or_eq_true, Bool.and_eq_true, decide_eq_true_eq, beq_iff_eq] at hprecedes
  omega

/-! ### places -/

/-- Occurrences in the text for the bodies of a granularity: by ascending block id, left to right and apart. -/
structure Places (clean : Text) (accepted : LayeredContent) (g : Nat) (placed : List (LayeredBlock × Nat)) : Prop where
  blocks : (placed.map Prod.fst).Perm (accepted.blocks.filter fun block => block.granularity == g)
  ascending : placed.Pairwise fun p q => p.1.blockId < q.1.blockId
  apart : placed.Pairwise fun p q => p.2 + p.1.bodyText.length ≤ q.2
  occurs : ∀ p ∈ placed, clean.OccursAt p.1.bodyText p.2

theorem Places.placed {clean : Text} {accepted : LayeredContent} {g : Nat} {placed : List (LayeredBlock × Nat)}
    (hnodup : (accepted.blocks.map LayeredBlock.key).Nodup) (h : Places clean accepted g placed) :
    placed.map Prod.fst = (adoptionOrder accepted).filter (fun block => block.granularity == g) ∧
      clean.Placed 0 (placed.map place) := by
  constructor
  · have hperm := h.blocks.trans ((adoptionOrder_perm accepted).filter fun block => block.granularity == g).symm
    have hascending : (placed.map Prod.fst).Pairwise fun a b => a.blockId < b.blockId := by
      rw [List.pairwise_map]
      exact h.ascending
    refine hperm.eq_of_pairwise ?_ hascending (adoptionOrder_pairwise hnodup g)
    intro a b _ _ hab hba
    omega
  · refine Text.placed_of_pairwise (fun _ _ => Nat.zero_le _) ?_ ?_
    · intro q hq
      obtain ⟨p, hp, rfl⟩ := List.mem_map.1 hq
      exact h.occurs p hp
    · rw [List.pairwise_map]
      exact h.apart

theorem places_of_placed {clean : Text} {accepted : LayeredContent} {g : Nat} {placed : List (LayeredBlock × Nat)}
    (hnodup : (accepted.blocks.map LayeredBlock.key).Nodup)
    (hblocks : placed.map Prod.fst = (adoptionOrder accepted).filter fun block => block.granularity == g)
    (hplaced : clean.Placed 0 (placed.map place)) : Places clean accepted g placed := by
  have hascending := adoptionOrder_pairwise hnodup g
  rw [← hblocks, List.pairwise_map] at hascending
  have hapart := hplaced.pairwise
  rw [List.pairwise_map] at hapart
  refine ⟨?_, hascending, hapart, fun p hp => (hplaced.le_of_mem (place p) (List.mem_map_of_mem hp)).2⟩
  rw [hblocks]
  exact (adoptionOrder_perm accepted).filter _

/-- The block stands for the candidate block at its place: one span, aligned on the text, that reads as the body. -/
structure AnchoredAt (clean : Text) (p : LayeredBlock × Nat) (block : RetrievalBlock) : Prop where
  blockId : block.blockId = projectionBlockId p.1.granularity p.1.blockId
  body : block.originalText = p.1.bodyText
  span : ∃ span, block.orderedSourceSpans = [span] ∧ span.startByte = clean.byteOffset p.2 ∧
    span.endByte = clean.byteOffset (p.2 + p.1.bodyText.length) ∧ span.startByte < span.endByte ∧
    spanText clean span.startByte span.endByte = .ok p.1.bodyText

/-- The blocks stand for the candidate blocks at their places, by spans that increase and do not overlap. -/
structure SpansAt (clean : Text) (placed : List (LayeredBlock × Nat)) (blocks : List RetrievalBlock) : Prop where
  anchored : List.Forall₂ (AnchoredAt clean) placed blocks
  apart : (blocks.flatMap RetrievalBlock.orderedSourceSpans).Pairwise fun a b => a.endByte ≤ b.startByte

theorem anchoredAt_adoptedAt {clean : Text} {p : LayeredBlock × Nat} (hp : p.1.Searchable P clean)
    (hocc : clean.OccursAt p.1.bodyText p.2) : AnchoredAt clean p (adoptedAt P clean p) := by
  have hne := Text.ne_nil_of_not_blank hp.body.bodyText.2.2
  have hpos := Text.utf8Length_pos hne
  refine ⟨rfl, rfl, _, rfl, rfl, rfl, ?_, spanText_of_isSlice (isSlice_adoptedAt hocc hne)⟩
  show (clean.byteOffset p.2 : Int) < clean.byteOffset (p.2 + p.1.bodyText.length)
  rw [hocc.byteOffset_add]
  omega

theorem spansAt_adoptedAt {clean : Text} {placed : List (LayeredBlock × Nat)}
    (hplaced : ∀ p ∈ placed, p.1.Searchable P clean ∧ clean.OccursAt p.1.bodyText p.2)
    (hapart : placed.Pairwise fun p q => p.2 + p.1.bodyText.length ≤ q.2) :
    SpansAt clean placed (placed.map (adoptedAt P clean)) := by
  constructor
  · rw [List.forall₂_map_right_iff, List.forall₂_same]
    exact fun p hp => anchoredAt_adoptedAt (hplaced p hp).1 (hplaced p hp).2
  · have hspans : (placed.map (adoptedAt P clean)).flatMap RetrievalBlock.orderedSourceSpans =
        placed.map fun p => (⟨clean.byteOffset p.2, clean.byteOffset (p.2 + p.1.bodyText.length)⟩ : TextSpan) := by
      rw [List.flatMap_map]
      exact List.flatMap_pure_eq_map _ _
    rw [hspans, List.pairwise_map]
    refine hapart.imp fun hpq => ?_
    have := Text.byteOffset_mono clean hpq
    simp only
    omega

/-! ### the whole adoption -/

/-- The call names its artifacts, two generations apart, and no digest but that of the text. -/
structure AdoptArguments.Binds (P : Platform β) (clean : Text) (a : AdoptArguments) : Prop where
  generation : a.generationArtifact ≠ []
  cleanArtifact : a.cleanArtifact ≠ []
  distinct : a.projectionArtifact ≠ a.generationArtifact
  digest : ∀ d, a.cleanDigest = some d → d = P.textDigest clean

theorem searchable_of_accepts {clean : Text} {layered accepted : LayeredContent} (haccepts : Accepts P layered accepted)
    (hg0 : ∀ block ∈ accepted.blocks, block.granularity = 0 → block.originalContent.body = some clean) :
    ∀ block ∈ accepted.blocks, block.Searchable P clean := by
  intro block hblock
  refine ⟨haccepts.body block hblock, fun hg => ?_⟩
  unfold LayeredBlock.bodyText
  rw [hg0 block hblock hg, Option.getD_some]

theorem validateStructure_placed {clean : Text} {declared : List Int} {layered accepted : LayeredContent}
    {a : AdoptArguments} {structure_ : StructureDocument} {projection : RetrievalBlockProjection}
    {placed : List (LayeredBlock × Nat)} (hblank : clean.isBlank = false) (hbinds : a.Binds P clean)
    (haccepts : Accepts P layered accepted) (hnormalized : NormalizedAs P clean declared accepted accepted)
    (hsearchable : ∀ block ∈ accepted.blocks, block.Searchable P clean)
    (hplaced : placed.map Prod.fst = adoptionOrder accepted)
    (hoccurs : ∀ p ∈ placed, clean.OccursAt p.1.bodyText p.2)
    (hstructure : structure_ = adoptedStructure P clean a.generationArtifact a.cleanArtifact accepted.contextMeta.toDict)
    (hgeneration : projection.generationArtifact = a.projectionArtifact)
    (hbound : projection.structureGenerationArtifact = a.generationArtifact)
    (hdigest : projection.structureDocumentDigest = structureDocumentDigest P.toJsonCodec structure_)
    (hblocks : projection.blocks = placed.map (adoptedAt P clean)) :
    validateStructure P.toJsonCodec structure_ projection clean declared = .ok () := by
  have hmem : ∀ p ∈ placed, p.1 ∈ accepted.blocks := by
    intro p hp
    rw [← (adoptionOrder_perm accepted).mem_iff, ← hplaced]
    exact List.mem_map_of_mem hp
  have hchecked : ∀ p ∈ placed, p.1.Searchable P clean ∧ isGranularity p.1.granularity = true ∧
      clean.OccursAt p.1.bodyText p.2 :=
    fun p hp => ⟨hsearchable p.1 (hmem p hp), haccepts.granularity p.1 (hmem p hp), hoccurs p hp⟩
  have hids : ([] ++ placed.map fun p => (adoptedAt P clean p).blockId).Nodup := by
    rw [List.nil_append]
    have hkeys : (placed.map fun p => p.1.key).Nodup := by
      have hmap : placed.map (fun p => p.1.key) = (adoptionOrder accepted).map LayeredBlock.key := by
        rw [← hplaced, List.map_map]
        rfl
      rw [hmap]
      exact ((adoptionOrder_perm accepted).map LayeredBlock.key).nodup_iff.2 haccepts.nodup
    refine List.Nodup.map_on ?_ hkeys.of_map
    intro p hp q hq hid
    exact List.inj_on_of_nodup_map hkeys hp hq
      (projectionBlockId_injective (hchecked p hp).2.1 (hchecked q hq).2.1 hid)
  have hgranularities : ∀ g, g ∈ projection.granularities ↔
      g ∈ accepted.blocks.map fun block => (block.granularity : Int) := by
    intro g
    have hmap : projection.granularities = (adoptionOrder accepted).map fun block => (block.granularity : Int) := by
      unfold RetrievalBlockProjection.granularities
      rw [hblocks, ← hplaced, List.map_map, List.map_map]
      rfl
    rw [hmap]
    exact ((adoptionOrder_perm accepted).map _).mem_iff
  have hset : sameSet projection.granularities declared = true := by
    rw [sameSet_eq_true_iff]
    intro g
    rw [hgranularities, (sameSet_eq_true_iff.1 hnormalized.granularities) g]
  have hg0 : projection.hasG0 = true := by
    obtain ⟨block, hblock⟩ := List.length_pos_iff_exists_mem.1 (hnormalized.g0 ▸ Nat.zero_lt_one)
    obtain ⟨hblockMem, hblockG⟩ := List.mem_filter.1 hblock
    have hinOrder : block ∈ placed.map Prod.fst := by
      rw [hplaced]
      exact (adoptionOrder_perm accepted).mem_iff.2 hblockMem
    obtain ⟨p, hp, rfl⟩ := List.mem_map.1 hinOrder
    have hzero : p.1.granularity = 0 := by simpa using hblockG
    unfold RetrievalBlockProjection.hasG0
    rw [List.any_eq_true]
    refine ⟨adoptedAt P clean p, hblocks ▸ List.mem_map_of_mem hp, ?_⟩
    have hbody : (adoptedAt P clean p).originalText = clean := (hchecked p hp).1.g0 hzero
    rw [hbody, hblank]
    simp [adoptedAt, hzero]
  have hleaf : leafId ∈ structure_.nodeIds := by
    rw [hstructure]
    exact List.mem_cons_of_mem _ List.mem_cons_self
  obtain ⟨taken, hfold⟩ := validateProjectionBlocks_adoptedAt hleaf hchecked hids
  rw [← hblocks] at hfold
  unfold validateStructure validateAnchors
  simp only [bind_ok_iff, failIf_ok_iff]
  refine ⟨(), ⟨(), ?_, (), ?_, (), ?_, (), ?_, (), ?_, taken, hfold, rfl⟩, ?_⟩
  · rw [hstructure]
    simp [adoptedStructure]
  · have hdistinct := hbinds.distinct
    rw [hbound, hgeneration, hstructure]
    simp [adoptedStructure, hdistinct]
  · rw [hdigest]
    simp
  · rw [hstructure]
    exact validateTree_adopted ..
  · rw [hstructure]
    exact validateCoverage_adopted hblank ..
  · rw [hset, hg0]
    rfl

theorem adoptLayeredJson_isOk {cleanText : Text} {layered accepted : LayeredContent} {a : AdoptArguments}
    (hblank : (normalizeLayeredText P cleanText).isBlank = false) (hbinds : a.Binds P (normalizeLayeredText P cleanText))
    {declared : List Int} (hdeclared : declaredGranularities a.granularitySet = .ok declared)
    (hcandidate : normalizeLayeredCandidate P (normalizeLayeredText P cleanText) layered (some declared) = .ok accepted)
    {adopted : List (RetrievalBlock × AnchorReport)}
    (hadopted : adoptBlocks P (normalizeLayeredText P cleanText) (fun _ => 0) (adoptionOrder accepted) = .ok adopted)
    (hvalid : ∀ structure_ projection,
      structure_ = adoptedStructure P (normalizeLayeredText P cleanText) a.generationArtifact a.cleanArtifact
        accepted.contextMeta.toDict → projection.generationArtifact = a.projectionArtifact →
      projection.structureGenerationArtifact = a.generationArtifact →
      projection.structureDocumentDigest = structureDocumentDigest P.toJsonCodec structure_ →
      projection.blocks = adopted.map Prod.fst →
      validateStructure P.toJsonCodec structure_ projection (normalizeLayeredText P cleanText) declared = .ok ()) :
    ∃ documents, adoptLayeredJson P cleanText layered a = .ok documents := by
  unfold adoptLayeredJson
  simp only [bind_ok_iff, failIf_ok_iff, pure_ok_iff]
  refine ⟨_, (), hblank, (), ?_, (), ?_, declared, hdeclared, (), ?_, accepted, hcandidate, adopted, hadopted, (), ?_,
    rfl⟩
  · rw [Bool.or_eq_false_iff, List.isEmpty_eq_false_iff, List.isEmpty_eq_false_iff]
    exact ⟨hbinds.generation, hbinds.cleanArtifact⟩
  · rw [beq_eq_false_iff_ne]
    exact hbinds.distinct
  · cases hd : a.cleanDigest with
    | none => rfl
    | some d =>
      rw [Option.any_some, bne_eq_false_iff_eq]
      exact hbinds.digest d hd
  · exact hvalid _ _ rfl rfl rfl rfl rfl

theorem binds_of_adopt {cleanText : Text} {layered : LayeredContent} {a : AdoptArguments}
    {documents : StructureDocument × RetrievalBlockProjection}
    (h : adoptLayeredJson P cleanText layered a = .ok documents) : a.Binds P (normalizeLayeredText P cleanText) := by
  obtain ⟨structure_, projection⟩ := documents
  obtain ⟨-, -, -, -, hdistinct, hdigest, -⟩ := adoptLayeredJson_eq_ok P h
  unfold adoptLayeredJson at h
  simp only [bind_ok_iff, failIf_ok_iff, Bool.or_eq_false_iff, List.isEmpty_eq_false_iff] at h
  obtain ⟨-, -, -, ⟨hgeneration, hclean⟩, -⟩ := h
  exact ⟨hgeneration, hclean, hdistinct, hdigest⟩

section whole

variable {cleanText : Text} {layered accepted candidate : LayeredContent} {a : AdoptArguments}

theorem places_of_adopt (hn : P.IsNfc)
    (hnorm : normalizeLayeredCandidate P cleanText layered a.granularitySet = .ok accepted)
    (hg0 : ∀ block ∈ accepted.blocks, block.granularity = 0 →
      block.originalContent.body = some (normalizeLayeredText P cleanText))
    (hcandidate : candidate = layered ∨ candidate = accepted) {structure_ : StructureDocument}
    {projection : RetrievalBlockProjection} (h : adoptLayeredJson P cleanText candidate a = .ok (structure_, projection))
    (g : Nat) : ∃ placed, Places (normalizeLayeredText P cleanText) accepted g placed ∧
      SpansAt (normalizeLayeredText P cleanText) placed
        (projection.blocks.filter fun block => block.granularity == g) := by
  obtain ⟨declared, hdeclared, hnormalized⟩ := normalizeLayeredCandidate_eq_ok_iff.1 hnorm
  obtain ⟨declared', inner, adopted, hblank, -, -, hinner, hadopted, -, -, hblocks, -⟩ := adoptLayeredJson_eq_ok P h
  have haccepts := normalizeLayeredCandidate_accepts hn hblank hnorm
  have hsearchable := searchable_of_accepts haccepts hg0
  have hsame : inner.blocks = accepted.blocks := by
    obtain ⟨_, -, hnormalizedInner⟩ := normalizeLayeredCandidate_eq_ok_iff.1 hinner
    have hagain : normalizeBlocks P (normalizeLayeredText P cleanText) candidate.blocks = .ok accepted.blocks := by
      rcases hcandidate with rfl | rfl
      · exact hnormalized.blocks
      · exact (hnormalized.again hn hblank haccepts).blocks
    have hinnerBlocks := hnormalizedInner.blocks
    rw [normalizeLayeredText_idem hn, hagain] at hinnerBlocks
    exact (Except.ok.inj hinnerBlocks).symm
  have horder : inner.blocks.insertionSort (fun a b => a.precedes b = true) = adoptionOrder accepted := by
    rw [hsame]
    rfl
  rw [horder] at hadopted
  have hinOrder : ∀ block ∈ adoptionOrder accepted, block.Searchable P (normalizeLayeredText P cleanText) :=
    fun block hblock => hsearchable block ((adoptionOrder_perm accepted).mem_iff.1 hblock)
  obtain ⟨placed, hfst, hadoptedBlocks, hplaced⟩ := placed_of_adoptBlocks hinOrder hadopted
  have hfstG : (ofGranularity g placed).map Prod.fst =
      (adoptionOrder accepted).filter fun block => block.granularity == g := by
    rw [← hfst, List.filter_map]
    rfl
  have hplacesG := places_of_placed haccepts.nodup hfstG (hplaced g)
  refine ⟨ofGranularity g placed, hplacesG, ?_⟩
  have hfilter : projection.blocks.filter (fun block : RetrievalBlock => block.granularity == (g : Int)) =
      (ofGranularity g placed).map (adoptedAt P (normalizeLayeredText P cleanText)) := by
    rw [hblocks, hadoptedBlocks, List.filter_map]
    unfold ofGranularity
    congr 1
    refine List.filter_congr fun p _ => ?_
    rw [Bool.eq_iff_iff, Function.comp_apply, beq_iff_eq, beq_iff_eq]
    exact Int.ofNat_inj
  rw [hfilter]
  refine spansAt_adoptedAt (fun p hp => ⟨hinOrder p.1 ?_, hplacesG.occurs p hp⟩) hplacesG.apart
  rw [← hfst]
  exact List.mem_map_of_mem (List.mem_filter.1 hp).1

theorem adopt_of_places (hn : P.IsNfc)
    (hnorm : normalizeLayeredCandidate P cleanText layered a.granularitySet = .ok accepted)
    (hg0 : ∀ block ∈ accepted.blocks, block.granularity = 0 →
      block.originalContent.body = some (normalizeLayeredText P cleanText))
    (hcandidate : candidate = layered ∨ candidate = accepted)
    (hblank : (normalizeLayeredText P cleanText).isBlank = false) (hbinds : a.Binds P (normalizeLayeredText P cleanText))
    (hexists : ∀ g, ∃ placed, Places (normalizeLayeredText P cleanText) accepted g placed) :
    ∃ documents, adoptLayeredJson P cleanText candidate a = .ok documents := by
  obtain ⟨declared, hdeclared, hnormalized⟩ := normalizeLayeredCandidate_eq_ok_iff.1 hnorm
  have haccepts := normalizeLayeredCandidate_accepts hn hblank hnorm
  have hsearchable := searchable_of_accepts haccepts hg0
  have hinOrder : ∀ block ∈ adoptionOrder accepted, block.Searchable P (normalizeLayeredText P cleanText) :=
    fun block hblock => hsearchable block ((adoptionOrder_perm accepted).mem_iff.1 hblock)
  obtain ⟨adopted, hadopted⟩ : ∃ adopted, adoptBlocks P (normalizeLayeredText P cleanText) (fun _ => 0)
      (adoptionOrder accepted) = .ok adopted := by
    refine adoptBlocks_of_placed hinOrder fun g => ?_
    obtain ⟨placed, hplacesG⟩ := hexists g
    obtain ⟨hfst, hplaced⟩ := hplacesG.placed haccepts.nodup
    exact ⟨placed, hfst, hplaced⟩
  obtain ⟨placed, hfst, hadoptedBlocks, hplaced⟩ := placed_of_adoptBlocks hinOrder hadopted
  have hoccurs : ∀ p ∈ placed, (normalizeLayeredText P cleanText).OccursAt p.1.bodyText p.2 := by
    intro p hp
    have hmem : p ∈ ofGranularity p.1.granularity placed := List.mem_filter.2 ⟨hp, by simp⟩
    exact ((hplaced p.1.granularity).le_of_mem (place p) (List.mem_map_of_mem hmem)).2
  have hagain :=
    normalizeLayeredCandidate_again hn hblank (declaredGranularities_again hdeclared) hnormalized haccepts hcandidate
  refine adoptLayeredJson_isOk hblank hbinds hdeclared hagain hadopted fun structure_ projection hs hp hb hd hl => ?_
  exact validateStructure_placed hblank hbinds haccepts (hnormalized.again hn hblank haccepts) hsearchable hfst hoccurs
    hs hp hb hd (hl.trans hadoptedBlocks)

end whole

/-- For a candidate accepted for the text, whose g0 body is the text, an adoption succeeds exactly if the text is not
blank, the call binds it, and the bodies of every granularity have places in it; the spans it returns are places. -/
theorem adoption_exact (P : Platform β) (hn : P.IsNfc) (cleanText : Text) (layered accepted candidate : LayeredContent)
    (a : AdoptArguments) (hnorm : normalizeLayeredCandidate P cleanText layered a.granularitySet = .ok accepted)
    (hg0 : ∀ block ∈ accepted.blocks, block.granularity = 0 →
      block.originalContent.body = some (normalizeLayeredText P cleanText))
    (hcandidate : candidate = layered ∨ candidate = accepted) :
    ((∃ documents, adoptLayeredJson P cleanText candidate a = .ok documents) ↔
      ((normalizeLayeredText P cleanText).isBlank = false ∧ a.Binds P (normalizeLayeredText P cleanText)) ∧
        ∀ g, ∃ placed, Places (normalizeLayeredText P cleanText) accepted g placed) ∧
      ∀ structure_ projection, adoptLayeredJson P cleanText candidate a = .ok (structure_, projection) →
        ∀ g : Nat, ∃ placed, Places (normalizeLayeredText P cleanText) accepted g placed ∧
          SpansAt (normalizeLayeredText P cleanText) placed (projection.blocks.filter fun block => block.granularity == g) := by
  refine ⟨⟨?_, ?_⟩, fun _ _ h => places_of_adopt hn hnorm hg0 hcandidate h⟩
  · rintro ⟨⟨structure_, projection⟩, h⟩
    obtain ⟨-, -, -, hblank, -⟩ := adoptLayeredJson_eq_ok P h
    refine ⟨⟨hblank, binds_of_adopt h⟩, fun g => ?_⟩
    obtain ⟨placed, hplacesG, -⟩ := places_of_adopt hn hnorm hg0 hcandidate h g
    exact ⟨placed, hplacesG⟩
  · rintro ⟨⟨hblank, hbinds⟩, hexists⟩
    exact adopt_of_places hn hnorm hg0 hcandidate hblank hbinds hexists

/-! ### a repeated body and a blank text -/

/-- A g0 block left to the kernel and two g1 blocks, listed against their order. -/
def repeatedBodies (body body' : Text) : LayeredContent :=
  { tunnelCandidate with blocks := [⟨0, 0, ⟨none, none⟩, ⟨none, none⟩⟩, ⟨2, 1, ⟨none, some body'⟩, ⟨none, none⟩⟩,
      ⟨1, 1, ⟨none, some body⟩, ⟨none, none⟩⟩] }

/-- Overlapping occurrences: the second body is found where the first one ends. -/
theorem adoption_exact_repeated : ∃ accepted structure_ projection,
    normalizeLayeredCandidate plainPlatform "ababa".toList (repeatedBodies "aba".toList "ba".toList) (some [0, 1])
      = .ok accepted ∧
    adoptLayeredJson plainPlatform "ababa".toList accepted ⟨"s".toList, none, "c".toList, none, some [0, 1]⟩
      = .ok (structure_, projection) ∧
    ∀ g : Nat, ∃ placed, Places "ababa".toList accepted g placed ∧
      SpansAt "ababa".toList placed (projection.blocks.filter fun block => block.granularity == g) := by
  refine ⟨_, _, _, rfl, rfl, ?_⟩
  exact (adoption_exact plainPlatform plainPlatform_isNfc "ababa".toList (repeatedBodies "aba".toList "ba".toList) _ _
    ⟨"s".toList, none, "c".toList, none, some [0, 1]⟩ rfl (by decide) (.inr rfl)).2 _ _ rfl

/-- The blank text, tunnelled. -/
def blankAccepted : LayeredContent :=
  { tunnelCandidate with blocks := [⟨0, 0, ⟨none, some " ".toList⟩, ⟨none, none⟩⟩] }

/-- A blank text has a place for itself and is no text to adopt. -/
theorem adoption_not_of_places : ¬ ∀ (cleanText : Text) (layered accepted : LayeredContent) (a : AdoptArguments),
    a.Binds plainPlatform (normalizeLayeredText plainPlatform cleanText) →
    normalizeLayeredCandidate plainPlatform cleanText layered a.granularitySet = .ok accepted →
    (∀ block ∈ accepted.blocks, block.granularity = 0 → block.originalContent.body = some cleanText) →
    ((∃ documents, adoptLayeredJson plainPlatform cleanText accepted a = .ok documents) ↔
      ∀ g, ∃ placed, Places (normalizeLayeredText plainPlatform cleanText) accepted g placed) := by
  intro h
  have hbinds : (tunnelArguments " ".toList).Binds plainPlatform (normalizeLayeredText plainPlatform " ".toList) :=
    ⟨by decide, by decide, by decide, fun d hd => (Option.some.inj hd).symm⟩
  have hiff := h " ".toList tunnelCandidate blankAccepted (tunnelArguments " ".toList) hbinds rfl (by decide)
  obtain ⟨⟨structure_, projection⟩, hadopt⟩ := hiff.2 fun g => by
    by_cases hg : g = 0
    · subst hg
      refine ⟨[(⟨0, 0, ⟨none, some " ".toList⟩, ⟨none, none⟩⟩, 0)], .refl _, List.pairwise_singleton _ _,
        List.pairwise_singleton _ _, ?_⟩
      intro p hp
      obtain rfl := List.mem_singleton.1 hp
      exact List.prefix_rfl
    · refine ⟨[], ?_, .nil, .nil, fun p hp => absurd hp List.not_mem_nil⟩
      have hfilter : blankAccepted.blocks.filter (fun block : LayeredBlock => block.granularity == g) = [] := by
        rw [List.filter_eq_nil_iff]
        intro block hblock
        obtain rfl := List.mem_singleton.1 hblock
        rw [beq_iff_eq]
        exact fun h0 => hg h0.symm
      rw [hfilter]
      exact .refl _
  obtain ⟨-, -, -, hblank, -⟩ := adoptLayeredJson_eq_ok plainPlatform hadopt
  exact absurd hblank (by decide)

end KnowledgeBase
