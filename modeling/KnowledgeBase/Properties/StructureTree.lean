import KnowledgeBase.Library.Graph
import KnowledgeBase.Library.Slices
import KnowledgeBase.Properties.StoredGeneration

/-!
# What structure validation proves

A document that `validate_structure` lets pass is one rooted tree, the anchors of its content leaves partition the
bytes of the clean text, and every block of its projection is the text of ordered slices: `validateStructure_sound`.
-/

namespace KnowledgeBase

open Checked

variable {β : Type} {J : JsonCodec β}

/-! ### slices -/

/-- The span holds the bytes of a piece of the text, between two positions of it. -/
def IsSlice (t : Text) (span : TextSpan) (piece : Text) : Prop :=
  ∃ i n, i + n ≤ t.length ∧ piece = (t.drop i).take n ∧ span.startByte = t.byteOffset i ∧
    span.endByte = t.byteOffset (i + n)

theorem isSlice_of_spanText {t piece : Text} {span : TextSpan}
    (h : spanText t span.startByte span.endByte = .ok piece) (hlt : span.startByte < span.endByte) :
    IsSlice t span piece := by
  unfold spanText at h
  rw [if_neg (by omega)] at h
  simp only [bind_ok_iff, failIf_ok_iff, required_ok_iff, pure_ok_iff,
    decide_eq_false_iff_not, Text.charIndex?_eq_some_iff] at h
  obtain ⟨_, hbounds, i, ⟨hi, hstart⟩, j, ⟨hj, hend⟩, rfl⟩ := h
  have hij : i ≤ j := by
    rw [← Text.byteOffset_le_iff hi]
    omega
  refine ⟨i, j - i, by omega, rfl, by omega, ?_⟩
  rw [Nat.add_sub_cancel' hij]
  omega

theorem spanText_of_isSlice {t piece : Text} {span : TextSpan} (h : IsSlice t span piece) :
    spanText t span.startByte span.endByte = .ok piece := by
  obtain ⟨i, n, hbound, rfl, hstart, hend⟩ := h
  have hmono := Text.byteOffset_mono t (Nat.le_add_right i n)
  have hlast := Text.byteOffset_mono t hbound
  rw [Text.byteOffset_length] at hlast
  have hin : decide (span.startByte < 0 ∨ span.endByte < span.startByte ∨ (t.utf8Length : Int) < span.endByte) = false := by
    rw [decide_eq_false_iff_not]
    omega
  unfold spanText
  rw [hin]
  by_cases heq : span.startByte = span.endByte
  · rw [if_pos heq]
    have hn : i + n = i := Text.byteOffset_injOn (t := t) hbound (by omega) (by omega)
    have hzero : n = 0 := by omega
    rw [hzero, List.take_zero]
    rfl
  · rw [if_neg heq]
    have hfirst : t.charIndex? span.startByte.toNat = some i := Text.charIndex?_eq_some_iff.2 ⟨by omega, by omega⟩
    have hsecond : t.charIndex? span.endByte.toNat = some (i + n) := Text.charIndex?_eq_some_iff.2 ⟨hbound, by omega⟩
    rw [hfirst, hsecond]
    simp only [bind_ok_iff, failIf_ok_iff, required_ok_iff, pure_ok_iff]
    exact ⟨(), trivial, i, rfl, i + n, rfl, by rw [Nat.add_sub_cancel_left]⟩

/-! ### the tree -/

namespace StructureDocument

/-- A node is listed under another one. -/
def ChildOf (document : StructureDocument) (node parent : StructureNode) : Prop :=
  node ∈ document.nodes ∧ parent ∈ document.nodes ∧ node.parentNodeId = some parent.nodeId

/-- The nodes form one tree under the root, in reading order, with numbered siblings. -/
structure RootedAt (document : StructureDocument) (root : StructureNode) : Prop where
  mem : root ∈ document.nodes
  nodeId : root.nodeId = document.documentRootNodeId
  nodeKind : root.nodeKind = "document".toList
  nodup : document.nodeIds.Nodup
  parentless : ∀ node ∈ document.nodes, node.parentNodeId = none ↔ node = root
  parent : ∀ node ∈ document.nodes, node ≠ root → ∃! parent, document.ChildOf node parent
  reaches : ∀ node ∈ document.nodes, Relation.ReflTransGen document.ChildOf node root
  acyclic : Graph.Acyclic document.ChildOf
  siblings : ∀ parent ∈ document.nodes, ((document.childrenOf parent.nodeId).map StructureNode.siblingOrdinal).Perm
    ((List.range (document.childrenOf parent.nodeId).length).map Int.ofNat)
  reading : document.nodes.map StructureNode.readingOrdinal = (List.range document.nodes.length).map Int.ofNat

theorem eq_of_nodeId {document : StructureDocument} (h : document.nodeIds.Nodup) {a b : StructureNode}
    (ha : a ∈ document.nodes) (hb : b ∈ document.nodes) (hab : a.nodeId = b.nodeId) : a = b :=
  List.inj_on_of_nodup_map h ha hb hab

end StructureDocument

theorem contiguous_eq_true_iff {l : List Int} : contiguous l = true ↔ l = (List.range l.length).map Int.ofNat := by
  unfold contiguous
  rw [beq_iff_eq]

theorem validateParent_eq_ok {document : StructureDocument} {node : StructureNode} {u : Unit}
    (h : validateParent document node = .ok u) {parentId : Text} (hparent : node.parentNodeId = some parentId) :
    ∃ parent ∈ document.nodes, parent.nodeId = parentId ∧ node.depth = parent.depth + 1 := by
  unfold validateParent at h
  rw [hparent] at h
  simp only [bind_ok_iff, failIf_ok_iff, required_ok_iff] at h
  obtain ⟨parent, hfind, hdepth⟩ := h
  refine ⟨parent, List.mem_of_find?_eq_some hfind, ?_, ?_⟩
  · simpa using List.find?_some hfind
  · simpa using hdepth

theorem root_of_filter {document : StructureDocument}
    (h : (match document.nodes.filter fun node => node.parentNodeId.isNone with
      | [root] => root.nodeId != document.documentRootNodeId || root.nodeKind != "document".toList
      | _ => true) = false) :
    ∃ root ∈ document.nodes, root.nodeId = document.documentRootNodeId ∧ root.nodeKind = "document".toList ∧
      ∀ node ∈ document.nodes, node.parentNodeId = none ↔ node = root := by
  split at h
  · rename_i root hfilter
    have hmem : ∀ node, node ∈ [root] ↔ node ∈ document.nodes ∧ node.parentNodeId.isNone = true := by
      intro node
      rw [← hfilter, List.mem_filter]
    rw [Bool.or_eq_false_iff] at h
    refine ⟨root, ((hmem root).1 List.mem_cons_self).1, by simpa using h.1, by simpa using h.2, fun node hnode => ?_⟩
    have hiff := hmem node
    rw [List.mem_singleton, Option.isNone_iff_eq_none] at hiff
    constructor
    · exact fun hnone => hiff.2 ⟨hnode, hnone⟩
    · exact fun heq => (hiff.1 heq).2
  · cases h

theorem validateTree_rooted {document : StructureDocument} {u : Unit} (h : validateTree document = .ok u) :
    ∃ root, document.RootedAt root := by
  unfold validateTree at h
  simp only [bind_ok_iff, failIf_ok_iff, checkEach_ok_iff, Bool.not_eq_false',
    decide_eq_true_eq] at h
  obtain ⟨_, hroot, _, hnodup, _, -, _, hreading, _, hparents, hsiblings⟩ := h
  obtain ⟨root, hmem, hid, hkind, hparentless⟩ := root_of_filter hroot
  -- every node but the root is a child of a node one level above it
  have hchild : ∀ node ∈ document.nodes, node ≠ root →
      ∃ parent, document.ChildOf node parent ∧ node.depth = parent.depth + 1 := by
    intro node hnode hne
    obtain ⟨parentId, hparent⟩ : ∃ parentId, node.parentNodeId = some parentId := by
      rw [← Option.ne_none_iff_exists']
      exact fun hnone => hne ((hparentless node hnode).1 hnone)
    obtain ⟨parent, hparentMem, hparentId, hdepth⟩ := validateParent_eq_ok (hparents node hnode) hparent
    exact ⟨parent, ⟨hnode, hparentMem, by rw [hparent, hparentId]⟩, hdepth⟩
  have hunique : ∀ node a b, document.ChildOf node a → document.ChildOf node b → a = b := by
    rintro node a b ⟨-, ha, hna⟩ ⟨-, hb, hnb⟩
    exact StructureDocument.eq_of_nodeId hnodup ha hb (Option.some.inj (hna.symm.trans hnb))
  have hrank : ∀ a b, document.ChildOf a b → b.depth < a.depth := by
    intro a b hab
    have hne : a ≠ root := by
      intro heq
      have hnone := (hparentless a hab.1).2 heq
      rw [hab.2.2] at hnone
      cases hnone
    obtain ⟨parent, hparent, hdepth⟩ := hchild a hab.1 hne
    rw [hunique a b parent hab hparent, hdepth]
    omega
  refine ⟨root, ⟨hmem, hid, hkind, hnodup, hparentless, ?_, ?_, Graph.acyclic_of_rank _ hrank, ?_, ?_⟩⟩
  · intro node hnode hne
    obtain ⟨parent, hparent, -⟩ := hchild node hnode hne
    exact ⟨parent, hparent, fun other hother => hunique node other parent hother hparent⟩
  · refine Graph.reaches_of_rank StructureNode.depth fun node hnode hne => ?_
    obtain ⟨parent, hparent, -⟩ := hchild node hnode hne
    exact ⟨parent, hparent.2.1, hparent, hrank node parent hparent⟩
  · intro parent hparent
    have hall := List.any_eq_false.1 hsiblings parent hparent
    rw [Bool.not_eq_true, Bool.not_eq_false', contiguous_eq_true_iff, List.length_insertionSort, List.length_map] at hall
    exact (List.perm_insertionSort _ _).symm.trans (by rw [hall])
  · rw [contiguous_eq_true_iff, List.length_map] at hreading
    exact hreading

/-! ### the partition -/

/-- The spans hold consecutive slices of the whole text: in order, without overlap or gap. -/
structure Partitions (t : Text) (spans : List TextSpan) : Prop where
  slices : ∃ pieces, List.Forall₂ (IsSlice t) spans pieces ∧ pieces.flatten = t
  nonempty : ∀ span ∈ spans, span.startByte < span.endByte
  ordered : spans.Pairwise fun a b => a.endByte ≤ b.startByte
  covers : ∀ n : Int, (0 ≤ n ∧ n < t.utf8Length) ↔ ∃ span ∈ spans, span.startByte ≤ n ∧ n < span.endByte

theorem coverSpan_eq_ok {t : Text} {expected finish : Int} {span : TextSpan}
    (h : coverSpan t expected span = .ok finish) :
    span.startByte = expected ∧ span.endByte = finish ∧ expected < finish ∧ ∃ piece, IsSlice t span piece := by
  unfold coverSpan at h
  simp only [bind_ok_iff, failIf_ok_iff, pure_ok_iff, decide_eq_false_iff_not] at h
  obtain ⟨piece, hpiece, _, hnext, rfl⟩ := h
  exact ⟨by omega, rfl, by omega, piece, isSlice_of_spanText hpiece (by omega)⟩

/-- What a pass over the spans has proved of the bytes it went over. -/
structure CoverRun (t : Text) (start finish : Int) (spans : List TextSpan) : Prop where
  le : start ≤ finish
  nonempty : ∀ span ∈ spans, span.startByte < span.endByte
  after : ∀ span ∈ spans, start ≤ span.startByte
  ordered : spans.Pairwise fun a b => a.endByte ≤ b.startByte
  covers : ∀ n : Int, (start ≤ n ∧ n < finish) ↔ ∃ span ∈ spans, span.startByte ≤ n ∧ n < span.endByte
  slices : ∀ i, i ≤ t.length → start = t.byteOffset i → ∃ pieces n, List.Forall₂ (IsSlice t) spans pieces ∧
    i + n ≤ t.length ∧ pieces.flatten = (t.drop i).take n ∧ finish = t.byteOffset (i + n)

theorem coverRun_nil (t : Text) (start : Int) : CoverRun t start start [] := by
  refine ⟨le_refl _, ?_, ?_, .nil, ?_, ?_⟩
  · exact fun span hspan => absurd hspan List.not_mem_nil
  · exact fun span hspan => absurd hspan List.not_mem_nil
  · intro n
    constructor
    · intro h
      omega
    · rintro ⟨span, hspan, -⟩
      exact absurd hspan List.not_mem_nil
  · exact fun i hi hstart => ⟨[], 0, .nil, hi, by simp, hstart⟩

theorem CoverRun.cons {t : Text} {start next finish : Int} {span : TextSpan} {spans : List TextSpan}
    (hstep : coverSpan t start span = .ok next) (hrest : CoverRun t next finish spans) :
    CoverRun t start finish (span :: spans) := by
  obtain ⟨hstart, hend, hlt, piece, hpiece⟩ := coverSpan_eq_ok hstep
  have hle := hrest.le
  refine ⟨by omega, ?_, ?_, ?_, ?_, ?_⟩
  · intro other hother
    rcases List.mem_cons.1 hother with rfl | hother
    · omega
    · exact hrest.nonempty other hother
  · intro other hother
    rcases List.mem_cons.1 hother with rfl | hother
    · omega
    · have := hrest.after other hother
      omega
  · rw [List.pairwise_cons]
    refine ⟨fun other hother => ?_, hrest.ordered⟩
    have := hrest.after other hother
    omega
  · intro n
    rw [List.exists_mem_cons_iff, ← hrest.covers n]
    omega
  · intro i hi hoffset
    obtain ⟨j, n, hbound, hpieceEq, hj, hjn⟩ := hpiece
    obtain rfl : j = i := Text.byteOffset_injOn (t := t) (by omega) hi (by omega)
    obtain ⟨pieces, m, hpieces, hm, hflatten, hfinish⟩ := hrest.slices (j + n) hbound (by omega)
    refine ⟨piece :: pieces, n + m, .cons ⟨j, n, hbound, hpieceEq, hj, hjn⟩ hpieces, by omega, ?_, ?_⟩
    · rw [List.flatten_cons, hflatten, hpieceEq, List.take_add, List.drop_drop]
    · rw [hfinish, Nat.add_assoc]

theorem coverRun_of_foldEach {t : Text} {start finish : Int} {spans : List TextSpan}
    (h : foldEach (coverSpan t) start spans = .ok finish) : CoverRun t start finish spans := by
  induction spans generalizing start with
  | nil =>
    obtain rfl := Except.ok.inj h
    exact coverRun_nil t start
  | cons span spans ih =>
    unfold foldEach at h
    obtain ⟨next, hstep, hrest⟩ := bind_ok_iff.1 h
    exact (ih hrest).cons hstep

theorem CoverRun.partitions {t : Text} {spans : List TextSpan} (h : CoverRun t 0 t.utf8Length spans) :
    Partitions t spans := by
  obtain ⟨pieces, n, hpieces, hn, hflatten, hfinish⟩ := h.slices 0 (Nat.zero_le _) rfl
  have hlen : n = t.length := by
    refine Text.byteOffset_injOn (t := t) (by omega) (le_refl _) ?_
    rw [Text.byteOffset_length]
    rw [Nat.zero_add] at hfinish
    omega
  refine ⟨⟨pieces, hpieces, ?_⟩, h.nonempty, h.ordered, h.covers⟩
  rw [hflatten, hlen, List.drop_zero, List.take_length]

/-- The content leaves, in reading order, are anchored in a partition of the text. -/
structure StructureDocument.LeavesPartition (document : StructureDocument) (t : Text) : Prop where
  reading : document.contentLeaves.Pairwise fun a b => a.readingOrdinal < b.readingOrdinal
  leaf : ∀ leaf, leaf ∈ document.contentLeaves ↔ leaf ∈ document.nodes ∧
    (∀ node, ¬ (node ∈ document.nodes ∧ node.parentNodeId = some leaf.nodeId)) ∧ leaf.contentRole = "content".toList
  anchors : ∃ spans, document.contentLeaves.map StructureNode.sourceAnchor = spans.map some ∧ Partitions t spans

theorem leafAnchor_eq_ok {t : Text} {leaf : StructureNode} {span : TextSpan} (h : leafAnchor J t leaf = .ok span) :
    leaf.sourceAnchor = some span := by
  unfold leafAnchor at h
  simp only [bind_ok_iff, failIf_ok_iff, required_ok_iff, pure_ok_iff] at h
  obtain ⟨span', hanchor, -, -, -, -, rfl⟩ := h
  exact hanchor

theorem StructureDocument.mem_contentLeaves {document : StructureDocument} {leaf : StructureNode} :
    leaf ∈ document.contentLeaves ↔ leaf ∈ document.nodes ∧
      (∀ node, ¬ (node ∈ document.nodes ∧ node.parentNodeId = some leaf.nodeId)) ∧
      leaf.contentRole = "content".toList := by
  unfold StructureDocument.contentLeaves StructureDocument.childrenOf
  rw [List.mem_filter, Bool.and_eq_true, List.isEmpty_iff, List.filter_eq_nil_iff, beq_iff_eq]
  simp only [beq_iff_eq, not_and]

theorem StructureDocument.RootedAt.pairwise_reading {document : StructureDocument} {root : StructureNode}
    (h : document.RootedAt root) : document.nodes.Pairwise fun a b => a.readingOrdinal < b.readingOrdinal := by
  have hsorted : (document.nodes.map StructureNode.readingOrdinal).Pairwise (· < ·) := by
    rw [h.reading, List.pairwise_map]
    exact List.pairwise_lt_range.imp fun hab => Int.ofNat_lt.2 hab
  rwa [List.pairwise_map] at hsorted

theorem validateCoverage_partition {document : StructureDocument} {root : StructureNode} {t : Text} {u : Unit}
    (hroot : document.RootedAt root) (h : validateCoverage J document t = .ok u) : document.LeavesPartition t := by
  unfold validateCoverage at h
  simp only [bind_ok_iff, failIf_ok_iff, Bool.or_eq_false_iff] at h
  obtain ⟨spans, hspans, finish, hfold, -, hfinish⟩ := h
  have hfinish : finish = t.utf8Length := by simpa using hfinish
  have hanchors : List.Forall₂ (fun leaf span => leaf.sourceAnchor = some span) document.contentLeaves spans :=
    (mapEach_ok_iff.1 hspans).imp fun leaf span hleaf => leafAnchor_eq_ok hleaf
  refine ⟨hroot.pairwise_reading.filter _, fun _ => StructureDocument.mem_contentLeaves, spans, ?_, ?_⟩
  · have hmap := List.forall₂_map_left_iff.2 (List.forall₂_map_right_iff.2 hanchors)
    exact List.forall₂_eq_eq_eq ▸ hmap
  · have hrun := coverRun_of_foldEach hfold
    rw [hfinish] at hrun
    exact hrun.partitions

/-! ### the blocks of the projection -/

/-- The text of the block is that of its spans, which are in order and apart. -/
structure RetrievalBlock.AnchoredIn (block : RetrievalBlock) (t : Text) : Prop where
  slices : ∃ pieces, List.Forall₂ (IsSlice t) block.orderedSourceSpans pieces ∧ block.originalText = pieces.flatten
  nonempty : ∀ span ∈ block.orderedSourceSpans, span.startByte < span.endByte
  ordered : block.orderedSourceSpans.Pairwise fun a b => a.endByte ≤ b.startByte

theorem anchorPiece_eq_ok {t : Text} {state state' : Int × Text} {span : TextSpan}
    (h : anchorPiece t state span = .ok state') :
    state.1 ≤ span.startByte ∧ span.startByte < span.endByte ∧ state'.1 = span.endByte ∧
      ∃ piece, IsSlice t span piece ∧ state'.2 = state.2 ++ piece := by
  unfold anchorPiece at h
  simp only [bind_ok_iff, failIf_ok_iff, pure_ok_iff, decide_eq_false_iff_not] at h
  obtain ⟨_, horder, piece, hpiece, rfl⟩ := h
  exact ⟨by omega, by omega, rfl, piece, isSlice_of_spanText hpiece (by omega), rfl⟩

theorem anchorPieces_of_foldEach {t : Text} {state state' : Int × Text} {spans : List TextSpan}
    (h : foldEach (anchorPiece t) state spans = .ok state') :
    (∃ pieces, List.Forall₂ (IsSlice t) spans pieces ∧ state'.2 = state.2 ++ pieces.flatten) ∧
      (∀ span ∈ spans, state.1 ≤ span.startByte ∧ span.startByte < span.endByte) ∧
      spans.Pairwise fun a b => a.endByte ≤ b.startByte := by
  induction spans generalizing state with
  | nil =>
    obtain rfl := Except.ok.inj h
    exact ⟨⟨[], .nil, by simp⟩, fun span hspan => absurd hspan List.not_mem_nil, .nil⟩
  | cons span spans ih =>
    unfold foldEach at h
    obtain ⟨next, hstep, hrest⟩ := bind_ok_iff.1 h
    obtain ⟨hafter, hlt, hnext, piece, hpiece, htext⟩ := anchorPiece_eq_ok hstep
    obtain ⟨⟨pieces, hpieces, hflatten⟩, hspans, hordered⟩ := ih hrest
    refine ⟨⟨piece :: pieces, .cons hpiece hpieces, ?_⟩, ?_, ?_⟩
    · rw [hflatten, htext, List.flatten_cons, List.append_assoc]
    · intro other hother
      rcases List.mem_cons.1 hother with rfl | hother
      · exact ⟨hafter, hlt⟩
      · have := hspans other hother
        omega
    · rw [List.pairwise_cons]
      refine ⟨fun other hother => ?_, hordered⟩
      have := hspans other hother
      omega

theorem validateProjectionBlock_anchored {nodeIds taken taken' : List Text} {t : Text} {block : RetrievalBlock}
    (h : validateProjectionBlock J nodeIds t taken block = .ok taken') : block.AnchoredIn t := by
  unfold validateProjectionBlock at h
  simp only [bind_ok_iff, failIf_ok_iff, Bool.or_eq_false_iff] at h
  obtain ⟨-, -, -, -, state, hfold, -, ⟨htext, -⟩, -⟩ := h
  obtain ⟨⟨pieces, hpieces, hflatten⟩, hspans, hordered⟩ := anchorPieces_of_foldEach hfold
  refine ⟨⟨pieces, hpieces, ?_⟩, fun span hspan => (hspans span hspan).2, hordered⟩
  have heq : state.2 = block.originalText := by simpa using htext
  rw [← heq, hflatten, List.nil_append]

theorem validateProjectionBlocks_anchored {nodeIds taken taken' : List Text} {t : Text} {blocks : List RetrievalBlock}
    (h : foldEach (validateProjectionBlock J nodeIds t) taken blocks = .ok taken') :
    ∀ block ∈ blocks, block.AnchoredIn t :=
  foldEach_reaches (P := fun _ => True) (R := fun block _ => block.AnchoredIn t)
    (fun _ _ _ _ _ hstep => ⟨trivial, validateProjectionBlock_anchored hstep⟩) (fun _ _ _ _ _ _ hkept _ => hkept)
    trivial h

/-! ### the whole check -/

/-- A document, projection and clean text that pass form one rooted tree whose content leaves partition the text, under
blocks anchored in it. -/
theorem validateStructure_sound (J : JsonCodec β) (document : StructureDocument) (projection : RetrievalBlockProjection)
    (cleanText : Text) (requiredGranularities : List Int)
    (h : validateStructure J document projection cleanText requiredGranularities = .ok ()) :
    (∃ root, document.RootedAt root) ∧ document.LeavesPartition cleanText ∧
      ∀ block ∈ projection.blocks, block.AnchoredIn cleanText := by
  unfold validateStructure validateAnchors at h
  simp only [bind_ok_iff] at h
  obtain ⟨_, ⟨-, -, -, -, -, -, _, htree, _, hcoverage, _, hblocks, -⟩, -⟩ := h
  obtain ⟨root, hroot⟩ := validateTree_rooted htree
  exact ⟨⟨root, hroot⟩, validateCoverage_partition hroot hcoverage, validateProjectionBlocks_anchored hblocks⟩

/-- The content leaf of one character of the text, under the root. -/
def sampleLeaf (c : Char) (i : Int) : StructureNode :=
  ⟨[c], "paragraph".toList, some "root".toList, i, 1, i + 1, "content".toList, some ⟨i, i + 1⟩,
    some (plainPlatform.textDigest [c]), [c]⟩

def siblingLeaves : StructureDocument where
  generationArtifact := "s".toList
  cleanArtifact := "c".toList
  cleanDigest := plainPlatform.textDigest "ab".toList
  documentRootNodeId := "root".toList
  nodes := [⟨"root".toList, "document".toList, none, 0, 0, 0, "container".toList, none, none, []⟩, sampleLeaf 'a' 0,
    sampleLeaf 'b' 1]
  proofDigest := []
  contextMeta := []

/-- A block over both leaves and one of the second leaf. -/
def siblingBlocks : RetrievalBlockProjection :=
  ⟨"p".toList, "s".toList, structureDocumentDigest plainPlatform.toJsonCodec siblingLeaves,
    [⟨"0".toList, 0, [['a'], ['b']], [⟨0, 1⟩, ⟨1, 2⟩], "ab".toList, plainPlatform.textDigest "ab".toList⟩,
      ⟨"1".toList, 1, [['b']], [⟨1, 2⟩], ['b'], plainPlatform.textDigest ['b']⟩], []⟩

theorem validateStructure_sound_siblings :
    (∃ root, siblingLeaves.RootedAt root) ∧ siblingLeaves.LeavesPartition "ab".toList ∧
      ∀ block ∈ siblingBlocks.blocks, block.AnchoredIn "ab".toList :=
  validateStructure_sound plainPlatform.toJsonCodec siblingLeaves siblingBlocks _ [0, 1] rfl

end KnowledgeBase
