import KnowledgeBase.Properties.StoredGeneration

/-!
# The handoff from structurize to construct

The stages after adoption find every block by the key its identity renders: `fill_layered_summaries`,
`layered_summary_map`, `construct` and `vectorization_plan` all succeed on an adopted generation exactly if the
block ids have at most four digits and the clean text is the text adoption normalized: `handoff`.
-/

namespace KnowledgeBase

open Checked

variable {β : Type}

/-! ### block identities -/

theorem toDigits_of_isGranularity {g : Nat} (hg : isGranularity g = true) :
    ∃ c, Nat.toDigits 10 g = [c] ∧ (c == '0' || c == '1' || c == '2') = true ∧ g < 3 := by
  have h : g = 0 ∨ g = 1 ∨ g = 2 := by
    simp only [isGranularity, Bool.or_eq_true, beq_iff_eq] at hg
    omega
  rcases h with rfl | rfl | rfl
  · exact ⟨'0', by decide, by decide, by decide⟩
  · exact ⟨'1', by decide, by decide, by decide⟩
  · exact ⟨'2', by decide, by decide, by decide⟩

theorem blockNumber?_projectionBlockId {g : Nat} (hg : isGranularity g = true) (n : Nat) :
    blockNumber? (projectionBlockId g n) = if n < 10000 then some n else none := by
  obtain ⟨c, hc, hd, -⟩ := toDigits_of_isGranularity hg
  have hid : projectionBlockId g n = 'g' :: c :: ':' :: 'b' :: Text.padded4 n := by
    unfold projectionBlockId
    rw [hc]
    rfl
  have hdigits : (Text.padded4 n).all Char.isDigit = true :=
    List.all_eq_true.2 fun _ h => Text.isDigit_of_mem_padded4 h
  rw [hid]
  simp only [blockNumber?, hd, hdigits, Bool.true_and, Bool.and_true, beq_iff_eq, Text.length_padded4_eq_iff,
    Text.ofDigitChars_padded4]

theorem projectionBlockId_injective {g g' n n' : Nat} (hg : isGranularity g = true) (hg' : isGranularity g' = true)
    (h : projectionBlockId g n = projectionBlockId g' n') : (g, n) = (g', n') := by
  obtain ⟨c, hc, -, -⟩ := toDigits_of_isGranularity hg
  obtain ⟨c', hc', -, -⟩ := toDigits_of_isGranularity hg'
  unfold projectionBlockId at h
  rw [hc, hc'] at h
  simp only [List.append_assoc, List.cons_append, List.nil_append, List.append_cancel_left_eq, List.cons.injEq] at h
  obtain ⟨hcc, hn⟩ := h
  have hgg : g = g' := by
    rw [← Nat.ofDigitChars_ten_toDigits (n := g), hc, hcc, ← hc', Nat.ofDigitChars_ten_toDigits]
  rw [hgg, Text.padded4_injective hn]

/-! ### lookups -/

theorem lookup_of_mem {κ α : Type} [BEq κ] [LawfulBEq κ] {l : List (κ × α)} (hl : (l.map Prod.fst).Nodup) {k : κ}
    {a : α} (h : (k, a) ∈ l) : l.lookup k = some a := by
  induction l with
  | nil => cases h
  | cons p l ih =>
    obtain ⟨k', a'⟩ := p
    rw [List.map_cons, List.nodup_cons] at hl
    rcases List.mem_cons.1 h with heq | hmem
    · obtain ⟨rfl, rfl⟩ := Prod.mk.inj heq
      rw [List.lookup_cons, beq_self_eq_true]
    · have hne : (k == k') = false := by
        rw [beq_eq_false_iff_ne]
        intro heq
        have hk : k ∈ l.map Prod.fst := List.mem_map.2 ⟨(k, a), hmem, rfl⟩
        exact hl.1 (heq ▸ hk)
      rw [List.lookup_cons, hne]
      exact ih hl.2 hmem

theorem lookup_eq_none_of_not_mem {κ α : Type} [BEq κ] [LawfulBEq κ] {l : List (κ × α)} {k : κ}
    (h : k ∉ l.map Prod.fst) : l.lookup k = none := by
  rw [List.lookup_eq_none_iff]
  intro p hp
  rw [bne_iff_ne]
  rintro rfl
  exact h (List.mem_map_of_mem hp)

theorem lookupLast_of_mem {κ α : Type} [BEq κ] [LawfulBEq κ] {l : List (κ × α)} (hl : (l.map Prod.fst).Nodup) {k : κ}
    {a : α} (h : (k, a) ∈ l) : lookupLast l k = some a := by
  refine lookup_of_mem ?_ (List.mem_reverse.2 h)
  rw [List.map_reverse]
  exact List.nodup_reverse.2 hl

/-! ### the accepted candidate -/

/-- What Unicode promises of NFC: it is idempotent and brings in no carriage return. -/
structure Platform.IsNfc (P : Platform β) : Prop where
  idempotent : ∀ t, P.nfc (P.nfc t) = P.nfc t
  noReturn : ∀ t, '\r' ∉ t → '\r' ∉ P.nfc t

theorem normalizeLayeredText_idem {P : Platform β} (hn : P.IsNfc) (t : Text) :
    normalizeLayeredText P (normalizeLayeredText P t) = normalizeLayeredText P t := by
  have hr : '\r' ∉ normalizeLayeredText P t := hn.noReturn _ (Text.not_mem_unifyNewlines t)
  show P.nfc (normalizeLayeredText P t).unifyNewlines = _
  rw [Text.unifyNewlines_of_not_mem hr]
  exact hn.idempotent _

/-- The body is present, normalized and not blank. -/
def LayeredBlock.HasBody (P : Platform β) (block : LayeredBlock) : Prop :=
  ∃ body, block.originalContent.body = some body ∧ normalizeLayeredText P body = body ∧ body.isBlank = false

theorem normalizeBlock_eq_ok {P : Platform β} (hn : P.IsNfc) {clean : Text}
    (hclean : normalizeLayeredText P clean = clean) (hblank : clean.isBlank = false) {block block' : LayeredBlock}
    (h : normalizeBlock P clean block = .ok block') :
    block'.key = block.key ∧ block'.llmSummary = block.llmSummary ∧ block'.HasBody P := by
  unfold normalizeBlock at h
  simp only at h
  split at h
  · split at h
    · obtain rfl := Except.ok.inj h
      exact ⟨rfl, rfl, clean, rfl, hclean, hblank⟩
    · cases h
  · rename_i hbody
    obtain rfl := Except.ok.inj h
    refine ⟨rfl, rfl, ?_⟩
    cases hb : block.originalContent.body with
    | none =>
      rw [hb] at hbody
      exact absurd rfl hbody
    | some body =>
      rw [hb] at hbody
      exact ⟨normalizeLayeredText P body, rfl, normalizeLayeredText_idem hn body, by simpa using hbody⟩

/-- What normalization leaves of a candidate. -/
structure Accepts (P : Platform β) (layered accepted : LayeredContent) : Prop where
  envelope : accepted = { layered with blocks := accepted.blocks }
  keys : accepted.blocks.map LayeredBlock.key = layered.blocks.map LayeredBlock.key
  nodup : (accepted.blocks.map LayeredBlock.key).Nodup
  granularity : ∀ block ∈ accepted.blocks, isGranularity block.granularity = true
  body : ∀ block ∈ accepted.blocks, block.HasBody P
  valid : validateLayeredContent P accepted false true = .ok ()

theorem Accepts.ids_iff {P : Platform β} {layered accepted : LayeredContent} (h : Accepts P layered accepted)
    {n : Nat} : (∀ block ∈ layered.blocks, block.blockId < n) ↔ ∀ block ∈ accepted.blocks, block.blockId < n := by
  have hmap (l : List LayeredBlock) : (∀ block ∈ l, block.blockId < n) ↔ ∀ key ∈ l.map LayeredBlock.key, key.2 < n := by
    rw [List.forall_mem_map]
    exact Iff.rfl
  rw [hmap, hmap, h.keys]

theorem isGranularity_of_declared {granularitySet : Option (List Int)} {declared : List Int}
    (h : declaredGranularities granularitySet = .ok declared) {g : Int} (hg : g ∈ declared) :
    isGranularity g = true := by
  unfold declaredGranularities at h
  simp only [bind_ok_iff, failIf_ok_iff, pure_ok_iff, Bool.or_eq_false_iff] at h
  obtain ⟨_, ⟨hall, -⟩, rfl⟩ := h
  have := List.any_eq_false.1 hall g hg
  simpa using this

theorem validateLayeredContent_of_blocks {P : Platform β} {content : LayeredContent} {blocks : List LayeredBlock}
    {b b' n n' : Bool} (h : validateLayeredContent P content b n = .ok ())
    (hg : blocks.map LayeredBlock.granularity = content.blocks.map LayeredBlock.granularity)
    (hb : ∀ block ∈ blocks, validateBlock b' n' block = .ok ()) :
    validateLayeredContent P { content with blocks := blocks } b' n' = .ok () := by
  unfold validateLayeredContent at h ⊢
  simp only [bind_ok_iff, failIf_ok_iff, checkEach_ok_iff] at h ⊢
  obtain ⟨_, henvelope, _, hempty, _, -, hg0⟩ := h
  refine ⟨(), henvelope, (), ?_, (), hb, ?_⟩
  · have hlen := congrArg List.length hg
    rw [List.length_map, List.length_map] at hlen
    rw [List.isEmpty_eq_false_iff, ← List.length_pos_iff] at hempty ⊢
    omega
  · have hall (l : List LayeredBlock) : (l.all fun block => block.granularity != 0) =
        (l.map LayeredBlock.granularity).all (· != 0) := by
      rw [List.all_map]
      rfl
    rw [hall] at hg0 ⊢
    rw [hg]
    exact hg0

theorem normalizeLayeredCandidate_accepts {P : Platform β} (hn : P.IsNfc) {cleanText : Text}
    (hblank : (normalizeLayeredText P cleanText).isBlank = false) {layered accepted : LayeredContent}
    {granularitySet : Option (List Int)}
    (h : normalizeLayeredCandidate P cleanText layered granularitySet = .ok accepted) : Accepts P layered accepted := by
  unfold normalizeLayeredCandidate normalizeBlocks at h
  simp only [bind_ok_iff, failIf_ok_iff, pure_ok_iff] at h
  obtain ⟨declared, hdeclared, _, hvalid, _, hset, _, -, blocks, hblocks, rfl⟩ := h
  obtain ⟨hnodup, -, hblocks⟩ := eachDistinct_ok_iff.1 hblocks
  have hstep : ∀ a c, normalizeBlock P (normalizeLayeredText P cleanText) a = .ok c →
      c.key = a.key ∧ c.llmSummary = a.llmSummary ∧ c.HasBody P :=
    fun a c hac => normalizeBlock_eq_ok hn (normalizeLayeredText_idem hn cleanText) hblank hac
  have hkeys : blocks.map LayeredBlock.key = layered.blocks.map LayeredBlock.key :=
    forall₂_map_eq (fun a c hac => (hstep a c hac).1) hblocks
  refine ⟨rfl, hkeys, hkeys ▸ hnodup, ?_, ?_, ?_⟩
  · intro block hblock
    obtain ⟨raw, hraw, hac⟩ := forall₂_exists_of_mem_right hblocks hblock
    have hg : block.granularity = raw.granularity := congrArg Prod.fst (hstep _ _ hac).1
    have hall := (Bool.and_eq_true_iff.1 (Bool.not_eq_false' .. ▸ hset)).1
    have hmem := List.all_eq_true.1 hall raw.granularity (List.mem_map.2 ⟨raw, hraw, rfl⟩)
    rw [hg]
    exact isGranularity_of_declared hdeclared (by simpa using hmem)
  · intro block hblock
    obtain ⟨raw, -, hac⟩ := forall₂_exists_of_mem_right hblocks hblock
    exact (hstep _ _ hac).2.2
  · refine validateLayeredContent_of_blocks hvalid ?_ ?_
    · have := congrArg (List.map Prod.fst) hkeys
      rwa [List.map_map, List.map_map] at this
    · intro block hblock
      obtain ⟨raw, hraw, hac⟩ := forall₂_exists_of_mem_right hblocks hblock
      have hrawValid : validateBlock false true raw = .ok () := by
        unfold validateLayeredContent at hvalid
        simp only [bind_ok_iff, checkEach_ok_iff] at hvalid
        obtain ⟨-, -, -, -, -, hvalid, -⟩ := hvalid
        exact hvalid raw hraw
      unfold validateBlock at hrawValid ⊢
      rw [(hstep _ _ hac).2.1]
      exact hrawValid

/-! ### the adopted blocks -/

/-- The block that adoption makes of a candidate block. -/
structure Adopts (P : Platform β) (raw : LayeredBlock) (block : RetrievalBlock) : Prop where
  blockId : block.blockId = projectionBlockId raw.granularity raw.blockId
  granularity : block.granularity = raw.granularity
  notBlank : raw.HasBody P → block.originalText.isBlank = false
  digest : block.originalDigest = P.textDigest block.originalText

theorem adoptBlock_eq_ok {P : Platform β} {clean : Text} {searchFrom : Nat} {raw : LayeredBlock}
    {r : RetrievalBlock × AnchorReport × Nat} (h : adoptBlock P clean searchFrom raw = .ok r) : Adopts P raw r.1 := by
  unfold adoptBlock at h
  simp only [bind_ok_iff, pure_ok_iff] at h
  obtain ⟨_, -, _, -, _, -, _, -, rfl⟩ := h
  refine ⟨rfl, rfl, ?_, rfl⟩
  rintro ⟨body, hbody, hnormal, hblank⟩
  simp only [hbody, Option.getD_some, hnormal]
  exact hblank

theorem adoptBlocks_eq_ok {P : Platform β} {clean : Text} {searchFrom : Nat → Nat} {l : List LayeredBlock}
    {l' : List (RetrievalBlock × AnchorReport)} (h : adoptBlocks P clean searchFrom l = .ok l') :
    List.Forall₂ (Adopts P) l (l'.map Prod.fst) := by
  induction l generalizing searchFrom l' with
  | nil =>
    obtain rfl := Except.ok.inj h
    exact .nil
  | cons raw l ih =>
    unfold adoptBlocks at h
    simp only [bind_ok_iff, pure_ok_iff] at h
    obtain ⟨r, hr, rest, hrest, rfl⟩ := h
    exact .cons (adoptBlock_eq_ok hr) (ih hrest)

/-- What the later stages need of an adoption: candidate blocks under distinct keys of the accepted candidate, each
adopted by its own block of the projection. -/
structure Adoption (P : Platform β) (accepted : LayeredContent) (projection : RetrievalBlockProjection)
    (raws : List LayeredBlock) : Prop where
  blocks : List.Forall₂ (Adopts P) raws projection.blocks
  nodup : (raws.map LayeredBlock.key).Nodup
  keys : ∀ key, key ∈ raws.map LayeredBlock.key ↔ key ∈ accepted.blocks.map LayeredBlock.key
  granularity : ∀ raw ∈ raws, isGranularity raw.granularity = true
  body : ∀ raw ∈ raws, raw.HasBody P

theorem adoption_of_adopt {P : Platform β} (hn : P.IsNfc) {cleanText : Text} {layered candidate accepted : LayeredContent}
    {granularitySet : Option (List Int)} {a : AdoptArguments} {structure_ : StructureDocument}
    {projection : RetrievalBlockProjection}
    (hnorm : normalizeLayeredCandidate P cleanText layered granularitySet = .ok accepted)
    (hcandidate : candidate = layered ∨ candidate = accepted)
    (hadopt : adoptLayeredJson P cleanText candidate a = .ok (structure_, projection)) :
    Accepts P layered accepted ∧ ∃ raws, Adoption P accepted projection raws := by
  obtain ⟨declared, inner, adopted, hblank, -, -, hinner, hadopted, -, -, hblocks, -⟩ :=
    adoptLayeredJson_eq_ok P hadopt
  have haccepts := normalizeLayeredCandidate_accepts hn hblank hnorm
  have hblank' : (normalizeLayeredText P (normalizeLayeredText P cleanText)).isBlank = false := by
    rw [normalizeLayeredText_idem hn]
    exact hblank
  have hinnerAccepts := normalizeLayeredCandidate_accepts hn hblank' hinner
  have hkeys : inner.blocks.map LayeredBlock.key = accepted.blocks.map LayeredBlock.key := by
    rw [hinnerAccepts.keys]
    rcases hcandidate with rfl | rfl
    · exact haccepts.keys.symm
    · rfl
  have hperm := List.perm_insertionSort (fun a b : LayeredBlock => a.precedes b = true) inner.blocks
  refine ⟨haccepts, _, hblocks ▸ adoptBlocks_eq_ok hadopted, ?_, ?_, ?_, ?_⟩
  · exact ((hperm.map LayeredBlock.key).nodup_iff).2 hinnerAccepts.nodup
  · intro key
    rw [(hperm.map LayeredBlock.key).mem_iff, hkeys]
  · exact fun raw hraw => hinnerAccepts.granularity raw (hperm.mem_iff.1 hraw)
  · exact fun raw hraw => hinnerAccepts.body raw (hperm.mem_iff.1 hraw)

namespace Adoption

variable {P : Platform β} {accepted : LayeredContent} {projection : RetrievalBlockProjection} {raws : List LayeredBlock}

theorem exists_block (h : Adoption P accepted projection raws) {block : LayeredBlock} (hb : block ∈ accepted.blocks) :
    ∃ adopted ∈ projection.blocks, adopted.blockId = projectionBlockId block.granularity block.blockId ∧
      adopted.granularity = block.granularity := by
  obtain ⟨raw, hraw, hkey⟩ := List.mem_map.1 ((h.keys block.key).2 (List.mem_map_of_mem hb))
  obtain ⟨adopted, hadopted, hr⟩ := forall₂_exists_of_mem_right h.blocks.flip hraw
  obtain ⟨hg, hn⟩ := Prod.mk.inj hkey
  refine ⟨adopted, hadopted, ?_, ?_⟩
  · rw [hr.blockId, hg, hn]
  · rw [hr.granularity, hg]

theorem exists_accepted (h : Adoption P accepted projection raws) {adopted : RetrievalBlock}
    (hb : adopted ∈ projection.blocks) :
    ∃ block ∈ accepted.blocks, adopted.blockId = projectionBlockId block.granularity block.blockId ∧
      adopted.granularity = block.granularity ∧ isGranularity block.granularity = true := by
  obtain ⟨raw, hraw, hr⟩ := forall₂_exists_of_mem_right h.blocks hb
  obtain ⟨block, hblock, hkey⟩ := List.mem_map.1 ((h.keys raw.key).1 (List.mem_map_of_mem hraw))
  obtain ⟨hg, hn⟩ := Prod.mk.inj hkey
  refine ⟨block, hblock, ?_, ?_, ?_⟩
  · rw [hr.blockId, hg, hn]
  · rw [hr.granularity, hg]
  · rw [hg]
    exact h.granularity raw hraw

theorem originalText_notBlank (h : Adoption P accepted projection raws) {adopted : RetrievalBlock}
    (hb : adopted ∈ projection.blocks) : adopted.originalText.isBlank = false := by
  obtain ⟨raw, hraw, hr⟩ := forall₂_exists_of_mem_right h.blocks hb
  exact hr.notBlank (h.body raw hraw)

/-- The key under which later stages look a block up. -/
def entry (block : RetrievalBlock) : (Int × Nat) × RetrievalBlock :=
  ((block.granularity, (blockNumber? block.blockId).getD 0), block)

theorem entry_key {raw : LayeredBlock} {block : RetrievalBlock} (hr : Adopts P raw block)
    (hg : isGranularity raw.granularity = true) (hn : raw.blockId < 10000) : (entry block).1 = raw.projectionKey := by
  unfold entry LayeredBlock.projectionKey
  rw [hr.blockId, hr.granularity, blockNumber?_projectionBlockId hg, if_pos hn]
  rfl

theorem projectionByKey_eq (h : Adoption P accepted projection raws)
    (hn : ∀ block ∈ accepted.blocks, block.blockId < 10000) :
    projectionByKey projection = .ok (projection.blocks.map entry) := by
  refine mapEach_of_forall fun adopted hb => ?_
  obtain ⟨block, hblock, hid, -, hg⟩ := h.exists_accepted hb
  have hnumber : blockNumber? adopted.blockId = some block.blockId := by
    rw [hid, blockNumber?_projectionBlockId hg, if_pos (hn block hblock)]
  simp only [bind_ok_iff, pure_ok_iff, blockNumber, required_ok_iff]
  refine ⟨block.blockId, hnumber, ?_⟩
  unfold entry
  rw [hnumber]
  rfl

theorem lt_of_projectionByKey (h : Adoption P accepted projection raws) {byKey : List ((Int × Nat) × RetrievalBlock)}
    (hbyKey : projectionByKey projection = .ok byKey) : ∀ block ∈ accepted.blocks, block.blockId < 10000 := by
  intro block hblock
  obtain ⟨adopted, hadopted, hid, -⟩ := h.exists_block hblock
  obtain ⟨_, _, -, hg⟩ := h.exists_accepted hadopted
  have hgranularity : isGranularity block.granularity = true := by
    obtain ⟨raw, hraw, hkey⟩ := List.mem_map.1 ((h.keys block.key).2 (List.mem_map_of_mem hblock))
    rw [← (Prod.mk.inj hkey).1]
    exact h.granularity raw hraw
  unfold projectionByKey at hbyKey
  rw [mapEach_ok_iff] at hbyKey
  obtain ⟨e, -, he⟩ := forall₂_exists_of_mem_right hbyKey.flip hadopted
  simp only [bind_ok_iff, blockNumber, required_ok_iff] at he
  obtain ⟨n, hnumber, -⟩ := he
  rw [hid, blockNumber?_projectionBlockId hgranularity] at hnumber
  by_contra hge
  rw [if_neg hge] at hnumber
  cases hnumber

theorem projectionKey_injective {a b : LayeredBlock} (h : a.projectionKey = b.projectionKey) : a.key = b.key := by
  obtain ⟨hg, hn⟩ := Prod.mk.inj h
  unfold LayeredBlock.key
  rw [Int.ofNat.inj hg, hn]

theorem nodup_projectionKey {l : List LayeredBlock} (h : (l.map LayeredBlock.key).Nodup) :
    (l.map LayeredBlock.projectionKey).Nodup := by
  refine List.Nodup.map_on (fun a ha b hb hab => ?_) h.of_map
  exact List.inj_on_of_nodup_map h ha hb (projectionKey_injective hab)

theorem entry_keys (h : Adoption P accepted projection raws)
    (hn : ∀ block ∈ accepted.blocks, block.blockId < 10000) :
    (projection.blocks.map entry).map Prod.fst = raws.map LayeredBlock.projectionKey := by
  rw [List.map_map]
  have hraw : ∀ raw ∈ raws, raw.blockId < 10000 := by
    intro raw hraw
    obtain ⟨block, hblock, hkey⟩ := List.mem_map.1 ((h.keys raw.key).1 (List.mem_map_of_mem hraw))
    rw [← (Prod.mk.inj hkey).2]
    exact hn block hblock
  have hall : List.Forall₂ (fun raw adopted => raw ∈ raws ∧ Adopts P raw adopted) raws projection.blocks := by
    have hmem : ∀ raw ∈ raws, raw ∈ raws := fun _ h => h
    exact (List.forall₂_and_left _ _).2 ⟨hmem, h.blocks⟩
  exact forall₂_map_eq (fun raw adopted hr => entry_key hr.2 (h.granularity raw hr.1) (hraw raw hr.1)) hall

/-- A block of the accepted candidate finds the block of the projection that carries its identity. -/
theorem lookup_entry (h : Adoption P accepted projection raws)
    (hn : ∀ block ∈ accepted.blocks, block.blockId < 10000) {block : LayeredBlock} (hb : block ∈ accepted.blocks) :
    ∃ adopted ∈ projection.blocks, lookupLast (projection.blocks.map entry) block.projectionKey = some adopted ∧
      adopted.blockId = projectionBlockId block.granularity block.blockId := by
  have hkeys := h.entry_keys hn
  have hnodup : ((projection.blocks.map entry).map Prod.fst).Nodup := hkeys ▸ nodup_projectionKey h.nodup
  have hmem : block.projectionKey ∈ (projection.blocks.map entry).map Prod.fst := by
    obtain ⟨raw, hraw, hkey⟩ := List.mem_map.1 ((h.keys block.key).2 (List.mem_map_of_mem hb))
    obtain ⟨hg, hid⟩ := Prod.mk.inj hkey
    rw [hkeys]
    refine List.mem_map.2 ⟨raw, hraw, ?_⟩
    unfold LayeredBlock.projectionKey
    rw [hg, hid]
  obtain ⟨⟨key, adopted⟩, hentry, hfst⟩ := List.mem_map.1 hmem
  obtain ⟨adopted', hadopted, heq⟩ := List.mem_map.1 hentry
  have hlookup := lookupLast_of_mem hnodup hentry
  simp only at hfst
  rw [hfst] at hlookup
  refine ⟨adopted, ?_, hlookup, ?_⟩
  · rw [← (Prod.mk.inj heq).2]
    exact hadopted
  · obtain ⟨other, hother, hid, hg, hgranularity⟩ := h.exists_accepted hadopted
    obtain ⟨hkey, rfl⟩ := Prod.mk.inj heq
    rw [hid, blockNumber?_projectionBlockId hgranularity, if_pos (hn other hother), hg, hfst] at hkey
    obtain ⟨hgg, hnn⟩ := Prod.mk.inj hkey
    rw [hid, Int.ofNat.inj hgg, ← hnn]
    rfl

theorem covered (h : Adoption P accepted projection raws)
    (hn : ∀ block ∈ accepted.blocks, block.blockId < 10000) {blocks : List LayeredBlock}
    (hblocks : ∀ key ∈ accepted.blocks.map LayeredBlock.key, key ∈ blocks.map LayeredBlock.key) :
    leavesUncovered (projection.blocks.map entry) blocks = false := by
  unfold leavesUncovered
  rw [Bool.not_eq_false', List.all_eq_true]
  intro e he
  have hkey : e.1 ∈ raws.map LayeredBlock.projectionKey := h.entry_keys hn ▸ List.mem_map_of_mem he
  obtain ⟨raw, hraw, hfst⟩ := List.mem_map.1 hkey
  obtain ⟨block, hblock, heq⟩ := List.mem_map.1 (hblocks _ ((h.keys raw.key).1 (List.mem_map_of_mem hraw)))
  obtain ⟨hg, hid⟩ := Prod.mk.inj heq
  rw [List.contains_eq_mem, decide_eq_true_eq]
  refine List.mem_map.2 ⟨block, hblock, ?_⟩
  rw [← hfst]
  unfold LayeredBlock.projectionKey
  rw [hg, hid]

end Adoption

/-! ### the summaries -/

/-- The map gives a summary that is not blank to each adopted block, and to nothing else. -/
structure SummaryMap (projection : RetrievalBlockProjection) (summaries : Text → Option Text) : Prop where
  domain : ∀ id, (summaries id).isSome = true ↔ id ∈ projection.blocks.map RetrievalBlock.blockId
  notBlank : ∀ id summary, summaries id = some summary → summary.isBlank = false

/-- A candidate block with its summary. -/
def LayeredBlock.filledWith (summaries : Text → Option Text) (block : LayeredBlock) : LayeredBlock :=
  { block with llmSummary :=
      { block.llmSummary with body := summaries (projectionBlockId block.granularity block.blockId) } }

section Summaries

variable {P : Platform β} {layered accepted : LayeredContent} {projection : RetrievalBlockProjection}
  {raws : List LayeredBlock} {summaries : Text → Option Text}

theorem SummaryMap.exists_summary (hs : SummaryMap projection summaries) {adopted : RetrievalBlock}
    (hb : adopted ∈ projection.blocks) : ∃ summary, summaries adopted.blockId = some summary ∧
      summary.isBlank = false := by
  obtain ⟨summary, hsummary⟩ := Option.isSome_iff_exists.1 ((hs.domain _).2 (List.mem_map_of_mem hb))
  exact ⟨summary, hsummary, hs.notBlank _ _ hsummary⟩

theorem fillLayeredSummaries_eq (haccepts : Accepts P layered accepted) (h : Adoption P accepted projection raws)
    (hs : SummaryMap projection summaries) (hn : ∀ block ∈ accepted.blocks, block.blockId < 10000) :
    fillLayeredSummaries P accepted projection summaries =
      .ok { accepted with blocks := accepted.blocks.map (LayeredBlock.filledWith summaries) } := by
  unfold fillLayeredSummaries
  simp only [bind_ok_iff, failIf_ok_iff, pure_ok_iff]
  refine ⟨(), haccepts.valid, _, h.projectionByKey_eq hn, _, ?_, (), h.covered hn fun _ hkey => hkey, rfl⟩
  rw [eachDistinct_ok_iff]
  refine ⟨Adoption.nodup_projectionKey haccepts.nodup, by simp, ?_⟩
  rw [List.forall₂_map_right_iff, List.forall₂_same]
  intro block hblock
  obtain ⟨adopted, hadopted, hlookup, hid⟩ := h.lookup_entry hn hblock
  obtain ⟨summary, hsummary, hblank⟩ := hs.exists_summary hadopted
  unfold fillBlock
  simp only [bind_ok_iff, failIf_ok_iff, pure_ok_iff, required_ok_iff]
  refine ⟨adopted, hlookup, summary, hsummary, (), hblank, ?_⟩
  unfold LayeredBlock.filledWith
  rw [← hid, hsummary]

/-- The map that is read back from the filled candidate. -/
def summaryEntries (summaries : Text → Option Text) (blocks : List LayeredBlock) : List (Text × Text) :=
  blocks.map fun block => (projectionBlockId block.granularity block.blockId,
    (summaries (projectionBlockId block.granularity block.blockId)).getD [])

theorem validateBlock_filledWith (h : Adoption P accepted projection raws) (hs : SummaryMap projection summaries)
    {block : LayeredBlock} (hb : block ∈ accepted.blocks) :
    validateBlock true false (block.filledWith summaries) = .ok () := by
  obtain ⟨adopted, hadopted, hid, -⟩ := h.exists_block hb
  obtain ⟨summary, hsummary, hblank⟩ := hs.exists_summary hadopted
  unfold validateBlock LayeredBlock.filledWith
  simp only [bind_ok_iff, failIf_ok_iff, ← hid, hsummary, Option.all_some, hblank,
    Bool.and_false, Bool.false_and, and_true, exists_const]

/-- The summaries that the blocks carry, by identity. -/
def writtenSummaries (blocks : List LayeredBlock) : List (Text × Text) :=
  blocks.map fun block => (projectionBlockId block.granularity block.blockId, block.llmSummary.body.getD [])

theorem LayeredBlock.projectionKey_of_key {a block : LayeredBlock} (h : a.key = block.key) :
    a.projectionKey = block.projectionKey := by
  obtain ⟨hg, hid⟩ := Prod.mk.inj h
  unfold LayeredBlock.projectionKey
  rw [hg, hid]

theorem checkOriginal_of_original (haccepts : Accepts P layered accepted) {block a : LayeredBlock}
    (ha : a ∈ accepted.blocks) (hkey : a.key = block.key) (horiginal : block.originalContent = a.originalContent)
    (adopted : RetrievalBlock) : checkOriginal (some accepted) block adopted = .ok () := by
  have hprojection := LayeredBlock.projectionKey_of_key hkey
  have hlookup : lookupLast (accepted.blocks.map fun b => (b.projectionKey, b)) block.projectionKey = some a := by
    refine lookupLast_of_mem ?_ (List.mem_map.2 ⟨a, ha, by rw [hprojection]⟩)
    rw [List.map_map]
    exact Adoption.nodup_projectionKey haccepts.nodup
  obtain ⟨body, hbody, -, hblank⟩ := haccepts.body a ha
  have hexpected : expectedOriginal a adopted = a.originalContent := by
    unfold expectedOriginal
    rw [hbody, Option.all_some, hblank, Bool.and_false]
    rfl
  unfold checkOriginal
  simp only [bind_ok_iff, failIf_ok_iff, required_ok_iff]
  refine ⟨a, hlookup, ?_⟩
  rw [hexpected, horiginal]
  exact bne_self_eq_false _

theorem layeredSummaryMap_of_originals (haccepts : Accepts P layered accepted)
    (h : Adoption P accepted projection raws) (hn : ∀ block ∈ accepted.blocks, block.blockId < 10000)
    {content : LayeredContent} (hvalid : validateLayeredContent P content true false = .ok ())
    (hkeys : (content.blocks.map LayeredBlock.key).Perm (accepted.blocks.map LayeredBlock.key))
    (horiginal : ∀ block ∈ content.blocks, ∃ a ∈ accepted.blocks, a.key = block.key ∧
      block.originalContent = a.originalContent) :
    layeredSummaryMap P content projection (some accepted) = .ok (writtenSummaries content.blocks) := by
  have hsummaries : ∀ block ∈ content.blocks, validateBlock true false block = .ok () := by
    unfold validateLayeredContent at hvalid
    simp only [bind_ok_iff, checkEach_ok_iff] at hvalid
    obtain ⟨-, -, -, -, -, hblocks, -⟩ := hvalid
    exact hblocks
  unfold layeredSummaryMap
  simp only [bind_ok_iff, failIf_ok_iff, pure_ok_iff, checkEach_ok_iff,
    Option.toList_some, List.mem_singleton, forall_eq]
  refine ⟨(), hvalid, (), haccepts.valid, _, h.projectionByKey_eq hn, _, ?_, (),
    h.covered hn fun _ hkey => hkeys.mem_iff.2 hkey, rfl⟩
  rw [eachDistinct_ok_iff]
  refine ⟨Adoption.nodup_projectionKey (hkeys.nodup_iff.2 haccepts.nodup), by simp, ?_⟩
  unfold writtenSummaries
  rw [List.forall₂_map_right_iff, List.forall₂_same]
  intro block hblock
  obtain ⟨a, ha, hkey, hsame⟩ := horiginal block hblock
  obtain ⟨adopted, hadopted, hlookup, hid⟩ := h.lookup_entry hn ha
  obtain ⟨hg, hnumber⟩ := Prod.mk.inj hkey
  have hprojection := LayeredBlock.projectionKey_of_key hkey
  have hnotBlank := hsummaries block hblock
  unfold validateBlock at hnotBlank
  simp only [bind_ok_iff, failIf_ok_iff, Bool.true_and] at hnotBlank
  obtain ⟨-, hnotBlank, -⟩ := hnotBlank
  obtain ⟨summary, hsummary⟩ : ∃ summary, block.llmSummary.body = some summary := by
    cases hbody : block.llmSummary.body with
    | none =>
      rw [hbody] at hnotBlank
      cases hnotBlank
    | some summary => exact ⟨summary, rfl⟩
  rw [hsummary, Option.all_some] at hnotBlank
  unfold summaryOf
  simp only [bind_ok_iff, failIf_ok_iff, pure_ok_iff, required_ok_iff]
  refine ⟨adopted, hprojection ▸ hlookup, (), checkOriginal_of_original haccepts ha hkey hsame adopted, summary,
    hsummary, (), hnotBlank, ?_⟩
  rw [hid, hg, hnumber, hsummary, Option.getD_some]

theorem layeredSummaryMap_eq (haccepts : Accepts P layered accepted) (h : Adoption P accepted projection raws)
    (hs : SummaryMap projection summaries) (hn : ∀ block ∈ accepted.blocks, block.blockId < 10000) :
    layeredSummaryMap P { accepted with blocks := accepted.blocks.map (LayeredBlock.filledWith summaries) } projection
      (some accepted) = .ok (summaryEntries summaries accepted.blocks) := by
  have hvalid : validateLayeredContent P
      { accepted with blocks := accepted.blocks.map (LayeredBlock.filledWith summaries) } true false = .ok () := by
    refine validateLayeredContent_of_blocks haccepts.valid ?_ ?_
    · rw [List.map_map]
      rfl
    · intro block hblock
      obtain ⟨raw, hraw, rfl⟩ := List.mem_map.1 hblock
      exact validateBlock_filledWith h hs hraw
  have hkeys : (accepted.blocks.map (LayeredBlock.filledWith summaries)).map LayeredBlock.key =
      accepted.blocks.map LayeredBlock.key := by
    rw [List.map_map]
    rfl
  have hwritten : writtenSummaries (accepted.blocks.map (LayeredBlock.filledWith summaries)) =
      summaryEntries summaries accepted.blocks := by
    unfold writtenSummaries summaryEntries
    rw [List.map_map]
    rfl
  rw [← hwritten]
  refine layeredSummaryMap_of_originals haccepts h hn hvalid (hkeys ▸ List.Perm.refl _) fun block hblock => ?_
  obtain ⟨raw, hraw, rfl⟩ := List.mem_map.1 hblock
  exact ⟨raw, hraw, rfl, rfl⟩

theorem lookup_summaryEntries (h : Adoption P accepted projection raws) (haccepts : Accepts P layered accepted)
    (hs : SummaryMap projection summaries) (id : Text) :
    (summaryEntries summaries accepted.blocks).lookup id = summaries id := by
  have hids : (summaryEntries summaries accepted.blocks).map Prod.fst =
      accepted.blocks.map fun block => projectionBlockId block.granularity block.blockId := by
    unfold summaryEntries
    rw [List.map_map]
    rfl
  by_cases hid : id ∈ projection.blocks.map RetrievalBlock.blockId
  · obtain ⟨adopted, hadopted, rfl⟩ := List.mem_map.1 hid
    obtain ⟨block, hblock, hblockId, -, -⟩ := h.exists_accepted hadopted
    obtain ⟨summary, hsummary, -⟩ := hs.exists_summary hadopted
    rw [hsummary]
    refine lookup_of_mem ?_ ?_
    · rw [hids]
      refine List.Nodup.map_on (fun a ha b hb hab => ?_) haccepts.nodup.of_map
      exact List.inj_on_of_nodup_map haccepts.nodup ha hb
        (projectionBlockId_injective (haccepts.granularity a ha) (haccepts.granularity b hb) hab)
    · refine List.mem_map.2 ⟨block, hblock, ?_⟩
      rw [← hblockId, hsummary]
      rfl
  · have hnone : summaries id = none := by
      rw [← Option.not_isSome_iff_eq_none, hs.domain]
      exact hid
    rw [hnone]
    refine lookup_eq_none_of_not_mem ?_
    rw [hids]
    intro hmem
    obtain ⟨block, hblock, rfl⟩ := List.mem_map.1 hmem
    obtain ⟨adopted, hadopted, hblockId, -⟩ := h.exists_block hblock
    exact hid (List.mem_map.2 ⟨adopted, hadopted, hblockId⟩)

end Summaries

/-! ### construction and the plan -/

/-- Arguments that construction accepts of its caller. -/
structure ConstructArguments.Admissible (c : ConstructArguments) (projection : RetrievalBlockProjection) : Prop where
  artifact : c.constructionArtifact ≠ []
  distinct : c.dual ≠ c.constructionArtifact
  headers : c.headers.all headerValid = true
  recipe : c.recipeVersion = contentFullV1
  granularities : sameSet projection.granularities (c.granularities projection) = true

/-- Every text that becomes a vector fits the budget. -/
structure BudgetPermits (projection : RetrievalBlockProjection) (summaries : Text → Option Text) (headers : Headers)
    (maxBytes : Nat) : Prop where
  pos : 1 ≤ maxBytes
  original : ∀ block ∈ projection.blocks, block.granularity ≠ 0 →
    (fullText headers block.originalText).utf8Length ≤ maxBytes
  summary : ∀ block ∈ projection.blocks, ∀ summary, summaries block.blockId = some summary →
    (fullText headers summary).utf8Length ≤ maxBytes

theorem contentFull_eq {headers : Headers} (hh : headers.all headerValid = true) (body : Text) :
    contentFull body headers contentFullV1 = .ok (fullText headers body) := by
  unfold contentFull
  simp only [bind_ok_iff, failIf_ok_iff, pure_ok_iff, hh]
  exact ⟨(), bne_self_eq_false _, (), rfl, trivial⟩

theorem fullText_notBlank {body : Text} (h : body.isBlank = false) (headers : Headers) :
    (fullText headers body).isBlank = false := by
  unfold fullText
  split
  · exact h
  · unfold Text.isBlank at h ⊢
    rw [List.all_append, h, Bool.and_false]

theorem dual_ne_nil {c : ConstructArguments} : c.dual ≠ [] := by
  unfold ConstructArguments.dual
  split
  · simp
  · rename_i h
    simpa using h

section Construction

variable (J : JsonCodec β)

/-- What a unit adds to the plan. -/
def plannedUnit (unit : ConstructionUnit) : List PlannedChannel :=
  [if unit.granularity = 0 then .g0Original true
    else .vector ⟨unit.unitId, unit.granularity, .original, unit.coordinate, unit.original.contentFull,
      J.textDigest unit.original.contentFull⟩,
    .vector ⟨unit.unitId, unit.granularity, .summary, unit.coordinate, unit.summary.contentFull,
      J.textDigest unit.summary.contentFull⟩]

variable (structure_ : StructureDocument) (projection : RetrievalBlockProjection)
  (summaries : Text → Option Text) (c : ConstructArguments)

/-- The unit that construction makes of a block. -/
def constructedUnit (block : RetrievalBlock) : ConstructionUnit where
  unitId := block.blockId
  granularity := block.granularity
  coordinate := unitCoordinate structure_ projection block.blockId
  original := ⟨.original, block.originalText, block.originalDigest, fullText c.headers block.originalText,
    J.textDigest (fullText c.headers block.originalText), unitCoordinate structure_ projection block.blockId,
    if block.granularity = 0 then .nativeFull else .reattached⟩
  summary := ⟨.summary, (summaries block.blockId).getD [], J.textDigest ((summaries block.blockId).getD []),
    fullText c.headers ((summaries block.blockId).getD []),
    J.textDigest (fullText c.headers ((summaries block.blockId).getD [])),
    unitCoordinate structure_ projection block.blockId, .notApplicable⟩

variable {structure_ projection summaries c}

theorem constructUnit_eq (hc : c.Admissible projection) (hs : SummaryMap projection summaries)
    {block : RetrievalBlock} (hb : block ∈ projection.blocks) :
    constructUnit J structure_ projection summaries c block =
      .ok (constructedUnit J structure_ projection summaries c block) := by
  obtain ⟨summary, hsummary, hblank⟩ := hs.exists_summary hb
  unfold constructUnit constructedUnit
  rw [hc.recipe, contentFull_eq hc.headers]
  simp only [bind_ok_iff, failIf_ok_iff, pure_ok_iff, required_ok_iff]
  refine ⟨summary, hsummary, (), hblank, _, rfl, _, contentFull_eq hc.headers summary, ?_⟩
  rw [hsummary]
  rfl

theorem coordinate_ne_nil (blockId : Text) : unitCoordinate structure_ projection blockId ≠ [] := by
  unfold unitCoordinate
  simp

theorem validateUnit_constructedUnit (hc : c.Admissible projection) (hs : SummaryMap projection summaries)
    (htext : ∀ block ∈ projection.blocks, block.originalText.isBlank = false) {block : RetrievalBlock}
    (hb : block ∈ projection.blocks) :
    validateUnit J c.headers contentFullV1 (constructedUnit J structure_ projection summaries c block) = .ok () := by
  obtain ⟨summary, hsummary, hblank⟩ := hs.exists_summary hb
  unfold validateUnit validateChannel constructedUnit
  simp only [contentFull_eq hc.headers, bind_ok_iff, failIf_ok_iff, hsummary, Option.getD_some,
    hblank, htext block hb, bne_self_eq_false, Bool.or_false, Except.ok.injEq, exists_eq_left', and_true, exists_const]
  simpa using coordinate_ne_nil block.blockId

theorem exists_g0 (hg0 : projection.hasG0 = true) : ∃ block ∈ projection.blocks, block.granularity = 0 := by
  obtain ⟨block, hblock, h⟩ := List.any_eq_true.1 hg0
  exact ⟨block, hblock, by simpa using (Bool.and_eq_true_iff.1 h).1⟩

theorem validateConstruction_constructed (hc : c.Admissible projection) (hs : SummaryMap projection summaries)
    (htext : ∀ block ∈ projection.blocks, block.originalText.isBlank = false)
    (hartifact : structure_.generationArtifact ≠ projection.generationArtifact) (hg0 : projection.hasG0 = true)
    {units : List ConstructionUnit}
    (hunits : units = projection.blocks.map (constructedUnit J structure_ projection summaries c)) :
    validateConstruction J (constructionDocument J structure_ projection c units)
      (dualProjection J c (constructionDocument J structure_ projection c units)) c.headers = .ok () := by
  obtain ⟨block, hblock, hzero⟩ := exists_g0 hg0
  unfold validateConstruction
  simp only [bind_ok_iff, failIf_ok_iff, checkEach_ok_iff]
  refine ⟨(), ?_, (), ?_, (), ?_, ?_⟩
  · have hdual : (c.constructionArtifact == c.dual) = false := beq_eq_false_iff_ne.2 hc.distinct.symm
    have hdistinct : (structure_.generationArtifact == projection.generationArtifact) = false :=
      beq_eq_false_iff_ne.2 hartifact
    simp only [constructionDocument, dualProjection, bne_self_eq_false, hdual, hdistinct, Bool.or_false]
  · have hne : units.isEmpty = false := by
      rw [hunits, List.isEmpty_eq_false_iff, Ne, List.map_eq_nil_iff]
      exact List.ne_nil_of_mem hblock
    simp only [constructionDocument, dualProjection, hne, bne_self_eq_false, Bool.or_false]
  · intro unit hunit
    have hmem : unit ∈ units := hunit
    rw [hunits] at hmem
    obtain ⟨b, hb, rfl⟩ := List.mem_map.1 hmem
    show validateUnit J c.headers c.recipeVersion _ = _
    rw [hc.recipe]
    exact validateUnit_constructedUnit J hc hs htext hb
  · rw [Bool.not_eq_false', List.any_eq_true]
    refine ⟨constructedUnit J structure_ projection summaries c block, ?_, ?_⟩
    · show _ ∈ units
      rw [hunits]
      exact List.mem_map_of_mem hblock
    · simp only [constructedUnit, hzero, htext block hblock, ChannelRecord.isReattached, if_true]
      decide

theorem planUnit_constructedUnit {maxBytes : Nat} (hc : c.Admissible projection)
    (hs : SummaryMap projection summaries) (hbudget : BudgetPermits projection summaries c.headers maxBytes)
    (htext : ∀ block ∈ projection.blocks, block.originalText.isBlank = false) {block : RetrievalBlock}
    (hb : block ∈ projection.blocks) :
    planUnit J contentFullV1 c.headers maxBytes (constructedUnit J structure_ projection summaries c block) =
      .ok (plannedUnit J (constructedUnit J structure_ projection summaries c block)) := by
  obtain ⟨summary, hsummary, hblank⟩ := hs.exists_summary hb
  have horiginalFull := fullText_notBlank (htext block hb) c.headers
  have hsummaryFull := fullText_notBlank hblank c.headers
  have hsummaryFits := hbudget.summary block hb summary hsummary
  unfold planUnit
  simp only [bind_ok_iff, pure_ok_iff]
  refine ⟨if block.granularity = 0 then .g0Original true else _, ?_, _, ?_, rfl⟩
  · unfold planChannel
    simp only [contentFull_eq hc.headers, bind_ok_iff, failIf_ok_iff, constructedUnit]
    refine ⟨_, rfl, (), by simp, ?_⟩
    by_cases hg : block.granularity = 0
    · simp only [hg, horiginalFull, ChannelRecord.isReattached]
      rfl
    · have horiginalFits := hbudget.original block hb hg
      have hgf : (block.granularity == 0) = false := beq_eq_false_iff_ne.2 hg
      simp only [hg, hgf, Bool.false_and, Bool.false_eq_true, if_false, horiginalFull, bind_ok_iff,
        failIf_ok_iff]
      exact ⟨(), decide_eq_false (by omega), rfl⟩
  · unfold planChannel
    simp only [contentFull_eq hc.headers, bind_ok_iff, failIf_ok_iff, constructedUnit, hsummary,
      Option.getD_some]
    refine ⟨_, rfl, (), by simp, ?_⟩
    have hchannel : (Channel.summary == Channel.original) = false := rfl
    simp only [hchannel, Bool.and_false, Bool.false_eq_true, if_false, hsummaryFull, bind_ok_iff,
      failIf_ok_iff]
    exact ⟨(), decide_eq_false (by omega), rfl⟩

theorem vectorizationPlan_constructed {maxBytes : Nat} (hc : c.Admissible projection)
    (hs : SummaryMap projection summaries) (hbudget : BudgetPermits projection summaries c.headers maxBytes)
    (htext : ∀ block ∈ projection.blocks, block.originalText.isBlank = false) (hg0 : projection.hasG0 = true)
    (hartifact : structure_.generationArtifact ≠ projection.generationArtifact) {units : List ConstructionUnit}
    (hunits : units = projection.blocks.map (constructedUnit J structure_ projection summaries c)) :
    ∃ plan, vectorizationPlan J (constructionDocument J structure_ projection c units)
      (dualProjection J c (constructionDocument J structure_ projection c units)) c.headers maxBytes = .ok plan := by
  have hchannels : mapEach units (planUnit J c.recipeVersion c.headers maxBytes) =
      .ok (units.map (plannedUnit J)) := by
    refine mapEach_of_forall fun unit hunit => ?_
    rw [hunits] at hunit
    obtain ⟨b, hb, rfl⟩ := List.mem_map.1 hunit
    rw [hc.recipe]
    exact planUnit_constructedUnit J hc hs hbudget htext hb
  obtain ⟨block, hblock, hzero⟩ := exists_g0 hg0
  obtain ⟨summary, hsummary, hblank⟩ := hs.exists_summary hblock
  have hplanned : plannedUnit J (constructedUnit J structure_ projection summaries c block) ∈
      units.map (plannedUnit J) := by
    rw [hunits]
    exact List.mem_map_of_mem (List.mem_map_of_mem hblock)
  have horiginal : PlannedChannel.g0Original true ∈ (units.map (plannedUnit J)).flatten := by
    refine List.mem_flatten.2 ⟨_, hplanned, ?_⟩
    simp only [plannedUnit, constructedUnit, hzero, if_true]
    exact List.mem_cons_self
  unfold vectorizationPlan
  simp only [bind_ok_iff, failIf_ok_iff, pure_ok_iff]
  refine ⟨_, (), validateConstruction_constructed J hc hs htext hartifact hg0 hunits, (),
    decide_eq_false (Nat.not_lt.2 hbudget.pos), _, hchannels, (), ?_, (), ?_, rfl⟩
  · rw [Bool.not_eq_false', List.contains_eq_mem, decide_eq_true_eq]
    exact horiginal
  · rw [Bool.not_eq_false', List.any_eq_true]
    let unit := constructedUnit J structure_ projection summaries c block
    refine ⟨⟨unit.unitId, unit.granularity, .summary, unit.coordinate, unit.summary.contentFull,
      J.textDigest unit.summary.contentFull⟩, ?_, ?_⟩
    · rw [(List.perm_insertionSort _ _).mem_iff, List.mem_filterMap]
      refine ⟨.vector _, List.mem_flatten.2 ⟨_, hplanned, ?_⟩, rfl⟩
      unfold plannedUnit
      exact List.mem_cons_of_mem _ List.mem_cons_self
    · have hfull : unit.summary.contentFull.isBlank = false := by
        show (fullText c.headers ((summaries block.blockId).getD [])).isBlank = false
        rw [hsummary]
        exact fullText_notBlank hblank c.headers
      have hgranularity : unit.granularity = 0 := hzero
      simp only [VectorizationUnit.isG0Summary, hfull, hgranularity]
      rfl

theorem construct_eq {cleanText : Text} {required : List Int} (hc : c.Admissible projection)
    (hs : SummaryMap projection summaries)
    (htext : ∀ block ∈ projection.blocks, block.originalText.isBlank = false)
    (hartifact : structure_.generationArtifact ≠ projection.generationArtifact)
    (hvalid : validateStructure J structure_ projection cleanText required = .ok ()) {units : List ConstructionUnit}
    (hunits : units = projection.blocks.map (constructedUnit J structure_ projection summaries c)) :
    construct J structure_ projection cleanText summaries c =
      .ok (constructionDocument J structure_ projection c units,
        dualProjection J c (constructionDocument J structure_ projection c units)) := by
  have hg0 : projection.hasG0 = true := by
    unfold validateStructure at hvalid
    rw [bind_ok_iff] at hvalid
    obtain ⟨_, -, hg⟩ := hvalid
    rw [failIf_ok_iff, Bool.or_eq_false_iff] at hg
    simpa using hg.2
  have hgranularities : validateStructure J structure_ projection cleanText (c.granularities projection) = .ok () := by
    unfold validateStructure at hvalid ⊢
    rw [bind_ok_iff] at hvalid ⊢
    obtain ⟨u, hanchors, -⟩ := hvalid
    refine ⟨u, hanchors, ?_⟩
    rw [failIf_ok_iff, hc.granularities, hg0]
    rfl
  unfold construct
  simp only [bind_ok_iff, failIf_ok_iff, pure_ok_iff]
  refine ⟨(), hgranularities, (), ?_, (), beq_eq_false_iff_ne.2 hc.distinct, units, ?_, (),
    validateConstruction_constructed J hc hs htext hartifact hg0 hunits, rfl⟩
  · rw [Bool.or_eq_false_iff, List.isEmpty_eq_false_iff, List.isEmpty_eq_false_iff]
    exact ⟨hc.artifact, dual_ne_nil⟩
  · rw [hunits]
    exact mapEach_of_forall fun block hb => constructUnit_eq J hc hs hb

end Construction

/-! ### the handoff -/

/-- The stages from the summaries to the plan succeed, and the summaries read back are those filled in. -/
def HandoffSucceeds (P : Platform β) (cleanText : Text) (accepted : LayeredContent) (structure_ : StructureDocument)
    (projection : RetrievalBlockProjection) (summaries : Text → Option Text) (c : ConstructArguments)
    (maxBytes : Nat) : Prop :=
  ∃ filled entries documents plan,
    fillLayeredSummaries P accepted projection summaries = .ok filled ∧
    layeredSummaryMap P filled projection (some accepted) = .ok entries ∧
    (∀ id, entries.lookup id = summaries id) ∧
    construct P.toJsonCodec structure_ projection cleanText (fun id => entries.lookup id) c = .ok documents ∧
    vectorizationPlan P.toJsonCodec documents.1 documents.2 c.headers maxBytes = .ok plan

/-- The later stages succeed on an adopted generation exactly if every block id has at most four digits and the clean
text is normalized. -/
theorem handoff (P : Platform β) (hn : P.IsNfc) (hdigest : Function.Injective P.textDigest) (cleanText : Text)
    (layered candidate accepted : LayeredContent) (granularitySet : Option (List Int)) (a : AdoptArguments)
    (structure_ : StructureDocument) (projection : RetrievalBlockProjection) (summaries : Text → Option Text)
    (c : ConstructArguments) (maxBytes : Nat)
    (hnorm : normalizeLayeredCandidate P cleanText layered granularitySet = .ok accepted)
    (hcandidate : candidate = layered ∨ candidate = accepted)
    (hadopt : adoptLayeredJson P cleanText candidate a = .ok (structure_, projection))
    (hs : SummaryMap projection summaries) (hc : c.Admissible projection)
    (hbudget : BudgetPermits projection summaries c.headers maxBytes) :
    HandoffSucceeds P cleanText accepted structure_ projection summaries c maxBytes ↔
      (∀ block ∈ layered.blocks, block.blockId < 10000) ∧ normalizeLayeredText P cleanText = cleanText := by
  obtain ⟨haccepts, raws, h⟩ := adoption_of_adopt hn hnorm hcandidate hadopt
  obtain ⟨declared, inner, adopted, -, hartifact, -, -, -, hstructure, hprojection, -, hvalid⟩ :=
    adoptLayeredJson_eq_ok P hadopt
  have hdistinct : structure_.generationArtifact ≠ projection.generationArtifact := by
    rw [hprojection, hstructure]
    exact hartifact.symm
  have htext : ∀ block ∈ projection.blocks, block.originalText.isBlank = false :=
    fun _ hb => h.originalText_notBlank hb
  rw [haccepts.ids_iff]
  constructor
  · rintro ⟨filled, entries, documents, plan, hfill, -, -, hconstruct, -⟩
    constructor
    · unfold fillLayeredSummaries at hfill
      simp only [bind_ok_iff] at hfill
      obtain ⟨_, -, byKey, hbyKey, -⟩ := hfill
      exact h.lt_of_projectionByKey hbyKey
    · unfold construct validateStructure validateAnchors at hconstruct
      simp only [bind_ok_iff, failIf_ok_iff] at hconstruct
      obtain ⟨_, ⟨_, ⟨_, hclean, -⟩, -⟩, -⟩ := hconstruct
      rw [hstructure, bne_eq_false_iff_eq] at hclean
      exact hdigest hclean
  · rintro ⟨hlt, hclean⟩
    have hvalidClean : validateStructure P.toJsonCodec structure_ projection cleanText declared = .ok () := by
      rw [hclean] at hvalid
      exact hvalid
    have hg0 : projection.hasG0 = true := by
      unfold validateStructure at hvalid
      rw [bind_ok_iff] at hvalid
      obtain ⟨_, -, hg⟩ := hvalid
      rw [failIf_ok_iff, Bool.or_eq_false_iff] at hg
      simpa using hg.2
    obtain ⟨units, hunits⟩ : ∃ units, units =
        projection.blocks.map (constructedUnit P.toJsonCodec structure_ projection summaries c) := ⟨_, rfl⟩
    have hconstruct := construct_eq P.toJsonCodec hc hs htext hdistinct hvalidClean hunits
    obtain ⟨plan, hplan⟩ := vectorizationPlan_constructed P.toJsonCodec hc hs hbudget htext hg0 hdistinct hunits
    have hlookup : (fun id => (summaryEntries summaries accepted.blocks).lookup id) = summaries :=
      funext (lookup_summaryEntries h haccepts hs)
    have hfill := fillLayeredSummaries_eq haccepts h hs hlt
    have hread := layeredSummaryMap_eq haccepts h hs hlt
    refine ⟨_, _, (_, _), plan, hfill, hread, lookup_summaryEntries h haccepts hs, ?_, hplan⟩
    rw [hlookup]
    exact hconstruct

/-! ### one block -/

/-- A candidate of one g0 block, whose body is left to the kernel. -/
def oneBlock (blockId : Nat) : LayeredContent :=
  { tunnelCandidate with blocks := [⟨blockId, 0, ⟨none, none⟩, ⟨none, none⟩⟩] }

/-- The summary of one identity. -/
def oneSummary (id : Text) : Text → Option Text := fun id' => if id' = id then some "s".toList else none

def plainConstruction : ConstructArguments := ⟨"construction".toList, none, [], contentFullV1, none⟩

theorem plainPlatform_isNfc : plainPlatform.IsNfc := ⟨fun _ => rfl, fun _ h => h⟩

theorem summaryMap_oneSummary {projection : RetrievalBlockProjection} {id : Text}
    (h : projection.blocks.map RetrievalBlock.blockId = [id]) : SummaryMap projection (oneSummary id) := by
  constructor
  · intro id'
    rw [h, List.mem_singleton]
    unfold oneSummary
    by_cases hid : id' = id
    · simp [hid]
    · simp [hid]
  · intro id' summary hsummary
    unfold oneSummary at hsummary
    split at hsummary
    · obtain rfl := Option.some.inj hsummary
      decide
    · cases hsummary

theorem admissible_plainConstruction {projection : RetrievalBlockProjection}
    (h : projection.granularities = [0]) : plainConstruction.Admissible projection := by
  refine ⟨by decide, by decide, rfl, rfl, ?_⟩
  have hg : plainConstruction.granularities projection = projection.granularities := rfl
  rw [hg, h]
  decide

theorem budgetPermits_oneSummary {projection : RetrievalBlockProjection} {id : Text}
    (h : projection.granularities = [0]) : BudgetPermits projection (oneSummary id) [] 8 := by
  refine ⟨by decide, ?_, ?_⟩
  · intro block hblock hg
    have hmem : block.granularity ∈ projection.granularities := List.mem_map_of_mem hblock
    rw [h, List.mem_singleton] at hmem
    exact absurd hmem hg
  · intro block _ summary hsummary
    unfold oneSummary at hsummary
    split at hsummary
    · obtain rfl := Option.some.inj hsummary
      decide
    · cases hsummary

/-- A block of id 7 passes every stage. -/
theorem handoff_oneBlock : ∃ accepted structure_ projection,
    normalizeLayeredCandidate plainPlatform "a".toList (oneBlock 7) (some [0]) = .ok accepted ∧
    adoptLayeredJson plainPlatform "a".toList accepted (tunnelArguments "a".toList) = .ok (structure_, projection) ∧
    HandoffSucceeds plainPlatform "a".toList accepted structure_ projection (oneSummary "g0:b0007".toList)
      plainConstruction 8 := by
  refine ⟨_, _, _, rfl, rfl, ?_⟩
  refine (handoff plainPlatform plainPlatform_isNfc (fun _ _ h => h) "a".toList (oneBlock 7) _ _ (some [0])
    (tunnelArguments "a".toList) _ _ _ _ 8 rfl (Or.inr rfl) rfl (summaryMap_oneSummary rfl)
    (admissible_plainConstruction rfl) (budgetPermits_oneSummary rfl)).2 ⟨?_, rfl⟩
  decide

/-- A block of id 10000 is accepted and adopted, and refused by the stage that fills the summaries. -/
theorem handoff_refused : ∃ accepted structure_ projection,
    normalizeLayeredCandidate plainPlatform "a".toList (oneBlock 10000) (some [0]) = .ok accepted ∧
    adoptLayeredJson plainPlatform "a".toList accepted (tunnelArguments "a".toList) = .ok (structure_, projection) ∧
    SummaryMap projection (oneSummary "g0:b10000".toList) ∧ plainConstruction.Admissible projection ∧
    BudgetPermits projection (oneSummary "g0:b10000".toList) [] 8 ∧
    ¬ HandoffSucceeds plainPlatform "a".toList accepted structure_ projection (oneSummary "g0:b10000".toList)
      plainConstruction 8 := by
  refine ⟨_, _, _, rfl, rfl, summaryMap_oneSummary rfl, admissible_plainConstruction rfl,
    budgetPermits_oneSummary rfl, ?_⟩
  rintro ⟨filled, -, -, -, hfill, -⟩
  cases hfill

end KnowledgeBase
