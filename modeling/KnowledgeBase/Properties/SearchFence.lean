import KnowledgeBase.Serving.Keys
import KnowledgeBase.Serving.Search

/-!
# The fence of a search

What a search returns has passed the revalidation, so it meets the publication predicate in that state; the stages
before and after only drop and reorder candidates. The proof a hit cites was read by the scan: it is still the
pointer's current one, since the record has kept its generation and a pointer of the same generation has kept its
proof.
-/

namespace KnowledgeBase

open Checked Relational

namespace Serving

variable {s : Serving}

/-! ### stages only drop and reorder -/

theorem mem_insertBest {q : SearchInput} {selected : List Scored} {x y : Scored} (h : y ∈ insertBest q selected x) :
    y ∈ selected ∨ y = x := by
  unfold insertBest at h
  split at h
  · rcases List.mem_append.1 h with h | h
    · exact .inl h
    · exact .inr (List.mem_singleton.1 h)
  · split at h
    · obtain ⟨z, hz, rfl⟩ := mem_updateWhere.1 h
      split
      · exact .inr rfl
      · exact .inl hz
    · exact .inl h

theorem mem_foldl_insertBest {q : SearchInput} {work selected : List Scored} {y : Scored}
    (h : y ∈ work.foldl (insertBest q) selected) : y ∈ selected ∨ y ∈ work := by
  induction work generalizing selected with
  | nil => exact .inl h
  | cons x work ih =>
    rcases ih h with h | h
    · rcases mem_insertBest h with h | rfl
      · exact .inl h
      · exact .inr List.mem_cons_self
    · exact .inr (List.mem_cons_of_mem x h)

theorem mem_deduplicate {q : SearchInput} {work : List Scored} {y : Scored} (h : y ∈ deduplicate q work) :
    y ∈ work := by
  rcases mem_foldl_insertBest ((List.mem_insertionSort _).1 h) with h | h
  · cases h
  · exact h

theorem mem_rerank {q : SearchInput} {work : List Scored} {y : Scored} (h : y ∈ rerank q work) : y ∈ work := by
  unfold rerank at h
  split at h
  · exact h
  · exact (List.mem_insertionSort _).1 h

theorem mem_present {q : SearchInput} {work : List Scored} {hit : Candidate} (h : hit ∈ present q work) :
    ∃ y ∈ work, y.candidate = hit := by
  obtain ⟨y, hy, rfl⟩ := List.mem_map.1 h
  exact ⟨y, mem_deduplicate (mem_rerank (List.mem_of_mem_take hy)), rfl⟩

theorem mem_rankAnnCandidates {q : SearchInput} {rows : List Candidate} {y : Scored}
    (h : y ∈ rankAnnCandidates q rows) : y.candidate ∈ rows := by
  obtain ⟨c, hc, hy⟩ := List.mem_filterMap.1 ((List.mem_insertionSort _).1 (List.mem_of_mem_take h))
  obtain ⟨score, -, rfl⟩ := Option.map_eq_some_iff.1 hy
  exact hc

/-! ### what the two reads have found -/

/-- The rows a record is joined with when it is published, and what the predicate says of them. -/
structure IsPublishedWith (s : Serving) (r : VectorRecordRow) (p : PointerRow) (proof : ProofRow) (i : ItemRow) :
    Prop where
  record : r ∈ s.records
  live : r.deletedAt = none
  indexed : r.publicationState = .indexed
  pointer : p ∈ s.pointers
  pointerKey : p.key = (r.team, r.item, r.nspace)
  pointerActive : p.lifecycleState = .active
  pointerGeneration : p.activeIndexGeneration = r.indexGeneration
  pointerArtifact : p.generationArtifact = r.generationArtifact
  item : i ∈ s.items
  itemKey : i.key = (r.team, r.item)
  itemActive : i.lifecycleState = .active
  itemServing : i.servingRevision = some r.revision
  inserted : proof ∈ s.proofs
  current : proof.proof = p.lastProof
  counts : proof.expectedCount = proof.actualCount ∧ proof.actualCount = proof.matchedCount
  complete : proof.actualCount = s.records.countP (isCounted proof)
  manifest : s.manifestHolds proof r = true
  counted : isCounted proof r = true

theorem isPublishedWith_of_citedProof? {r : VectorRecordRow} {proof : ProofRow} (hr : r ∈ s.records)
    (h : s.citedProof? r = some proof) : ∃ p i, s.IsPublishedWith r p proof i := by
  unfold citedProof? at h
  obtain ⟨n, -, h⟩ := Option.bind_eq_some_iff.1 h
  obtain ⟨p, hp, h⟩ := Option.bind_eq_some_iff.1 h
  obtain ⟨proof₀, hproof, h⟩ := Option.bind_eq_some_iff.1 h
  obtain ⟨i, hi, h⟩ := Option.bind_eq_some_iff.1 h
  obtain ⟨a, -, h⟩ := Option.bind_eq_some_iff.1 h
  split at h
  · rename_i hpred
    obtain rfl := Option.some.inj h
    simp only [publicationPredicate, VectorRecordRow.isIndexed, Serving.proofComplete, Bool.and_eq_true, beq_iff_eq,
      Option.isNone_iff_eq_none] at hpred
    obtain ⟨hpmem, hpkey⟩ := pointer?_eq_some hp
    obtain ⟨himem, hikey⟩ := item?_eq_some hi
    have hid := List.find?_some hproof
    obtain ⟨⟨⟨⟨⟨⟨⟨hexpected, hmatched⟩, hcomplete⟩, -⟩, hactive⟩, -⟩, hserving⟩, hmanifest⟩ := hpred
    refine ⟨p, i, hr, ?_, ?_, hpmem, hpkey, ?_, ?_, ?_, himem, hikey, hactive, hserving, List.mem_of_find?_eq_some hproof,
      by simpa using hid, ⟨hexpected.2, hmatched⟩, hcomplete, hmanifest, ?_⟩
    all_goals simp [hexpected, isCounted, VectorRecordRow.isIndexed]
  · cases h

theorem mem_fetchCandidateRows {q : SearchInput} {rows : List Candidate} {c : Candidate}
    (h : s.fetchCandidateRows q = .ok rows) (hc : c ∈ rows) :
    ∃ r ∈ s.records, r.team = q.team ∧ r.nspace = q.nspace ∧ ∃ proof, s.citedProof? r = some proof ∧
      candidateOf r proof = c := by
  unfold fetchCandidateRows at h
  obtain ⟨_, -, h⟩ := bind_ok_iff.1 h
  obtain rfl := pure_ok_iff.1 h
  obtain ⟨r, hr, hcited⟩ := List.mem_filterMap.1 hc
  obtain ⟨hmem, hselected⟩ := List.mem_filter.1 hr
  obtain ⟨proof, hproof, rfl⟩ := Option.map_eq_some_iff.1 hcited
  simp only [isSelected, Bool.and_eq_true, beq_iff_eq] at hselected
  exact ⟨r, hmem, hselected.1.1, hselected.1.2, proof, hproof, rfl⟩

theorem mem_revalidatePublicationFence {q : SearchInput} {candidates : List Scored} {c : Scored}
    (h : c ∈ s.revalidatePublicationFence q candidates) :
    c ∈ candidates ∧ ∃ r ∈ s.records, r.team = q.team ∧ r.nspace = q.nspace ∧ r.record = c.candidate.record ∧
      (∃ d ∈ candidates, d.candidate.record = r.record ∧ d.candidate.item = r.item ∧ d.candidate.revision = r.revision) ∧
      ∃ proof, s.citedProof? r = some proof := by
  obtain ⟨hmem, happroved⟩ := List.mem_filter.1 h
  rw [List.contains_iff_mem] at happroved
  obtain ⟨r, hr, hrecord⟩ := List.mem_map.1 happroved
  obtain ⟨hr, hpred⟩ := List.mem_filter.1 hr
  simp only [isRequested, Bool.and_eq_true, beq_iff_eq, List.any_eq_true, Option.isSome_iff_exists] at hpred
  obtain ⟨⟨⟨hteam, hnspace⟩, d, hd, ⟨hdr, hdi⟩, hdv⟩, proof, hproof⟩ := hpred
  exact ⟨hmem, r, hr, hteam, hnspace, hrecord, ⟨d, hd, hdr, hdi, hdv⟩, proof, hproof⟩

/-! ### the scan, read again at the revalidation -/

theorem candidate_eq_of_record (hs : s.Keyed) {q : SearchInput} {rows : List Candidate} {c d : Candidate}
    (h : s.fetchCandidateRows q = .ok rows) (hc : c ∈ rows) (hd : d ∈ rows) (hcd : c.record = d.record) : c = d := by
  obtain ⟨r, hr, -, -, proof, hproof, rfl⟩ := mem_fetchCandidateRows h hc
  obtain ⟨r', hr', -, -, proof', hproof', rfl⟩ := mem_fetchCandidateRows h hd
  obtain rfl := eq_of_key hs.records hr hr' hcd
  rw [hproof] at hproof'
  rw [Option.some.inj hproof']

/-- A pointer whose generation is unchanged across a run still names the same proof. -/
theorem Advances.lastProof_eq {s' : Serving} (h : s.Advances s') {p p' : PointerRow} (hp : p ∈ s.pointers)
    (hp' : p' ∈ s'.pointers) (hkey : p'.key = p.key) (hgen : p'.activeIndexGeneration = p.activeIndexGeneration) :
    p'.lastProof = p.lastProof := by
  obtain ⟨q, hq, hqkey, hpub⟩ := h.pointers p hp
  obtain rfl := eq_of_key h.keyed.pointers hq hp' (hqkey.trans hkey.symm)
  rcases hpub with hpub | hlt
  · exact congrArg (fun x => x.2.1) hpub
  · omega

theorem Advances.place_eq {s' : Serving} (h : s.Advances s') {r r' : VectorRecordRow} (hr : r ∈ s.records)
    (hr' : r' ∈ s'.records) (hrecord : r'.record = r.record) : r'.place = r.place := by
  obtain ⟨q, hq, hplace⟩ := h.records r hr
  obtain rfl := eq_of_key h.keyed.records hq hr' ((congrArg Prod.fst hplace).trans hrecord.symm)
  exact hplace

/-- What a hit of the scan says of the record it names. -/
def Describes (c : Candidate) (r : VectorRecordRow) : Prop :=
  c.record = r.record ∧ c.item = r.item ∧ c.revision = r.revision ∧ c.nspace = r.nspace ∧
    c.generationArtifact = r.generationArtifact ∧ c.indexGeneration = r.indexGeneration

theorem published_of_revalidated {s' : Serving} (hs : s.Keyed) (h : s.Advances s') {q : SearchInput}
    {rows : List Candidate} (hrows : s.fetchCandidateRows q = .ok rows) {candidates : List Scored}
    (hcandidates : ∀ c ∈ candidates, c.candidate ∈ rows) {c : Scored}
    (hc : c ∈ s'.revalidatePublicationFence q candidates) :
    ∃ r p proof i, s'.IsPublishedWith r p proof i ∧ Describes c.candidate r ∧ r.team = q.team ∧
      c.candidate.publicationProof = p.lastProof := by
  obtain ⟨hmem, r, hr, hteam, hnspace, hrecord, ⟨d, hd, hdr, hdi, hdv⟩, proof, hproof⟩ :=
    mem_revalidatePublicationFence hc
  have hcd : c.candidate = d.candidate :=
    candidate_eq_of_record hs hrows (hcandidates c hmem) (hcandidates d hd) (hrecord.symm.trans hdr.symm)
  obtain ⟨p, i, hpub⟩ := isPublishedWith_of_citedProof? hr hproof
  obtain ⟨r₀, hr₀, hteam₀, hnspace₀, proof₀, hproof₀, hcand⟩ := mem_fetchCandidateRows hrows (hcandidates c hmem)
  obtain ⟨p₀, i₀, hpub₀⟩ := isPublishedWith_of_citedProof? hr₀ hproof₀
  have hrecord₀ : c.candidate.record = r₀.record := by rw [← hcand]; rfl
  have hitem₀ : c.candidate.item = r₀.item := by rw [← hcand]; rfl
  have hplace := h.place_eq hr₀ hr (hrecord.trans hrecord₀)
  simp only [VectorRecordRow.place, Prod.mk.injEq] at hplace
  obtain ⟨-, hplaceTeam, hplaceNspace, hplaceArtifact, hplaceGen⟩ := hplace
  have hkey : p.key = p₀.key := by
    rw [hpub.pointerKey, hpub₀.pointerKey, hplaceTeam, hplaceNspace, ← hitem₀, hcd, hdi]
  have hgen : p.activeIndexGeneration = p₀.activeIndexGeneration := by
    rw [hpub.pointerGeneration, hpub₀.pointerGeneration, hplaceGen]
  have hlast := h.lastProof_eq hpub₀.pointer hpub.pointer hkey hgen
  refine ⟨r, p, proof, i, hpub, ⟨hrecord.symm, ?_, ?_, ?_, ?_, ?_⟩, hteam, ?_⟩
  · rw [hcd, hdi]
  · rw [hcd, hdv]
  · rw [← hcand, hplaceNspace]; rfl
  · rw [← hcand, hplaceArtifact]; rfl
  · rw [← hcand, hplaceGen]; rfl
  · rw [hlast, ← hpub₀.current, ← hcand]; rfl

end Serving

/-! ### a search among the writers -/

open Serving

variable (grace : Nat)

/-- A search whose scan follows the first writers, whose eligibility check the second and whose revalidation the
third. -/
def searchAmong (q : SearchInput) (port : EligibilityPort) (before afterScan afterEligibility : List ServingStep) :
    Except MkbError (List Candidate) :=
  q.search port (runFrom (servingStep grace) .empty before) (runFrom (servingStep grace) .empty (before ++ afterScan))
    (runFrom (servingStep grace) .empty (before ++ afterScan ++ afterEligibility))

/-- Every hit is published at the revalidation under the proof it cites, whatever is written during the search. -/
theorem publicationFence (q : SearchInput) (port : EligibilityPort)
    (before afterScan afterEligibility : List ServingStep) {hits : List Candidate}
    (h : searchAmong grace q port before afterScan afterEligibility = .ok hits) :
    ∀ hit ∈ hits, ∃ r p proof i,
      (runFrom (servingStep grace) .empty (before ++ afterScan ++ afterEligibility)).IsPublishedWith r p proof i ∧
        Describes hit r ∧ r.team = q.team ∧ hit.publicationProof = p.lastProof := by
  intro hit hhit
  unfold searchAmong SearchInput.search at h
  obtain ⟨rows, hrows, h⟩ := bind_ok_iff.1 h
  obtain ⟨s04, hs04, h⟩ := bind_ok_iff.1 h
  obtain rfl := pure_ok_iff.1 h
  obtain ⟨c, hc, rfl⟩ := mem_present hhit
  have hscan : (runFrom (servingStep grace) .empty before).Keyed := keyed_run grace before
  refine published_of_revalidated hscan ?_ hrows (fun d hd => ?_) hc
  · rw [List.append_assoc, runFrom_append]
    exact advances_run hscan grace _
  · unfold eligible at hs04
    obtain ⟨approved, -, hs04⟩ := bind_ok_iff.1 hs04
    obtain rfl := pure_ok_iff.1 hs04
    have hranked := (List.mem_filter.1 (List.mem_filter.1 hd).1).1
    exact mem_rankAnnCandidates hranked

def sampleSearch : SearchInput where
  team := 1
  nspace := 1
  filters := fun _ _ => true
  candidateScanLimit := 100
  annScore := fun _ => some 1
  threshold := 0
  recallK := 10
  tracebackResolved := fun _ => true
  rerankScore := none
  returnK := 5

/-- The hit of the published Item, with another Item accepted during the search. -/
theorem publicationFence_oneHit :
    ∃ hits, searchAmong 3600 sampleSearch sqlBatchEligibility samplePublication
        [.acceptSnapshot { sampleAccept true with item := 2, externalKey := 2, revision := 20, snapshot := 2 }] [] = .ok hits ∧
      hits.length = 1 ∧ ∀ hit ∈ hits, ∃ r p proof i,
        (runFrom (servingStep 3600) .empty (samplePublication ++
          [.acceptSnapshot { sampleAccept true with item := 2, externalKey := 2, revision := 20, snapshot := 2 }] ++
            [])).IsPublishedWith r p proof i ∧
        Describes hit r ∧ r.team = sampleSearch.team ∧ hit.publicationProof = p.lastProof :=
  ⟨_, rfl, by decide, publicationFence 3600 sampleSearch sqlBatchEligibility samplePublication _ [] rfl⟩

end KnowledgeBase
