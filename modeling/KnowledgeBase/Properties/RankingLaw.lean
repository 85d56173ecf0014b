import KnowledgeBase.Properties.SearchFence
import KnowledgeBase.Retrieval.Rank

/-!
# The ranking law

Without a concurrent writer the fences keep every candidate, and the pipeline of the search is one selection and one
sort: the rows that fewer than `recall_k` precede, from the threshold on, the best of each unit.
-/

namespace KnowledgeBase

open Checked Ranking Serving

variable {σ : Type} [LinearOrder σ]

namespace RankInput

/-- The row is among the `recall_k` best and not below the threshold. -/
def isRecalled (I : RankInput σ) (l : List (RankedHit σ)) (x : RankedHit σ) : Bool :=
  decide (rankOf annKey l x < I.recallK) && decide (I.threshold ≤ x.annScore)

def recalled (I : RankInput σ) (l : List (RankedHit σ)) : List (RankedHit σ) := l.filter (I.isRecalled l)

/-- The best recalled row of each unit, by score and record. -/
def vectorRanking (I : RankInput σ) (rows : List Candidate) : List (RankedHit σ) :=
  ranked annKey ((I.recalled (I.scored rows)).filter (isBest I.dedupKey unitOf (I.recalled (I.scored rows))))

/-- The results are the first `return_k` of the vector ranking, or of its items under the scores of the reranker. -/
structure RankingLaw (I : RankInput σ) (rows : List Candidate) (status : RerankStatus) (results : List (RankedHit σ)) :
    Prop where
  vector : status ≠ .applied → results = (I.vectorRanking rows).take I.returnK
  reranked : status = .applied → ∃ infer scores, I.inference = some infer ∧
    I.rerankScores infer (I.vectorRanking rows) = some scores ∧ scores.length = (I.vectorRanking rows).length ∧
    results = (ranked scoreKey (List.zipWith withScore (I.vectorRanking rows) scores)).take I.returnK

variable {I : RankInput σ} {s : Serving} {q : SearchInput} {rows rows' : List Candidate}

/-! ### one record a row -/

theorem map_filterMap_sublist {α β γ : Type} {f : α → Option β} {g : β → γ} {h : α → γ}
    (hf : ∀ a b, f a = some b → g b = h a) (l : List α) : ((l.filterMap f).map g).Sublist (l.map h) := by
  induction l with
  | nil => exact List.Sublist.slnil
  | cons a l ih =>
    cases hfa : f a with
    | none =>
      rw [List.filterMap_cons_none hfa]
      exact ih.cons _
    | some b =>
      rw [List.filterMap_cons_some hfa, List.map_cons, List.map_cons, hf a b hfa]
      exact ih.cons_cons _

theorem records_nodup (hs : s.Keyed) (h : s.fetchCandidateRows q = .ok rows) :
    (rows.map Candidate.record).Nodup := by
  unfold fetchCandidateRows at h
  obtain ⟨_, -, h⟩ := bind_ok_iff.1 h
  obtain rfl := pure_ok_iff.1 h
  refine List.Nodup.sublist ?_ hs.records
  refine (map_filterMap_sublist (fun r c hc => ?_) _).trans (List.filter_sublist.map VectorRecordRow.record)
  obtain ⟨proof, -, rfl⟩ := Option.map_eq_some_iff.1 hc
  rfl

omit [LinearOrder σ] in
theorem scored_candidate {x : RankedHit σ} (h : x ∈ I.scored rows) : x.candidate ∈ rows := by
  obtain ⟨row, hrow, hx⟩ := List.mem_filterMap.1 h
  split at hx
  · cases hx
    exact hrow
  · cases hx

omit [LinearOrder σ] in
theorem scored_records (I : RankInput σ) (h : (rows.map Candidate.record).Nodup) :
    ((I.scored rows).map fun x => x.candidate.record).Nodup := by
  refine List.Nodup.sublist (map_filterMap_sublist (fun row x hx => ?_) rows) h
  split at hx
  · cases hx
    rfl
  · cases hx

omit [LinearOrder σ] in
theorem distinct_annKey {l : List (RankedHit σ)} (h : (l.map fun x => x.candidate.record).Nodup) :
    Distinct annKey l := by
  refine List.Nodup.of_map (fun k => (ofLex k).2) ?_
  rw [List.map_map]
  exact h

omit [LinearOrder σ] in
theorem distinct_dedupKey (I : RankInput σ) {l : List (RankedHit σ)} (h : (l.map fun x => x.candidate.record).Nodup) :
    Distinct I.dedupKey l := by
  refine List.Nodup.of_map (fun k => (ofLex (ofLex k).2).2) ?_
  rw [List.map_map]
  exact h

/-! ### the fences -/

theorem approved_of_fetched {c : Candidate} {cs : List Candidate} (h : s.fetchCandidateRows q = .ok rows)
    (hc : c ∈ rows) (hcs : c ∈ cs) :
    ∃ r ∈ s.records, r.record = c.record ∧ r.team = q.team ∧ r.nspace = q.nspace ∧ (s.citedProof? r).isSome ∧
      c.item = r.item ∧ c.revision = r.revision ∧ (s.item? r.team r.item).any (fun i => i.lifecycleState == .active &&
        i.deletedAt.isNone && i.servingRevision == some r.revision) = true ∧
      cs.any (fun d => d.record == r.record && d.item == r.item && d.revision == r.revision) = true := by
  obtain ⟨r, hr, hteam, hnspace, proof, hproof, rfl⟩ := mem_fetchCandidateRows h hc
  refine ⟨r, hr, rfl, hteam, hnspace, by rw [hproof]; rfl, rfl, rfl, ?_, ?_⟩
  · unfold citedProof? at hproof
    obtain ⟨n, -, hproof⟩ := Option.bind_eq_some_iff.1 hproof
    obtain ⟨p, -, hproof⟩ := Option.bind_eq_some_iff.1 hproof
    obtain ⟨proof₀, -, hproof⟩ := Option.bind_eq_some_iff.1 hproof
    obtain ⟨i, hi, hproof⟩ := Option.bind_eq_some_iff.1 hproof
    obtain ⟨a, -, hproof⟩ := Option.bind_eq_some_iff.1 hproof
    split at hproof
    · rename_i hpred
      unfold publicationPredicate at hpred
      simp only [Bool.and_eq_true] at hpred
      rw [hi]
      show (_ && _ && _) = true
      simp only [Bool.and_eq_true]
      exact ⟨⟨hpred.1.1.1.2, hpred.1.1.2⟩, hpred.1.2⟩
    · cases hproof
  · refine List.any_eq_true.2 ⟨_, hcs, ?_⟩
    simp [candidateOf]

omit [LinearOrder σ] in
/-- The candidates of a scan pass both fences of the state they were scanned in. -/
theorem applyBatchEligibility_eq {cs : List (RankedHit σ)} (h : s.fetchCandidateRows q = .ok rows)
    (hcs : ∀ c ∈ cs, c.candidate ∈ rows) : applyBatchEligibility s q cs = .ok cs := by
  have kept : Serving.eligible sqlBatchEligibility s q (cs.map fun c => ⟨c.candidate, 0⟩) =
      .ok (cs.map fun c => ⟨c.candidate, 0⟩) := by
    unfold Serving.eligible sqlBatchEligibility
    show Except.ok _ = _
    refine congrArg Except.ok (List.filter_eq_self.2 fun x hx => ?_)
    obtain ⟨c, hc, rfl⟩ := List.mem_map.1 hx
    have hmem : c.candidate ∈ (cs.map fun c => (⟨c.candidate, 0⟩ : Scored)).map Scored.candidate := by
      rw [List.map_map]
      exact List.mem_map.2 ⟨c, hc, rfl⟩
    obtain ⟨r, hr, hrecord, hteam, -, -, -, -, hactive, hany⟩ := approved_of_fetched h (hcs c hc) hmem
    refine List.contains_iff_mem.2 (List.mem_map.2 ⟨r, List.mem_filter.2 ⟨hr, ?_⟩, hrecord⟩)
    rw [hactive, hany, hteam]
    simp
  have fenced : s.revalidatePublicationFence q (cs.map fun c => ⟨c.candidate, 0⟩) =
      cs.map fun c => ⟨c.candidate, 0⟩ := by
    unfold revalidatePublicationFence
    refine List.filter_eq_self.2 fun x hx => ?_
    obtain ⟨c, hc, rfl⟩ := List.mem_map.1 hx
    obtain ⟨r, hr, hrecord, hteam, hnspace, hproof, hitem, hrevision, -, -⟩ :=
      approved_of_fetched h (hcs c hc) (List.mem_singleton.2 rfl : c.candidate ∈ [c.candidate])
    refine List.contains_iff_mem.2 (List.mem_map.2 ⟨r, List.mem_filter.2 ⟨hr, ?_⟩, hrecord⟩)
    unfold isRequested
    rw [hteam, hnspace, hproof]
    simp only [BEq.rfl, Bool.true_and, Bool.and_true]
    refine List.any_eq_true.2 ⟨_, List.mem_map.2 ⟨c, hc, rfl⟩, ?_⟩
    simp [hrecord, hitem, hrevision]
  unfold applyBatchEligibility
  rw [kept]
  show Except.ok _ = _
  rw [fenced, List.map_map]
  refine congrArg Except.ok (List.filter_eq_self.2 fun c hc => ?_)
  exact List.contains_iff_mem.2 (List.mem_map.2 ⟨c, hc, rfl⟩)

/-! ### the pipeline -/

theorem recalled_eq (h : (rows.map Candidate.record).Nodup) :
    ((ranked annKey (I.scored rows)).take I.recallK).filter (fun c => decide (I.threshold ≤ c.annScore)) =
      ranked annKey (I.recalled (I.scored rows)) := by
  have distinct := distinct_annKey (scored_records I h)
  rw [take_ranked distinct, filter_ranked (distinct.sublist List.filter_sublist), List.filter_filter]
  refine congrArg (ranked annKey) (List.filter_congr fun x _ => ?_)
  unfold isRecalled
  rw [Bool.and_comm]

theorem deduplicate_ranked (h : (rows.map Candidate.record).Nodup) :
    I.deduplicate (ranked annKey (I.recalled (I.scored rows))) = I.vectorRanking rows := by
  have records : ((I.recalled (I.scored rows)).map fun x => x.candidate.record).Nodup :=
    List.Nodup.sublist (List.filter_sublist.map _) (scored_records I h)
  have records' : ((ranked annKey (I.recalled (I.scored rows))).map fun x => x.candidate.record).Nodup :=
    ((ranked_perm _).map _).nodup_iff.2 records
  have best := bestOf_perm unitOf (distinct_dedupKey I records')
  unfold deduplicate vectorRanking
  refine ranked_eq_of_perm ?_ (best.trans ?_)
  · exact ((distinct_annKey records').sublist List.filter_sublist).perm best.symm
  · have same : isBest I.dedupKey unitOf (ranked annKey (I.recalled (I.scored rows))) =
        isBest I.dedupKey unitOf (I.recalled (I.scored rows)) := by
      funext x
      exact (ranked_perm _).all_eq
    rw [same]
    exact (ranked_perm _).filter _

theorem vectorRanking_of_empty (h : (rows.map Candidate.record).Nodup)
    (hempty : (((ranked annKey (I.scored rows)).take I.recallK).filter
      fun c => decide (I.threshold ≤ c.annScore)).isEmpty = true) : I.vectorRanking rows = [] := by
  rw [recalled_eq h] at hempty
  rw [← deduplicate_ranked h, List.isEmpty_iff.1 hempty]
  rfl

theorem rerank_nil : I.rerank [] = (I.emptyStatus, []) := by
  unfold rerank emptyStatus
  cases I.rerankEnabled with
  | false => rfl
  | true => rfl

theorem searchRows_eq (hs : s.Keyed) (h : s.fetchCandidateRows q = .ok rows) :
    I.searchRows s q rows =
      if (I.scored rows).isEmpty && rows.any I.isInvalid then
        .error ⟨"RETRIEVE_DEPENDENCY_VECTOR_INVALID", "active vector records are malformed", 503⟩
      else .ok ((I.rerank (I.vectorRanking rows)).1, (I.rerank (I.vectorRanking rows)).2.take I.returnK) := by
  have records := records_nodup hs h
  have none_left (hempty : (((ranked annKey (I.scored rows)).take I.recallK).filter
      fun c => decide (I.threshold ≤ c.annScore)).isEmpty = true) :
      (I.emptyStatus, ([] : List (RankedHit σ))) =
        ((I.rerank (I.vectorRanking rows)).1, (I.rerank (I.vectorRanking rows)).2.take I.returnK) := by
    rw [vectorRanking_of_empty records hempty, rerank_nil, List.take_nil]
  unfold searchRows rankAnnCandidates
  split
  · rfl
  · show (if ((ranked annKey (I.scored rows)).take I.recallK).isEmpty = true then _ else _) = _
    split
    · rename_i hempty
      refine congrArg Except.ok (none_left ?_)
      rw [List.isEmpty_iff.1 hempty]
      rfl
    · show (if (((ranked annKey (I.scored rows)).take I.recallK).filter
        fun c => decide (I.threshold ≤ c.annScore)).isEmpty = true then _ else _) = _
      split
      · rename_i hempty
        exact congrArg Except.ok (none_left hempty)
      · rename_i hne
        rw [recalled_eq records] at hne ⊢
        have fetched : ∀ c ∈ ranked annKey (I.recalled (I.scored rows)), c.candidate ∈ rows := fun c hc =>
          scored_candidate (List.mem_of_mem_filter (mem_ranked.1 hc))
        rw [applyBatchEligibility_eq h fetched]
        show (if (ranked annKey (I.recalled (I.scored rows))).isEmpty = true then _ else _) = _
        rw [if_neg hne, deduplicate_ranked records]
        rfl

theorem vectorRanking_perm (hp : rows'.Perm rows) (h : (rows.map Candidate.record).Nodup) :
    I.vectorRanking rows' = I.vectorRanking rows := by
  have h' : (rows'.map Candidate.record).Nodup := ((hp.map _).nodup_iff).2 h
  have hscored : (I.scored rows').Perm (I.scored rows) := hp.filterMap _
  rw [← deduplicate_ranked h, ← deduplicate_ranked h', ← recalled_eq h, ← recalled_eq h',
    ranked_eq_of_perm (distinct_annKey (scored_records I h')) hscored]

omit [LinearOrder σ] in
theorem length_allScores {scores : List (Option σ)} {l : List σ} (h : allScores scores = some l) :
    l.length = scores.length := by
  induction scores generalizing l with
  | nil =>
    cases h
    rfl
  | cons x scores ih =>
    cases x with
    | none => cases h
    | some x =>
      obtain ⟨l', hl', rfl⟩ := Option.map_eq_some_iff.1 h
      rw [List.length_cons, List.length_cons, ih hl']

theorem rankingLaw_rerank (I : RankInput σ) (rows : List Candidate) :
    RankingLaw I rows (I.rerank (I.vectorRanking rows)).1 ((I.rerank (I.vectorRanking rows)).2.take I.returnK) := by
  have kept : ∀ status : RerankStatus, status ≠ .applied →
      RankingLaw I rows status ((I.vectorRanking rows).take I.returnK) :=
    fun status hne => ⟨fun _ => rfl, fun h => absurd h hne⟩
  unfold rerank
  split
  · exact kept _ nofun
  · split
    · exact kept _ nofun
    · split
      · exact kept _ nofun
      · rename_i infer hinfer
        split
        · exact kept _ nofun
        · split
          · exact kept _ nofun
          · rename_i scores hscores
            refine ⟨fun h => absurd rfl h, fun _ => ⟨infer, scores, hinfer, hscores, ?_, rfl⟩⟩
            unfold rerankScores at hscores
            split at hscores
            · cases hscores
            · split at hscores
              · cases hscores
              · rename_i hlen
                rw [length_allScores hscores]
                exact not_not.1 hlen

/-- Over the rows of a scan, with no writer between the reads: the search fails only if no row has a score and a vector
is malformed, its results follow the ranking law, and no order of the rows changes them. -/
theorem ranking_law (I : RankInput σ) (s : Serving) (q : SearchInput) (hs : s.Keyed) (rows : List Candidate)
    (h : s.fetchCandidateRows q = .ok rows) :
    ((∃ e, I.searchRows s q rows = .error e) ↔ I.scored rows = [] ∧ ∃ row ∈ rows, I.isInvalid row = true) ∧
      (∀ status results, I.searchRows s q rows = .ok (status, results) → RankingLaw I rows status results) ∧
      ∀ s' rows', s'.Keyed → s'.fetchCandidateRows q = .ok rows' → rows'.Perm rows →
        I.searchRows s' q rows' = I.searchRows s q rows := by
  have records := records_nodup hs h
  refine ⟨?_, fun status results hr => ?_, fun s' rows' hs' h' hp => ?_⟩
  · rw [searchRows_eq hs h, ← List.isEmpty_iff, ← List.any_eq_true, ← Bool.and_eq_true]
    split
    · rename_i hc
      exact ⟨fun _ => hc, fun _ => ⟨_, rfl⟩⟩
    · rename_i hc
      exact ⟨fun ⟨e, he⟩ => (nomatch he), fun h => absurd h hc⟩
  · rw [searchRows_eq hs h] at hr
    split at hr
    · cases hr
    · cases hr
      exact rankingLaw_rerank I rows
  · have hempty : (I.scored rows').isEmpty = (I.scored rows).isEmpty := by
      have hperm : (I.scored rows').Perm (I.scored rows) := hp.filterMap _
      rw [Bool.eq_iff_iff, List.isEmpty_iff, List.isEmpty_iff]
      exact ⟨fun hnil => (hnil ▸ hperm).symm.eq_nil, fun hnil => (hnil ▸ hperm).eq_nil⟩
    rw [searchRows_eq hs h, searchRows_eq hs' h', hempty, hp.any_eq, vectorRanking_perm hp records]

/-! ### ties, a second channel and the cuts -/

/-- Two channels of one unit and one record of each of four others. -/
def tiedVectorize : Vectorize :=
  { sampleVectorize with
    records := [⟨7, 1, .original, 77⟩, ⟨8, 1, .summary, 78⟩, ⟨9, 2, .original, 79⟩, ⟨6, 3, .original, 76⟩,
      ⟨10, 4, .original, 80⟩, ⟨5, 5, .original, 75⟩] }

def tiedPublication : List ServingStep :=
  [.acceptSnapshot (sampleAccept false), .acceptConstruct ⟨1, 100, 1, 1, 10, 5, true, true⟩, .vectorize tiedVectorize,
    .publish ⟨1, ⟨1, 2, 1⟩, 0⟩]

/-- Three records have one score, of two channels of a unit only the second resolves, a record is recalled below the
threshold and one is cut; the reranker puts the first of the three that remain last. -/
def tiedRanking : RankInput Int where
  annScore := fun c => .scored (([(6, 9), (10, 4), (5, 3)] : List (VectorRecordId × Int)).lookup c.record |>.getD 5)
  threshold := 5
  recallK := 5
  returnK := 2
  resolved := fun c => c.record == 8
  document := fun _ => some []
  rerankEnabled := true
  inference := some fun _ => some [some 1, some 3, some 3]

theorem ranking_law_ties : ∃ rows,
    (runFrom (servingStep 3600) .empty tiedPublication).fetchCandidateRows sampleSearch = .ok rows ∧
      rows.map Candidate.record = [7, 8, 9, 6, 10, 5] ∧ ∃ status results,
        tiedRanking.searchRows (runFrom (servingStep 3600) .empty tiedPublication) sampleSearch rows =
          .ok (status, results) ∧ status = .applied ∧ results.map (·.candidate.record) = [8, 9] ∧
        (tiedRanking.vectorRanking rows).map (·.candidate.record) = [6, 8, 9] ∧
        RankingLaw tiedRanking rows status results := by
  obtain ⟨rows, hrows⟩ :
      ∃ rows, (runFrom (servingStep 3600) .empty tiedPublication).fetchCandidateRows sampleSearch = .ok rows := ⟨_, rfl⟩
  obtain ⟨r, hr⟩ : ∃ r, tiedRanking.searchRows (runFrom (servingStep 3600) .empty tiedPublication) sampleSearch rows =
      .ok r := by
    cases hrows
    exact ⟨_, rfl⟩
  refine ⟨rows, hrows, ?_, r.1, r.2, hr, ?_, ?_, ?_,
    (ranking_law tiedRanking _ sampleSearch (keyed_run 3600 tiedPublication) _ hrows).2.1 _ _ hr⟩
  all_goals cases hrows
  · decide +kernel
  · cases hr
    decide +kernel
  · cases hr
    decide +kernel
  · decide +kernel

end RankInput

end KnowledgeBase
