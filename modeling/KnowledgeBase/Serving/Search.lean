import KnowledgeBase.Serving.System

/-!
# Search

One search reads three snapshots: it scans the candidates of a namespace through the publication predicate and ranks
them, filters them by Item eligibility, and revalidates the publication predicate for what is left. The embedding
comparison and the reranker are functions of the candidate; whatever is written between the snapshots is left open.
-/

namespace KnowledgeBase

open Checked Relational

/-- A row of the candidate scan, with the proof it cites. -/
structure Candidate where
  record : VectorRecordId
  item : ItemId
  revision : RevisionId
  nspace : NamespaceId
  generationArtifact : ArtifactId
  unitId : Nat
  channel : VectorChannel
  indexGeneration : Nat
  publicationProof : ProofId
deriving DecidableEq

structure Scored where
  candidate : Candidate
  score : Int
deriving DecidableEq

/-- A normalised request with what ranking asks of the embedding space and of the reranker. -/
structure SearchInput where
  team : TeamId
  nspace : NamespaceId
  filters : VectorRecordRow → ItemRow → Bool
  candidateScanLimit : Nat
  annScore : Candidate → Option Int
  threshold : Int
  recallK : Nat
  tracebackResolved : Candidate → Bool
  rerankScore : Option (Candidate → Int)
  returnK : Nat

/-- An S04 adapter: the ids it approves of the submitted candidates. -/
abbrev EligibilityPort := Serving → TeamId → List Candidate → Except MkbError (List VectorRecordId)

namespace Serving

/-! ### the publication predicate -/

/-- The records the complete-set predicate counts for a proof. -/
def isCounted (proof : ProofRow) (r : VectorRecordRow) : Bool :=
  r.team == proof.team && r.item == proof.item && r.revision == proof.revision && r.nspace == proof.nspace &&
    r.generationArtifact == proof.generationArtifact && r.layerA == proof.layerA &&
    r.indexGeneration == proof.indexGeneration && r.isIndexed

/-- `_PROOF_COMPLETE_SET_PREDICATE`. -/
def proofComplete (s : Serving) (proof : ProofRow) : Bool := proof.actualCount == s.records.countP (isCounted proof)

/-- The left-joined manifest of a proof. -/
def manifest? (s : Serving) (proof : ProofRow) : Option ManifestRow :=
  s.manifests.find? fun m => m.proof == proof.proof && m.team == proof.team && m.item == proof.item &&
    m.revision == proof.revision && m.nspace == proof.nspace && m.indexGeneration == proof.indexGeneration

/-- Without a manifest, or among its members. -/
def manifestHolds (s : Serving) (proof : ProofRow) (r : VectorRecordRow) : Bool :=
  match s.manifest? proof with
  | none => true
  | some m => m.members.any fun v => v.1 == r.record

/-- The conjunction that the scan and the revalidation both state over the joined rows. -/
def publicationPredicate (s : Serving) (r : VectorRecordRow) (n : NamespaceRow) (p : PointerRow) (proof : ProofRow)
    (i : ItemRow) (a : ArtifactRow) : Bool :=
  r.isIndexed && n.isActive && r.layerA == n.layerA &&
    p.lifecycleState == .active && p.activeIndexGeneration == r.indexGeneration &&
    p.generationArtifact == r.generationArtifact &&
    proof.team == r.team && proof.item == r.item && proof.revision == r.revision && proof.nspace == r.nspace &&
    proof.generationArtifact == r.generationArtifact && proof.layerA == r.layerA &&
    proof.indexGeneration == r.indexGeneration && proof.expectedCount == proof.actualCount &&
    proof.actualCount == proof.matchedCount && s.proofComplete proof && a.fullValid &&
    i.lifecycleState == .active && i.deletedAt.isNone && i.servingRevision == some r.revision && s.manifestHolds proof r

/-- The proof a record is published under. -/
def citedProof? (s : Serving) (r : VectorRecordRow) : Option ProofRow := do
  let n ← s.namespace? r.team r.nspace
  let p ← s.pointer? r.team r.item r.nspace
  let proof ← s.proof? p.lastProof
  let i ← s.item? r.team r.item
  let a ← s.artifact? r.team r.generationArtifact
  if s.publicationPredicate r n p proof i a then some proof else none

/-! ### scan and rank -/

def candidateOf (r : VectorRecordRow) (proof : ProofRow) : Candidate where
  record := r.record
  item := r.item
  revision := r.revision
  nspace := r.nspace
  generationArtifact := r.generationArtifact
  unitId := r.unitId
  channel := r.channel
  indexGeneration := r.indexGeneration
  publicationProof := proof.proof

def isSelected (s : Serving) (q : SearchInput) (r : VectorRecordRow) : Bool :=
  r.team == q.team && r.nspace == q.nspace && (s.item? r.team r.item).any (q.filters r)

/-- `_fetch_candidate_rows`. -/
def fetchCandidateRows (s : Serving) (q : SearchInput) : Except MkbError (List Candidate) := do
  let rows := (s.records.filter (s.isSelected q)).filterMap fun r => (s.citedProof? r).map (candidateOf r)
  failIf (decide (q.candidateScanLimit < rows.length))
    ⟨"RETRIEVE_SCAN_TRUNCATED", "Retrieval candidate scan exceeded the bounded UUID scan limit", 503⟩
  return rows

/-- The higher score first, then the smaller id. -/
def RanksBefore (a b : Scored) : Prop :=
  b.score < a.score ∨ (a.score = b.score ∧ a.candidate.record ≤ b.candidate.record)

instance (a b : Scored) : Decidable (RanksBefore a b) :=
  inferInstanceAs (Decidable (b.score < a.score ∨ (a.score = b.score ∧ a.candidate.record ≤ b.candidate.record)))

/-- `_rank_ann_candidates`: a candidate without a score is skipped. -/
def rankAnnCandidates (q : SearchInput) (rows : List Candidate) : List Scored :=
  ((rows.filterMap fun c => (q.annScore c).map (Scored.mk c)).insertionSort RanksBefore).take q.recallK

/-! ### eligibility and revalidation -/

/-- `_sql_batch_eligibility`. -/
def sqlBatchEligibility : EligibilityPort := fun s team candidates =>
  .ok ((s.records.filter fun r => r.team == team &&
    (s.item? r.team r.item).any (fun i => i.lifecycleState == .active && i.deletedAt.isNone &&
      i.servingRevision == some r.revision) &&
    candidates.any fun c => c.record == r.record && c.item == r.item && c.revision == r.revision).map
      VectorRecordRow.record)

/-- The S04 stage: the candidates whose id is approved. -/
def eligible (port : EligibilityPort) (s : Serving) (q : SearchInput) (candidates : List Scored) :
    Except MkbError (List Scored) := do
  let approved ← port s q.team (candidates.map Scored.candidate)
  return candidates.filter fun c => approved.contains c.candidate.record

/-- A record that one of the submitted coordinates names. -/
def isRequested (q : SearchInput) (candidates : List Scored) (r : VectorRecordRow) : Bool :=
  r.team == q.team && r.nspace == q.nspace && candidates.any fun c =>
    c.candidate.record == r.record && c.candidate.item == r.item && c.candidate.revision == r.revision

/-- `_revalidate_publication_fence`. -/
def revalidatePublicationFence (s : Serving) (q : SearchInput) (candidates : List Scored) : List Scored :=
  let approved := (s.records.filter fun r => isRequested q candidates r && (s.citedProof? r).isSome).map
    VectorRecordRow.record
  candidates.filter fun c => approved.contains c.candidate.record

/-! ### presentation -/

def sameUnit (a b : Scored) : Bool :=
  a.candidate.generationArtifact == b.candidate.generationArtifact && a.candidate.unitId == b.candidate.unitId

/-- `_dedup_key` order: score, then a resolved traceback, then the id. -/
def dedupBefore (q : SearchInput) (a b : Scored) : Bool :=
  decide (b.score < a.score) || (a.score == b.score &&
    ((q.tracebackResolved a.candidate && !q.tracebackResolved b.candidate) ||
      (q.tracebackResolved a.candidate == q.tracebackResolved b.candidate &&
        decide (a.candidate.record < b.candidate.record))))

/-- One item of `_deduplicate`: the best of each unit is kept. -/
def insertBest (q : SearchInput) (selected : List Scored) (x : Scored) : List Scored :=
  match selected.find? (sameUnit x) with
  | none => selected ++ [x]
  | some y => if dedupBefore q x y then updateWhere (sameUnit x) (fun _ => x) selected else selected

def deduplicate (q : SearchInput) (work : List Scored) : List Scored :=
  (work.foldl (insertBest q) []).insertionSort RanksBefore

/-- `_rerank`: scores of the reranker, when it gives any, decide the order. -/
def rerank (q : SearchInput) (work : List Scored) : List Scored :=
  match q.rerankScore with
  | none => work
  | some f => work.insertionSort fun a b => RanksBefore ⟨a.candidate, f a.candidate⟩ ⟨b.candidate, f b.candidate⟩

/-- The results, from what revalidation has left. -/
def present (q : SearchInput) (work : List Scored) : List Candidate :=
  ((rerank q (deduplicate q work)).take q.returnK).map Scored.candidate

end Serving

open Serving

/-- `_search_with_query`, with the states of its scan, of its eligibility check and of its revalidation. -/
def SearchInput.search (q : SearchInput) (port : EligibilityPort) (scan eligibility fence : Serving) :
    Except MkbError (List Candidate) := do
  let rows ← scan.fetchCandidateRows q
  let thresholded := (rankAnnCandidates q rows).filter fun c => decide (q.threshold ≤ c.score)
  let s04 ← eligible port eligibility q thresholded
  return present q (fence.revalidatePublicationFence q s04)

end KnowledgeBase
