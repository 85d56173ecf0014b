import KnowledgeBase.Library.Ranking
import KnowledgeBase.Library.Text
import KnowledgeBase.Serving.Search
import Mathlib.Data.Prod.Lex
import Mathlib.Order.Lattice

/-!
# Ranking

The part of `_search_with_query` behind the candidate scan, for scores in any linear order: the recall cut, the
threshold, the eligibility and publication fences, the deduplication, the reranker and the cut of the results. What the
embedding space makes of a row, whether its traceback resolves, its body and the reranker are functions.
-/

namespace KnowledgeBase

open Checked Ranking

variable {σ : Type} [LinearOrder σ]

/-- What the scorer makes of a row: a score, no hit, or a vector that cannot be decoded. -/
inductive VectorScore (σ : Type)
  | scored (score : σ)
  | absent
  | invalid

/-- A hit with its scores. -/
structure RankedHit (σ : Type) where
  candidate : Candidate
  annScore : σ
  score : σ
  rerankScore : Option σ := none

inductive RerankStatus
  | applied | failed | skipped | notRequested
  deriving DecidableEq

/-- What a search asks of the ranking; `inference` gives for the documents nothing where it raises, and else a list
whose entries are missing where they are no finite numbers. -/
structure RankInput (σ : Type) where
  annScore : Candidate → VectorScore σ
  threshold : σ
  recallK : Nat
  returnK : Nat
  resolved : Candidate → Bool
  document : Candidate → Option Text
  rerankEnabled : Bool
  inference : Option (List Text → Option (List (Option σ)))

namespace RankInput

/-- `(-ann_score, vector_record_uuid)`. -/
def annKey (x : RankedHit σ) : Lex (σᵒᵈ × VectorRecordId) := toLex (OrderDual.toDual x.annScore, x.candidate.record)

/-- `(-score, vector_record_uuid)`. -/
def scoreKey (x : RankedHit σ) : Lex (σᵒᵈ × VectorRecordId) := toLex (OrderDual.toDual x.score, x.candidate.record)

variable (I : RankInput σ)

/-- `_dedup_key`. -/
def dedupKey (x : RankedHit σ) : Lex (σᵒᵈ × Lex (Nat × VectorRecordId)) :=
  toLex (OrderDual.toDual x.annScore, toLex (if I.resolved x.candidate then 0 else 1, x.candidate.record))

/-- The generation and the unit of a hit. -/
def unitOf (x : RankedHit σ) : ArtifactId × Nat := (x.candidate.generationArtifact, x.candidate.unitId)

/-- The rows that have a score. -/
def scored (rows : List Candidate) : List (RankedHit σ) :=
  rows.filterMap fun row =>
    match I.annScore row with
    | .scored score => some { candidate := row, annScore := score, score := score }
    | _ => none

def isInvalid (row : Candidate) : Bool :=
  match I.annScore row with
  | .invalid => true
  | _ => false

/-- `_rank_ann_candidates`. -/
def rankAnnCandidates (rows : List Candidate) : Except MkbError (List (RankedHit σ)) :=
  if (I.scored rows).isEmpty && rows.any I.isInvalid then
    .error ⟨"RETRIEVE_DEPENDENCY_VECTOR_INVALID", "active vector records are malformed", 503⟩
  else .ok ((ranked annKey (I.scored rows)).take I.recallK)

/-- `_apply_batch_eligibility`: the S04 check, then the publication fence. -/
def applyBatchEligibility (s : Serving) (q : SearchInput) (candidates : List (RankedHit σ)) :
    Except MkbError (List (RankedHit σ)) := do
  let eligible ← Serving.eligible Serving.sqlBatchEligibility s q (candidates.map fun c => ⟨c.candidate, 0⟩)
  let approved := (s.revalidatePublicationFence q eligible).map fun c => c.candidate.record
  return candidates.filter fun c => approved.contains c.candidate.record

/-- `_deduplicate`. -/
def deduplicate (work : List (RankedHit σ)) : List (RankedHit σ) := ranked annKey (bestOf I.dedupKey unitOf work)

def withScore (item : RankedHit σ) (score : σ) : RankedHit σ := { item with score := score, rerankScore := some score }

/-- The scores, if all of them are finite numbers. -/
def allScores : List (Option σ) → Option (List σ)
  | [] => some []
  | none :: _ => none
  | some score :: scores => (allScores scores).map (score :: ·)

/-- The parsed answer of the reranker, if it has one score for each item. -/
def rerankScores (infer : List Text → Option (List (Option σ))) (work : List (RankedHit σ)) : Option (List σ) :=
  match infer (work.map fun item => (I.document item.candidate).getD []) with
  | none => none
  | some scores => if scores.length ≠ work.length then none else allScores scores

/-- `_rerank`. -/
def rerank (work : List (RankedHit σ)) : RerankStatus × List (RankedHit σ) :=
  if I.rerankEnabled = false then (.notRequested, work)
  else if work.length ≤ 1 then (.skipped, work)
  else
    match I.inference with
    | none => (.failed, work)
    | some infer =>
      if work.any fun item => (I.document item.candidate).isNone then (.skipped, work)
      else
        match I.rerankScores infer work with
        | none => (.failed, work)
        | some scores => (.applied, ranked scoreKey (List.zipWith withScore work scores))

/-- The status of an empty bundle. -/
def emptyStatus : RerankStatus := if I.rerankEnabled then .skipped else .notRequested

/-- `_search_with_query` from the fetched rows on: the status of the reranker and the results. -/
def searchRows (s : Serving) (q : SearchInput) (rows : List Candidate) :
    Except MkbError (RerankStatus × List (RankedHit σ)) := do
  let candidates ← I.rankAnnCandidates rows
  if candidates.isEmpty then return (I.emptyStatus, [])
  let thresholded := candidates.filter fun c => decide (I.threshold ≤ c.annScore)
  if thresholded.isEmpty then return (I.emptyStatus, [])
  let eligible ← applyBatchEligibility s q thresholded
  if eligible.isEmpty then return (I.emptyStatus, [])
  let reranked := I.rerank (I.deduplicate eligible)
  return (reranked.1, reranked.2.take I.returnK)

end RankInput

end KnowledgeBase
