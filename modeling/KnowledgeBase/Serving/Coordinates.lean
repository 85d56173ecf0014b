import Mathlib.Data.List.Find
import KnowledgeBase.Serving.Namespaces

/-!
# Coordinates of a vectorize stage

A vectorize stage reads the namespace and the next generation in one transaction, looks up the coordinates of its
records in others and claims the generation in its outcome transaction. An error of the outcome transaction ends the
Process: the worker records it as the terminal failure and does not read again.
-/

namespace KnowledgeBase

open Checked Relational

/-- A required unit with the record id a stage draws for it. -/
structure DrawnUnit where
  drawn : VectorRecordId
  unitId : Nat
  channel : VectorChannel
  contentDigest : Digest
deriving DecidableEq

/-- `_vectorize_from_construct` of one Process, with the ids it draws. -/
structure VectorizeStage where
  team : TeamId
  execution : ExecutionId
  item : ItemId
  revision : RevisionId
  generationArtifact : ArtifactId
  layerA : EmbeddingModelRef
  drawnNamespace : NamespaceId
  publicationProof : ProofId
  units : List DrawnUnit
deriving DecidableEq

namespace Serving

/-- `_namespace_coordinates`. -/
def namespaceCoordinates (k : VectorizeStage) (s : Serving) : NamespaceId × Nat :=
  match s.namespaces.find? fun n => isBinding k.team k.layerA n && n.isActive with
  | some n => (n.nspace, n.indexGeneration + 1)
  | none => (k.drawnNamespace, 1)

/-- `_existing_vector_coordinate_uuid`. -/
def existingCoordinate? (k : VectorizeStage) (coordinates : NamespaceId × Nat) (u : DrawnUnit) (s : Serving) :
    Option VectorRecordId :=
  (s.records.find? fun r => r.team == k.team && r.nspace == coordinates.1 && r.generationArtifact == k.generationArtifact &&
    r.unitId == u.unitId && r.channel == u.channel && r.layerA.modelKey == k.layerA.modelKey &&
    r.indexGeneration == coordinates.2 && r.publicationState == .withdrawn && r.deletedAt.isNone).map
      VectorRecordRow.record

/-- What the outcome callback closes over: the coordinates read, and the records looked up after them. -/
def outcomeCommand (k : VectorizeStage) (coordinates : NamespaceId × Nat) (s : Serving) : Vectorize where
  team := k.team
  execution := k.execution
  item := k.item
  revision := k.revision
  generationArtifact := k.generationArtifact
  nspace := coordinates.1
  indexGeneration := coordinates.2
  publicationProof := k.publicationProof
  layerA := k.layerA
  records := k.units.map fun u =>
    ⟨(s.existingCoordinate? k coordinates u).getD u.drawn, u.unitId, u.channel, u.contentDigest⟩

/-- How the Process ends: accepted, or failed with the error of its outcome transaction. -/
def disposition (k : VectorizeStage) (read lookup commit : Serving) : Except MkbError Unit :=
  (commit.vectorize (outcomeCommand k (read.namespaceCoordinates k) lookup)).map fun _ => ()

variable {s s' : Serving}

/-! ### the checks before the claim -/

/-- The gate and the Item, which the coordinates do not enter. -/
def beforeClaim (c : Vectorize) (s : Serving) : Except MkbError Unit := do
  s.constructGate c
  failIf (s.item? c.team c.item).isNone constraintViolation

/-- The claim, the records and the handoff. -/
def claim (c : Vectorize) (s : Serving) : Except MkbError Serving := do
  let s ← s.ensureNamespace c
  let namespaces ← casWhere (isClaimable c) (NamespaceRow.raise c.indexGeneration)
    (conflictError "VECTORIZE_GENERATION_FENCE" "Index generation was reserved by a concurrent vectorize") s.namespaces
  let records ← foldEach (upsertVectorRecord c) s.records c.records
  let handoffs ← insertUnique VectorizeHandoff.execution constraintViolation c.handoff s.handoffs
  return { s with namespaces := namespaces, records := records, handoffs := handoffs }

theorem vectorize_eq (c : Vectorize) (s : Serving) : s.vectorize c = s.beforeClaim c >>= fun _ => s.claim c := by
  unfold vectorize beforeClaim
  cases s.constructGate c with
  | error e => rfl
  | ok u => rfl

theorem beforeClaim_congr {c c' : Vectorize} (hteam : c.team = c'.team) (hexecution : c.execution = c'.execution)
    (hitem : c.item = c'.item) (hrevision : c.revision = c'.revision)
    (hartifact : c.generationArtifact = c'.generationArtifact) (ha : s'.artifacts = s.artifacts)
    (hi : (s'.item? c.team c.item).isNone = (s.item? c.team c.item).isNone) :
    s'.beforeClaim c = s.beforeClaim c' := by
  unfold beforeClaim constructGate artifact?
  rw [hi, ha, hteam, hexecution, hitem, hrevision, hartifact]

/-! ### the records of a first outcome -/

/-- No row is at a coordinate of the artifact or under an id of the units. -/
structure Untouched (c : Vectorize) (l : List VectorRecordRow) : Prop where
  artifact : ∀ r ∈ l, r.generationArtifact ≠ c.generationArtifact
  record : ∀ r ∈ l, ∀ u ∈ c.records, r.record ≠ u.record

theorem upsert_beside {c : Vectorize} {l m : List VectorRecordRow} (hl : Untouched c l) {u : PlannedRecord}
    (hu : u ∈ c.records) :
    upsertVectorRecord c (l ++ m) u = (upsertVectorRecord c m u).map (l ++ ·) := by
  have hat (r : VectorRecordRow) (hr : r ∈ l) : isAtCoordinate c u r = false := by
    refine Bool.eq_false_iff.2 fun hc => ?_
    simp only [isAtCoordinate, Bool.and_eq_true, beq_iff_eq] at hc
    exact hl.artifact r hr hc.1.1.1.1.1.1.2
  have hfind : (l ++ m).find? (isAtCoordinate c u) = m.find? (isAtCoordinate c u) := by
    rw [List.find?_append, List.find?_eq_none.2 fun r hr => Bool.eq_false_iff.1 (hat r hr), Option.none_or]
  have hplanned (r : VectorRecordRow) (hr : r ∈ l) : isPlanned c u r = false := by
    refine Bool.eq_false_iff.2 fun hc => ?_
    simp only [isPlanned, Bool.and_eq_true, beq_iff_eq] at hc
    exact hl.record r hr u hu hc.1.2
  unfold upsertVectorRecord
  rw [hfind]
  cases m.find? (isAtCoordinate c u) with
  | none =>
    show insertUnique _ _ _ _ = Except.map _ (insertUnique _ _ _ _)
    have hany : (l ++ m).any (fun r => r.record == (c.recordRow u).record) = m.any (fun r => r.record == (c.recordRow u).record) := by
      rw [List.any_append]
      have hnone : l.any (fun r => r.record == (c.recordRow u).record) = false :=
        List.any_eq_false.2 fun r hr he => hl.record r hr u hu (beq_iff_eq.1 he)
      rw [hnone, Bool.false_or]
    unfold insertUnique
    rw [hany]
    cases m.any (fun r => r.record == (c.recordRow u).record) with
    | true => rfl
    | false =>
      show Except.ok (l ++ m ++ [c.recordRow u]) = Except.ok (l ++ (m ++ [c.recordRow u]))
      rw [List.append_assoc]
  | some r =>
    show (failIf _ _ >>= fun _ => casWhere (isPlanned c u) (c.overwrite u) _ (l ++ m)) =
      Except.map _ (failIf _ _ >>= fun _ => casWhere (isPlanned c u) (c.overwrite u) _ m)
    have hcount : (l ++ m).countP (isPlanned c u) = m.countP (isPlanned c u) := by
      rw [List.countP_append, List.countP_eq_zero.2 fun r hr => Bool.eq_false_iff.1 (hplanned r hr), Nat.zero_add]
    have hupdate : updateWhere (isPlanned c u) (c.overwrite u) (l ++ m) =
        l ++ updateWhere (isPlanned c u) (c.overwrite u) m := by
      have hsame := updateWhere_of_forall (f := c.overwrite u) hplanned
      unfold updateWhere at hsame ⊢
      rw [List.map_append, hsame]
    cases hf : (r.record != u.record) with
    | true => rfl
    | false =>
      show casWhere _ _ _ _ = Except.map _ (casWhere _ _ _ _)
      unfold casWhere
      rw [hcount, hupdate]
      cases m.countP (isPlanned c u) != 1 with
      | true => rfl
      | false => rfl

theorem foldEach_beside {c : Vectorize} {l : List VectorRecordRow} (hl : Untouched c l) {us : List PlannedRecord}
    (hus : us ⊆ c.records) (m : List VectorRecordRow) :
    foldEach (upsertVectorRecord c) (l ++ m) us = (foldEach (upsertVectorRecord c) m us).map (l ++ ·) := by
  induction us generalizing m with
  | nil => rfl
  | cons u us ih =>
    unfold foldEach
    rw [upsert_beside hl (hus List.mem_cons_self)]
    cases upsertVectorRecord c m u with
    | error e => rfl
    | ok d => exact ih (fun v hv => hus (List.mem_cons_of_mem _ hv)) d

/-- The units of one stage, written alone. -/
def ownRecords (c : Vectorize) : Except MkbError (List VectorRecordRow) := foldEach (upsertVectorRecord c) [] c.records

theorem foldEach_untouched {c : Vectorize} {l : List VectorRecordRow} (hl : Untouched c l) :
    foldEach (upsertVectorRecord c) l c.records = (ownRecords c).map (l ++ ·) := by
  have h := foldEach_beside hl (List.Subset.refl c.records) []
  rwa [List.append_nil] at h

/-- A row moved to another namespace and generation. -/
def relocate (nspace : NamespaceId) (generation : Nat) (r : VectorRecordRow) : VectorRecordRow :=
  { r with nspace := nspace, indexGeneration := generation }

def IsPlacedBy (c : Vectorize) (r : VectorRecordRow) : Prop := r.nspace = c.nspace ∧ r.indexGeneration = c.indexGeneration

/-- The stage with other coordinates. -/
def Vectorize.moved (nspace : NamespaceId) (generation : Nat) (c : Vectorize) : Vectorize :=
  { c with nspace := nspace, indexGeneration := generation }

theorem isAtCoordinate_moved {c : Vectorize} {nspace : NamespaceId} {generation : Nat} {u : PlannedRecord}
    {r : VectorRecordRow} (hr : IsPlacedBy c r) :
    isAtCoordinate (c.moved nspace generation) u (relocate nspace generation r) = isAtCoordinate c u r := by
  unfold isAtCoordinate
  rw [hr.1, hr.2]
  show (_ && nspace == nspace && _ && _ && _ && _ && generation == generation && _ && _) = _
  simp only [beq_self_eq_true, Bool.and_true]
  rfl

theorem map_updateWhere_relocate {c : Vectorize} {nspace : NamespaceId} {generation : Nat} {u : PlannedRecord}
    (m : List VectorRecordRow) :
    updateWhere (isPlanned (c.moved nspace generation) u) ((c.moved nspace generation).overwrite u)
        (m.map (relocate nspace generation)) =
      (updateWhere (isPlanned c u) (c.overwrite u) m).map (relocate nspace generation) := by
  unfold updateWhere
  rw [List.map_map, List.map_map]
  refine List.map_congr_left fun r _ => ?_
  show (if isPlanned c u r then (c.moved nspace generation).overwrite u (relocate nspace generation r)
    else relocate nspace generation r) = relocate nspace generation (if isPlanned c u r then c.overwrite u r else r)
  split
  · rfl
  · rfl

theorem upsert_moved {c : Vectorize} (nspace : NamespaceId) (generation : Nat) {u : PlannedRecord}
    {m : List VectorRecordRow} (hm : ∀ r ∈ m, IsPlacedBy c r) :
    upsertVectorRecord (c.moved nspace generation) (m.map (relocate nspace generation)) u =
      (upsertVectorRecord c m u).map (List.map (relocate nspace generation)) := by
  have hfind : (m.map (relocate nspace generation)).find? (isAtCoordinate (c.moved nspace generation) u) =
      (m.find? (isAtCoordinate c u)).map (relocate nspace generation) := by
    rw [List.find?_map]
    congr 1
    exact List.find?_congr fun r hr => isAtCoordinate_moved (hm r hr)
  unfold upsertVectorRecord
  rw [hfind]
  cases m.find? (isAtCoordinate c u) with
  | none =>
    show insertUnique _ _ _ _ = Except.map _ (insertUnique _ _ _ _)
    unfold insertUnique
    rw [List.any_map]
    show (failIf (m.any fun r => r.record == u.record) _ >>= _) = _
    cases h : m.any fun r => r.record == u.record with
    | true =>
      show _ = Except.map _ (failIf (m.any fun r => r.record == u.record) _ >>= _)
      rw [h]
      rfl
    | false =>
      show Except.ok (m.map (relocate nspace generation) ++ [(c.moved nspace generation).recordRow u]) =
        Except.map _ (failIf (m.any fun r => r.record == u.record) _ >>= _)
      rw [h]
      show _ = Except.ok ((m ++ [c.recordRow u]).map (relocate nspace generation))
      rw [List.map_append]
      rfl
  | some r =>
    show (failIf (r.record != u.record) _ >>= fun _ => casWhere (isPlanned (c.moved nspace generation) u) _ _ _) =
      Except.map _ (failIf (r.record != u.record) _ >>= fun _ => casWhere (isPlanned c u) (c.overwrite u) _ m)
    cases r.record != u.record with
    | true => rfl
    | false =>
      show casWhere _ _ _ _ = Except.map _ (casWhere _ _ _ _)
      have hcount : (m.map (relocate nspace generation)).countP (isPlanned (c.moved nspace generation) u) =
          m.countP (isPlanned c u) := by
        rw [List.countP_map]
        rfl
      unfold casWhere
      rw [hcount, map_updateWhere_relocate]
      cases m.countP (isPlanned c u) != 1 with
      | true => rfl
      | false => rfl

theorem placed_upsert {c : Vectorize} {u : PlannedRecord} {m m' : List VectorRecordRow} (hm : ∀ r ∈ m, IsPlacedBy c r)
    (h : upsertVectorRecord c m u = .ok m') : ∀ r ∈ m', IsPlacedBy c r := by
  intro q hq
  obtain ⟨r, hr, hat, -, rfl⟩ | ⟨-, rfl⟩ := upsertVectorRecord_ok h
  · rcases mem_updateWhere_cases hq with ⟨hq, -⟩ | ⟨p, hp, -, rfl⟩
    · exact hm q hq
    · exact ⟨(hm p hp).1, rfl⟩
  · rcases List.mem_append.1 hq with hq | hq
    · exact hm q hq
    · rw [List.mem_singleton.1 hq]
      exact ⟨rfl, rfl⟩

theorem ownRecords_moved (c : Vectorize) (nspace : NamespaceId) (generation : Nat) :
    ownRecords (c.moved nspace generation) = (ownRecords c).map (List.map (relocate nspace generation)) := by
  have hfold (us : List PlannedRecord) (m : List VectorRecordRow) (hm : ∀ r ∈ m, IsPlacedBy c r) :
      foldEach (upsertVectorRecord (c.moved nspace generation)) (m.map (relocate nspace generation)) us =
        (foldEach (upsertVectorRecord c) m us).map (List.map (relocate nspace generation)) := by
    induction us generalizing m with
    | nil => rfl
    | cons u us ih =>
      unfold foldEach
      rw [upsert_moved nspace generation hm]
      cases h : upsertVectorRecord c m u with
      | error e => rfl
      | ok d => exact ih d (placed_upsert hm h)
  exact hfold c.records [] fun r hr => absurd hr List.not_mem_nil

theorem ownRecords_error {c : Vectorize} {e : MkbError} (h : ownRecords c = .error e) :
    e.code = "VECTORIZE_COORDINATE_FENCE" ∨ e = constraintViolation := by
  have hupsert (m : List VectorRecordRow) (u : PlannedRecord) (he : upsertVectorRecord c m u = .error e) :
      e.code = "VECTORIZE_COORDINATE_FENCE" ∨ e = constraintViolation := by
    unfold upsertVectorRecord at he
    split at he
    · rename_i r hr
      cases hf : r.record != u.record with
      | true =>
        rw [hf] at he
        obtain rfl := Except.error.inj he
        exact .inl rfl
      | false =>
        rw [hf] at he
        replace he : casWhere (isPlanned c u) (c.overwrite u) _ m = .error e := he
        unfold casWhere at he
        cases hc : m.countP (isPlanned c u) != 1 with
        | true =>
          rw [hc] at he
          obtain rfl := Except.error.inj he
          exact .inl rfl
        | false =>
          rw [hc] at he
          cases he
    · unfold insertUnique at he
      cases hc : m.any fun q => q.record == (c.recordRow u).record with
      | true =>
        rw [hc] at he
        exact .inr (Except.error.inj he).symm
      | false =>
        rw [hc] at he
        cases he
  have hfold (us : List PlannedRecord) (m : List VectorRecordRow) (he : foldEach (upsertVectorRecord c) m us = .error e) :
      e.code = "VECTORIZE_COORDINATE_FENCE" ∨ e = constraintViolation := by
    induction us generalizing m with
    | nil => cases he
    | cons u us ih =>
      unfold foldEach at he
      cases hu : upsertVectorRecord c m u with
      | error e' =>
        rw [hu] at he
        obtain rfl := Except.error.inj he
        exact hupsert m u hu
      | ok d =>
        rw [hu] at he
        exact ih d he
  exact hfold c.records [] h

end Serving

end KnowledgeBase
