import KnowledgeBase.Intake.RepresentationHistory
import KnowledgeBase.Library.Run

/-!
# The history is the list of the accepted observations

Of the observations of one step of one Execution the first is accepted. The two tables render the list of the accepted
ones: the ordinals count those of the Execution, every path digest is that of the path so far, and the reader returns
the facts of the last.
-/

namespace KnowledgeBase

open RepresentationHistory

variable {D : RepresentationPlatform} {s : RepresentationHistory} {acc : List RepresentationObservation}
  {o : RepresentationObservation} {e : ExecutionId}

/-- The first observation of a step of an Execution stays, a later one is dropped. -/
def keepFirst (acc : List RepresentationObservation) (o : RepresentationObservation) : List RepresentationObservation :=
  if acc.any fun q => q.execution == o.execution && q.stepKey == o.stepKey then acc else acc ++ [o]

def pathOf (e : ExecutionId) (acc : List RepresentationObservation) : List PathEntry :=
  (acc.filter fun o => o.execution == e).map (·.entry)

/-- The row of the history for the observation at a place of the list. -/
def renderedRow (D : RepresentationPlatform) (acc : List RepresentationObservation)
    (p : RepresentationObservation × Nat) : AcquireDecodeRow :=
  D.historyRow (pathOf p.1.execution (acc.take (p.2 + 1))) p.2 p.1

/-- The tables after exactly these appends. -/
structure Renders (D : RepresentationPlatform) (acc : List RepresentationObservation) (s : RepresentationHistory) :
    Prop where
  facts : s.facts.rows = acc.zipIdx.map fun p => (p.2, D.factRow p.1)
  nextFact : s.facts.next = acc.length
  history : s.history.rows = acc.zipIdx.map fun p => (p.2, renderedRow D acc p)
  nextRow : s.history.next = acc.length

theorem length_pathOf_take_le {i j : Nat} (h : i ≤ j) :
    (pathOf e (acc.take (i + 1))).length ≤ (pathOf e (acc.take (j + 1))).length := by
  unfold pathOf
  rw [List.length_map, List.length_map]
  exact ((List.take_sublist_take_left (Nat.succ_le_succ h)).filter _).length_le

theorem pairwise_zipIdx {α : Type} (l : List α) : l.zipIdx.Pairwise fun p q => p.2 < q.2 := by
  have h : (l.zipIdx.map Prod.snd).Pairwise (· < ·) := by
    rw [List.zipIdx_map_snd]
    exact List.pairwise_lt_range'
  exact List.pairwise_map.1 h

/-- The rows of an Execution come back in the order in which they were appended, each with its own fact. -/
theorem Renders.joined (h : Renders D acc s) {c : AcquireDecodeRow → Bool}
    (hc : ∀ row, c row = true → row.execution = e) :
    s.joined c = (acc.zipIdx.filter fun p => c (renderedRow D acc p)).map fun p =>
      (renderedRow D acc p, D.factRow p.1) := by
  have hselect : (s.history.select fun _ row => c row).map Prod.snd =
      (acc.zipIdx.filter fun p => c (renderedRow D acc p)).map (renderedRow D acc) := by
    unfold Table.select
    rw [h.history, List.filter_map, List.map_map]
    rfl
  have hsorted : ((acc.zipIdx.filter fun p => c (renderedRow D acc p)).map (renderedRow D acc)).Pairwise
      fun a b => decide (a.ordinal ≤ b.ordinal) = true := by
    rw [List.pairwise_map]
    refine ((pairwise_zipIdx acc).filter _).imp_of_mem fun {p q} hp hq hlt => ?_
    have hpe : p.1.execution = e := hc _ (List.mem_filter.1 hp).2
    have hqe : q.1.execution = e := hc _ (List.mem_filter.1 hq).2
    simp only [renderedRow, RepresentationPlatform.historyRow, hpe, hqe, decide_eq_true_eq]
    exact length_pathOf_take_le (Nat.le_of_lt hlt)
  unfold RepresentationHistory.joined
  rw [hselect, List.mergeSort_of_pairwise hsorted, List.filterMap_map, List.filterMap_eq_map_iff_forall_eq_some]
  intro p hp
  have hfact : s.facts.get? p.2 = some (D.factRow p.1) := by
    rw [Table.get?_eq_some_iff, h.facts]
    exact List.mem_map_of_mem (f := fun p => (p.2, D.factRow p.1)) (List.mem_filter.1 hp).1
  show (s.facts.get? p.2).map _ = _
  rw [hfact]
  rfl

theorem map_filter_zipIdx {α β : Type} (l : List α) (f : α → Bool) (g : α → β) :
    (l.zipIdx.filter fun p => f p.1).map (fun p => g p.1) = (l.filter f).map g := by
  have h : (l.zipIdx.map Prod.fst).filter f = l.filter f := by rw [List.zipIdx_map_fst]
  rw [← h, List.filter_map, List.map_map]
  rfl

theorem Renders.path (h : Renders D acc s) (e : ExecutionId) : s.path e = pathOf e acc := by
  unfold RepresentationHistory.path
  rw [h.joined (e := e) (fun row hrow => beq_iff_eq.1 hrow), List.map_map]
  exact map_filter_zipIdx acc (fun o => o.execution == e) (·.entry)

theorem Renders.any (h : Renders D acc s) (o : RepresentationObservation) :
    (s.facts.any fun _ row => row.observation.execution == o.execution && row.observation.stepKey == o.stepKey) =
      acc.any fun q => q.execution == o.execution && q.stepKey == o.stepKey := by
  unfold Table.any
  rw [h.facts, List.any_map]
  conv_rhs => rw [← List.zipIdx_map_fst 0 acc, List.any_map]
  rfl

theorem Renders.append (h : Renders D acc s) : Renders D (acc ++ [o])
    ⟨s.facts.insert (D.factRow o),
      s.history.insert (D.historyRow (s.path o.execution ++ [o.entry]) s.facts.next o)⟩ := by
  refine ⟨?_, ?_, ?_, ?_⟩
  · show s.facts.rows ++ [(s.facts.next, D.factRow o)] = _
    simp [h.facts, h.nextFact, List.zipIdx_append]
  · simp [h.nextFact]
  · show s.history.rows ++ [(s.history.next, D.historyRow _ s.facts.next o)] = _
    have hold : (acc.zipIdx.map fun p => (p.2, renderedRow D (acc ++ [o]) p)) =
        acc.zipIdx.map fun p => (p.2, renderedRow D acc p) := by
      refine List.map_congr_left fun p hp => ?_
      have hlt : p.2 + 1 ≤ acc.length := (List.mem_zipIdx' hp).1
      simp only [renderedRow, List.take_append_of_le_length hlt]
    rw [List.zipIdx_append, List.map_append, hold, h.history, h.path, h.nextRow, h.nextFact]
    simp [renderedRow, pathOf, List.take_append, List.take_of_length_le (Nat.le_succ _)]
  · simp [h.nextRow]

theorem Renders.step (h : Renders D acc s) (o : RepresentationObservation) :
    Renders D (keepFirst acc o) (appendStep D s o) := by
  unfold keepFirst appendStep RepresentationHistory.append
  rw [h.any]
  split
  · exact h
  · exact h.append

theorem renders_run (l : List RepresentationObservation) :
    Renders D (runFrom keepFirst [] l) (runFrom (appendStep D) .empty l) := by
  have general : ∀ acc s, Renders D acc s → Renders D (runFrom keepFirst acc l) (runFrom (appendStep D) s l) := by
    induction l with
    | nil => exact fun _ _ h => h
    | cons o l ih => exact fun acc s h => ih _ _ (h.step o)
  exact general [] .empty ⟨rfl, rfl, rfl, rfl⟩

/-- After any appends of any Executions in any order the tables are those of exactly the first observation of each step,
each row with the number of its Execution's rows up to it and the digest of their path, and the reader returns the facts
of the last accepted observation of the Execution. -/
theorem representation_history (D : RepresentationPlatform) (l : List RepresentationObservation) :
    Renders D (runFrom keepFirst [] l) (runFrom (appendStep D) .empty l) ∧
      ∀ team e, (runFrom (appendStep D) .empty l).readRouteFacts team e =
        (((runFrom keepFirst [] l).filter fun o => o.team == team && o.execution == e).getLast?).map D.routeFacts := by
  have h := renders_run (D := D) l
  refine ⟨h, fun team e => ?_⟩
  unfold readRouteFacts
  have hc : ∀ row : AcquireDecodeRow, (row.team == team && row.execution == e) = true → row.execution = e := by
    intro row hrow
    rw [Bool.and_eq_true] at hrow
    exact beq_iff_eq.1 hrow.2
  rw [h.joined hc, ← List.getLast?_map, List.map_map, ← List.getLast?_map]
  exact congrArg List.getLast?
    (map_filter_zipIdx (runFrom keepFirst [] l) (fun o => o.team == team && o.execution == e) D.routeFacts)

end KnowledgeBase
