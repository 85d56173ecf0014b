import KnowledgeBase.Serving.Keys

/-!
# Provenance

Where the rows of the index come from. A generation artifact is vectorized by its own Execution once or is made by
one rebuild, so the records of an artifact are exactly those of one handoff or of one rebuild: they share its Item,
its namespace and its generation, and so does every pointer that names the artifact. A retirement intent is of a
generation below the pointer's.
-/

namespace KnowledgeBase

open Checked Relational

def VectorizeHandoff.holds (h : VectorizeHandoff) (record : VectorRecordId) : Bool :=
  h.vectorRecords.any fun v => v.1 == record

namespace Serving

/-- The artifact has been vectorized, or is the product of a rebuild. -/
def IsUsed (s : Serving) (artifact : ArtifactId) : Prop :=
  (∃ h ∈ s.handoffs, h.generationArtifact = artifact) ∨ ∃ a ∈ s.artifacts, a.artifact = artifact ∧ a.current = false

/-- The record was written for the handoff. -/
structure IsWrittenFor (h : VectorizeHandoff) (r : VectorRecordRow) : Prop where
  team : r.team = h.team
  item : r.item = h.item
  nspace : r.nspace = h.nspace
  indexGeneration : r.indexGeneration = h.indexGeneration

structure Provenance (s : Serving) : Prop where
  handoffArtifact : ∀ h ∈ s.handoffs, ∃ a ∈ s.artifacts,
    a.artifact = h.generationArtifact ∧ a.execution = h.execution ∧ a.current = true
  handoffRecords : ∀ h ∈ s.handoffs, ∀ r ∈ s.records, h.holds r.record = true ↔ r.generationArtifact = h.generationArtifact
  writtenFor : ∀ h ∈ s.handoffs, ∀ r ∈ s.records, r.generationArtifact = h.generationArtifact → IsWrittenFor h r
  handoffKept : ∀ h ∈ s.handoffs, ∀ v ∈ h.vectorRecords, ∃ r ∈ s.records, r.record = v.1
  recordUsed : ∀ r ∈ s.records, s.IsUsed r.generationArtifact
  pointerUsed : ∀ p ∈ s.pointers, s.IsUsed p.generationArtifact
  pointerPlace : ∀ p ∈ s.pointers, ∀ r ∈ s.records, r.generationArtifact = p.generationArtifact → r.nspace = p.nspace
  retired : ∀ i ∈ s.retirements, ∃ p ∈ s.pointers,
    p.key = (i.team, i.item, i.nspace) ∧ i.retiredIndexGeneration < p.activeIndexGeneration

variable {s s' : Serving}

theorem provenance_empty : Serving.empty.Provenance := by
  constructor <;> exact fun _ h => absurd h List.not_mem_nil

theorem Provenance.mem_of_isUsed (h : s.Provenance) {artifact : ArtifactId} (hu : s.IsUsed artifact) :
    ∃ a ∈ s.artifacts, a.artifact = artifact := by
  rcases hu with ⟨k, hk, rfl⟩ | ⟨a, ha, rfl, -⟩
  · obtain ⟨a, ha, hartifact, -⟩ := h.handoffArtifact k hk
    exact ⟨a, ha, hartifact⟩
  · exact ⟨a, ha, rfl⟩

theorem IsUsed.mono (hh : s.handoffs ⊆ s'.handoffs) (ha : s.artifacts ⊆ s'.artifacts) {artifact : ArtifactId}
    (hu : s.IsUsed artifact) : s'.IsUsed artifact := by
  rcases hu with ⟨k, hk, hka⟩ | ⟨a, hmem, haa⟩
  · exact .inl ⟨k, hh hk, hka⟩
  · exact .inr ⟨a, ha hmem, haa⟩

theorem retired_of_advance {l l' : List PointerRow} (h : PointersAdvance l l') {i : RetirementIntent}
    (hi : ∃ p ∈ l, p.key = (i.team, i.item, i.nspace) ∧ i.retiredIndexGeneration < p.activeIndexGeneration) :
    ∃ p ∈ l', p.key = (i.team, i.item, i.nspace) ∧ i.retiredIndexGeneration < p.activeIndexGeneration := by
  obtain ⟨p, hp, hkey, hlt⟩ := hi
  obtain ⟨q, hq, hqkey, hpub⟩ := h p hp
  refine ⟨q, hq, hqkey.trans hkey, ?_⟩
  rcases hpub with hpub | hgt
  · have hgen : q.activeIndexGeneration = p.activeIndexGeneration := congrArg Prod.fst hpub
    omega
  · omega

/-! ### writers that leave every row where it is -/

/-- The next state has the rows of the last, in their places, and intents only below their pointers. -/
structure StaysInPlace (s s' : Serving) : Prop where
  handoffs : s'.handoffs = s.handoffs
  artifacts : s.artifacts ⊆ s'.artifacts
  records : ∀ r' ∈ s'.records, ∃ r ∈ s.records, r.place = r'.place ∧ r.item = r'.item
  kept : RecordsKept s.records s'.records
  pointers : ∀ p' ∈ s'.pointers, ∃ p ∈ s.pointers, p.key = p'.key ∧ p.publication = p'.publication
  advance : PointersAdvance s.pointers s'.pointers
  retired : ∀ i ∈ s'.retirements, i ∈ s.retirements ∨ ∃ p ∈ s'.pointers,
    p.key = (i.team, i.item, i.nspace) ∧ i.retiredIndexGeneration < p.activeIndexGeneration

theorem place_eq_iff {r q : VectorRecordRow} : r.place = q.place ↔
    r.record = q.record ∧ r.team = q.team ∧ r.nspace = q.nspace ∧ r.generationArtifact = q.generationArtifact ∧
      r.indexGeneration = q.indexGeneration := by
  simp only [VectorRecordRow.place, Prod.mk.injEq]

theorem Provenance.stays (h : s.Provenance) (hs : s.StaysInPlace s') : s'.Provenance := by
  have hused {artifact : ArtifactId} (hu : s.IsUsed artifact) : s'.IsUsed artifact :=
    hu.mono (by rw [hs.handoffs]; exact List.Subset.refl _) hs.artifacts
  constructor
  · intro k hk
    rw [hs.handoffs] at hk
    obtain ⟨a, ha, hka⟩ := h.handoffArtifact k hk
    exact ⟨a, hs.artifacts ha, hka⟩
  · intro k hk r' hr'
    rw [hs.handoffs] at hk
    obtain ⟨r, hr, hplace, -⟩ := hs.records r' hr'
    obtain ⟨hrecord, -, -, hartifact, -⟩ := place_eq_iff.1 hplace
    rw [← hrecord, ← hartifact]
    exact h.handoffRecords k hk r hr
  · intro k hk r' hr' hka
    rw [hs.handoffs] at hk
    obtain ⟨r, hr, hplace, hitem⟩ := hs.records r' hr'
    obtain ⟨-, hteam, hnspace, hartifact, hgen⟩ := place_eq_iff.1 hplace
    have hw := h.writtenFor k hk r hr (hartifact.trans hka)
    exact ⟨hteam ▸ hw.team, hitem ▸ hw.item, hnspace ▸ hw.nspace, hgen ▸ hw.indexGeneration⟩
  · intro k hk v hv
    rw [hs.handoffs] at hk
    obtain ⟨r, hr, hrecord⟩ := h.handoffKept k hk v hv
    obtain ⟨q, hq, hplace⟩ := hs.kept r hr
    exact ⟨q, hq, (place_eq_iff.1 hplace).1.trans hrecord⟩
  · intro r' hr'
    obtain ⟨r, hr, hplace, -⟩ := hs.records r' hr'
    rw [← (place_eq_iff.1 hplace).2.2.2.1]
    exact hused (h.recordUsed r hr)
  · intro p' hp'
    obtain ⟨p, hp, -, hpub⟩ := hs.pointers p' hp'
    have hartifact : p.generationArtifact = p'.generationArtifact := congrArg (fun x => x.2.2) hpub
    rw [← hartifact]
    exact hused (h.pointerUsed p hp)
  · intro p' hp' r' hr' hra
    obtain ⟨p, hp, hkey, hpub⟩ := hs.pointers p' hp'
    obtain ⟨r, hr, hplace, -⟩ := hs.records r' hr'
    obtain ⟨-, -, hnspace, hartifact, -⟩ := place_eq_iff.1 hplace
    have hpa : p.generationArtifact = p'.generationArtifact := congrArg (fun x => x.2.2) hpub
    have hpn : p.nspace = p'.nspace := congrArg (fun x => x.2.2) hkey
    rw [← hnspace, ← hpn]
    exact h.pointerPlace p hp r hr (hartifact.trans (hra.trans hpa.symm))
  · intro i hi
    rcases hs.retired i hi with hi | hi
    · exact retired_of_advance hs.advance (h.retired i hi)
    · exact hi

theorem StaysInPlace.of_eq (hh : s'.handoffs = s.handoffs) (ha : s'.artifacts = s.artifacts)
    (hr : s'.records = s.records) (hp : s'.pointers = s.pointers) (hi : s'.retirements = s.retirements) :
    s.StaysInPlace s' := by
  constructor
  · exact hh
  · rw [ha]; exact List.Subset.refl _
  · intro r hmem
    exact ⟨r, hr ▸ hmem, rfl, rfl⟩
  · rw [hr]; exact .refl _
  · intro p hmem
    exact ⟨p, hp ▸ hmem, rfl, rfl⟩
  · rw [hp]; exact .refl _
  · intro i hmem
    exact .inl (hi ▸ hmem)

theorem staysInPlace_updateRecords {c : VectorRecordRow → Bool} {f : VectorRecordRow → VectorRecordRow}
    (hf : ∀ r, (f r).place = r.place ∧ (f r).item = r.item) (hh : s'.handoffs = s.handoffs)
    (ha : s'.artifacts = s.artifacts) (hr : s'.records = updateWhere c f s.records) (hp : s'.pointers = s.pointers)
    (hi : s'.retirements ⊆ s.retirements) : s.StaysInPlace s' := by
  constructor
  · exact hh
  · rw [ha]; exact List.Subset.refl _
  · intro r hmem
    rw [hr] at hmem
    rcases mem_updateWhere_cases hmem with ⟨hmem, -⟩ | ⟨q, hq, -, rfl⟩
    · exact ⟨r, hmem, rfl, rfl⟩
    · exact ⟨q, hq, (hf q).1.symm, (hf q).2.symm⟩
  · rw [hr]
    exact recordsKept_updateWhere fun r _ _ => (hf r).1
  · intro p hmem
    exact ⟨p, hp ▸ hmem, rfl, rfl⟩
  · rw [hp]; exact .refl _
  · exact fun i hmem => .inl (hi hmem)

theorem staysInPlace_applied (c : LifecycleCommand) (i : ItemRow) (target : IntakeLifecycle) :
    s.StaysInPlace (c.applied i target s) := by
  have hstays : s.StaysInPlace { s with
      pointers := withdrawPointers c.team c.item c.now s.pointers
      records := withdrawRecords c.team c.item s.records } := by
    constructor
    · rfl
    · exact List.Subset.refl _
    · intro r hr
      rcases mem_updateWhere_cases hr with ⟨hr, -⟩ | ⟨q, hq, -, rfl⟩
      · exact ⟨r, hr, rfl, rfl⟩
      · exact ⟨q, hq, rfl, rfl⟩
    · exact recordsKept_withdraw _ _ _
    · intro p hp
      rcases mem_updateWhere_cases hp with ⟨hp, -⟩ | ⟨q, hq, -, rfl⟩
      · exact ⟨p, hp, rfl, rfl⟩
      · exact ⟨q, hq, rfl, rfl⟩
    · exact pointersAdvance_withdraw _ _ _ _
    · exact fun i hi => .inl hi
  unfold LifecycleCommand.applied
  split
  · exact ⟨hstays.handoffs, hstays.artifacts, hstays.records, hstays.kept, hstays.pointers, hstays.advance, hstays.retired⟩
  · exact ⟨hstays.handoffs, hstays.artifacts, hstays.records, hstays.kept, hstays.pointers, hstays.advance, hstays.retired⟩

theorem staysInPlace_schedule {i : RetirementIntent}
    (h : ∃ p ∈ s.pointers, p.key = (i.team, i.item, i.nspace) ∧ i.retiredIndexGeneration < p.activeIndexGeneration) :
    s.StaysInPlace { s with retirements := insertOrIgnore (fun q => q.key == RetirementIntent.key i) i s.retirements } := by
  refine ⟨rfl, List.Subset.refl _, fun r hr => ⟨r, hr, rfl, rfl⟩, .refl _, fun p hp => ⟨p, hp, rfl, rfl⟩, .refl _,
    fun j hj => ?_⟩
  rcases mem_insertOrIgnore hj with hj | ⟨rfl, -⟩
  · exact .inl hj
  · exact .inr h

/-! ### vectorize -/

/-- A record that the stage has written: withdrawn, live, of its artifact and its handoff. -/
structure IsWrittenBy (c : Vectorize) (r : VectorRecordRow) : Prop where
  artifact : r.generationArtifact = c.generationArtifact
  written : IsWrittenFor c.handoff r
  held : c.handoff.holds r.record = true
  withdrawn : r.isIndexed = false

/-- The records while a vectorize stage writes: the old ones as they were, the new ones its own. -/
structure Writes (c : Vectorize) (old l : List VectorRecordRow) : Prop where
  nodup : (l.map VectorRecordRow.record).Nodup
  rows : ∀ r ∈ l, r ∈ old ∨ IsWrittenBy c r
  old : old ⊆ l

theorem holds_of_mem {c : Vectorize} {u : PlannedRecord} (hu : u ∈ c.records) : c.handoff.holds u.record = true := by
  unfold VectorizeHandoff.holds
  rw [List.any_eq_true]
  exact ⟨(u.record, u.contentDigest), List.mem_map.2 ⟨u, hu, rfl⟩, beq_self_eq_true _⟩

theorem Writes.upsert {c : Vectorize} {old l l' : List VectorRecordRow} {u : PlannedRecord} (hu : u ∈ c.records)
    (hfresh : ∀ r ∈ old, r.generationArtifact ≠ c.generationArtifact) (hl : Writes c old l)
    (h : upsertVectorRecord c l u = .ok l') :
    Writes c old l' ∧ ∃ r ∈ l', r.record = u.record ∧ r.generationArtifact = c.generationArtifact := by
  obtain ⟨r, hr, hat, hrecord, rfl⟩ | ⟨hnew, rfl⟩ := upsertVectorRecord_ok h
  · have hplanned (q : VectorRecordRow) (hq : q ∈ l) (hc : isPlanned c u q = true) : q = r := by
      simp only [isPlanned, Bool.and_eq_true, beq_iff_eq] at hc
      exact eq_of_key hl.nodup hq hr (hc.1.2.trans hrecord.symm)
    simp only [isAtCoordinate, Bool.and_eq_true, beq_iff_eq] at hat
    obtain ⟨⟨⟨⟨⟨⟨⟨⟨hteam, hnspace⟩, hartifact⟩, -⟩, -⟩, -⟩, hgen⟩, hstate⟩, hlive⟩ := hat
    have hwritten : IsWrittenBy c (c.overwrite u r) :=
      ⟨hartifact, ⟨hteam, rfl, hnspace, rfl⟩, by
        show c.handoff.holds r.record = true
        rw [hrecord]; exact holds_of_mem hu, by simp [VectorRecordRow.isIndexed, Vectorize.overwrite]⟩
    refine ⟨⟨nodup_keys_updateWhere (fun _ => rfl) hl.nodup, fun q hq => ?_, fun q hq => ?_⟩, ?_⟩
    · rcases mem_updateWhere_cases hq with ⟨hq, -⟩ | ⟨p, hp, hc, rfl⟩
      · exact hl.rows q hq
      · rw [hplanned p hp hc]
        exact .inr hwritten
    · refine mem_updateWhere.2 ⟨q, hl.old hq, if_neg fun hc => ?_⟩
      have hqr := hplanned q (hl.old hq) hc
      rw [hqr] at hq
      exact hfresh r hq hartifact
    · refine ⟨_, mem_updateWhere_of_mem hr, ?_⟩
      split
      · exact ⟨hrecord, hartifact⟩
      · exact ⟨hrecord, hartifact⟩
  · have hwritten : IsWrittenBy c (c.recordRow u) := ⟨rfl, ⟨rfl, rfl, rfl, rfl⟩, holds_of_mem hu, rfl⟩
    refine ⟨⟨nodup_keys_append hl.nodup hnew, fun q hq => ?_, fun q hq => List.mem_append_left _ (hl.old hq)⟩, ?_⟩
    · rcases List.mem_append.1 hq with hq | hq
      · exact hl.rows q hq
      · rw [List.mem_singleton.1 hq]
        exact .inr hwritten
    · exact ⟨c.recordRow u, List.mem_append_right _ List.mem_cons_self, rfl, rfl⟩

theorem writes_foldEach {c : Vectorize} {old l : List VectorRecordRow} (hold : (old.map VectorRecordRow.record).Nodup)
    (hfresh : ∀ r ∈ old, r.generationArtifact ≠ c.generationArtifact)
    (h : foldEach (upsertVectorRecord c) old c.records = .ok l) : Writes c old l :=
  foldEach_preserves (P := Writes c old) (fun _ _ _ hu hd hstep => (hd.upsert hu hfresh hstep).1)
    ⟨hold, fun _ hr => .inl hr, List.Subset.refl _⟩ h

theorem reaches_foldEach {c : Vectorize} {old l : List VectorRecordRow} (hold : (old.map VectorRecordRow.record).Nodup)
    (hfresh : ∀ r ∈ old, r.generationArtifact ≠ c.generationArtifact)
    (h : foldEach (upsertVectorRecord c) old c.records = .ok l) :
    ∀ u ∈ c.records, ∃ r ∈ l, r.record = u.record ∧ r.generationArtifact = c.generationArtifact := by
  refine foldEach_reaches (P := Writes c old) (fun _ _ _ hu hd hstep => hd.upsert hu hfresh hstep)
    (fun d d' u v _ hd hreach hstep => ?_) ⟨hold, fun _ hr => .inl hr, List.Subset.refl _⟩ h
  obtain ⟨r, hr, hrecord, hartifact⟩ := hreach
  obtain ⟨q, hq, hplace⟩ := (recordsKept_upsert hd.nodup hstep).2 r hr
  obtain ⟨hqrecord, -, -, hqartifact, -⟩ := place_eq_iff.1 hplace
  exact ⟨q, hq, hqrecord.trans hrecord, hqartifact.trans hartifact⟩

theorem Provenance.not_isUsed (h : s.Provenance) (hs : s.Keyed) {c : Vectorize} {a : ArtifactRow} (ha : a ∈ s.artifacts)
    (hgate : c.IsGated a) (hfresh : ∀ q ∈ s.handoffs, q.execution ≠ c.execution) : ¬ s.IsUsed c.generationArtifact := by
  obtain ⟨-, hartifact, hexecution, -, -, hcurrent⟩ := hgate
  rintro (⟨k, hk, hka⟩ | ⟨b, hb, hba, hnot⟩)
  · obtain ⟨b, hb, hbk, hbe, -⟩ := h.handoffArtifact k hk
    obtain rfl := eq_of_key hs.artifacts ha hb (hartifact.trans (hka.symm.trans hbk.symm))
    exact hfresh k hk (hbe.symm.trans hexecution)
  · obtain rfl := eq_of_key hs.artifacts ha hb (hartifact.trans hba.symm)
    rw [hcurrent] at hnot
    cases hnot

theorem provenance_vectorize (hs : s.Keyed) (h : s.Provenance) {c : Vectorize} (hc : s.vectorize c = .ok s') :
    s'.Provenance := by
  obtain ⟨⟨a, ha, hgate⟩, -, hfresh, namespaces, records, hrecords, rfl⟩ := vectorize_ok hc
  have hunused := h.not_isUsed hs ha hgate hfresh
  have hold (r : VectorRecordRow) (hr : r ∈ s.records) : r.generationArtifact ≠ c.generationArtifact :=
    fun he => hunused (he ▸ h.recordUsed r hr)
  have hwrites := writes_foldEach hs.records hold hrecords
  have hreach := reaches_foldEach hs.records hold hrecords
  have hother (k : VectorizeHandoff) (hk : k ∈ s.handoffs) : c.generationArtifact ≠ k.generationArtifact :=
    fun he => hunused (.inl ⟨k, hk, he.symm⟩)
  have hmono {artifact : ArtifactId} (hu : s.IsUsed artifact) :
      IsUsed { s with namespaces := namespaces, records := records, handoffs := s.handoffs ++ [c.handoff] } artifact := by
    rcases hu with ⟨k, hk, he⟩ | ⟨b, hb, he⟩
    · exact .inl ⟨k, List.mem_append_left _ hk, he⟩
    · exact .inr ⟨b, hb, he⟩
  have hcase (k : VectorizeHandoff) (hk : k ∈ s.handoffs ++ [c.handoff]) : k ∈ s.handoffs ∨ k = c.handoff :=
    (List.mem_append.1 hk).imp_right List.mem_singleton.1
  constructor
  · intro k hk
    rcases hcase k hk with hk | rfl
    · exact h.handoffArtifact k hk
    · obtain ⟨-, hartifact, hexecution, -, -, hcurrent⟩ := hgate
      exact ⟨a, ha, hartifact, hexecution, hcurrent⟩
  · intro k hk r hr
    rcases hcase k hk with hk | rfl
    · rcases hwrites.rows r hr with hr | hw
      · exact h.handoffRecords k hk r hr
      · -- a record of this stage is none of an earlier handoff, whose records have all been there before
        refine ⟨fun hheld => ?_, fun he => absurd (hw.artifact.symm.trans he) (hother k hk)⟩
        obtain ⟨v, hv, hvr⟩ := List.any_eq_true.1 hheld
        obtain ⟨q, hq, hqv⟩ := h.handoffKept k hk v hv
        obtain rfl := eq_of_key hwrites.nodup (hwrites.old hq) hr (hqv.trans (beq_iff_eq.1 hvr))
        exact absurd hw.artifact (hold q hq)
    · refine ⟨fun hheld => ?_, fun he => ?_⟩
      · obtain ⟨v, hv, hvr⟩ := List.any_eq_true.1 hheld
        obtain ⟨u, hu, rfl⟩ := List.mem_map.1 hv
        obtain ⟨q, hq, hqu, hqa⟩ := hreach u hu
        obtain rfl := eq_of_key hwrites.nodup hq hr (hqu.trans (beq_iff_eq.1 hvr))
        exact hqa
      · rcases hwrites.rows r hr with hr | hw
        · exact absurd he (hold r hr)
        · exact hw.held
  · intro k hk r hr he
    rcases hcase k hk with hk | rfl
    · rcases hwrites.rows r hr with hr | hw
      · exact h.writtenFor k hk r hr he
      · exact absurd (hw.artifact.symm.trans he) (hother k hk)
    · rcases hwrites.rows r hr with hr | hw
      · exact absurd he (hold r hr)
      · exact hw.written
  · intro k hk v hv
    rcases hcase k hk with hk | rfl
    · obtain ⟨r, hr, hrv⟩ := h.handoffKept k hk v hv
      exact ⟨r, hwrites.old hr, hrv⟩
    · obtain ⟨u, hu, rfl⟩ := List.mem_map.1 hv
      obtain ⟨q, hq, hqu, -⟩ := hreach u hu
      exact ⟨q, hq, hqu⟩
  · intro r hr
    rcases hwrites.rows r hr with hr | hw
    · exact hmono (h.recordUsed r hr)
    · rw [hw.artifact]
      exact .inl ⟨c.handoff, List.mem_append_right _ List.mem_cons_self, rfl⟩
  · exact fun p hp => hmono (h.pointerUsed p hp)
  · intro p hp r hr he
    rcases hwrites.rows r hr with hr | hw
    · exact h.pointerPlace p hp r hr he
    · refine absurd (h.pointerUsed p hp) ?_
      rw [← he, hw.artifact]
      exact hunused
  · exact h.retired

/-! ### pointers -/

/-- The pointers move to a publication whose artifact is used and whose records are in its namespace. -/
theorem Provenance.promote (h : s.Provenance) {p : ProofRow} {pointers : List PointerRow}
    (hused : s.IsUsed p.generationArtifact)
    (hplace : ∀ r ∈ s.records, r.generationArtifact = p.generationArtifact → r.nspace = p.nspace)
    (hp : ∀ q ∈ pointers, q ∈ s.pointers ∨ q.generationArtifact = p.generationArtifact ∧ q.nspace = p.nspace)
    (hadvance : PointersAdvance s.pointers pointers) : ({ s with pointers := pointers } : Serving).Provenance := by
  refine ⟨h.handoffArtifact, h.handoffRecords, h.writtenFor, h.handoffKept, h.recordUsed, fun q hq => ?_,
    fun q hq r hr he => ?_, fun i hi => retired_of_advance hadvance (h.retired i hi)⟩
  · rcases hp q hq with hq | ⟨hartifact, -⟩
    · exact h.pointerUsed q hq
    · rw [hartifact]
      exact hused
  · rcases hp q hq with hq | ⟨hartifact, hnspace⟩
    · exact h.pointerPlace q hq r hr he
    · rw [hnspace]
      exact hplace r hr (he.trans hartifact)

theorem provenance_promotePointer (h : s.Provenance) {p : ProofRow} {now : Time} (hused : s.IsUsed p.generationArtifact)
    (hplace : ∀ r ∈ s.records, r.generationArtifact = p.generationArtifact → r.nspace = p.nspace)
    (hp : s.promotePointer p now = .ok s') : s'.Provenance := by
  obtain ⟨-, rfl⟩ | ⟨q, hq, hkey, -, rfl⟩ := promotePointer_ok hp
  · refine h.promote hused hplace (fun r hr => ?_) (pointersAdvance_append _ _)
    rcases List.mem_append.1 hr with hr | hr
    · exact .inl hr
    · rw [List.mem_singleton.1 hr]
      exact .inr ⟨rfl, rfl⟩
  · refine h.promote hused hplace (fun r hr => ?_) (pointersAdvance_promote fun r hr => ?_)
    · rcases mem_updateWhere_cases hr with ⟨hr, -⟩ | ⟨r, hr, hc, rfl⟩
      · exact .inl hr
      · simp only [isSuperseded, Bool.and_eq_true, beq_iff_eq] at hc
        have hnspace : r.nspace = p.nspace := congrArg (fun x => x.2.2) (hc.1.1.trans hkey)
        exact .inr ⟨rfl, hnspace⟩
    · simp only [isSuperseded, Bool.and_eq_true, decide_eq_true_eq] at hr
      exact hr.2

/-! ### publication -/

theorem mem_fetched_iff (h : s.Provenance) {k : VectorizeHandoff} (hk : k ∈ s.handoffs) {r : VectorRecordRow}
    (hr : r ∈ s.records) : isOfHandoff k.team k r = true ↔ r.generationArtifact = k.generationArtifact := by
  rw [← h.handoffRecords k hk r hr]
  unfold isOfHandoff
  rw [Bool.and_eq_true, beq_iff_eq]
  refine ⟨fun hof => hof.2, fun hheld => ⟨?_, hheld⟩⟩
  exact (h.writtenFor k hk r hr ((h.handoffRecords k hk r hr).1 hheld)).team

theorem provenance_inserted (h : s.Provenance) (c : Publish) (k : VectorizeHandoff) (itemEpoch : Nat) :
    (c.inserted k itemEpoch s).Provenance := by
  have hindex (r : VectorRecordRow) : r.index.place = r.place ∧ r.index.item = r.item := ⟨rfl, rfl⟩
  exact h.stays (staysInPlace_updateRecords hindex rfl rfl rfl rfl (List.Subset.refl _))

theorem provenance_publishRevision (h : s.Provenance) {item : ItemId} {revision : RevisionId} {proof : ProofId}
    {nspace : NamespaceId} {generation : Nat} {c : Publish}
    (hp : s.publishRevision item revision proof nspace generation c = .ok s') : s'.Provenance := by
  obtain ⟨i, -, -, -, rfl⟩ | ⟨i, -, -, -, rfl⟩ := publishRevision_ok hp
  · exact h
  · exact h.stays (.of_eq rfl rfl rfl rfl rfl)

theorem provenance_retireSuperseded (h : s.Provenance) {grace : Nat} {p : ProofRow} {before : Option PointerRow}
    (hp : s.retireSuperseded grace p before = .ok s') : s'.Provenance := by
  obtain rfl | ⟨q, hq, i, hi, hlt, rfl⟩ := retireSuperseded_ok hp
  · exact h
  · refine h.stays (staysInPlace_schedule ⟨q, hq, ?_, hlt⟩)
    simp only [RetirementIntent.key, Prod.mk.injEq, and_true] at hi
    simp only [PointerRow.key, hi]

theorem provenance_publish (h : s.Provenance) {grace : Nat} {c : Publish} (hp : s.publish grace c = .ok s') :
    s'.Provenance := by
  obtain ⟨k, hk, -, -, fetched, -, -, -, itemEpoch, s₁, s₂, before, h₁, h₂, h₃⟩ := publish_ok hp
  have hinserted := provenance_inserted h c k itemEpoch
  have hpromoted := provenance_promotePointer hinserted (p := c.proofRow k fetched) (.inl ⟨k, hk, rfl⟩)
    (fun r hr he => (hinserted.writtenFor k hk r hr he).nspace) h₁
  have hraised : ({ s₁ with
      namespaces := raiseNamespace c.team k.nspace k.indexGeneration s₁.namespaces } : Serving).Provenance :=
    hpromoted.stays (.of_eq rfl rfl rfl rfl rfl)
  exact provenance_retireSuperseded (provenance_publishRevision hraised h₂) h₃

/-! ### index rebuild -/

theorem Provenance.appendClones (h : s.Provenance) {artifact : ArtifactId} {clones : List VectorRecordRow}
    (hartifact : ∀ r ∈ clones, r.generationArtifact = artifact)
    (hfresh : ∀ r ∈ clones, ∀ q ∈ s.records, q.record ≠ r.record)
    (hmade : ∃ a ∈ s.artifacts, a.artifact = artifact ∧ a.current = false)
    (hhandoff : ∀ k ∈ s.handoffs, k.generationArtifact ≠ artifact)
    (hpointer : ∀ p ∈ s.pointers, p.generationArtifact ≠ artifact) :
    ({ s with records := s.records ++ clones } : Serving).Provenance := by
  constructor
  · exact h.handoffArtifact
  · intro k hk r hr
    rcases List.mem_append.1 hr with hr | hr
    · exact h.handoffRecords k hk r hr
    · refine ⟨fun hheld => ?_, fun he => absurd (he.symm.trans (hartifact r hr)) (hhandoff k hk)⟩
      obtain ⟨v, hv, hvr⟩ := List.any_eq_true.1 hheld
      obtain ⟨q, hq, hqv⟩ := h.handoffKept k hk v hv
      exact absurd (hqv.trans (beq_iff_eq.1 hvr)) (hfresh r hr q hq)
  · intro k hk r hr he
    rcases List.mem_append.1 hr with hr | hr
    · exact h.writtenFor k hk r hr he
    · exact absurd (he.symm.trans (hartifact r hr)) (hhandoff k hk)
  · intro k hk v hv
    obtain ⟨r, hr, hrv⟩ := h.handoffKept k hk v hv
    exact ⟨r, List.mem_append_left _ hr, hrv⟩
  · intro r hr
    rcases List.mem_append.1 hr with hr | hr
    · exact h.recordUsed r hr
    · rw [hartifact r hr]
      exact .inr hmade
  · exact h.pointerUsed
  · intro p hp r hr he
    rcases List.mem_append.1 hr with hr | hr
    · exact h.pointerPlace p hp r hr he
    · exact absurd (he.symm.trans (hartifact r hr)) (hpointer p hp)
  · exact h.retired

theorem provenance_cutOver (h : s.Provenance) {c : IndexRebuild} {p : IndexRebuildPlan}
    {sources records : List VectorRecordRow} {namespaces : List NamespaceRow}
    (hclone : cloneRecords c.team p sources s.records = .ok records)
    (hartifact : ∀ a ∈ s.artifacts, a.artifact ≠ p.generationArtifact) :
    (c.cutOver p sources records namespaces s).Provenance := by
  obtain ⟨rfl, hfresh⟩ := cloneRecords_ok hclone
  have hunused (artifact : ArtifactId) (hu : s.IsUsed artifact) : artifact ≠ p.generationArtifact := by
    obtain ⟨a, ha, rfl⟩ := h.mem_of_isUsed hu
    exact hartifact a ha
  have hmade : ({ s with artifacts := s.artifacts ++ [p.artifactRow c.team c.producer] } : Serving).Provenance := by
    refine h.stays ⟨rfl, List.subset_append_left _ _, fun r hr => ⟨r, hr, rfl, rfl⟩, .refl _,
      fun q hq => ⟨q, hq, rfl, rfl⟩, .refl _, fun i hi => .inl hi⟩
  have hcloned : ({ s with
      artifacts := s.artifacts ++ [p.artifactRow c.team c.producer]
      records := s.records ++ sources.map (p.clone c.team) } : Serving).Provenance := by
    refine hmade.appendClones (fun r hr => ?_) (fun r hr q hq => ?_)
      ⟨_, List.mem_append_right _ List.mem_cons_self, rfl, rfl⟩ (fun k hk => hunused _ (.inl ⟨k, hk, rfl⟩))
      (fun q hq => hunused _ (h.pointerUsed q hq))
    · obtain ⟨q, -, rfl⟩ := List.mem_map.1 hr
      rfl
    · obtain ⟨u, hu, rfl⟩ := List.mem_map.1 hr
      exact hfresh u hu q hq
  have hpromoted : ({ s with
      artifacts := s.artifacts ++ [p.artifactRow c.team c.producer]
      records := s.records ++ sources.map (p.clone c.team)
      pointers := updateWhere (p.isFrozen c.team) (PointerRow.promote (p.proofRow c.team c.producer sources) c.now)
        s.pointers } : Serving).Provenance := by
    refine hcloned.promote (p := p.proofRow c.team c.producer sources)
      (.inr ⟨_, List.mem_append_right _ List.mem_cons_self, rfl, rfl⟩) (fun r hr he => ?_) (fun q hq => ?_)
      (pointersAdvance_promote fun q hq => ?_)
    · rcases List.mem_append.1 hr with hr | hr
      · exact absurd he (hunused _ (h.recordUsed r hr))
      · obtain ⟨q, -, rfl⟩ := List.mem_map.1 hr
        rfl
    · rcases mem_updateWhere_cases hq with ⟨hq, -⟩ | ⟨q, hq, hc, rfl⟩
      · exact .inl hq
      · simp only [IndexRebuildPlan.isFrozen, Bool.and_eq_true, beq_iff_eq] at hc
        have hnspace : q.nspace = p.nspace := congrArg (fun x => x.2.2) hc.1.1.1.1.1
        exact .inr ⟨rfl, hnspace⟩
    · simp only [IndexRebuildPlan.isFrozen, Bool.and_eq_true, beq_iff_eq] at hq
      show q.activeIndexGeneration < p.oldIndexGeneration + 1
      omega
  exact hpromoted.stays (.of_eq rfl rfl rfl rfl rfl)

theorem provenance_commitPlan (h : s.Provenance) {grace : Nat} {c : IndexRebuild} {p : IndexRebuildPlan}
    (hp : s.commitPlan grace c p = .ok s') : s'.Provenance := by
  obtain ⟨i, -, -, sources, records, namespaces, -, hclone, hartifact, -, -, s₁, h₁, rfl⟩ := commitPlan_ok hp
  obtain ⟨q, hq, hkey, hlt, j, hj, rfl⟩ := scheduleRetirement_ok h₁
  have hcut : (c.cutOver p sources records namespaces s).Provenance := provenance_cutOver h hclone hartifact
  simp only [RetirementIntent.key, Prod.mk.injEq] at hj
  have hscheduled := hcut.stays (staysInPlace_schedule (i := j) ⟨q, hq, ?_, ?_⟩)
  · exact hscheduled.stays (.of_eq rfl rfl rfl rfl rfl)
  · rw [hkey, hj.1, hj.2.1, hj.2.2.1]
  · rw [hj.2.2.2]
    exact hlt

/-! ### every writer -/

theorem provenance_applyHumanReview (h : s.Provenance) (team : TeamId) (snapshot : SnapshotId)
    (decision : ReviewDecision) : (s.applyHumanReview team snapshot decision).Provenance := by
  cases decision with
  | approve => exact h.stays (.of_eq rfl rfl rfl rfl rfl)
  | reject => exact h.stays (.of_eq rfl rfl rfl rfl rfl)

theorem provenance_acceptCollection (h : s.Provenance) {c : AcceptCollection} (hc : s.acceptCollection c = .ok s') :
    s'.Provenance := by
  refine foldEach_preserves (P := Provenance) (fun d d' m _ hd hm => ?_) h hc
  obtain ⟨-, rfl⟩ := insertMember_ok hm
  exact hd.stays (.of_eq rfl rfl rfl rfl rfl)

theorem provenance_transact (hs : s.Keyed) (h : s.Provenance) {grace : Nat} {t : ServingStep}
    (ht : t.transact grace s = .ok s') : s'.Provenance := by
  cases t with
  | acceptSnapshot c =>
    obtain ⟨before, -, -, ⟨-, rfl⟩ | ⟨-, -, rfl⟩⟩ := acceptSnapshot_ok ht
    · exact h.stays (.of_eq rfl rfl rfl rfl rfl)
    · exact h.stays (.of_eq rfl rfl rfl rfl rfl)
  | acceptCollection c => exact provenance_acceptCollection h ht
  | acceptRebuild t producer =>
    obtain ⟨i, -, -, -, rfl⟩ := acceptRebuild_ok ht
    exact h.stays (.of_eq rfl rfl rfl rfl rfl)
  | acceptMetadataUpdate t metadataRevision producer =>
    obtain ⟨i, -, -, -, rfl | ⟨revision, rfl⟩⟩ := acceptMetadataUpdate_ok ht
    · exact h.stays (.of_eq rfl rfl rfl rfl rfl)
    · exact h.stays (.of_eq rfl rfl rfl rfl rfl)
  | lifecycle c =>
    obtain rfl | ⟨i, -, -, target, -, rfl⟩ := applyLifecycle_ok ht
    · exact h
    · exact h.stays (staysInPlace_applied c i target)
  | humanReview team snapshot decision =>
    obtain rfl := Except.ok.inj ht
    exact provenance_applyHumanReview h team snapshot decision
  | acceptConstruct a =>
    obtain ⟨-, -, rfl⟩ := acceptConstruct_ok ht
    exact h.stays ⟨rfl, List.subset_append_left _ _, fun r hr => ⟨r, hr, rfl, rfl⟩, .refl _,
      fun q hq => ⟨q, hq, rfl, rfl⟩, .refl _, fun i hi => .inl hi⟩
  | vectorize c => exact provenance_vectorize hs h ht
  | publish c => exact provenance_publish h ht
  | indexRebuild c => exact foldEach_preserves (P := Provenance) (fun _ _ _ _ hd hp => provenance_commitPlan hd hp) h ht
  | discoverRetirement team item nspace retired =>
    obtain ⟨p, hp, hkey, hlt, i, hi, rfl⟩ := discoverRetirement_ok ht
    simp only [RetirementIntent.key, Prod.mk.injEq] at hi
    refine h.stays (staysInPlace_schedule ⟨p, hp, ?_, ?_⟩)
    · rw [hkey, hi.1, hi.2.1, hi.2.2.1]
    · rw [hi.2.2.2]
      exact hlt
  | softPurge i now =>
    obtain ⟨-, rfl⟩ := softPurge_ok ht
    have hsoft (r : VectorRecordRow) : (VectorRecordRow.softDelete now r).place = r.place ∧
        (VectorRecordRow.softDelete now r).item = r.item := ⟨rfl, rfl⟩
    exact h.stays (staysInPlace_updateRecords hsoft rfl rfl rfl rfl (List.filter_subset_self _))
  | purgeGeneration c =>
    obtain rfl := purgeGeneration_ok ht
    have hsoft (r : VectorRecordRow) : (VectorRecordRow.softDelete c.now r).place = r.place ∧
        (VectorRecordRow.softDelete c.now r).item = r.item := ⟨rfl, rfl⟩
    exact h.stays (staysInPlace_updateRecords hsoft rfl rfl rfl rfl (List.Subset.refl _))
  | cleanupVectors team item now =>
    obtain ⟨-, rfl⟩ := cleanupVectors_ok ht
    have herase (r : VectorRecordRow) : (VectorRecordRow.erase now r).place = r.place ∧
        (VectorRecordRow.erase now r).item = r.item := ⟨rfl, rfl⟩
    exact h.stays (staysInPlace_updateRecords herase rfl rfl rfl rfl (List.Subset.refl _))

end Serving

end KnowledgeBase
