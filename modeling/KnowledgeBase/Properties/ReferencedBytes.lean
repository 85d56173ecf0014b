import KnowledgeBase.Storage.ObjectGc

/-!
# Referenced bytes

A live row, or a digest promoted and not yet committed, has its bytes in the CAS or in the quarantine, as long as
no quarantined bytes are unlinked that a live row or a pending promotion of their digest still needs:
`referencedBytesKept`. Under that condition a reconciliation restores what a live row needs; without it the bytes
of a writer that found them in the CAS are lost: `referencedBytes_lost`.
-/

namespace KnowledgeBase

open ObjectState

/-! ### the property -/

/-- The bytes are in the CAS, or in a quarantine from which the next reconciliation restores them. -/
def ObjectState.BytesKept (s : ObjectState) (key : CasKey) : Prop :=
  key ∈ s.files.cas ∨ key ∈ s.files.quarantine ∧ key ∈ s.reconcileQuarantine.files.cas

/-- An unreleased reference to the row exists. -/
def ObjectState.IsReferenced (s : ObjectState) (o : Nat) : Prop :=
  ∃ r ref, s.references.get? r = some ref ∧ ref.storedObject = o ∧ ref.releasedAt = none

/-- Every row that is not tombstoned and has an unreleased reference still has its bytes. -/
def ObjectState.ReferencedBytesKept (s : ObjectState) : Prop :=
  ∀ o row, s.objects.get? o = some row → row.tombstonedAt = none → s.IsReferenced o → s.BytesKept row.key

/-! ### the condition -/

/-- A live row has the digest. -/
def ObjectState.IsCatalogued (s : ObjectState) (key : CasKey) : Prop :=
  ∃ o row, s.objects.get? o = some row ∧ row.key = key ∧ row.tombstonedAt = none

/-- A live row has the digest, or a writer has promoted it and not yet committed. -/
def ObjectState.IsNeeded (s : ObjectState) (key : CasKey) : Prop :=
  s.IsCatalogued key ∨ ∃ w, key ∈ s.writers w

/-- The quarantined bytes may go: the CAS has them too, or nobody needs them. -/
def ObjectState.MayUnlink (s : ObjectState) (key : CasKey) : Prop := key ∈ s.files.cas ∨ ¬ s.IsNeeded key

/-- A step that destroys quarantined bytes does so only when they may go. -/
def UnlinksSafely (s : ObjectState) : ObjectStep → Prop
  | .settle c => ∀ candidate, s.collectors c = .destroying candidate → s.MayUnlink candidate.key
  | .settleEntry q => ∀ key todo, s.reconcilers q = .destroying key todo → s.MayUnlink key
  | _ => True

/-! ### the catalogue -/

theorem isLiveAt_iff {key : CasKey} {row : StoredObject} :
    row.isLiveAt key = true ↔ row.key = key ∧ row.tombstonedAt = none := by
  simp [StoredObject.isLiveAt]

theorem isCatalogued_of_liveStoredObject? {s : ObjectState} {key : CasKey} {o : Nat}
    (h : s.liveStoredObject? key = some o) :
    ∃ row, s.objects.get? o = some row ∧ row.key = key ∧ row.tombstonedAt = none := by
  unfold liveStoredObject? at h
  obtain ⟨⟨o', row⟩, hr, ho⟩ := Option.map_eq_some_iff.1 h
  obtain ⟨hget, hlive⟩ := Table.mem_select.1 (List.mem_of_mem_head? hr)
  simp only at ho
  subst ho
  exact ⟨row, hget, isLiveAt_iff.1 hlive⟩

theorem liveStoredObject?_isSome_iff {s : ObjectState} {key : CasKey} :
    (s.liveStoredObject? key).isSome = true ↔ s.IsCatalogued key := by
  constructor
  · intro h
    obtain ⟨o, ho⟩ := Option.isSome_iff_exists.1 h
    obtain ⟨row, hrow⟩ := isCatalogued_of_liveStoredObject? ho
    exact ⟨o, row, hrow⟩
  · rintro ⟨o, row, hget, hlive⟩
    have hmem : (o, row) ∈ s.objects.select fun _ row => row.isLiveAt key :=
      Table.mem_select.2 ⟨hget, isLiveAt_iff.2 hlive⟩
    unfold liveStoredObject?
    rw [Option.isSome_map]
    cases hs : s.objects.select fun _ row => row.isLiveAt key with
    | nil =>
      rw [hs] at hmem
      cases hmem
    | cons a l => rfl

/-! ### an undisturbed reconciliation -/

theorem reconcileEntry_objects (s : ObjectState) (key : CasKey) : (s.reconcileEntry key).objects = s.objects := by
  unfold reconcileEntry
  split
  · rfl
  · split <;> rfl

theorem isCatalogued_reconcileEntry {s : ObjectState} {key k : CasKey} :
    (s.reconcileEntry k).IsCatalogued key ↔ s.IsCatalogued key := by
  unfold IsCatalogued
  rw [reconcileEntry_objects]

theorem mem_cas_reconcileEntry_of_mem {s : ObjectState} {key k : CasKey} (h : key ∈ s.files.cas) :
    key ∈ (s.reconcileEntry k).files.cas := by
  unfold reconcileEntry
  split
  · exact ObjectFiles.mem_cas_restoreQuarantined_of_mem h
  · split
    · exact h
    · exact h

theorem has_reconcileEntry {s : ObjectState} {key k : CasKey} (hc : s.IsCatalogued key) (h : s.files.Has key) :
    (s.reconcileEntry k).files.Has key := by
  by_cases hk : k = key
  · subst hk
    unfold reconcileEntry
    rw [if_pos (liveStoredObject?_isSome_iff.2 hc)]
    exact h.restoreQuarantined
  · unfold reconcileEntry
    split
    · exact h.restoreQuarantined
    · split
      · exact h.destroyQuarantined fun he => absurd he.symm hk
      · exact h

/-- Whatever the entries visited, the bytes of a live row end up in the CAS once its own entry is. -/
theorem mem_cas_reconcileEntries {key : CasKey} (l : List CasKey) {s : ObjectState} (hc : s.IsCatalogued key)
    (h : s.files.Has key) (hl : key ∈ s.files.cas ∨ key ∈ l) : key ∈ (l.foldl reconcileEntry s).files.cas := by
  induction l generalizing s with
  | nil => exact hl.resolve_right (by simp)
  | cons k l ih =>
    refine ih (isCatalogued_reconcileEntry.2 hc) (has_reconcileEntry hc h) ?_
    rcases hl with hl | hl
    · exact Or.inl (mem_cas_reconcileEntry_of_mem hl)
    · rcases List.mem_cons.1 hl with rfl | hl
      · left
        unfold reconcileEntry
        rw [if_pos (liveStoredObject?_isSome_iff.2 hc)]
        exact ObjectFiles.mem_cas_restoreQuarantined h
      · exact Or.inr hl

theorem bytesKept_of_has {s : ObjectState} {key : CasKey} (hc : s.IsCatalogued key) (h : s.files.Has key) :
    s.BytesKept key := by
  rcases h with h | h
  · exact Or.inl h
  · exact Or.inr ⟨h, mem_cas_reconcileEntries _ hc (Or.inr h) (Or.inr h)⟩

/-! ### the invariant -/

/-- Needed bytes exist. -/
def ObjectState.Sound (s : ObjectState) : Prop := ∀ key, s.IsNeeded key → s.files.Has key

theorem referencedBytesKept_of_sound {s : ObjectState} (h : s.Sound) : s.ReferencedBytesKept := by
  intro o row hget hlive _
  have hc : s.IsCatalogued row.key := ⟨o, row, hget, rfl, hlive⟩
  exact bytesKept_of_has hc (h _ (Or.inl hc))

theorem sound_empty : ObjectState.empty.Sound := by
  rintro key (⟨o, row, h, -⟩ | ⟨w, h⟩)
  · rw [show ObjectState.empty.objects = Table.empty from rfl, Table.get?_empty] at h
    cases h
  · cases h

theorem ObjectState.Sound.mono {s t : ObjectState} (h : s.Sound) (hn : ∀ key, t.IsNeeded key → s.IsNeeded key)
    (hf : ∀ key, s.IsNeeded key → s.files.Has key → t.files.Has key) : t.Sound :=
  fun key hk => hf key (hn key hk) (h key (hn key hk))

theorem isNeeded_congr {s t : ObjectState} (ho : t.objects = s.objects) (hw : t.writers = s.writers)
    (key : CasKey) : t.IsNeeded key ↔ s.IsNeeded key := by
  unfold IsNeeded IsCatalogued
  rw [ho, hw]

theorem isCatalogued_catalogStat {s : ObjectState} {key k : CasKey} {now : Nat} :
    (s.catalogStat k now).2.IsCatalogued key → s.IsCatalogued key ∨ key = k := by
  unfold catalogStat
  split
  · exact Or.inl
  · rintro ⟨o, row, hget, hkey, hlive⟩
    rcases Table.get?_insert_eq_some hget with ⟨-, rfl⟩ | h
    · exact Or.inr hkey.symm
    · exact Or.inl ⟨o, row, h, hkey, hlive⟩

theorem catalogAndReference_files (hold : Bool) (now : Nat) (s : ObjectState) (key : CasKey) :
    (s.catalogAndReference hold now key).files = s.files := by
  unfold catalogAndReference referenceObject catalogStat
  split <;> rfl

theorem catalogAndReference_writers (hold : Bool) (now : Nat) (s : ObjectState) (key : CasKey) :
    (s.catalogAndReference hold now key).writers = s.writers := by
  unfold catalogAndReference referenceObject catalogStat
  split <;> rfl

theorem catalogAndReferences_files (hold : Bool) (now : Nat) (l : List CasKey) (s : ObjectState) :
    (l.foldl (catalogAndReference hold now) s).files = s.files := by
  induction l generalizing s with
  | nil => rfl
  | cons k l ih => exact (ih _).trans (catalogAndReference_files hold now s k)

theorem catalogAndReferences_writers (hold : Bool) (now : Nat) (l : List CasKey) (s : ObjectState) :
    (l.foldl (catalogAndReference hold now) s).writers = s.writers := by
  induction l generalizing s with
  | nil => rfl
  | cons k l ih => exact (ih _).trans (catalogAndReference_writers hold now s k)

theorem isCatalogued_catalogAndReferences {hold : Bool} {now : Nat} {l : List CasKey} {s : ObjectState}
    {key : CasKey} (h : (l.foldl (catalogAndReference hold now) s).IsCatalogued key) :
    s.IsCatalogued key ∨ key ∈ l := by
  induction l generalizing s with
  | nil => exact Or.inl h
  | cons k l ih =>
    rcases ih h with h | h
    · have hk : (s.catalogStat k now).2.IsCatalogued key := h
      rcases isCatalogued_catalogStat hk with h | rfl
      · exact Or.inl h
      · exact Or.inr List.mem_cons_self
    · exact Or.inr (List.mem_cons_of_mem _ h)

theorem mem_update_of {w w' : Nat} {pending : List CasKey} {f : Nat → List CasKey} {key : CasKey}
    (h : key ∈ Function.update f w pending w') : key ∈ pending ∨ key ∈ f w' := by
  by_cases hw : w' = w
  · subst hw
    rw [Function.update_self] at h
    exact Or.inl h
  · rw [Function.update_of_ne hw] at h
    exact Or.inr h

theorem sound_promote {s : ObjectState} (h : s.Sound) (w : Nat) (key : CasKey) :
    ({ s with files := s.files.promoteStaging key }.setWriter w (key :: s.writers w)).Sound := by
  rintro k (hc | ⟨w', hw⟩)
  · exact (h k (Or.inl hc)).promoteStaging
  · rcases mem_update_of hw with hk | hk
    · rcases List.mem_cons.1 hk with rfl | hk
      · exact ObjectFiles.has_promoteStaging_self
      · exact (h k (Or.inr ⟨w, hk⟩)).promoteStaging
    · exact (h k (Or.inr ⟨w', hk⟩)).promoteStaging

theorem sound_commitOutcome {s : ObjectState} (h : s.Sound) (w : Nat) (hold : Bool) (now : Nat) :
    (((s.writers w).foldl (catalogAndReference hold now) s).setWriter w []).Sound := by
  refine h.mono (fun key hk => ?_) fun key _ hf => ?_
  · rcases hk with hc | ⟨w', hw⟩
    · rcases isCatalogued_catalogAndReferences hc with hc | hc
      · exact Or.inl hc
      · exact Or.inr ⟨w, hc⟩
    · rcases mem_update_of hw with hk | hk
      · cases hk
      · rw [catalogAndReferences_writers] at hk
        exact Or.inr ⟨w', hk⟩
  · show (List.foldl _ s _).files.Has key
    rw [catalogAndReferences_files]
    exact hf

theorem isCatalogued_tombstone {s : ObjectState} {candidate : ObjectGcCandidate} {now : Nat} {key : CasKey}
    (h : (s.tombstone candidate now).IsCatalogued key) : s.IsCatalogued key := by
  obtain ⟨o, row, hget, hkey, hlive⟩ := h
  have hmod : (s.objects.modify candidate.storedObject fun row => { row with tombstonedAt := some now }).get? o
    = some row := hget
  by_cases ho : o = candidate.storedObject
  · subst ho
    rw [Table.get?_modify_self] at hmod
    obtain ⟨old, -, rfl⟩ := Option.map_eq_some_iff.1 hmod
    cases hlive
  · rw [Table.get?_modify_of_ne ho] at hmod
    exact ⟨o, row, hmod, hkey, hlive⟩

theorem sound_of_files {s t : ObjectState} (h : s.Sound) (ho : t.objects = s.objects) (hw : t.writers = s.writers)
    (hf : ∀ key, s.IsNeeded key → s.files.Has key → t.files.Has key) : t.Sound :=
  h.mono (fun key hk => (isNeeded_congr ho hw key).1 hk) hf

theorem has_destroyQuarantined_of_mayUnlink {s : ObjectState} {key k : CasKey} (h : s.MayUnlink key)
    (hk : s.IsNeeded k) (hf : s.files.Has k) : (s.files.destroyQuarantined key).Has k := by
  refine hf.destroyQuarantined fun he => ?_
  subst he
  exact h.resolve_right fun hn => hn hk

theorem sound_objectStep (grace : Nat) (s : ObjectState) (o : ObjectStep) (h : s.Sound) (ho : UnlinksSafely s o) :
    (objectStep grace s o).Sound := by
  have same {t : ObjectState} (h1 : t.objects = s.objects) (h2 : t.writers = s.writers)
      (h3 : t.files = s.files) : t.Sound := sound_of_files h h1 h2 fun _ _ hf => h3 ▸ hf
  cases o with
  | promote w key => exact sound_promote h w key
  | commitOutcome w hold now => exact sound_commitOutcome h w hold now
  | abandon w =>
    refine h.mono (fun key hk => ?_) fun _ _ hf => hf
    rcases hk with hc | ⟨w', hw⟩
    · exact Or.inl hc
    · rcases mem_update_of hw with hk | hk
      · cases hk
      · exact Or.inr ⟨w', hk⟩
  | reference o hold =>
    simp only [objectStep]
    split
    · split
      · exact same rfl rfl rfl
      · exact h
    · exact h
  | release r now => exact same rfl rfl rfl
  | openFence f => exact same rfl rfl rfl
  | closeFence i => exact same rfl rfl rfl
  | deleteCandidate c candidate now =>
    simp only [objectStep]
    split
    · split
      · exact same rfl rfl rfl
      · exact h
    · exact h
  | quarantine c =>
    simp only [objectStep]
    split
    · rename_i candidate _
      unfold quarantineCandidate
      have hq : ∀ key, s.files.Has key → (s.files.quarantineObject candidate.key).2.Has key :=
        fun key hf => hf.quarantineObject
      split
      · rename_i files hfiles
        rw [hfiles] at hq
        exact sound_of_files h rfl rfl fun key _ hf => hq key hf
      · exact same rfl rfl rfl
    · exact h
  | recheck c now =>
    simp only [objectStep]
    split
    · unfold recheckCandidate
      split
      · refine h.mono (fun key hk => ?_) fun _ _ hf => hf
        rcases hk with hc | hw
        · exact Or.inl (isCatalogued_tombstone hc)
        · exact Or.inr hw
      · exact same rfl rfl rfl
    · exact h
  | settle c =>
    simp only [objectStep]
    split
    · exact sound_of_files h rfl rfl fun _ _ hf => hf.restoreQuarantined
    · rename_i candidate hc
      exact sound_of_files h rfl rfl fun _ hk hf => has_destroyQuarantined_of_mayUnlink (ho candidate hc) hk hf
    · exact h
  | stopCollector c => exact same rfl rfl rfl
  | listQuarantined q =>
    simp only [objectStep]
    split
    · exact same rfl rfl rfl
    · exact h
  | checkCatalogue q =>
    simp only [objectStep]
    split
    · split
      · exact same rfl rfl rfl
      · exact same rfl rfl rfl
    · exact same rfl rfl rfl
    · exact h
  | checkTombstone q =>
    simp only [objectStep]
    split
    · split
      · exact same rfl rfl rfl
      · exact same rfl rfl rfl
    · exact h
  | settleEntry q =>
    simp only [objectStep]
    split
    · exact sound_of_files h rfl rfl fun _ _ hf => hf.restoreQuarantined
    · rename_i key todo hq
      exact sound_of_files h rfl rfl fun _ hk hf => has_destroyQuarantined_of_mayUnlink (ho key todo hq) hk hf
    · exact h
  | stopReconciler q => exact same rfl rfl rfl

/-! ### what an unsafe unlink loses -/

/-- A live row of the digest has an unreleased reference. -/
def ObjectState.IsHeld (s : ObjectState) (key : CasKey) : Prop :=
  ∃ o row, s.objects.get? o = some row ∧ row.key = key ∧ row.tombstonedAt = none ∧ s.IsReferenced o

theorem isReferenced_referenceObject_self (s : ObjectState) (o : Nat) (hold : Bool) :
    (s.referenceObject o hold).IsReferenced o :=
  ⟨s.references.next, ⟨o, hold, none⟩, Table.get?_insert_self _ _, rfl, rfl⟩

theorem isReferenced_referenceObject {s : ObjectState} {o : Nat} (h : s.IsReferenced o) (o' : Nat) (hold : Bool) :
    (s.referenceObject o' hold).IsReferenced o := by
  obtain ⟨r, ref, hget, hrest⟩ := h
  exact ⟨r, ref, (Table.get?_insert_of_lt (Table.lt_next hget)).trans hget, hrest⟩

theorem isHeld_catalogAndReference_self (hold : Bool) (now : Nat) (s : ObjectState) (key : CasKey) :
    (s.catalogAndReference hold now key).IsHeld key := by
  unfold catalogAndReference
  cases hl : s.liveStoredObject? key with
  | none =>
    have hcat : s.catalogStat key now = (s.objects.next, { s with objects := s.objects.insert ⟨key, now, none⟩ }) := by
      unfold catalogStat
      rw [hl]
    rw [hcat]
    exact ⟨s.objects.next, ⟨key, now, none⟩, Table.get?_insert_self _ _, rfl, rfl,
      isReferenced_referenceObject_self _ _ _⟩
  | some o =>
    have hcat : s.catalogStat key now = (o, s) := by
      unfold catalogStat
      rw [hl]
    rw [hcat]
    obtain ⟨row, hget, hkey, hlive⟩ := isCatalogued_of_liveStoredObject? hl
    exact ⟨o, row, hget, hkey, hlive, isReferenced_referenceObject_self _ _ _⟩

theorem isHeld_catalogAndReference {s : ObjectState} {key : CasKey} (h : s.IsHeld key) (hold : Bool) (now : Nat)
    (k : CasKey) : (s.catalogAndReference hold now k).IsHeld key := by
  obtain ⟨o, row, hget, hkey, hlive, href⟩ := h
  unfold catalogAndReference catalogStat
  split
  · exact ⟨o, row, hget, hkey, hlive, isReferenced_referenceObject href _ _⟩
  · exact ⟨o, row, (Table.get?_insert_of_lt (Table.lt_next hget)).trans hget, hkey, hlive,
      isReferenced_referenceObject href _ _⟩

theorem isHeld_catalogAndReferences {hold : Bool} {now : Nat} {key : CasKey} {l : List CasKey} {s : ObjectState}
    (h : s.IsHeld key ∨ key ∈ l) : (l.foldl (catalogAndReference hold now) s).IsHeld key := by
  induction l generalizing s with
  | nil => exact h.resolve_right (by simp)
  | cons k l ih =>
    rcases h with h | h
    · exact ih (Or.inl (isHeld_catalogAndReference h hold now k))
    · rcases List.mem_cons.1 h with rfl | h
      · exact ih (Or.inl (isHeld_catalogAndReference_self hold now s key))
      · exact ih (Or.inr h)

theorem not_referencedBytesKept {s : ObjectState} {key : CasKey} (hheld : s.IsHeld key) (hf : ¬ s.files.Has key) :
    ¬ s.ReferencedBytesKept := by
  intro h
  obtain ⟨o, row, hget, rfl, hlive, href⟩ := hheld
  rcases h o row hget hlive href with h | h
  · exact hf (Or.inl h)
  · exact hf (Or.inr h.1)

/-- Where needed bytes are gone, a reference to the row, or the outcome of the writer, misses them. -/
theorem lost_of_isNeeded (grace : Nat) {s : ObjectState} {key : CasKey} (hn : s.IsNeeded key)
    (hf : ¬ s.files.Has key) : ∃ o, ¬ (objectStep grace s o).ReferencedBytesKept := by
  rcases hn with ⟨o, row, hget, hkey, hlive⟩ | ⟨w, hw⟩
  · refine ⟨.reference o false, ?_⟩
    have hstep : objectStep grace s (.reference o false) = s.referenceObject o false := by
      simp [objectStep, hget, hlive]
    rw [hstep]
    exact not_referencedBytesKept ⟨o, row, hget, hkey, hlive, isReferenced_referenceObject_self _ _ _⟩ hf
  · refine ⟨.commitOutcome w false 0, @not_referencedBytesKept _ key ?_ ?_⟩
    · exact isHeld_catalogAndReferences (Or.inr hw)
    · show ¬ (List.foldl _ s _).files.Has key
      rw [catalogAndReferences_files]
      exact hf

theorem not_mayUnlink {s : ObjectState} {key : CasKey} (h : ¬ s.MayUnlink key) :
    s.IsNeeded key ∧ ¬ (s.files.destroyQuarantined key).Has key := by
  unfold MayUnlink at h
  rw [not_or, not_not] at h
  exact ⟨h.2, ObjectFiles.not_has_destroyQuarantined h.1⟩

theorem exists_lost_of_not_unlinksSafely (grace : Nat) {s : ObjectState} {o : ObjectStep}
    (h : ¬ UnlinksSafely s o) :
    ∃ key, (objectStep grace s o).IsNeeded key ∧ ¬ (objectStep grace s o).files.Has key := by
  cases o with
  | settle c =>
    unfold UnlinksSafely at h
    push Not at h
    obtain ⟨candidate, hc, hu⟩ := h
    have hstep : objectStep grace s (.settle c) =
        { s with files := s.files.destroyQuarantined candidate.key }.setCollector c .idle := by
      simp only [objectStep, hc]
    rw [hstep]
    obtain ⟨hn, hf⟩ := not_mayUnlink hu
    exact ⟨candidate.key, (isNeeded_congr rfl rfl _).2 hn, hf⟩
  | settleEntry q =>
    unfold UnlinksSafely at h
    push Not at h
    obtain ⟨key, todo, hq, hu⟩ := h
    have hstep : objectStep grace s (.settleEntry q) =
        { s with files := s.files.destroyQuarantined key }.setReconciler q (.listed todo) := by
      simp only [objectStep, hq]
    rw [hstep]
    obtain ⟨hn, hf⟩ := not_mayUnlink hu
    exact ⟨key, (isNeeded_congr rfl rfl _).2 hn, hf⟩
  | _ => exact absurd trivial h

/-! ### the runs -/

/-- In a run that unlinks safely every referenced live row keeps its bytes in every state, and a step that unlinks
otherwise is one further step away from a row whose bytes are gone. -/
theorem referencedBytesKept (grace : Nat) (l : List ObjectStep)
    (hl : StepsMeet (objectStep grace) UnlinksSafely .empty l) :
    (runFrom (objectStep grace) .empty l).ReferencedBytesKept ∧
      ∀ o, ¬ UnlinksSafely (runFrom (objectStep grace) .empty l) o →
        ∃ o', ¬ (runFrom (objectStep grace) .empty (l ++ [o, o'])).ReferencedBytesKept := by
  constructor
  · exact referencedBytesKept_of_sound (runFrom_invariant (sound_objectStep grace) sound_empty hl)
  · intro o ho
    obtain ⟨key, hn, hf⟩ := exists_lost_of_not_unlinksSafely grace ho
    obtain ⟨o', h⟩ := lost_of_isNeeded grace hn hf
    refine ⟨o', ?_⟩
    rw [runFrom_append]
    exact h

/-- One object, written and released. -/
def releasedObject : List ObjectStep :=
  [.promote 0 ⟨0, 0⟩, .commitOutcome 0 false 0, .release 0 1]

/-- The collection of the object. -/
def collectReleased : List ObjectStep :=
  [.deleteCandidate 0 ⟨0, ⟨0, 0⟩, 0, 1⟩ 2, .quarantine 0, .recheck 0 2, .settle 0]

/-- Another object, written and kept, before the collection. -/
def keptBeside : List ObjectStep := releasedObject ++ [.promote 1 ⟨0, 1⟩, .commitOutcome 1 false 1] ++ collectReleased

/-- A collection that no writer disturbs, beside an object that stays referenced. -/
theorem referencedBytesKept_collected :
    let s := runFrom (objectStep 1) .empty keptBeside
    StepsMeet (objectStep 1) UnlinksSafely .empty keptBeside ∧ s.ReferencedBytesKept ∧
      (s.objects.get? 0).map StoredObject.tombstonedAt = some (some 2) ∧
      (s.objects.get? 1).map StoredObject.tombstonedAt = some none ∧ s.BytesKept ⟨0, 1⟩ := by
  have hl : StepsMeet (objectStep 1) UnlinksSafely .empty keptBeside := by
    refine ⟨trivial, trivial, trivial, trivial, trivial, trivial, trivial, trivial, ?_, trivial⟩
    intro candidate hc
    obtain rfl : ⟨0, ⟨0, 0⟩, 0, 1⟩ = candidate := Collector.destroying.inj hc
    refine Or.inr ?_
    rintro (⟨o, row, hget, hkey, hlive⟩ | ⟨w, hw⟩)
    · match o with
      | 0 =>
        obtain rfl : ⟨⟨0, 0⟩, 0, some 2⟩ = row := Option.some.inj hget
        cases hlive
      | 1 =>
        obtain rfl : ⟨⟨0, 1⟩, 1, none⟩ = row := Option.some.inj hget
        exact absurd hkey (by decide)
      | o + 2 => cases hget
    · match w with
      | 0 => cases hw
      | 1 => cases hw
      | w + 2 => cases hw
  have hkept := (referencedBytesKept 1 _ hl).1
  exact ⟨hl, hkept, rfl, rfl, hkept 1 ⟨⟨0, 1⟩, 1, none⟩ rfl rfl ⟨1, ⟨1, false, none⟩, rfl, rfl, rfl⟩⟩

/-- A writer that finds the bytes, and commits after their collection. -/
theorem referencedBytes_lost :
    ¬ ∀ l : List ObjectStep, (runFrom (objectStep 1) .empty l).ReferencedBytesKept := by
  intro h
  have hlost := h (releasedObject ++ [.promote 1 ⟨0, 0⟩] ++ collectReleased ++ [.commitOutcome 1 false 3])
    1 ⟨⟨0, 0⟩, 3, none⟩ rfl rfl ⟨1, ⟨1, false, none⟩, rfl, rfl, rfl⟩
  rcases hlost with h | h
  · exact absurd h (by decide)
  · exact absurd h.1 (by decide)

end KnowledgeBase
