import KnowledgeBase.Generation.Handoff
import KnowledgeBase.Library.Relation

/-!
# What the generation stages leave

A later store that retains the objects, the rows and the pointers of a store lets every read and every member check
through that the first one let through. The members of a stage are read back from their receipts, and the outcome
transaction enters every asset and makes it current.
-/

namespace KnowledgeBase

variable {β : Type}

/-- The objects and the rows of a store are still there, and so are the pointers of the Executions and types in `P`. -/
structure GenerationStore.Retains (w later : GenerationStore β) (team : Text) (P : Text → ArtifactType → Prop) :
    Prop where
  objects : ∀ d data, w.objects team d = some data → later.objects team d = some data
  artifacts : ∀ u row, w.artifacts u = some row → later.artifacts u = some row
  pointers : ∀ e t, P e t → later.pointers team e t = w.pointers team e t

namespace GenerationStore.Retains

variable {w later : GenerationStore β} {team : Text} {P Q : Text → ArtifactType → Prop}

theorem mono (h : w.Retains later team P) (hQ : ∀ e t, Q e t → P e t) : w.Retains later team Q :=
  ⟨h.objects, h.artifacts, fun e t hq => h.pointers e t (hQ e t hq)⟩

theorem trans {last : GenerationStore β} (h : w.Retains later team P) (h' : later.Retains last team P) :
    w.Retains last team P :=
  ⟨fun d data hd => h'.objects d data (h.objects d data hd),
    fun u row hu => h'.artifacts u row (h.artifacts u row hu),
    fun e t hp => (h'.pointers e t hp).trans (h.pointers e t hp)⟩

theorem artifactOf (h : w.Retains later team P) {u : Text} {t : ArtifactType} {row : GenerationArtifact}
    (hrow : w.artifactOf team u t = some row) : later.artifactOf team u t = some row := by
  unfold GenerationStore.artifactOf at hrow ⊢
  rw [Option.filter_eq_some_iff] at hrow ⊢
  exact ⟨h.artifacts u row hrow.1, hrow.2⟩

theorem any_artifactOf (h : w.Retains later team P) {u : Text} {t : ArtifactType} {p : GenerationArtifact → Bool}
    (hp : (w.artifactOf team u t).any p = true) : (later.artifactOf team u t).any p = true := by
  rw [Option.any_eq_true] at hp ⊢
  obtain ⟨row, hrow, hp⟩ := hp
  exact ⟨row, h.artifactOf hrow, hp⟩

end GenerationStore.Retains

section Mono

variable (K : GenerationPlatform β) {w later : GenerationStore β} {c : ProcessCommand}
  {P : Text → ArtifactType → Prop}

open Checked

theorem readVerified_mono (h : w.Retains later c.team P) (handle : ObjectHandle) :
    Refines (w.readVerified K c.team handle) (later.readVerified K c.team handle) := by
  unfold GenerationStore.readVerified
  refine (Refines.refl _).bind fun _ => ?_
  exact (Refines.required (h.objects handle.digest)).bind fun _ => Refines.refl _

theorem readFrozen_mono (h : w.Retains later c.team P) (r : MemberReceipt) (errorCode : String) :
    Refines (readFrozenGenerationAsset K w c r errorCode) (readFrozenGenerationAsset K later c r errorCode) := by
  unfold readFrozenGenerationAsset
  refine (Refines.refl _).bind fun _ => (Refines.refl _).bind fun handle => (Refines.refl _).bind fun _ =>
    (Refines.refl _).bind fun _ => ?_
  exact (readVerified_mono K h handle).bind fun _ => Refines.refl _

theorem assertMember_mono (h : w.Retains later c.team P) (errorCode : String) {t : ArtifactType}
    (hP : P c.execution t) (r : MemberReceipt) :
    Refines (assertGenerationMember w c errorCode t r) (assertGenerationMember later c errorCode t r) := by
  unfold assertGenerationMember
  refine (Refines.refl _).bind fun u => (Refines.refl _).bind fun handle => (Refines.refl _).bind fun digest =>
    (Refines.refl _).bind fun size => ?_
  refine (Refines.failIf fun hrow => ?_).bind fun _ => Refines.failIf fun hpointer => ?_
  · rw [Bool.not_eq_false'] at hrow ⊢
    exact h.any_artifactOf hrow
  · rw [h.pointers _ _ hP]
    exact hpointer

theorem assertMembers_mono (h : w.Retains later c.team P) (s : ConstructState) {members : List ArtifactType}
    (hP : ∀ t ∈ members, P c.execution t) (errorCode : String) :
    Refines (assertGenerationMembers w c s members errorCode) (assertGenerationMembers later c s members errorCode) :=
  Refines.checkEach fun t ht => assertMember_mono h errorCode (hP t ht) _

variable [DecidableEq β]

theorem reconstructStructure_mono (h : w.Retains later c.team P) (s : ConstructState)
    (hP : ∀ t ∈ structureGenerationMembers, P c.execution t) :
    Refines (reconstructStructureContract K w c s) (reconstructStructureContract K later c s) := by
  unfold reconstructStructureContract
  refine (Refines.refl _).bind fun _ => (Refines.refl _).bind fun _ => (Refines.refl _).bind fun _ =>
    (Refines.refl _).bind fun _ => (Refines.refl _).bind fun _ => (Refines.refl _).bind fun _ =>
    (Refines.refl _).bind fun _ => ?_
  refine (readFrozen_mono K h _ _).bind fun _ => (readFrozen_mono K h _ _).bind fun _ =>
    (Refines.refl _).bind fun _ => (Refines.refl _).bind fun _ => ?_
  exact (assertMembers_mono h s hP _).bind fun _ => Refines.refl _

omit [DecidableEq β] in
theorem assertSourceMember_mono (h : w.Retains later c.team P) {source : MetadataRefreshSource} {e : Text}
    (he : source.sourceExecution = some e) (target : RefreshTarget) {t : ArtifactType} (hP : P e t) :
    Refines (assertSourceMember w c source target t) (assertSourceMember later c source target t) := by
  unfold assertSourceMember
  refine (Refines.refl _).bind fun receipt => (Refines.failIf fun hrow => ?_).bind fun _ =>
    Refines.failIf fun hpointer => ?_
  · rw [Bool.not_eq_false', Option.any_eq_true] at hrow ⊢
    obtain ⟨row, hrow, hmatch⟩ := hrow
    obtain ⟨u, hu, hrow⟩ := Option.bind_eq_some_iff.1 hrow
    exact ⟨row, Option.bind_eq_some_iff.2 ⟨u, hu, h.artifactOf hrow⟩, hmatch⟩
  · rw [he, Option.bind_some, h.pointers _ _ hP]
    rwa [he, Option.bind_some] at hpointer

omit [DecidableEq β] in
theorem sourceState_eq_ok {s : ConstructState} {source : MetadataRefreshSource}
    (h : metadataRefreshSourceState s = .ok source) :
    s.metadataRefreshSource = some source ∧ ∃ e, source.sourceExecution = some e := by
  unfold metadataRefreshSourceState at h
  simp only [bind_ok_iff, required_ok_iff, failIf_ok_iff, pure_ok_iff] at h
  obtain ⟨source', hs, _, -, _, hpresent, _, -, _, -, hsource⟩ := h
  subst hsource
  refine ⟨hs, ?_⟩
  rw [List.any_cons, Bool.or_eq_false_iff] at hpresent
  have hexecution : isPresent source'.sourceExecution = true := by simpa using hpresent.1
  obtain ⟨e, he, -⟩ := Option.any_eq_true _ _ |>.1 hexecution
  exact ⟨e, he⟩

omit [DecidableEq β] in
theorem assertSource_mono (h : w.Retains later c.team P) (s : ConstructState)
    (hP : ∀ source e, s.metadataRefreshSource = some source → source.sourceExecution = some e → ∀ t, P e t) :
    Refines (assertMetadataRefreshSource w c s) (assertMetadataRefreshSource later c s) := by
  intro result hresult
  unfold assertMetadataRefreshSource at hresult ⊢
  simp only [bind_ok_iff] at hresult ⊢
  obtain ⟨source, hsource, target, htarget, clean, hclean, u, hbinds, v, heach, hdone⟩ := hresult
  refine ⟨source, hsource, target, htarget, clean, hclean, u, hbinds, v, ?_, hdone⟩
  obtain ⟨hs, e, he⟩ := sourceState_eq_ok hsource
  exact Refines.checkEach (fun t _ => assertSourceMember_mono h he target (hP source e hs he t)) v heach

omit [DecidableEq β] in
theorem readMember_mono (h : w.Retains later c.team P) (source : MetadataRefreshSource) (t : ArtifactType) :
    Refines (readMetadataRefreshMember K w c source t) (readMetadataRefreshMember K later c source t) := by
  unfold readMetadataRefreshMember
  exact (Refines.refl _).bind fun _ => (readFrozen_mono K h _ _).bind fun _ => Refines.refl _

theorem reconstructRefresh_mono (h : w.Retains later c.team P) (s : ConstructState)
    (hP : ∀ source e, s.metadataRefreshSource = some source → source.sourceExecution = some e → ∀ t, P e t) :
    Refines (reconstructMetadataRefreshContract K w c s) (reconstructMetadataRefreshContract K later c s) := by
  unfold reconstructMetadataRefreshContract
  refine (assertSource_mono h s hP).bind fun source => (Refines.refl _).bind fun _ => (Refines.refl _).bind fun _ => ?_
  refine (readMember_mono K h source _).bind fun _ => (readMember_mono K h source _).bind fun _ =>
    (Refines.refl _).bind fun _ => ?_
  refine (readMember_mono K h source _).bind fun _ => (Refines.refl _).bind fun _ => ?_
  refine (readMember_mono K h source _).bind fun _ => (readMember_mono K h source _).bind fun _ =>
    (readMember_mono K h source _).bind fun _ => Refines.refl _

end Mono

/-! ### promoted members -/

section Members

variable (K : GenerationPlatform β) {w w' : GenerationStore β} {c : ProcessCommand}

open Checked

/-- The bytes of a member. -/
def memberBytes (m : Text × ArtifactType × Json.Dict) : β := K.canonicalJson (.obj m.2.2)

/-- The asset of a member: its handle is the digest of its bytes. -/
def memberAsset (c : ProcessCommand) (m : Text × ArtifactType × Json.Dict) : GenerationAsset :=
  ⟨m.1, m.2.1, ⟨⟨c.team, K.sha256 (memberBytes K m)⟩, K.sha256 (memberBytes K m), K.byteSize (memberBytes K m)⟩⟩

theorem GenerationStore.Retains.rfl {team : Text} {P : Text → ArtifactType → Prop} : w.Retains w team P :=
  ⟨fun _ _ h => h, fun _ _ h => h, fun _ _ _ => Eq.refl _⟩

theorem promote_eq_ok {team : Text} {data : β} {stat : ObjectStat} (h : w.promote K team data = .ok (stat, w')) :
    stat = ⟨⟨team, K.sha256 data⟩, K.sha256 data, K.byteSize data⟩ ∧ w.Retains w' team fun _ _ => True := by
  unfold GenerationStore.promote at h
  simp only at h
  split at h
  · obtain ⟨_, -, h⟩ := bind_ok_iff.1 h
    obtain ⟨hstat, hw⟩ := Prod.mk.inj (pure_ok_iff.1 h)
    rw [← hstat, ← hw]
    exact ⟨rfl, .rfl⟩
  · rename_i hnone
    obtain ⟨hstat, hw⟩ := Prod.mk.inj (Except.ok.inj h)
    rw [← hstat, ← hw]
    refine ⟨rfl, fun d data' hd => ?_, fun _ _ hu => hu, fun _ _ _ => rfl⟩
    unfold GenerationStore.writeObject
    simp only
    rw [if_neg]
    · exact hd
    · rintro ⟨-, rfl⟩
      rw [hnone] at hd
      cases hd

theorem promoteMembers_eq_ok {members : List (Text × ArtifactType × Json.Dict)} {assets : List GenerationAsset}
    (h : promoteMembers K c w members = .ok (assets, w')) :
    assets = members.map (memberAsset K c) ∧ (∀ m ∈ members, declaresUuid (.obj m.2.2) m.1 = true) ∧
      w.Retains w' c.team fun _ _ => True := by
  induction members generalizing w assets with
  | nil =>
    obtain ⟨hassets, hw⟩ := Prod.mk.inj (Except.ok.inj h)
    rw [← hassets, ← hw]
    exact ⟨rfl, fun m hm => absurd hm List.not_mem_nil, .rfl⟩
  | cons member members ih =>
    unfold promoteMembers promoteGenerationMember at h
    simp only [bind_ok_iff, failIf_ok_iff, pure_ok_iff] at h
    obtain ⟨_, ⟨_, hdeclares, ⟨stat, between⟩, hpromote, rfl⟩, ⟨rest, last⟩, hrest, hdone⟩ := h
    obtain ⟨rfl, hfirst⟩ := promote_eq_ok K hpromote
    obtain ⟨hassets, hw⟩ := Prod.mk.inj hdone
    simp only at hassets hw
    subst hw
    obtain ⟨hmembers, hall, hlater⟩ := ih hrest
    subst hmembers hassets
    refine ⟨rfl, fun m hm => ?_, hfirst.trans hlater⟩
    rcases List.mem_cons.1 hm with rfl | hm
    · simpa using hdeclares
    · exact hall m hm

/-! ### the outcome transaction -/

theorem enterAssets_eq_ok {s : ConstructState} {assets : List GenerationAsset} (team : Text)
    (h : foldEach (fun w a => GenerationStore.insertGenerationArtifact w a.artifactUuid (assetRow c s a)) w assets
      = .ok w') :
    (∀ a ∈ assets, w'.artifacts a.artifactUuid = some (assetRow c s a)) ∧ w.Retains w' team fun _ _ => True := by
  have hinsert : ∀ (v v' : GenerationStore β) (a : GenerationAsset),
      v.insertGenerationArtifact a.artifactUuid (assetRow c s a) = .ok v' →
      v.artifacts a.artifactUuid = none ∧
        v' = { v with artifacts := fun u => if u = a.artifactUuid then some (assetRow c s a) else v.artifacts u } := by
    intro v v' a hv
    unfold GenerationStore.insertGenerationArtifact at hv
    simp only [bind_ok_iff, failIf_ok_iff, pure_ok_iff] at hv
    obtain ⟨_, hnone, rfl⟩ := hv
    exact ⟨by simpa using hnone, rfl⟩
  have hretain : ∀ (v v' : GenerationStore β) (a : GenerationAsset),
      v.insertGenerationArtifact a.artifactUuid (assetRow c s a) = .ok v' → v.Retains v' team fun _ _ => True := by
    intro v v' a hv
    obtain ⟨hnone, rfl⟩ := hinsert v v' a hv
    refine ⟨fun _ _ hd => hd, fun u row hu => ?_, fun _ _ _ => rfl⟩
    simp only
    rw [if_neg]
    · exact hu
    · rintro rfl
      rw [hnone] at hu
      cases hu
  constructor
  · refine foldEach_reaches (P := fun _ => True)
      (R := fun a (v : GenerationStore β) => v.artifacts a.artifactUuid = some (assetRow c s a)) ?_ ?_ trivial h
    · intro v v' a _ _ hv
      obtain ⟨-, rfl⟩ := hinsert v v' a hv
      exact ⟨trivial, if_pos rfl⟩
    · exact fun v v' a b _ _ ha hv => (hretain v v' b hv).artifacts _ _ ha
  · exact foldEach_preserves (P := fun v => w.Retains v team fun _ _ => True)
      (fun v v' a _ hv ha => hv.trans (hretain v v' a ha)) .rfl h

/-- The pointers of a list of assets, advanced one after the other. -/
def advancePointers (c : ProcessCommand) (w : GenerationStore β) (assets : List GenerationAsset) : GenerationStore β :=
  assets.foldl (fun w a => w.advanceGenerationPointer c a.artifactType a.artifactUuid) w

theorem advancePointers_objects (assets : List GenerationAsset) :
    (advancePointers c w assets).objects = w.objects ∧ (advancePointers c w assets).artifacts = w.artifacts := by
  induction assets generalizing w with
  | nil => exact ⟨rfl, rfl⟩
  | cons a assets ih => exact ih (w := w.advanceGenerationPointer c a.artifactType a.artifactUuid)

theorem pointers_of_not_mem {assets : List GenerationAsset} {team e : Text} {t : ArtifactType}
    (h : e ≠ c.execution ∨ t ∉ assets.map GenerationAsset.artifactType) :
    (advancePointers c w assets).pointers team e t = w.pointers team e t := by
  induction assets generalizing w with
  | nil => rfl
  | cons a assets ih =>
    rw [List.map_cons, List.mem_cons, not_or] at h
    have hrest : e ≠ c.execution ∨ t ∉ assets.map GenerationAsset.artifactType := h.imp_right And.right
    refine (ih (w := w.advanceGenerationPointer c a.artifactType a.artifactUuid) hrest).trans ?_
    unfold GenerationStore.advanceGenerationPointer
    simp only
    rw [if_neg]
    rintro ⟨-, he, ht⟩
    rcases h with h | h
    · exact h he
    · exact h.1 ht

theorem pointers_of_mem {assets : List GenerationAsset} (hnodup : (assets.map GenerationAsset.artifactType).Nodup)
    {a : GenerationAsset} (ha : a ∈ assets) :
    (advancePointers c w assets).pointers c.team c.execution a.artifactType = some a.artifactUuid := by
  induction assets generalizing w with
  | nil => cases ha
  | cons b assets ih =>
    rw [List.map_cons, List.nodup_cons] at hnodup
    rcases List.mem_cons.1 ha with rfl | ha
    · refine (pointers_of_not_mem (w := w.advanceGenerationPointer c a.artifactType a.artifactUuid)
        (Or.inr hnodup.1)).trans ?_
      exact if_pos ⟨rfl, rfl, rfl⟩
    · exact ih (w := w.advanceGenerationPointer c b.artifactType b.artifactUuid) hnodup.2 ha

/-- The outcome transaction enters every asset and makes it current; objects, earlier rows, the pointers of other
Executions and those of other types stay. -/
theorem acceptAssets_eq_ok {s : ConstructState} {assets : List GenerationAsset}
    (hnodup : (assets.map GenerationAsset.artifactType).Nodup) (h : acceptAssets w c s assets = .ok w') :
    (∀ a ∈ assets, w'.artifacts a.artifactUuid = some (assetRow c s a) ∧
      w'.pointers c.team c.execution a.artifactType = some a.artifactUuid) ∧
    w.Retains w' c.team fun e t => e ≠ c.execution ∨ t ∉ assets.map GenerationAsset.artifactType := by
  unfold acceptAssets at h
  obtain ⟨entered, hentered, h⟩ := bind_ok_iff.1 h
  obtain rfl : advancePointers c entered assets = w' := pure_ok_iff.1 h
  obtain ⟨hrows, hretains⟩ := enterAssets_eq_ok c.team hentered
  obtain ⟨hobjects, hartifacts⟩ := advancePointers_objects (w := entered) (c := c) assets
  refine ⟨fun a ha => ⟨?_, pointers_of_mem hnodup ha⟩, fun d data hd => ?_, fun u row hu => ?_, fun e t ht => ?_⟩
  · rw [hartifacts]
    exact hrows a ha
  · rw [hobjects]
    exact hretains.objects d data hd
  · rw [hartifacts]
    exact hretains.artifacts u row hu
  · exact (pointers_of_not_mem ht).trans (hretains.pointers e t trivial)

/-! ### receipts -/

theorem withReceipts_of_not_mem {receipts : ArtifactType → MemberReceipt} {assets : List GenerationAsset}
    {t : ArtifactType} (h : t ∉ assets.map GenerationAsset.artifactType) : withReceipts receipts assets t = receipts t := by
  unfold withReceipts
  rw [List.find?_eq_none.2]
  intro a ha heq
  exact h (List.mem_map.2 ⟨a, ha, beq_iff_eq.1 heq⟩)

theorem withReceipts_of_mem {receipts : ArtifactType → MemberReceipt} {assets : List GenerationAsset}
    (hnodup : (assets.map GenerationAsset.artifactType).Nodup) {a : GenerationAsset} (ha : a ∈ assets) :
    withReceipts receipts assets a.artifactType = a.receipt := by
  unfold withReceipts
  have hfind : assets.find? (fun b => b.artifactType == a.artifactType) = some a :=
    Relational.find?_of_unique hnodup ha (by simp) fun b _ hb => beq_iff_eq.1 hb
  rw [hfind]

theorem generationStateText_some {t : Text} (h : t.isEmpty = false) (errorCode key : String) :
    generationStateText (some t) errorCode key = .ok t := by
  unfold generationStateText
  rw [required_ok_iff, Option.filter_eq_some_iff]
  exact ⟨rfl, by simp [h]⟩

theorem generationSize_some (n : Nat) (errorCode message : String) :
    generationSize (some (n : Int)) errorCode message = .ok (n : Int) := by
  unfold generationSize
  rw [required_ok_iff, Option.filter_eq_some_iff]
  exact ⟨rfl, by simp⟩

theorem readFrozen_member (hinv : K.Inverts) (hsha : ∀ b, (K.sha256 b).isEmpty = false)
    {m : Text × ArtifactType × Json.Dict} (hsorted : (Json.obj m.2.2).Sorted)
    (hdeclares : declaresUuid (.obj m.2.2) m.1 = true) (hm : m.1.isEmpty = false)
    (hobject : w.objects c.team (K.sha256 (memberBytes K m)) = some (memberBytes K m)) (errorCode : String) :
    readFrozenGenerationAsset K w c (memberAsset K c m).receipt errorCode = .ok (memberBytes K m) := by
  have hread : w.readVerified K c.team (memberAsset K c m).stat.handle = .ok (memberBytes K m) := by
    unfold GenerationStore.readVerified
    simp only [bind_ok_iff, failIf_ok_iff, required_ok_iff, pure_ok_iff]
    exact ⟨(), by simp [memberAsset], _, hobject, (), by simp [memberAsset], rfl⟩
  unfold readFrozenGenerationAsset
  simp only [bind_ok_iff, failIf_ok_iff, required_ok_iff, pure_ok_iff]
  refine ⟨m.1, generationStateText_some hm _ _, _, rfl, _, generationStateText_some (hsha _) _ _, _,
    generationSize_some _ _ _, _, hread, (), by simp [memberAsset], _, hinv _ hsorted, (), by simp [hdeclares], rfl⟩

theorem assertMember_asset (hsha : ∀ b, (K.sha256 b).isEmpty = false) {s : ConstructState}
    {m : Text × ArtifactType × Json.Dict} (hm : m.1.isEmpty = false)
    (hrow : w.artifacts m.1 = some (assetRow c s (memberAsset K c m)))
    (hpointer : w.pointers c.team c.execution m.2.1 = some m.1) (errorCode : String) :
    assertGenerationMember w c errorCode m.2.1 (memberAsset K c m).receipt = .ok () := by
  have hartifact : w.artifactOf c.team m.1 m.2.1 = some (assetRow c s (memberAsset K c m)) := by
    unfold GenerationStore.artifactOf
    rw [Option.filter_eq_some_iff]
    exact ⟨hrow, by simp [assetRow, memberAsset]⟩
  unfold assertGenerationMember
  simp only [bind_ok_iff, failIf_ok_iff, required_ok_iff]
  refine ⟨m.1, generationStateText_some hm _ _, _, rfl, _, generationStateText_some (hsha _) _ _, _,
    generationSize_some _ _ _, (), ?_, ?_⟩
  · rw [hartifact]
    simp [memberRowMatches, assetRow, memberAsset]
  · simp [hpointer]

end Members

end KnowledgeBase
