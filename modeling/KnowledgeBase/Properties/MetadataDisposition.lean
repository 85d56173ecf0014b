import KnowledgeBase.Serving.Semantics
import Mathlib.Data.List.DropRight

/-!
# The disposition of a metadata update

Admission calls an update a no-change one if it submits the values that are stored; acquisition and acceptance if the
merge leaves the fingerprint as it is, after deriving the blobs again. `metadataDisposition_exact`: the two agree
exactly if a submitted value differs, or the context blob of the base is the one that would be derived.
-/

namespace KnowledgeBase

open Checked

variable {casefold : Text → Text} {base merged : RevisionSemantics} {m : MetadataSubmission}

/-! ### stripped texts -/

theorem stripText_eq (t : Text) : stripText t = (t.dropWhile Text.isSpace).rdropWhile Text.isSpace := rfl

theorem stripText_stripText (t : Text) : stripText (stripText t) = stripText t := by
  have hkept : (stripText t).dropWhile Text.isSpace = stripText t := by
    rw [List.dropWhile_eq_self_iff]
    intro hl
    obtain ⟨rest, hrest⟩ := List.rdropWhile_prefix Text.isSpace (l := t.dropWhile Text.isSpace)
    rw [← stripText_eq] at hrest
    have hlong : 0 < (t.dropWhile Text.isSpace).length := by
      rw [← hrest, List.length_append]
      omega
    have hfirst := List.dropWhile_get_zero_not Text.isSpace t hlong
    have hsame : (t.dropWhile Text.isSpace)[0] = (stripText t)[0] := by
      rw [List.getElem_of_eq hrest.symm, List.getElem_append_left hl]
    simpa [hsame] using hfirst
  rw [stripText_eq (stripText t), hkept, stripText_eq]
  exact List.rdropWhile_idempotent Text.isSpace _

theorem length_stripText_le (t : Text) : (stripText t).length ≤ t.length := by
  have hright := (List.rdropWhile_prefix Text.isSpace (l := t.dropWhile Text.isSpace)).length_le
  have hleft := (List.dropWhile_suffix Text.isSpace (l := t)).length_le
  rw [stripText_eq]
  omega

/-! ### the filter blob -/

theorem filterField_again {n : Nat} {t u : Text} (h : filterField casefold n t = some u) :
    filterField casefold n u = some u := by
  unfold filterField at h
  split at h
  · rename_i hvalid
    obtain ⟨-, hmax, hne, hknown⟩ := hvalid
    obtain rfl := Option.some.inj h
    have hpos := List.length_pos_of_ne_nil hne
    have hle := length_stripText_le t
    unfold filterField
    rw [stripText_stripText, if_pos ⟨by omega, by omega, hne, hknown⟩]
  · cases h

theorem filterMeta_eq_some_iff {realm type channel sourceName : Text} {isActive : Int} {filter : FilterMeta} :
    filterMeta casefold realm type channel sourceName isActive = some filter ↔
      filterField casefold 256 realm = some filter.realm ∧ filterField casefold 256 type = some filter.type ∧
        filterField casefold 256 channel = some filter.channel ∧
        filterField casefold 512 sourceName = some filter.sourceName ∧
        (isActive = 0 ∨ isActive = 1) ∧ filter.isActive = isActive := by
  unfold filterMeta
  simp only [Option.bind_eq_bind, Option.bind_eq_some_iff]
  constructor
  · rintro ⟨r, hr, t, ht, c, hc, n, hn, h⟩
    split at h
    · rename_i hactive
      obtain rfl := Option.some.inj h
      exact ⟨hr, ht, hc, hn, hactive, rfl⟩
    · cases h
  · rintro ⟨hr, ht, hc, hn, hactive, rfl⟩
    exact ⟨_, hr, _, ht, _, hc, _, hn, if_pos hactive⟩

theorem filterMeta_again {realm type channel sourceName : Text} {isActive : Int} {filter : FilterMeta}
    (h : filterMeta casefold realm type channel sourceName isActive = some filter) :
    filterMeta casefold filter.realm filter.type filter.channel filter.sourceName filter.isActive = some filter := by
  rw [filterMeta_eq_some_iff] at h ⊢
  obtain ⟨hr, ht, hc, hn, hactive, hsame⟩ := h
  exact ⟨filterField_again hr, filterField_again ht, filterField_again hc, filterField_again hn, hsame ▸ hactive, rfl⟩

/-! ### accepted semantics -/

/-- The semantics of a Revision: those of its acceptance, or a merge on those of the one before. -/
inductive AcceptedSemantics (casefold : Text → Text) : RevisionSemantics → Prop
  | initial {sourceKind cleanDigest realm type channel sourceName : Text} {isActive : Int} {context : ContextMeta}
      {s : RevisionSemantics}
      (h : initialSemantics casefold sourceKind cleanDigest realm type channel sourceName isActive context = .ok s) :
      AcceptedSemantics casefold s
  | update {base s : RevisionSemantics} {m : MetadataSubmission} (hbase : AcceptedSemantics casefold base)
      (h : mergedMetadataSemantics casefold base m = .ok s) : AcceptedSemantics casefold s

theorem cohereMetadataBlobs_eq_ok_iff {s t : RevisionSemantics} : cohereMetadataBlobs casefold s = .ok t ↔
    ∃ filter, filterMeta casefold s.realm s.type s.channel s.sourceName s.isActive = some filter ∧
      (derivedContext filter s.contextMetadata s.contextTags).isValid = true ∧
      t = { s with filterMetadata := filter, contextMetadata := derivedContext filter s.contextMetadata s.contextTags } := by
  unfold cohereMetadataBlobs
  simp only [bind_ok_iff, required_ok_iff, failIf_ok_iff, pure_ok_iff, Bool.not_eq_false']
  constructor
  · rintro ⟨filter, hfilter, _, hvalid, rfl⟩
    exact ⟨filter, hfilter, hvalid, rfl⟩
  · rintro ⟨filter, hfilter, hvalid, rfl⟩
    exact ⟨filter, hfilter, (), hvalid, rfl⟩

theorem AcceptedSemantics.blobs (h : AcceptedSemantics casefold base) :
    filterMeta casefold base.realm base.type base.channel base.sourceName base.isActive = some base.filterMetadata ∧
      base.contextMetadata.isValid = true := by
  cases h with
  | initial h =>
    unfold initialSemantics at h
    simp only [bind_ok_iff, required_ok_iff, failIf_ok_iff, pure_ok_iff, Bool.not_eq_false'] at h
    obtain ⟨filter, hfilter, _, hvalid, rfl⟩ := h
    exact ⟨filterMeta_again hfilter, hvalid⟩
  | update hbase h =>
    obtain ⟨filter, hfilter, hvalid, rfl⟩ := cohereMetadataBlobs_eq_ok_iff.1 h
    exact ⟨hfilter, hvalid⟩

/-- The context blob is the one that would be derived: the values of the filter, a title that is not blank, and the
lines of the stored tags. -/
def ContextInStep (base : RevisionSemantics) : Prop :=
  base.contextMetadata.realm = base.filterMetadata.realm ∧ base.contextMetadata.type = base.filterMetadata.type ∧
    base.contextMetadata.channel = base.filterMetadata.channel ∧
    base.contextMetadata.sourceName = base.filterMetadata.sourceName ∧
    base.contextMetadata.title.isBlank = false ∧ base.contextMetadata.tags = splitLines base.contextTags

theorem filterField_notBlank {n : Nat} {t u : Text} (h : filterField casefold n t = some u) : u.isBlank = false := by
  unfold filterField at h
  split at h
  · rename_i hvalid
    obtain rfl := Option.some.inj h
    rw [Bool.eq_false_iff]
    intro hblank
    have hstrip : stripText (stripText t) = [] := by
      rw [stripText_eq (stripText t)]
      have hdrop : (stripText t).dropWhile Text.isSpace = [] :=
        List.dropWhile_eq_nil_iff.2 (List.all_eq_true.1 hblank)
      rw [hdrop]
      rfl
    rw [stripText_stripText] at hstrip
    exact hvalid.2.2.1 hstrip
  · cases h

theorem derivedContext_eq_iff (hfilter : filterMeta casefold base.realm base.type base.channel base.sourceName
    base.isActive = some base.filterMetadata) :
    derivedContext base.filterMetadata base.contextMetadata base.contextTags = base.contextMetadata ↔
      ContextInStep base := by
  have hname : base.filterMetadata.sourceName.isBlank = false :=
    filterField_notBlank (filterMeta_eq_some_iff.1 hfilter).2.2.2.1
  have htitle : keptTitle base.contextMetadata base.filterMetadata.sourceName = base.contextMetadata.title ↔
      base.contextMetadata.title.isBlank = false := by
    unfold keptTitle
    split
    · rename_i hblank
      rw [hblank]
      constructor
      · intro heq
        rw [heq, hblank] at hname
        exact hname
      · intro hno
        cases hno
    · rename_i hfull
      exact ⟨fun _ => Bool.eq_false_iff.2 hfull, fun _ => rfl⟩
  have hext {c d : ContextMeta} : c = d ↔ c.realm = d.realm ∧ c.type = d.type ∧ c.channel = d.channel ∧
      c.sourceName = d.sourceName ∧ c.title = d.title ∧ c.tags = d.tags := by
    cases c
    cases d
    simp
  unfold ContextInStep
  rw [hext]
  unfold derivedContext
  simp only [htitle]
  constructor
  · rintro ⟨hr, ht, hc, hn, hblank, htags⟩
    exact ⟨hr.symm, ht.symm, hc.symm, hn.symm, hblank, htags.symm⟩
  · rintro ⟨hr, ht, hc, hn, hblank, htags⟩
    exact ⟨hr.symm, ht.symm, hc.symm, hn.symm, hblank, htags.symm⟩

theorem cohereMetadataBlobs_self_iff (h : AcceptedSemantics casefold base) :
    cohereMetadataBlobs casefold base = .ok base ↔ ContextInStep base := by
  obtain ⟨hfilter, hvalid⟩ := h.blobs
  rw [← derivedContext_eq_iff hfilter, cohereMetadataBlobs_eq_ok_iff]
  constructor
  · rintro ⟨filter, hother, -, heq⟩
    obtain rfl := Option.some.inj (hfilter.symm.trans hother)
    exact (congrArg RevisionSemantics.contextMetadata heq).symm
  · intro heq
    refine ⟨base.filterMetadata, hfilter, ?_, ?_⟩
    · rw [heq]
      exact hvalid
    · rw [heq]

/-! ### the two dispositions -/

/-- The merge succeeds and leaves the fingerprint as it is. -/
def MergeFindsEqual (casefold : Text → Text) (base : RevisionSemantics) (m : MetadataSubmission) : Prop :=
  ∃ merged, mergedMetadataSemantics casefold base m = .ok merged ∧ merged.fingerprint = base.fingerprint

/-- Every submitted value is in the merge, and one that differs from the stored value changes the fingerprint. -/
def NothingDropped (casefold : Text → Text) (base : RevisionSemantics) (m : MetadataSubmission) : Prop :=
  ∀ merged, mergedMetadataSemantics casefold base m = .ok merged → ∀ v ∈ m.values,
    merged.value v.1 = .text v.2 ∧ (base.value v.1 ≠ .text v.2 → merged.fingerprint ≠ base.fingerprint)

/-- Some submitted value is not the stored one. -/
def SubmitsChange (base : RevisionSemantics) (m : MetadataSubmission) : Prop :=
  ∃ v ∈ m.values, base.value v.1 ≠ .text v.2

theorem metadataDisposition_eq_noChange_iff : metadataDisposition base m = .noChange ↔ ¬ SubmitsChange base m := by
  unfold metadataDisposition SubmitsChange
  split
  · rename_i hall
    simp only [List.all_eq_true, beq_iff_eq] at hall
    simp only [true_iff, not_exists, not_and, not_not]
    exact hall
  · rename_i hsome
    simp only [List.all_eq_true, beq_iff_eq, not_forall] at hsome
    obtain ⟨v, hv, hne⟩ := hsome
    simp only [reduceCtorEq, false_iff, not_not]
    exact ⟨v, hv, hne⟩

theorem mem_values_iff {v : SemanticKey × Text} : v ∈ m.values ↔
    v.1 = .channel ∧ m.channel = some v.2 ∨ v.1 = .contextTags ∧ m.contextTags = some v.2 ∨
      v.1 = .realm ∧ m.realm = some v.2 ∨ v.1 = .sourceName ∧ m.sourceName = some v.2 ∨
      v.1 = .type ∧ m.type = some v.2 := by
  have hfield {key : SemanticKey} {o : Option Text} :
      v ∈ (o.map fun t => (key, t)).toList ↔ v.1 = key ∧ o = some v.2 := by
    obtain ⟨k, t⟩ := v
    cases o with
    | none => simp
    | some u => simp [eq_comm]
  unfold MetadataSubmission.values
  simp only [List.mem_append, hfield, or_assoc]

theorem replace_eq_iff : m.replace base = base ↔ ¬ SubmitsChange base m := by
  unfold SubmitsChange
  simp only [not_exists, not_and, not_not]
  constructor
  · intro h v hv
    have hvalue : (m.replace base).value v.1 = .text v.2 := by
      rcases mem_values_iff.1 hv with ⟨hk, ho⟩ | ⟨hk, ho⟩ | ⟨hk, ho⟩ | ⟨hk, ho⟩ | ⟨hk, ho⟩ <;>
        simp [hk, RevisionSemantics.value, MetadataSubmission.replace, ho]
    rw [h] at hvalue
    exact hvalue
  · intro h
    have hkept {o : Option Text} {t : Text} (key : SemanticKey) (hmem : ∀ u, o = some u → (key, u) ∈ m.values)
        (hvalue : base.value key = .text t) : o.getD t = t := by
      cases o with
      | none => rfl
      | some u =>
        have hu := h (key, u) (hmem u rfl)
        rw [hvalue] at hu
        exact (SemanticValue.text.inj hu).symm
    unfold MetadataSubmission.replace
    rw [hkept .channel (fun u hu => mem_values_iff.2 (by simp [hu])) rfl,
      hkept .contextTags (fun u hu => mem_values_iff.2 (by simp [hu])) rfl,
      hkept .realm (fun u hu => mem_values_iff.2 (by simp [hu])) rfl,
      hkept .sourceName (fun u hu => mem_values_iff.2 (by simp [hu])) rfl,
      hkept .type (fun u hu => mem_values_iff.2 (by simp [hu])) rfl]

theorem value_merged (h : mergedMetadataSemantics casefold base m = .ok merged) {v : SemanticKey × Text}
    (hv : v ∈ m.values) : merged.value v.1 = .text v.2 := by
  obtain ⟨filter, -, -, rfl⟩ := cohereMetadataBlobs_eq_ok_iff.1 h
  rcases mem_values_iff.1 hv with ⟨hk, ho⟩ | ⟨hk, ho⟩ | ⟨hk, ho⟩ | ⟨hk, ho⟩ | ⟨hk, ho⟩ <;>
    simp [hk, RevisionSemantics.value, MetadataSubmission.replace, ho]

theorem nothingDropped (casefold : Text → Text) (base : RevisionSemantics) (m : MetadataSubmission) :
    NothingDropped casefold base m := by
  intro merged h v hv
  have hvalue := value_merged h hv
  refine ⟨hvalue, fun hne heq => hne ?_⟩
  rw [← RevisionSemantics.fingerprint_injective heq]
  exact hvalue

/-- The merge finds the fingerprint unchanged exactly if nothing is changed and the context blob is in step. -/
theorem mergeFindsEqual_iff (hbase : AcceptedSemantics casefold base) :
    MergeFindsEqual casefold base m ↔ ¬ SubmitsChange base m ∧ ContextInStep base := by
  rw [← cohereMetadataBlobs_self_iff hbase, ← replace_eq_iff]
  constructor
  · rintro ⟨merged, h, hfingerprint⟩
    obtain rfl := RevisionSemantics.fingerprint_injective hfingerprint
    have hsame : m.replace merged = merged := by
      rw [replace_eq_iff]
      rintro ⟨v, hv, hne⟩
      exact hne (value_merged h hv)
    refine ⟨hsame, ?_⟩
    unfold mergedMetadataSemantics at h
    rw [hsame] at h
    exact h
  · rintro ⟨hsame, h⟩
    refine ⟨base, ?_, rfl⟩
    unfold mergedMetadataSemantics
    rw [hsame]
    exact h

/-- Admission and the later stages agree on every accepted base and submission exactly if a submitted value differs
from the stored one or the context blob of the base is in step. -/
theorem metadataDisposition_exact (casefold : Text → Text) (base : RevisionSemantics) (m : MetadataSubmission)
    (hbase : AcceptedSemantics casefold base) :
    ((metadataDisposition base m = .noChange ↔ MergeFindsEqual casefold base m) ∧ NothingDropped casefold base m) ↔
      SubmitsChange base m ∨ ContextInStep base := by
  rw [metadataDisposition_eq_noChange_iff, mergeFindsEqual_iff hbase]
  constructor
  · rintro ⟨hagree, -⟩
    by_cases hchange : SubmitsChange base m
    · exact Or.inl hchange
    · exact Or.inr (hagree.1 hchange).2
  · intro hcond
    refine ⟨⟨fun hsame => ⟨hsame, ?_⟩, And.left⟩, nothingDropped casefold base m⟩
    rcases hcond with hchange | hstep
    · exact absurd hchange hsame
    · exact hstep

/-! ### a tag of two lines -/

/-- An accepted document with the tags. -/
def taggedSemantics (tags : List Text) : RevisionSemantics where
  sourceRepresentation := "inline_payload".toList
  canonicalContent := "c".toList
  contextMetadata := ⟨"r".toList, "t".toList, "c".toList, "s".toList, "s".toList, tags⟩
  filterMetadata := ⟨"r".toList, "t".toList, "c".toList, "s".toList, 1⟩
  realm := "r".toList
  type := "t".toList
  channel := "c".toList
  sourceName := "s".toList
  isActive := 1
  contextTags := ['\n'].intercalate tags

theorem accepted_taggedSemantics {tags : List Text}
    (h : (⟨"r".toList, "t".toList, "c".toList, "s".toList, "s".toList, tags⟩ : ContextMeta).isValid = true) :
    AcceptedSemantics id (taggedSemantics tags) := by
  refine @AcceptedSemantics.initial id "inline_payload".toList "c".toList "r".toList "t".toList "c".toList "s".toList 1
    ⟨"r".toList, "t".toList, "c".toList, "s".toList, "s".toList, tags⟩ _ ?_
  unfold initialSemantics
  simp only [bind_ok_iff, required_ok_iff, failIf_ok_iff, pure_ok_iff, Bool.not_eq_false']
  exact ⟨⟨"r".toList, "t".toList, "c".toList, "s".toList, 1⟩, by decide, (), h, rfl⟩

/-- The stored realm, submitted again. -/
def sameRealm : MetadataSubmission := ⟨none, none, some "r".toList, none, none⟩

/-- With tags of one line each the dispositions agree. -/
theorem metadataDisposition_plainTags :
    (metadataDisposition (taggedSemantics ["a".toList, "b".toList]) sameRealm = .noChange ↔
      MergeFindsEqual id (taggedSemantics ["a".toList, "b".toList]) sameRealm) ∧
    NothingDropped id (taggedSemantics ["a".toList, "b".toList]) sameRealm :=
  (metadataDisposition_exact id _ sameRealm (accepted_taggedSemantics (by decide))).2
    (Or.inr ⟨rfl, rfl, rfl, rfl, by decide, by decide⟩)

/-- A tag of two lines is read back as two tags: admission finds no change where the merge finds one. -/
theorem metadataDisposition_splitTag :
    AcceptedSemantics id (taggedSemantics ["a\nb".toList]) ∧
    metadataDisposition (taggedSemantics ["a\nb".toList]) sameRealm = .noChange ∧
    ¬ MergeFindsEqual id (taggedSemantics ["a\nb".toList]) sameRealm := by
  refine ⟨accepted_taggedSemantics (by decide), by decide, ?_⟩
  rw [mergeFindsEqual_iff (accepted_taggedSemantics (by decide))]
  rintro ⟨-, -, -, -, -, -, htags⟩
  revert htags
  decide

end KnowledgeBase
