import KnowledgeBase.Generation.Handoff
import KnowledgeBase.Properties.MetadataDisposition
import KnowledgeBase.Serving.Authority

/-!
# The round trip of tags and blobs

The tags of an admitted authority are joined by line feeds at acceptance and split into lines again in two places, and
the blobs are derived again at an update. `tagsRoundTrip_iff`: all of it gives back what was admitted exactly if no tag
has a line end and the title is not blank.
-/

namespace KnowledgeBase

open Checked

/-! ### lines -/

/-- The text has no line end. -/
def IsLine (t : Text) : Prop := ∀ c ∈ t, isLineEnd c = false

theorem isLine_of_all {tags : List Text} (h : (tags.all fun t => t.all fun c => !isLineEnd c) = true) :
    ∀ t ∈ tags, IsLine t := by
  intro t ht c hc
  have hchar := List.all_eq_true.1 (List.all_eq_true.1 h t ht) c hc
  rwa [Bool.not_eq_true'] at hchar

theorem splitLinesFrom_cons {c : Char} (h : isLineEnd c = false) (line rest : Text) :
    splitLinesFrom line (c :: rest) = splitLinesFrom (line ++ [c]) rest := by
  rw [splitLinesFrom.eq_3, if_neg (by rw [h]; exact Bool.false_ne_true)]
  rintro rest' rfl -
  exact absurd h (by decide)

theorem splitLinesFrom_feed (line rest : Text) : splitLinesFrom line ('\n' :: rest) = line :: splitLinesFrom [] rest := by
  rw [splitLinesFrom.eq_3 line '\n' rest (fun _ h _ => absurd h (by decide)), if_pos (by decide)]

theorem splitLinesFrom_append {t : Text} (h : IsLine t) (line rest : Text) :
    splitLinesFrom line (t ++ rest) = splitLinesFrom (line ++ t) rest := by
  -- no character of `t` ends the line, so all of them are read into it
  induction t generalizing line with
  | nil => rw [List.append_nil, List.nil_append]
  | cons c t ih =>
    rw [List.cons_append, splitLinesFrom_cons (h c List.mem_cons_self), ih fun d hd => h d (List.mem_cons_of_mem _ hd),
      List.append_assoc, List.singleton_append]

theorem splitLines_intercalate {tags : List Text} (hne : ∀ t ∈ tags, t ≠ []) (h : ∀ t ∈ tags, IsLine t) :
    splitLines (['\n'].intercalate tags) = tags := by
  unfold splitLines
  -- the separator ends each line, and the last line is not empty
  induction tags with
  | nil => rfl
  | cons t tags ih =>
    have hline := h t List.mem_cons_self
    cases tags with
    | nil =>
      have hone : ['\n'].intercalate [t] = t ++ [] := by simp [List.intercalate]
      rw [hone, splitLinesFrom_append hline, List.nil_append, splitLinesFrom,
        if_neg (by rw [List.isEmpty_iff]; exact hne t List.mem_cons_self)]
    | cons u tags =>
      have hmore : ['\n'].intercalate (t :: u :: tags) = t ++ '\n' :: ['\n'].intercalate (u :: tags) := by
        simp [List.intercalate]
      rw [hmore, splitLinesFrom_append hline, List.nil_append, splitLinesFrom_feed,
        ih (fun v hv => hne v (List.mem_cons_of_mem _ hv)) fun v hv => h v (List.mem_cons_of_mem _ hv)]

theorem isLine_of_mem_splitLines {line t l : Text} (hline : IsLine line) (h : l ∈ splitLinesFrom line t) : IsLine l := by
  induction line, t using splitLinesFrom.induct with
  | case1 line hempty =>
    rw [splitLinesFrom, if_pos hempty] at h
    cases h
  | case2 line hfull =>
    rw [splitLinesFrom, if_neg hfull, List.mem_singleton] at h
    rw [h]
    exact hline
  | case3 line rest ih =>
    rw [splitLinesFrom] at h
    rcases List.mem_cons.1 h with rfl | h
    · exact hline
    · exact ih (fun _ hc => nomatch hc) h
  | case4 line c rest hcr hend ih =>
    rw [splitLinesFrom.eq_3 line c rest hcr, if_pos hend] at h
    rcases List.mem_cons.1 h with rfl | h
    · exact hline
    · exact ih (fun _ hc => nomatch hc) h
  | case5 line c rest hcr hend ih =>
    rw [splitLinesFrom.eq_3 line c rest hcr, if_neg hend] at h
    refine ih (fun d hd => ?_) h
    rcases List.mem_append.1 hd with hd | hd
    · exact hline d hd
    · rw [List.mem_singleton.1 hd]
      exact Bool.eq_false_iff.2 hend

/-- Non-empty tags come back exactly if none has a line end. -/
theorem splitLines_intercalate_iff {tags : List Text} (hne : ∀ t ∈ tags, t ≠ []) :
    splitLines (['\n'].intercalate tags) = tags ↔ ∀ t ∈ tags, IsLine t := by
  refine ⟨fun h t ht => ?_, splitLines_intercalate hne⟩
  have hnil : IsLine [] := fun _ hc => nomatch hc
  rw [← h] at ht
  exact isLine_of_mem_splitLines hnil ht

theorem text_splitLinesFrom (line t : Text) : Text.splitLinesFrom line t = splitLinesFrom line t := by
  induction line, t using splitLinesFrom.induct with
  | case1 line hempty => rw [Text.splitLinesFrom, splitLinesFrom]
  | case2 line hfull => rw [Text.splitLinesFrom, splitLinesFrom]
  | case3 line rest ih => rw [Text.splitLinesFrom, splitLinesFrom, ih]
  | case4 line c rest hcr hend ih =>
    rw [Text.splitLinesFrom.eq_3 line c rest hcr, splitLinesFrom.eq_3 line c rest hcr, if_pos hend,
      if_pos (show Text.isLineBreak c = true from hend), ih]
  | case5 line c rest hcr hend ih =>
    rw [Text.splitLinesFrom.eq_3 line c rest hcr, splitLinesFrom.eq_3 line c rest hcr, if_neg hend,
      if_neg (show ¬Text.isLineBreak c = true from hend), ih]

/-! ### admitted authorities -/

variable {casefold : Text → Text} {a : SemanticAuthority}

/-- What every admitted authority has: a valid filter, a valid context that repeats it, and no empty tag. -/
structure CoherentAuthority (casefold : Text → Text) (a : SemanticAuthority) : Prop where
  filter : filterMeta casefold a.filter.realm a.filter.type a.filter.channel a.filter.sourceName a.filter.isActive =
    some a.filter
  context : a.context.isValid = true
  realm : a.context.realm = a.filter.realm
  type : a.context.type = a.filter.type
  channel : a.context.channel = a.filter.channel
  sourceName : a.context.sourceName = a.filter.sourceName
  tags : ∀ t ∈ a.context.tags, t ≠ []

theorem coherent_build {realm type channel sourceName : Text} {isActive : Int} {title : FilterMeta → Text}
    {tags : List Text} (h : buildAuthority casefold realm type channel sourceName isActive title tags = some a)
    (htags : ∀ t ∈ tags, t ≠ []) : CoherentAuthority casefold a := by
  unfold buildAuthority at h
  obtain ⟨filter, hfilter, h⟩ := Option.bind_eq_some_iff.1 h
  simp only at h
  split at h
  · rename_i hvalid
    obtain rfl := Option.some.inj h
    exact ⟨filterMeta_again hfilter, hvalid, rfl, rfl, rfl, rfl, htags⟩
  · cases h

theorem ne_nil_of_truthy {value : Option Text} {t : Text} (h : t ∈ (truthy value).toList) : t ≠ [] := by
  rw [Option.mem_toList] at h
  have := (Option.filter_eq_some_iff.1 h).2
  rintro rfl
  cases this

theorem ne_nil_of_labelled {label : String} {value : Option Text} {t : Text} (h : t ∈ labelled label value) :
    t ≠ [] := by
  unfold labelled at h
  rw [Option.mem_toList] at h
  obtain ⟨v, -, rfl⟩ := Option.map_eq_some_iff.1 h
  simp

theorem ne_nil_of_counted {value : Option ProviderNumber} {suffix : String} {t : Text} (h : t ∈ counted value suffix) :
    t ≠ [] := by
  unfold counted at h
  rw [Option.mem_toList] at h
  obtain ⟨v, -, rfl⟩ := Option.map_eq_some_iff.1 h
  simp

theorem requiredText_ne_nil {value : Option Text} {t : Text} (h : requiredText casefold value = some t) : t ≠ [] := by
  have hopt := (Option.filter_eq_some_iff.1 h).1
  have := (Option.filter_eq_some_iff.1 hopt).2
  rintro rfl
  cases this

theorem stripText_cons_ne_nil {c : Char} (hc : Text.isSpace c = false) (t : Text) : stripText (c :: t) ≠ [] := by
  intro h
  rw [stripText_eq, List.dropWhile_cons_of_neg (by rw [hc]; exact Bool.false_ne_true), List.rdropWhile_eq_nil_iff] at h
  have := h c List.mem_cons_self
  rw [hc] at this
  cases this

theorem coherent_of_admitted (h : AdmittedAuthority casefold a) : CoherentAuthority casefold a := by
  cases h with
  | @request raw d a hd h =>
    refine coherent_build h ?_
    unfold admitDescriptor at hd
    simp only [Option.bind_eq_bind, Option.bind_eq_some_iff] at hd
    obtain ⟨realm, -, type, -, channel, -, sourceName, -, tags, htags, hd⟩ := hd
    obtain rfl := Option.some.inj hd
    unfold normalizeContextTags at htags
    split at htags
    · rename_i hvalid
      obtain rfl := Option.some.inj htags
      intro t ht hnil
      have := List.all_eq_true.1 hvalid.2.2 t ht
      rw [hnil] at this
      cases this
    · cases htags
  | chinatax h =>
    unfold parseChinatax at h
    simp only [Option.bind_eq_bind, Option.bind_eq_some_iff] at h
    obtain ⟨type, -, channel, -, h⟩ := h
    refine coherent_build h fun t ht => ?_
    simp only [List.mem_append] at ht
    rcases ht with ((ht | ht) | ht) | ht
    all_goals exact ne_nil_of_labelled ht
  | domain h =>
    unfold parseDomain at h
    simp only [Option.bind_eq_bind, Option.bind_eq_some_iff] at h
    obtain ⟨-, -, saleMode, -, -, -, channel, hchannel, h⟩ := h
    refine coherent_build h fun t ht => ?_
    simp only [List.mem_append, List.mem_singleton] at ht
    rcases ht with (((((ht | ht) | ht) | ht) | ht) | ht) | rfl
    · exact ne_nil_of_truthy ht
    · exact ne_nil_of_truthy ht
    · exact ne_nil_of_truthy ht
    · exact ne_nil_of_counted ht
    · exact ne_nil_of_counted ht
    · exact ne_nil_of_counted ht
    · exact requiredText_ne_nil hchannel
  | realestate h =>
    unfold parseRealestate at h
    simp only [Option.bind_eq_bind, Option.bind_eq_some_iff] at h
    obtain ⟨-, -, -, -, h⟩ := h
    refine coherent_build h fun t ht => ?_
    simp only [List.mem_append] at ht
    rcases ht with (((((ht | ht) | ht) | ht) | ht) | ht) | ht
    · exact ne_nil_of_labelled ht
    · exact ne_nil_of_labelled ht
    · exact ne_nil_of_labelled ht
    · exact ne_nil_of_labelled ht
    · rw [Option.mem_toList] at ht
      obtain ⟨size, -, rfl⟩ := Option.map_eq_some_iff.1 ht
      exact stripText_cons_ne_nil (by decide) _
    · exact ne_nil_of_labelled ht
    · exact ne_nil_of_labelled ht

/-! ### revisions -/

/-- The Revisions that updates make of one. -/
inductive RevisionFrom (casefold : Text → Text) (s : RevisionSemantics) : RevisionSemantics → Prop
  | accepted : RevisionFrom casefold s s
  | update {base r : RevisionSemantics} {m : MetadataSubmission} (hbase : RevisionFrom casefold s base)
      (h : mergedMetadataSemantics casefold base m = .ok r) : RevisionFrom casefold s r

/-- What is stored gives back what was admitted: the tags in both readers, the blobs of every later Revision, and the
fingerprint at a submission of the stored values. -/
structure RoundTrips (casefold : Text → Text) (tags : List Text) (s : RevisionSemantics) : Prop where
  updateTags : splitLines s.contextTags = tags
  constructTags : Text.splitLinesFrom [] s.contextTags = tags
  blobs (r : RevisionSemantics) : RevisionFrom casefold s r → cohereMetadataBlobs casefold r = .ok r
  fingerprint (r : RevisionSemantics) (m : MetadataSubmission) : RevisionFrom casefold s r → ¬SubmitsChange r m →
    MergeFindsEqual casefold r m

variable {s : RevisionSemantics} {sourceKind cleanDigest : Text}

theorem initialSemantics_eq (ha : CoherentAuthority casefold a)
    (hs : initialSemantics casefold sourceKind cleanDigest a.filter.realm a.filter.type a.filter.channel
      a.filter.sourceName a.filter.isActive a.context = .ok s) :
    s.contextMetadata = a.context ∧ s.filterMetadata = a.filter ∧ s.contextTags = ['\n'].intercalate a.context.tags := by
  unfold initialSemantics at hs
  simp only [bind_ok_iff, required_ok_iff, failIf_ok_iff, pure_ok_iff] at hs
  obtain ⟨filter, hfilter, -, -, rfl⟩ := hs
  obtain rfl := Option.some.inj (ha.filter.symm.trans hfilter)
  exact ⟨rfl, rfl, rfl⟩

theorem keptTitle_notBlank {prior : ContextMeta} {sourceName : Text} (h : sourceName.isBlank = false) :
    (keptTitle prior sourceName).isBlank = false := by
  unfold keptTitle
  split
  · exact h
  · rename_i hfull
    exact Bool.eq_false_iff.2 hfull

theorem contextInStep_merged {base r : RevisionSemantics} {m : MetadataSubmission}
    (h : mergedMetadataSemantics casefold base m = .ok r) : ContextInStep r := by
  obtain ⟨filter, hfilter, -, rfl⟩ := cohereMetadataBlobs_eq_ok_iff.1 h
  exact ⟨rfl, rfl, rfl, rfl, keptTitle_notBlank (filterField_notBlank (filterMeta_eq_some_iff.1 hfilter).2.2.2.1), rfl⟩

theorem RevisionFrom.acceptedSemantics {r : RevisionSemantics} (hs : AcceptedSemantics casefold s)
    (h : RevisionFrom casefold s r) : AcceptedSemantics casefold r := by
  induction h with
  | accepted => exact hs
  | update hbase h ih => exact .update ih h

theorem RevisionFrom.contextInStep {r : RevisionSemantics} (hs : ContextInStep s) (h : RevisionFrom casefold s r) :
    ContextInStep r := by
  cases h with
  | accepted => exact hs
  | update hbase h => exact contextInStep_merged h

/-- Tags and blobs round-trip from an admitted authority exactly if no tag has a line end and the title is not blank. -/
theorem tagsRoundTrip_iff (casefold : Text → Text) (a : SemanticAuthority) (ha : AdmittedAuthority casefold a)
    (sourceKind cleanDigest : Text) (s : RevisionSemantics)
    (hs : initialSemantics casefold sourceKind cleanDigest a.filter.realm a.filter.type a.filter.channel
      a.filter.sourceName a.filter.isActive a.context = .ok s) :
    RoundTrips casefold a.context.tags s ↔ (∀ t ∈ a.context.tags, IsLine t) ∧ a.context.title.isBlank = false := by
  have hw := coherent_of_admitted ha
  obtain ⟨hcontext, hfilter, htags⟩ := initialSemantics_eq hw hs
  have haccepted : AcceptedSemantics casefold s := .initial hs
  have hlines : splitLines s.contextTags = a.context.tags ↔ ∀ t ∈ a.context.tags, IsLine t := by
    rw [htags]
    exact splitLines_intercalate_iff hw.tags
  constructor
  · intro h
    have hstep := (cohereMetadataBlobs_self_iff haccepted).1 (h.blobs s .accepted)
    refine ⟨hlines.1 h.updateTags, ?_⟩
    rw [← hcontext]
    exact hstep.2.2.2.2.1
  · rintro ⟨hplain, htitle⟩
    have hstep : ContextInStep s := by
      unfold ContextInStep
      rw [hcontext, hfilter]
      exact ⟨hw.realm, hw.type, hw.channel, hw.sourceName, htitle, (hlines.2 hplain).symm⟩
    refine ⟨hlines.2 hplain, (text_splitLinesFrom [] _).trans (hlines.2 hplain), fun r hr => ?_, fun r m hr hm => ?_⟩
    · exact (cohereMetadataBlobs_self_iff (hr.acceptedSemantics haccepted)).2 (hr.contextInStep hstep)
    · exact (mergeFindsEqual_iff (hr.acceptedSemantics haccepted)).2 ⟨hm, hr.contextInStep hstep⟩

/-! ### a tag of two lines in a request -/

def taggedDescriptor (tags : List Text) : GenericDescriptor :=
  ⟨"r".toList, "t".toList, "c".toList, "s".toList, none, tags⟩

def taggedAuthority (tags : List Text) : SemanticAuthority :=
  ⟨⟨"r".toList, "t".toList, "c".toList, "s".toList, 1⟩,
    ⟨"r".toList, "t".toList, "c".toList, "s".toList, "s".toList, tags⟩⟩

theorem tagsRoundTrip_plainTags :
    RoundTrips id ["a".toList, "b".toList] (taggedSemantics ["a".toList, "b".toList]) :=
  (tagsRoundTrip_iff id (taggedAuthority ["a".toList, "b".toList])
    (@AdmittedAuthority.request id (taggedDescriptor ["a".toList, "b".toList])
      (taggedDescriptor ["a".toList, "b".toList]) _ rfl rfl)
    "inline_payload".toList "c".toList _ rfl).2 ⟨isLine_of_all (by decide), by decide⟩

theorem tagsRoundTrip_splitTag :
    ¬ ∀ (casefold : Text → Text) (a : SemanticAuthority), AdmittedAuthority casefold a →
      ∀ (sourceKind cleanDigest : Text) (s : RevisionSemantics),
        initialSemantics casefold sourceKind cleanDigest a.filter.realm a.filter.type a.filter.channel
          a.filter.sourceName a.filter.isActive a.context = .ok s → RoundTrips casefold a.context.tags s := by
  intro h
  have hadmitted : AdmittedAuthority id (taggedAuthority ["a\nb".toList]) :=
    @AdmittedAuthority.request id (taggedDescriptor ["a\nb".toList]) (taggedDescriptor ["a\nb".toList]) _ rfl rfl
  have htrip : RoundTrips id ["a\nb".toList] (taggedSemantics ["a\nb".toList]) :=
    h id (taggedAuthority ["a\nb".toList]) hadmitted "inline_payload".toList "c".toList _ rfl
  have hlines := htrip.updateTags
  revert hlines
  decide

end KnowledgeBase
