import KnowledgeBase.Lsrag.ChunkedCuts

/-!
# Chunks of a serialized text

The material is split after it has been serialized, so that no line break is left to split at. `chunkedCuts_exact`:
the prompts carry the sections of the clean text in order, and are bounded exactly if the text is a single section
that is itself longer than the limit.
-/

namespace KnowledgeBase

open Checked

/-! ### pieces -/

theorem stripNewlines_cons (t : Text) : stripNewlines ('\n' :: t) = stripNewlines t := by
  unfold stripNewlines
  rw [List.dropWhile_cons_of_pos rfl]

theorem stripNewlines_of_not_mem {t : Text} (h : '\n' ∉ t) : stripNewlines t = t := by
  unfold stripNewlines
  have hdrop : t.dropWhile (· == '\n') = t := by
    cases t with
    | nil => rfl
    | cons c t =>
      refine List.dropWhile_cons_of_neg ?_
      rw [beq_iff_eq]
      rintro rfl
      exact h List.mem_cons_self
  rw [hdrop, List.rdropWhile_eq_self_iff]
  intro hne
  rw [beq_iff_eq]
  intro heq
  exact h (heq ▸ List.getLast_mem hne)

theorem exists_stripNewlines (t : Text) : ∃ before after, t = before ++ stripNewlines t ++ after := by
  obtain ⟨after, hafter⟩ : stripNewlines t <+: t.dropWhile (· == '\n') := List.rdropWhile_prefix _ _
  refine ⟨t.takeWhile (· == '\n'), after, ?_⟩
  rw [List.append_assoc, hafter, List.takeWhile_append_dropWhile]

theorem trimmedPieces_cons (piece : Text) (pieces : List Text) : trimmedPieces (piece :: pieces) =
    (if (stripNewlines piece).isEmpty then [] else [stripNewlines piece]) ++ trimmedPieces pieces := by
  unfold trimmedPieces
  rw [List.map_cons, List.filter_cons]
  cases (stripNewlines piece).isEmpty with
  | false => rfl
  | true => rfl

theorem trimmedPieces_consHead (pieces : List Text) :
    trimmedPieces (consHead '\n' pieces) = trimmedPieces pieces := by
  cases pieces with
  | nil => rfl
  | cons piece pieces =>
    unfold consHead
    rw [trimmedPieces_cons, trimmedPieces_cons, stripNewlines_cons]

theorem sectionsOf_eq (text : Text) : sectionsOf text = trimmedPieces (splitBefore headingAt text) := by
  have hcons : splitBefore headingAt ('\n' :: text) = if headingAt ('\n' :: text) then
      [] :: consHead '\n' (splitBefore headingAt text) else consHead '\n' (splitBefore headingAt text) := rfl
  unfold sectionsOf
  rw [hcons]
  split
  · rw [trimmedPieces_cons, trimmedPieces_consHead]
    rfl
  · exact trimmedPieces_consHead _

theorem flatten_consHead (c : Char) (pieces : List Text) : (consHead c pieces).flatten = c :: pieces.flatten := by
  cases pieces with
  | nil => rfl
  | cons piece pieces => rfl

theorem flatten_splitBefore (isMatch : Text → Bool) (t : Text) : (splitBefore isMatch t).flatten = t := by
  induction t with
  | nil => rfl
  | cons c t ih =>
    unfold splitBefore
    split
    · rw [List.flatten_cons, flatten_consHead, ih, List.nil_append]
    · rw [flatten_consHead, ih]

/-! ### the serialized text -/

theorem newline_not_mem_jsonEscapeChar (c : Char) : '\n' ∉ jsonEscapeChar c := by
  have hcontrol : ∀ n < 32, '\n' ∉ ['\\', 'u'] ++ Printer.hexPadded 4 n := by decide
  unfold jsonEscapeChar
  split
  · rename_i h
    rw [Bool.or_eq_true, beq_iff_eq, beq_iff_eq] at h
    rcases h with rfl | rfl
    · decide
    · decide
  · split
    · decide
    · rename_i hnewline
      rw [beq_iff_eq] at hnewline
      split
      · decide
      · split
        · decide
        · split
          · decide
          · split
            · decide
            · split
              · rename_i hsmall
                exact hcontrol c.toNat hsmall
              · rw [List.mem_singleton]
                exact Ne.symm hnewline

theorem newline_not_mem_jsonString (t : Text) : '\n' ∉ jsonString t := by
  unfold jsonString
  simp only [List.mem_append, List.mem_singleton, List.mem_flatMap, not_or, not_exists, not_and]
  exact ⟨⟨by decide, fun c _ => newline_not_mem_jsonEscapeChar c⟩, by decide⟩

theorem newline_not_mem_jsonMember {key : String} {value : Text} (h : '\n' ∉ value) : '\n' ∉ jsonMember key value := by
  unfold jsonMember
  simp only [List.mem_append, List.mem_singleton, not_or]
  exact ⟨⟨newline_not_mem_jsonString _, by decide⟩, h⟩

theorem newline_not_mem_bjsonUserMaterial (cleanText : Text) (markdownText : Option Text) :
    '\n' ∉ bjsonUserMaterial cleanText markdownText := by
  have hmarkdown : '\n' ∉ ((markdownText.filter fun t => !t.isBlank).map jsonString).getD "null".toList := by
    cases markdownText.filter fun t => !t.isBlank with
    | none => decide
    | some t => exact newline_not_mem_jsonString t
  unfold bjsonUserMaterial
  simp only [List.mem_append, List.mem_singleton, not_or]
  exact ⟨⟨⟨⟨⟨⟨by decide, newline_not_mem_jsonMember (newline_not_mem_jsonString _)⟩, by decide⟩,
    newline_not_mem_jsonMember hmarkdown⟩, by decide⟩, newline_not_mem_jsonMember (newline_not_mem_jsonString _)⟩,
    by decide⟩

theorem headingAt_cons {c : Char} (hc : c ≠ '\n') (t : Text) : headingAt (c :: t) = false := by
  unfold headingAt
  split
  · rename_i heq
    obtain ⟨rfl, -⟩ := List.cons.inj heq
    rw [beq_eq_false_iff_ne.2 hc]
    rfl
  · rfl

/-- A front without line breaks stays in one piece with what follows it. -/
theorem splitBefore_append {front t piece : Text} {pieces : List Text} (h : '\n' ∉ front)
    (ht : splitBefore headingAt t = piece :: pieces) :
    splitBefore headingAt (front ++ t) = (front ++ piece) :: pieces := by
  induction front with
  | nil => exact ht
  | cons c front ih =>
    have hc : c ≠ '\n' := fun heq => h (heq ▸ List.mem_cons_self)
    rw [List.cons_append]
    unfold splitBefore
    rw [headingAt_cons hc, ih fun hmem => h (List.mem_cons_of_mem c hmem)]
    rfl

theorem sectionsOf_of_not_mem {t : Text} (h : '\n' ∉ t) (hne : t ≠ []) : sectionsOf t = [t] := by
  have hsplit : splitBefore headingAt (t ++ []) = [t ++ []] := splitBefore_append h rfl
  rw [List.append_nil] at hsplit
  rw [sectionsOf_eq, hsplit, trimmedPieces_cons, stripNewlines_of_not_mem h, List.isEmpty_eq_false_iff.2 hne]
  rfl

theorem promptChunks_bjsonUserMaterial (cleanText : Text) (markdownText : Option Text) :
    promptChunks (bjsonUserMaterial cleanText markdownText) = [bjsonUserMaterial cleanText markdownText] := by
  have hnone := newline_not_mem_bjsonUserMaterial cleanText markdownText
  unfold promptChunks
  rw [sectionsOf_of_not_mem hnone (List.cons_ne_nil _ _)]
  have hadd : ChunkState.add ⟨[], [], 0⟩ (bjsonUserMaterial cleanText markdownText) =
      ⟨[], [bjsonUserMaterial cleanText markdownText], 0 + (bjsonUserMaterial cleanText markdownText).length⟩ := by
    unfold ChunkState.add
    rw [List.isEmpty_nil, Bool.not_true, Bool.and_false]
    rfl
  simp only [List.foldl_cons, List.foldl_nil, hadd]
  show [joinSections [_]] = _
  unfold joinSections
  rw [List.intercalate_singleton]

/-! ### lossless and bounded -/

/-- The prompt carries the sections, serialized, in order and apart. -/
inductive Carries : Text → List Text → Prop
  | nil (prompt : Text) : Carries prompt []
  | cons {before rest sec : Text} {sections : List Text} (h : Carries rest sections) :
      Carries (before ++ sec.flatMap jsonEscapeChar ++ rest) (sec :: sections)

/-- The prompts carry the sections in order, each once, and a prompt beyond the limit carries a single section that is
beyond it. -/
def LosslessAndBounded (sections prompts : List Text) : Prop :=
  ∃ groups : List (List Text), groups.flatten = sections ∧
    List.Forall₂ (fun prompt group => Carries prompt group ∧
      (prompt.length ≤ chunkLimit ∨ ∃ sec, group = [sec] ∧ chunkLimit < sec.length)) prompts groups

theorem Carries.behind {rest : Text} {sections : List Text} (h : Carries rest sections) (before : Text) :
    Carries (before ++ rest) sections := by
  cases h with
  | nil => exact .nil _
  | cons h =>
    rw [List.append_assoc, ← List.append_assoc, ← List.append_assoc]
    exact .cons h

theorem carries_trimmedPieces (pieces : List Text) (after : Text) :
    Carries (pieces.flatten.flatMap jsonEscapeChar ++ after) (trimmedPieces pieces) := by
  induction pieces with
  | nil => exact .nil _
  | cons piece pieces ih =>
    rw [trimmedPieces_cons, List.flatten_cons, List.flatMap_append, List.append_assoc]
    split
    · exact ih.behind _
    · obtain ⟨front, back, hpiece⟩ := exists_stripNewlines piece
      have hrest := ih.behind (back.flatMap jsonEscapeChar)
      have hsplit : piece.flatMap jsonEscapeChar ++ (pieces.flatten.flatMap jsonEscapeChar ++ after) =
          front.flatMap jsonEscapeChar ++ (stripNewlines piece).flatMap jsonEscapeChar ++
            (back.flatMap jsonEscapeChar ++ (pieces.flatten.flatMap jsonEscapeChar ++ after)) := by
        conv_lhs => rw [hpiece]
        simp only [List.flatMap_append, List.append_assoc]
      rw [hsplit]
      exact .cons hrest

theorem carries_bjsonUserMaterial (cleanText : Text) (markdownText : Option Text) :
    Carries (bjsonUserMaterial cleanText markdownText) (sectionsOf cleanText) := by
  have hcarries := carries_trimmedPieces (splitBefore headingAt cleanText) ([Char.ofNat 34] ++ ([','] ++
    (jsonMember "markdown" (((markdownText.filter fun t => !t.isBlank).map jsonString).getD "null".toList) ++ ([','] ++
    (jsonMember "schema_version" (jsonString "mkb.b-json-material.v1".toList) ++ ['\x7d'])))))
  rw [flatten_splitBefore, ← sectionsOf_eq] at hcarries
  have hmaterial : bjsonUserMaterial cleanText markdownText = (['\x7b'] ++ jsonString "clean".toList ++ [':'] ++
      [Char.ofNat 34]) ++ (cleanText.flatMap jsonEscapeChar ++ ([Char.ofNat 34] ++ ([','] ++
      (jsonMember "markdown" (((markdownText.filter fun t => !t.isBlank).map jsonString).getD "null".toList) ++ ([','] ++
      (jsonMember "schema_version" (jsonString "mkb.b-json-material.v1".toList) ++ ['\x7d'])))))) := by
    unfold bjsonUserMaterial jsonMember
    rw [show jsonString cleanText = [Char.ofNat 34] ++ cleanText.flatMap jsonEscapeChar ++ [Char.ofNat 34] from rfl]
    simp only [List.append_assoc]
  rw [hmaterial]
  exact hcarries.behind _

/-- The cuts of the chunks, in their order. -/
def CutsInOrder {γ : Type} (run : Nat → Text → Except MkbError (CutsOutput γ)) (prompts : List Text) (cuts : List γ) :
    Prop :=
  ∃ perChunk : List (List γ), List.Forall₂ (fun chunk cuts => runChunk run chunk = .ok cuts) prompts.zipIdx perChunk ∧
    cuts = perChunk.flatten

theorem cutsInOrder_of_chunkedCuts {γ : Type} {run : Nat → Text → Except MkbError (CutsOutput γ)} {promptInput : Text}
    {cuts : List γ} (h : chunkedCuts run promptInput = .ok cuts) : CutsInOrder run (promptChunks promptInput) cuts := by
  obtain ⟨perChunk, hruns, hend⟩ := bind_ok_iff.1 h
  exact ⟨perChunk, mapEach_ok_iff.1 hruns, (pure_ok_iff.1 hend).symm⟩

theorem single_of_losslessAndBounded {cleanText : Text} {markdownText : Option Text}
    (hlong : chunkLimit < (bjsonUserMaterial cleanText markdownText).length)
    (h : LosslessAndBounded (sectionsOf cleanText) (promptChunks (bjsonUserMaterial cleanText markdownText))) :
    ∃ sec, sectionsOf cleanText = [sec] ∧ chunkLimit < sec.length := by
  obtain ⟨groups, hgroups, hall⟩ := h
  rw [promptChunks_bjsonUserMaterial, List.forall₂_cons_left_iff] at hall
  obtain ⟨group, rest, ⟨-, hbound⟩, hrest, rfl⟩ := hall
  rw [List.forall₂_nil_left_iff] at hrest
  rw [hrest, List.flatten_cons, List.flatten_nil, List.append_nil] at hgroups
  rcases hbound with hshort | ⟨sec, hsingle, hsec⟩
  · omega
  · exact ⟨sec, hgroups ▸ hsingle, hsec⟩

/-- Chunked cuts of a long material are lossless and bounded exactly if the clean text is one section that is itself
longer than the limit. -/
theorem chunkedCuts_exact (cleanText : Text) (markdownText : Option Text)
    (hlong : chunkLimit < (bjsonUserMaterial cleanText markdownText).length) :
    (LosslessAndBounded (sectionsOf cleanText) (promptChunks (bjsonUserMaterial cleanText markdownText)) ∧
      promptChunks (bjsonUserMaterial cleanText markdownText) ≠ [] ∧
      ∀ (γ : Type) (run : Nat → Text → Except MkbError (CutsOutput γ)) (cuts : List γ),
        chunkedCuts run (bjsonUserMaterial cleanText markdownText) = .ok cuts →
          CutsInOrder run (promptChunks (bjsonUserMaterial cleanText markdownText)) cuts) ↔
      ∃ sec, sectionsOf cleanText = [sec] ∧ chunkLimit < sec.length := by
  constructor
  · rintro ⟨hbounded, -, -⟩
    exact single_of_losslessAndBounded hlong hbounded
  · rintro ⟨sec, hsections, hsec⟩
    refine ⟨⟨[sectionsOf cleanText], by simp, ?_⟩, ?_, fun γ run cuts hcuts => cutsInOrder_of_chunkedCuts hcuts⟩
    · rw [promptChunks_bjsonUserMaterial]
      exact .cons ⟨carries_bjsonUserMaterial cleanText markdownText, Or.inr ⟨sec, hsections, hsec⟩⟩ .nil
    · rw [promptChunks_bjsonUserMaterial]
      exact List.cons_ne_nil _ _

/-! ### a long line, and one with a heading behind it -/

theorem length_le_flatMap_jsonEscapeChar (t : Text) : t.length ≤ (t.flatMap jsonEscapeChar).length := by
  have hpos (c : Char) : 1 ≤ (jsonEscapeChar c).length := by
    unfold jsonEscapeChar
    repeat' split
    all_goals simp
  induction t with
  | nil => exact Nat.le_refl 0
  | cons c t ih =>
    have hc := hpos c
    rw [List.flatMap_cons, List.length_append, List.length_cons]
    omega

theorem length_le_bjsonUserMaterial (cleanText : Text) (markdownText : Option Text) :
    cleanText.length ≤ (bjsonUserMaterial cleanText markdownText).length := by
  have hle := length_le_flatMap_jsonEscapeChar cleanText
  unfold bjsonUserMaterial
  rw [show jsonMember "clean" (jsonString cleanText) = jsonMember "clean" ([Char.ofNat 34] ++
    cleanText.flatMap jsonEscapeChar ++ [Char.ofNat 34]) from rfl]
  unfold jsonMember
  simp only [List.length_append]
  omega

def longLine : Text := List.replicate 10001 'a'

theorem newline_not_mem_longLine : '\n' ∉ longLine := fun h => absurd (List.eq_of_mem_replicate h) (by decide)

theorem length_longLine : longLine.length = 10001 := List.length_replicate

/-- One line beyond the limit goes out as its own prompt. -/
theorem chunkedCuts_longLine : LosslessAndBounded (sectionsOf longLine) (promptChunks (bjsonUserMaterial longLine none)) := by
  have hne : longLine ≠ [] := List.ne_nil_of_length_pos (by rw [length_longLine]; decide)
  have hlimit : chunkLimit < longLine.length := by
    rw [length_longLine]
    decide
  exact ((chunkedCuts_exact longLine none (hlimit.trans_le (length_le_bjsonUserMaterial longLine none))).2
    ⟨longLine, sectionsOf_of_not_mem newline_not_mem_longLine hne, hlimit⟩).1

/-- With a second section behind it, both go out in one prompt beyond the limit. -/
theorem chunkedCuts_unbounded : chunkLimit < (bjsonUserMaterial (longLine ++ "\n# b".toList) none).length ∧
    ¬ LosslessAndBounded (sectionsOf (longLine ++ "\n# b".toList))
      (promptChunks (bjsonUserMaterial (longLine ++ "\n# b".toList) none)) := by
  have hlong : chunkLimit < (bjsonUserMaterial (longLine ++ "\n# b".toList) none).length := by
    refine Nat.lt_of_lt_of_le ?_ (length_le_bjsonUserMaterial _ none)
    rw [List.length_append, length_longLine]
    decide
  refine ⟨hlong, fun hbounded => ?_⟩
  obtain ⟨sec, hsections, -⟩ := single_of_losslessAndBounded hlong hbounded
  have hsplit : splitBefore headingAt (longLine ++ "\n# b".toList) = [longLine ++ [], "\n# b".toList] :=
    splitBefore_append newline_not_mem_longLine rfl
  have hne : longLine ≠ [] := List.ne_nil_of_length_pos (by rw [length_longLine]; decide)
  rw [sectionsOf_eq, hsplit, List.append_nil, trimmedPieces_cons, stripNewlines_of_not_mem newline_not_mem_longLine,
    List.isEmpty_eq_false_iff.2 hne] at hsections
  have hlength := congrArg List.length hsections
  cases hlength

end KnowledgeBase
