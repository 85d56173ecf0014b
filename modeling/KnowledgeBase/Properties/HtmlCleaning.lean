import KnowledgeBase.Intake.Html

/-!
# HTML cleaning keeps the text

What the two streaming handlers make of a well-formed stream: up to the first start tag of a void dropped element the
text outside the dropped and the ignored elements, and nothing behind it. What the sanitizer writes spells the tokens
that it means, so the second parser reads them back.
-/

namespace KnowledgeBase

/-- What the sanitizer writes for a token of its output. -/
def writeToken : HtmlToken → Text
  | .startTag name attrs => writeStart name attrs
  | .startEndTag _ _ => []
  | .endTag name => writeEnd name
  | .data t => escapeHtml false t
  | .comment _ => []

def writeTokens (ts : List HtmlToken) : Text := ts.flatMap writeToken

namespace HtmlForest

variable (P : HtmlPlatform)

def isDropped (name : Text) : Bool := dropElements.contains (P.casefold name)

def isIgnored (name : Text) : Bool := ignoredElements.contains (P.casefold name)

/-- The boundary of a block element. -/
def boundary (name : Text) : Text := if blockElements.contains (P.casefold name) then ['\n'] else []

/-- The text outside every dropped or ignored element, with a line feed at each boundary of a block element: a void
element has one, a self-closing tag of another element two. -/
def keptText : HtmlForest → Text
  | nil => []
  | text t rest => t ++ rest.keptText
  | comment _ rest => rest.keptText
  | void name _ rest => (if isDropped P name then [] else boundary P name) ++ rest.keptText
  | selfClosing name _ rest =>
    (if isDropped P name || isIgnored P name then []
      else if voidElements.contains (P.casefold name) then boundary P name
      else boundary P name ++ boundary P name) ++ rest.keptText
  | element name _ children rest =>
    (if isDropped P name || isIgnored P name then []
      else boundary P name ++ children.keptText ++ boundary P name) ++ rest.keptText

/-- The start tags of dropped elements that no end tag follows: of the one void element among them, `embed`. -/
def embeds : HtmlForest → Nat
  | nil => 0
  | text _ rest => rest.embeds
  | comment _ rest => rest.embeds
  | void name _ rest => (if isDropped P name then 1 else 0) + rest.embeds
  | selfClosing _ _ rest => rest.embeds
  | element _ _ children rest => children.embeds + rest.embeds

/-- The kept text before the first of these start tags. -/
def keptBefore : HtmlForest → Text
  | nil => []
  | text t rest => t ++ rest.keptBefore
  | comment _ rest => rest.keptBefore
  | void name _ rest => if isDropped P name then [] else boundary P name ++ rest.keptBefore
  | selfClosing name _ rest =>
    (if isDropped P name || isIgnored P name then []
      else if voidElements.contains (P.casefold name) then boundary P name
      else boundary P name ++ boundary P name) ++ rest.keptBefore
  | element name _ children rest =>
    if isDropped P name || isIgnored P name then if children.embeds P = 0 then rest.keptBefore else []
    else
      boundary P name ++ children.keptBefore ++
        if children.embeds P = 0 then boundary P name ++ rest.keptBefore else []

/-- The attributes that the sanitizer selects. -/
def selected (attrs : List (Text × Option Text)) : List (Text × Option Text) :=
  (P.foldAttributes attrs).filter fun a => allowedAttributes.contains a.1

/-- The tokens that the sanitizer writes. -/
def emitted : HtmlForest → List HtmlToken
  | nil => []
  | text t rest => .data t :: rest.emitted
  | comment _ rest => rest.emitted
  | void name attrs rest =>
    if isDropped P name then [] else .startTag (P.casefold name) (selected P attrs) :: rest.emitted
  | selfClosing name attrs rest =>
    if isDropped P name then rest.emitted
    else if voidElements.contains (P.casefold name) then
      .startTag (P.casefold name) (selected P attrs) :: rest.emitted
    else .startTag (P.casefold name) (selected P attrs) :: .endTag (P.casefold name) :: rest.emitted
  | element name attrs children rest =>
    if isDropped P name then if children.embeds P = 0 then rest.emitted else []
    else
      .startTag (P.casefold name) (selected P attrs) ::
        (children.emitted ++ if children.embeds P = 0 then .endTag (P.casefold name) :: rest.emitted else [])

end HtmlForest

/-! ### joined texts -/

/-- A handler that takes a text piece by piece does not see how the texts are cut. -/
theorem foldl_joinData {σ : Type} (step : σ → HtmlToken → σ)
    (hjoin : ∀ s t u, step (step s (.data t)) (.data u) = step s (.data (t ++ u)))
    (hnil : ∀ s, step s (.data []) = s) (ts : List HtmlToken) (s : σ) :
    (joinData ts).foldl step s = ts.foldl step s := by
  induction ts generalizing s with
  | nil => rfl
  | cons token rest ih =>
    cases token with
    | data t =>
      unfold joinData
      split
      · rename_i u r hrest
        have ih := ih (step s (.data t))
        rw [hrest, List.foldl_cons, hjoin] at ih
        rw [List.foldl_cons, List.foldl_cons]
        exact ih
      · rename_i hrest
        by_cases ht : t = []
        · subst ht
          show (joinData rest).foldl step s = _
          rw [ih, List.foldl_cons, hnil]
        · rw [if_neg (by rw [List.isEmpty_iff]; exact ht), List.foldl_cons, ih, List.foldl_cons]
    | _ => exact ih _

theorem escapeHtml_append (quote : Bool) (t u : Text) :
    escapeHtml quote (t ++ u) = escapeHtml quote t ++ escapeHtml quote u := List.flatMap_append

namespace HtmlPlatform

variable {P : HtmlPlatform} {s : Sanitizer}

theorem handleData_append (s : Sanitizer) (t u : Text) : handleData (handleData s t) u = handleData s (t ++ u) := by
  unfold handleData
  by_cases h : s.droppedDepth = 0
  · rw [if_pos h, if_pos h, if_pos h, escapeHtml_append, List.append_assoc]
  · rw [if_neg h, if_neg h, if_neg h]

theorem handleData_nil (s : Sanitizer) : handleData s [] = s := by
  unfold handleData
  split
  · show ({ s with parts := s.parts ++ [] } : Sanitizer) = s
    rw [List.append_nil]
  · rfl

theorem sanitizeHtml_of_joinData {html : Text} {ts : List HtmlToken} (h : joinData (P.parse html) = joinData ts) :
    P.sanitizeHtml html = (ts.foldl P.sanitizeToken ⟨[], 0, [], []⟩).parts := by
  have hparse := foldl_joinData P.sanitizeToken handleData_append handleData_nil (P.parse html)
    ⟨[], 0, [], []⟩
  have hts := foldl_joinData P.sanitizeToken handleData_append handleData_nil ts ⟨[], 0, [], []⟩
  show ((P.parse html).foldl P.sanitizeToken ⟨[], 0, [], []⟩).parts = _
  rw [← hparse, h, hts]

/-! ### one tag -/

theorem handleStarttag_dropped {name : Text} (h : HtmlForest.isDropped P name = true)
    (attrs : List (Text × Option Text)) :
    (P.handleStarttag s name attrs).parts = s.parts ∧
      (P.handleStarttag s name attrs).droppedDepth = s.droppedDepth + 1 := by
  unfold HtmlForest.isDropped at h
  unfold handleStarttag
  simp only [h, if_true, and_self]

theorem handleStarttag_kept {name : Text} (h : HtmlForest.isDropped P name = false)
    (attrs : List (Text × Option Text)) :
    (P.handleStarttag s name attrs).parts =
        (if s.droppedDepth = 0 then s.parts ++ writeStart (P.casefold name) (HtmlForest.selected P attrs) else s.parts) ∧
      (P.handleStarttag s name attrs).droppedDepth = s.droppedDepth := by
  unfold HtmlForest.isDropped at h
  unfold handleStarttag HtmlForest.selected
  by_cases hd : s.droppedDepth = 0
  · simp only [h, hd, Bool.false_eq_true, if_false, if_true, ne_eq, not_true_eq_false, and_self]
  · simp only [h, hd, Bool.false_eq_true, if_false, if_true, ne_eq, not_false_eq_true, and_self]

theorem closeTag_parts (s : Sanitizer) (name : Text) :
    (closeTag s name).parts =
        (if s.droppedDepth = 0 ∧ voidElements.contains name = false then s.parts ++ writeEnd name else s.parts) ∧
      (closeTag s name).droppedDepth = s.droppedDepth := by
  unfold closeTag
  split
  · exact ⟨rfl, rfl⟩
  · exact ⟨rfl, rfl⟩

/-- Folding a name again changes nothing. -/
def FoldsOnce (P : HtmlPlatform) : Prop := ∀ t, P.casefold (P.casefold t) = P.casefold t

theorem FoldsOnce.isDropped_casefold (hfold : P.FoldsOnce) {name : Text} :
    HtmlForest.isDropped P (P.casefold name) = HtmlForest.isDropped P name := by
  unfold HtmlForest.isDropped
  rw [hfold name]

theorem handleStartendtag_kept {name : Text} (h : HtmlForest.isDropped P name = false)
    (attrs : List (Text × Option Text)) : P.handleStartendtag s name attrs =
      closeTag (P.handleStarttag s (P.casefold name) attrs) (P.casefold name) := by
  unfold HtmlForest.isDropped at h
  unfold handleStartendtag
  simp only [h, Bool.false_eq_true, if_false]

theorem handleStartendtag_inside (hfold : P.FoldsOnce) (h : s.droppedDepth ≠ 0) (name : Text)
    (attrs : List (Text × Option Text)) :
    (P.handleStartendtag s name attrs).parts = s.parts ∧
      (P.handleStartendtag s name attrs).droppedDepth = s.droppedDepth := by
  cases hn : HtmlForest.isDropped P name with
  | true =>
    unfold HtmlForest.isDropped at hn
    unfold handleStartendtag
    simp only [hn, if_true, and_self]
  | false =>
    obtain ⟨hparts, hdepth⟩ := handleStarttag_kept (s := s) (hfold.isDropped_casefold.trans hn) attrs
    rw [if_neg h] at hparts
    rw [handleStartendtag_kept hn, (closeTag_parts _ _).1, (closeTag_parts _ _).2, hdepth, hparts,
      if_neg fun hc => h hc.1]
    exact ⟨rfl, rfl⟩

theorem handleEndtag_inside (h : s.droppedDepth ≠ 0) (name : Text) :
    (P.handleEndtag s name).parts = s.parts ∧
      (P.handleEndtag s name).droppedDepth =
        s.droppedDepth - if HtmlForest.isDropped P name then 1 else 0 := by
  unfold handleEndtag HtmlForest.isDropped closeTag
  simp only
  split
  · exact ⟨rfl, rfl⟩
  · rw [if_neg fun hc => h hc.1]
    exact ⟨rfl, rfl⟩

theorem handleEndtag_kept {name : Text} (h : HtmlForest.isDropped P name = false) :
    (P.handleEndtag s name).parts = (closeTag s (P.casefold name)).parts ∧
      (P.handleEndtag s name).droppedDepth = s.droppedDepth := by
  unfold HtmlForest.isDropped at h
  unfold handleEndtag
  simp only [h, Bool.false_eq_true, if_false, true_and]
  exact (closeTag_parts _ _).2

/-! ### the sanitizer over a stream -/

theorem sanitize_inside (hfold : P.FoldsOnce) (f : HtmlForest) (hf : f.WellFormed P) {s : Sanitizer} (hs : s.droppedDepth ≠ 0) :
    (f.tokens.foldl P.sanitizeToken s).parts = s.parts ∧
      (f.tokens.foldl P.sanitizeToken s).droppedDepth = s.droppedDepth + f.embeds P := by
  -- an `embed` start tag raises the depth and has no end tag, so the depth counts them
  induction f generalizing s with
  | nil => exact ⟨rfl, rfl⟩
  | text t rest ih =>
    have hstep : (HtmlForest.text t rest).tokens.foldl P.sanitizeToken s = rest.tokens.foldl P.sanitizeToken s := by
      show rest.tokens.foldl P.sanitizeToken (handleData s t) = _
      rw [show handleData s t = s from if_neg hs]
    rw [hstep]
    exact ih hf hs
  | comment t rest ih => exact ih hf hs
  | void name attrs rest ih =>
    show ((rest.tokens.foldl P.sanitizeToken (P.handleStarttag s name attrs)).parts = _ ∧
      (rest.tokens.foldl P.sanitizeToken (P.handleStarttag s name attrs)).droppedDepth =
        s.droppedDepth + ((if HtmlForest.isDropped P name then 1 else 0) + rest.embeds P))
    cases hn : HtmlForest.isDropped P name with
    | true =>
      obtain ⟨hparts, hdepth⟩ := handleStarttag_dropped (s := s) hn attrs
      obtain ⟨ihparts, ihdepth⟩ := ih hf.2 (s := P.handleStarttag s name attrs) (by omega)
      rw [ihparts, ihdepth, hparts, hdepth, if_pos rfl]
      exact ⟨rfl, by omega⟩
    | false =>
      obtain ⟨hparts, hdepth⟩ := handleStarttag_kept (s := s) hn attrs
      obtain ⟨ihparts, ihdepth⟩ := ih hf.2 (s := P.handleStarttag s name attrs) (by omega)
      rw [ihparts, ihdepth, hparts, hdepth, if_neg hs, if_neg Bool.false_ne_true]
      exact ⟨rfl, by omega⟩
  | selfClosing name attrs rest ih =>
    obtain ⟨hparts, hdepth⟩ := handleStartendtag_inside hfold hs name attrs
    obtain ⟨ihparts, ihdepth⟩ := ih hf.2 (s := P.handleStartendtag s name attrs) (by rw [hdepth]; exact hs)
    exact ⟨ihparts.trans hparts, ihdepth.trans (by rw [hdepth]; rfl)⟩
  | element name attrs children rest ihc ihr =>
    obtain ⟨-, hchildren, hrest⟩ := hf
    show ((children.tokens ++ .endTag name :: rest.tokens).foldl P.sanitizeToken (P.handleStarttag s name attrs)).parts =
      _ ∧ ((children.tokens ++ .endTag name :: rest.tokens).foldl P.sanitizeToken
        (P.handleStarttag s name attrs)).droppedDepth = s.droppedDepth + (children.embeds P + rest.embeds P)
    rw [List.foldl_append, List.foldl_cons]
    have hopen : (P.handleStarttag s name attrs).parts = s.parts ∧ (P.handleStarttag s name attrs).droppedDepth =
        s.droppedDepth + if HtmlForest.isDropped P name then 1 else 0 := by
      cases hn : HtmlForest.isDropped P name with
      | true => exact handleStarttag_dropped hn attrs
      | false =>
        obtain ⟨hparts, hdepth⟩ := handleStarttag_kept (s := s) hn attrs
        exact ⟨hparts.trans (if_neg hs), hdepth⟩
    obtain ⟨cparts, cdepth⟩ := ihc hchildren (s := P.handleStarttag s name attrs) (by omega)
    generalize children.tokens.foldl P.sanitizeToken (P.handleStarttag s name attrs) = s₁ at cparts cdepth ⊢
    obtain ⟨eparts, edepth⟩ := handleEndtag_inside (P := P) (s := s₁) (by omega) name
    have hdepth : (P.sanitizeToken s₁ (.endTag name)).droppedDepth = s.droppedDepth + children.embeds P := by
      show (P.handleEndtag s₁ name).droppedDepth = _
      omega
    obtain ⟨rparts, rdepth⟩ := ihr hrest (s := P.sanitizeToken s₁ (.endTag name)) (by omega)
    exact ⟨rparts.trans (eparts.trans (cparts.trans hopen.1)), by omega⟩

theorem writeTokens_cons (token : HtmlToken) (ts : List HtmlToken) :
    writeTokens (token :: ts) = writeToken token ++ writeTokens ts := List.flatMap_cons

theorem writeTokens_append (ts us : List HtmlToken) : writeTokens (ts ++ us) = writeTokens ts ++ writeTokens us :=
  List.flatMap_append

theorem sanitize_outside (hfold : P.FoldsOnce) (f : HtmlForest) (hf : f.WellFormed P) {s : Sanitizer}
    (hs : s.droppedDepth = 0) :
    (f.tokens.foldl P.sanitizeToken s).parts = s.parts ++ writeTokens (f.emitted P) ∧
      (f.tokens.foldl P.sanitizeToken s).droppedDepth = f.embeds P := by
  -- up to the first `embed` the state is outside; from it on the rest is `sanitize_inside`
  induction f generalizing s with
  | nil => exact ⟨(List.append_nil _).symm, hs⟩
  | text t rest ih =>
    have hdata : handleData s t = { s with parts := s.parts ++ escapeHtml false t } := if_pos hs
    obtain ⟨ihparts, ihdepth⟩ := ih hf (s := handleData s t) (by rw [hdata]; exact hs)
    refine ⟨ihparts.trans ?_, ihdepth⟩
    rw [hdata, List.append_assoc]
    exact congrArg (s.parts ++ ·) (writeTokens_cons (.data t) _).symm
  | comment t rest ih => exact ih hf hs
  | void name attrs rest ih =>
    cases hn : HtmlForest.isDropped P name with
    | true =>
      obtain ⟨hparts, hdepth⟩ := handleStarttag_dropped (s := s) hn attrs
      obtain ⟨rparts, rdepth⟩ :=
        sanitize_inside hfold rest hf.2 (s := P.handleStarttag s name attrs) (by omega)
      refine ⟨rparts.trans ?_, rdepth.trans ?_⟩
      · rw [hparts, HtmlForest.emitted, if_pos hn]
        exact (List.append_nil _).symm
      · rw [hdepth, hs, HtmlForest.embeds, if_pos hn]
    | false =>
      obtain ⟨hparts, hdepth⟩ := handleStarttag_kept (s := s) hn attrs
      obtain ⟨ihparts, ihdepth⟩ := ih hf.2 (s := P.handleStarttag s name attrs) (by omega)
      refine ⟨ihparts.trans ?_, ihdepth.trans ?_⟩
      · rw [hparts, if_pos hs, List.append_assoc, HtmlForest.emitted, hn, if_neg Bool.false_ne_true, writeTokens_cons]
        rfl
      · rw [HtmlForest.embeds, hn, if_neg Bool.false_ne_true, Nat.zero_add]
  | selfClosing name attrs rest ih =>
    cases hn : HtmlForest.isDropped P name with
    | true =>
      have hlog : (P.handleStartendtag s name attrs).parts = s.parts ∧
          (P.handleStartendtag s name attrs).droppedDepth = 0 := by
        unfold HtmlForest.isDropped at hn
        unfold handleStartendtag
        simp only [hn, if_true, true_and]
        exact hs
      obtain ⟨ihparts, ihdepth⟩ := ih hf.2 (s := P.handleStartendtag s name attrs) hlog.2
      refine ⟨ihparts.trans ?_, ihdepth⟩
      rw [hlog.1, HtmlForest.emitted, if_pos hn]
    | false =>
      obtain ⟨hparts, hdepth⟩ := handleStarttag_kept (s := s) (hfold.isDropped_casefold.trans hn) attrs
      rw [if_pos hs, hfold name] at hparts
      obtain ⟨cparts, cdepth⟩ := closeTag_parts (P.handleStarttag s (P.casefold name) attrs) (P.casefold name)
      rw [← handleStartendtag_kept hn attrs] at cparts cdepth
      obtain ⟨ihparts, ihdepth⟩ := ih hf.2 (s := P.handleStartendtag s name attrs) (by omega)
      refine ⟨ihparts.trans ?_, ihdepth⟩
      rw [cparts, hdepth, hparts, HtmlForest.emitted, hn, if_neg Bool.false_ne_true]
      cases hv : voidElements.contains (P.casefold name) with
      | true =>
        have hopen : ¬(s.droppedDepth = 0 ∧ true = false) := fun hc => nomatch hc.2
        rw [if_neg hopen, if_pos rfl, writeTokens_cons, List.append_assoc]
        rfl
      | false =>
        rw [if_pos ⟨hs, rfl⟩, if_neg Bool.false_ne_true, List.append_assoc, List.append_assoc, writeTokens_cons,
          writeTokens_cons]
        rfl
  | element name attrs children rest ihc ihr =>
    obtain ⟨⟨-, hv⟩, hchildren, hrest⟩ := hf
    have hrun : (HtmlForest.element name attrs children rest).tokens.foldl P.sanitizeToken s =
        rest.tokens.foldl P.sanitizeToken
          (P.handleEndtag (children.tokens.foldl P.sanitizeToken (P.handleStarttag s name attrs)) name) := by
      show ((children.tokens ++ .endTag name :: rest.tokens).foldl P.sanitizeToken (P.handleStarttag s name attrs)) = _
      rw [List.foldl_append, List.foldl_cons]
      rfl
    rw [hrun]
    cases hn : HtmlForest.isDropped P name with
    | true =>
      obtain ⟨hparts, hdepth⟩ := handleStarttag_dropped (s := s) hn attrs
      obtain ⟨cparts, cdepth⟩ :=
        sanitize_inside hfold children hchildren (s := P.handleStarttag s name attrs) (by omega)
      generalize children.tokens.foldl P.sanitizeToken (P.handleStarttag s name attrs) = s₁ at cparts cdepth ⊢
      obtain ⟨eparts, edepth⟩ := handleEndtag_inside (P := P) (s := s₁) (by omega) name
      rw [hn, if_pos rfl] at edepth
      have hkept : (P.handleEndtag s₁ name).parts = s.parts := eparts.trans (cparts.trans hparts)
      by_cases hopen : children.embeds P = 0
      · obtain ⟨rparts, rdepth⟩ := ihr hrest (s := P.handleEndtag s₁ name) (by omega)
        refine ⟨rparts.trans ?_, rdepth.trans ?_⟩
        · rw [hkept, HtmlForest.emitted, if_pos hn, if_pos hopen]
        · rw [HtmlForest.embeds, hopen, Nat.zero_add]
      · obtain ⟨rparts, rdepth⟩ := sanitize_inside hfold rest hrest (s := P.handleEndtag s₁ name) (by omega)
        refine ⟨rparts.trans ?_, ?_⟩
        · rw [hkept, HtmlForest.emitted, if_pos hn, if_neg hopen]
          exact (List.append_nil _).symm
        · rw [HtmlForest.embeds]
          omega
    | false =>
      obtain ⟨hparts, hdepth⟩ := handleStarttag_kept (s := s) hn attrs
      rw [if_pos hs] at hparts
      obtain ⟨cparts, cdepth⟩ := ihc hchildren (s := P.handleStarttag s name attrs) (by omega)
      generalize children.tokens.foldl P.sanitizeToken (P.handleStarttag s name attrs) = s₁ at cparts cdepth ⊢
      rw [hparts] at cparts
      obtain ⟨eparts, edepth⟩ := handleEndtag_kept (s := s₁) hn
      rw [(closeTag_parts _ _).1, hv, cparts] at eparts
      rw [HtmlForest.emitted, if_neg (by rw [hn]; exact Bool.false_ne_true), writeTokens_cons, writeTokens_append]
      by_cases hopen : children.embeds P = 0
      · rw [if_pos ⟨cdepth.trans hopen, rfl⟩] at eparts
        obtain ⟨rparts, rdepth⟩ := ihr hrest (s := P.handleEndtag s₁ name) (by omega)
        refine ⟨rparts.trans ?_, rdepth.trans ?_⟩
        · rw [eparts, if_pos hopen, writeTokens_cons]
          simp only [List.append_assoc]
          rfl
        · rw [HtmlForest.embeds, hopen, Nat.zero_add]
      · rw [if_neg fun hc => hopen (cdepth.symm.trans hc.1)] at eparts
        obtain ⟨rparts, rdepth⟩ := sanitize_inside hfold rest hrest (s := P.handleEndtag s₁ name) (by omega)
        refine ⟨rparts.trans ?_, ?_⟩
        · have hnil : writeTokens (children.emitted P) ++ writeTokens [] = writeTokens (children.emitted P) :=
            List.append_nil _
          rw [eparts, if_neg hopen, List.append_assoc, hnil]
          rfl
        · rw [HtmlForest.embeds]
          omega

/-! ### the sanitizer over its own output -/

/-- A token as the sanitizer writes it. -/
def Written (P : HtmlPlatform) : HtmlToken → Prop
  | .startTag name attrs =>
    isTagName name = true ∧ P.casefold name = name ∧ HtmlForest.isDropped P name = false ∧
      HtmlForest.selected P attrs = attrs
  | .startEndTag _ _ => False
  | .endTag name =>
    isTagName name = true ∧ P.casefold name = name ∧ HtmlForest.isDropped P name = false ∧
      voidElements.contains name = false
  | .data _ => True
  | .comment _ => False

theorem selected_selected (hfold : P.FoldsOnce) (attrs : List (Text × Option Text)) :
    HtmlForest.selected P (HtmlForest.selected P attrs) = HtmlForest.selected P attrs := by
  have hmap : P.foldAttributes (HtmlForest.selected P attrs) = HtmlForest.selected P attrs := by
    refine (List.map_congr_left fun a ha => ?_).trans (List.map_id _)
    obtain ⟨b, -, rfl⟩ := List.mem_map.1 (List.mem_of_mem_filter ha)
    show (P.casefold (P.casefold b.1), b.2) = _
    rw [hfold b.1]
    rfl
  show (P.foldAttributes (HtmlForest.selected P attrs)).filter _ = _
  rw [hmap]
  unfold HtmlForest.selected
  rw [List.filter_filter]
  exact List.filter_congr fun a _ => Bool.and_self _

theorem written_emitted (hP : P.Lawful) (f : HtmlForest) (hf : f.WellFormed P) :
    ∀ token ∈ f.emitted P, P.Written token := by
  have hfold : P.FoldsOnce := hP.casefold_casefold
  have hstart : ∀ {name : Text}, isTagName name = true → HtmlForest.isDropped P name = false → ∀ attrs,
      P.Written (.startTag (P.casefold name) (HtmlForest.selected P attrs)) := fun ht hn attrs =>
    ⟨hP.casefold_tagName _ ht, hfold _, hfold.isDropped_casefold.trans hn, selected_selected hfold attrs⟩
  have hend : ∀ {name : Text}, isTagName name = true → HtmlForest.isDropped P name = false →
      voidElements.contains (P.casefold name) = false → P.Written (.endTag (P.casefold name)) := fun ht hn hv =>
    ⟨hP.casefold_tagName _ ht, hfold _, hfold.isDropped_casefold.trans hn, hv⟩
  -- what is emitted is folded and kept already, so folding it again changes nothing
  induction f with
  | nil => exact fun _ h => nomatch h
  | text t rest ih => exact List.forall_mem_cons.2 ⟨trivial, ih hf⟩
  | comment t rest ih => exact ih hf
  | void name attrs rest ih =>
    unfold HtmlForest.emitted
    cases hn : HtmlForest.isDropped P name with
    | true => exact fun _ h => nomatch h
    | false => exact List.forall_mem_cons.2 ⟨hstart hf.1.1 hn attrs, ih hf.2⟩
  | selfClosing name attrs rest ih =>
    unfold HtmlForest.emitted
    cases hn : HtmlForest.isDropped P name with
    | true => exact ih hf.2
    | false =>
      cases hv : voidElements.contains (P.casefold name) with
      | true => exact List.forall_mem_cons.2 ⟨hstart hf.1 hn attrs, ih hf.2⟩
      | false => exact List.forall_mem_cons.2 ⟨hstart hf.1 hn attrs, List.forall_mem_cons.2 ⟨hend hf.1 hn hv, ih hf.2⟩⟩
  | element name attrs children rest ihc ihr =>
    obtain ⟨⟨ht, hv⟩, hchildren, hrest⟩ := hf
    unfold HtmlForest.emitted
    cases hn : HtmlForest.isDropped P name with
    | true =>
      rw [if_pos rfl]
      split
      · exact ihr hrest
      · exact fun _ h => nomatch h
    | false =>
      rw [if_neg Bool.false_ne_true]
      refine List.forall_mem_cons.2 ⟨hstart ht hn attrs, List.forall_mem_append.2 ⟨ihc hchildren, ?_⟩⟩
      split
      · exact List.forall_mem_cons.2 ⟨hend ht hn hv, ihr hrest⟩
      · exact fun _ h => nomatch h

theorem sanitize_written {ts : List HtmlToken} (h : ∀ token ∈ ts, P.Written token) {s : Sanitizer}
    (hs : s.droppedDepth = 0) : (ts.foldl P.sanitizeToken s).parts = s.parts ++ writeTokens ts := by
  induction ts generalizing s with
  | nil => exact (List.append_nil _).symm
  | cons token ts ih =>
    obtain ⟨htoken, hts⟩ := List.forall_mem_cons.1 h
    have hstep : (P.sanitizeToken s token).parts = s.parts ++ writeToken token ∧
        (P.sanitizeToken s token).droppedDepth = 0 := by
      cases token with
      | startTag name attrs =>
        obtain ⟨hparts, hdepth⟩ := handleStarttag_kept (s := s) htoken.2.2.1 attrs
        rw [if_pos hs, htoken.2.1, htoken.2.2.2] at hparts
        exact ⟨hparts, hdepth.trans hs⟩
      | startEndTag name attrs => exact htoken.elim
      | endTag name =>
        obtain ⟨eparts, edepth⟩ := handleEndtag_kept (s := s) htoken.2.2.1
        rw [(closeTag_parts _ _).1, htoken.2.1, if_pos ⟨hs, htoken.2.2.2⟩] at eparts
        exact ⟨eparts, edepth.trans hs⟩
      | data t =>
        show (handleData s t).parts = s.parts ++ escapeHtml false t ∧ (handleData s t).droppedDepth = 0
        unfold handleData
        rw [if_pos hs]
        exact ⟨rfl, hs⟩
      | comment t => exact htoken.elim
    rw [List.foldl_cons, ih hts hstep.2, hstep.1, writeTokens_cons, List.append_assoc]

/-! ### what the sanitizer writes is read back -/

theorem spells_escapeHtml {quote : Bool} {stop : Char} (hstop : stop = '<' ∨ quote = true ∧ stop = Char.ofNat 34)
    (t : Text) : Spells stop (escapeHtml quote t) t := by
  induction t with
  | nil => exact .nil
  | cons c t ih =>
    have hcode {n : Nat} (h : c.toNat = n) : c = Char.ofNat n := by rw [← h, Char.ofNat_toNat]
    show Spells stop (escapeChar quote c ++ escapeHtml quote t) (c :: t)
    unfold escapeChar
    split
    · rename_i h
      exact h ▸ .reference (r := ("&amp;".toList, '&')) (by decide) ih
    · rename_i hamp
      split
      · rename_i h
        exact h ▸ .reference (r := ("&lt;".toList, '<')) (by decide) ih
      · rename_i hlt
        split
        · rename_i h
          exact h ▸ .reference (r := ("&gt;".toList, '>')) (by decide) ih
        · split
          · rename_i h
            exact hcode h.2 ▸ .reference (r := ("&quot;".toList, Char.ofNat 34)) (by decide) ih
          · rename_i hquot
            split
            · rename_i h
              exact hcode h.2 ▸ .reference (r := ("&#x27;".toList, Char.ofNat 39)) (by decide) ih
            · refine .char ?_ hamp ih
              rintro rfl
              rcases hstop with rfl | ⟨hquote, rfl⟩
              · exact hlt rfl
              · exact hquot ⟨hquote, by decide⟩

theorem spellsAttributes_written {attrs : List (Text × Option Text)}
    (h : ∀ a ∈ attrs, allowedAttributes.contains a.1 = true) :
    SpellsAttributes (attrs.flatMap fun a => ' ' :: writeAttribute a) attrs := by
  have hall : allowedAttributes.all (fun n => !n.isEmpty && n.all Char.isLower) = true := by decide
  induction attrs with
  | nil => exact .nil
  | cons a attrs ih =>
    obtain ⟨ha, hattrs⟩ := List.forall_mem_cons.1 h
    have hname := List.all_eq_true.1 hall a.1 (List.contains_iff_mem.1 ha)
    rw [Bool.and_eq_true, Bool.not_eq_true', List.isEmpty_eq_false_iff] at hname
    rw [List.flatMap_cons]
    obtain ⟨name, value⟩ := a
    cases value with
    | none => exact .bare hname.1 hname.2 (ih hattrs)
    | some value =>
      have hvalue : Spells (Char.ofNat 34) (escapeHtml true value) value := spells_escapeHtml (.inr ⟨rfl, rfl⟩) value
      have hspells := SpellsAttributes.valued hname.1 hname.2 hvalue (ih hattrs)
      simpa [writeAttribute] using hspells

/-- The token as the parser hands it over, with its name in lower case. -/
def lowered (P : HtmlPlatform) : HtmlToken → HtmlToken
  | .startTag name attrs => .startTag (P.lower name) attrs
  | .endTag name => .endTag (P.lower name)
  | token => token

theorem lower_contains (hP : P.Lawful) {l : List Text}
    (hl : l.all (fun n => n.all fun c => c.isLower || c.isDigit) = true) {name : Text} (h : P.casefold name = name) :
    l.contains (P.lower name) = l.contains name := by
  have hascii (n : Text) (hn : n ∈ l) := hP.ascii n (List.all_eq_true.1 hl n hn)
  rw [Bool.eq_iff_iff, List.contains_iff_mem, List.contains_iff_mem]
  constructor
  · intro hn
    have heq : P.lower name = name := by rw [← (hascii _ hn).2, hP.casefold_lower, h]
    rwa [heq] at hn
  · intro hn
    rwa [(hascii _ hn).1]

theorem spellsToken_written (hP : P.Lawful) {token : HtmlToken} (h : P.Written token) :
    SpellsToken P (writeToken token) (P.lowered token) := by
  cases token with
  | startTag name attrs =>
    obtain ⟨ht, hfold, hdropped, hselected⟩ := h
    have hattrs : SpellsAttributes (attrs.flatMap fun a => ' ' :: writeAttribute a) attrs := by
      refine spellsAttributes_written fun a ha => ?_
      rw [← hselected] at ha
      exact (List.mem_filter.1 ha).2
    have hcdata : P.lower name ∉ cdataElements := by
      rw [← List.contains_iff_mem, lower_contains hP (by decide) hfold]
      intro hmem
      have hall : cdataElements.all dropElements.contains = true := by decide
      have := List.all_eq_true.1 hall name (List.contains_iff_mem.1 hmem)
      unfold HtmlForest.isDropped at hdropped
      rw [hfold, this] at hdropped
      cases hdropped
    exact SpellsToken.startTag ht hcdata hattrs
  | startEndTag name attrs => exact h.elim
  | endTag name => exact SpellsToken.endTag h.1
  | data t => exact .data (spells_escapeHtml (.inl rfl) t)
  | comment t => exact h.elim

theorem parse_written (hP : P.Lawful) {ts : List HtmlToken} (h : ∀ token ∈ ts, P.Written token) :
    joinData (P.parse (writeTokens ts)) = joinData (ts.map P.lowered) := by
  have hparse := hP.parse (ts.map fun token => (writeToken token, P.lowered token)) fun p hp => by
    obtain ⟨token, htoken, rfl⟩ := List.mem_map.1 hp
    exact spellsToken_written hP (h token htoken)
  rwa [List.flatMap_map, List.map_map] at hparse

/-- A handler that takes names up to lower case takes the lowered tokens as the tokens. -/
theorem foldl_lowered {σ : Type} {step : σ → HtmlToken → σ}
    (hstep : ∀ s token, P.Written token → step s (P.lowered token) = step s token) {ts : List HtmlToken}
    (h : ∀ token ∈ ts, P.Written token) (s : σ) : (ts.map P.lowered).foldl step s = ts.foldl step s := by
  induction ts generalizing s with
  | nil => rfl
  | cons token ts ih =>
    obtain ⟨htoken, hts⟩ := List.forall_mem_cons.1 h
    rw [List.map_cons, List.foldl_cons, List.foldl_cons, hstep s token htoken, ih hts]

theorem sanitizeToken_lowered (hP : P.Lawful) (s : Sanitizer) (token : HtmlToken) :
    P.sanitizeToken s (P.lowered token) = P.sanitizeToken s token := by
  cases token with
  | startTag name attrs =>
    show P.handleStarttag s (P.lower name) attrs = P.handleStarttag s name attrs
    unfold handleStarttag
    rw [hP.casefold_lower]
  | endTag name =>
    show P.handleEndtag s (P.lower name) = P.handleEndtag s name
    unfold handleEndtag
    rw [hP.casefold_lower]
  | _ => rfl

end HtmlPlatform

/-! ### the extractor -/

namespace TextExtractor

variable {P : HtmlPlatform} {e : TextExtractor}

theorem data_append (e : TextExtractor) (t u : Text) :
    (e.extractToken (.data t)).extractToken (.data u) = e.extractToken (.data (t ++ u)) := by
  unfold extractToken
  by_cases h : e.ignoredDepth = 0
  · simp only [if_pos h, List.append_assoc]
  · simp only [if_neg h]

theorem data_nil (e : TextExtractor) : e.extractToken (.data []) = e := by
  unfold extractToken
  simp only [List.append_nil, ite_self]

theorem extract_of_joinData {value : Text} {ts : List HtmlToken} (h : joinData (P.parse value) = joinData ts) :
    (P.extractHtmlText value).1 = P.cleanPlainText (ts.foldl extractToken ⟨[], 0, []⟩).parts := by
  have hparse := foldl_joinData extractToken data_append data_nil (P.parse value) ⟨[], 0, []⟩
  have hts := foldl_joinData extractToken data_append data_nil ts ⟨[], 0, []⟩
  show P.cleanPlainText ((P.parse value).foldl extractToken ⟨[], 0, []⟩).parts = _
  rw [← hparse, h, hts]

theorem extractToken_lowered (hP : P.Lawful) (e : TextExtractor) (token : HtmlToken) (h : P.Written token) :
    e.extractToken (P.lowered token) = e.extractToken token := by
  cases token with
  | startTag name attrs =>
    show e.startTag (P.lower name) = e.startTag name
    unfold startTag
    rw [HtmlPlatform.lower_contains hP (by decide) h.2.1, HtmlPlatform.lower_contains hP (by decide) h.2.1]
    by_cases hi : ignoredElements.contains name = true
    · rw [if_pos hi, if_pos hi, (hP.ascii name ?_).1]
      have hall : ignoredElements.all (fun n => n.all fun c => c.isLower || c.isDigit) = true := by decide
      exact List.all_eq_true.1 hall name (List.contains_iff_mem.1 hi)
    · rw [if_neg hi, if_neg hi]
  | endTag name =>
    show e.endTag (P.lower name) = e.endTag name
    unfold endTag
    rw [HtmlPlatform.lower_contains hP (by decide) h.2.1, HtmlPlatform.lower_contains hP (by decide) h.2.1]
  | _ => rfl

theorem startTag_ignored {name : Text} (h : ignoredElements.contains name = true) :
    (e.startTag name).parts = e.parts ∧ (e.startTag name).ignoredDepth = e.ignoredDepth + 1 := by
  unfold startTag
  rw [if_pos h]
  exact ⟨rfl, rfl⟩

theorem endTag_ignored {name : Text} (h : ignoredElements.contains name = true) :
    (e.endTag name).parts = e.parts ∧ (e.endTag name).ignoredDepth = e.ignoredDepth - 1 := by
  unfold endTag
  rw [if_pos h]
  exact ⟨rfl, rfl⟩

theorem startTag_kept {name : Text} (h : HtmlForest.isIgnored P name = false) :
    (e.startTag (P.casefold name)).parts =
        (if e.ignoredDepth = 0 then e.parts ++ HtmlForest.boundary P name else e.parts) ∧
      (e.startTag (P.casefold name)).ignoredDepth = e.ignoredDepth := by
  unfold HtmlForest.isIgnored at h
  unfold startTag HtmlForest.boundary
  rw [h, if_neg Bool.false_ne_true]
  by_cases hd : e.ignoredDepth = 0
  · cases hb : blockElements.contains (P.casefold name) with
    | true => simp [hd]
    | false => simp [hd]
  · simp [hd]

theorem endTag_kept {name : Text} (h : HtmlForest.isIgnored P name = false) :
    (e.endTag (P.casefold name)).parts =
        (if e.ignoredDepth = 0 then e.parts ++ HtmlForest.boundary P name else e.parts) ∧
      (e.endTag (P.casefold name)).ignoredDepth = e.ignoredDepth := by
  unfold HtmlForest.isIgnored at h
  unfold endTag HtmlForest.boundary
  rw [h, if_neg Bool.false_ne_true]
  by_cases hd : e.ignoredDepth = 0
  · cases hb : blockElements.contains (P.casefold name) with
    | true => simp [hd]
    | false => simp [hd]
  · simp [hd]

theorem not_ignored_of_void {name : Text} (h : voidElements.contains name = true) :
    ignoredElements.contains name = false := by
  have hall : voidElements.all (fun n => !ignoredElements.contains n) = true := by decide
  have := List.all_eq_true.1 hall name (List.contains_iff_mem.1 h)
  rwa [Bool.not_eq_true'] at this

theorem startTag_inside (he : e.ignoredDepth ≠ 0) (name : Text) :
    (e.startTag (P.casefold name)).parts = e.parts ∧ (e.startTag (P.casefold name)).ignoredDepth =
      e.ignoredDepth + if HtmlForest.isIgnored P name then 1 else 0 := by
  cases hn : HtmlForest.isIgnored P name with
  | true => exact startTag_ignored hn
  | false =>
    obtain ⟨hparts, hdepth⟩ := startTag_kept (e := e) hn
    exact ⟨hparts.trans (if_neg he), hdepth⟩

theorem endTag_inside (he : e.ignoredDepth ≠ 0) (name : Text) :
    (e.endTag (P.casefold name)).parts = e.parts ∧ (e.endTag (P.casefold name)).ignoredDepth =
      e.ignoredDepth - if HtmlForest.isIgnored P name then 1 else 0 := by
  cases hn : HtmlForest.isIgnored P name with
  | true => exact endTag_ignored hn
  | false =>
    obtain ⟨hparts, hdepth⟩ := endTag_kept (e := e) hn
    exact ⟨hparts.trans (if_neg he), hdepth⟩

theorem extract_inside (f : HtmlForest) (hf : f.WellFormed P) {e : TextExtractor} (he : e.ignoredDepth ≠ 0) :
    ((f.emitted P).foldl extractToken e).parts = e.parts ∧
      e.ignoredDepth ≤ ((f.emitted P).foldl extractToken e).ignoredDepth ∧
      (f.embeds P = 0 → ((f.emitted P).foldl extractToken e).ignoredDepth = e.ignoredDepth) := by
  -- the depth never falls below where it was entered, so no text is kept
  induction f generalizing e with
  | nil => exact ⟨rfl, Nat.le_refl _, fun _ => rfl⟩
  | text t rest ih =>
    have hrun : ((HtmlForest.text t rest).emitted P).foldl extractToken e = (rest.emitted P).foldl extractToken e := by
      show (rest.emitted P).foldl extractToken (e.extractToken (.data t)) = _
      rw [show e.extractToken (.data t) = e from if_neg he]
    rw [hrun]
    exact ih hf he
  | comment t rest ih => exact ih hf he
  | void name attrs rest ih =>
    rw [HtmlForest.emitted, HtmlForest.embeds]
    cases hn : HtmlForest.isDropped P name with
    | true => exact ⟨rfl, Nat.le_refl _, fun _ => rfl⟩
    | false =>
      rw [if_neg Bool.false_ne_true, if_neg Bool.false_ne_true, Nat.zero_add, List.foldl_cons]
      obtain ⟨hparts, hdepth⟩ := startTag_inside (P := P) he name
      rw [show HtmlForest.isIgnored P name = false from not_ignored_of_void hf.1.2, if_neg Bool.false_ne_true,
        Nat.add_zero] at hdepth
      have ih := ih hf.2 (e := e.startTag (P.casefold name)) (by rw [hdepth]; exact he)
      rw [hparts, hdepth] at ih
      exact ih
  | selfClosing name attrs rest ih =>
    rw [HtmlForest.emitted, HtmlForest.embeds]
    obtain ⟨hparts, hdepth⟩ := startTag_inside (P := P) he name
    cases hn : HtmlForest.isDropped P name with
    | true => exact ih hf.2 he
    | false =>
      rw [if_neg Bool.false_ne_true]
      cases hv : voidElements.contains (P.casefold name) with
      | true =>
        rw [if_pos rfl, List.foldl_cons]
        rw [show HtmlForest.isIgnored P name = false from not_ignored_of_void hv, if_neg Bool.false_ne_true,
          Nat.add_zero] at hdepth
        have ih := ih hf.2 (e := e.startTag (P.casefold name)) (by rw [hdepth]; exact he)
        rw [hparts, hdepth] at ih
        exact ih
      | false =>
        rw [if_neg Bool.false_ne_true, List.foldl_cons, List.foldl_cons]
        obtain ⟨eparts, edepth⟩ :=
          endTag_inside (P := P) (e := e.startTag (P.casefold name)) (by omega) name
        rw [hdepth, Nat.add_sub_cancel] at edepth
        have ih := ih hf.2 (e := (e.startTag (P.casefold name)).endTag (P.casefold name)) (by rw [edepth]; exact he)
        rw [eparts, hparts, edepth] at ih
        exact ih
  | element name attrs children rest ihc ihr =>
    obtain ⟨⟨-, hv⟩, hchildren, hrest⟩ := hf
    rw [HtmlForest.emitted, HtmlForest.embeds]
    cases hn : HtmlForest.isDropped P name with
    | true =>
      rw [if_pos rfl]
      by_cases hopen : children.embeds P = 0
      · rw [if_pos hopen, hopen, Nat.zero_add]
        exact ihr hrest he
      · rw [if_neg hopen]
        exact ⟨rfl, Nat.le_refl _, fun h => absurd (Nat.eq_zero_of_add_eq_zero h).1 hopen⟩
    | false =>
      rw [if_neg Bool.false_ne_true, List.foldl_cons, List.foldl_append]
      obtain ⟨hparts, hdepth⟩ := startTag_inside (P := P) he name
      obtain ⟨cparts, cle, cdepth⟩ := ihc hchildren (e := e.startTag (P.casefold name)) (by omega)
      have hstart : e.extractToken (.startTag (P.casefold name) (HtmlForest.selected P attrs)) =
        e.startTag (P.casefold name) := rfl
      rw [hstart]
      generalize (children.emitted P).foldl extractToken (e.startTag (P.casefold name)) = e₁ at cparts cle cdepth ⊢
      by_cases hopen : children.embeds P = 0
      · rw [if_pos hopen, hopen, Nat.zero_add, List.foldl_cons]
        obtain ⟨eparts, edepth⟩ := endTag_inside (P := P) (e := e₁) (by omega) name
        rw [cdepth hopen, hdepth, Nat.add_sub_cancel] at edepth
        have ih := ihr hrest (e := e₁.endTag (P.casefold name)) (by rw [edepth]; exact he)
        rw [eparts, cparts, hparts, edepth] at ih
        exact ih
      · rw [if_neg hopen]
        refine ⟨cparts.trans hparts, ?_, fun h => absurd (Nat.eq_zero_of_add_eq_zero h).1 hopen⟩
        show _ ≤ e₁.ignoredDepth
        omega

theorem extract_outside (f : HtmlForest) (hf : f.WellFormed P) {e : TextExtractor} (he : e.ignoredDepth = 0) :
    ((f.emitted P).foldl extractToken e).parts = e.parts ++ f.keptBefore P ∧
      (f.embeds P = 0 → ((f.emitted P).foldl extractToken e).ignoredDepth = 0) := by
  -- the same split at the first `embed` as in `sanitize_outside`
  induction f generalizing e with
  | nil => exact ⟨(List.append_nil _).symm, fun _ => he⟩
  | text t rest ih =>
    have hdata : e.extractToken (.data t) = { e with parts := e.parts ++ t } := if_pos he
    obtain ⟨ihparts, ihdepth⟩ := ih hf (e := e.extractToken (.data t)) (by rw [hdata]; exact he)
    refine ⟨ihparts.trans ?_, ihdepth⟩
    rw [hdata]
    exact List.append_assoc _ _ _
  | comment t rest ih => exact ih hf he
  | void name attrs rest ih =>
    rw [HtmlForest.emitted, HtmlForest.embeds, HtmlForest.keptBefore]
    cases hn : HtmlForest.isDropped P name with
    | true => exact ⟨(List.append_nil _).symm, fun _ => he⟩
    | false =>
      rw [if_neg Bool.false_ne_true, if_neg Bool.false_ne_true, if_neg Bool.false_ne_true, Nat.zero_add,
        List.foldl_cons]
      obtain ⟨hparts, hdepth⟩ := startTag_kept (e := e)
        (show HtmlForest.isIgnored P name = false from not_ignored_of_void hf.1.2)
      rw [if_pos he] at hparts
      obtain ⟨ihparts, ihdepth⟩ := ih hf.2 (e := e.startTag (P.casefold name)) (hdepth.trans he)
      refine ⟨ihparts.trans ?_, ihdepth⟩
      rw [hparts, List.append_assoc]
  | selfClosing name attrs rest ih =>
    rw [HtmlForest.emitted, HtmlForest.embeds, HtmlForest.keptBefore]
    cases hn : HtmlForest.isDropped P name with
    | true => exact ih hf.2 he
    | false =>
      rw [if_neg Bool.false_ne_true, Bool.false_or]
      cases hv : voidElements.contains (P.casefold name) with
      | true =>
        have hi : HtmlForest.isIgnored P name = false := not_ignored_of_void hv
        obtain ⟨hparts, hdepth⟩ := startTag_kept (e := e) hi
        rw [if_pos he] at hparts
        obtain ⟨ihparts, ihdepth⟩ := ih hf.2 (e := e.startTag (P.casefold name)) (hdepth.trans he)
        rw [if_pos rfl, List.foldl_cons, hi, if_neg Bool.false_ne_true, if_pos rfl]
        refine ⟨ihparts.trans ?_, ihdepth⟩
        rw [hparts, List.append_assoc]
      | false =>
        rw [if_neg Bool.false_ne_true, List.foldl_cons, List.foldl_cons]
        cases hi : HtmlForest.isIgnored P name with
        | true =>
          obtain ⟨hparts, hdepth⟩ := startTag_ignored (e := e) hi
          obtain ⟨eparts, edepth⟩ := endTag_ignored (e := e.startTag (P.casefold name)) hi
          obtain ⟨ihparts, ihdepth⟩ :=
            ih hf.2 (e := (e.startTag (P.casefold name)).endTag (P.casefold name)) (by omega)
          refine ⟨ihparts.trans ?_, ihdepth⟩
          rw [eparts, hparts, if_pos rfl, List.nil_append]
        | false =>
          obtain ⟨hparts, hdepth⟩ := startTag_kept (e := e) hi
          obtain ⟨eparts, edepth⟩ := endTag_kept (e := e.startTag (P.casefold name)) hi
          rw [hdepth, if_pos he, hparts, if_pos he] at eparts
          obtain ⟨ihparts, ihdepth⟩ :=
            ih hf.2 (e := (e.startTag (P.casefold name)).endTag (P.casefold name)) (by omega)
          refine ⟨ihparts.trans ?_, ihdepth⟩
          rw [eparts, if_neg Bool.false_ne_true, if_neg Bool.false_ne_true]
          simp only [List.append_assoc]
  | element name attrs children rest ihc ihr =>
    obtain ⟨⟨-, hv⟩, hchildren, hrest⟩ := hf
    rw [HtmlForest.emitted, HtmlForest.embeds, HtmlForest.keptBefore]
    cases hn : HtmlForest.isDropped P name with
    | true =>
      rw [if_pos rfl, Bool.true_or, if_pos rfl]
      by_cases hopen : children.embeds P = 0
      · rw [if_pos hopen, if_pos hopen, hopen, Nat.zero_add]
        exact ihr hrest he
      · rw [if_neg hopen, if_neg hopen]
        exact ⟨(List.append_nil _).symm, fun _ => he⟩
    | false =>
      rw [if_neg Bool.false_ne_true, Bool.false_or, List.foldl_cons, List.foldl_append]
      have hstart : e.extractToken (.startTag (P.casefold name) (HtmlForest.selected P attrs)) =
        e.startTag (P.casefold name) := rfl
      rw [hstart]
      cases hi : HtmlForest.isIgnored P name with
      | true =>
        obtain ⟨hparts, hdepth⟩ := startTag_ignored (e := e) hi
        obtain ⟨cparts, -, cdepth⟩ := extract_inside children hchildren (e := e.startTag (P.casefold name)) (by omega)
        generalize (children.emitted P).foldl extractToken (e.startTag (P.casefold name)) = e₁ at cparts cdepth ⊢
        rw [if_pos rfl]
        by_cases hopen : children.embeds P = 0
        · rw [if_pos hopen, if_pos hopen, hopen, Nat.zero_add, List.foldl_cons]
          obtain ⟨eparts, edepth⟩ := endTag_ignored (e := e₁) hi
          have hback := cdepth hopen
          obtain ⟨ihparts, ihdepth⟩ := ihr hrest (e := e₁.endTag (P.casefold name)) (by omega)
          refine ⟨ihparts.trans ?_, ihdepth⟩
          rw [eparts, cparts, hparts]
        · rw [if_neg hopen, if_neg hopen]
          exact ⟨(cparts.trans hparts).trans (List.append_nil _).symm,
            fun h => absurd (Nat.eq_zero_of_add_eq_zero h).1 hopen⟩
      | false =>
        obtain ⟨hparts, hdepth⟩ := startTag_kept (e := e) hi
        rw [if_pos he] at hparts
        obtain ⟨cparts, cdepth⟩ := ihc hchildren (e := e.startTag (P.casefold name)) (hdepth.trans he)
        generalize (children.emitted P).foldl extractToken (e.startTag (P.casefold name)) = e₁ at cparts cdepth ⊢
        rw [if_neg Bool.false_ne_true]
        by_cases hopen : children.embeds P = 0
        · rw [if_pos hopen, if_pos hopen, hopen, Nat.zero_add, List.foldl_cons]
          obtain ⟨eparts, edepth⟩ := endTag_kept (e := e₁) hi
          have hback := cdepth hopen
          rw [if_pos hback, cparts, hparts] at eparts
          obtain ⟨ihparts, ihdepth⟩ := ihr hrest (e := e₁.endTag (P.casefold name)) (edepth.trans hback)
          refine ⟨ihparts.trans ?_, ihdepth⟩
          rw [eparts]
          simp only [List.append_assoc]
        · rw [if_neg hopen, if_neg hopen]
          refine ⟨?_, fun h => absurd (Nat.eq_zero_of_add_eq_zero h).1 hopen⟩
          show e₁.parts = _
          rw [cparts, hparts]
          simp only [List.append_assoc, List.append_nil]

end TextExtractor

/-! ### white space behind a text -/

/-- A pass over the characters with a state. -/
def transduce {σ : Type} (next : σ → Char → σ) (out : σ → Char → Text) : σ → Text → Text
  | _, [] => []
  | s, c :: t => out s c ++ transduce next out (next s c) t

def weightOf (weight : Char → Nat) (t : Text) : Nat := (t.map weight).sum

theorem weightOf_append {weight : Char → Nat} (t u : Text) :
    weightOf weight (t ++ u) = weightOf weight t + weightOf weight u := by
  unfold weightOf
  rw [List.map_append, List.sum_append]

section transduce

variable {σ : Type} {next : σ → Char → σ} {out : σ → Char → Text} {weight : Char → Nat}

theorem transduce_append (s : σ) (t w : Text) :
    transduce next out s (t ++ w) = transduce next out s t ++ transduce next out (t.foldl next s) w := by
  induction t generalizing s with
  | nil => rfl
  | cons c t ih => rw [List.cons_append, transduce, transduce, ih, List.append_assoc, List.foldl_cons]

theorem weightOf_transduce (h : ∀ s c, weightOf weight (out s c) = weight c) (s : σ) (t : Text) :
    weightOf weight (transduce next out s t) = weightOf weight t := by
  induction t generalizing s with
  | nil => rfl
  | cons c t ih => rw [transduce, weightOf_append, ih, h]; rfl

theorem weightOf_eq_zero (hw : ∀ c, weight c = 0 ↔ Text.isSpace c = true) {t : Text} :
    weightOf weight t = 0 ↔ t.isBlank = true := by
  induction t with
  | nil => exact iff_of_true rfl rfl
  | cons c t ih =>
    show weight c + weightOf weight t = 0 ↔ (Text.isSpace c && Text.isBlank t) = true
    rw [Nat.add_eq_zero_iff, Bool.and_eq_true, hw, ih]

end transduce

def nextNewline (_ : Bool) (c : Char) : Bool := c == '\r'

def outNewline (afterReturn : Bool) (c : Char) : Text :=
  if c = '\r' then ['\n'] else if afterReturn = true ∧ c = '\n' then [] else [c]

theorem unifyNewlines_eq (t : Text) : Text.unifyNewlines t = transduce nextNewline outNewline false t := by
  induction t using Text.unifyNewlines.induct with
  | case1 t ih => rw [Text.unifyNewlines, ih]; rfl
  | case2 t hne ih =>
    rw [Text.unifyNewlines.eq_2 t hne, ih]
    show _ = '\n' :: transduce nextNewline outNewline true t
    cases t with
    | nil => rfl
    | cons c t =>
      have hc : c ≠ '\n' := fun h => hne t (h ▸ rfl)
      simp [transduce, outNewline, nextNewline, hc]
  | case3 c t hr hne ih =>
    have hc : (c == '\r') = false := beq_eq_false_iff_ne.2 hne
    rw [Text.unifyNewlines.eq_3 c t hr hne, ih, transduce, outNewline, nextNewline, hc, if_neg hne]
    rfl
  | case4 => rfl

def nextSpace (_ : Bool) (c : Char) : Bool := Text.isSpace c && c != '\n'

def outSpace (inRun : Bool) (c : Char) : Text :=
  if Text.isSpace c && c != '\n' then if inRun then [] else [' '] else [c]

theorem collapseSpaces_eq (inRun : Bool) (t : Text) : collapseSpaces inRun t = transduce nextSpace outSpace inRun t := by
  induction t generalizing inRun with
  | nil => rfl
  | cons c t ih =>
    rw [transduce, ← ih, collapseSpaces, outSpace, nextSpace]
    cases Text.isSpace c && c != '\n' with
    | true => cases inRun <;> rfl
    | false => rfl

def nextBlank (n : Nat) (c : Char) : Nat := if c = '\n' then n + 1 else 0

def outBlank (n : Nat) (c : Char) : Text := if c = '\n' then if n < 2 then [c] else [] else [c]

theorem collapseBlanks_eq (n : Nat) (t : Text) : collapseBlanks n t = transduce nextBlank outBlank n t := by
  induction t generalizing n with
  | nil => rfl
  | cons c t ih =>
    rw [transduce, ← ih, collapseBlanks, outBlank, nextBlank]
    split
    · split <;> rfl
    · rfl

section passes

variable {weight : Char → Nat} (hw : ∀ c, weight c = 0 ↔ Text.isSpace c = true)

include hw

theorem weightOf_singleton {c d : Char} (hc : Text.isSpace c = true) (hd : Text.isSpace d = true) :
    weightOf weight [d] = weight c := by
  show weight d + 0 = weight c
  rw [(hw d).2 hd, (hw c).2 hc]

theorem weightOf_outNewline (s : Bool) (c : Char) : weightOf weight (outNewline s c) = weight c := by
  unfold outNewline
  split
  · rename_i h
    exact h ▸ weightOf_singleton hw (by decide) (by decide)
  · split
    · rename_i h
      exact ((hw c).2 (by rw [h.2]; decide)).symm
    · exact Nat.add_zero _

theorem weightOf_outSpace (s : Bool) (c : Char) : weightOf weight (outSpace s c) = weight c := by
  unfold outSpace
  split
  · rename_i h
    have hc : Text.isSpace c = true := (Bool.and_eq_true_iff.1 h).1
    split
    · exact ((hw c).2 hc).symm
    · exact weightOf_singleton hw hc (by decide)
  · exact Nat.add_zero _

theorem weightOf_outBlank (n : Nat) (c : Char) : weightOf weight (outBlank n c) = weight c := by
  unfold outBlank
  split
  · rename_i h
    split
    · exact Nat.add_zero _
    · exact ((hw c).2 (by rw [h]; decide)).symm
  · exact Nat.add_zero _

theorem weightOf_stripText (t : Text) : weightOf weight (stripText t) = weightOf weight t := by
  have hdrop (t : Text) : weightOf weight (t.dropWhile Text.isSpace) = weightOf weight t := by
    have hfront : weightOf weight (t.takeWhile Text.isSpace) = 0 := (weightOf_eq_zero hw).2 List.all_takeWhile
    have hsplit : weightOf weight (t.takeWhile Text.isSpace ++ t.dropWhile Text.isSpace) = _ := weightOf_append _ _
    rw [List.takeWhile_append_dropWhile, hfront, Nat.zero_add] at hsplit
    exact hsplit.symm
  have hreverse (t : Text) : weightOf weight t.reverse = weightOf weight t := by
    unfold weightOf
    rw [List.map_reverse, List.sum_reverse]
  unfold stripText
  rw [hreverse, hdrop, hreverse, hdrop]

end passes

theorem stripText_append {w : Text} (h : w.isBlank = true) (t : Text) : stripText (t ++ w) = stripText t := by
  have hblank : ∀ c ∈ w, Text.isSpace c = true := List.all_eq_true.1 h
  have hnil : w.dropWhile Text.isSpace = [] := by
    have hall : (w ++ []).dropWhile Text.isSpace = [] := List.dropWhile_append_of_pos hblank
    rwa [List.append_nil] at hall
  unfold stripText
  rw [List.dropWhile_append]
  split
  · rename_i hempty
    rw [hnil, List.isEmpty_iff.1 hempty]
  · rw [List.reverse_append, List.dropWhile_append_of_pos fun c hc => hblank c (List.mem_reverse.1 hc)]

namespace HtmlPlatform

variable {P : HtmlPlatform}

theorem weightOf_cleanPlainText {weight : Char → Nat} (hw : ∀ c, weight c = 0 ↔ Text.isSpace c = true)
    (hnfc : ∀ t, weightOf weight (P.nfc t) = weightOf weight t) (t : Text) :
    weightOf weight (P.cleanPlainText t) = weightOf weight t := by
  unfold cleanPlainText
  rw [weightOf_stripText hw, collapseBlanks_eq, weightOf_transduce (weightOf_outBlank hw), collapseSpaces_eq,
    weightOf_transduce (weightOf_outSpace hw), hnfc, unifyNewlines_eq, weightOf_transduce (weightOf_outNewline hw)]

theorem cleanPlainText_append (hP : P.Lawful) {w : Text} (h : w.isBlank = true) (t : Text) :
    P.cleanPlainText (t ++ w) = P.cleanPlainText t := by
  obtain ⟨weight, hw, -⟩ := hP.nfc_weight
  -- each pass leaves the passed text and then white space
  have hpass {σ : Type} (next : σ → Char → σ) {out : σ → Char → Text} (s : σ)
      (hout : ∀ s c, weightOf weight (out s c) = weight c) (t : Text) {w : Text} (h : w.isBlank = true) :
      ∃ w', w'.isBlank = true ∧ transduce next out s (t ++ w) = transduce next out s t ++ w' := by
    refine ⟨_, ?_, transduce_append s t w⟩
    rw [← weightOf_eq_zero hw, weightOf_transduce hout, weightOf_eq_zero hw, h]
  unfold cleanPlainText
  obtain ⟨w₁, h₁, heq₁⟩ := hpass nextNewline false (weightOf_outNewline hw) t h
  rw [unifyNewlines_eq, unifyNewlines_eq, heq₁]
  obtain ⟨w₂, h₂, heq₂⟩ := hP.nfc_blank (transduce nextNewline outNewline false t) w₁ h₁
  rw [heq₂, collapseSpaces_eq, collapseSpaces_eq]
  obtain ⟨w₃, h₃, heq₃⟩ := hpass nextSpace false (weightOf_outSpace hw) (P.nfc _) h₂
  rw [heq₃, collapseBlanks_eq, collapseBlanks_eq]
  obtain ⟨w₄, h₄, heq₄⟩ := hpass nextBlank 0 (weightOf_outBlank hw) (transduce nextSpace outSpace false _) h₃
  rw [heq₄, stripText_append h₄]

/-- The kept text is that before the first `embed` and what is kept behind it, which is nothing without an `embed`. -/
theorem keptText_eq (f : HtmlForest) :
    ∃ tail, f.keptText P = f.keptBefore P ++ tail ∧ (f.embeds P = 0 → tail = []) := by
  induction f with
  | nil => exact ⟨[], rfl, fun _ => rfl⟩
  | text t rest ih =>
    obtain ⟨tail, htail, hnil⟩ := ih
    exact ⟨tail, by rw [HtmlForest.keptText, HtmlForest.keptBefore, htail, List.append_assoc], hnil⟩
  | comment t rest ih => exact ih
  | void name attrs rest ih =>
    rw [HtmlForest.keptText, HtmlForest.keptBefore, HtmlForest.embeds]
    cases hn : HtmlForest.isDropped P name with
    | true => exact ⟨rest.keptText P, rfl, fun h => absurd h (by rw [if_pos rfl]; omega)⟩
    | false =>
      obtain ⟨tail, htail, hnil⟩ := ih
      refine ⟨tail, ?_, fun h => hnil (by rw [if_neg Bool.false_ne_true] at h; omega)⟩
      rw [if_neg Bool.false_ne_true, if_neg Bool.false_ne_true, htail, List.append_assoc]
  | selfClosing name attrs rest ih =>
    obtain ⟨tail, htail, hnil⟩ := ih
    exact ⟨tail, by rw [HtmlForest.keptText, HtmlForest.keptBefore, htail, List.append_assoc], hnil⟩
  | element name attrs children rest ihc ihr =>
    obtain ⟨tail, htail, hnil⟩ := ihr
    obtain ⟨inner, hinner, hinnerNil⟩ := ihc
    rw [HtmlForest.keptText, HtmlForest.keptBefore, HtmlForest.embeds]
    by_cases hopen : children.embeds P = 0
    · rw [if_pos hopen, if_pos hopen, hinner, hinnerNil hopen, htail]
      refine ⟨tail, ?_, fun h => hnil (by omega)⟩
      split
      · rfl
      · simp only [List.append_assoc, List.append_nil]
    · rw [if_neg hopen, if_neg hopen, hinner]
      have hlost : ¬(children.embeds P + rest.embeds P = 0) := by omega
      split
      · exact ⟨rest.keptText P, rfl, fun h => absurd h hlost⟩
      · refine ⟨inner ++ (HtmlForest.boundary P name ++ rest.keptText P), ?_, fun h => absurd h hlost⟩
        simp only [List.append_assoc, List.append_nil]

/-- The stream has no start tag of a void dropped element, or only white space is kept behind the first one. -/
def NothingLost (P : HtmlPlatform) (f : HtmlForest) : Prop :=
  f.embeds P = 0 ∨ ∃ tail, f.keptText P = f.keptBefore P ++ tail ∧ tail.isBlank = true

theorem nothingLost_iff (hP : P.Lawful) (f : HtmlForest) :
    P.cleanPlainText (f.keptBefore P) = P.cleanPlainText (f.keptText P) ↔ P.NothingLost f := by
  obtain ⟨tail, htail, hnil⟩ := keptText_eq (P := P) f
  constructor
  · intro h
    obtain ⟨weight, hw, hnfc⟩ := hP.nfc_weight
    have hweights := congrArg (weightOf weight) h
    rw [weightOf_cleanPlainText hw hnfc, weightOf_cleanPlainText hw hnfc, htail, weightOf_append] at hweights
    exact .inr ⟨tail, htail, (weightOf_eq_zero hw).1 (by omega)⟩
  · rintro (h | ⟨tail', htail', hblank⟩)
    · rw [htail, hnil h, List.append_nil]
    · rw [htail', cleanPlainText_append hP hblank]

theorem admitText_inj {t u : Text} : admitText t = admitText u ↔ t = u := by
  refine ⟨fun h => ?_, fun h => h ▸ rfl⟩
  cases t with
  | nil =>
    cases u with
    | nil => rfl
    | cons c u => cases h
  | cons c t =>
    cases u with
    | nil => cases h
    | cons d u => exact Except.ok.inj h

theorem sanitizeHtml_eq (hP : P.Lawful) {html : Text} {f : HtmlForest} (hf : f.WellFormed P)
    (hparse : joinData (P.parse html) = joinData f.tokens) :
    P.sanitizeHtml html = writeTokens (f.emitted P) ∧
      P.sanitizeHtml (writeTokens (f.emitted P)) = writeTokens (f.emitted P) := by
  have hwritten := written_emitted hP f hf
  refine ⟨?_, ?_⟩
  · rw [sanitizeHtml_of_joinData hparse, (sanitize_outside hP.casefold_casefold f hf rfl).1]
    rfl
  · rw [sanitizeHtml_of_joinData (parse_written hP hwritten),
      foldl_lowered (fun s token _ => sanitizeToken_lowered hP s token) hwritten, sanitize_written hwritten rfl]
    rfl

theorem cleanHtmlRepresentation_eq (hP : P.Lawful) {html : Text} {f : HtmlForest} (hf : f.WellFormed P)
    (hparse : joinData (P.parse html) = joinData f.tokens) :
    P.cleanHtmlRepresentation html = admitText (P.cleanPlainText (f.keptBefore P)) := by
  have hwritten := written_emitted hP f hf
  unfold cleanHtmlRepresentation
  rw [(sanitizeHtml_eq hP hf hparse).1, TextExtractor.extract_of_joinData (parse_written hP hwritten),
    foldl_lowered (TextExtractor.extractToken_lowered hP) hwritten, (TextExtractor.extract_outside f hf rfl).1]
  rfl

/-- The cleaned text is that of all the kept text, and the sanitizer returns its own output, exactly if nothing is lost
behind an `embed`. -/
theorem htmlCleaning_iff (P : HtmlPlatform) (hP : P.Lawful) (html : Text) (f : HtmlForest) (hf : f.WellFormed P)
    (hparse : joinData (P.parse html) = joinData f.tokens) :
    P.cleanHtmlRepresentation html = admitText (P.cleanPlainText (f.keptText P)) ∧
        P.sanitizeHtml (P.sanitizeHtml html) = P.sanitizeHtml html ↔
      P.NothingLost f := by
  obtain ⟨hout, hagain⟩ := sanitizeHtml_eq hP hf hparse
  rw [cleanHtmlRepresentation_eq hP hf hparse, hout, hagain, admitText_inj, ← nothingLost_iff hP]
  exact and_iff_left rfl

end HtmlPlatform

/-! ### a parser of markup -/

/-- The first character of a text, and the rest of the text behind its spelling. -/
def readChar : Text → Char × Text
  | '&' :: 'a' :: 'm' :: 'p' :: ';' :: t => ('&', t)
  | '&' :: 'l' :: 't' :: ';' :: t => ('<', t)
  | '&' :: 'g' :: 't' :: ';' :: t => ('>', t)
  | '&' :: 'q' :: 'u' :: 'o' :: 't' :: ';' :: t => (Char.ofNat 34, t)
  | '&' :: '#' :: 'x' :: '2' :: '7' :: ';' :: t => (Char.ofNat 39, t)
  | c :: t => (c, t)
  | [] => (' ', [])

/-- The text up to a quote, and the rest behind it. -/
def readValue : Nat → Text → Text × Text
  | 0, t => ([], t)
  | n + 1, t =>
    if t.head? = some (Char.ofNat 34) then ([], t.tail)
    else ((readChar t).1 :: (readValue n (readChar t).2).1, (readValue n (readChar t).2).2)

def readAttributes : Nat → Text → List (Text × Option Text) × Text
  | n + 1, ' ' :: t =>
    match t.dropWhile Char.isLower with
    | '=' :: _ :: rest =>
      ((t.takeWhile Char.isLower, some (readValue rest.length rest).1) ::
        (readAttributes n (readValue rest.length rest).2).1, (readAttributes n (readValue rest.length rest).2).2)
    | rest => ((t.takeWhile Char.isLower, none) :: (readAttributes n rest).1, (readAttributes n rest).2)
  | _, t => ([], t)

def readMarkup : Nat → Text → List HtmlToken
  | n + 1, '<' :: '/' :: t => .endTag (t.takeWhile isNameChar) :: readMarkup n (t.dropWhile isNameChar).tail
  | n + 1, '<' :: t =>
    .startTag (t.takeWhile isNameChar) (readAttributes t.length (t.dropWhile isNameChar)).1 ::
      readMarkup n (readAttributes t.length (t.dropWhile isNameChar)).2.tail
  | n + 1, c :: t => .data [(readChar (c :: t)).1] :: readMarkup n (readChar (c :: t)).2
  | _, _ => []

theorem readChar_reference {r : Text × Char} (h : r ∈ references) (t : Text) : readChar (r.1 ++ t) = (r.2, t) := by
  simp only [references, List.mem_cons, List.not_mem_nil, or_false] at h
  rcases h with rfl | rfl | rfl | rfl | rfl <;> rfl

theorem readChar_char {c : Char} (h : c ≠ '&') (t : Text) : readChar (c :: t) = (c, t) := by
  simp [readChar, h]

theorem span_of_stop {p : Char → Bool} {name : Text} (rest : Text) (hname : name.all p = true)
    (hrest : ∀ c ∈ rest.head?, p c = false) :
    (name ++ rest).takeWhile p = name ∧ (name ++ rest).dropWhile p = rest := by
  have hall := List.all_eq_true.1 hname
  rw [List.takeWhile_append_of_pos hall, List.dropWhile_append_of_pos hall]
  cases rest with
  | nil => exact ⟨List.append_nil _, rfl⟩
  | cons c t =>
    have hc := hrest c rfl
    rw [List.takeWhile_cons_of_neg (by rw [hc]; exact Bool.false_ne_true), List.append_nil,
      List.dropWhile_cons_of_neg (by rw [hc]; exact Bool.false_ne_true)]
    exact ⟨rfl, rfl⟩

theorem readValue_spells {raw value : Text} (h : Spells (Char.ofNat 34) raw value) (rest : Text) {n : Nat}
    (hn : raw.length < n) : readValue n (raw ++ Char.ofNat 34 :: rest) = (value, rest) := by
  induction h generalizing n with
  | nil =>
    obtain ⟨n, rfl⟩ := Nat.exists_eq_succ_of_ne_zero (by omega : n ≠ 0)
    rfl
  | @char c raw t hstop hamp _ ih =>
    obtain ⟨n, rfl⟩ := Nat.exists_eq_succ_of_ne_zero (by omega : n ≠ 0)
    rw [List.length_cons] at hn
    rw [List.cons_append, readValue, if_neg (by simpa using hstop), readChar_char hamp, ih (by omega)]
  | @reference r raw t hr _ ih =>
    obtain ⟨n, rfl⟩ := Nat.exists_eq_succ_of_ne_zero (by omega : n ≠ 0)
    have hhead : references.all (fun r => r.1.head? == some '&') = true := by decide
    have hr' := List.all_eq_true.1 hhead r hr
    rw [beq_iff_eq, List.head?_eq_some_iff] at hr'
    obtain ⟨r', hr'⟩ := hr'
    rw [List.length_append, hr', List.length_cons] at hn
    rw [List.append_assoc, readValue, if_neg (by rw [hr']; exact nofun), readChar_reference hr, ih (by omega)]

theorem SpellsAttributes.head {raw : Text} {attrs : List (Text × Option Text)} (h : SpellsAttributes raw attrs)
    (rest : Text) : (raw ++ '>' :: rest).head? = some ' ' ∨ (raw ++ '>' :: rest).head? = some '>' := by
  cases h with
  | nil => exact .inr rfl
  | bare => exact .inl rfl
  | valued => exact .inl rfl

theorem readAttributes_spells {raw : Text} {attrs : List (Text × Option Text)} (h : SpellsAttributes raw attrs)
    (rest : Text) {n : Nat} (hn : raw.length ≤ n) : readAttributes n (raw ++ '>' :: rest) = (attrs, '>' :: rest) := by
  induction h generalizing n with
  | nil => cases n <;> rfl
  | @bare name raw attrs _ hname hraw ih =>
    obtain ⟨n, rfl⟩ := Nat.exists_eq_succ_of_ne_zero (by rw [List.length_append, List.length_cons] at hn; omega : n ≠ 0)
    rw [List.length_append, List.length_cons] at hn
    obtain ⟨htake, hdrop⟩ := span_of_stop (raw ++ '>' :: rest) hname fun c hc => by
      rcases hraw.head rest with h | h <;> rw [h] at hc <;> cases hc <;> decide
    rw [List.cons_append, List.cons_append, List.append_assoc, readAttributes]
    have hquote : ∀ d t, raw ++ '>' :: rest ≠ '=' :: d :: t := fun d t heq => by
      rcases hraw.head rest with h | h <;> rw [heq] at h <;> cases h
    simp only [htake, hdrop, ih (by omega : raw.length ≤ n)]
  | @valued name rawValue value raw attrs _ hname hvalue _ ih =>
    have hsplit : (' ' :: name ++ '=' :: Char.ofNat 34 :: rawValue ++ Char.ofNat 34 :: raw) ++ '>' :: rest =
        ' ' :: (name ++ '=' :: Char.ofNat 34 :: (rawValue ++ Char.ofNat 34 :: (raw ++ '>' :: rest))) := by simp
    simp only [List.length_append, List.length_cons] at hn
    obtain ⟨n, rfl⟩ := Nat.exists_eq_succ_of_ne_zero (by omega : n ≠ 0)
    obtain ⟨htake, hdrop⟩ := span_of_stop
      ('=' :: Char.ofNat 34 :: (rawValue ++ Char.ofNat 34 :: (raw ++ '>' :: rest))) hname fun c hc => by
        cases hc; decide
    have hread := readValue_spells hvalue (raw ++ '>' :: rest) (n := (rawValue ++ Char.ofNat 34 ::
      (raw ++ '>' :: rest)).length) (by rw [List.length_append, List.length_cons]; omega)
    rw [hsplit, readAttributes]
    simp only [htake, hdrop, hread, ih (by omega : raw.length ≤ n)]

/-- The text is read as the tokens, up to where texts are cut. -/
def ReadsAs (text : Text) (ts : List HtmlToken) : Prop :=
  ∀ n, text.length ≤ n → joinData (readMarkup n text) = joinData ts

theorem joinData_cons (token : HtmlToken) {ts us : List HtmlToken} (h : joinData ts = joinData us) :
    joinData (token :: ts) = joinData (token :: us) := by
  cases token with
  | data t => unfold joinData; rw [h]
  | _ => exact congrArg (_ :: ·) h

theorem joinData_nil (ts : List HtmlToken) : joinData (.data [] :: ts) = joinData ts := by
  rw [joinData]
  split
  · rename_i h
    rw [h]
    rfl
  · rfl

theorem joinData_data (t u : Text) (ts : List HtmlToken) :
    joinData (.data t :: .data u :: ts) = joinData (.data (t ++ u) :: ts) := by
  rw [joinData, joinData, joinData]
  cases joinData ts with
  | nil => cases u <;> simp
  | cons token r =>
    cases token with
    | data v => exact congrArg (fun w => HtmlToken.data w :: r) (List.append_assoc t u v).symm
    | _ => cases u <;> simp

theorem readsAs_data {raw t : Text} (h : Spells '<' raw t) {rest : Text} {ts : List HtmlToken} (hrest : ReadsAs rest ts) :
    ReadsAs (raw ++ rest) (.data t :: ts) := by
  induction h with
  | nil =>
    intro n hn
    rw [joinData_nil, List.nil_append, hrest n hn]
  | @char c raw t hstop hamp _ ih =>
    intro n hn
    obtain ⟨n, rfl⟩ := Nat.exists_eq_succ_of_ne_zero (by rw [List.cons_append, List.length_cons] at hn; omega : n ≠ 0)
    have hstep : readMarkup (n + 1) (c :: (raw ++ rest)) = .data [c] :: readMarkup n (raw ++ rest) := by
      rw [readMarkup, readChar_char hamp] <;> simp [hstop]
    rw [List.cons_append, hstep, joinData_cons _ (ih n (Nat.le_of_succ_le_succ hn)), joinData_data]
    rfl
  | @reference r raw t hr _ ih =>
    intro n hn
    have hhead : references.all (fun r => r.1.head? == some '&') = true := by decide
    have hr' := List.all_eq_true.1 hhead r hr
    rw [beq_iff_eq, List.head?_eq_some_iff] at hr'
    obtain ⟨r', hr'⟩ := hr'
    have hread := readChar_reference hr (raw ++ rest)
    rw [hr', List.append_assoc, List.cons_append, List.length_cons, List.length_append] at hn
    obtain ⟨n, rfl⟩ := Nat.exists_eq_succ_of_ne_zero (by omega : n ≠ 0)
    have hstep : readMarkup (n + 1) (r.1 ++ (raw ++ rest)) = .data [r.2] :: readMarkup n (raw ++ rest) := by
      rw [hr'] at hread ⊢
      rw [List.cons_append] at hread ⊢
      rw [readMarkup, hread] <;> simp
    rw [List.append_assoc, hstep, joinData_cons _ (ih n (by omega)), joinData_data]
    rfl

theorem isTagName_spec {name : Text} (h : isTagName name = true) :
    name.all isNameChar = true ∧ ∃ c t, name = c :: t ∧ c ≠ '/' := by
  obtain ⟨hhead, hall⟩ := Bool.and_eq_true_iff.1 h
  obtain ⟨c, hc, halpha⟩ := (Option.any_eq_true _ _).1 hhead
  obtain ⟨t, ht⟩ := List.head?_eq_some_iff.1 hc
  exact ⟨hall, c, t, ht, by rintro rfl; cases halpha⟩

theorem readsAs_endTag {name : Text} (h : isTagName name = true) {rest : Text} {ts : List HtmlToken}
    (hrest : ReadsAs rest ts) : ReadsAs (('<' :: '/' :: name ++ ['>']) ++ rest) (.endTag name :: ts) := by
  intro n hn
  obtain ⟨hall, -⟩ := isTagName_spec h
  simp only [List.length_append, List.length_cons] at hn
  obtain ⟨n, rfl⟩ := Nat.exists_eq_succ_of_ne_zero (by omega : n ≠ 0)
  obtain ⟨htake, hdrop⟩ := span_of_stop ('>' :: rest) hall fun c hc => by cases hc; decide
  have hsplit : ('<' :: '/' :: name ++ ['>']) ++ rest = '<' :: '/' :: (name ++ '>' :: rest) := by simp
  rw [hsplit, readMarkup, htake, hdrop]
  exact joinData_cons _ (hrest n (by omega))

theorem readsAs_startTag {name raw : Text} {attrs : List (Text × Option Text)} (h : isTagName name = true)
    (hattrs : SpellsAttributes raw attrs) {rest : Text} {ts : List HtmlToken} (hrest : ReadsAs rest ts) :
    ReadsAs (('<' :: name ++ raw ++ ['>']) ++ rest) (.startTag name attrs :: ts) := by
  intro n hn
  obtain ⟨hall, c, t, hname, hslash⟩ := isTagName_spec h
  simp only [List.length_append, List.length_cons] at hn
  obtain ⟨n, rfl⟩ := Nat.exists_eq_succ_of_ne_zero (by omega : n ≠ 0)
  obtain ⟨htake, hdrop⟩ := span_of_stop (raw ++ '>' :: rest) hall fun c hc => by
    rcases hattrs.head rest with h | h <;> rw [h] at hc <;> cases hc <;> decide
  have hread := readAttributes_spells hattrs rest (n := (name ++ (raw ++ '>' :: rest)).length)
    (by simp only [List.length_append]; omega)
  have hsplit : ('<' :: name ++ raw ++ ['>']) ++ rest = '<' :: (name ++ (raw ++ '>' :: rest)) := by simp
  have hstep : readMarkup (n + 1) ('<' :: (name ++ (raw ++ '>' :: rest))) =
      .startTag name attrs :: readMarkup n rest := by
    rw [readMarkup, htake, hdrop, hread]
    · rfl
    · intro u hu
      rw [hname] at hu
      exact hslash (List.cons.inj hu).1
  rw [hsplit, hstep]
  exact joinData_cons _ (hrest n (by omega))

namespace HtmlPlatform

/-- The parser of markup, on names and texts that folding and the normal form leave alone. -/
def samplePlatform : HtmlPlatform where
  parse html := readMarkup html.length html
  lower := id
  casefold := id
  nfc := id

theorem lawful_samplePlatform : samplePlatform.Lawful where
  parse l hl := by
    have hreads : ReadsAs (l.flatMap Prod.fst) (l.map Prod.snd) := by
      induction l with
      | nil => intro n _; cases n <;> rfl
      | cons p l ih =>
        have hrest := ih (List.forall_mem_cons.1 hl).2
        obtain ⟨raw, token⟩ := p
        rw [List.flatMap_cons, List.map_cons]
        cases (List.forall_mem_cons.1 hl).1 with
        | data h => exact readsAs_data h hrest
        | startTag h _ hattrs => exact readsAs_startTag h hattrs hrest
        | endTag h => exact readsAs_endTag h hrest
    exact hreads _ (Nat.le_refl _)
  casefold_casefold _ := rfl
  casefold_lower _ := rfl
  ascii _ _ := ⟨rfl, rfl⟩
  casefold_tagName _ h := h
  nfc_weight := ⟨fun c => if Text.isSpace c then 0 else 1, fun c => by simp, fun _ => rfl⟩
  nfc_blank _ w h := ⟨w, h, rfl⟩

/-- A text with characters to escape, between tags with an attribute to keep and one to drop. -/
def linked : HtmlForest :=
  .element "p".toList [] (.text "1 < 2 & ".toList (.element "a".toList
    [("href".toList, some "?x=1&y=2".toList), ("id".toList, some "n".toList)] (.text "b".toList .nil) .nil)) .nil

def linkedHtml : Text := "<p>1 &lt; 2 &amp; <a href=\"?x=1&amp;y=2\" id=\"n\">b</a></p>".toList

theorem htmlCleaning_linked :
    samplePlatform.sanitizeHtml linkedHtml = "<p>1 &lt; 2 &amp; <a href=\"?x=1&amp;y=2\">b</a></p>".toList ∧
      samplePlatform.sanitizeHtml (samplePlatform.sanitizeHtml linkedHtml) = samplePlatform.sanitizeHtml linkedHtml ∧
      samplePlatform.cleanHtmlRepresentation linkedHtml = .ok "1 < 2 & b".toList := by
  have hread : joinData (samplePlatform.parse linkedHtml) = joinData linked.tokens := by rfl
  obtain ⟨hclean, hagain⟩ := (htmlCleaning_iff samplePlatform lawful_samplePlatform linkedHtml linked
    ⟨⟨by decide, by decide⟩, ⟨⟨by decide, by decide⟩, trivial, trivial⟩, trivial⟩ hread).2 (.inl rfl)
  exact ⟨by decide +kernel, hagain, hclean.trans (by rfl)⟩

def embedded : HtmlForest := .text "a".toList (.void "embed".toList [] (.text "b".toList .nil))

theorem htmlCleaning_loses :
    ¬ ∀ (P : HtmlPlatform) (html : Text) (f : HtmlForest), P.Lawful → f.WellFormed P →
      joinData (P.parse html) = joinData f.tokens →
        P.cleanHtmlRepresentation html = admitText (P.cleanPlainText (f.keptText P)) := by
  intro h
  have h := h samplePlatform "a<embed>b".toList embedded lawful_samplePlatform ⟨⟨by decide, by decide⟩, trivial⟩ rfl
  have hb : admitText "a".toList = admitText "ab".toList := h
  cases hb

end HtmlPlatform

end KnowledgeBase
