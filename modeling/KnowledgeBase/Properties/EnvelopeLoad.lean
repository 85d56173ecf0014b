import KnowledgeBase.Intake.Envelope

/-!
# Loading an envelope

A state whose bodies are in the store where it says, fenced, comes back from its envelope: redacted, but for its bodies,
the records and the clean texts of its members, and the predecessor coordinates.
-/

namespace KnowledgeBase

open Json (Dict)

/-! ### the redaction -/

namespace StagePlatform

variable {β : Type} {P : StagePlatform β} {store : ObjectStore β}

theorem redactItems_eq (items : List Json) : P.redactItems items = items.map P.redact := by
  induction items with
  | nil => rfl
  | cons item items ih => rw [redactItems, ih, List.map_cons]

theorem lookup_redactMembers (d : Dict) (k : String) :
    (P.redactMembers d).lookup k = if P.secret k then none else (d.lookup k).map P.redact := by
  induction d with
  | nil => simp [redactMembers]
  | cons m d ih =>
    obtain ⟨k', v'⟩ := m
    rw [redactMembers, List.lookup_cons]
    by_cases hq : k = k'
    · subst hq
      cases hs : P.secret k with
      | true => simp [ih, hs]
      | false => simp
    · cases hs : P.secret k' with
      | true => simp [ih, beq_false_of_ne hq]
      | false => simp [List.lookup_cons, ih, beq_false_of_ne hq]

theorem mem_redactMembers {d : Dict} {m : String × Json} (h : m ∈ P.redactMembers d) :
    ∃ m' ∈ d, m.1 = m'.1 ∧ m.2 = P.redact m'.2 := by
  induction d with
  | nil => cases h
  | cons m' d ih =>
    obtain ⟨k', v'⟩ := m'
    rw [redactMembers] at h
    split at h
    · obtain ⟨m'', hm'', heq⟩ := ih h
      exact ⟨m'', List.mem_cons_of_mem _ hm'', heq⟩
    · rcases List.mem_cons.1 h with rfl | h
      · exact ⟨(k', v'), List.mem_cons_self, rfl, rfl⟩
      · obtain ⟨m'', hm'', heq⟩ := ih h
        exact ⟨m'', List.mem_cons_of_mem _ hm'', heq⟩

theorem keysSorted_redactMembers {d : Dict} (h : Json.KeysSorted d) : Json.KeysSorted (P.redactMembers d) := by
  unfold Json.KeysSorted at *
  refine h.sublist ?_
  induction d with
  | nil => exact List.Sublist.slnil
  | cons m d ih =>
    obtain ⟨k', v'⟩ := m
    rw [redactMembers]
    split
    · exact (ih (List.pairwise_cons.1 h).2).cons _
    · exact (ih (List.pairwise_cons.1 h).2).cons_cons _

theorem sorted_redact {v : Json} (h : v.Sorted) : (P.redact v).Sorted := by
  induction h with
  | null => exact .null
  | bool b => exact .bool b
  | int n => exact .int n
  | float l => exact .float l
  | str t => exact .str t
  | @arr items h ih =>
    rw [redact, redactItems_eq]
    refine .arr fun v hv => ?_
    obtain ⟨w, hw, rfl⟩ := List.mem_map.1 hv
    exact ih w hw
  | @obj members hk h ih =>
    rw [redact]
    refine .obj (keysSorted_redactMembers hk) fun m hm => ?_
    obtain ⟨m', hm', -, heq⟩ := mem_redactMembers hm
    rw [heq]
    exact ih m' hm'

theorem sorted_redactMembers {d : Dict} (h : (Json.obj d).Sorted) : (Json.obj (P.redactMembers d)).Sorted := by
  have hd := sorted_redact (P := P) h
  rw [redact] at hd
  exact hd

end StagePlatform

/-! ### what comes back -/

/-- A member comes back: redacted, but for its record and its clean text. -/
structure MemberBack {β : Type} (P : StagePlatform β) (m n : Dict) : Prop where
  fields (k : String) : k ≠ "raw_record" → n.lookup k = if P.secret k then none else (m.lookup k).map P.redact
  record : n.lookup "raw_record" = m.lookup "raw_record"
  cleanText : n.lookup "clean_text" = m.lookup "clean_text"

/-- A state comes back: redacted, but for the predecessor coordinates, the bodies and the members. -/
structure ComesBack {β : Type} (P : StagePlatform β) (s loaded : Dict) : Prop where
  fields (k : String) : k ≠ "predecessor_ref" → k ≠ "predecessor_digest" → k ≠ "collection_members" →
    loaded.lookup k = if P.secret k then none else (s.lookup k).map P.redact
  bodies (b : BodyKeys) : b ∈ [rawBody, decodedBody, cleanBody] → loaded.lookup b.text = s.lookup b.text
  members : (s.lookup "collection_members" = none ∧ loaded.lookup "collection_members" = none) ∨
    ∃ ms ns, s.lookup "collection_members" = some (.arr (ms.map .obj)) ∧
      loaded.lookup "collection_members" = some (.arr (ns.map .obj)) ∧ List.Forall₂ (MemberBack P) ms ns

namespace StagePlatform

/-- The state that a stage hands over comes back from the envelope that is stored under `ref`. -/
def RoundTrips {β : Type} (P : StagePlatform β) (store : ObjectStore β) (command : StageCommand) (output : Dict)
    (ref : Text) (s : Dict) : Prop :=
  ∃ loaded, P.loadState store ref (P.sha256 (P.outputBytes command output s)) = .ok loaded ∧ ComesBack P s loaded

/-- The documented behaviour of the codecs: JSON and UTF-8 are inverted, and lower-case names are folded already. -/
structure Lawful {β : Type} (P : StagePlatform β) : Prop where
  loads (v : Json) : v.Sorted → P.loads (P.canonicalJson v) = some v
  utf8 (t : Text) : P.utf8Decode (P.utf8 t) = some t
  latin1 (body : β) : P.latin1Decode (P.latin1 (P.latin1Decode body)) = P.latin1Decode body
  casefold (t : Text) : (t.all fun c => c.isLower || c == '_') = true → P.casefold t = t

variable {β : Type} {P : StagePlatform β} {store : ObjectStore β} {s : Dict} {b : BodyKeys}

/-- A body of the state is not in the store, and then a text or absent; or it is stored under its handle and fenced, and
the stored bytes are read as the text `u`. -/
def BodyAt (P : StagePlatform β) (store : ObjectStore β) (s : Dict) (b : BodyKeys) (t u : Option Text) : Prop :=
  s.lookup b.text = t.map Json.str ∧
    ((s.lookup b.handle = none ∧ u = t) ∨
      ∃ handle body, s.lookup b.handle = some (.str handle) ∧ store handle = .ok body ∧ P.fenced s b body = true ∧
        t.isSome ∧ P.decodeBody s b body = u ∧ u.isSome)

/-- A member of a collection whose record is `record`, with its clean text in the store or not yet there. -/
def MemberAt (P : StagePlatform β) (store : ObjectStore β) (m : Dict) (record : Json) : Prop :=
  m.lookup "raw_record" = some record ∧
    ((m.lookup "clean_cas_handle" = none ∧ m.lookup "clean_text" = none) ∨
      ∃ handle body t, m.lookup "clean_cas_handle" = some (.str handle) ∧ handle ≠ [] ∧ store handle = .ok body ∧
        P.utf8Decode body = some t ∧ m.lookup "clean_text" = some (.str t))

/-- The collection of a state, with its records in the store. -/
def CollectionAt (P : StagePlatform β) (store : ObjectStore β) (s : Dict) : Prop :=
  s.lookup "collection_members" = none ∨
    ∃ ms records handle body, s.lookup "collection_members" = some (.arr (ms.map .obj)) ∧
      s.lookup "collection_cas_handle" = some (.str handle) ∧ handle ≠ [] ∧ store handle = .ok body ∧
      P.loads body = some (.arr records) ∧ List.Forall₂ (MemberAt P store) ms records

/-- What a stage establishes before it hands over a state. -/
structure Promoted (P : StagePlatform β) (store : ObjectStore β) (s : Dict) (t u : Option Text) : Prop where
  sorted : (Json.obj s).Sorted
  binary : s.lookup "raw_binary_transport" = none ∨ ∃ b, s.lookup "raw_binary_transport" = some (.bool b)
  raw : BodyAt P store s rawBody t u
  decoded : ∃ v, BodyAt P store s decodedBody v v
  clean : ∃ v, BodyAt P store s cleanBody v v
  collection : CollectionAt P store s

theorem not_secret (hP : P.Lawful) {k : String} (h : (k.toList.all fun c => c.isLower || c == '_') = true)
    (hk : (secretMarkers.any fun marker => Text.hasSub k.toList marker) = false) : P.secret k = false := by
  unfold secret
  rw [hP.casefold _ h]
  exact hk

theorem popBody_ne (safe : Dict) (b : BodyKeys) {k : String} (h : k ≠ b.text) :
    (popBody safe b).lookup k = safe.lookup k := by
  unfold popBody
  split
  · rw [Json.lookup_pop, if_neg h]
  · rfl

theorem popBody_text (safe : Dict) (b : BodyKeys) :
    (popBody safe b).lookup b.text = if (safe.lookup b.handle).isSome = true then none else safe.lookup b.text := by
  unfold popBody
  split
  · rw [Json.lookup_pop, if_pos rfl]
  · rfl

theorem sanitizeMembers_ne (safe : Dict) {k : String} (hk : k ≠ "collection_members") :
    (sanitizeMembers safe).lookup k = safe.lookup k := by
  unfold sanitizeMembers
  split
  · split
    · rw [Json.lookup_replace, if_neg hk]
    · rfl
  · rfl

theorem envelopeState_plain {k : String} (hk : k ≠ "collection_members") (hraw : k ≠ rawBody.text)
    (hdecoded : k ≠ decodedBody.text) (hclean : k ≠ cleanBody.text) :
    (P.envelopeState s).lookup k = (P.redactMembers s).lookup k := by
  unfold envelopeState
  rw [popBody_ne _ _ hclean, popBody_ne _ _ hdecoded, popBody_ne _ _ hraw, sanitizeMembers_ne _ hk]

theorem envelopeState_members :
    (P.envelopeState s).lookup "collection_members" =
      (sanitizeMembers (P.redactMembers s)).lookup "collection_members" := by
  unfold envelopeState
  rw [popBody_ne _ _ (by decide), popBody_ne _ _ (by decide), popBody_ne _ _ (by decide)]

theorem envelopeState_text (hb : b ∈ [rawBody, decodedBody, cleanBody]) : (P.envelopeState s).lookup b.text =
    if ((P.redactMembers s).lookup b.handle).isSome = true then none else (P.redactMembers s).lookup b.text := by
  unfold envelopeState
  simp only [List.mem_cons, List.not_mem_nil, or_false] at hb
  rcases hb with rfl | rfl | rfl
  · rw [popBody_ne _ _ (by decide), popBody_ne _ _ (by decide), popBody_text, sanitizeMembers_ne _ (by decide),
      sanitizeMembers_ne _ (by decide)]
  · rw [popBody_ne _ _ (by decide), popBody_text, popBody_ne _ _ (by decide), popBody_ne _ _ (by decide),
      sanitizeMembers_ne _ (by decide), sanitizeMembers_ne _ (by decide)]
  · rw [popBody_text, popBody_ne _ _ (by decide), popBody_ne _ _ (by decide), popBody_ne _ _ (by decide),
      popBody_ne _ _ (by decide), sanitizeMembers_ne _ (by decide), sanitizeMembers_ne _ (by decide)]

/-! ### the bodies -/

/-- The state has what `s` has under the key, redacted. -/
def Has (P : StagePlatform β) (s state : Dict) (k : String) : Prop := state.lookup k = (s.lookup k).map P.redact

theorem fenced_of_has {state : Dict} (body : β) (hsize : Has P s state b.size) (hdigest : Has P s state b.digest) :
    P.fenced state b body = P.fenced s b body := by
  unfold fenced
  rw [hsize, hdigest]
  cases s.lookup b.size with
  | none =>
    cases s.lookup b.digest with
    | none => rfl
    | some d => cases d <;> rfl
  | some n =>
    cases s.lookup b.digest with
    | none => cases n <;> rfl
    | some d => cases n <;> cases d <;> rfl

theorem decodeBody_of_has {state : Dict} (body : β)
    (hbinary : s.lookup "raw_binary_transport" = none ∨ ∃ b, s.lookup "raw_binary_transport" = some (.bool b))
    (h : Has P s state "raw_binary_transport") : P.decodeBody state b body = P.decodeBody s b body := by
  unfold decodeBody
  rw [h]
  rcases hbinary with hb | ⟨v, hb⟩
  · rw [hb]
    rfl
  · rw [hb]
    rfl

theorem restoreBody_spec {state : Dict} {t u : Option Text} (h : BodyAt P store s b t u)
    (hbinary : s.lookup "raw_binary_transport" = none ∨ ∃ b, s.lookup "raw_binary_transport" = some (.bool b))
    (hhandle : Has P s state b.handle) (hsize : Has P s state b.size) (hdigest : Has P s state b.digest)
    (htransport : Has P s state "raw_binary_transport")
    (htext : state.lookup b.text = if (s.lookup b.handle).isSome = true then none else s.lookup b.text) :
    ∃ state', P.restoreBody store state b = .ok state' ∧ (∀ k, k ≠ b.text → state'.lookup k = state.lookup k) ∧
      state'.lookup b.text = u.map Json.str ∧ ((Json.obj state).Sorted → (Json.obj state').Sorted) := by
  obtain ⟨hbody, ⟨hnone, rfl⟩ | ⟨handle, body, hsome, hstore, hfenced, -, hdecode, hu⟩⟩ := h
  · refine ⟨state, ?_, fun _ _ => rfl, ?_, id⟩
    · unfold restoreBody
      unfold Has at hhandle
      rw [hhandle, hnone]
      cases state.lookup b.text with
      | none => rfl
      | some v => rfl
    · rw [htext, hnone]
      exact hbody
  · obtain ⟨v, hv⟩ := Option.isSome_iff_exists.1 hu
    refine ⟨Json.put state b.text (.str v), ?_, fun k hk => by rw [Json.lookup_put, if_neg hk], ?_,
      fun h => Json.sorted_put h (.str v) _⟩
    · unfold restoreBody
      unfold Has at hhandle
      rw [htext, hhandle, hsome]
      simp only [Option.isSome_some, if_true, Option.map_some, redact]
      rw [hstore]
      show (if P.fenced state b body = true then _ else _) = _
      rw [fenced_of_has body hsize hdigest, hfenced, if_pos rfl, decodeBody_of_has body hbinary htransport, hdecode, hv]
      rfl
    · rw [Json.lookup_put, if_pos rfl, hv]
      rfl

/-! ### the members -/

/-- A redacted member without the bodies that are in the store. -/
def strippedMember (P : StagePlatform β) (m : Dict) : Dict :=
  let copy := Json.pop (P.redactMembers m) "raw_record"
  if truthyJson (copy.lookup "clean_cas_handle") then Json.pop copy "clean_text" else copy

theorem filterMap_sanitizeMember (ms : List Dict) :
    ((ms.map Json.obj).map P.redact).filterMap sanitizeMember = ms.map fun m => .obj (strippedMember P m) := by
  induction ms with
  | nil => rfl
  | cons m ms ih =>
    rw [List.map_cons, List.map_cons, List.filterMap_cons, redact, List.map_cons, ← ih]
    rfl

theorem sorted_strippedMember {m : Dict} (h : (Json.obj m).Sorted) : (Json.obj (strippedMember P m)).Sorted := by
  have hcopy := Json.sorted_pop (sorted_redactMembers (P := P) h) "raw_record"
  unfold strippedMember
  simp only
  split
  · exact Json.sorted_pop hcopy _
  · exact hcopy

theorem restoreMember_spec (hP : P.Lawful) {m : Dict} {record : Json} (hm : (Json.obj m).Sorted)
    (h : MemberAt P store m record) :
    ∃ n, P.restoreClean store (restoreRecord (.obj (strippedMember P m)) record) = .ok (.obj n) ∧ MemberBack P m n ∧
      (Json.obj n).Sorted := by
  have hrecord : P.secret "raw_record" = false := not_secret hP (by decide) (by decide)
  have hhandle : P.secret "clean_cas_handle" = false := not_secret hP (by decide) (by decide)
  have htext : P.secret "clean_text" = false := not_secret hP (by decide) (by decide)
  obtain ⟨hraw, hclean⟩ := h
  have hsorted := Json.sorted_put (sorted_strippedMember (P := P) hm) (hm.lookup hraw) "raw_record"
  have hcopy (k : String) (hk : k ≠ "raw_record") : (Json.pop (P.redactMembers m) "raw_record").lookup k =
      if P.secret k then none else (m.lookup k).map P.redact := by
    rw [Json.lookup_pop, if_neg hk, lookup_redactMembers]
  have hstripped (k : String) (hk : k ≠ "clean_text") :
      (strippedMember P m).lookup k = (Json.pop (P.redactMembers m) "raw_record").lookup k := by
    unfold strippedMember
    simp only
    split
    · rw [Json.lookup_pop, if_neg hk]
    · rfl
  have hnoRecord : (strippedMember P m).lookup "raw_record" = none := by
    rw [hstripped _ (by decide), Json.lookup_pop, if_pos rfl]
  have hput : restoreRecord (.obj (strippedMember P m)) record =
      .obj (Json.put (strippedMember P m) "raw_record" record) := by
    show (if ((strippedMember P m).lookup "raw_record").isSome = true then _ else _) = _
    rw [hnoRecord]
    rfl
  rw [hput]
  have hputHandle : (Json.put (strippedMember P m) "raw_record" record).lookup "clean_cas_handle" =
      (m.lookup "clean_cas_handle").map P.redact := by
    rw [Json.lookup_put, if_neg (by decide), hstripped _ (by decide), hcopy _ (by decide), hhandle]
    rfl
  -- the member has its clean text in the store, or is not cleaned yet
  rcases hclean with ⟨hnone, hnoText⟩ | ⟨handle, body, t, hsome, hne, hstore, hdecode, ht⟩
  · refine ⟨Json.put (strippedMember P m) "raw_record" record, ?_, ?_⟩
    · rw [restoreClean, hputHandle, hnone]
      cases (Json.put (strippedMember P m) "raw_record" record).lookup "clean_text" with
      | none => rfl
      | some v => rfl
    · have hplain : strippedMember P m = Json.pop (P.redactMembers m) "raw_record" := by
        unfold strippedMember
        simp only
        rw [hcopy _ (by decide), hnone]
        cases P.secret "clean_cas_handle" with
        | true => rfl
        | false => rfl
      refine ⟨⟨fun k hk => ?_, ?_, ?_⟩, hsorted⟩
      · rw [Json.lookup_put, if_neg hk, hplain, hcopy k hk]
      · rw [Json.lookup_put, if_pos rfl, hraw]
      · rw [Json.lookup_put, if_neg (by decide), hplain, hcopy _ (by decide), htext, hnoText]
        rfl
  · have hpopped : strippedMember P m = Json.pop (Json.pop (P.redactMembers m) "raw_record") "clean_text" := by
      unfold strippedMember
      simp only
      rw [hcopy _ (by decide), hhandle, hsome]
      have htrue : truthyJson (some (.str handle)) = true := by
        cases handle with
        | nil => exact absurd rfl hne
        | cons c cs => rfl
      simp only [Bool.false_eq_true, if_false, Option.map_some, redact, htrue, if_true]
    have hnoText : (Json.put (strippedMember P m) "raw_record" record).lookup "clean_text" = none := by
      rw [Json.lookup_put, if_neg (by decide), hpopped, Json.lookup_pop, if_pos rfl]
    refine ⟨Json.put (Json.put (strippedMember P m) "raw_record" record) "clean_text" (.str t), ?_, ?_⟩
    · rw [restoreClean, hnoText, hputHandle, hsome]
      simp only [Option.map_some, redact]
      rw [hstore]
      show (orRaised (P.utf8Decode body) >>= _) = _
      rw [hdecode]
      rfl
    · refine ⟨⟨fun k hk => ?_, ?_, ?_⟩, Json.sorted_put hsorted (.str t) _⟩
      · rw [Json.lookup_put]
        by_cases hkt : k = "clean_text"
        · subst hkt
          rw [if_pos rfl, htext, ht]
          rfl
        · rw [if_neg hkt, Json.lookup_put, if_neg hk, hstripped k hkt, hcopy k hk]
      · rw [Json.lookup_put, if_neg (by decide), Json.lookup_put, if_pos rfl, hraw]
      · rw [Json.lookup_put, if_pos rfl, ht]

theorem restoreMembers_spec (hP : P.Lawful) {ms : List Dict} {records : List Json}
    (hms : ∀ m ∈ ms, (Json.obj m).Sorted) (h : List.Forall₂ (MemberAt P store) ms records) :
    ∃ ns, (List.zipWith restoreRecord (ms.map fun m => .obj (strippedMember P m)) records).mapM (P.restoreClean store) =
        .ok (ns.map Json.obj) ∧ List.Forall₂ (MemberBack P) ms ns ∧ ∀ n ∈ ns, (Json.obj n).Sorted := by
  induction h with
  | nil => exact ⟨[], rfl, .nil, fun _ h => absurd h List.not_mem_nil⟩
  | cons hm _ ih =>
    obtain ⟨n, hn, hback, hsorted⟩ := restoreMember_spec hP (hms _ List.mem_cons_self) hm
    obtain ⟨ns, hns, hall, hsorteds⟩ := ih fun m hm => hms m (List.mem_cons_of_mem _ hm)
    refine ⟨n :: ns, ?_, .cons hback hall, fun m hm => ?_⟩
    · rw [List.map_cons, List.zipWith_cons_cons, List.mapM_cons, hn, hns]
      rfl
    · rcases List.mem_cons.1 hm with rfl | hm
      · exact hsorted
      · exact hsorteds m hm

end StagePlatform

/-! ### the load -/

namespace StagePlatform

variable {β : Type} {P : StagePlatform β} {store : ObjectStore β} {s : Dict}

/-- A key that is neither a body, nor the members, nor a predecessor coordinate. -/
def Plain (k : String) : Prop :=
  k ∉ ["raw_text", "decoded_text", "clean_text", "collection_members", "predecessor_ref", "predecessor_digest"]

instance (k : String) : Decidable (Plain k) := inferInstanceAs (Decidable (k ∉ _))

/-- The state has all that `s` has under plain keys, redacted. -/
def Carries (P : StagePlatform β) (s state : Dict) : Prop :=
  ∀ k, Plain k → state.lookup k = if P.secret k then none else (s.lookup k).map P.redact

theorem Carries.has {state : Dict} (h : Carries P s state) (hP : P.Lawful) {k : String} (hk : Plain k)
    (hlower : (k.toList.all fun c => c.isLower || c == '_') = true)
    (hs : (secretMarkers.any fun marker => Text.hasSub k.toList marker) = false) : Has P s state k := by
  unfold Has
  rw [h k hk, not_secret hP hlower hs]
  rfl

theorem Carries.of_ne {state state' : Dict} {k' : String} (h : Carries P s state) (hk' : ¬Plain k')
    (hsame : ∀ k, k ≠ k' → state'.lookup k = state.lookup k) : Carries P s state' := by
  intro k hk
  rw [hsame k fun h => hk' (h ▸ hk), h k hk]

theorem Plain.ne {k k' : String} (h : Plain k) (hk' : ¬Plain k') : k ≠ k' := fun heq => hk' (heq ▸ h)

theorem carries_envelopeState : Carries P s (P.envelopeState s) := by
  intro k hk
  rw [envelopeState_plain (hk.ne (by decide)) (hk.ne (by decide)) (hk.ne (by decide)) (hk.ne (by decide)),
    lookup_redactMembers]

theorem sorted_sanitizeMember {v w : Json} (hv : v.Sorted) (h : sanitizeMember v = some w) : w.Sorted := by
  cases v with
  | obj member =>
    have hcopy := Json.sorted_pop hv "raw_record"
    rw [sanitizeMember] at h
    cases h
    split
    · exact Json.sorted_pop hcopy _
    · exact hcopy
  | _ => cases h

theorem sorted_sanitizeMembers {safe : Dict} (h : (Json.obj safe).Sorted) :
    (Json.obj (sanitizeMembers safe)).Sorted := by
  unfold sanitizeMembers
  split
  · rename_i members hmembers
    split
    · refine Json.sorted_replace h (.arr fun w hw => ?_) _
      obtain ⟨v, hv, hvw⟩ := List.mem_filterMap.1 hw
      cases h.lookup hmembers with
      | arr hall => exact sorted_sanitizeMember (hall v hv) hvw
    · exact h
  · exact h

theorem sorted_popBody {safe : Dict} (h : (Json.obj safe).Sorted) (b : BodyKeys) :
    (Json.obj (popBody safe b)).Sorted := by
  unfold popBody
  split
  · exact Json.sorted_pop h _
  · exact h

theorem sorted_envelopeState (h : (Json.obj s).Sorted) : (Json.obj (P.envelopeState s)).Sorted :=
  sorted_popBody (sorted_popBody (sorted_popBody (sorted_sanitizeMembers (sorted_redactMembers h)) _) _) _

theorem lookup_setDefault_ne (state : Dict) {key k : String} (v : Json) (h : k ≠ key) :
    (setDefault state key v).lookup k = state.lookup k := by
  unfold setDefault
  split
  · rfl
  · rw [Json.lookup_put, if_neg h]

theorem sorted_setDefault {state : Dict} (h : (Json.obj state).Sorted) {v : Json} (hv : v.Sorted) (key : String) :
    (Json.obj (setDefault state key v)).Sorted := by
  unfold setDefault
  split
  · exact h
  · exact Json.sorted_put h hv _

/-- The members come back. -/
def MembersBack (P : StagePlatform β) (s loaded : Dict) : Prop :=
  (s.lookup "collection_members" = none ∧ loaded.lookup "collection_members" = none) ∨
    ∃ ms ns, s.lookup "collection_members" = some (.arr (ms.map .obj)) ∧
      loaded.lookup "collection_members" = some (.arr (ns.map .obj)) ∧ List.Forall₂ (MemberBack P) ms ns

/-- What is loaded of a state, with `u` as its raw text. -/
structure Loads (P : StagePlatform β) (s : Dict) (u : Option Text) (loaded : Dict) : Prop where
  sorted : (Json.obj loaded).Sorted
  carries : Carries P s loaded
  raw : loaded.lookup rawBody.text = u.map Json.str
  decoded : loaded.lookup decodedBody.text = s.lookup decodedBody.text
  clean : loaded.lookup cleanBody.text = s.lookup cleanBody.text
  members : MembersBack P s loaded

theorem sanitized_none (h : s.lookup "collection_members" = none) :
    (sanitizeMembers (P.redactMembers s)).lookup "collection_members" = none := by
  have hsafe : (P.redactMembers s).lookup "collection_members" = none := by
    rw [lookup_redactMembers, h]
    split
    · rfl
    · rfl
  unfold sanitizeMembers
  rw [hsafe]
  exact hsafe

theorem truthy_str {handle : Text} (h : handle ≠ []) : truthyJson (some (.str handle)) = true := by
  cases handle with
  | nil => exact absurd rfl h
  | cons c cs => rfl

theorem sanitized_members (hP : P.Lawful) {ms : List Dict} {handle : Text}
    (hms : s.lookup "collection_members" = some (.arr (ms.map .obj)))
    (hhandle : s.lookup "collection_cas_handle" = some (.str handle)) (hne : handle ≠ []) :
    (sanitizeMembers (P.redactMembers s)).lookup "collection_members" =
      some (.arr (ms.map fun m => .obj (strippedMember P m))) := by
  have hsafe : (P.redactMembers s).lookup "collection_members" = some (.arr ((ms.map Json.obj).map P.redact)) := by
    rw [lookup_redactMembers, not_secret hP (by decide) (by decide), hms, ← redactItems_eq]
    simp only [Bool.false_eq_true, if_false, Option.map_some, redact]
  have hcas : (P.redactMembers s).lookup "collection_cas_handle" = some (.str handle) := by
    rw [lookup_redactMembers, not_secret hP (by decide) (by decide), hhandle]
    simp only [Bool.false_eq_true, if_false, Option.map_some, redact]
  unfold sanitizeMembers
  rw [hsafe]
  simp only
  rw [hcas, truthy_str hne, if_pos rfl, Json.lookup_replace, if_pos rfl, hsafe, filterMap_sanitizeMember]
  rfl

/-- The members of the envelope are given their records and their clean texts back. -/
theorem restoreCollection_spec (hP : P.Lawful) (hs : (Json.obj s).Sorted) (h : CollectionAt P store s) {state : Dict}
    (hcarries : Carries P s state) (hstate : (Json.obj state).Sorted)
    (hmembers : state.lookup "collection_members" =
      (sanitizeMembers (P.redactMembers s)).lookup "collection_members") :
    ∃ loaded, (P.restoreRecords store state >>= P.restoreMembers store) = .ok loaded ∧ (Json.obj loaded).Sorted ∧
      (∀ k, k ≠ "collection_members" → loaded.lookup k = state.lookup k) ∧ MembersBack P s loaded := by
  rcases h with hnone | ⟨ms, records, handle, body, hms, hhandle, hne, hstore, hloads, hall⟩
  · rw [sanitized_none hnone] at hmembers
    refine ⟨state, ?_, hstate, fun _ _ => rfl, .inl ⟨hnone, hmembers⟩⟩
    have hrecords : P.restoreRecords store state = .ok state := by
      unfold restoreRecords
      rw [hmembers]
      split
      · rename_i h
        cases h
      · rfl
    rw [hrecords]
    show P.restoreMembers store state = _
    unfold restoreMembers
    rw [hmembers]
  · rw [sanitized_members hP hms hhandle hne] at hmembers
    have hcas : state.lookup "collection_cas_handle" = some (.str handle) := by
      rw [hcarries.has hP (by decide) (by decide) (by decide), hhandle]
      simp only [Option.map_some, redact]
    have hsorted : ∀ m ∈ ms, (Json.obj m).Sorted := by
      cases hs.lookup hms with
      | arr hall => exact fun m hm => hall _ (List.mem_map_of_mem hm)
    obtain ⟨ns, hns, hback, hsorteds⟩ := restoreMembers_spec hP hsorted hall
    -- the stored records stand in the order of the members
    have hlength : records.length = (ms.map fun m => Json.obj (strippedMember P m)).length := by
      rw [List.length_map, hall.length_eq]
    have hrecords : P.restoreRecords store state = .ok (Json.replace state "collection_members"
        (.arr (List.zipWith restoreRecord (ms.map fun m => .obj (strippedMember P m)) records))) := by
      unfold restoreRecords
      rw [hcas, hmembers]
      simp only
      rw [hstore]
      show (orRaised (P.loads body) >>= _) = _
      rw [hloads]
      show (if _ then _ else _) = _
      rw [if_pos hlength]
    refine ⟨Json.replace (Json.replace state "collection_members"
      (.arr (List.zipWith restoreRecord (ms.map fun m => .obj (strippedMember P m)) records))) "collection_members"
      (.arr (ns.map .obj)), ?_, ?_, fun k hk => ?_, .inr ⟨ms, ns, hms, ?_, hback⟩⟩
    · rw [hrecords]
      show P.restoreMembers store _ = _
      unfold restoreMembers
      rw [Json.lookup_replace, if_pos rfl, hmembers]
      simp only [Option.map_some]
      rw [hns]
      rfl
    · have hrestored : (Json.arr (ns.map .obj)).Sorted := by
        refine .arr fun v hv => ?_
        obtain ⟨n, hn, rfl⟩ := List.mem_map.1 hv
        exact hsorteds n hn
      have hreplaced : Json.replace (Json.replace state "collection_members"
          (.arr (List.zipWith restoreRecord (ms.map fun m => .obj (strippedMember P m)) records))) "collection_members"
          (.arr (ns.map .obj)) = Json.replace state "collection_members" (.arr (ns.map .obj)) :=
        Json.replace_replace _ _ _ _
      rw [hreplaced]
      exact Json.sorted_replace hstate hrestored _
    · rw [Json.lookup_replace, if_neg hk, Json.lookup_replace, if_neg hk]
    · rw [Json.lookup_replace, if_pos rfl, Json.lookup_replace, if_pos rfl, hmembers]
      rfl

theorem names_of_body {b : BodyKeys} (hb : b ∈ [rawBody, decodedBody, cleanBody]) :
    b.text ≠ "predecessor_ref" ∧ b.text ≠ "predecessor_digest" ∧
      (b.text.toList.all fun c => c.isLower || c == '_') = true ∧
      (secretMarkers.any fun marker => Text.hasSub b.text.toList marker) = false ∧
      (b.handle.toList.all fun c => c.isLower || c == '_') = true ∧
      (secretMarkers.any fun marker => Text.hasSub b.handle.toList marker) = false := by
  simp only [List.mem_cons, List.not_mem_nil, or_false] at hb
  rcases hb with rfl | rfl | rfl
  · decide
  · decide
  · decide

theorem map_redact_str (t : Option Text) : (t.map Json.str).map P.redact = t.map Json.str := by
  cases t with
  | none => rfl
  | some t => rw [Option.map_some, Option.map_some, redact]

theorem envelopeState_body (hP : P.Lawful) {b : BodyKeys} (hb : b ∈ [rawBody, decodedBody, cleanBody])
    {t u : Option Text} (h : BodyAt P store s b t u) : (P.envelopeState s).lookup b.text =
      if (s.lookup b.handle).isSome = true then none else s.lookup b.text := by
  obtain ⟨-, -, htext, htext', hhandle, hhandle'⟩ := names_of_body hb
  have hlookup : (P.redactMembers s).lookup b.text = s.lookup b.text := by
    rw [lookup_redactMembers, not_secret hP htext htext', h.1]
    exact map_redact_str t
  rw [envelopeState_text hb, hlookup, lookup_redactMembers, not_secret hP hhandle hhandle']
  simp only [Bool.false_eq_true, if_false, Option.isSome_map]

theorem not_plain_text {b : BodyKeys} (hb : b ∈ [rawBody, decodedBody, cleanBody]) : ¬Plain b.text := by
  simp only [List.mem_cons, List.not_mem_nil, or_false] at hb
  rcases hb with rfl | rfl | rfl
  · decide
  · decide
  · decide

theorem Carries.has_body {state : Dict} (h : Carries P s state) (hP : P.Lawful) {b : BodyKeys}
    (hb : b ∈ [rawBody, decodedBody, cleanBody]) : Has P s state b.handle ∧ Has P s state b.size ∧ Has P s state b.digest := by
  simp only [List.mem_cons, List.not_mem_nil, or_false] at hb
  rcases hb with rfl | rfl | rfl
  · exact ⟨h.has hP (by decide) (by decide) (by decide), h.has hP (by decide) (by decide) (by decide),
      h.has hP (by decide) (by decide) (by decide)⟩
  · exact ⟨h.has hP (by decide) (by decide) (by decide), h.has hP (by decide) (by decide) (by decide),
      h.has hP (by decide) (by decide) (by decide)⟩
  · exact ⟨h.has hP (by decide) (by decide) (by decide), h.has hP (by decide) (by decide) (by decide),
      h.has hP (by decide) (by decide) (by decide)⟩

theorem Carries.has_transport {state : Dict} (h : Carries P s state) (hP : P.Lawful) :
    Has P s state "raw_binary_transport" := h.has hP (by decide) (by decide) (by decide)

theorem Carries.restoreBody {state : Dict} {b : BodyKeys} {t u : Option Text} (h : Carries P s state) (hP : P.Lawful)
    (hb : b ∈ [rawBody, decodedBody, cleanBody]) (hat : BodyAt P store s b t u)
    (hbinary : s.lookup "raw_binary_transport" = none ∨ ∃ b, s.lookup "raw_binary_transport" = some (.bool b))
    (htext : state.lookup b.text = if (s.lookup b.handle).isSome = true then none else s.lookup b.text) :
    ∃ state', P.restoreBody store state b = .ok state' ∧ Carries P s state' ∧
      (∀ k, k ≠ b.text → state'.lookup k = state.lookup k) ∧ state'.lookup b.text = u.map Json.str ∧
      ((Json.obj state).Sorted → (Json.obj state').Sorted) := by
  obtain ⟨hhandle, hsize, hdigest⟩ := h.has_body hP hb
  obtain ⟨state', hstate', hsame, htext', hsorted⟩ :=
    restoreBody_spec hat hbinary hhandle hsize hdigest (h.has_transport hP) htext
  exact ⟨state', hstate', h.of_ne (not_plain_text hb) hsame, hsame, htext', hsorted⟩

theorem loadStageState_spec {t u : Option Text} (hP : P.Lawful) (h : Promoted P store s t u) (ref digest : Text) :
    ∃ loaded, P.loadStageState store ref digest (P.envelopeState s) = .ok loaded ∧ Loads P s u loaded := by
  obtain ⟨v, hdecoded⟩ := h.decoded
  obtain ⟨w, hclean⟩ := h.clean
  let first := setDefault (setDefault (P.envelopeState s) "predecessor_ref" (.str ref)) "predecessor_digest" (.str digest)
  have hfirst (k : String) (hr : k ≠ "predecessor_ref") (hd : k ≠ "predecessor_digest") :
      first.lookup k = (P.envelopeState s).lookup k := by
    rw [lookup_setDefault_ne _ _ hd, lookup_setDefault_ne _ _ hr]
  have hsorted : (Json.obj first).Sorted :=
    sorted_setDefault (sorted_setDefault (sorted_envelopeState h.sorted) (.str ref) _) (.str digest) _
  have hcarries : Carries P s first := fun k hk => by
    rw [hfirst k (hk.ne (by decide)) (hk.ne (by decide)), carries_envelopeState k hk]
  have htext {b : BodyKeys} (hb : b ∈ [rawBody, decodedBody, cleanBody]) {t u : Option Text}
      (hat : BodyAt P store s b t u) :
      first.lookup b.text = if (s.lookup b.handle).isSome = true then none else s.lookup b.text := by
    rw [hfirst _ (names_of_body hb).1 (names_of_body hb).2.1, envelopeState_body hP hb hat]
  -- the three bodies in turn: each changes its own text only, so the others are carried
  obtain ⟨second, hsecond, hcarries₁, hsame₁, hraw, hsorted₁⟩ :=
    hcarries.restoreBody hP (by decide) h.raw h.binary (htext (by decide) h.raw)
  obtain ⟨third, hthird, hcarries₂, hsame₂, hdec, hsorted₂⟩ :=
    hcarries₁.restoreBody hP (by decide) hdecoded h.binary ((hsame₁ _ (by decide)).trans (htext (by decide) hdecoded))
  obtain ⟨fourth, hfourth, hcarries₃, hsame₃, hcl, hsorted₃⟩ :=
    hcarries₂.restoreBody hP (by decide) hclean h.binary
      ((hsame₂ _ (by decide)).trans ((hsame₁ _ (by decide)).trans (htext (by decide) hclean)))
  have hmembers : fourth.lookup "collection_members" =
      (sanitizeMembers (P.redactMembers s)).lookup "collection_members" := by
    rw [hsame₃ _ (by decide), hsame₂ _ (by decide), hsame₁ _ (by decide), hfirst _ (by decide) (by decide),
      envelopeState_members]
  obtain ⟨loaded, hloaded, hsorted₄, hsame₄, hback⟩ := restoreCollection_spec hP h.sorted h.collection hcarries₃
    (hsorted₃ (hsorted₂ (hsorted₁ hsorted))) hmembers
  refine ⟨loaded, ?_, hsorted₄, hcarries₃.of_ne (by decide) hsame₄, ?_, ?_, ?_, hback⟩
  · show (P.restoreBody store first rawBody >>= _) = _
    rw [hsecond]
    show (P.restoreBody store second decodedBody >>= _) = _
    rw [hthird]
    show (P.restoreBody store third cleanBody >>= _) = _
    rw [hfourth]
    exact hloaded
  · rw [hsame₄ _ (by decide), hsame₃ _ (by decide), hsame₂ _ (by decide), hraw]
  · rw [hsame₄ _ (by decide), hsame₃ _ (by decide), hdec, hdecoded.1]
  · rw [hsame₄ _ (by decide), hcl, hclean.1]

end StagePlatform

/-! ### the round trip -/

namespace StagePlatform

variable {β : Type} {P : StagePlatform β} {store : ObjectStore β} {s loaded : Dict} {t u : Option Text}

theorem map_str_injective {t u : Option Text} (h : t.map Json.str = u.map Json.str) : t = u := by
  cases t with
  | none =>
    cases u with
    | none => rfl
    | some u => cases h
  | some t =>
    cases u with
    | none => cases h
    | some u =>
      cases h
      rfl

theorem field_of_text {b : BodyKeys} (hP : P.Lawful) (hb : b ∈ [rawBody, decodedBody, cleanBody]) {v : Option Text}
    (hs : s.lookup b.text = v.map Json.str) (hl : loaded.lookup b.text = v.map Json.str) :
    loaded.lookup b.text = if P.secret b.text then none else (s.lookup b.text).map P.redact := by
  obtain ⟨-, -, htext, htext', -, -⟩ := names_of_body hb
  rw [hl, hs, not_secret hP htext htext', map_redact_str]
  rfl

/-- What is loaded is the state if the raw bytes are read as the raw text, and only then. -/
theorem comesBack_iff (hP : P.Lawful) (h : Promoted P store s t u) (hl : Loads P s u loaded) :
    ComesBack P s loaded ↔ t = u := by
  obtain ⟨v, hdecoded⟩ := h.decoded
  obtain ⟨w, hclean⟩ := h.clean
  constructor
  · intro hc
    have hraw := hc.bodies rawBody (by decide)
    rw [hl.raw, h.raw.1] at hraw
    exact (map_str_injective hraw).symm
  · rintro rfl
    refine ⟨fun k hr hd hm => ?_, fun b hb => ?_, hl.members⟩
    -- a name apart is a text, whose redaction is itself
    · by_cases hplain : Plain k
      · exact hl.carries k hplain
      · simp only [Plain, List.mem_cons, List.not_mem_nil, or_false, not_not] at hplain
        rcases hplain with rfl | rfl | rfl | rfl | rfl | rfl
        · exact field_of_text (b := rawBody) hP (by decide) h.raw.1 hl.raw
        · exact field_of_text (b := decodedBody) hP (by decide) hdecoded.1 (hl.decoded.trans hdecoded.1)
        · exact field_of_text (b := cleanBody) hP (by decide) hclean.1 (hl.clean.trans hclean.1)
        · exact absurd rfl hm
        · exact absurd rfl hr
        · exact absurd rfl hd
    · simp only [List.mem_cons, List.not_mem_nil, or_false] at hb
      rcases hb with rfl | rfl | rfl
      · exact hl.raw.trans h.raw.1.symm
      · exact hl.decoded
      · exact hl.clean

theorem loadState_eq (hP : P.Lawful) (hs : (Json.obj s).Sorted) {command : StageCommand} {output : Dict} {ref : Text}
    (houtput : (Json.obj output).Sorted) (hstore : store ref = .ok (P.outputBytes command output s)) :
    P.loadState store ref (P.sha256 (P.outputBytes command output s)) =
      P.loadStageState store ref (P.sha256 (P.outputBytes command output s)) (P.envelopeState s) := by
  have henvelope : P.loads (P.outputBytes command output s) = some (.obj
      [("fencing_generation", .int command.fencingGeneration), ("output", .obj output),
        ("process_key", .str command.processKey), ("process_uuid", .str command.processUuid),
        ("schema_version", .str "mkb.stage-output.v1".toList), ("state", .obj (P.envelopeState s))]) := by
    refine hP.loads _ (.obj (by simp only [List.map_cons, List.map_nil]; decide) fun m hm => ?_)
    simp only [List.mem_cons, List.not_mem_nil, or_false] at hm
    rcases hm with rfl | rfl | rfl | rfl | rfl | rfl
    · exact .int _
    · exact houtput
    · exact .str _
    · exact .str _
    · exact .str _
    · exact sorted_envelopeState hs
  generalize P.outputBytes command output s = data at *
  unfold loadState
  rw [hstore]
  show (if P.sha256 data ≠ P.sha256 data then _ else _) = _
  rw [if_neg fun h => h rfl, henvelope]
  rfl

/-- A promoted state comes back from its envelope if its raw bytes are read as its raw text, and only then. -/
theorem roundTrips_iff (hP : P.Lawful) (h : Promoted P store s t u) {command : StageCommand} {output : Dict} {ref : Text}
    (houtput : (Json.obj output).Sorted) (hstore : store ref = .ok (P.outputBytes command output s)) :
    P.RoundTrips store command output ref s ↔ t = u := by
  obtain ⟨loaded, hloaded, hl⟩ := loadStageState_spec hP h ref (P.sha256 (P.outputBytes command output s))
  rw [← loadState_eq hP h.sorted houtput hstore] at hloaded
  rw [← comesBack_iff hP h hl]
  constructor
  · rintro ⟨loaded', hloaded', hback⟩
    rw [hloaded] at hloaded'
    cases hloaded'
    exact hback
  · exact fun hback => ⟨loaded, hloaded, hback⟩

end StagePlatform

end KnowledgeBase
