import KnowledgeBase.Properties.EnvelopeLoad

/-!
# Stage envelopes come back

Every state that the stages up to the preflight hand over has its bodies in the store, and comes back from its envelope;
but a full retry reads its artifact as `utf-8-sig` and the next stage reads it as UTF-8.
-/

namespace KnowledgeBase

open Json (Dict)

/-! ### what the stages hand over -/

namespace StagePlatform

variable {β : Type} {P : StagePlatform β} {store : ObjectStore β} {s loaded : Dict} {t u : Option Text} {b : BodyKeys}

theorem lookup_update_free {fields : List (String × Json)} (h : FreeFields fields) {k : String} (hk : k ∈ bodyNames)
    (state : Dict) : (Json.update state fields).lookup k = state.lookup k :=
  Json.lookup_update_ne (fun m hm heq => (h m hm).1 (heq ▸ hk)) state

theorem BodyAt.congr {s' : Dict} (h : BodyAt P store s b t u)
    (hsame : ∀ k ∈ [b.text, b.handle, b.digest, b.size, "raw_binary_transport"], s'.lookup k = s.lookup k) :
    BodyAt P store s' b t u := by
  have hfenced (body : β) : P.fenced s' b body = P.fenced s b body := by
    unfold fenced
    rw [hsame b.size (by simp), hsame b.digest (by simp)]
  have hdecode (body : β) : P.decodeBody s' b body = P.decodeBody s b body := by
    unfold decodeBody
    rw [hsame "raw_binary_transport" (by simp)]
  unfold BodyAt
  simp only [hfenced, hdecode]
  rw [hsame b.text (by simp), hsame b.handle (by simp)]
  exact h

theorem names_in_bodyNames (hb : b ∈ [rawBody, decodedBody, cleanBody]) {k : String}
    (hk : k ∈ [b.text, b.handle, b.digest, b.size, "raw_binary_transport"]) : k ∈ bodyNames := by
  simp only [List.mem_cons, List.not_mem_nil, or_false] at hb
  rcases hb with rfl | rfl | rfl
  · revert k
    decide
  · revert k
    decide
  · revert k
    decide

theorem CollectionAt.congr {s' : Dict} (h : CollectionAt P store s)
    (hmembers : s'.lookup "collection_members" = s.lookup "collection_members")
    (hhandle : s'.lookup "collection_cas_handle" = s.lookup "collection_cas_handle") : CollectionAt P store s' := by
  unfold CollectionAt
  rw [hmembers, hhandle]
  exact h

theorem Promoted.congr {s' : Dict} (h : Promoted P store s t u) (hs' : (Json.obj s').Sorted)
    (hsame : ∀ k ∈ bodyNames, s'.lookup k = s.lookup k) : Promoted P store s' t u := by
  obtain ⟨v, hdecoded⟩ := h.decoded
  obtain ⟨w, hclean⟩ := h.clean
  refine ⟨hs', ?_, h.raw.congr fun k hk => hsame k (names_in_bodyNames (by decide) hk),
    ⟨v, hdecoded.congr fun k hk => hsame k (names_in_bodyNames (by decide) hk)⟩,
    ⟨w, hclean.congr fun k hk => hsame k (names_in_bodyNames (by decide) hk)⟩,
    h.collection.congr (hsame _ (by decide)) (hsame _ (by decide))⟩
  rw [hsame _ (by decide)]
  exact h.binary

theorem Promoted.update {fields : List (String × Json)} (h : Promoted P store s t u) (hfields : FreeFields fields) :
    Promoted P store (Json.update s fields) t u :=
  h.congr (Json.sorted_update (fun m hm => (hfields m hm).2) h.sorted) fun _ hk => lookup_update_free hfields hk s

/-! #### a body in the store -/

theorem bodyState_ne (state : Dict) (t handle : Text) (body : β) {k : String}
    (hk : k ∉ [b.text, b.handle, b.digest, b.size]) : (P.bodyState state b t handle body).lookup k = state.lookup k := by
  unfold bodyState
  refine Json.lookup_update_ne (fun m hm heq => hk ?_) state
  simp only [List.mem_cons, List.not_mem_nil, or_false] at hm ⊢
  rcases hm with rfl | rfl | rfl | rfl
  · exact .inl heq.symm
  · exact .inr (.inl heq.symm)
  · exact .inr (.inr (.inl heq.symm))
  · exact .inr (.inr (.inr heq.symm))

theorem sorted_bodyState {state : Dict} (h : (Json.obj state).Sorted) (t handle : Text) (body : β) :
    (Json.obj (P.bodyState state b t handle body)).Sorted := by
  refine Json.sorted_update (fun m hm => ?_) h
  simp only [List.mem_cons, List.not_mem_nil, or_false] at hm
  rcases hm with rfl | rfl | rfl | rfl
  · exact .str _
  · exact .str _
  · exact .str _
  · exact .int _

theorem bodyState_lookups (hb : b ∈ [rawBody, decodedBody, cleanBody]) (state : Dict) (t handle : Text) (body : β) :
    (P.bodyState state b t handle body).lookup b.text = some (.str t) ∧
      (P.bodyState state b t handle body).lookup b.handle = some (.str handle) ∧
      (P.bodyState state b t handle body).lookup b.digest = some (.str (P.sha256 body)) ∧
      (P.bodyState state b t handle body).lookup b.size = some (.int (P.size body)) := by
  unfold bodyState Json.update
  simp only [List.mem_cons, List.not_mem_nil, or_false] at hb
  rcases hb with rfl | rfl | rfl
  · simp [Json.lookup_put, rawBody]
  · simp [Json.lookup_put, decodedBody]
  · simp [Json.lookup_put, cleanBody]

theorem bodyAt_bodyState (hb : b ∈ [rawBody, decodedBody, cleanBody]) (state : Dict) {t v handle : Text} {body : β}
    (hstore : store handle = .ok body) (hdecode : P.decodeBody (P.bodyState state b t handle body) b body = some v) :
    BodyAt P store (P.bodyState state b t handle body) b (some t) (some v) := by
  obtain ⟨htext, hhandle, hdigest, hsize⟩ := bodyState_lookups (P := P) hb state t handle body
  refine ⟨htext, .inr ⟨handle, body, hhandle, hstore, ?_, rfl, hdecode, rfl⟩⟩
  unfold fenced
  rw [hsize, hdigest]
  simp

theorem decodeBody_utf8 (hb : b ≠ rawBody) (state : Dict) (body : β) : P.decodeBody state b body = P.utf8Decode body := by
  unfold decodeBody
  rw [if_neg fun h => hb h.1]

theorem Promoted.bodyState (hP : P.Lawful) (h : Promoted P store s t u) (hb : b ∈ [decodedBody, cleanBody])
    {v handle : Text} (hstore : store handle = .ok (P.utf8 v)) :
    Promoted P store (P.bodyState s b v handle (P.utf8 v)) t u := by
  obtain ⟨x, hdecoded⟩ := h.decoded
  obtain ⟨y, hclean⟩ := h.clean
  have hsorted := sorted_bodyState (P := P) (b := b) h.sorted v handle (P.utf8 v)
  have hsame {k : String} (hk : k ∉ [b.text, b.handle, b.digest, b.size]) :=
    bodyState_ne (P := P) s v handle (P.utf8 v) hk
  simp only [List.mem_cons, List.not_mem_nil, or_false] at hb
  rcases hb with rfl | rfl
  · refine ⟨hsorted, ?_, h.raw.congr fun k hk => hsame (by revert k; decide),
      ⟨some v, bodyAt_bodyState (by decide) s hstore ?_⟩, ⟨y, hclean.congr fun k hk => hsame (by revert k; decide)⟩,
      h.collection.congr (hsame (by decide)) (hsame (by decide))⟩
    · rw [hsame (by decide)]
      exact h.binary
    · rw [decodeBody_utf8 (by decide), hP.utf8]
  · refine ⟨hsorted, ?_, h.raw.congr fun k hk => hsame (by revert k; decide),
      ⟨x, hdecoded.congr fun k hk => hsame (by revert k; decide)⟩, ⟨some v, bodyAt_bodyState (by decide) s hstore ?_⟩,
      h.collection.congr (hsame (by decide)) (hsame (by decide))⟩
    · rw [hsame (by decide)]
      exact h.binary
    · rw [decodeBody_utf8 (by decide), hP.utf8]

theorem promoted_acquired {rest : Dict} (hrest : (Json.obj rest).Sorted) (hfree : ∀ k ∈ bodyNames, rest.lookup k = none)
    {binary : Bool} {raw handle v : Text} {body : β} (hstore : store handle = .ok body)
    (hbody : (if binary then some (P.latin1Decode body) else P.utf8Decode body) = some v) :
    Promoted P store (P.acquiredState rest binary raw handle body) (some raw) (some v) := by
  have hsame {k : String} (hk : k ∉ [rawBody.text, rawBody.handle, rawBody.digest, rawBody.size])
      (hne : k ≠ "raw_binary_transport") : (P.acquiredState rest binary raw handle body).lookup k = rest.lookup k := by
    unfold acquiredState
    rw [bodyState_ne _ _ _ _ hk, Json.lookup_put, if_neg hne]
  have hbinary : (P.acquiredState rest binary raw handle body).lookup "raw_binary_transport" = some (.bool binary) := by
    unfold acquiredState
    rw [bodyState_ne _ _ _ _ (by decide), Json.lookup_put, if_pos rfl]
  have hother {k : String} (hk : k ∈ bodyNames)
      (hnot : k ∉ [rawBody.text, rawBody.handle, rawBody.digest, rawBody.size]) (hne : k ≠ "raw_binary_transport") :
      (P.acquiredState rest binary raw handle body).lookup k = none := (hsame hnot hne).trans (hfree k hk)
  refine ⟨sorted_bodyState (Json.sorted_put hrest (.bool binary) _) _ _ _, .inr ⟨binary, hbinary⟩,
    bodyAt_bodyState (by decide) _ hstore ?_,
    ⟨none, hother (by decide) (by decide) (by decide), .inl ⟨hother (by decide) (by decide) (by decide), rfl⟩⟩,
    ⟨none, hother (by decide) (by decide) (by decide), .inl ⟨hother (by decide) (by decide) (by decide), rfl⟩⟩,
    .inl (hother (by decide) (by decide) (by decide))⟩
  unfold acquiredState at hbinary
  unfold decodeBody
  rw [hbinary, ← hbody]
  cases binary with
  | true => rfl
  | false => rfl

/-! #### a loaded state -/

theorem Loads.bodyAt (hP : P.Lawful) (hl : Loads P s u loaded) (hb : b ∈ [rawBody, decodedBody, cleanBody])
    (hbinary : s.lookup "raw_binary_transport" = none ∨ ∃ b, s.lookup "raw_binary_transport" = some (.bool b))
    {t v : Option Text} (h : BodyAt P store s b t v) (htext : loaded.lookup b.text = v.map Json.str) :
    BodyAt P store loaded b v v := by
  obtain ⟨hhandle, hsize, hdigest⟩ := hl.carries.has_body hP hb
  refine ⟨htext, ?_⟩
  obtain ⟨-, ⟨hnone, rfl⟩ | ⟨handle, body, hsome, hstore, hfenced, -, hdecode, hv⟩⟩ := h
  · refine .inl ⟨?_, rfl⟩
    rw [hhandle, hnone]
    rfl
  · refine .inr ⟨handle, body, ?_, hstore, ?_, hv, ?_, hv⟩
    · rw [hhandle, hsome, Option.map_some, redact]
    · rw [fenced_of_has body hsize hdigest, hfenced]
    · rw [decodeBody_of_has body hbinary (hl.carries.has_transport hP), hdecode]

theorem memberAt_of_memberBack (hP : P.Lawful) {m n : Dict} {record : Json} (h : MemberBack P m n)
    (hm : MemberAt P store m record) : MemberAt P store n record := by
  have hhandle : n.lookup "clean_cas_handle" = (m.lookup "clean_cas_handle").map P.redact := by
    rw [h.fields _ (by decide), not_secret hP (by decide) (by decide)]
    rfl
  refine ⟨h.record.trans hm.1, ?_⟩
  rcases hm.2 with ⟨hnone, hnoText⟩ | ⟨handle, body, t, hsome, hne, hstore, hdecode, ht⟩
  · refine .inl ⟨?_, h.cleanText.trans hnoText⟩
    rw [hhandle, hnone]
    rfl
  · refine .inr ⟨handle, body, t, ?_, hne, hstore, hdecode, h.cleanText.trans ht⟩
    rw [hhandle, hsome, Option.map_some, redact]

theorem obj_map_injective {ms ns : List Dict} (h : ms.map Json.obj = ns.map Json.obj) : ms = ns :=
  List.map_injective_iff.2 (fun _ _ h => Json.obj.inj h) h

theorem Loads.collectionAt (hP : P.Lawful) (hl : Loads P s u loaded) (h : CollectionAt P store s) :
    CollectionAt P store loaded := by
  rcases hl.members with ⟨-, hnone⟩ | ⟨ms, ns, hms, hns, hback⟩
  · exact .inl hnone
  · rcases h with hnone | ⟨ms', records, handle, body, hms', hhandle, hne, hstore, hloads, hall⟩
    · rw [hnone] at hms
      cases hms
    · rw [hms'] at hms
      obtain rfl := obj_map_injective (Json.arr.inj (Option.some.inj hms))
      refine .inr ⟨ns, records, handle, body, hns, ?_, hne, hstore, hloads, ?_⟩
      · rw [hl.carries.has hP (k := "collection_cas_handle") (by decide) (by decide) (by decide), hhandle,
          Option.map_some, redact]
      · clear hms hns hloads hms'
        induction hback generalizing records with
        | nil =>
          cases hall
          exact .nil
        | cons hm _ ih =>
          cases hall with
          | cons hmr hrest => exact .cons (memberAt_of_memberBack hP hm hmr) (ih _ hrest)

theorem Loads.promoted (hP : P.Lawful) (h : Promoted P store s t u) (hl : Loads P s u loaded) :
    Promoted P store loaded u u := by
  obtain ⟨v, hdecoded⟩ := h.decoded
  obtain ⟨w, hclean⟩ := h.clean
  refine ⟨hl.sorted, ?_, hl.bodyAt hP (by decide) h.binary h.raw hl.raw,
    ⟨v, hl.bodyAt hP (by decide) h.binary hdecoded (hl.decoded.trans hdecoded.1)⟩,
    ⟨w, hl.bodyAt hP (by decide) h.binary hclean (hl.clean.trans hclean.1)⟩, hl.collectionAt hP h.collection⟩
  rw [hl.carries.has_transport hP]
  rcases h.binary with hb | ⟨b, hb⟩
  · refine .inl ?_
    rw [hb]
    rfl
  · refine .inr ⟨b, ?_⟩
    rw [hb, Option.map_some, redact]

theorem promoted_of_loadedFrom (hP : P.Lawful) (h : Promoted P store s t u) (hloaded : LoadedFrom P store s loaded) :
    Promoted P store loaded u u := by
  obtain ⟨command, output, ref, houtput, hstore, hload⟩ := hloaded
  obtain ⟨loaded', hload', hl⟩ := loadStageState_spec hP h ref (P.sha256 (P.outputBytes command output s))
  rw [loadState_eq hP h.sorted houtput hstore, hload'] at hload
  cases hload
  exact hl.promoted hP h

/-! #### the collections -/

theorem forall₂_records {members : List (Dict × Json)}
    (h : ∀ m ∈ members, ∀ k ∈ bodyNames, m.1.lookup k = none) :
    List.Forall₂ (MemberAt P store) (members.map fun m => Json.put m.1 "raw_record" m.2) (members.map Prod.snd) := by
  induction members with
  | nil => exact .nil
  | cons m members ih =>
    refine .cons ⟨?_, .inl ⟨?_, ?_⟩⟩ (ih fun m hm => h m (List.mem_cons_of_mem _ hm))
    · rw [Json.lookup_put, if_pos rfl]
    · rw [Json.lookup_put, if_neg (by decide), h m List.mem_cons_self _ (by decide)]
    · rw [Json.lookup_put, if_neg (by decide), h m List.mem_cons_self _ (by decide)]

theorem promoted_collected (hP : P.Lawful) {rest : Dict} (hrest : (Json.obj rest).Sorted)
    (hfree : ∀ k ∈ bodyNames, rest.lookup k = none) {members : List (Dict × Json)}
    (hmembers : ∀ m ∈ members, (Json.obj m.1).Sorted ∧ m.2.Sorted ∧ ∀ k ∈ bodyNames, m.1.lookup k = none) {handle : Text}
    (hne : handle ≠ []) (hstore : store handle = .ok (P.canonicalJson (.arr (members.map Prod.snd)))) :
    Promoted P store (collectedState rest members handle) none none := by
  have hsame {k : String} (hk : k ∈ bodyNames) (hm : "collection_members" ≠ k) (hc : "collection_cas_handle" ≠ k) :
      (collectedState rest members handle).lookup k = none := by
    refine (Json.lookup_update_ne (fun m hmem => ?_) rest).trans (hfree k hk)
    simp only [List.mem_cons, List.not_mem_nil, or_false] at hmem
    rcases hmem with rfl | rfl
    · exact hm
    · exact hc
  have hrecords : (Json.arr (members.map Prod.snd)).Sorted := by
    refine .arr fun v hv => ?_
    obtain ⟨m, hm, rfl⟩ := List.mem_map.1 hv
    exact (hmembers m hm).2.1
  have hsorted : (Json.obj (collectedState rest members handle)).Sorted := by
    refine Json.sorted_update (fun f hf => ?_) hrest
    simp only [List.mem_cons, List.not_mem_nil, or_false] at hf
    rcases hf with rfl | rfl
    · refine .arr fun v hv => ?_
      obtain ⟨m, hm, rfl⟩ := List.mem_map.1 hv
      exact Json.sorted_put (hmembers m hm).1 (hmembers m hm).2.1 _
    · exact .str _
  refine ⟨hsorted, .inl (hsame (by decide) (by decide) (by decide)),
    ⟨hsame (by decide) (by decide) (by decide), .inl ⟨hsame (by decide) (by decide) (by decide), rfl⟩⟩,
    ⟨none, hsame (by decide) (by decide) (by decide), .inl ⟨hsame (by decide) (by decide) (by decide), rfl⟩⟩,
    ⟨none, hsame (by decide) (by decide) (by decide), .inl ⟨hsame (by decide) (by decide) (by decide), rfl⟩⟩,
    .inr ⟨members.map fun m => Json.put m.1 "raw_record" m.2, members.map Prod.snd, handle, _, ?_, ?_, hne, hstore,
      hP.loads _ hrecords, forall₂_records fun m hm => (hmembers m hm).2.2⟩⟩
  · unfold collectedState Json.update
    simp [Json.lookup_put, Function.comp_def]
  · unfold collectedState Json.update
    simp [Json.lookup_put]

theorem memberAt_cleanedMember (hP : P.Lawful) {m : Dict} {record : Json} {c : CleanedMember}
    (h : m.lookup "raw_record" = some record) (hfields : ∀ f ∈ c.fields, f.1 ∉ "raw_record" :: bodyNames)
    (hne : c.handle ≠ []) (hstore : store c.handle = .ok (P.utf8 c.cleanText)) :
    MemberAt P store (P.cleanedMember m c) record := by
  obtain ⟨htext, hhandle, -, -⟩ := bodyState_lookups (P := P) (b := cleanBody) (by decide) (Json.update m c.fields)
    c.cleanText c.handle (P.utf8 c.cleanText)
  refine ⟨?_, .inr ⟨c.handle, _, c.cleanText, hhandle, hne, hstore, hP.utf8 _, htext⟩⟩
  unfold cleanedMember
  rw [bodyState_ne _ _ _ _ (by decide), Json.lookup_update_ne fun f hf heq => hfields f hf (heq ▸ List.mem_cons_self), h]

theorem forall₂_cleaned (hP : P.Lawful) {members : List (Dict × CleanedMember)} {records : List Json}
    (h : List.Forall₂ (MemberAt P store) (members.map Prod.fst) records)
    (hclean : ∀ m ∈ members, (∀ f ∈ m.2.fields, f.1 ∉ "raw_record" :: bodyNames ∧ f.2.Sorted) ∧ m.2.handle ≠ [] ∧
      store m.2.handle = .ok (P.utf8 m.2.cleanText)) :
    List.Forall₂ (MemberAt P store) (members.map fun m => P.cleanedMember m.1 m.2) records := by
  induction members generalizing records with
  | nil =>
    cases h
    exact .nil
  | cons m members ih =>
    cases h with
    | cons hm hrest =>
      obtain ⟨hfields, hne, hstore⟩ := hclean m List.mem_cons_self
      exact .cons (memberAt_cleanedMember hP hm.1 (fun f hf => (hfields f hf).1) hne hstore)
        (ih hrest fun m hm => hclean m (List.mem_cons_of_mem _ hm))

theorem promoted_cleaned (hP : P.Lawful) (h : Promoted P store s t u) {members : List (Dict × CleanedMember)}
    (hmembers : s.lookup "collection_members" = some (.arr (members.map fun m => .obj m.1)))
    (hclean : ∀ m ∈ members, (∀ f ∈ m.2.fields, f.1 ∉ "raw_record" :: bodyNames ∧ f.2.Sorted) ∧ m.2.handle ≠ [] ∧
      store m.2.handle = .ok (P.utf8 m.2.cleanText)) :
    Promoted P store
      (Json.put s "collection_members" (.arr (members.map fun m => .obj (P.cleanedMember m.1 m.2)))) t u := by
  have hsame {k : String} (hk : k ≠ "collection_members") :
      (Json.put s "collection_members" (.arr (members.map fun m => .obj (P.cleanedMember m.1 m.2)))).lookup k =
        s.lookup k := by
    rw [Json.lookup_put, if_neg hk]
  obtain ⟨v, hdecoded⟩ := h.decoded
  obtain ⟨w, hcleaned⟩ := h.clean
  have hsorted : (Json.arr (members.map fun m => .obj (P.cleanedMember m.1 m.2))).Sorted := by
    refine .arr fun v hv => ?_
    obtain ⟨m, hm, rfl⟩ := List.mem_map.1 hv
    cases h.sorted.lookup hmembers with
    | arr hall =>
      exact sorted_bodyState (Json.sorted_update (fun f hf => ((hclean m hm).1 f hf).2)
        (hall _ (List.mem_map_of_mem (f := fun m : Dict × CleanedMember => Json.obj m.1) hm))) _ _ _
  refine ⟨Json.sorted_put h.sorted hsorted _, ?_, h.raw.congr fun k hk => hsame (by revert k; decide),
    ⟨v, hdecoded.congr fun k hk => hsame (by revert k; decide)⟩,
    ⟨w, hcleaned.congr fun k hk => hsame (by revert k; decide)⟩, ?_⟩
  · rw [hsame (by decide)]
    exact h.binary
  -- the members that are cleaned are those of the stored collection
  · rcases h.collection with hnone | ⟨ms, records, handle, body, hms, hhandle, hne, hstore, hloads, hall⟩
    · rw [hnone] at hmembers
      cases hmembers
    · have hfst : ms = members.map Prod.fst := by
        refine obj_map_injective ?_
        rw [hms] at hmembers
        rw [Json.arr.inj (Option.some.inj hmembers), List.map_map]
        rfl
      refine .inr ⟨members.map fun m => P.cleanedMember m.1 m.2, records, handle, body, ?_, ?_, hne, hstore, hloads,
        forall₂_cleaned hP (hfst ▸ hall) hclean⟩
      · rw [Json.lookup_put, if_pos rfl, List.map_map]
        rfl
      · rw [hsame (by decide), hhandle]

/-! #### every stage -/

theorem stripBom_eq_iff (t : Text) : stripBom t = t ↔ t.head? ≠ some bom := by
  cases t with
  | nil => simp [stripBom]
  | cons c t =>
    rw [stripBom]
    by_cases hc : c = bom
    · rw [if_pos hc, hc]
      constructor
      · intro h
        have hlength := congrArg List.length h
        simp at hlength
      · exact fun h => absurd rfl h
    · simp [hc]

/-- Every state that a stage hands over is promoted; its raw text is what its stored bytes are read as unless it is of a
replay that does not read the same text. -/
theorem handed_promoted (hP : P.Lawful) {o : Origin β} (h : Handed P store o s) :
    ∃ t u, Promoted P store s t u ∧ (t = u ↔ o.SameText P) := by
  -- a loaded state is promoted with the text its bytes are read as, so only a replay can differ
  induction h with
  | @inlined s hs htext hbinary hmembers =>
    have hbody {b : BodyKeys} (hb : b ∈ [rawBody, decodedBody, cleanBody]) : ∃ t, BodyAt P store s b t t := by
      obtain ⟨hnone, t, ht⟩ := htext b hb
      exact ⟨t, ht, .inl ⟨hnone, rfl⟩⟩
    obtain ⟨t, ht⟩ := hbody (b := rawBody) (by decide)
    exact ⟨t, t, ⟨hs, hbinary, ht, hbody (by decide), hbody (by decide), .inl hmembers⟩, iff_of_true rfl trivial⟩
  | @acquired rest hrest hfree data binary raw handle hraw hstore =>
    refine ⟨some raw, some raw, promoted_acquired hrest hfree hstore ?_, iff_of_true rfl trivial⟩
    cases binary with
    | true =>
      have hdata : P.latin1Decode data = raw := Option.some.inj hraw
      show some (P.latin1Decode (P.latin1 raw)) = some raw
      rw [← hdata, hP.latin1]
    | false => exact hP.utf8 raw
  | @replayed rest hrest hfree data binary raw handle hraw hstore =>
    cases binary with
    | true => exact ⟨some raw, some raw, promoted_acquired hrest hfree hstore hraw, iff_of_true rfl (.inl rfl)⟩
    | false =>
      -- `utf-8-sig` on the way in, UTF-8 on the way back
      obtain ⟨v, hv, rfl⟩ := Option.map_eq_some_iff.1 (show (P.utf8Decode data).map stripBom = some raw from hraw)
      refine ⟨some (stripBom v), some v, promoted_acquired hrest hfree hstore hv, ?_⟩
      rw [Option.some.injEq, stripBom_eq_iff]
      show v.head? ≠ some bom ↔ (false = true ∨ (P.utf8Decode data).bind List.head? ≠ some bom)
      rw [hv]
      simp
  | collected hrest hfree hmembers hne hstore =>
    exact ⟨none, none, promoted_collected hP hrest hfree hmembers hne hstore, iff_of_true rfl trivial⟩
  | body _ hloaded hb hstore hfields ih =>
    obtain ⟨t, u, hpromoted, -⟩ := ih
    exact ⟨u, u, ((promoted_of_loadedFrom hP hpromoted hloaded).bodyState hP hb hstore).update hfields,
      iff_of_true rfl trivial⟩
  | cleaned _ hloaded hmembers hclean hfields ih =>
    obtain ⟨t, u, hpromoted, -⟩ := ih
    exact ⟨u, u, (promoted_cleaned hP (promoted_of_loadedFrom hP hpromoted hloaded) hmembers hclean).update hfields,
      iff_of_true rfl trivial⟩
  | passed _ hloaded hfields ih =>
    obtain ⟨t, u, hpromoted, -⟩ := ih
    exact ⟨u, u, (promoted_of_loadedFrom hP hpromoted hloaded).update hfields, iff_of_true rfl trivial⟩

/-- A state that a stage hands over comes back from its envelope, unless it is of a replay of text bytes with a byte
order mark. -/
theorem stageEnvelopes_iff (hP : P.Lawful) {o : Origin β} (h : Handed P store o s) {command : StageCommand}
    {output : Dict} {ref : Text} (houtput : (Json.obj output).Sorted)
    (hstore : store ref = .ok (P.outputBytes command output s)) :
    P.RoundTrips store command output ref s ↔ o.SameText P := by
  obtain ⟨t, u, hpromoted, hiff⟩ := handed_promoted hP h
  rw [roundTrips_iff hP hpromoted houtput hstore, hiff]

/-! #### a replay with a byte order mark -/

/-- Bytes as JSON or as text. -/
def plainPlatform : StagePlatform (Json ⊕ Text) where
  canonicalJson := .inl
  loads := Sum.getLeft?
  utf8 := .inr
  utf8Decode := Sum.getRight?
  latin1 := .inr
  latin1Decode := Sum.elim (fun _ => []) id
  sha256 := Sum.elim (fun _ => "json".toList) id
  size := Sum.elim (fun _ => 0) List.length
  casefold := id

theorem plainPlatform_lawful : plainPlatform.Lawful :=
  ⟨fun _ _ => rfl, fun _ => rfl, fun _ => rfl, fun _ _ => rfl⟩

def replayCommand : StageCommand := ⟨"intake.acquire.inline".toList, "p".toList, 1⟩

/-- The state of an acquisition whose stored bytes are `\ufeffx`. -/
def markedState (raw : String) : Dict :=
  plainPlatform.acquiredState [] false raw.toList "raw".toList (.inr "\ufeffx".toList)

/-- The raw bytes, and the envelope of the state. -/
def markedStore (raw : String) : ObjectStore (Json ⊕ Text) := fun handle =>
  if handle = "raw".toList then .ok (.inr "\ufeffx".toList)
  else .ok (plainPlatform.outputBytes replayCommand [] (markedState raw))

theorem markedStore_raw (raw : String) : markedStore raw "raw".toList = .ok (.inr "\ufeffx".toList) := rfl

theorem markedStore_ref (raw : String) :
    markedStore raw "ref".toList = .ok (plainPlatform.outputBytes replayCommand [] (markedState raw)) := rfl

theorem sorted_nil : (Json.obj []).Sorted := .obj List.Pairwise.nil fun _ h => absurd h List.not_mem_nil

theorem handed_replayed :
    Handed plainPlatform (markedStore "x") (.replay false (.inr "\ufeffx".toList)) (markedState "x") :=
  .replayed sorted_nil (fun _ _ => rfl) rfl (markedStore_raw "x")

/-- A first acquisition of a text with a byte order mark, whose state comes back. -/
theorem stageEnvelopes_iff_marked :
    plainPlatform.RoundTrips (markedStore "\ufeffx") replayCommand [] "ref".toList (markedState "\ufeffx") ↔
      Origin.own.SameText plainPlatform :=
  stageEnvelopes_iff plainPlatform_lawful
    (.acquired sorted_nil (fun _ _ => rfl)
      (show plainPlatform.representation false (.inr "\ufeff\ufeffx".toList) = some "\ufeffx".toList from rfl)
      (markedStore_raw "\ufeffx")) sorted_nil (markedStore_ref "\ufeffx")

/-- A full retry of it, whose state does not. -/
theorem stageEnvelope_of_marked_replay : ¬ ∀ (P : StagePlatform (Json ⊕ Text)) (store : ObjectStore (Json ⊕ Text))
    (o : Origin (Json ⊕ Text)) (s : Dict) (command : StageCommand) (output : Dict) (ref : Text), P.Lawful →
      Handed P store o s → (Json.obj output).Sorted → store ref = .ok (P.outputBytes command output s) →
        P.RoundTrips store command output ref s := by
  intro hall
  obtain ⟨t, u, hpromoted, hiff⟩ := handed_promoted plainPlatform_lawful handed_replayed
  have hback := hall _ _ _ _ replayCommand [] "ref".toList plainPlatform_lawful handed_replayed sorted_nil
    (markedStore_ref "x")
  rw [roundTrips_iff plainPlatform_lawful hpromoted sorted_nil (markedStore_ref "x"), hiff] at hback
  rcases hback with hbinary | hmark
  · cases hbinary
  · exact hmark rfl

end StagePlatform

end KnowledgeBase
