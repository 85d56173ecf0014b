import KnowledgeBase.Inference.AgentCli

/-!
# Structured output of an agent

What a structured run may return for a text, and the texts for which the fallback of the decoder returns something
else: an object with a member of the envelope and no object to unwrap.
-/

namespace KnowledgeBase

open Json (Dict)

namespace StdoutCodec

variable (S : StdoutCodec)

/-- The dictionary has a member of the envelope. -/
def CarriesEnvelope (d : Dict) : Prop :=
  (d.lookup "is_error").isSome ∨ (d.lookup "structured_output").isSome ∨ (d.lookup "result").isSome

/-- The object that the envelope wraps: its structured output, or else its result once parsed. -/
def Wraps (envelope answer : Dict) : Prop :=
  objMember envelope "structured_output" = some answer ∨
    objMember envelope "structured_output" = none ∧
      ∃ result, textMember envelope "result" = some result ∧ S.loads result = .ok (.obj answer)

/-- The answer is what the text says: the object of an envelope without error, or the object that is no envelope. -/
def HonestAnswer (stdout : Text) (answer : Dict) : Prop :=
  ∃ d, S.loads stdout = .ok (.obj d) ∧
    (S.reportsError d = false ∧ S.Wraps d answer ∨ ¬ CarriesEnvelope d ∧ answer = d)

/-- The result is not the text of an object: it is no text, it is blank, it is no JSON, or it is another value. -/
def NoObjectResult (d : Dict) : Prop :=
  ∀ result, textMember d "result" = some result →
    S.loads result = .error .decode ∨ ∃ v, S.loads result = .ok v ∧ ∀ m, v ≠ .obj m

/-- The text is an object with a member of the envelope that wraps no object. -/
def Misread (stdout : Text) : Prop :=
  ∃ d, S.loads stdout = .ok (.obj d) ∧ CarriesEnvelope d ∧ objMember d "structured_output" = none ∧ S.NoObjectResult d

variable {S} {d answer : Dict} {decoded : DecodedStdout} {stdout result : Text}

/-! ### the envelope decoder -/

theorem decodeResult_ok (h : S.decodeResult d result = .ok decoded) :
    ∃ answer, S.loads result = .ok (.obj answer) ∧ decoded.structured = some answer ∧
      decoded.isError = S.reportsError d := by
  unfold decodeResult at h
  split at h
  · cases h
  · cases h
  · rename_i parsed hparsed
    cases h
    exact ⟨parsed, hparsed, rfl, rfl⟩
  · cases h

theorem decodeResult_refused {e : CliError} (h : S.decodeResult d result = .error (.mkb e)) :
    S.loads result = .error .decode ∨ ∃ v, S.loads result = .ok v ∧ ∀ m, v ≠ .obj m := by
  unfold decodeResult at h
  split at h
  · rename_i hdecode
    exact .inl hdecode
  · cases h
  · cases h
  · rename_i v hobj hv
    exact .inr ⟨v, hv, fun m hm => hobj m (hm ▸ rfl)⟩

theorem decodeResult_of_noObject
    (h : S.loads result = .error .decode ∨ ∃ v, S.loads result = .ok v ∧ ∀ m, v ≠ .obj m) :
    ∃ e, S.decodeResult d result = .error (.mkb e) := by
  unfold decodeResult
  rcases h with h | ⟨v, h, hobj⟩
  · rw [h]
    exact ⟨_, rfl⟩
  · rw [h]
    cases v with
    | obj m => exact absurd rfl (hobj m)
    | null => exact ⟨_, rfl⟩
    | bool b => exact ⟨_, rfl⟩
    | int n => exact ⟨_, rfl⟩
    | float l => exact ⟨_, rfl⟩
    | str t => exact ⟨_, rfl⟩
    | arr items => exact ⟨_, rfl⟩

theorem decodeEnvelope_ok (h : S.decodeEnvelope d = .ok decoded) :
    ∃ answer, S.Wraps d answer ∧ decoded.structured = some answer ∧ decoded.isError = S.reportsError d := by
  unfold decodeEnvelope at h
  split at h
  · rename_i structured hstructured
    cases h
    exact ⟨structured, .inl hstructured, rfl, rfl⟩
  · rename_i hnone
    split at h
    · rename_i result hresult
      obtain ⟨answer, hloads, hanswer, herror⟩ := decodeResult_ok h
      exact ⟨answer, .inr ⟨hnone, result, hresult, hloads⟩, hanswer, herror⟩
    · split at h
      · cases h
      · cases h

theorem decodeEnvelope_refused_iff :
    (∃ e, S.decodeEnvelope d = .error (.mkb e)) ↔
      objMember d "structured_output" = none ∧ S.NoObjectResult d := by
  unfold decodeEnvelope NoObjectResult
  cases hstructured : objMember d "structured_output" with
  | some structured => simp
  | none =>
    cases hresult : textMember d "result" with
    | some result =>
      constructor
      · rintro ⟨e, he⟩
        refine ⟨rfl, fun r hr => ?_⟩
        cases hr
        exact decodeResult_refused he
      · rintro ⟨-, h⟩
        exact decodeResult_of_noObject (h result rfl)
    | none =>
      constructor
      · rintro -
        exact ⟨rfl, fun r hr => nomatch hr⟩
      · rintro -
        cases d.lookup "structured_output" with
        | some v => exact ⟨_, rfl⟩
        | none => exact ⟨_, rfl⟩

/-! ### the decoder with its fallback -/

theorem decodeAgentStructuredStdout_of_refused {e : CliError} (hloads : S.loads stdout = .ok (.obj d))
    (h : S.decodeEnvelope d = .error (.mkb e)) :
    S.decodeAgentStructuredStdout stdout = .ok ⟨S.dumps (.obj d), some d, none, none, false⟩ := by
  have hd : S.decodeStructuredStdout stdout = .error (.mkb e) := by
    unfold decodeStructuredStdout
    rw [hloads]
    exact h
  unfold decodeAgentStructuredStdout
  simp only [hd, hloads]

/-- What the decoder returns: what the envelope wraps, or the whole object where the envelope was refused. -/
theorem decodeAgentStructuredStdout_ok (h : S.decodeAgentStructuredStdout stdout = .ok decoded) :
    ∃ d, S.loads stdout = .ok (.obj d) ∧
      ((∃ answer, S.Wraps d answer ∧ decoded.structured = some answer ∧ decoded.isError = S.reportsError d) ∨
        (∃ e, S.decodeEnvelope d = .error (.mkb e)) ∧ decoded.structured = some d ∧ decoded.isError = false) := by
  unfold decodeAgentStructuredStdout at h
  split at h
  · rename_i e he
    split at h
    · cases h
    · cases h
    · rename_i d hd
      cases h
      refine ⟨d, hd, .inr ⟨⟨e, ?_⟩, rfl, rfl⟩⟩
      unfold decodeStructuredStdout at he
      rw [hd] at he
      exact he
    · cases h
  · unfold decodeStructuredStdout at h
    split at h
    · cases h
    · cases h
    · rename_i d hd
      exact ⟨d, hd, .inl (decodeEnvelope_ok h)⟩
    · cases h

/-! ### the run -/

variable {cli : SubprocessAgentCli} {request : ClaudeCliRequest} {returncode : Option Int} {stderr : Text}
  {r : ClaudeCliResult}

theorem structured_effective : (cli.effective request).structured = request.structured := by
  unfold SubprocessAgentCli.effective
  split
  · rfl
  · rfl

theorem readStructured_ok {exitCode : Int} (h : cli.readStructured request exitCode decoded = .ok r) :
    decoded.isError = false ∧ r.structuredOutput = decoded.structured ∧ decoded.structured.isSome := by
  unfold SubprocessAgentCli.readStructured at h
  split at h
  · cases h
  · rename_i herror
    split at h
    · cases h
    · rename_i structured hstructured
      cases h
      rw [hstructured]
      exact ⟨by simpa using herror, rfl, rfl⟩

theorem run_structured_ok (hrequest : request.structured = true)
    (h : cli.run S request (.exited returncode stdout stderr) = .ok r) :
    ∃ decoded, S.decodeAgentStructuredStdout stdout = .ok decoded ∧ decoded.isError = false ∧
      r.structuredOutput = decoded.structured := by
  unfold SubprocessAgentCli.run at h
  simp only at h
  split at h
  · cases h
  · unfold SubprocessAgentCli.readStdout at h
    rw [structured_effective, if_pos hrequest] at h
    obtain ⟨decoded, hdecoded, hread⟩ := Checked.bind_ok_iff.1 (Checked.mapError_ok_iff.1 h)
    obtain ⟨herror, hstructured, -⟩ := readStructured_ok hread
    exact ⟨decoded, hdecoded, herror, hstructured⟩

theorem run_of_decoded (cli : SubprocessAgentCli) (stderr : Text) (hrequest : request.structured = true)
    (h : S.decodeAgentStructuredStdout stdout = .ok decoded) (herror : decoded.isError = false)
    (hanswer : decoded.structured = some answer) :
    ∃ r, cli.run S request (.exited (some 0) stdout stderr) = .ok r ∧ r.structuredOutput = some answer := by
  unfold SubprocessAgentCli.run
  simp only [Option.getD_some, ne_eq, not_true_eq_false, if_false]
  unfold SubprocessAgentCli.readStdout
  rw [structured_effective, if_pos hrequest, h]
  unfold Except.bind SubprocessAgentCli.readStructured
  simp only [herror, hanswer]
  exact ⟨_, rfl, rfl⟩

theorem not_honest_of_misread (h : S.loads stdout = .ok (.obj d)) (hcarries : CarriesEnvelope d)
    (hstructured : objMember d "structured_output" = none) (hresult : S.NoObjectResult d) :
    ¬ S.HonestAnswer stdout answer := by
  rintro ⟨d', hd', hw | ⟨hnot, -⟩⟩
  · rw [h] at hd'
    cases hd'
    obtain ⟨-, hw | ⟨-, result, ht, hl⟩⟩ := hw
    · rw [hstructured] at hw
      cases hw
    · rcases hresult result ht with hr | ⟨v, hv, hobj⟩
      · rw [hl] at hr
        cases hr
      · rw [hl] at hv
        cases hv
        exact hobj answer rfl
  · rw [h] at hd'
    cases hd'
    exact hnot hcarries

/-- Structured runs on a text are honest exactly if the text is no object with a member of the envelope that wraps no
object. -/
theorem structuredOutput_honest_iff (S : StdoutCodec) (cli : SubprocessAgentCli) (request : ClaudeCliRequest)
    (stdout : Text) (hrequest : request.structured = true) :
    (∀ returncode stderr r, cli.run S request (.exited returncode stdout stderr) = .ok r →
      ∃ answer, r.structuredOutput = some answer ∧ S.HonestAnswer stdout answer) ↔ ¬ S.Misread stdout := by
  constructor
  · rintro h ⟨d, hd, hcarries, hstructured, hresult⟩
    obtain ⟨e, he⟩ := decodeEnvelope_refused_iff.2 ⟨hstructured, hresult⟩
    obtain ⟨r, hr, -⟩ := run_of_decoded cli [] hrequest
      (decodeAgentStructuredStdout_of_refused hd he) rfl rfl
    obtain ⟨answer, -, hanswer⟩ := h _ _ r hr
    exact not_honest_of_misread hd hcarries hstructured hresult hanswer
  · intro h returncode stderr r hr
    obtain ⟨decoded, hdecoded, herror, hstructured⟩ := run_structured_ok hrequest hr
    rw [hstructured]
    obtain ⟨d, hd, ⟨answer, hw, hanswer, heq⟩ | ⟨hrefused, hanswer, -⟩⟩ := decodeAgentStructuredStdout_ok hdecoded
    · exact ⟨answer, hanswer, d, hd, .inl ⟨heq ▸ herror, hw⟩⟩
    · refine ⟨d, hanswer, d, hd, .inr ⟨fun hcarries => ?_, rfl⟩⟩
      obtain ⟨hnone, hresult⟩ := decodeEnvelope_refused_iff.1 hrefused
      exact h ⟨d, hd, hcarries, hnone, hresult⟩

/-! ### a direct answer, an envelope, and one that reports an error -/

def directStdout : Text := "\x7b\"a\":1\x7d".toList

def wrappedStdout : Text := "\x7b\"result\":\"\x7b\\\"a\\\":1\x7d\"\x7d".toList

/-- The result is no JSON. -/
def failedStdout : Text := "\x7b\"is_error\":true,\"result\":\"boom\"\x7d".toList

def failedEnvelope : Dict := [("is_error", .bool true), ("result", .str "boom".toList)]

/-- A codec that reads these texts. -/
def sampleCodec : StdoutCodec where
  loads t :=
    if t = directStdout then .ok (.obj [("a", .int 1)])
    else if t = wrappedStdout then .ok (.obj [("result", .str directStdout)])
    else if t = failedStdout then .ok (.obj failedEnvelope)
    else .error .decode
  dumps _ := directStdout
  floatIsZero _ := false
  digestText t := t

def grokCli : SubprocessAgentCli := ⟨"grok", none⟩

def structuredRequest : ClaudeCliRequest := ⟨true, none, none⟩

theorem not_misread_directStdout : ¬ sampleCodec.Misread directStdout := by
  rintro ⟨d, hd, hcarries, -, -⟩
  cases hd
  rcases hcarries with h | h | h <;> cases h

theorem not_misread_wrappedStdout : ¬ sampleCodec.Misread wrappedStdout := by
  rintro ⟨d, hd, -, -, hresult⟩
  cases hd
  rcases hresult directStdout (by decide) with h | ⟨v, hv, hobj⟩
  · cases h
  · cases hv
    exact hobj _ rfl

/-- Both texts give the object, which is what they say. -/
theorem structuredOutput_honest_iff_answers :
    (∃ r, grokCli.run sampleCodec structuredRequest (.exited (some 0) directStdout []) = .ok r ∧
      ∃ answer, r.structuredOutput = some answer ∧ sampleCodec.HonestAnswer directStdout answer) ∧
    ∃ r, grokCli.run sampleCodec structuredRequest (.exited (some 0) wrappedStdout []) = .ok r ∧
      ∃ answer, r.structuredOutput = some answer ∧ sampleCodec.HonestAnswer wrappedStdout answer := by
  obtain ⟨r, hr⟩ : ∃ r, grokCli.run sampleCodec structuredRequest (.exited (some 0) directStdout []) = .ok r :=
    ⟨_, rfl⟩
  obtain ⟨r', hr'⟩ : ∃ r, grokCli.run sampleCodec structuredRequest (.exited (some 0) wrappedStdout []) = .ok r :=
    ⟨_, rfl⟩
  exact ⟨⟨r, hr, (structuredOutput_honest_iff _ _ _ _ rfl).2 not_misread_directStdout _ _ r hr⟩,
    ⟨r', hr', (structuredOutput_honest_iff _ _ _ _ rfl).2 not_misread_wrappedStdout _ _ r' hr'⟩⟩

theorem misread_failedStdout : sampleCodec.Misread failedStdout := by
  refine ⟨failedEnvelope, rfl, .inl rfl, rfl, fun result hresult => .inl ?_⟩
  have h : textMember failedEnvelope "result" = some "boom".toList := by decide
  rw [h] at hresult
  cases hresult
  rfl

/-- The envelope that reports an error is returned as the answer. -/
theorem structuredOutput_not_honest : ¬ ∀ (S : StdoutCodec) (cli : SubprocessAgentCli) (request : ClaudeCliRequest)
    (stdout : Text), request.structured = true → ∀ returncode stderr r,
      cli.run S request (.exited returncode stdout stderr) = .ok r →
        ∃ answer, r.structuredOutput = some answer ∧ S.HonestAnswer stdout answer := by
  intro h
  obtain ⟨d, hd, hcarries, hstructured, hresult⟩ := misread_failedStdout
  obtain ⟨e, he⟩ := decodeEnvelope_refused_iff.2 ⟨hstructured, hresult⟩
  obtain ⟨r, hr, -⟩ := run_of_decoded grokCli [] (rfl : structuredRequest.structured = true)
    (decodeAgentStructuredStdout_of_refused hd he) rfl rfl
  obtain ⟨answer, -, hanswer⟩ := h sampleCodec grokCli structuredRequest failedStdout rfl _ _ r hr
  exact not_honest_of_misread hd hcarries hstructured hresult hanswer

end StdoutCodec

end KnowledgeBase
