import KnowledgeBase.Catalog.Prompts

/-!
# The prompts of the clean stage

The clean stage of a strategy with a language model reads the prompt its Task has frozen, or the one an earlier snapshot
points at, and gives it to the channel of the strategy, which compares its key and its version with the definition once
more. A stage ends with the bytes the model is given as its prompt, or with an error. The language model is the injected
one, or the command line with a prompt file; what the channels read out of a web page is a parameter.
-/

namespace KnowledgeBase

/-! ### strategies -/

/-- `CleanPrompt`. -/
structure CleanPrompt where
  key : String
  version : String
  text : String
  contentSha256 : String

/-- Sixty-four hexadecimal digits in lower case. -/
def isSha256Text (s : String) : Bool := s.length = 64 && s.toList.all fun c => c.isDigit || ('a' ≤ c && c ≤ 'f')

/-- `CleanPrompt.__post_init__`. -/
def CleanPrompt.check (files : PromptFiles) (prompt : CleanPrompt) : Except MkbError CleanPrompt :=
  if prompt.key.isEmpty || prompt.version.isEmpty || prompt.text.isEmpty then
    .error ⟨"ValueError", "clean prompt coordinate and text must be non-empty", 500⟩
  else if !isSha256Text prompt.contentSha256 then
    .error ⟨"ValueError", "clean prompt SHA-256 is invalid", 500⟩
  else if files.sha256 prompt.text.toByteArray ≠ prompt.contentSha256 then
    .error ⟨"ValueError", "clean prompt text does not match its SHA-256", 500⟩
  else .ok prompt

section stage

variable (files : PromptFiles) (pages : WebPages)

/-- The language model of a stage: the injected one, or the command line with its prompt file. -/
inductive CleanLlm
  | injected
  | cli (systemPrompt : ByteArray)

/-- A call of the language model: the bytes of the prompt it is handed. What the injected model makes of them (it drops
blank ones, and refuses very long ones) lies behind its own method. The command line takes text only. -/
def CleanLlm.call (llm : CleanLlm) (prompt : CleanPrompt) (text : Option String) (blob : Option ByteArray)
    (mediaType : Option String) : Except MkbError ByteArray :=
  match llm with
  | injected => .ok prompt.text.toByteArray
  | cli systemPrompt =>
    if mediaType.any fun media => !"text/".toList.isPrefixOf media.toList then
      .error ⟨"CLEAN_MEDIA_UNSUPPORTED", "Non-text media cannot be decoded as CLI clean input", 422⟩
    else if blob.isSome && text.isNone then
      .error ⟨"CLEAN_MEDIA_UNSUPPORTED", "Binary clean input is not supported on the CLI path", 422⟩
    else .ok systemPrompt

end stage

end KnowledgeBase
