import KnowledgeBase.Library.Checked
import KnowledgeBase.Store.Database

/-!
# The catalog of prompts

A row of the catalog points at the bytes of one version of a prompt: `bootstrap` registers the defaults,
`register_prompt` one more version in the place of the active one, and `retire_prompt` takes one out of use. A Task
freezes the prompts of its four roles when it is admitted. The files under the prompt root and the digest are parameters.
-/

namespace KnowledgeBase

/-! ### pointers -/

inductive PromptRole
  | clean | markdown | json | summarizer
  deriving DecidableEq

def PromptRole.text : PromptRole → String
  | clean => "clean"
  | markdown => "markdown"
  | json => "json"
  | summarizer => "summarizer"

/-- `Path(relative_path)`. -/
structure PromptPath where
  absolute : Bool := false
  parts : List String
  deriving DecidableEq

/-- The files under the prompt root, as bytes, and `sha256(..).hexdigest()`. -/
structure PromptFiles where
  read : PromptPath → Option ByteArray
  sha256 : ByteArray → String

section files

variable (files : PromptFiles)

end files

end KnowledgeBase
