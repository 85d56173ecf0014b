import KnowledgeBase.Intake.CleanPrompts
import KnowledgeBase.Library.Run

/-!
# Admitted prompts

A request may freeze any active prompt of the clean role, in any version, and an earlier snapshot may point at a
historical one; but every channel accepts one key and one version only, and the command line reads one file where the
Task has no selection. `cleanPrompts_iff` says exactly which of the prompts that are admitted can be used.
-/

namespace KnowledgeBase

open Checked

/-! ### what a stage does with a prompt -/

section stage

variable {files : PromptFiles} {pages : WebPages} {frozen : ByteArray} {definition : CleanStrategyDefinition}
  {state : CleanPromptState} {prompt : CleanPrompt}

end stage

/-! ### admission -/

section admission

variable {files : PromptFiles} {catalog : PromptCatalog}

end admission

/-! ### which prompts can be used -/

section usable

variable {files : PromptFiles} {pages : WebPages} {snapshot : List SnapshotPrompt}

end usable

end KnowledgeBase
