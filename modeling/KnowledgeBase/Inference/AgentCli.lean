import KnowledgeBase.Lsrag.Cuts

/-!
# Agent command lines

One run of an agent executable (`SubprocessAgentCli.run`) from the end of its process to the typed result, with the
decoders of its standard output. `json.loads`, `json.dumps` and the truth value of a float are parameters.
-/

namespace KnowledgeBase

open Json (Dict)

/-- An error of a command line call: `MkbError` with its details. -/
structure CliError extends MkbError where
  details : Option Dict := none

namespace CliError

def of (code message : String) (status : Nat) (details : Option Dict := none) : CliError :=
  ⟨⟨code, message, status⟩, details⟩

end CliError

/-- What a call raises: `MkbError`, another exception, or the cancellation. -/
inductive CliRaised
  | mkb (e : CliError)
  | exception
  | cancelled

/-- How `json.loads` fails: `JSONDecodeError` or another exception (a number too long, a nesting too deep). -/
inductive LoadsError
  | decode
  | other

/-- The functions of the standard library that the decoders call. -/
structure StdoutCodec where
  loads : Text → Except LoadsError Json
  dumps : Json → Text
  floatIsZero : Text → Bool
  digestText : Text → Text

/-- What the decoders read from an envelope: text, structured output, session, usage and `is_error`. -/
structure DecodedStdout where
  text : Text
  structured : Option Dict
  sessionId : Option Text
  usage : Option Dict
  isError : Bool

/-- The fields of `ClaudeCliRequest` that a run or the router reads. -/
structure ClaudeCliRequest where
  structured : Bool
  model : Option String
  providerPlan : Option (List String)

/-- `ClaudeCliResult`. -/
structure ClaudeCliResult where
  text : Text
  structuredOutput : Option Dict
  exitCode : Int
  sessionId : Option Text := none
  usage : Option Dict := none
  isError : Bool := false
  provider : String := "claude"
  model : Option String := none
  attemptOrdinal : Nat := 0
  fallbackFrom : Option String := none
  fallbackReason : Option String := none

/-- How the process ended: its exit code and outputs, an error of the argument check or of the output limit, the
timeout, an `OSError`, the cancellation, or another exception. -/
inductive ProcessEnd
  | exited (returncode : Option Int) (stdout stderr : Text)
  | refused (e : CliError)
  | timedOut
  | osError
  | cancelled
  | exception

/-- `cli_structured_kind`. -/
def cliStructuredKind : Option Json → String
  | none => "missing"
  | some .null => "null"
  | some (.bool _) => "bool"
  | some (.int _) => "number"
  | some (.float _) => "number"
  | some (.str t) => if t.isBlank then "empty_result" else "string"
  | some (.arr _) => "list"
  | some (.obj _) => "object"

def kindDetails (kind : String) : Option Dict := some [("cli_structured_kind", .str kind.toList)]

def kindError (kind : String) : CliError :=
  .of "CLAUDE_CLI_OUTPUT_INVALID" ("Claude CLI structured result is " ++ kind) 502 (kindDetails kind)

/-- The member as a string. -/
def strMember (d : Dict) (key : String) : Option Text :=
  match d.lookup key with
  | some (.str t) => some t
  | _ => none

/-- The member as an object. -/
def objMember (d : Dict) (key : String) : Option Dict :=
  match d.lookup key with
  | some (.obj m) => some m
  | _ => none

/-- The member as a string that is not blank. -/
def textMember (d : Dict) (key : String) : Option Text := (strMember d key).filter fun t => !t.isBlank

namespace StdoutCodec

variable (S : StdoutCodec)

/-- `bool(v)`. -/
def truthy : Json → Bool
  | .null => false
  | .bool b => b
  | .int n => n != 0
  | .float lexeme => !S.floatIsZero lexeme
  | .str t => !t.isEmpty
  | .arr items => !items.isEmpty
  | .obj members => !members.isEmpty

/-- `bool(envelope.get("is_error", False))`. -/
def reportsError (envelope : Dict) : Bool := ((envelope.lookup "is_error").map S.truthy).getD false

/-- What follows a `result` that is text, in `_decode_structured_stdout`. -/
def decodeResult (envelope : Dict) (result : Text) : Except CliRaised DecodedStdout :=
  match S.loads result with
  | .error .decode => .error (.mkb (kindError (cliStructuredKind (some (.str result)))))
  | .error .other => .error .exception
  | .ok (.obj parsed) =>
    .ok ⟨stripText result, some parsed, strMember envelope "session_id", objMember envelope "usage",
      S.reportsError envelope⟩
  | .ok v => .error (.mkb (kindError (cliStructuredKind (some v))))

/-- `_decode_structured_stdout` on a dictionary. -/
def decodeEnvelope (envelope : Dict) : Except CliRaised DecodedStdout :=
  match objMember envelope "structured_output" with
  | some structured =>
    .ok ⟨S.dumps (.obj structured), some structured, strMember envelope "session_id", objMember envelope "usage",
      S.reportsError envelope⟩
  | none =>
    match textMember envelope "result" with
    | some result => S.decodeResult envelope result
    | none =>
      match envelope.lookup "structured_output" with
      | some v => .error (.mkb (kindError (cliStructuredKind (some v))))
      | none =>
        .error (.mkb (.of "CLAUDE_CLI_OUTPUT_INVALID" "Claude CLI returned no result" 502
          (kindDetails "empty_result")))

/-- `_decode_structured_stdout`. -/
def decodeStructuredStdout (stdout : Text) : Except CliRaised DecodedStdout :=
  match S.loads stdout with
  | .error .decode =>
    .error (.mkb (.of "CLAUDE_CLI_OUTPUT_INVALID" "Claude CLI structured output is not JSON" 502))
  | .error .other => .error .exception
  | .ok (.obj envelope) => S.decodeEnvelope envelope
  | .ok _ => .error (.mkb (.of "CLAUDE_CLI_OUTPUT_INVALID" "Claude CLI output envelope is invalid" 502))

/-- `_decode_agent_structured_stdout`: where the envelope is refused, the object itself is the answer. -/
def decodeAgentStructuredStdout (stdout : Text) : Except CliRaised DecodedStdout :=
  match S.decodeStructuredStdout stdout with
  | .error (.mkb envelopeError) =>
    match S.loads stdout with
    | .error .decode => .error (.mkb envelopeError)
    | .error .other => .error .exception
    | .ok (.obj value) => .ok ⟨S.dumps (.obj value), some value, none, none, false⟩
    | .ok _ => .error (.mkb envelopeError)
  | r => r

/-- `_decode_plain_stdout`. -/
def decodePlainStdout (stdout : Text) : Except CliRaised DecodedStdout :=
  let text := stripText stdout
  if text.isEmpty then .error (.mkb (.of "CLAUDE_CLI_OUTPUT_INVALID" "Claude CLI returned empty text" 502))
  else
    match S.loads text with
    | .error .decode => .ok ⟨text, none, none, none, false⟩
    | .error .other => .error .exception
    | .ok (.obj envelope) =>
      let isError := S.reportsError envelope
      let sessionId := strMember envelope "session_id"
      let usage := objMember envelope "usage"
      match textMember envelope "result" with
      | some result => .ok ⟨stripText result, none, sessionId, usage, isError⟩
      | none => if isError then .ok ⟨[], none, sessionId, usage, true⟩ else .ok ⟨text, none, sessionId, usage, isError⟩
    | .ok _ => .ok ⟨text, none, none, none, false⟩

end StdoutCodec

/-- `SubprocessAgentCli`: its provider and its model. -/
structure SubprocessAgentCli where
  provider : String
  model : Option String

/-- `not model`. -/
def lacksModel (model : Option String) : Bool := (model.map String.isEmpty).getD true

namespace SubprocessAgentCli

variable (S : StdoutCodec) (cli : SubprocessAgentCli)

/-- The request as it is run: the configured model of the primary provider where the request names none. -/
def effective (request : ClaudeCliRequest) : ClaudeCliRequest :=
  if cli.provider == "claude" && lacksModel request.model then { request with model := cli.model } else request

/-- The details of an error of the output name the provider. -/
def withProvider : CliRaised → CliRaised
  | .mkb e =>
    .mkb { e with details := e.details.map fun d =>
      if (d.lookup "provider").isSome then d else d ++ [("provider", .str cli.provider.toList)] }
  | raised => raised

def readStructured (effective : ClaudeCliRequest) (exitCode : Int) (decoded : DecodedStdout) :
    Except CliRaised ClaudeCliResult :=
  if decoded.isError then .error (.mkb (.of "CLAUDE_CLI_TRANSPORT_FAILED" "CLI reported an error" 503))
  else
    match decoded.structured with
    | none =>
      .error (.mkb (.of "CLAUDE_CLI_OUTPUT_INVALID" "CLI structured result is not an object" 502 (kindDetails "missing")))
    | some structured =>
      .ok { text := decoded.text, structuredOutput := some structured, exitCode := exitCode,
            sessionId := decoded.sessionId, usage := decoded.usage, isError := decoded.isError,
            provider := cli.provider, model := effective.model }

def readPlain (effective : ClaudeCliRequest) (exitCode : Int) (decoded : DecodedStdout) :
    Except CliRaised ClaudeCliResult :=
  if decoded.isError then .error (.mkb (.of "CLAUDE_CLI_TRANSPORT_FAILED" "CLI reported an error" 503))
  else if decoded.text.isEmpty then .error (.mkb (.of "CLAUDE_CLI_OUTPUT_INVALID" "CLI returned empty text" 502))
  else
    .ok { text := decoded.text, structuredOutput := none, exitCode := exitCode, sessionId := decoded.sessionId,
          usage := decoded.usage, isError := decoded.isError, provider := cli.provider, model := effective.model }

/-- The part of the run after an exit without error. -/
def readStdout (effective : ClaudeCliRequest) (exitCode : Int) (stdout : Text) : Except CliRaised ClaudeCliResult :=
  (if effective.structured then
    (S.decodeAgentStructuredStdout stdout).bind (cli.readStructured effective exitCode)
  else
    (S.decodePlainStdout stdout).bind (cli.readPlain effective exitCode)).mapError cli.withProvider

/-- `SubprocessAgentCli.run`. -/
def run (request : ClaudeCliRequest) : ProcessEnd → Except CliRaised ClaudeCliResult
  | .refused e => .error (.mkb e)
  | .timedOut => .error (.mkb (.of "CLAUDE_CLI_TIMEOUT" "CLI invocation timed out" 503))
  | .osError => .error (.mkb (.of "CLAUDE_CLI_TRANSPORT_FAILED" "CLI could not be started" 503))
  | .cancelled => .error .cancelled
  | .exception => .error .exception
  | .exited returncode stdout stderr =>
    let exitCode := returncode.getD (-1)
    if exitCode ≠ 0 then
      .error (.mkb (.of "CLAUDE_CLI_TRANSPORT_FAILED" "CLI exited unsuccessfully" 503
        (some [("exit_code", .int exitCode), ("provider", .str cli.provider.toList),
          ("stderr_digest", .str (S.digestText stderr))])))
    else cli.readStdout S (cli.effective request) exitCode stdout

end SubprocessAgentCli

end KnowledgeBase
