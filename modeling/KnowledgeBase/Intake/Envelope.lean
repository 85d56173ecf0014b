import KnowledgeBase.Library.Checked
import KnowledgeBase.Library.Dictionary
import KnowledgeBase.Store.Database

/-!
# Stage envelopes

What a stage stores of its state: no document bodies where they are in the object store, and no secret-named keys; and
what the next stage loads of it. The codecs, the digest and `str.casefold` are parameters; a state is a dictionary.
-/

namespace KnowledgeBase

open Json (Dict)

/-- An `MkbError`, or any other exception of a load. -/
inductive LoadError
  | mkb (e : MkbError)
  | raised

structure StagePlatform (β : Type) where
  canonicalJson : Json → β
  loads : β → Option Json
  utf8 : Text → β
  utf8Decode : β → Option Text
  latin1 : Text → β
  latin1Decode : β → Text
  sha256 : β → Text
  size : β → Nat
  casefold : Text → Text

/-- `read_verified`, by handle. -/
abbrev ObjectStore (β : Type) := Text → Except LoadError β

/-- The keys of a document body and of its place in the object store. -/
structure BodyKeys where
  text : String
  handle : String
  digest : String
  size : String
  deriving DecidableEq

def rawBody : BodyKeys := ⟨"raw_text", "raw_cas_handle", "raw_cas_digest", "raw_cas_size"⟩

def decodedBody : BodyKeys := ⟨"decoded_text", "decoded_cas_handle", "decoded_cas_digest", "decoded_cas_size"⟩

def cleanBody : BodyKeys := ⟨"clean_text", "clean_cas_handle", "clean_cas_digest", "clean_cas_size"⟩

def secretMarkers : List Text :=
  ["api_key", "authorization", "cookie", "credential", "password", "secret", "token", "private_key", "absolute_path",
    "filesystem_path"].map String.toList

/-- `bool(value)`. -/
def truthyJson : Option Json → Bool
  | none => false
  | some .null => false
  | some (.bool b) => b
  | some (.int n) => n != 0
  | some (.float _) => true
  | some (.str t) => !t.isEmpty
  | some (.arr items) => !items.isEmpty
  | some (.obj members) => !members.isEmpty

namespace StagePlatform

variable {β : Type} (P : StagePlatform β)

/-- The key names a secret. -/
def secret (key : String) : Bool := secretMarkers.any fun marker => Text.hasSub (P.casefold key.toList) marker

mutual

/-- `clean` of `_redact_stage_mapping`. -/
def redact : Json → Json
  | .arr items => .arr (redactItems items)
  | .obj members => .obj (redactMembers members)
  | .null => .null
  | .bool b => .bool b
  | .int n => .int n
  | .float l => .float l
  | .str t => .str t

def redactItems : List Json → List Json
  | [] => []
  | item :: items => redact item :: redactItems items

/-- `_redact_stage_mapping`. -/
def redactMembers : List (String × Json) → List (String × Json)
  | [] => []
  | (key, value) :: members =>
    if P.secret key then redactMembers members else (key, redact value) :: redactMembers members

end

/-- A member of a collection without the bodies that are in the object store. -/
def sanitizeMember : Json → Option Json
  | .obj member =>
    let copy := Json.pop member "raw_record"
    some (.obj (if truthyJson (copy.lookup "clean_cas_handle") then Json.pop copy "clean_text" else copy))
  | _ => none

def sanitizeMembers (safe : Dict) : Dict :=
  match safe.lookup "collection_members" with
  | some (.arr members) =>
    if truthyJson (safe.lookup "collection_cas_handle") then
      Json.replace safe "collection_members" (.arr (members.filterMap sanitizeMember))
    else safe
  | _ => safe

def popBody (safe : Dict) (b : BodyKeys) : Dict :=
  if (safe.lookup b.handle).isSome then Json.pop safe b.text else safe

/-- `_envelope_state` of a stage before the generation. -/
def envelopeState (state : Dict) : Dict :=
  popBody (popBody (popBody (sanitizeMembers (P.redactMembers state)) rawBody) decodedBody) cleanBody

/-- The bytes of a body are those that the state declares. -/
def fenced (state : Dict) (b : BodyKeys) (body : β) : Bool :=
  (match state.lookup b.size with
    | some (.int n) => (P.size body : Int) == n
    | _ => true) &&
  match state.lookup b.digest with
    | some (.str d) => P.sha256 body == d
    | _ => true

/-- A body is read back as Latin-1 if it is a binary transport, else as UTF-8. -/
def decodeBody (state : Dict) (b : BodyKeys) (body : β) : Option Text :=
  if b = rawBody ∧ truthyJson (state.lookup "raw_binary_transport") = true then some (P.latin1Decode body)
  else P.utf8Decode body

variable (store : ObjectStore β)

def casIntegrity : LoadError :=
  .mkb ⟨"STAGE_CAS_INTEGRITY", "Stage CAS reference failed its digest/size fence", 409⟩

def orRaised {α : Type} : Option α → Except LoadError α
  | some a => .ok a
  | none => .error .raised

/-- One body of the state is read back. -/
def restoreBody (state : Dict) (b : BodyKeys) : Except LoadError Dict :=
  match state.lookup b.text, state.lookup b.handle with
  | none, some (.str handle) => do
    let body ← store handle
    if P.fenced state b body then
      let t ← orRaised (P.decodeBody state b body)
      .ok (Json.put state b.text (.str t))
    else .error casIntegrity
  | _, _ => .ok state

/-- The record of a member, unless it has one. -/
def restoreRecord (member record : Json) : Json :=
  match member with
  | .obj m => if (m.lookup "raw_record").isSome then .obj m else .obj (Json.put m "raw_record" record)
  | v => v

/-- The records of a collection. -/
def restoreRecords (state : Dict) : Except LoadError Dict :=
  match state.lookup "collection_cas_handle", state.lookup "collection_members" with
  | some (.str handle), some (.arr members) => do
    let body ← store handle
    let records ← orRaised (P.loads body)
    match records with
    | .arr records =>
      if records.length = members.length then
        .ok (Json.replace state "collection_members" (.arr (List.zipWith restoreRecord members records)))
      else .ok state
    | _ => .ok state
  | _, _ => .ok state

/-- The clean text of a member. -/
def restoreClean : Json → Except LoadError Json
  | .obj m =>
    match m.lookup "clean_text", m.lookup "clean_cas_handle" with
    | none, some (.str handle) => do
      let body ← store handle
      let t ← orRaised (P.utf8Decode body)
      .ok (.obj (Json.put m "clean_text" (.str t)))
    | _, _ => .ok (.obj m)
  | v => .ok v

def restoreMembers (state : Dict) : Except LoadError Dict :=
  match state.lookup "collection_members" with
  | some (.arr members) => do
    let members ← members.mapM (P.restoreClean store)
    .ok (Json.replace state "collection_members" (.arr members))
  | none | some (.str _) | some (.obj _) => .ok state
  -- not iterable
  | some _ => .error .raised

def setDefault (state : Dict) (key : String) (value : Json) : Dict :=
  if (state.lookup key).isSome then state else Json.put state key value

/-- `_load_state` of a predecessor envelope, from its state on. -/
def loadStageState (ref digest : Text) (state : Dict) : Except LoadError Dict := do
  let state := setDefault (setDefault state "predecessor_ref" (.str ref)) "predecessor_digest" (.str digest)
  let state ← P.restoreBody store state rawBody
  let state ← P.restoreBody store state decodedBody
  let state ← P.restoreBody store state cleanBody
  let state ← P.restoreRecords store state
  P.restoreMembers store state

def inputInvalid (message : String) : LoadError := .mkb ⟨"PIPELINE_INPUT_INVALID", message, 422⟩

/-- `_load_state`, of anything but an execution input manifest. -/
def loadState (ref digest : Text) : Except LoadError Dict := do
  let data ← store ref
  if P.sha256 data ≠ digest then
    .error (.mkb ⟨"OBJECT_INTEGRITY_DIGEST", "Process input bytes failed their declared digest", 503⟩)
  else
    let decoded ← orRaised (P.loads data)
    match decoded with
    | .obj envelope =>
      match envelope.lookup "schema_version", envelope.lookup "state" with
      | some (.str version), some (.obj state) =>
        if version = "mkb.stage-output.v1".toList then P.loadStageState store ref digest state
        else .error (inputInvalid "Process input is not an immutable stage envelope")
      | _, _ => .error (inputInvalid "Process input is not an immutable stage envelope")
    | _ => .error (inputInvalid "Process input must be a JSON object")

/-- The command of the stage that stores an envelope. -/
structure StageCommand where
  processKey : Text
  processUuid : Text
  fencingGeneration : Nat

/-- The output bytes of `_material`. -/
def outputBytes (command : StageCommand) (output state : Dict) : β :=
  P.canonicalJson (.obj [("fencing_generation", .int command.fencingGeneration), ("output", .obj output),
    ("process_key", .str command.processKey), ("process_uuid", .str command.processUuid),
    ("schema_version", .str "mkb.stage-output.v1".toList), ("state", .obj (P.envelopeState state))])

end StagePlatform


/-! ### the stages -/

/-- The byte order mark. -/
def bom : Char := '\uFEFF'

/-- What `utf-8-sig` drops of a decoded text. -/
def stripBom : Text → Text
  | [] => []
  | c :: t => if c = bom then t else c :: t

/-- The names that the envelope treats apart. -/
def bodyNames : List String :=
  ["raw_text", "raw_cas_handle", "raw_cas_digest", "raw_cas_size", "decoded_text", "decoded_cas_handle",
    "decoded_cas_digest", "decoded_cas_size", "clean_text", "clean_cas_handle", "clean_cas_digest", "clean_cas_size",
    "raw_binary_transport", "collection_members", "collection_cas_handle"]

/-- The clean result of a member. -/
structure CleanedMember where
  fields : List (String × Json)
  cleanText : Text
  handle : Text

namespace StagePlatform

variable {β : Type} (P : StagePlatform β)

/-- The text of `_representation_from_bytes`. -/
def representation (binary : Bool) (data : β) : Option Text :=
  if binary then some (P.latin1Decode data) else (P.utf8Decode data).map stripBom

/-- The raw bytes that `_acquire` promotes. -/
def rawBytes (binary : Bool) (raw : Text) : β := if binary then P.latin1 raw else P.utf8 raw

/-- A body and its place in the object store. -/
def bodyState (state : Dict) (b : BodyKeys) (t handle : Text) (body : β) : Dict :=
  Json.update state
    [(b.text, .str t), (b.handle, .str handle), (b.digest, .str (P.sha256 body)), (b.size, .int (P.size body))]

/-- The state of `_acquire` and of `_acquire_frozen_observation`. -/
def acquiredState (rest : Dict) (binary : Bool) (raw handle : Text) (body : β) : Dict :=
  P.bodyState (Json.put rest "raw_binary_transport" (.bool binary)) rawBody raw handle body

/-- The state of `_acquire_registered_api_collection`. -/
def collectedState (rest : Dict) (members : List (Dict × Json)) (handle : Text) : Dict :=
  Json.update rest [("collection_members", .arr (members.map fun m => .obj (Json.put m.1 "raw_record" m.2))),
    ("collection_cas_handle", .str handle)]

/-- A member of `_clean_registered_api`. -/
def cleanedMember (member : Dict) (c : CleanedMember) : Dict :=
  P.bodyState (Json.update member c.fields) cleanBody c.cleanText c.handle (P.utf8 c.cleanText)

end StagePlatform

/-- Where the raw text of a state is from. -/
inductive Origin (β : Type)
  | own
  | replay (binary : Bool) (data : β)

/-- A field that the envelope treats like any other. -/
def FreeFields (fields : List (String × Json)) : Prop := ∀ m ∈ fields, m.1 ∉ bodyNames ∧ m.2.Sorted

/-- A state that the next stage loads from the envelope of `s`. -/
def LoadedFrom {β : Type} (P : StagePlatform β) (store : ObjectStore β) (s loaded : Dict) : Prop :=
  ∃ command output ref, (Json.obj output).Sorted ∧ store ref = .ok (P.outputBytes command output s) ∧
    P.loadState store ref (P.sha256 (P.outputBytes command output s)) = .ok loaded

/-- The states that the stages up to the preflight hand to `_material`. -/
inductive Handed {β : Type} (P : StagePlatform β) (store : ObjectStore β) : Origin β → Dict → Prop
  /-- An acquisition without the object store, a rebuild for one. -/
  | inlined {s : Dict} (hs : (Json.obj s).Sorted)
      (htext : ∀ b ∈ [rawBody, decodedBody, cleanBody],
        s.lookup b.handle = none ∧ ∃ t : Option Text, s.lookup b.text = t.map .str)
      (hbinary : s.lookup "raw_binary_transport" = none ∨ ∃ b, s.lookup "raw_binary_transport" = some (.bool b))
      (hmembers : s.lookup "collection_members" = none) : Handed P store .own s
  | acquired {rest : Dict} (hrest : (Json.obj rest).Sorted) (hfree : ∀ k ∈ bodyNames, rest.lookup k = none) {data : β}
      {binary : Bool} {raw handle : Text} (hraw : P.representation binary data = some raw)
      (hstore : store handle = .ok (P.rawBytes binary raw)) :
      Handed P store .own (P.acquiredState rest binary raw handle (P.rawBytes binary raw))
  /-- A full retry from the raw artifact. -/
  | replayed {rest : Dict} (hrest : (Json.obj rest).Sorted) (hfree : ∀ k ∈ bodyNames, rest.lookup k = none) {data : β}
      {binary : Bool} {raw handle : Text} (hraw : P.representation binary data = some raw)
      (hstore : store handle = .ok data) :
      Handed P store (.replay binary data) (P.acquiredState rest binary raw handle data)
  | collected {rest : Dict} (hrest : (Json.obj rest).Sorted) (hfree : ∀ k ∈ bodyNames, rest.lookup k = none)
      {members : List (Dict × Json)}
      (hmembers : ∀ m ∈ members, (Json.obj m.1).Sorted ∧ m.2.Sorted ∧ ∀ k ∈ bodyNames, m.1.lookup k = none)
      {handle : Text} (hne : handle ≠ []) (hstore : store handle = .ok (P.canonicalJson (.arr (members.map Prod.snd)))) :
      Handed P store .own (StagePlatform.collectedState rest members handle)
  /-- `_decode` and `_clean`. -/
  | body {o : Origin β} {s loaded : Dict} (h : Handed P store o s) (hloaded : LoadedFrom P store s loaded) {b : BodyKeys}
      (hb : b ∈ [decodedBody, cleanBody]) {t handle : Text} (hstore : store handle = .ok (P.utf8 t))
      {fields : List (String × Json)} (hfields : FreeFields fields) :
      Handed P store .own (Json.update (P.bodyState loaded b t handle (P.utf8 t)) fields)
  /-- `_clean_registered_api`. -/
  | cleaned {o : Origin β} {s loaded : Dict} (h : Handed P store o s) (hloaded : LoadedFrom P store s loaded)
      {members : List (Dict × CleanedMember)}
      (hmembers : loaded.lookup "collection_members" = some (.arr (members.map fun m => .obj m.1)))
      (hclean : ∀ m ∈ members, (∀ f ∈ m.2.fields, f.1 ∉ "raw_record" :: bodyNames ∧ f.2.Sorted) ∧ m.2.handle ≠ [] ∧
        store m.2.handle = .ok (P.utf8 m.2.cleanText)) {fields : List (String × Json)} (hfields : FreeFields fields) :
      Handed P store .own (Json.update (Json.put loaded "collection_members"
        (.arr (members.map fun m => .obj (P.cleanedMember m.1 m.2)))) fields)
  /-- The seals and the preflights. -/
  | passed {o : Origin β} {s loaded : Dict} (h : Handed P store o s) (hloaded : LoadedFrom P store s loaded)
      {fields : List (String × Json)} (hfields : FreeFields fields) : Handed P store .own (Json.update loaded fields)

/-- A replay reads its artifact as the text that `_load_state` reads. -/
def Origin.SameText {β : Type} (P : StagePlatform β) : Origin β → Prop
  | .own => True
  | .replay binary data => binary = true ∨ (P.utf8Decode data).bind List.head? ≠ some bom

end KnowledgeBase
