import KnowledgeBase.Library.Hex
import KnowledgeBase.Store.Database

/-!
# UUIDs

The generator of time-sortable identities with its last millisecond and its sequence, and the validation of identities.
The clock and the random bits are those of the environment.
-/

namespace KnowledgeBase

/-- `uuid.UUID`. -/
structure Uuid where
  int : Nat
  bounded : int < 2 ^ 128
  deriving DecidableEq

namespace Uuid

/-- `uuid.UUID(int=n)`. -/
def ofInt (n : Int) : Option Uuid :=
  if h : 0 ≤ n ∧ n.toNat < 2 ^ 128 then some ⟨n.toNat, h.2⟩ else none

/-- The text in groups of these lengths and the rest, with hyphens between them. -/
def hyphenate : List Nat → Text → Text
  | [], t => t
  | k :: ks, t => t.take k ++ '-' :: hyphenate ks (t.drop k)

/-- `str`: the 32 digits in groups of 8, 4, 4, 4 and 12. -/
def str (u : Uuid) : Text := hyphenate [8, 4, 4, 4] (Hex.digits 32 u.int)

/-- `uuid.UUID(value)`. -/
def parse (value : Text) : Option Uuid :=
  let hex := (Text.stripChars ['{', '}'] ((value.erase "urn:".toList).erase "uuid:".toList)).filter (· != '-')
  if hex.length = 32 then (Hex.readInt hex).bind ofInt else none

/-- The variant is that of RFC 4122. -/
def isRfc4122 (u : Uuid) : Bool := u.int &&& (0x8000 <<< 48) != 0 && u.int &&& (0x4000 <<< 48) == 0

def version (u : Uuid) : Option Nat := if u.isRfc4122 then some (u.int >>> 76 &&& 0xF) else none

end Uuid

/-- `validate_external_uuid`. -/
def validateExternalUuid (value : Text) (field : String) : Except MkbError Text :=
  match Uuid.parse value with
  | none => .error ⟨"invalid-uuid", field ++ " must be a UUIDv4 or UUIDv7", 422⟩
  | some parsed =>
    if parsed.int = 0 ∨ parsed.version ∉ [some 4, some 7] then
      .error ⟨"invalid-uuid-version", field ++ " must be a UUIDv4 or UUIDv7", 422⟩
    else .ok parsed.str

/-- `validate_uuid7`. -/
def validateUuid7 (value : Text) (field : String) : Except MkbError Text := do
  let canonical ← validateExternalUuid value field
  if (Uuid.parse canonical).bind Uuid.version ≠ some 7 then
    .error ⟨"invalid-internal-uuid", field ++ " must be UUIDv7", 422⟩
  else .ok canonical

/-- What the generator remembers. -/
structure Uuid7State where
  lastMillis : Int
  sequence : Nat

namespace Uuid7State

def initial : Uuid7State := ⟨-1, 0⟩

/-- What a call draws: the clock, `secrets.randbits(12)` and `secrets.randbits(62)`. -/
structure Draw where
  millis : Nat
  randbits12 : Fin (2 ^ 12)
  randbits62 : Fin (2 ^ 62)

/-- The state of the generator after a call. -/
def next (s : Uuid7State) (draw : Draw) : Uuid7State :=
  if (draw.millis : Int) ≤ s.lastMillis then ⟨s.lastMillis, (s.sequence + 1) &&& 0xFFF⟩
  else ⟨draw.millis, draw.randbits12⟩

/-- The timestamp, the version and the sequence. -/
def high (s : Uuid7State) : Nat := s.lastMillis.toNat <<< 16 ||| 0x7 <<< 12 ||| s.sequence

/-- What `uuid7` returns. -/
def uuid7 (s : Uuid7State) (draw : Draw) : Option Uuid :=
  Uuid.ofInt ((s.next draw).high <<< 64 ||| (0b10 <<< 62 ||| (draw.randbits62 : Nat)) : Nat)

end Uuid7State

end KnowledgeBase
