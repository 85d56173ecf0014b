import KnowledgeBase.Library.Text

/-!
# JSON values

A dictionary is its members sorted by key, so that two dictionaries with the same members are the same value. A
`JsonCodec` is an encoder to bytes with a decoder and a digest of bytes.
-/

namespace KnowledgeBase

inductive Json
  | null
  | bool (b : Bool)
  | int (n : Int)
  | float (lexeme : Text)
  | str (t : Text)
  | arr (items : List Json)
  | obj (members : List (String × Json))

namespace Json

/-- The members of a dictionary, sorted by key. -/
abbrev Dict := List (String × Json)

/-- Every dictionary in the value is sorted and has every key once. -/
inductive Sorted : Json → Prop
  | null : Sorted .null
  | bool (b : Bool) : Sorted (.bool b)
  | int (n : Int) : Sorted (.int n)
  | float (l : Text) : Sorted (.float l)
  | str (t : Text) : Sorted (.str t)
  | arr {items : List Json} (h : ∀ v ∈ items, Sorted v) : Sorted (.arr items)
  | obj {members : Dict} (hk : (members.map Prod.fst).Pairwise (· < ·)) (h : ∀ m ∈ members, Sorted m.2) :
      Sorted (.obj members)

/-- The dictionary has these keys and no others. -/
def hasKeys (members : Dict) (keys : List String) : Bool :=
  members.length == keys.length && keys.all fun k => (members.lookup k).isSome

def ofOption {α : Type} (f : α → Json) : Option α → Json
  | none => .null
  | some a => f a

theorem Sorted.ofOption {α : Type} {f : α → Json} (h : ∀ a, (f a).Sorted) (o : Option α) :
    (Json.ofOption f o).Sorted := by
  cases o with
  | none => exact .null
  | some a => exact h a

theorem Sorted.map {α : Type} {l : List α} {f : α → Json} (h : ∀ a, (f a).Sorted) : (Json.arr (l.map f)).Sorted := by
  refine .arr fun v hv => ?_
  obtain ⟨a, -, rfl⟩ := List.mem_map.1 hv
  exact h a

end Json

/-- Canonical bytes of a value, their decoder and their digest, and what `int` and `str` make of other values. -/
structure JsonCodec (β : Type) where
  canonicalJson : Json → β
  loads : β → Option Json
  sha256 : β → Text
  intOf : Json → Option Int
  strOf : Json → Text

namespace JsonCodec

variable {β : Type} (J : JsonCodec β)

def stableDigest (v : Json) : Text := J.sha256 (J.canonicalJson v)

/-- `str(v)`. -/
def pyStr : Json → Text
  | .str t => t
  | v => J.strOf v

/-- `int(v)`. -/
def pyInt : Json → Option Int
  | .int n => some n
  | v => J.intOf v

/-- The decoder inverts the encoder. -/
def Inverts : Prop := ∀ v : Json, v.Sorted → J.loads (J.canonicalJson v) = some v

end JsonCodec

end KnowledgeBase
