import KnowledgeBase.Library.Text

/-!
# The text of SQL

Where a character of a SQL script stands: in a string literal or a quoted identifier, in a block comment, in a line
comment, or in none of them. A doubled quote inside quotes ends them and opens them again at once, which is the same
for every character that follows. `removeLineComments` leaves out the line comments, up to the end of their line.
-/

namespace KnowledgeBase

namespace SqlText

inductive Place
  | code
  /-- inside of quotes, up to the closing character -/
  | quoted (close : Char)
  /-- at the `*` of the `/*` that opens a block comment -/
  | opening
  | block
  /-- at the `/` of the `*/` that closes it -/
  | closing
  /-- in a line comment -/
  | line
  deriving DecidableEq

/-- The character that closes what a character opens. -/
def closer? (c : Char) : Option Char :=
  if c = '\'' || c = '"' || c.toNat = 96 then some c
  else if c = '[' then some ']'
  else none

/-- The place of the next character, after a character that opens no line comment. -/
def Place.after (place : Place) (c : Char) (next : Option Char) : Place :=
  match place with
  | code =>
    match closer? c with
    | some close => quoted close
    | none => if c = '/' && next = some '*' then opening else code
  | quoted close => if c = close then code else quoted close
  | opening => block
  | block => if c = '*' && next = some '/' then closing else block
  | closing => code
  | line => if c = '\n' then code else line

/-- The two dashes that open a line comment, where they stand in code. -/
def dashes (c : Char) (next : Option Char) : Bool := c = '-' && next = some '-'

/-- The script without its line comments. -/
def removeLineComments : Place → Text → Text
  | _, [] => []
  | .line, c :: rest => if c = '\n' then c :: removeLineComments .code rest else removeLineComments .line rest
  | place, c :: rest =>
    if place = .code && dashes c rest.head? then removeLineComments .line rest
    else c :: removeLineComments (place.after c rest.head?) rest

theorem head_removeLineComments_line (t : Text) : (removeLineComments .line t).head?.all (· == '\n') = true := by
  induction t with
  | nil => rfl
  | cons c rest ih =>
    rw [removeLineComments]
    split
    · next hc =>
      subst hc
      rfl
    · exact ih

end SqlText

end KnowledgeBase
