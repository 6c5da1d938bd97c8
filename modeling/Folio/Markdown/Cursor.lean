import Folio.Text.Blank

/-!
# Lines and their indentation

The source is cut into lines. Within a line a cursor counts columns: a tab reaches to the next
multiple of four, and when only some of its columns are used the others are owed.

## Main definitions

* `Folio.Markdown.Line`: a line, and whether a line ending follows it.
* `Folio.Markdown.Cursor`: a place in a line.
* `Folio.Markdown.Cursor.skip`: skips columns of white space.
-/

namespace Folio.Markdown

/-- A line of the source. -/
structure Line where
  /-- The characters before the line ending. -/
  chars : List Char
  /-- Whether there is a line ending. -/
  ended : Bool
  deriving Repr

/-- The lines of a text, after the characters `acc` of a line that is open, in reverse. -/
def linesFrom (acc : List Char) : List Char → List Line
  | [] => if acc.isEmpty then [] else [⟨acc.reverse, false⟩]
  | '\n' :: cs => ⟨acc.reverse, true⟩ :: linesFrom [] cs
  | '\r' :: '\n' :: cs => ⟨acc.reverse, true⟩ :: linesFrom [] cs
  | '\r' :: cs => ⟨acc.reverse, true⟩ :: linesFrom [] cs
  | c :: cs => linesFrom (c :: acc) cs

/-- The lines of a text. -/
def lines (source : String) : List Line := linesFrom [] source.toList

/-- White space that is no line ending. -/
def isSpace (c : Char) : Bool := c == ' ' || c == '\t' || c == '\x0b' || c == '\x0c'

/-- Whether nothing but white space is left. -/
def blank (cs : List Char) : Bool := cs.all isSpace

/-- A place in a line. -/
structure Cursor where
  /-- What is left of the line. -/
  rest : List Char
  /-- The columns since the last tab stop, or some number equal to it modulo four. -/
  column : Nat := 0
  /-- The columns of a tab that are still owed. -/
  owed : Nat := 0
  deriving Repr

namespace Cursor

/-- Skips at most `n` columns of the characters given; the columns skipped are added to `done`. -/
def skipFrom (done : Nat) : Nat → Nat → List Char → Nat × Cursor
  | 0, column, cs => (done, ⟨cs, column, 0⟩)
  | n + 1, column, ' ' :: cs => skipFrom (done + 1) n (column + 1) cs
  | n + 1, column, '\t' :: cs =>
    let width := 4 - column % 4
    if width ≤ n + 1 then skipFrom (done + width) (n + 1 - width) 0 cs
    else (done + (n + 1), ⟨cs, 0, width - (n + 1)⟩)
  | _ + 1, column, cs => (done, ⟨cs, column, 0⟩)
termination_by _ _ cs => cs.length

/-- Skips at most `n` columns of white space: how many were skipped, and the place after them. -/
def skip (n : Nat) (cursor : Cursor) : Nat × Cursor :=
  if n ≤ cursor.owed then (n, { cursor with owed := cursor.owed - n })
  else skipFrom cursor.owed (n - cursor.owed) cursor.column cursor.rest

/-- Skips exactly `n` columns of white space, or fewer and fails. -/
def skipExactly (n : Nat) (cursor : Cursor) : Bool × Cursor :=
  let (done, after) := cursor.skip n
  (done == n, after)

/-- Skips all spaces and tabs. -/
def skipAll (cursor : Cursor) : Cursor :=
  let rest := cursor.rest.dropWhile fun c => c == ' ' || c == '\t'
  { rest, column := cursor.column, owed := 0 }

/-- Skips `n` characters that are no white space. -/
def advance (n : Nat) (cursor : Cursor) : Cursor :=
  { cursor with rest := cursor.rest.drop n, column := cursor.column + n }

/-- Whether the line ends here. -/
def atEnd (cursor : Cursor) : Bool := cursor.rest.isEmpty

end Cursor

end Folio.Markdown
