import Folio.Markdown.Cursor
import Folio.Markdown.Event

/-!
# What a line of Markdown starts with

The marks at which blocks start: thematic breaks, headings, fences, list markers and the delimiter
rows of tables. Each is looked for in what is left of a line after its indentation.

## Main definitions

* `Folio.Markdown.isRule`, `Folio.Markdown.headingLevel?`, `Folio.Markdown.underlineLevel?`.
* `Folio.Markdown.Fence`: the fence of a code block.
* `Folio.Markdown.ListMarker`: the marker of a list item.
* `Folio.Markdown.delimiterRow?`: the columns of a table.
-/

namespace Folio.Markdown

/-- How often a character stands at the start of a text. -/
def runLength (c : Char) (cs : List Char) : Nat := (cs.takeWhile (· == c)).length

/-- A thematic break: at least three of one mark, with white space among them. -/
def isRule : List Char → Bool
  | [] => false
  | c :: cs =>
    (c == '*' || c == '-' || c == '_') &&
      (c :: cs).all (fun d => d == c || d == ' ' || d == '\t') && (c :: cs).count c ≥ 3

/-- The level of a heading that starts with number signs. -/
def headingLevel? (cs : List Char) : Option Nat :=
  let level := runLength '#' cs
  let ends :=
    match cs.drop level with
    | [] => true
    | c :: _ => isSpace c
  if 1 ≤ level && level ≤ 6 && ends then some level else none

/-- The level of the heading that a line under a paragraph makes of it. -/
def underlineLevel? : List Char → Option Nat
  | '=' :: cs => if blank (cs.drop (runLength '=' cs)) then some 1 else none
  | '-' :: cs => if blank (cs.drop (runLength '-' cs)) then some 2 else none
  | _ => none

/-- The fence of a code block. -/
structure Fence where
  /-- A backtick or a tilde. -/
  mark : Char
  /-- How many of them. -/
  length : Nat
  deriving Repr

/-- The fence at the start of a line. No backtick may follow one of backticks. -/
def fence? : List Char → Option Fence
  | [] => none
  | c :: cs =>
    let n := runLength c (c :: cs)
    if (c == '\x60' && n ≥ 3 && !((c :: cs).drop n).contains '\x60') || (c == '~' && n ≥ 3) then
      some ⟨c, n⟩
    else none

/-- Whether a line closes a fenced code block. -/
def Fence.closedBy (fence : Fence) (cs : List Char) : Bool :=
  let n := runLength fence.mark cs
  n ≥ fence.length && (cs.drop n).all (· == ' ')

/-- The marker of a list item. -/
structure ListMarker where
  /-- A bullet, or the sign after a number. -/
  mark : Char
  /-- The number, zero for a bullet. -/
  number : Nat
  deriving Repr

/-- Whether the character is a bullet. -/
def isBullet (c : Char) : Bool := c == '-' || c == '+' || c == '*'

/-- The value of a decimal digit. -/
def decimal? (c : Char) : Option Nat :=
  if '0' ≤ c ∧ c ≤ '9' then some (c.toNat - '0'.toNat) else none

/-- The marker at the start of a text, how long it is, and the text after it. Its number has at
most nine digits. -/
def listMarker? (cs : List Char) : Option (ListMarker × Nat × List Char) :=
  match cs with
  | [] => none
  | c :: rest =>
    if isBullet c then some (⟨c, 0⟩, 1, rest)
    else
      let digits := (cs.take 9).takeWhile fun d => (decimal? d).isSome
      let number := digits.foldl (fun n d => n * 10 + (d.toNat - '0'.toNat)) 0
      match digits.isEmpty, cs.drop digits.length with
      | false, '.' :: after => some (⟨'.', number⟩, digits.length + 1, after)
      | false, ')' :: after => some (⟨')', number⟩, digits.length + 1, after)
      | _, _ => none

/-- Whether a list marker can end before this text. -/
def endsMarker : List Char → Bool
  | [] => true
  | c :: _ => c == ' ' || c == '\t'

/-- The list marker at a place of a line that is `outer` columns in: the marker, the columns by
which the content of the item is indented, and the place after it. At most four columns of white
space after the marker belong to it, else only one. -/
def Cursor.listItem? (cursor : Cursor) (outer : Nat) : Option (ListMarker × Nat × Cursor) :=
  match listMarker? cursor.rest with
  | none => none
  | some (marker, width, after) =>
    if isBullet marker.mark && isRule cursor.rest then none
    else if !endsMarker after then none
    else
      let gap := ((cursor.advance width).skip 1).2
      let indent := outer + width + 1
      if blank gap.rest then some (marker, indent, gap)
      else
        let (wide, content) := gap.skip 4
        if wide < 4 then some (marker, indent + wide, content) else some (marker, indent, gap)

/-- The check box at a place of a line: whether it is checked, and the place after it. -/
def Cursor.checkBox? (cursor : Cursor) : Option (Bool × Cursor) :=
  let (_, inner) := cursor.skip 3
  match inner.rest with
  | '[' :: c :: ']' :: d :: _ =>
    if !isSpace d then none
    else if isSpace c then some (false, inner.advance 3)
    else if c == 'x' || c == 'X' then some (true, inner.advance 3)
    else none
  | _ => none

/-- What the reader of a delimiter row knows. -/
structure DelimiterRow where
  /-- The columns that are complete. -/
  columns : List Alignment := []
  /-- The alignment of the column that is read. -/
  current : Alignment := .unset
  /-- Whether nothing of that column was read yet. -/
  fresh : Bool := true
  /-- Whether that column has a hyphen. -/
  dashed : Bool := false
  /-- Whether a pipe was read. -/
  piped : Bool := false
  /-- Whether any column has a hyphen. -/
  hyphen : Bool := false

/-- Reads one character of a delimiter row. -/
def DelimiterRow.next? (row : DelimiterRow) (c : Char) : Option DelimiterRow :=
  match c with
  | ' ' => some row
  | ':' =>
    let current :=
      match row.fresh, row.current with
      | true, .unset => .left
      | false, .left => .center
      | false, .unset => .right
      | _, other => other
    some { row with current, fresh := false }
  | '-' => some { row with fresh := false, dashed := true, hyphen := true }
  | '|' =>
    if row.dashed then
      some { row with
        columns := row.columns ++ [row.current], current := .unset, fresh := true,
        dashed := false, piped := true }
    else none
  | _ => none

/-- The columns that the delimiter row of a table declares. -/
def delimiterRow? (cursor : Cursor) : Option (List Alignment) :=
  let (indent, inner) := cursor.skip 4
  if indent > 3 || inner.rest.isEmpty then none
  else
    let cs := match inner.rest with
      | '|' :: cs => cs
      | cs => cs
    match cs.foldlM DelimiterRow.next? {} with
    | none => none
    | some row =>
      let columns := if row.fresh then row.columns else row.columns ++ [row.current]
      if row.piped && row.hyphen then some columns else none

/-- The characters of a text that stand between pipes; a pipe after a backslash separates nothing.
`escaped` says that a backslash stands before. -/
def splitPipes (escaped : Bool) (acc : List Char) : List Char → List (List Char)
  | [] => [acc.reverse]
  | c :: cs =>
    if c == '|' && !escaped then acc.reverse :: splitPipes false [] cs
    else splitPipes (c == '\\') (c :: acc) cs

/-- How many columns the header row of a table has; a line without a pipe is none. -/
def headerColumns? (cs : List Char) : Option Nat :=
  let pieces := splitPipes false [] cs
  let pipes := pieces.length - 1
  if pipes = 0 then none
  else
    let inner := if (cs.dropWhile isSpace).head? == some '|' then pipes - 1 else pipes
    some (if blank (pieces.getLast?.getD []) then inner else inner + 1)

/-- Text with its escaped pipes unescaped. -/
def unescapePipes : List Char → List Char
  | '\\' :: '|' :: rest => '|' :: unescapePipes rest
  | c :: rest => c :: unescapePipes rest
  | [] => []

/-- The cells of a table row, without outer white space. -/
def rowCells (cs : List Char) : List (List Char) :=
  let pieces :=
    splitPipes false [] (match cs with
      | '|' :: rest => rest
      | _ => cs)
  let cells := if blank (pieces.getLast?.getD []) then pieces.dropLast else pieces
  cells.map fun cell => Text.dropEnd isSpace (unescapePipes (cell.dropWhile isSpace))

end Folio.Markdown
