import Folio.Config
import Folio.Markdown.Link
import Folio.Markdown.Marker
import Folio.Markdown.RawHtml

/-!
# Blocks of a Markdown document

A document is read line by line. Every line first goes on with the block quotes and list items that
are open, closes those it does not go on with, and may open others; what is left of it starts or
continues a block of text. Text is kept as it stands, since spans within it may refer to
definitions further down.

## Main definitions

* `Folio.Markdown.Block`: a block with the blocks in it.
* `Folio.Markdown.Assembly`: the blocks read so far and the containers that are open.
* `Folio.Markdown.Source`: the blocks and definitions of a document; `readSource` reads them.
-/

namespace Folio.Markdown

/-- A block of a document. -/
inductive Block where
  /-- A paragraph, perhaps after a check box. -/
  | paragraph (task : Option Bool) (text : List Char)
  /-- A heading, perhaps with a check box before its text. -/
  | heading (task : Option Bool) (level : Nat) (text : List Char)
  /-- A code block, with what follows its opening fence if it has one. -/
  | code (info : Option (List Char)) (text : List Char)
  /-- Raw markup by lines, each with the columns of white space before it. -/
  | html (lines : List (Nat × List Char))
  | rule
  /-- The check box of an item whose first line has nothing else. -/
  | taskMarker (checked : Bool)
  | table (columns : List Alignment) (head : List (List Char)) (rows : List (List (List Char)))
  | quote (blocks : List Block)
  /-- A list of items; in a tight one no blank line separates blocks. -/
  | list (tight : Bool) (start : Option Nat) (items : List Block)
  | item (blocks : List Block)
  deriving Repr

/-- A block that may hold others. -/
inductive Container where
  | quote
  /-- A list whose items have markers with one sign, its first number, and whether it is tight. -/
  | list (mark : Char) (number : Nat) (tight : Bool)
  /-- An item whose content is indented by some columns. -/
  | item (indent : Nat)
  deriving Repr

/-- A container that is open, with the blocks in it so far, the latest first. -/
structure Frame where
  container : Container
  blocks : List Block := []
  deriving Repr

/-- The blocks read so far and the containers that are open. -/
structure Assembly where
  /-- The open containers, innermost first. -/
  frames : List Frame := []
  /-- The blocks outside all containers, the latest first. -/
  blocks : List Block := []
  /-- Whether the line before was blank. -/
  gap : Bool := false
  /-- Whether the innermost item has nothing but its marker so far. -/
  bare : Bool := false
  /-- The definitions so far, the latest first. -/
  definitions : List Definition := []

namespace Assembly

/-- Adds a block to the innermost container. -/
def push (a : Assembly) (block : Block) : Assembly :=
  match a.frames with
  | [] => { a with blocks := block :: a.blocks }
  | frame :: rest => { a with frames := { frame with blocks := block :: frame.blocks } :: rest }

/-- Opens a container. -/
def enclose (a : Assembly) (container : Container) : Assembly :=
  { a with frames := ⟨container, []⟩ :: a.frames }

/-- The block that an open container makes when it is closed. -/
def ofFrame (frame : Frame) : Block :=
  let blocks := frame.blocks.reverse
  match frame.container with
  | .quote => .quote blocks
  | .list mark number tight => .list tight (if isBullet mark then none else some number) blocks
  | .item _ => .item blocks

/-- Closes the innermost container. -/
def close (a : Assembly) : Assembly :=
  match a.frames with
  | [] => a
  | frame :: rest => { a with frames := rest }.push (ofFrame frame)

/-- Closes `n` containers. -/
def closeMany : Nat → Assembly → Assembly
  | 0, a => a
  | n + 1, a => closeMany n a.close

/-- Goes on with a container, at a place of a line: the place after its marks. -/
def continue? (container : Container) (cursor : Cursor) : Option Cursor :=
  match container with
  | .list .. => some cursor
  | .quote =>
    let (_, inner) := cursor.skip 3
    match inner.rest with
    | '>' :: _ => some ((inner.advance 1).skip 1).2
    | _ => none
  | .item indent =>
    let (full, inner) := cursor.skipExactly indent
    if full || inner.atEnd then some inner else none

/-- Goes on with containers, outermost first, as long as possible: how many of them, and the place
after their marks. -/
def continueAll : List Frame → Cursor → Nat × Cursor
  | [], cursor => (0, cursor)
  | frame :: rest, cursor =>
    match continue? frame.container cursor with
    | some cursor =>
      let (n, cursor) := continueAll rest cursor
      (n + 1, cursor)
    | none => (0, cursor)

/-- How many of the open containers a line goes on with, and the place after their marks. -/
def enter (a : Assembly) (line : Line) : Nat × Cursor :=
  continueAll a.frames.reverse { rest := line.chars }

/-- The place after the marks of all open containers, if the line goes on with all. -/
def enterAll? (a : Assembly) (line : Line) : Option Cursor :=
  let (n, cursor) := a.enter line
  if n = a.frames.length then some cursor else none

/-- Notes that the list around the innermost item, if there is one, has a blank line in it. -/
def loosen (a : Assembly) : Assembly :=
  match a.frames with
  | frame :: ⟨.list mark number _, blocks⟩ :: rest =>
    { a with frames := frame :: ⟨.list mark number false, blocks⟩ :: rest, bare := false }
  | _ => a

/-- Closes a list that the next block does not continue, and loosens the list around that block
after a blank line. -/
def finishList (a : Assembly) : Assembly :=
  let a :=
    match a.frames with
    | ⟨.list .., _⟩ :: _ => { a.close with bare := false }
    | _ => a
  if a.gap then { a.loosen with gap := false } else a

/-- Opens an item, in the innermost list if that has the same sign, else in a new list. -/
def openItem (a : Assembly) (marker : ListMarker) (indent : Nat) : Assembly :=
  let fresh (a : Assembly) : Assembly :=
    { a.finishList with gap := false }.enclose (.list marker.mark marker.number true)
  let listed :=
    match a.frames with
    | ⟨.list mark number tight, blocks⟩ :: rest =>
      if mark == marker.mark then
        { a with frames := ⟨.list mark number (tight && !a.gap), blocks⟩ :: rest, gap := false }
      else fresh a
    | _ => fresh a
  listed.enclose (.item indent)

end Assembly

/-- What is left of a line once its containers are open. -/
inductive Opening where
  /-- Nothing. -/
  | nothing (a : Assembly)
  /-- A paragraph after a check box. -/
  | task (a : Assembly) (checked : Bool) (cursor : Cursor)
  /-- Anything else. -/
  | content (a : Assembly) (cursor : Cursor)

namespace Assembly

/-- Opens the containers whose marks stand next in a line, at most `fuel` of them. -/
def openContainers (options : MarkdownOptions) : Nat → Assembly → Cursor → Opening
  | 0, a, cursor => .content a cursor
  | fuel + 1, a, cursor =>
    let (outer, inner) := cursor.skip 4
    if outer ≥ 4 then .content a cursor
    else
      match inner.listItem? outer with
      | some (marker, indent, after) =>
        let a := a.openItem marker indent
        if blank after.rest then .nothing { a with bare := true }
        else
          match if options.tasklists then after.checkBox? else none with
          | some (checked, after) =>
            if blank after.rest then .nothing { a.push (.taskMarker checked) with bare := true }
            else .task a checked after
          | none => openContainers options fuel a after
      | none =>
        match inner.rest with
        | '>' :: _ =>
          openContainers options fuel (a.finishList.enclose .quote) ((inner.advance 1).skip 1).2
        | _ => .content a cursor

/-- The columns still owed at a place, as spaces, and what is left of the line with its ending. -/
def remainder (line : Line) (cursor : Cursor) : List Char :=
  List.replicate cursor.owed ' ' ++ cursor.rest ++ if line.ended then ['\n'] else []

/-- The lines that continue an indented code block, each with whether it is blank. -/
def indentedLines (a : Assembly) : List Line → List (List Char × Bool)
  | [] => []
  | line :: rest =>
    match a.enterAll? line with
    | none => []
    | some cursor =>
      let (full, inner) := cursor.skipExactly 4
      if full || inner.atEnd then
        (remainder line inner, blank inner.rest) :: indentedLines a rest
      else []

/-- The lines of a fenced code block after its opening fence, and how many lines these and a
closing fence take. -/
def fencedLines (a : Assembly) (fence : Fence) (indent : Nat) : List Line → List (List Char) × Nat
  | [] => ([], 0)
  | line :: rest =>
    match a.enterAll? line with
    | none => ([], 0)
    | some cursor =>
      let inner := (cursor.skip indent).2
      let (more, fenced) := inner.skip (4 - indent)
      if more < 4 - indent && fence.closedBy fenced.rest then ([], 1)
      else
        let (texts, n) := fencedLines a fence indent rest
        (remainder line inner :: texts, n + 1)

/-- What is left of a line with its ending. -/
def withEnding (line : Line) (cs : List Char) : List Char :=
  cs ++ if line.ended then ['\n'] else []

/-- The lines that continue a block of raw markup after the line `before`. -/
def htmlLines (a : Assembly) (close : HtmlEnd) (before : List Char) :
    List Line → List (Nat × List Char)
  | [] => []
  | line :: rest =>
    match a.enterAll? line with
    | none => []
    | some cursor =>
      let ends :=
        match close with
        | .word text => Text.occursIn text before || (cursor.rest.isEmpty && !line.ended)
        | .blankLine => blank cursor.rest
      if ends then []
      else (cursor.owed, withEnding line cursor.rest) :: htmlLines a close cursor.rest rest

/-- The columns of a table whose header row is the text given and whose delimiter row is the next
line. -/
def tableColumns? (a : Assembly) (header : List Char) (next : List Line) :
    Option (List Alignment) := do
  let line ← next.head?
  let columns ← delimiterRow? (← a.enterAll? line)
  let count ← headerColumns? header
  if columns.length = count then some columns else none

/-- Whether the text of a line starts a list item within a paragraph. Where the paragraph could go
on without its containers any item does, else only one with a bullet or the number one, and not
an empty one before a blank line. -/
def startsItem (cs : List Char) (current : Bool) (next : List Line) : Bool :=
  match listMarker? cs with
  | none => false
  | some (marker, _, after) =>
    let nextBlank :=
      match next with
      | [] => true
      | line :: _ => blank line.chars
    endsMarker after &&
      (!current || ((isBullet marker.mark || marker.number == 1) && !(blank after && nextBlank)))

/-- Whether the text of a line, other than a table, ends a paragraph. `current` says that the line
goes on with all containers. -/
def interrupts (cs : List Char) (current : Bool) (next : List Line) : Bool :=
  cs.isEmpty || isRule cs || (headingLevel? cs).isSome || (fence? cs).isSome ||
    cs.head? == some '>' || startsItem cs current next ||
    match cs with
    | '<' :: rest => (htmlBlock? rest).isSome
    | _ => false

/-- The lines that continue a paragraph, the level that an underline gives to it, and how many
lines these take. -/
def paragraphLines (options : MarkdownOptions) (a : Assembly) :
    List Line → List (List Char) × Option Nat × Nat
  | [] => ([], none, 0)
  | line :: rest =>
    let (n, cursor) := a.enter line
    let current : Bool := n == a.frames.length
    let (indent, inner) := cursor.skip 4
    let level := if indent < 4 && current then underlineLevel? inner.rest else none
    let table :=
      options.tables && inner.rest.head? == some '|' && (a.tableColumns? inner.rest rest).isSome
    if level.isSome then ([], level, 1)
    else if indent < 4 && (interrupts inner.rest current rest || table) then ([], none, 0)
    else if cursor.skipAll.atEnd then ([], none, 0)
    else
      let (texts, level, k) := paragraphLines options a rest
      (cursor.rest :: texts, level, k + 1)

/-- A table row with exactly `n` cells. -/
def fitRow (n : Nat) (cells : List (List Char)) : List (List Char) :=
  (cells ++ List.replicate n []).take n

/-- The rows of a table with `n` columns. -/
def tableRows (a : Assembly) (n : Nat) : List Line → List (List (List Char))
  | [] => []
  | line :: rest =>
    match a.enterAll? line with
    | none => []
    | some cursor =>
      let cs := cursor.skipAll.rest
      if interrupts cs true rest || (rowCells cs).isEmpty then []
      else fitRow n (rowCells cs) :: tableRows a n rest

/-- Reads a paragraph, or a table, whose first line is given, and says how many of the next lines
it takes. -/
def readParagraph (options : MarkdownOptions) (a : Assembly) (task : Option Bool)
    (first : List Char) (next : List Line) : Assembly × Nat :=
  let broken := (first.reverse.takeWhile (· == '\\')).length % 2 == 1
  match if options.tables && !broken then a.tableColumns? first next else none with
  | some columns =>
    let rows := a.tableRows columns.length (next.drop 1)
    (a.push (.table columns (fitRow columns.length (rowCells first)) rows), rows.length + 1)
  | none =>
    let (others, level, n) := a.paragraphLines options next
    let text := Text.dropEnd isSpace (['\n'].intercalate (first :: others))
    match level with
    | some level => (a.push (.heading task level text), n)
    | none => (a.push (.paragraph task text), n)

/-- The text of a heading without the number signs that close it. -/
def headingText (cs : List Char) : List Char :=
  let body := Text.dropEnd (· == ' ') (cs.dropWhile isSpace)
  let stem := Text.dropEnd (· == '#') body
  if stem.isEmpty then []
  else if stem.getLast? == some ' ' then Text.dropEnd (· == ' ') stem
  else body

/-- The lines that a definition may reach over, each with its line ending: those that go on with
all containers and are not blank. -/
def definitionText (a : Assembly) : List Line → List Char
  | [] => []
  | line :: rest =>
    match a.enterAll? line with
    | none => []
    | some cursor =>
      if blank cursor.rest then [] else cursor.rest ++ '\n' :: definitionText a rest

/-- The definition that starts with the text given, and how many of the next lines it takes. -/
def readDefinition? (a : Assembly) (first : List Char) (next : List Line) :
    Option (Definition × Nat) := do
  if first.head? ≠ some '[' then none
  let text := first ++ '\n' :: a.definitionText next
  let (definition, rest) ← definition? text
  some (definition, (text.take (text.length - rest.length)).count '\n' - 1)

/-- Reads a blank line. It ends an item that has nothing but its marker. -/
def readBlank (a : Assembly) : Assembly :=
  match a.frames with
  | ⟨.quote, _⟩ :: _ => a
  | ⟨.item _, _⟩ :: _ =>
    if a.bare then { a.close with bare := false, gap := true } else { a with gap := true }
  | _ => { a with gap := true }

/-- Reads the block that starts at a place of a line, and says how many of the next lines it
takes. -/
def readBlock (options : MarkdownOptions) (a : Assembly) (line : Line) (cursor : Cursor)
    (next : List Line) : Assembly × Nat :=
  let (indent, inner) := cursor.skip 4
  let cs := inner.rest
  if indent = 4 then
    let others := a.indentedLines next
    let kept := Text.dropEnd Prod.snd others
    let text := remainder line inner ++ (kept.map Prod.fst).flatten
    let last := (others.getLast?.map Prod.snd).getD false
    ({ a.push (.code none text) with gap := last }, others.length)
  else
    match if cs.head? == some '<' then freshHtmlBlock? (cs.drop 1) else none with
    | some close =>
      let others := a.htmlLines close cs next
      (a.push (.html ((max cursor.owed indent, withEnding line cs) :: others)), others.length)
    | none =>
      if isRule cs then (a.push .rule, 0)
      else
        match headingLevel? cs, fence? cs, a.readDefinition? cs next with
        | some level, _, _ => (a.push (.heading none level (headingText (cs.drop level))), 0)
        | none, some fence, _ =>
          let info := (cs.drop fence.length).dropWhile isSpace
          let (texts, n) := a.fencedLines fence indent next
          (a.push (.code (some (Text.dropEnd isSpace info)) texts.flatten), n)
        | none, none, some (definition, n) =>
          ({ a with definitions := definition :: a.definitions }, n)
        | none, none, none => a.readParagraph options none cs next

/-- Reads a line and those that the block in it takes, and says how many these are. -/
def readLine (options : MarkdownOptions) (a : Assembly) (line : Line) (next : List Line) :
    Assembly × Nat :=
  let (n, cursor) := a.enter line
  let a := closeMany (a.frames.length - n) a
  match openContainers options (line.chars.length + 1) a cursor with
  | .nothing a => (a, 0)
  | .task a checked cursor =>
    { a with bare := false }.readParagraph options (some checked) cursor.skipAll.rest next
  | .content a cursor =>
    if blank cursor.rest then (a.readBlank, 0)
    else ({ a with bare := false }.finishList).readBlock options line cursor next

/-- Reads lines. -/
def readLines (options : MarkdownOptions) (a : Assembly) : List Line → Assembly
  | [] => a
  | line :: next =>
    let (a, n) := a.readLine options line next
    readLines options a (next.drop n)
termination_by lines => lines.length

end Assembly

/-- A document as blocks and definitions. -/
structure Source where
  /-- The blocks in document order. -/
  blocks : List Block
  /-- The definitions in document order, the first of a label being the one that counts. -/
  definitions : List Definition

/-- The blocks and definitions of a document. -/
def readSource (options : MarkdownOptions) (text : String) : Source :=
  let a := Assembly.readLines options {} (lines text)
  let a := Assembly.closeMany a.frames.length a
  ⟨a.blocks.reverse, a.definitions.reverse⟩

end Folio.Markdown
