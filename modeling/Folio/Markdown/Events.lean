import Folio.Markdown.Block
import Folio.Markdown.Inline

/-!
# The events of a Markdown document

## Main definitions

* `Folio.Markdown.Block.events`: the events of a block.
* `Folio.Markdown.events`: the events of a document.
-/

namespace Folio.Markdown

/-- Events enclosed by a tag. -/
def enclosed (tag : Tag) (events : List Event) : List Event :=
  .start tag :: (events ++ [.stop tag])

/-- What the text of a block turns into. -/
abbrev ReadText := List Char → List Event

/-- The events of a text that may have a check box before it. -/
def textEvents (read : ReadText) (task : Option Bool) (text : List Char) : List Event :=
  (task.map Event.taskMarker).toList ++ read text

/-- The events of a paragraph. In a tight item it has no tag of its own. -/
def paragraphEvents (read : ReadText) (tight : Bool) (task : Option Bool) (text : List Char) :
    List Event :=
  if tight then textEvents read task text else enclosed .paragraph (textEvents read task text)

/-- The events of a line of raw markup. -/
def htmlLineEvents (line : Nat × List Char) : List Event :=
  let indent := if line.1 > 0 then [.text (String.ofList (List.replicate line.1 ' '))] else []
  indent ++ [.html (String.ofList line.2)]

/-- The events of the cells of a table row. -/
def cellEvents (read : ReadText) (cells : List (List Char)) : List Event :=
  cells.flatMap fun cell => enclosed .tableCell (read cell)

/-- The events of a table. -/
def tableEvents (read : ReadText) (columns : List Alignment) (head : List (List Char))
    (rows : List (List (List Char))) : List Event :=
  enclosed (.table columns)
    (enclosed .tableHead (cellEvents read head) ++
      rows.flatMap fun row => enclosed .tableRow (cellEvents read row))

mutual

/-- The events of a block; `tight` says that it stands in an item of a tight list. -/
def Block.events (read : ReadText) (tight : Bool) : Block → List Event
  | .paragraph task text => paragraphEvents read tight task text
  | .heading task level text => enclosed (.heading level) (textEvents read task text)
  | .code info text =>
    enclosed (.codeBlock (info.map unescapeText)) [.text (String.ofList text)]
  | .html lines => enclosed .htmlBlock (lines.flatMap htmlLineEvents)
  | .rule => [.rule]
  | .taskMarker checked => [.taskMarker checked]
  | .table columns head rows => tableEvents read columns head rows
  | .quote blocks => enclosed .quote (blocksEvents read false blocks)
  | .list tight start items => enclosed (.list start) (blocksEvents read tight items)
  | .item blocks => enclosed .item (blocksEvents read tight blocks)

/-- The events of several blocks, in order. -/
def blocksEvents (read : ReadText) (tight : Bool) : List Block → List Event
  | [] => []
  | block :: blocks => block.events read tight ++ blocksEvents read tight blocks

end

/-- The events of a document. -/
def events (options : MarkdownOptions) (text : String) : List Event :=
  let source := readSource options text
  let read (text : List Char) : List Event :=
    spansEvents (spans options.strikethrough source.definitions text)
  blocksEvents read false source.blocks

end Folio.Markdown
