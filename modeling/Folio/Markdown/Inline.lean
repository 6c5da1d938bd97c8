import Folio.Markdown.Emphasis
import Folio.Markdown.Link
import Folio.Markdown.RawHtml

/-!
# The spans of a text

The text of a block is read from left to right. Code spans, raw markup, addresses in angle brackets
and character references are complete where they start. A bracket stays open until the bracket that
closes it decides whether the two make a link or an image.

## Main definitions

* `Folio.Markdown.Inline.Reading`: what is known of the text read so far.
* `Folio.Markdown.spans`: the spans of a text.
-/

namespace Folio.Markdown

open Text

namespace Inline

/-- A bracket that may open the text of a link or an image. -/
structure Bracket where
  image : Bool
  /-- Whether it can still open a link: links do not nest. -/
  active : Bool
  /-- The pieces between the bracket before this one and this one, the latest first. -/
  before : List Piece
  /-- The text after the bracket. -/
  after : List Char

/-- What is known of the text read so far. -/
structure Reading where
  /-- The brackets that are open, innermost first. -/
  brackets : List Bracket := []
  /-- The pieces after the innermost bracket, the latest first. -/
  pieces : List Piece := []
  /-- The characters after those pieces, the latest first. -/
  plain : List Char := []
  /-- The closing brackets of labels that have no definition, by how much text is after them. -/
  undefined : List Nat := []

namespace Reading

/-- Turns characters that are still loose into a piece. -/
def settle (r : Reading) : Reading :=
  if r.plain.isEmpty then r
  else
    { r with
      pieces := .span (.text (String.ofList r.plain.reverse)) :: r.pieces
      plain := [] }

/-- Adds a piece. -/
def push (r : Reading) (piece : Piece) : Reading :=
  let r := r.settle
  { r with pieces := piece :: r.pieces }

/-- Adds characters. -/
def type (r : Reading) (cs : List Char) : Reading :=
  { r with plain := cs.reverse ++ r.plain }

/-- Adds a line break: a hard one after two white space characters or more. White space before it
does not count as text. -/
def breakLine (r : Reading) : Reading :=
  let hard := (r.plain.takeWhile isSpace).length ≥ 2
  { r with plain := r.plain.dropWhile isSpace }.push
    (.span (if hard then .hardBreak else .softBreak))

/-- Opens a bracket before some text. -/
def openBracket (r : Reading) (image : Bool) (after : List Char) : Reading :=
  let r := r.settle
  { r with brackets := ⟨image, true, r.pieces, after⟩ :: r.brackets, pieces := [] }

/-- The text of an opening bracket. -/
def bracketText (image : Bool) : Piece := .span (.text (if image then "![" else "["))

/-- Makes an open bracket a piece of text. -/
def dropBracket (r : Reading) (bracket : Bracket) (rest : List Bracket) : Reading :=
  let r := r.settle
  { r with
    brackets := rest
    pieces := r.pieces ++ bracketText bracket.image :: bracket.before }

/-- Makes what follows an open bracket a link or an image. A link makes links around it
impossible. -/
def enclose (r : Reading) (bracket : Bracket) (rest : List Bracket) (address title : String) :
    Reading :=
  let r := r.settle
  let content := emphasize r.pieces.reverse
  let tag : Tag := if bracket.image then .image address title else .link address title
  let outer (b : Bracket) : Bracket := if b.image then b else { b with active := false }
  { r with
    brackets := if bracket.image then rest else rest.map outer
    pieces := .span (.within tag content) :: bracket.before }

end Reading

/-- What the target of a bracket is, at its closing bracket. -/
inductive Target where
  /-- An address and a title, and the text after them. -/
  | found (address title : String) (rest : List Char)
  /-- None; perhaps because a label that follows has no definition, up to a text after it. -/
  | missing (label : Option (List Char))

/-- The definition that counts for a label. -/
def lookup? (definitions : List Definition) (label : String) : Option Definition :=
  definitions.find? (·.label == label)

/-- The target of what stands between an opening bracket, which `after` follows, and the closing
bracket that `cs` follows: an address in parentheses, the label that follows, or the text itself as
a label. Unless `defined`, the text itself is known to be no label. -/
def target (definitions : List Definition) (after cs : List Char) (defined : Bool) : Target :=
  let itself (rest : List Char) : Target :=
    match if defined then label? after else none with
    | some (label, tail) =>
      if tail.length = cs.length then
        match lookup? definitions label with
        | some d => .found d.address d.title rest
        | none => .missing none
      else .missing none
    | none => .missing none
  match inlineTarget? cs with
  | some (address, title, rest) => .found address title rest
  | none =>
    match cs with
    | '[' :: ']' :: rest => itself rest
    | '[' :: inner =>
      match label? inner with
      | some (label, rest) =>
        match lookup? definitions label with
        | some d => .found d.address d.title rest
        | none => .missing (some rest)
      | none => itself cs
    | _ => itself cs

/-- The text of a code span: line endings are spaces, and one space at either end does not count
unless there is nothing else. -/
def codeText (cs : List Char) : String :=
  let cs := cs.map fun c => if c == '\n' then ' ' else c
  String.ofList <|
    if cs.head? == some ' ' && cs.getLast? == some ' ' && cs.any (· != ' ') then
      cs.tail.dropLast
    else cs

/-- The text before the first run of exactly `n` backticks, and the text after that run. Here
`seen` backticks stand directly before, and `acc` is what was read, in reverse. -/
def closeCode? (n seen : Nat) (acc : List Char) : List Char → Option (List Char × List Char)
  | [] => if seen = n then some ((acc.drop n).reverse, []) else none
  | c :: cs =>
    if c == '\x60' then closeCode? n (seen + 1) (c :: acc) cs
    else if seen = n then some ((acc.drop n).reverse, c :: cs)
    else closeCode? n 0 (c :: acc) cs

/-- Reads a code span that starts with `n` backticks, or these as text. -/
def readCode (r : Reading) (n : Nat) (cs : List Char) : Reading × List Char :=
  match if n = 0 then none else closeCode? n 0 [] cs with
  | some (code, rest) => (r.push (.span (.code (codeText code))), rest)
  | none => (r.type (List.replicate n '\x60'), cs)

/-- Reads what follows a backslash. -/
def readEscape (r : Reading) : List Char → Reading × List Char
  | '\n' :: cs => (r.push (.span .hardBreak), cs.dropWhile fun c => c == ' ' || c == '\t')
  | '\x60' :: cs =>
    let n := (cs.takeWhile (· == '\x60')).length
    readCode (r.push (.span (.text "\x60"))) n (cs.drop n)
  | c :: cs =>
    if isAsciiPunctuation c then (r.push (.span (.text (String.singleton c))), cs)
    else (r.type ['\\'], c :: cs)
  | [] => (r.type ['\\'], [])

/-- Reads what follows an opening angle bracket. -/
def readAngle (r : Reading) (cs : List Char) : Reading × List Char :=
  match autolink? cs with
  | some (address, rest) =>
    let text := String.ofList address
    (r.push (.span (.within (.link text "") [.text text])), rest)
  | none =>
    match inlineHtml? cs with
    | some rest =>
      let markup := '<' :: cs.take (cs.length - rest.length)
      (r.push (.span (.html (String.ofList markup))), rest)
    | none => (r.type ['<'], cs)

/-- Reads a closing bracket, given the text after it. -/
def readClosing (definitions : List Definition) (r : Reading) (cs : List Char) :
    Reading × List Char :=
  match r.brackets with
  | [] => (r.type [']'], cs)
  | bracket :: rest =>
    if !bracket.active then ((r.dropBracket bracket rest).type [']'], cs)
    else
      match target definitions bracket.after cs (!r.undefined.contains cs.length) with
      | .found address title after => (r.enclose bracket rest address title, after)
      | .missing label =>
        let r := (r.dropBracket bracket rest).type [']']
        match label with
        | some after => ({ r with undefined := after.length :: r.undefined }, cs)
        | none => (r, cs)

/-- Reads a run of a mark that may open or close emphasis. -/
def readRun (r : Reading) (before : Option Char) (mark : Char) (cs : List Char) :
    Reading × List Char :=
  let n := (cs.takeWhile (· == mark)).length
  let rest := cs.drop n
  let run := DelimiterRun.between mark (n + 1) before rest.head?
  if (run.canOpen || run.canClose) && (mark != '~' || run.length ≤ 2) then (r.push (.run run), rest)
  else (r.type (List.replicate (n + 1) mark), rest)

/-- Reads what starts with a character that is not always text. -/
def readSpecial (definitions : List Definition) (r : Reading) (before : Option Char) (c : Char)
    (cs : List Char) : Reading × List Char :=
  match c with
  | '\n' => (r.breakLine, cs.dropWhile fun c => c == ' ' || c == '\t')
  | '\\' => readEscape r cs
  | '\x60' =>
    let n := (cs.takeWhile (· == '\x60')).length
    readCode r (n + 1) (cs.drop n)
  | '&' =>
    match reference? cs with
    | some (value, rest) => (r.push (.span (.text (String.ofList value))), rest)
    | none => (r.type ['&'], cs)
  | '<' => readAngle r cs
  | '!' =>
    match cs with
    | '[' :: after => (r.openBracket true after, after)
    | _ => (r.type ['!'], cs)
  | '[' => (r.openBracket false cs, cs)
  | ']' => readClosing definitions r cs
  | mark => readRun r before mark cs

/-- Whether a character is not always text. -/
def isSpecial (strikethrough : Bool) (c : Char) : Bool :=
  match c with
  | '\n' | '\\' | '\x60' | '&' | '<' | '!' | '[' | ']' | '*' | '_' => true
  | '~' => strikethrough
  | _ => false

/-- Reads a text that a character stands before. -/
def read (strikethrough : Bool) (definitions : List Definition) (r : Reading)
    (before : Option Char) : List Char → Reading
  | [] => r
  | c :: cs =>
    if isSpecial strikethrough c then
      let (r, rest) := readSpecial definitions r before c cs
      let rest := resume cs rest
      let last := (cs.take (cs.length - rest.length)).getLast?.getD c
      read strikethrough definitions r (some last) rest
    else read strikethrough definitions { r with plain := c :: r.plain } (some c) cs
termination_by cs => cs.length
decreasing_by
  · exact Nat.lt_succ_of_le (length_resume _ _)
  · exact Nat.lt_succ_self _

/-- Closes what is still open at the end of a text. -/
def Reading.finish (r : Reading) : List Bracket → List Piece
  | [] => r.settle.pieces
  | bracket :: rest => (r.dropBracket bracket rest).finish rest

end Inline

/-- The spans of a text, with the definitions that its links may refer to. -/
def spans (strikethrough : Bool) (definitions : List Definition) (text : List Char) : List Span :=
  let r := Inline.read strikethrough definitions {} none text
  emphasize (r.finish r.brackets).reverse

end Folio.Markdown
