import Folio.Markdown.Cursor
import Folio.Markdown.Entity
import Folio.Text.Case
import Folio.Text.Punctuation

/-!
# Links

The parts of a link: its destination, its title, and the label by which it refers to a definition
elsewhere in the document.

## Main definitions

* `Folio.Markdown.destination?`, `Folio.Markdown.title?`, `Folio.Markdown.label?`: the part at the
  start of a text, and the text after it.
* `Folio.Markdown.Definition`: what a label stands for; `definition?` reads one.
* `Folio.Markdown.inlineTarget?`: the destination and title in parentheses after a link text.
-/

namespace Folio.Markdown

open Text

/-- Text with its backslash escapes and character references resolved; at most `fuel` characters
are read. -/
def unescapeWithin : Nat → List Char → List Char
  | 0, _ => []
  | _ + 1, [] => []
  | fuel + 1, '\\' :: c :: cs =>
    if isAsciiPunctuation c then c :: unescapeWithin fuel cs
    else '\\' :: unescapeWithin fuel (c :: cs)
  | fuel + 1, '&' :: cs =>
    match reference? cs with
    | some (value, rest) => value ++ unescapeWithin fuel rest
    | none => '&' :: unescapeWithin fuel cs
  | fuel + 1, c :: cs => c :: unescapeWithin fuel cs

/-- Text with its backslash escapes and character references resolved. -/
def unescapeText (cs : List Char) : String :=
  String.ofList (unescapeWithin cs.length cs)

/-- How deep parentheses may nest in a destination. -/
def maxParentheses : Nat := 32

/-- A destination in angle brackets, after the first of them, in reverse behind `acc`. -/
def bracketed (acc : List Char) : List Char → Option (List Char × List Char)
  | [] => none
  | '>' :: rest => some (acc.reverse, rest)
  | '\\' :: c :: rest =>
    if isAsciiPunctuation c then bracketed (c :: '\\' :: acc) rest
    else bracketed ('\\' :: acc) (c :: rest)
  | c :: rest => if c == '\n' || c == '<' then none else bracketed (c :: acc) rest

/-- A destination without angle brackets, in reverse behind `acc`, with `depth` parentheses
open. -/
def bareAddress (depth : Nat) (acc : List Char) : List Char → Option (List Char × List Char)
  | [] => if depth = 0 then some (acc.reverse, []) else none
  | '\\' :: c :: rest =>
    if isAsciiPunctuation c then bareAddress depth (c :: '\\' :: acc) rest
    else bareAddress depth ('\\' :: acc) (c :: rest)
  | c :: rest =>
    if c.toNat ≤ 0x20 then if depth = 0 then some (acc.reverse, c :: rest) else none
    else if c == '(' then
      if depth > maxParentheses then none else bareAddress (depth + 1) (c :: acc) rest
    else if c == ')' then
      if depth = 0 then some (acc.reverse, c :: rest) else bareAddress (depth - 1) (c :: acc) rest
    else bareAddress depth (c :: acc) rest

/-- The destination at the start of a text, before its escapes are resolved, and the text after
it. -/
def destination? : List Char → Option (List Char × List Char)
  | '<' :: rest => bracketed [] rest
  | cs => bareAddress 0 [] cs

/-- A title up to its closing mark, in reverse behind `acc`. Another opening mark ends the
search. -/
def titleBody (opening closing : Char) (acc : List Char) :
    List Char → Option (List Char × List Char)
  | [] => none
  | '\\' :: c :: rest =>
    if isAsciiPunctuation c then titleBody opening closing (c :: '\\' :: acc) rest
    else titleBody opening closing ('\\' :: acc) (c :: rest)
  | c :: rest =>
    if c == closing then some (acc.reverse, rest)
    else if c == opening then none
    else titleBody opening closing (c :: acc) rest

/-- The closing mark of a title that opens with a mark. -/
def titleClosing? : Char → Option Char
  | '"' => some '"'
  | '\'' => some '\''
  | '(' => some ')'
  | _ => none

/-- The title at the start of a text, before its escapes are resolved, and the text after it. -/
def title? : List Char → Option (List Char × List Char)
  | [] => none
  | c :: rest => (titleClosing? c).bind fun closing => titleBody c closing [] rest

/-- Text without the white space at the starts of its lines. `fresh` says that a line has just
begun. -/
def dropIndents (fresh : Bool) : List Char → List Char
  | [] => []
  | c :: cs =>
    if fresh && (c == ' ' || c == '\t') then dropIndents true cs
    else c :: dropIndents (c == '\n') cs

/-- White space with at most one line ending: how many line endings, and the text after it. -/
def separator? (cs : List Char) : Option (Nat × List Char) :=
  let rest := cs.dropWhile fun c => isSpace c || c == '\n'
  let breaks := (cs.take (cs.length - rest.length)).count '\n'
  if breaks ≤ 1 then some (breaks, rest) else none

/-- The destination and title in parentheses at the start of a text, and the text after them. -/
def inlineTarget? (cs : List Char) : Option (String × String × List Char) := do
  let inner ← match cs with
    | '(' :: rest => some rest
    | _ => none
  let (_, inner) ← separator? inner
  let (address, after) ← destination? inner
  let (_, after) ← separator? after
  let (title, after) ←
    match title? after with
    | some (title, after) => (separator? after).map fun (_, after) => (title, after)
    | none => some ([], after)
  match after with
  | ')' :: rest => some (unescapeText address, unescapeText (dropIndents false title), rest)
  | _ => none

/-- The characters of a label, white space collapsed to one space. `seen` says that a character
other than white space was read, `room` how many more may follow. -/
def labelBody (seen : Bool) (acc : List Char) :
    Nat → List Char → Option (List Char × List Char)
  | 0, _ => none
  | _ + 1, [] => none
  | room + 1, c :: cs =>
    if c == '[' then none
    else if c == ']' then if seen then some (acc.reverse, cs) else none
    else if c == '\\' then
      match cs with
      | [] => none
      | d :: rest =>
        if d == '\n' then labelBody seen (' ' :: '\\' :: acc) room rest
        else labelBody seen (d :: '\\' :: acc) room rest
    else if isSpace c || c == '\n' then
      labelBody seen (if acc.head? == some ' ' then acc else ' ' :: acc) room cs
    else labelBody true (c :: acc) room cs

/-- The form under which two labels are the same: without outer white space and letter case. -/
def labelKey (cs : List Char) : String :=
  let inner := dropEnd (· == ' ') (cs.dropWhile (· == ' '))
  String.ofList (inner.flatMap foldCase)

/-- The label at the start of a text, in the form for comparison, given what follows its opening
bracket, and the text after its closing one. -/
def label? (cs : List Char) : Option (String × List Char) :=
  (labelBody false [] 1000 cs).map fun (label, rest) => (labelKey label, rest)

/-- What a label stands for. -/
structure Definition where
  /-- The label in the form for comparison. -/
  label : String
  /-- The destination. -/
  address : String
  /-- The title, empty if there is none. -/
  title : String
  deriving Repr

/-- The text after the end of the line, when nothing but white space stands before that end. -/
def lineEnd? (cs : List Char) : Option (List Char) :=
  match cs.dropWhile isSpace with
  | [] => some []
  | '\n' :: rest => some rest
  | _ => none

/-- The definition at the start of a text, and the text after its last line. A title that is
followed by more text does not count when it stands on a line of its own. -/
def definition? (cs : List Char) : Option (Definition × List Char) := do
  let inner ← match cs with
    | '[' :: rest => some rest
    | _ => none
  let (label, rest) ← label? inner
  let rest ← match rest with
    | ':' :: rest => some rest
    | _ => none
  let (_, rest) ← separator? rest
  let (address, after) ← destination? rest
  if after.length = rest.length then none
  let definition : Definition := ⟨label, unescapeText address, ""⟩
  let bare : Option (Definition × List Char) := (lineEnd? after).map fun tail => (definition, tail)
  match separator? after with
  | none => bare
  | some (breaks, titled) =>
    if titled.length = after.length || titled.isEmpty then bare
    else
      match title? titled with
      | none => if breaks > 0 then bare else none
      | some (title, tail) =>
        match lineEnd? tail with
        | some next =>
          some ({ definition with title := unescapeText (dropIndents false title) }, next)
        | none => if breaks > 0 then bare else none

end Folio.Markdown
