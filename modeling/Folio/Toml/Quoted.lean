import Folio.Text.Replace

/-!
# Strings of a TOML text

A string stands between single or triple quotation marks. Double marks allow escapes, apostrophes
take every character as it is, and triple marks of either kind allow line endings. The writer takes
the first form in which it needs no escape.

## Main definitions

* `Folio.Toml.Form`: the four forms; `Form.of` is that of a string.
* `Folio.Toml.quote`: a string as it is written.
* `Folio.Toml.string?`: the string at the start of a text.
* `Folio.Toml.lineString?`: the same without the forms that may go over several lines.
-/

namespace Folio.Toml

open Text

/-- A control character other than a tab; none stands unescaped on a line. -/
def isControl (c : Char) : Bool := (c.toNat < 0x20 && c != '\t') || c == '\x7f'

/-- The forms of a string. -/
inductive Form where
  /-- Between double quotation marks, with escapes. -/
  | basic
  /-- Between apostrophes, without escapes. -/
  | literal
  /-- Between three double quotation marks, over several lines, with escapes. -/
  | basicBlock
  /-- Between three apostrophes, over several lines, without escapes. -/
  | literalBlock
  deriving DecidableEq, Repr

/-- The first form that holds a string without escapes, or one with escapes. -/
def Form.of (cs : List Char) : Form :=
  let plain := cs.all fun c => !isControl c
  let plainBlock := cs.all fun c => c == '\n' || !isControl c
  let escapes := cs.contains '\\'
  if plain && !escapes && !cs.contains '"' then .basic
  else if plain && !cs.contains '\'' then .literal
  else if plainBlock && !escapes && !occursIn ['"', '"', '"'] cs then .basicBlock
  else if plainBlock && !occursIn ['\'', '\'', '\''] cs then .literalBlock
  else if cs.contains '\n' then .basicBlock
  else .basic

/-- A hexadecimal digit in capitals. -/
def hexDigit (n : Nat) : Char :=
  if n < 10 then Char.ofNat ('0'.toNat + n) else Char.ofNat ('A'.toNat + (n - 10))

/-- A character other than a quotation mark between double quotation marks. -/
def escapeChar (c : Char) : List Char :=
  match c with
  | '\\' => ['\\', '\\']
  | '\x08' => ['\\', 'b']
  | '\t' => ['\\', 't']
  | '\x0c' => ['\\', 'f']
  | '\r' => ['\\', 'r']
  | c =>
    if isControl c then
      ['\\', 'u', '0', '0', hexDigit (c.toNat / 16), hexDigit (c.toNat % 16)]
    else [c]

/-- A string between double quotation marks. -/
def escapeBasic (cs : List Char) : List Char :=
  cs.flatMap fun c => if c == '"' then ['\\', '"'] else escapeChar c

/-- A string between three double quotation marks, after `run` of them: every third is escaped. -/
def escapeBlock (run : Nat) : List Char → List Char
  | [] => []
  | '"' :: cs =>
    if run = 2 then '\\' :: '"' :: escapeBlock 0 cs else '"' :: escapeBlock (run + 1) cs
  | '\n' :: cs => '\n' :: escapeBlock 0 cs
  | c :: cs => escapeChar c ++ escapeBlock 0 cs

/-- The line ending after the opening marks of a string that has line endings. -/
def blockStart (cs : List Char) : List Char := if cs.contains '\n' then ['\n'] else []

/-- A string in a form. -/
def Form.write (cs : List Char) : Form → List Char
  | .basic => '"' :: (escapeBasic cs ++ ['"'])
  | .literal => '\'' :: (cs ++ ['\''])
  | .basicBlock =>
    ['"', '"', '"'] ++ blockStart cs ++ escapeBlock 0 cs ++ ['"', '"', '"']
  | .literalBlock => ['\'', '\'', '\''] ++ blockStart cs ++ cs ++ ['\'', '\'', '\'']

/-- A string as it is written. -/
def quote (s : String) : String :=
  String.ofList ((Form.of s.toList).write s.toList)

/-- The value of a hexadecimal digit. -/
def hexValue? (c : Char) : Option Nat :=
  if '0' ≤ c ∧ c ≤ '9' then some (c.toNat - '0'.toNat)
  else if 'a' ≤ c ∧ c ≤ 'f' then some (c.toNat - 'a'.toNat + 10)
  else if 'A' ≤ c ∧ c ≤ 'F' then some (c.toNat - 'A'.toNat + 10)
  else none

/-- The character whose code point is given by exactly `n` digits at the start of a text. -/
def codePoint? (n : Nat) (cs : List Char) : Option Char := do
  let digits ← (cs.take n).mapM hexValue?
  let value := digits.foldl (fun v d => v * 16 + d) 0
  if digits.length = n ∧ value.isValidChar then some (Char.ofNat value) else none

/-- The character of the escape at the start of a text, given what follows the backslash, and how
long that is. -/
def escape? (cs : List Char) : Option (Char × Nat) :=
  match cs with
  | 'b' :: _ => some ('\x08', 1)
  | 't' :: _ => some ('\t', 1)
  | 'n' :: _ => some ('\n', 1)
  | 'f' :: _ => some ('\x0c', 1)
  | 'r' :: _ => some ('\r', 1)
  | 'e' :: _ => some ('\x1b', 1)
  | '"' :: _ => some ('"', 1)
  | '\\' :: _ => some ('\\', 1)
  | 'x' :: digits => (codePoint? 2 digits).map (·, 3)
  | 'u' :: digits => (codePoint? 4 digits).map (·, 5)
  | 'U' :: digits => (codePoint? 8 digits).map (·, 9)
  | _ => none

/-- A string with a character before it. -/
def consTo (c : Char) (found : Option (List Char × List Char)) : Option (List Char × List Char) :=
  found.map fun (body, rest) => (c :: body, rest)

/-- The string up to a double quotation mark and the text after that, after `skip` characters of
an escape. -/
def basicBody : Nat → List Char → Option (List Char × List Char)
  | _, [] => none
  | skip + 1, _ :: cs => basicBody skip cs
  | 0, '"' :: cs => some ([], cs)
  | 0, '\\' :: cs =>
    match escape? cs with
    | some (c, length) => consTo c (basicBody length cs)
    | none => none
  | 0, c :: cs => if isControl c then none else consTo c (basicBody 0 cs)

/-- The string up to an apostrophe and the text after that. -/
def literalBody : List Char → Option (List Char × List Char)
  | [] => none
  | c :: cs =>
    if c == '\'' then some ([], cs)
    else if isControl c then none
    else consTo c (literalBody cs)

/-- Whether a character may stand in a string of several lines before the text given. -/
def allowedInBlock (c : Char) (next : List Char) : Bool :=
  c == '\n' || (c == '\r' && next.head? == some '\n') || !isControl c

/-- The end of a string of several lines at three marks or more: up to two marks belong to the
string. -/
def closeBlock? (mark : Char) (cs : List Char) : Option (List Char × List Char) :=
  let run := (cs.takeWhile (· == mark)).length
  if run < 3 then none
  else some (List.replicate (min (run - 3) 2) mark, cs.drop (3 + min (run - 3) 2))

/-- The length of a line ending with white space before it and everything up to the next character
that is no white space; a backslash before it joins lines. -/
def joinLines? (cs : List Char) : Option Nat :=
  match cs.dropWhile fun c => c == ' ' || c == '\t' with
  | '\n' :: _ | '\r' :: '\n' :: _ =>
    some (cs.takeWhile fun c => c == ' ' || c == '\t' || c == '\n' || c == '\r').length
  | _ => none

/-- The string up to three double quotation marks and the text after them, after `skip` characters
of an escape. -/
def basicBlockBody : Nat → List Char → Option (List Char × List Char)
  | _, [] => none
  | skip + 1, _ :: cs => basicBlockBody skip cs
  | 0, c :: cs =>
    if c == '\\' then
      match joinLines? cs, escape? cs with
      | some length, _ => basicBlockBody length cs
      | none, some (c, length) => consTo c (basicBlockBody length cs)
      | none, none => none
    else
      match closeBlock? '"' (c :: cs) with
      | some found => some found
      | none => if allowedInBlock c cs then consTo c (basicBlockBody 0 cs) else none

/-- The string up to three apostrophes and the text after them. -/
def literalBlockBody : List Char → Option (List Char × List Char)
  | [] => none
  | c :: cs =>
    match closeBlock? '\'' (c :: cs) with
    | some found => some found
    | none => if allowedInBlock c cs then consTo c (literalBlockBody cs) else none

/-- Text without a line ending at its start. -/
def dropLineEnding : List Char → List Char
  | '\n' :: cs => cs
  | '\r' :: '\n' :: cs => cs
  | cs => cs

/-- The string on one line at the start of a text, and the text after it. -/
def lineString? : List Char → Option (List Char × List Char)
  | '"' :: cs => basicBody 0 cs
  | '\'' :: cs => literalBody cs
  | _ => none

/-- The string at the start of a text, and the text after it. -/
def string? (cs : List Char) : Option (List Char × List Char) :=
  match cs with
  | '"' :: '"' :: '"' :: body => basicBlockBody 0 (dropLineEnding body)
  | '\'' :: '\'' :: '\'' :: body => literalBlockBody (dropLineEnding body)
  | _ => lineString? cs

end Folio.Toml
