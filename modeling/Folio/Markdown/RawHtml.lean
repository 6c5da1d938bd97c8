import Folio.Markdown.Cursor
import Folio.Text.Replace

/-!
# Raw markup in Markdown

Tags, comments, processing instructions, declarations and character data that stand in Markdown
text, and the lines at which blocks of raw markup start.

## Main definitions

* `Folio.Markdown.inlineHtml?`: the markup at the start of a text.
* `Folio.Markdown.autolink?`: the address between angle brackets at the start of a text.
* `Folio.Markdown.HtmlEnd`: how a block of raw markup ends; `htmlBlock?` finds one.
-/

namespace Folio.Markdown

open Text

/-- White space within a tag, line endings included. -/
def isTagGap (c : Char) : Bool := isSpace c || c == '\n'

/-- A character of an attribute name after its first. -/
def isAttributeChar (c : Char) : Bool :=
  c.isAlphanum || c == '_' || c == '.' || c == ':' || c == '-'

/-- A character of an attribute value without quotation marks. -/
def isBareChar (c : Char) : Bool :=
  !(['\'', '"', ' ', '=', '>', '<', '\x60', '\n'].contains c)

/-- The text after the attribute value at the start of a text. -/
def afterValue? (cs : List Char) : Option (List Char) :=
  let quoted (mark : Char) (rest : List Char) : Option (List Char) :=
    match rest.dropWhile (· != mark) with
    | _ :: after => some after
    | [] => none
  match cs with
  | '"' :: rest => quoted '"' rest
  | '\'' :: rest => quoted '\'' rest
  | c :: rest => if isBareChar c then some (rest.dropWhile isBareChar) else none
  | [] => none

/-- The text after the attribute at the start of a text. -/
def afterAttribute? (cs : List Char) : Option (List Char) :=
  match cs with
  | [] => none
  | c :: rest =>
    if c.isAlpha || c == '_' || c == ':' then
      let after := rest.dropWhile isAttributeChar
      match after.dropWhile isTagGap with
      | [] => none
      | '=' :: value => afterValue? (value.dropWhile isTagGap)
      | _ => some after
    else none

/-- The text after an opening tag, given what follows its name; at most `fuel` attributes are
read. -/
def afterAttributes? : Nat → List Char → Option (List Char)
  | 0, _ => none
  | fuel + 1, cs =>
    let rest := cs.dropWhile isTagGap
    match rest with
    | '>' :: after => some after
    | '/' :: '>' :: after => some after
    | '/' :: _ => none
    | _ =>
      if rest.length = cs.length then none
      else (afterAttribute? rest).bind (afterAttributes? fuel)

/-- The text after the tag at the start of a text, given what follows its angle bracket. -/
def afterTag? (cs : List Char) : Option (List Char) :=
  let isNameChar (c : Char) : Bool := c.isAlphanum || c == '-'
  match cs with
  | '/' :: c :: rest =>
    if c.isAlpha then
      match (rest.dropWhile isNameChar).dropWhile isSpace with
      | '>' :: after => some after
      | _ => none
    else none
  | c :: rest =>
    if c.isAlpha then afterAttributes? (cs.length + 1) (rest.dropWhile isNameChar) else none
  | [] => none

/-- The text after a comment, given what follows `<!--`. -/
def afterComment? (cs : List Char) : Option (List Char) :=
  match cs with
  | '>' :: after => some after
  | '-' :: '>' :: after => some after
  | _ => (splitAt? ['-', '-', '>'] cs).map Prod.snd

/-- The text after character data, given what follows `<![CDATA[`. -/
def afterCharacterData? (cs : List Char) : Option (List Char) :=
  let tail := cs.dropWhile (· != ']')
  match tail, tail.dropWhile (· == ']') with
  | _ :: _, '>' :: after => some after
  | _, _ => none

/-- The text after the markup at the start of a text, given what follows its angle bracket. -/
def inlineHtml? (cs : List Char) : Option (List Char) :=
  match cs with
  | '!' :: '-' :: '-' :: rest => afterComment? rest
  | '!' :: '[' :: 'C' :: 'D' :: 'A' :: 'T' :: 'A' :: '[' :: rest => afterCharacterData? rest
  | '!' :: c :: rest => if c.isAlpha then (splitAt? ['>'] rest).map Prod.snd else none
  | '?' :: rest => (splitAt? ['?', '>'] rest).map Prod.snd
  | _ => afterTag? cs

/-- The address with a scheme between angle brackets, and the text after it. -/
def uri? (cs : List Char) : Option (List Char × List Char) :=
  let isSchemeChar (c : Char) : Bool := c.isAlphanum || c == '.' || c == '-' || c == '+'
  let scheme := cs.takeWhile isSchemeChar
  match scheme, cs.drop scheme.length with
  | first :: _, ':' :: rest =>
    if !first.isAlpha || scheme.length < 2 || scheme.length > 32 then none
    else
      let path := rest.takeWhile fun c => c.toNat > 0x20 && c != '>' && c != '<'
      match rest.drop path.length with
      | '>' :: after => some (scheme ++ ':' :: path, after)
      | _ => none
  | _, _ => none

/-- A label of a host name. -/
def isHostLabel (cs : List Char) : Bool :=
  !cs.isEmpty && cs.length ≤ 63 && cs.all (fun c => c.isAlphanum || c == '-') &&
    cs.head? != some '-' && cs.getLast? != some '-'

/-- The mail address between angle brackets, and the text after it. -/
def email? (cs : List Char) : Option (List Char × List Char) :=
  let isLocal (c : Char) : Bool :=
    c.isAlphanum || ".!#$%&'*+/=?^_\x60\x7b|\x7d~-".toList.contains c
  let user := cs.takeWhile isLocal
  match user, cs.drop user.length with
  | _ :: _, '@' :: rest =>
    let host := rest.takeWhile fun c => c.isAlphanum || c == '-' || c == '.'
    match rest.drop host.length with
    | '>' :: after =>
      if (splitRuns (· == '.') [] host).all isHostLabel then some (user ++ '@' :: host, after)
      else none
    | _ => none
  | _, _ => none

/-- The address between angle brackets at the start of a text, given what follows the first of
them, and the text after the second. -/
def autolink? (cs : List Char) : Option (List Char × List Char) :=
  (uri? cs).orElse fun _ => email? cs

/-- How a block of raw markup ends: with the line in which a word occurs, or before a blank
line. -/
inductive HtmlEnd where
  | word (text : List Char)
  | blankLine
  deriving Repr

/-- The elements whose content is not markup, with the words that end them. -/
def textElements : List (List Char × List Char) :=
  [("pre".toList, "</pre>".toList), ("style".toList, "</style>".toList),
   ("script".toList, "</script>".toList), ("textarea".toList, "</textarea>".toList)]

/-- The elements at which a block of raw markup starts wherever they stand. -/
def blockElements : List String :=
  ["address", "article", "aside", "base", "basefont", "blockquote", "body", "caption", "center",
   "col", "colgroup", "dd", "details", "dialog", "dir", "div", "dl", "dt", "fieldset",
   "figcaption", "figure", "footer", "form", "frame", "frameset", "h1", "h2", "h3", "h4", "h5",
   "h6", "head", "header", "hr", "html", "iframe", "legend", "li", "link", "main", "menu",
   "menuitem", "nav", "noframes", "ol", "optgroup", "option", "p", "param", "search", "section",
   "summary", "table", "tbody", "td", "tfoot", "th", "thead", "title", "tr", "track", "ul"]

/-- The end of a block that starts with an element whose content is not markup. -/
def textElementEnd? (cs : List Char) : Option (List Char) :=
  textElements.findSome? fun (name, close) =>
    let ends :=
      match cs.drop name.length with
      | [] => true
      | c :: _ => isSpace c || c == '>'
    if (cs.take name.length).map Char.toLower == name && ends then some close else none

/-- Whether a line starts with the tag of an element that makes a block, given what follows its
angle bracket. -/
def startsBlockElement (cs : List Char) : Bool :=
  let tag :=
    match cs with
    | '/' :: rest => rest
    | _ => cs
  let name := tag.takeWhile Char.isAlphanum
  let ends :=
    match tag.drop name.length with
    | [] => true
    | ' ' :: _ | '\t' :: _ | '>' :: _ => true
    | '/' :: '>' :: _ => true
    | _ => false
  blockElements.contains (String.ofList (name.map Char.toLower)) && ends

/-- The block of raw markup that starts even within a paragraph, given what follows the angle
bracket at the start of a line. -/
def htmlBlock? (cs : List Char) : Option HtmlEnd :=
  match textElementEnd? cs with
  | some close => some (.word close)
  | none =>
    match cs with
    | '!' :: '-' :: '-' :: _ => some (.word ['-', '-', '>'])
    | '?' :: _ => some (.word ['?', '>'])
    | '!' :: '[' :: 'C' :: 'D' :: 'A' :: 'T' :: 'A' :: '[' :: _ => some (.word [']', ']', '>'])
    | '!' :: c :: _ => if c.isAlpha then some (.word ['>']) else none
    | _ => if startsBlockElement cs then some .blankLine else none

/-- The block of raw markup that starts where no paragraph is open: also any tag that stands alone
on its line. -/
def freshHtmlBlock? (cs : List Char) : Option HtmlEnd :=
  (htmlBlock? cs).orElse fun _ =>
    match afterTag? cs with
    | some rest => if blank rest then some .blankLine else none
    | none => none

end Folio.Markdown
