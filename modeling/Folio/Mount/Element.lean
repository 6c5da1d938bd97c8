import Folio.Html.CodeBlock
import Folio.Text.Replace

/-!
# Elements of mounted markup

Code blocks and images in finished markup can be changed. A handler is whatever a page attaches to
them; it is run with the text of the code or the address of the image.

## Main definitions

* `Folio.CodeElement`, `Folio.ImageElement`: a code block and an image.
* `CodeElement.ofMarkup`, `ImageElement.ofMarkup`: the element that markup stands for.
* `CodeElement.html`, `ImageElement.html`: the markup of an element.
-/

namespace Folio

open Text

variable {η : Type}

/-- The class of a code block that shows the markup of a highlighter. -/
def highlightedClass : String := "highlighted"

/-- What the class that names a language starts with. -/
def languagePrefix : String := "language-"

/-- The attribute of a code block with a handler. -/
def copyableMarker : String := " data-copyable=\"true\""

/-- The attribute of an image with a handler. -/
def zoomableMarker : String := " data-zoomable=\"true\""

/-- A code block in mounted markup. -/
structure CodeElement (η : Type) where
  /-- The tag of the language. -/
  language : String
  /-- The code itself. -/
  source : String
  /-- The markup of a highlighter that is shown instead of the code. -/
  highlighted : Option String := none
  /-- The handler that is run when the code is copied. -/
  onCopy : Option η := none
  deriving DecidableEq, Repr

/-- The language that the classes of a code block name. -/
def languageOf (classes : List (List Char)) : String :=
  match classes.findSome? (dropWord? languagePrefix.toList) with
  | some (c :: name) => String.ofList (c :: name)
  | _ => Html.plainLanguage

/-- Markup without its tags; `inside` says that a tag is open. An angle bracket that nothing
closes is no tag. -/
def dropTags (inside : Bool) : List Char → List Char
  | [] => []
  | c :: cs =>
    if inside then dropTags (c != '>') cs
    else if c == '<' && cs.contains '>' then dropTags true cs
    else c :: dropTags false cs

/-- The text of markup: its tags are dropped and its entities replaced. -/
def markupText (markup : List Char) : String :=
  String.ofList (Html.unescapeChars (dropTags false markup))

namespace CodeElement

/-- The code block with a value of its class attribute and a content. -/
def ofMarkup (value content : List Char) : CodeElement η :=
  let classes := words value
  if classes.contains highlightedClass.toList then
    { language := languageOf classes
      source := markupText content
      highlighted := some (String.ofList content) }
  else
    { language := languageOf classes
      source := String.ofList (Html.unescapeChars content) }

/-- Whether the markup of a highlighter is shown. -/
def isHighlighted (code : CodeElement η) : Bool := code.highlighted.isSome

/-- Shows the code itself. -/
def clearHighlighting (code : CodeElement η) : CodeElement η := { code with highlighted := none }

/-- Shows the markup of a highlighter. -/
def setHighlighted (code : CodeElement η) (markup : String) : CodeElement η :=
  { code with highlighted := some markup }

/-- Attaches a handler in place of an earlier one. -/
def setCopyHandler (code : CodeElement η) (handler : η) : CodeElement η :=
  { code with onCopy := some handler }

/-- The handler that is run when the code is copied, and the text it is run with. -/
def copy? (code : CodeElement η) : Option (η × String) := code.onCopy.map (·, code.source)

/-- Whether two code blocks are the same, whichever handlers they have. -/
def alike (code other : CodeElement η) : Bool :=
  code.language == other.language && code.source == other.source &&
    code.highlighted == other.highlighted && code.onCopy.isSome == other.onCopy.isSome

/-- The markup of a code block. -/
def html (code : CodeElement η) : String :=
  let marker := if code.onCopy.isSome then copyableMarker else ""
  let (mode, content) :=
    match code.highlighted with
    | some markup => (" " ++ highlightedClass, markup)
    | none => ("", Html.escape code.source)
  "<pre" ++ marker ++ "><code class=\"" ++ languagePrefix ++ code.language ++ mode ++ "\">" ++
    content ++ "</code></pre>"

end CodeElement

/-- An image in mounted markup. -/
structure ImageElement (η : Type) where
  /-- The markup of its attributes. -/
  attributes : String
  /-- The address of the picture. -/
  source : String
  /-- The handler that is run when the image is clicked. -/
  onClick : Option η := none
  deriving DecidableEq, Repr

/-- Whether an attribute name may start with a character. -/
def startsAttribute (c : Char) : Bool := c.isAlpha || c == '_' || c == ':'

/-- Whether an attribute name may go on with a character. -/
def continuesAttribute (c : Char) : Bool :=
  c.isAlphanum || c == '-' || c == '_' || c == ':' || c == '.'

/-- The attribute at the start of markup, its value in quotation marks, and the markup after it. -/
def attribute? (cs : List Char) : Option ((List Char × List Char) × List Char) :=
  match cs with
  | [] => none
  | c :: rest =>
    if startsAttribute c then
      let name := c :: rest.takeWhile continuesAttribute
      (dropWord? ['=', '"'] (cs.drop name.length)).bind fun value =>
        (splitAt? ['"'] value).map fun (value, after) => ((name, value), after)
    else none

/-- The attributes of markup, after `skip` characters of an attribute that was found already. -/
def attributesFrom : Nat → List Char → List (List Char × List Char)
  | _, [] => []
  | skip + 1, _ :: cs => attributesFrom skip cs
  | 0, c :: cs =>
    match attribute? (c :: cs) with
    | some (found, rest) => found :: attributesFrom (cs.length - rest.length) cs
    | none => attributesFrom 0 cs

/-- The address that the attributes of an image give. -/
def imageSource (attributes : List Char) : String :=
  match (attributesFrom 0 attributes).find? fun (name, _) =>
    name.map Char.toLower == ['s', 'r', 'c'] with
  | some (_, value) => String.ofList (Html.unescapeChars value)
  | none => ""

namespace ImageElement

/-- The markup of attributes without the marker of a handler and the slash that ends the tag. -/
def cleanAttributes (markup : List Char) : List Char :=
  let unmarked := replaceAll zoomableMarker.toList [] markup
  dropEnd isBlank (dropEnd (· == '/') (dropEnd isBlank unmarked))

/-- The image with attributes given as markup. -/
def ofMarkup (markup : List Char) : ImageElement η :=
  let attributes := cleanAttributes markup
  { attributes := String.ofList attributes, source := imageSource attributes }

/-- Attaches a handler in place of an earlier one. -/
def setClickHandler (image : ImageElement η) (handler : η) : ImageElement η :=
  { image with onClick := some handler }

/-- The handler that is run when the image is clicked, and the address it is run with. -/
def click? (image : ImageElement η) : Option (η × String) := image.onClick.map (·, image.source)

/-- The markup of an image. -/
def html (image : ImageElement η) : String :=
  let marker := if image.onClick.isSome then zoomableMarker else ""
  "<img" ++ image.attributes ++ marker ++ " />"

end ImageElement

end Folio
