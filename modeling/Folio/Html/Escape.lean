import Folio.Text.Replace

/-!
# Escaping text for markup

The five characters with a meaning in markup are written as entities, in text and in attribute
values alike. Reading back knows the entities that writing produces and the hexadecimal form of the
apostrophe; the ampersand comes last, so that an escaped entity reads back as its text.

## Main definitions

* `Folio.Html.escape`: text as it stands in markup.
* `Folio.Html.unescape`: the text that escaped markup stands for.
-/

namespace Folio.Html

open Folio.Text

/-- The entity of a character with a meaning in markup, or the character itself. -/
def escapeChar : Char → List Char
  | '&' => ['&', 'a', 'm', 'p', ';']
  | '<' => ['&', 'l', 't', ';']
  | '>' => ['&', 'g', 't', ';']
  | '"' => ['&', 'q', 'u', 'o', 't', ';']
  | '\'' => ['&', '#', '3', '9', ';']
  | c => [c]

/-- Text with its five special characters written as entities. -/
def escape (s : String) : String :=
  String.ofList (s.toList.flatMap escapeChar)

/-- The entities in the order in which they are read back, each with its character. -/
def entities : List (List Char × Char) :=
  [(['&', 'l', 't', ';'], '<'),
   (['&', 'g', 't', ';'], '>'),
   (['&', 'q', 'u', 'o', 't', ';'], '"'),
   (['&', '#', '3', '9', ';'], '\''),
   (['&', '#', 'x', '2', '7', ';'], '\''),
   (['&', 'a', 'm', 'p', ';'], '&')]

/-- Escaped characters with every entity replaced by its character, one entity at a time. -/
def unescapeChars (cs : List Char) : List Char :=
  entities.foldl (fun text entity => replaceAll entity.1 [entity.2] text) cs

/-- The text that escaped markup stands for. -/
def unescape (s : String) : String :=
  String.ofList (unescapeChars s.toList)

theorem toList_escape (s : String) : (escape s).toList = s.toList.flatMap escapeChar := by
  simp [escape]

end Folio.Html
