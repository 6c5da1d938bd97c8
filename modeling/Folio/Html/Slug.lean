import Folio.Text.Case

/-!
# Slugs and heading identifiers

A slug keeps the ASCII letters and digits of a text, lower-cased, and puts one hyphen where other
characters stand between two of them.

## Main definitions

* `Folio.Html.slug`: the slug of a text.
* `Folio.Html.headingId`: the identifier of the n-th heading with one text.
-/

namespace Folio.Html

open Folio.Text

/-- A character that a slug keeps. -/
def isSlugChar (c : Char) : Bool :=
  ('a' ≤ c && c ≤ 'z') || ('0' ≤ c && c ≤ '9')

/-- Keeps slug characters and separates them by a hyphen. `gap` says that other characters stand
since the last kept one, `begun` that one was kept. -/
def slugFrom (gap begun : Bool) : List Char → List Char
  | [] => []
  | c :: cs =>
    if isSlugChar c then
      if gap && begun then '-' :: c :: slugFrom false true cs else c :: slugFrom false true cs
    else slugFrom true begun cs

/-- The characters of the lower-cased text. -/
def lowerChars (s : String) : List Char :=
  s.toList.flatMap lower

/-- The slug of a text: empty when the text has no letter or digit of ASCII. -/
def slug (text : String) : String :=
  String.ofList (slugFrom false false (lowerChars text))

/-- Stands for the slug of a text whose own slug is empty. -/
def fallbackSlug : String := "section"

/-- The slug of a text, never empty. -/
def baseSlug (text : String) : String :=
  if (slug text).isEmpty then fallbackSlug else slug text

/-- The identifier of the `occurrence`-th heading with this text, counted from one: the first
carries the bare slug, a later one its number after a hyphen. -/
def headingId (text : String) (occurrence : Nat) : String :=
  if occurrence > 1 then baseSlug text ++ "-" ++ toString occurrence else baseSlug text

end Folio.Html
