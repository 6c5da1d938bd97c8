import Folio.Html.Escape
import Folio.Render.Heading

/-!
# Outlines

The headings of a document nest by level: a heading stands below the latest one before it whose
level is lower.

## Main definitions

* `Folio.Entry`: an entry of an outline with those below it.
* `Folio.outline`: the outline of a list of headings.
* `Folio.Entry.flatten`: an entry and all below it, in document order.
* `Folio.outlineHtml`: the markup of an outline.
-/

namespace Folio

/-- An entry of an outline. -/
structure Entry where
  /-- The heading. -/
  heading : Heading
  /-- The entries below it. -/
  children : List Entry
  deriving Repr

mutual

/-- The headings of an entry and of those below it, in document order. -/
def Entry.flatten : Entry → List Heading
  | ⟨heading, children⟩ => heading :: flattenAll children

/-- The headings of several entries, in document order. -/
def flattenAll : List Entry → List Heading
  | [] => []
  | entry :: rest => entry.flatten ++ flattenAll rest

end

/-- The entries of an outline under construction: those that may still get entries below them,
innermost first, and those that are complete and stand below none. -/
structure Nest where
  /-- The open entries, each standing below the next. -/
  opened : List Entry := []
  /-- The complete entries at the root, in document order. -/
  roots : List Entry := []
  deriving Repr

namespace Nest

/-- Completes the innermost of the open entries given: it goes below the next, or to the roots. -/
def close : List Entry → List Entry → Nest
  | [], roots => ⟨[], roots⟩
  | [entry], roots => ⟨[], roots ++ [entry]⟩
  | entry :: parent :: rest, roots =>
    ⟨{ parent with children := parent.children ++ [entry] } :: rest, roots⟩

theorem length_close (entry : Entry) (rest roots : List Entry) :
    (close (entry :: rest) roots).opened.length = rest.length := by
  cases rest <;> rfl

/-- Completes the open entries whose level is at least the one given. -/
def closeTo (level : Nat) (nest : Nest) : Nest :=
  match nest with
  | ⟨[], roots⟩ => ⟨[], roots⟩
  | ⟨entry :: rest, roots⟩ =>
    if level ≤ entry.heading.level then closeTo level (close (entry :: rest) roots)
    else ⟨entry :: rest, roots⟩
termination_by nest.opened.length
decreasing_by simp [length_close]

/-- Adds a heading. -/
def add (nest : Nest) (heading : Heading) : Nest :=
  let nest := nest.closeTo heading.level
  { nest with opened := ⟨heading, []⟩ :: nest.opened }

end Nest

/-- The outline of a list of headings. -/
def outline (headings : List Heading) : List Entry :=
  ((headings.foldl Nest.add {}).closeTo 0).roots

/-- The opening tag of the list at one depth. -/
def openList (depth : Nat) : String :=
  "<ul class=\"toc-list toc-level-" ++ toString depth ++ "\">\n"

/-- The link to a heading. -/
def outlineLink (heading : Heading) : String :=
  "<a href=\"#" ++ Html.escape heading.id ++ "\" class=\"toc-link\">" ++ Html.escape heading.text ++
    "</a>"

mutual

/-- The item of an entry at one depth. -/
def outlineItem (depth : Nat) : Entry → String
  | ⟨heading, children⟩ =>
    "<li class=\"toc-item\">" ++ outlineLink heading ++ outlineBelow (depth + 1) children ++
      "</li>\n"

/-- The items of several entries. -/
def outlineItems (depth : Nat) : List Entry → String
  | [] => ""
  | entry :: rest => outlineItem depth entry ++ outlineItems depth rest

/-- The list of the entries below an entry, on a line of its own; nothing when there are none. -/
def outlineBelow (depth : Nat) : List Entry → String
  | [] => ""
  | entry :: rest =>
    "\n" ++ openList depth ++ outlineItem depth entry ++ outlineItems depth rest ++ "</ul>\n"

end

/-- The markup of an outline; that of an empty one is empty. -/
def outlineHtml : List Entry → String
  | [] => ""
  | entries =>
    "<nav class=\"table-of-contents\">\n<h2 class=\"toc-title\">Table of Contents</h2>\n" ++
      openList 0 ++ outlineItems 0 entries ++ "</ul>\n</nav>\n"

end Folio
