import Folio.Render.Rendered

/-!
# Outlines keep their headings

While an outline is built its headings stand in complete entries and in open ones. Completing an
entry moves it below its parent or to the roots, which changes no heading and no order; adding a
heading puts it last. A finished outline therefore flattens to the headings it was made from.

## Main definitions

* `Folio.Nest.headings`: the headings in an outline under construction.

## Main results

* `Folio.Nest.headings_add`: adding a heading puts it last.
* `Folio.flattenAll_outline`: an outline flattens to its headings.
-/

namespace Folio

theorem flattenAll_append (first rest : List Entry) :
    flattenAll (first ++ rest) = flattenAll first ++ flattenAll rest := by
  induction first with
  | nil => simp only [List.nil_append, flattenAll]
  | cons entry first ih => simp only [List.cons_append, flattenAll, ih, List.append_assoc]

theorem flattenAll_singleton (entry : Entry) : flattenAll [entry] = entry.flatten := by
  simp only [flattenAll, List.append_nil]

/-- An entry that gets one more entry below it has the headings of that entry last. -/
theorem Entry.flatten_addChild (parent entry : Entry) :
    Entry.flatten { parent with children := parent.children ++ [entry] } =
      parent.flatten ++ entry.flatten := by
  cases parent
  simp only [Entry.flatten, flattenAll_append, flattenAll_singleton, List.cons_append]

namespace Nest

/-- The headings of an outline under construction, in document order: those of the complete
entries, and then those of the open ones from the outermost to the innermost. -/
def headings (nest : Nest) : List Heading :=
  flattenAll nest.roots ++ flattenAll nest.opened.reverse

theorem headings_close (entry : Entry) (rest roots : List Entry) :
    (close (entry :: rest) roots).headings = headings ⟨entry :: rest, roots⟩ := by
  cases rest with
  | nil => simp only [close, headings, List.reverse_nil, List.reverse_singleton,
      flattenAll_append, flattenAll, List.append_nil]
  | cons parent rest =>
    simp only [close, headings, List.reverse_cons, flattenAll_append, flattenAll_singleton,
      Entry.flatten_addChild, List.append_assoc]

theorem headings_closeTo (level : Nat) (nest : Nest) :
    (nest.closeTo level).headings = nest.headings := by
  induction nest using closeTo.induct level with
  | case1 roots => rw [closeTo]
  | case2 entry rest roots hlevel ih =>
    rw [closeTo, if_pos hlevel, ih, headings_close]
  | case3 entry rest roots hlevel => rw [closeTo, if_neg hlevel]

theorem headings_add (nest : Nest) (heading : Heading) :
    (nest.add heading).headings = nest.headings ++ [heading] := by
  rw [← headings_closeTo heading.level nest]
  simp only [add, headings, List.reverse_cons, flattenAll_append, Entry.flatten, flattenAll,
    List.append_nil, List.append_assoc]

theorem headings_foldl_add (nest : Nest) (headings : List Heading) :
    (headings.foldl add nest).headings = nest.headings ++ headings := by
  induction headings generalizing nest with
  | nil => rw [List.foldl_nil, List.append_nil]
  | cons heading rest ih =>
    rw [List.foldl_cons, ih, headings_add, List.append_assoc, List.singleton_append]

/-- No entry stays open at level zero. -/
theorem opened_closeTo_zero (nest : Nest) : (nest.closeTo 0).opened = [] := by
  induction nest using closeTo.induct 0 with
  | case1 roots => rw [closeTo]
  | case2 entry rest roots hlevel ih => rwa [closeTo, if_pos hlevel]
  | case3 entry rest roots hlevel => exact absurd (Nat.zero_le _) hlevel

end Nest

/-- **An outline flattens to its headings.** Nothing is lost, doubled or moved. -/
theorem flattenAll_outline (headings : List Heading) : flattenAll (outline headings) = headings :=
  calc flattenAll (outline headings)
      = ((headings.foldl Nest.add {}).closeTo 0).headings := by
        rw [Nest.headings, Nest.opened_closeTo_zero, List.reverse_nil, flattenAll,
          List.append_nil, outline]
    _ = headings := by
        rw [Nest.headings_closeTo, Nest.headings_foldl_add]
        rfl

end Folio
