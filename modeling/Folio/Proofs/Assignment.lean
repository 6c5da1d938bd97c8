import Folio.Render.Heading

/-!
# Headings assigned in order

A rendering assigns identifiers to headings one at a time. Here the whole sequence is described: the
identifier of a heading depends on the texts met before the sequence and on those earlier in it, and
nothing else. Records are only ever added at the end, one for each heading.

## Main definitions

* `Folio.Title`: a heading as a document has it, before it gets an identifier.
* `Folio.Headings.assignAll`: assigns identifiers to a sequence of headings.
* `Folio.Renderer.assigned`: the headings that a sequence becomes.

## Main results

* `Folio.Headings.records_assignAll`: the records after a sequence.
* `Folio.Headings.count_assignAll`: the occurrences after a sequence.
-/

namespace Folio

/-- A heading as a document has it. -/
structure Title where
  /-- The text without marks. -/
  text : String
  /-- The level, one for the highest. -/
  level : Nat
  deriving DecidableEq, Repr

/-- What the document says of a recorded heading. -/
def Heading.title (heading : Heading) : Title := ⟨heading.text, heading.level⟩

/-- Gives identifiers to headings one after another and records them. -/
def Headings.assignAll (headings : Headings) (renderer : Renderer) (titles : List Title) :
    Headings :=
  titles.foldl (fun headings title => (headings.assign renderer title.text title.level).2) headings

/-- The headings that a sequence becomes when the texts `met` were met before it. -/
def Renderer.assigned (renderer : Renderer) : Occurrences → List Title → List Heading
  | _, [] => []
  | met, ⟨text, level⟩ :: rest =>
    ⟨renderer.idFormat text ((met.record text).count text), text, level⟩ ::
      renderer.assigned (met.record text) rest

namespace Headings

variable (renderer : Renderer) (headings : Headings)

theorem assignAll_nil : headings.assignAll renderer [] = headings := rfl

theorem assignAll_cons (title : Title) (rest : List Title) :
    headings.assignAll renderer (title :: rest) =
      (headings.assign renderer title.text title.level).2.assignAll renderer rest := rfl

theorem assignAll_append (first rest : List Title) :
    headings.assignAll renderer (first ++ rest) =
      (headings.assignAll renderer first).assignAll renderer rest :=
  List.foldl_append

/-- A sequence adds its headings after the earlier records. -/
theorem records_assignAll (titles : List Title) :
    (headings.assignAll renderer titles).records =
      headings.records ++ renderer.assigned headings.met titles := by
  induction titles generalizing headings with
  | nil => simp only [assignAll_nil, Renderer.assigned, List.append_nil]
  | cons title rest ih =>
    rw [assignAll_cons, ih]
    simp only [assign, Renderer.assigned, List.append_assoc, List.singleton_append]

/-- A sequence raises the count of a text by the number of its headings with that text. -/
theorem count_assignAll (titles : List Title) (text : String) :
    (headings.assignAll renderer titles).met.count text =
      headings.met.count text + (titles.map Title.text).count text := by
  induction titles generalizing headings with
  | nil => simp only [assignAll_nil, List.map_nil, List.count_nil, Nat.add_zero]
  | cons title rest ih =>
    rw [assignAll_cons, ih, List.map_cons, List.count_cons]
    simp only [assign, Occurrences.count_record, beq_iff_eq]
    omega

end Headings

/-- What a sequence becomes is read off in parts, the second after the texts of the first. -/
theorem Renderer.assigned_append (renderer : Renderer) (headings : Headings)
    (first rest : List Title) :
    renderer.assigned headings.met (first ++ rest) =
      renderer.assigned headings.met first ++
        renderer.assigned (headings.assignAll renderer first).met rest := by
  have records := headings.records_assignAll renderer (first ++ rest)
  rw [Headings.assignAll_append, Headings.records_assignAll, Headings.records_assignAll,
    List.append_assoc] at records
  exact (List.append_cancel_left records).symm

/-- Every heading of a sequence gets one record, with its own text and level. -/
theorem Renderer.map_title_assigned (renderer : Renderer) (met : Occurrences)
    (titles : List Title) : (renderer.assigned met titles).map Heading.title = titles := by
  induction titles generalizing met with
  | nil => rfl
  | cons title rest ih => simp only [assigned, List.map_cons, Heading.title, ih]

/-- The texts of the records that a sequence becomes. -/
theorem Renderer.map_text_assigned (renderer : Renderer) (met : Occurrences)
    (titles : List Title) :
    (renderer.assigned met titles).map Heading.text = titles.map Title.text :=
  calc (renderer.assigned met titles).map Heading.text
      = ((renderer.assigned met titles).map Heading.title).map Title.text := by
        rw [List.map_map]
        rfl
    _ = titles.map Title.text := by rw [map_title_assigned]

end Folio
