import Folio.Mount.Element
import Folio.Text.Word

/-!
# Mounted markup

Finished markup is cut into the code blocks and images in it and the markup between them. What is
cut apart is written back unchanged until an element is changed.

## Main definitions

* `Folio.Segment`: an element, or the markup between elements.
* `Folio.element?`: the element at the start of markup.
* `Folio.Container`: mounted markup; `Container.mount` and `Container.html` go to it and back.
-/

namespace Folio

open Text

variable {η : Type}

/-- A piece of mounted markup. -/
inductive Segment (η : Type) where
  /-- Markup without elements. -/
  | markup (text : String)
  | code (element : CodeElement η)
  | image (element : ImageElement η)
  deriving DecidableEq, Repr

/-- The markup of a segment. -/
def Segment.html : Segment η → String
  | .markup text => text
  | .code element => element.html
  | .image element => element.html

/-- The value of the class attribute and the content of the code block at the start of markup, and
the markup after it. -/
def codeMarkup? (cs : List Char) : Option ((List Char × List Char) × List Char) := do
  let rest ← dropWord? "<pre".toList cs
  let rest := (dropWord? copyableMarker.toList rest).getD rest
  let rest ← dropWord? "><code class=\"".toList rest
  let (value, rest) ← splitAt? ['"'] rest
  let rest ← dropWord? ['>'] rest
  let (content, rest) ← splitAt? "</code></pre>".toList rest
  some ((value, content), rest)

/-- The attributes of the image at the start of markup, and the markup after it. -/
def imageMarkup? (cs : List Char) : Option (List Char × List Char) := do
  let rest ← dropWord? "<img".toList cs
  if (rest.head?.map isWord).getD false then none else splitAt? ['>'] rest

/-- The element at the start of markup, and the markup after it. -/
def element? (cs : List Char) : Option (Segment η × List Char) :=
  match codeMarkup? cs with
  | some ((value, content), rest) => some (.code (.ofMarkup value content), rest)
  | none => (imageMarkup? cs).map fun (markup, rest) => (.image (.ofMarkup markup), rest)

theorem length_codeMarkup? {cs value content rest : List Char}
    (h : codeMarkup? cs = some ((value, content), rest)) : rest.length < cs.length := by
  simp only [codeMarkup?, Option.bind_eq_bind, Option.bind_eq_some_iff, Prod.exists,
    Option.some.injEq, Prod.mk.injEq, dropWord?_eq_some] at h
  obtain ⟨a, ha, b, hb, c, d, hc, e, he, f, g, hf, _, rfl⟩ := h
  have hc := congrArg List.length (splitAt?_eq_some hc)
  have hf := congrArg List.length (splitAt?_eq_some hf)
  have hb := congrArg List.length hb
  have he := congrArg List.length he
  have marker : ((dropWord? copyableMarker.toList a).getD a).length ≤ a.length := by
    cases found : dropWord? copyableMarker.toList a with
    | none => simp
    | some rest => simp [dropWord?_eq_some.1 found]
  simp only [List.length_append] at hb hc he hf
  simp only [ha, List.length_append]
  have : 0 < "<pre".toList.length := by decide
  omega

theorem length_imageMarkup? {cs markup rest : List Char}
    (h : imageMarkup? cs = some (markup, rest)) : rest.length < cs.length := by
  simp only [imageMarkup?, Option.bind_eq_bind, Option.bind_eq_some_iff, dropWord?_eq_some] at h
  obtain ⟨a, ha, h⟩ := h
  split at h
  · cases h
  · have h := congrArg List.length (splitAt?_eq_some h)
    simp only [List.length_append] at h
    simp only [ha, List.length_append]
    have : 0 < "<img".toList.length := by decide
    omega

theorem length_element? {cs rest : List Char} {segment : Segment η}
    (h : element? cs = some (segment, rest)) : rest.length < cs.length := by
  rw [element?] at h
  split at h
  · rename_i found
    obtain ⟨_, rfl⟩ := Prod.mk.inj (Option.some.inj h)
    exact length_codeMarkup? found
  · obtain ⟨⟨markup, tail⟩, found, same⟩ := Option.map_eq_some_iff.1 h
    obtain ⟨_, rfl⟩ := Prod.mk.inj same
    exact length_imageMarkup? found

/-- Markup without elements as a segment; there is none when it is empty. -/
def markupSegment (cs : List Char) : List (Segment η) :=
  if cs.isEmpty then [] else [.markup (String.ofList cs)]

/-- The segments of markup, after characters that start no element, the latest first. -/
def segmentsFrom (plain : List Char) (cs : List Char) : List (Segment η) :=
  match cs with
  | [] => markupSegment plain.reverse
  | c :: rest =>
    match found : element? (c :: rest) with
    | some (segment, after) => markupSegment plain.reverse ++ segment :: segmentsFrom [] after
    | none => segmentsFrom (c :: plain) rest
termination_by cs.length
decreasing_by
  · exact length_element? found
  · exact Nat.lt_succ_self _

/-- Mounted markup. -/
structure Container (η : Type) where
  /-- The pieces of the markup, in order. -/
  segments : List (Segment η) := []
  deriving DecidableEq, Repr

namespace Container

/-- Mounts markup. -/
def mount (html : String) : Container η := ⟨segmentsFrom [] html.toList⟩

/-- The markup of a container. -/
def html (container : Container η) : String :=
  container.segments.foldr (fun segment rest => segment.html ++ rest) ""

/-- The code blocks, in document order. -/
def codes (container : Container η) : List (CodeElement η) :=
  container.segments.filterMap fun
    | .code element => some element
    | _ => none

/-- The images, in document order. -/
def images (container : Container η) : List (ImageElement η) :=
  container.segments.filterMap fun
    | .image element => some element
    | _ => none

/-- Changes the code block with a number. -/
def modifyCodeIn (change : CodeElement η → CodeElement η) :
    Nat → List (Segment η) → List (Segment η)
  | _, [] => []
  | 0, .code element :: rest => .code (change element) :: rest
  | n + 1, .code element :: rest => .code element :: modifyCodeIn change n rest
  | n, segment :: rest => segment :: modifyCodeIn change n rest

/-- Changes the image with a number. -/
def modifyImageIn (change : ImageElement η → ImageElement η) :
    Nat → List (Segment η) → List (Segment η)
  | _, [] => []
  | 0, .image element :: rest => .image (change element) :: rest
  | n + 1, .image element :: rest => .image element :: modifyImageIn change n rest
  | n, segment :: rest => segment :: modifyImageIn change n rest

/-- Changes the code block with a number, if there is one. -/
def modifyCode (container : Container η) (index : Nat)
    (change : CodeElement η → CodeElement η) : Container η :=
  ⟨modifyCodeIn change index container.segments⟩

/-- Changes the image with a number, if there is one. -/
def modifyImage (container : Container η) (index : Nat)
    (change : ImageElement η → ImageElement η) : Container η :=
  ⟨modifyImageIn change index container.segments⟩

/-- The handler that is run when the code block with a number is copied, and its argument. -/
def copyCode? (container : Container η) (index : Nat) : Option (η × String) :=
  container.codes[index]?.bind CodeElement.copy?

/-- The handler that is run when the image with a number is clicked, and its argument. -/
def clickImage? (container : Container η) (index : Nat) : Option (η × String) :=
  container.images[index]?.bind ImageElement.click?

end Container

end Folio
