import Folio.Proofs.EventOrigin

/-!
# Writing nested events

What nested events add to the output is known without the output: outside images it is the markup
of tokens that come from the events and that leave certain elements open, and within an image it is
text for the value of an attribute. Both are known of events one after the other, and of what a tag
encloses, when they are known of the parts.

## Main definitions

* `Folio.Markdown.Notes`: events that add text within an image.
* `Folio.Markdown.Writes`: events that also add tokens outside images.

## Main results

* `Folio.Markdown.Writes.append`, `Folio.Markdown.Writes.around`, `Folio.Markdown.Writes.image`:
  what events add follows from what their parts add.
-/

namespace Folio.Markdown

open Html

/-- What is added to an output outside images: lexemes that come from certain events and that turn
some open elements into others. -/
structure Output.Grows (renderer : Renderer) (sources : List Event) (before after : List String)
    (o grown : Output) (lexemes : List Lexeme) : Prop where
  text : grown.text = o.text ++ spellLexemes lexemes
  image : grown.image = none
  moves : Moves before after (lexemes.map Lexeme.toToken)
  origin : ∀ lexeme ∈ lexemes, Origin renderer sources lexeme

/-- The events add text within an image, and change nothing else but whether a line has ended. -/
def Notes (renderer : Renderer) (sources events : List Event) : Prop :=
  ∀ (o : Output) (image : OpenImage), o.image = some image →
    ∃ (alts : List String) (ended : Bool),
      (∀ alt ∈ alts, ∃ event ∈ sources, alt = (event.typeset renderer).alt) ∧
      o.writeAll events = { o with text := o.text ++ String.join alts, lineEnded := ended }

/-- The events add tokens outside images and text within them. Under a condition they also leave it
open whether rows belong to the head of a table. -/
structure Writes (renderer : Renderer) (sources : List Event) (before after : List String)
    (keeps : Prop) (events : List Event) : Prop where
  outside : ∀ o : Output, o.image = none → ∃ lexemes : List Lexeme,
    o.Grows renderer sources before after (o.writeAll events) lexemes ∧
      (keeps → (o.writeAll events).head = o.head)
  within : Notes renderer sources events

variable {renderer : Renderer} {sources : List Event}

/-! ### Growing outputs -/

namespace Output.Grows

variable {before between after : List String} {o grown last : Output}
  {first rest lexemes : List Lexeme}

theorem refl (himage : o.image = none) (names : List String) :
    o.Grows renderer sources names names o [] :=
  ⟨String.append_empty.symm, himage, .nil, fun _ hmem => absurd hmem List.not_mem_nil⟩

theorem trans (hfirst : o.Grows renderer sources before between grown first)
    (hrest : grown.Grows renderer sources between after last rest) :
    o.Grows renderer sources before after last (first ++ rest) where
  text := by rw [hrest.text, hfirst.text, spellLexemes_append, String.append_assoc]
  image := hrest.image
  moves := by
    rw [List.map_append]
    exact hfirst.moves.append hrest.moves
  origin := List.forall_mem_append.2 ⟨hfirst.origin, hrest.origin⟩

theorem frame (hgrows : o.Grows renderer sources before after grown lexemes)
    (names : List String) :
    o.Grows renderer sources (before ++ names) (after ++ names) grown lexemes :=
  { hgrows with moves := hgrows.moves.frame names }

end Output.Grows

/-- The start of a tag that is written adds its tokens. -/
theorem Output.grows_start {tag : Tag} (htag : tag.isWritten = true)
    (hsource : .start tag ∈ sources) {o : Output} (himage : o.image = none) :
    o.Grows renderer sources [] (tag.opens o.head) (o.writeStart tag)
      (lexemesOf (o.startTokens tag)) where
  text := by rw [o.text_writeStart htag, spellLexemes_lexemesOf]
  image := (o.image_writeStart htag).trans himage
  moves := by
    rw [map_toToken_lexemesOf]
    exact o.moves_start tag
  origin lexeme hlexeme := by
    refine .single o hsource ?_
    cases tag <;> exact hlexeme

/-- The end of a tag that is written adds its tokens. -/
theorem Output.grows_stop {tag : Tag} (htag : tag.isWritten = true)
    (hsource : .stop tag ∈ sources) {o : Output} (himage : o.image = none) :
    o.Grows renderer sources (tag.holds ++ tag.opens o.head) tag.leaves (o.writeStop tag)
      (lexemesOf (o.stopTokens tag)) where
  text := by rw [o.text_writeStop htag, spellLexemes_lexemesOf]
  image := (o.image_writeStop htag).trans himage
  moves := by
    rw [map_toToken_lexemesOf]
    exact o.moves_stop tag
  origin lexeme hlexeme := by
    refine .single o hsource ?_
    cases tag <;> exact hlexeme

/-! ### Within images -/

namespace Notes

variable {first rest inside : List Event}

theorem nil : Notes renderer sources [] := by
  intro o image _
  exact ⟨[], o.lineEnded, fun _ hmem => absurd hmem List.not_mem_nil,
    by simp [Output.writeAll]⟩

theorem append (hfirst : Notes renderer sources first) (hrest : Notes renderer sources rest) :
    Notes renderer sources (first ++ rest) := by
  intro o image himage
  obtain ⟨alts, ended, halts, hwritten⟩ := hfirst o image himage
  obtain ⟨others, last, hothers, hlast⟩ := hrest (o.writeAll first) image (by rw [hwritten, himage])
  refine ⟨alts ++ others, last, List.forall_mem_append.2 ⟨halts, hothers⟩, ?_⟩
  rw [Output.writeAll_append, hlast, hwritten]
  simp only [String.join_append, String.append_assoc]

/-- Markup is left out within an image. -/
theorem html (markup : String) : Notes renderer sources [.html markup] := by
  intro o image himage
  refine ⟨[], o.lineEnded, fun _ hmem => absurd hmem List.not_mem_nil, ?_⟩
  rw [Output.writeAll_cons, Output.writeEvent_within himage]
  simp [Output.writeAll, Output.writeWithin]

theorem leaf {event : Event} (hsource : event ∈ sources)
    (hleaf : (event.typeset renderer).isLeaf = true) :
    Notes renderer sources [event.typeset renderer] := by
  intro o image himage
  obtain ⟨ended, hwritten⟩ := o.writeWithin_leaf hleaf image
  refine ⟨[(event.typeset renderer).alt], ended,
    List.forall_mem_singleton.2 ⟨event, hsource, rfl⟩, ?_⟩
  rw [Output.writeAll_cons, Output.writeEvent_within himage, hwritten]
  simp [Output.writeAll]

/-- Within an image tags are only counted. -/
theorem around (tag : Tag) (hinside : Notes renderer sources inside) :
    Notes renderer sources (.start tag :: inside ++ [.stop tag]) := by
  intro o image himage
  have hstart : o.writeEvent (.start tag) =
      { o with image := some { image with depth := image.depth + 1 } } := by
    rw [Output.writeEvent_within himage]
    rfl
  obtain ⟨alts, ended, halts, hwritten⟩ := hinside (o.writeEvent (.start tag)) _ (by rw [hstart])
  refine ⟨alts, ended, halts, ?_⟩
  rw [List.cons_append, Output.writeAll_cons, Output.writeAll_append, hwritten, hstart]
  simp [Output.writeAll, Output.writeEvent, Output.writeWithin, ← himage]

/-- An image around such events adds one tag, whose value they are. -/
theorem writeAll_image (hinside : Notes renderer sources inside) {o : Output}
    (himage : o.image = none) (address title : String) :
    ∃ alts : List String,
      (∀ alt ∈ alts, ∃ event ∈ sources, alt = (event.typeset renderer).alt) ∧
      (o.writeAll (.start (.image address title) :: inside ++
        [.stop (.image address title)])).text =
        o.text ++ (Token.single "img" (pictureAttributes address (String.join alts) title)).spell ∧
      (o.writeAll (.start (.image address title) :: inside ++
        [.stop (.image address title)])).image = none ∧
      (o.writeAll (.start (.image address title) :: inside ++
        [.stop (.image address title)])).head = o.head := by
  have hopened : (o.writeEvent (.start (.image address title))).image = some { title } := by
    rw [Output.writeEvent_outside himage]
    rfl
  obtain ⟨alts, ended, halts, hwritten⟩ := hinside _ _ hopened
  have hinner : ((o.writeEvent (.start (.image address title))).writeAll inside).image =
      some { title } := by rw [hwritten, hopened]
  have hall : o.writeAll (.start (.image address title) :: inside ++
      [.stop (.image address title)]) =
        ((o.writeEvent (.start (.image address title))).writeAll inside).finishImage { title } := by
    rw [List.cons_append, Output.writeAll_cons, Output.writeAll_append, Output.writeAll_cons,
      Output.writeEvent_within hinner]
    rfl
  rw [hall, hwritten, Output.writeEvent_outside himage]
  refine ⟨alts, halts, ?_, rfl, rfl⟩
  have htitle : spellAttributes (titleAttributes (some title)) =
      if title.isEmpty then "" else " title=\"" ++ escape title ++ "\"" :=
    spell_titleAttributes _
  apply String.toList_injective
  cases hempty : title.isEmpty <;>
    simp [Output.writePlain, Output.writeStart, Output.finishImage, Output.write, Token.spell,
      pictureAttributes, spellAttributes_cons, htitle, hempty]

end Notes

/-! ### Outside and within images -/

namespace Writes

variable {before between after : List String} {keeps : Prop} {first rest inside : List Event}

theorem nil : Writes renderer sources before before keeps [] :=
  ⟨fun _ himage => ⟨[], .refl himage before, fun _ => rfl⟩, .nil⟩

theorem append (hfirst : Writes renderer sources before between keeps first)
    (hrest : Writes renderer sources between after keeps rest) :
    Writes renderer sources before after keeps (first ++ rest) := by
  refine ⟨fun o himage => ?_, hfirst.within.append hrest.within⟩
  obtain ⟨lexemes, hgrows, hhead⟩ := hfirst.outside o himage
  obtain ⟨others, hothers, hlast⟩ := hrest.outside (o.writeAll first) hgrows.image
  rw [Output.writeAll_append]
  exact ⟨lexemes ++ others, hgrows.trans hothers,
    fun hkeeps => (hlast hkeeps).trans (hhead hkeeps)⟩

/-- Elements that were open already stay open. -/
theorem frame (hfirst : Writes renderer sources before after keeps first) (names : List String) :
    Writes renderer sources (before ++ names) (after ++ names) keeps first := by
  refine ⟨fun o himage => ?_, hfirst.within⟩
  obtain ⟨lexemes, hgrows, hhead⟩ := hfirst.outside o himage
  exact ⟨lexemes, hgrows.frame names, hhead⟩

theorem weaken (hfirst : Writes renderer sources before after keeps first) {weaker : Prop}
    (hweaker : weaker → keeps) : Writes renderer sources before after weaker first := by
  refine ⟨fun o himage => ?_, hfirst.within⟩
  obtain ⟨lexemes, hgrows, hhead⟩ := hfirst.outside o himage
  exact ⟨lexemes, hgrows, fun h => hhead (hweaker h)⟩

/-- Markup that comes in place of events adds its tokens. -/
theorem html {tokens : List Token} (hmoves : Moves before after tokens)
    (horigin : ∀ token ∈ tokens, Origin renderer sources (.token token)) :
    Writes renderer sources before after keeps [.html (spell tokens)] := by
  refine ⟨fun o himage => ⟨lexemesOf tokens, ⟨?_, ?_, ?_, List.forall_mem_map.2 horigin⟩, ?_⟩,
    Notes.html _⟩
  · rw [spellLexemes_lexemesOf, Output.writeAll_cons, Output.writeEvent_outside himage]
    rfl
  · rw [Output.writeAll_cons, Output.writeEvent_outside himage]
    exact himage
  · rwa [map_toToken_lexemesOf]
  · rw [Output.writeAll_cons, Output.writeEvent_outside himage]
    exact fun _ => rfl

/-- An event that stands alone adds its lexemes, where raw markup has become text. -/
theorem leaf {event : Event} (hsource : event ∈ sources)
    (hleaf : (event.typeset renderer).isLeaf = true)
    (hmarkup : (event.typeset renderer).isMarkup = false) :
    Writes renderer sources before before keeps [event.typeset renderer] := by
  refine ⟨fun o himage => ⟨o.lexemes (event.typeset renderer), ⟨?_, ?_, ?_, ?_⟩, ?_⟩,
    Notes.leaf hsource hleaf⟩
  · rw [Output.writeAll_cons, Output.writeEvent_outside himage]
    exact o.text_writePlain hleaf hmarkup
  · rw [Output.writeAll_cons, Output.writeEvent_outside himage]
    exact (o.image_writePlain hleaf).trans himage
  · exact o.moves_leaf hleaf before
  · exact fun lexeme hlexeme => .single o hsource hlexeme
  · rw [Output.writeAll_cons, Output.writeEvent_outside himage]
    exact fun _ => o.head_writePlain hleaf

/-- **What a tag encloses** stands between the tokens of its start and its end. The end of a cell
depends on what rows belong to as its start does, so that the content of a cell must not change
it. -/
theorem around {tag : Tag} (htag : tag.isWritten = true) (hstart : .start tag ∈ sources)
    (hstop : .stop tag ∈ sources) {kept : Prop} (hcell : tag = .tableCell → kept)
    (hkeeps : keeps → kept ∧ tag ≠ .tableHead)
    (hinside : Writes renderer sources [] tag.holds kept inside) :
    Writes renderer sources [] tag.leaves keeps (.start tag :: inside ++ [.stop tag]) := by
  refine ⟨fun o himage => ?_, hinside.within.around tag⟩
  have hopened : o.Grows renderer sources [] (tag.opens o.head) (o.writeStart tag)
      (lexemesOf (o.startTokens tag)) := Output.grows_start htag hstart himage
  obtain ⟨lexemes, hgrows, hhead⟩ := hinside.outside (o.writeStart tag) hopened.image
  have hclosed : ((o.writeStart tag).writeAll inside).Grows renderer sources
      (tag.holds ++ tag.opens ((o.writeStart tag).writeAll inside).head) tag.leaves
      (((o.writeStart tag).writeAll inside).writeStop tag)
      (lexemesOf (((o.writeStart tag).writeAll inside).stopTokens tag)) :=
    Output.grows_stop htag hstop hgrows.image
  -- Only a cell is opened and closed by what its row belongs to.
  have hopens : tag.opens ((o.writeStart tag).writeAll inside).head = tag.opens o.head := by
    cases tag with
    | tableCell => rw [hhead (hcell rfl), o.head_writeStart (by simp)]
    | _ => rfl
  rw [hopens] at hclosed
  have hwritten : o.writeAll (.start tag :: inside ++ [.stop tag]) =
      ((o.writeStart tag).writeAll inside).writeStop tag := by
    rw [List.cons_append, Output.writeAll_cons, Output.writeAll_append,
      Output.writeEvent_outside himage, Output.writeAll_cons]
    exact Output.writeEvent_outside hgrows.image _
  rw [hwritten]
  refine ⟨_, (hopened.trans (hgrows.frame (tag.opens o.head))).trans hclosed, fun h => ?_⟩
  obtain ⟨hkept, hne⟩ := hkeeps h
  rw [Output.head_writeStop _ hne, hhead hkept, o.head_writeStart hne]

/-- **An image is one tag**, with the text of its content as the value of an attribute. -/
theorem image {address title : String} (hstart : .start (.image address title) ∈ sources)
    (hinside : Notes renderer sources inside) :
    Writes renderer sources before before keeps
      (.start (.image address title) :: inside ++ [.stop (.image address title)]) := by
  refine ⟨fun o himage => ?_, hinside.around _⟩
  obtain ⟨alts, halts, htext, hclosed, hhead⟩ := hinside.writeAll_image himage address title
  refine ⟨[.token (.single "img" (pictureAttributes address (String.join alts) title))],
    ⟨?_, hclosed, .single .nil, List.forall_mem_singleton.2 (.image hstart halts)⟩,
    fun _ => hhead⟩
  rw [htext]
  simp [spellLexemes, Lexeme.spell]

end Writes

end Folio.Markdown
