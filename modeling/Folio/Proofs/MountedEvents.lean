import Folio.Proofs.Enhancing
import Folio.Proofs.NestedEvents

/-!
# Code blocks of Markdown after mounting

The markup of nested events is cut into elements again. Where raw markup is not allowed no string of
the events brings the tag of an element with it, so that the code blocks that are found are those
of the events, each with the tag of its language and the whole of its text. A document tree with the
same code blocks is mounted to the same elements, and a pass of an enhancer does not tell the two
apart.

## Main definitions

* `Folio.Markdown.Mounts`: events whose markup is cut into certain code blocks.
* `Folio.Markdown.elementsOf`: the elements that code blocks are mounted as.
* `Folio.Document.Node.codeBlocks`: the code blocks of a document tree.

## Main results

* `Folio.Markdown.Replaced.mounts`: what nested events are replaced by is cut into their code
  blocks.
* `Folio.Cuts.codes_enhanceHtml`: a pass over markup changes each code block by itself.
* `Folio.Markdown.codes_agree`: Markdown and document trees agree on code blocks.
-/

namespace Folio

open Document Html Text

variable {η : Type}

/-! ### Tokens in which no element starts -/

/-- Whether a token is none of the tags with which elements start. -/
def Html.Token.isPassive : Token → Bool
  | opening name _ | single name _ => name != "pre" && name != "img"
  | text _ | closing _ => true

namespace Markdown

theorem plainName_of_mem {name : String}
    (hname : name ∈ markdownVocabulary.elements ++ markdownVocabulary.singles)
    (hpassive : (name != "pre" && name != "img") = true) : PlainName name := by
  have hnames : ∀ name ∈ markdownVocabulary.elements ++ markdownVocabulary.singles,
      (name != "pre" && name != "img") = true → PlainName name := by
    decide
  exact hnames name hname hpassive

theorem no_open_sealed {attributes : List Attribute}
    (hattributes : ∀ attr ∈ attributes, attr.Sealed markdownVocabulary) :
    '<' ∉ (spellAttributes attributes).toList := by
  have hnames : ∀ name ∈ markdownVocabulary.attributes, '<' ∉ name.toList := by decide
  exact notMem_spellAttributes (by decide) fun attr hattr =>
    ⟨hnames attr.name (hattributes attr hattr).name_mem, (hattributes attr hattr).value.no_open⟩

/-- In a sealed token other than the tag of an element no element starts. -/
theorem cuts_token {token : Token} (hsealed : token.Sealed markdownVocabulary)
    (hpassive : token.isPassive = true) : Cuts (η := η) token.spell [] [] := by
  cases token with
  | text content => exact .markup (nowhere_of_no_open hsealed.1)
  | opening name attributes =>
    exact .openingTag (plainName_of_mem (List.mem_append_left _ hsealed.1) hpassive)
      (no_open_sealed hsealed.2)
  | closing name =>
    have hnames : ∀ name ∈ markdownVocabulary.elements, '<' ∉ name.toList := by decide
    exact .closingTag (hnames name hsealed)
  | single name attributes =>
    exact .singleTag (plainName_of_mem (List.mem_append_right _ hsealed.1) hpassive)
      (no_open_sealed hsealed.2)

theorem cuts_checkBox (checked : Bool) : Cuts (η := η) (Lexeme.checkBox checked).spell [] [] := by
  refine .markup fun rest => ?_
  have hspelled : (Lexeme.checkBox checked).spell.toList =
      '<' :: ("input".toList ++ ' ' :: ("disabled=\"\" type=\"checkbox\"".toList ++
        ((if checked then " checked=\"\"".toList else []) ++ "/>".toList))) := by
    cases checked <;> decide
  have hafter : '<' ∉ "input".toList ++ ' ' :: ("disabled=\"\" type=\"checkbox\"".toList ++
      ((if checked then " checked=\"\"".toList else []) ++ "/>".toList)) := by
    cases checked <;> decide
  rw [hspelled]
  exact nowhere_tag (by decide) (by decide) (by decide) hafter rest

theorem cuts_lexemes {lexemes : List Lexeme}
    (hsealed : ∀ lexeme ∈ lexemes, lexeme.toToken.Sealed markdownVocabulary)
    (hpassive : ∀ lexeme ∈ lexemes, lexeme.toToken.isPassive = true) :
    Cuts (η := η) (spellLexemes lexemes) [] [] := by
  induction lexemes with
  | nil => exact .nil
  | cons lexeme lexemes ih =>
    obtain ⟨hfirst, hrest⟩ := List.forall_mem_cons.1 hsealed
    obtain ⟨hname, hnames⟩ := List.forall_mem_cons.1 hpassive
    have hlexeme : Cuts (η := η) lexeme.spell [] [] := by
      cases lexeme with
      | token inner => exact cuts_token hfirst hname
      | checkBox checked => exact cuts_checkBox checked
    have hall := hlexeme.append (ih hrest hnames)
    have hspelled : spellLexemes (lexeme :: lexemes) = lexeme.spell ++ spellLexemes lexemes := by
      rw [spellLexemes, List.map_cons, String.join_cons, spellLexemes]
    rwa [hspelled]

theorem cuts_tokens {tokens : List Token}
    (hsealed : ∀ token ∈ tokens, token.Sealed markdownVocabulary)
    (hpassive : ∀ token ∈ tokens, token.isPassive = true) :
    Cuts (η := η) (spell tokens) [] [] := by
  rw [← spellLexemes_lexemesOf]
  exact cuts_lexemes (List.forall_mem_map.2 hsealed) (List.forall_mem_map.2 hpassive)

/-! ### The tokens of events are no tags of elements -/

section Passive

variable (o : Output)

theorem isPassive_freshLine : o.freshLine.all Token.isPassive = true := by
  unfold Output.freshLine
  split <;> rfl

theorem isPassive_startTokens (tag : Tag) :
    ∀ token ∈ o.startTokens tag, token.isPassive = true := by
  rw [← List.all_eq_true]
  cases tag with
  | paragraph | quote | item =>
    rw [Output.startTokens, List.all_append, isPassive_freshLine]
    rfl
  | list start =>
    rw [Output.startTokens, List.all_append, isPassive_freshLine]
    cases start <;> rfl
  | tableCell =>
    rw [Output.startTokens]
    cases o.head <;> rfl
  | _ => rfl

theorem isPassive_stopTokens (tag : Tag) :
    ∀ token ∈ o.stopTokens tag, token.isPassive = true := by
  rw [← List.all_eq_true]
  cases tag <;> rfl

theorem isPassive_lexemes {event : Event} (hleaf : event.isLeaf = true) :
    ∀ lexeme ∈ o.lexemes event, lexeme.toToken.isPassive = true := by
  have htokens {tokens : List Token} (h : ∀ token ∈ tokens, token.isPassive = true) :
      ∀ lexeme ∈ lexemesOf tokens, lexeme.toToken.isPassive = true :=
    List.forall_mem_map.2 h
  cases event with
  | start | stop => cases hleaf
  | rule =>
    exact htokens (List.forall_mem_append.2
      ⟨List.all_eq_true.1 (isPassive_freshLine o), by decide⟩)
  | text | code | softBreak | hardBreak | taskMarker | html | inlineHtml =>
    rw [← List.all_eq_true]
    rfl

end Passive

/-! ### Images -/

/-- The tag of an image is an element, with the address that is read off it. -/
theorem cuts_picture (address title : String) {alt : String} (halt : SafeValue alt) :
    ∃ image : ImageElement η,
      Cuts (Token.single "img" (pictureAttributes address alt title)).spell [] [image] := by
  have haddress := quoted_escapeAddress address
  have hplain : ∀ attr ∈ pictureAttributes address alt title, attr.Plain :=
    List.forall_mem_cons.2
      ⟨.of_value (by decide) (by decide) haddress.no_quote haddress.no_close,
        List.forall_mem_cons.2 ⟨.of_value (by decide) (by decide) halt.no_quote halt.no_close,
          plain_titleAttributes _⟩⟩
  have hne : pictureAttributes address alt title ≠ [] := List.cons_ne_nil _ _
  generalize pictureAttributes address alt title = attributes at hplain hne
  rw [spell_img attributes (imageSource (spellAttributes attributes).toList)]
  exact ⟨_, Cuts.image (ImageElement.readable_of_plain hne hplain none) rfl⟩

/-! ### Events cut into code blocks -/

/-- Outside images the events add markup that is cut into certain code blocks, and within an image
they add text. -/
structure Mounts (renderer : Renderer) (sources : List Event) (codes : List (CodeElement η))
    (events : List Event) : Prop where
  outside : ∀ o : Output, o.image = none →
    ∃ (html : String) (images : List (ImageElement η)),
      (o.writeAll events).text = o.text ++ html ∧ (o.writeAll events).image = none ∧
        Cuts html codes images
  within : Notes renderer sources events

namespace Mounts

variable {renderer : Renderer} {sources first rest inside : List Event}
  {codes others : List (CodeElement η)}

theorem nil : Mounts (η := η) renderer sources [] [] :=
  ⟨fun _ himage => ⟨"", [], String.append_empty.symm, himage, .nil⟩, .nil⟩

theorem append (hfirst : Mounts renderer sources codes first)
    (hrest : Mounts renderer sources others rest) :
    Mounts renderer sources (codes ++ others) (first ++ rest) := by
  refine ⟨fun o himage => ?_, hfirst.within.append hrest.within⟩
  obtain ⟨html, images, htext, hclosed, hcuts⟩ := hfirst.outside o himage
  obtain ⟨more, pictures, hmore, hlast, hothers⟩ := hrest.outside (o.writeAll first) hclosed
  rw [Output.writeAll_append]
  refine ⟨html ++ more, images ++ pictures, ?_, hlast, hcuts.append hothers⟩
  rw [hmore, htext, String.append_assoc]

/-- Markup in place of events. -/
theorem html {markup : String} {images : List (ImageElement η)}
    (hmarkup : Cuts markup codes images) : Mounts renderer sources codes [.html markup] := by
  refine ⟨fun o himage => ⟨markup, images, ?_, ?_, hmarkup⟩, .html markup⟩
  · rw [Output.writeAll_cons, Output.writeEvent_outside himage]
    rfl
  · rw [Output.writeAll_cons, Output.writeEvent_outside himage]
    exact himage

/-- An event that stands alone, where raw markup has become text. -/
theorem leaf {event : Event} (hsource : event ∈ sources)
    (hleaf : (event.typeset renderer).isLeaf = true)
    (hmarkup : (event.typeset renderer).isMarkup = false) :
    Mounts (η := η) renderer sources [] [event.typeset renderer] := by
  refine ⟨fun o himage => ⟨spellLexemes (o.lexemes (event.typeset renderer)), [], ?_, ?_, ?_⟩,
    .leaf hsource hleaf⟩
  · rw [Output.writeAll_cons, Output.writeEvent_outside himage]
    exact o.text_writePlain hleaf hmarkup
  · rw [Output.writeAll_cons, Output.writeEvent_outside himage]
    exact (o.image_writePlain hleaf).trans himage
  · exact cuts_lexemes (sealed_lexemes o _) (isPassive_lexemes o hleaf)

/-- What a tag encloses that is written as tags of its own. -/
theorem around {tag : Tag} (htag : tag.isWritten = true)
    (hinside : Mounts renderer sources codes inside) :
    Mounts renderer sources codes (.start tag :: inside ++ [.stop tag]) := by
  refine ⟨fun o himage => ?_, hinside.within.around tag⟩
  have hopened : (o.writeStart tag).image = none := (o.image_writeStart htag).trans himage
  obtain ⟨html, images, htext, hclosed, hcuts⟩ := hinside.outside (o.writeStart tag) hopened
  have hwritten : o.writeAll (.start tag :: inside ++ [.stop tag]) =
      ((o.writeStart tag).writeAll inside).writeStop tag := by
    rw [List.cons_append, Output.writeAll_cons, Output.writeAll_append,
      Output.writeEvent_outside himage, Output.writeAll_cons]
    exact Output.writeEvent_outside hclosed _
  have hstart : Cuts (η := η) (spell (o.startTokens tag)) [] [] :=
    cuts_tokens (sealed_startTokens o tag) (isPassive_startTokens o tag)
  have hstop : Cuts (η := η) (spell (((o.writeStart tag).writeAll inside).stopTokens tag)) [] [] :=
    cuts_tokens (sealed_stopTokens _ tag) (isPassive_stopTokens _ tag)
  have hall := (hstart.append hcuts).append hstop
  rw [List.nil_append, List.nil_append, List.append_nil, List.append_nil] at hall
  rw [hwritten]
  refine ⟨_, images, ?_, (Output.image_writeStop _ htag).trans hclosed, hall⟩
  rw [Output.text_writeStop _ htag, htext, Output.text_writeStart _ htag]
  simp only [String.append_assoc]

/-- An image is one element, whatever text is in it. -/
theorem image (address title : String) (hinside : Notes renderer sources inside) :
    Mounts (η := η) renderer sources []
      (.start (.image address title) :: inside ++ [.stop (.image address title)]) := by
  refine ⟨fun o himage => ?_, hinside.around _⟩
  obtain ⟨alts, halts, htext, hclosed, -⟩ := hinside.writeAll_image himage address title
  have halt : SafeValue (String.join alts) := by
    refine safeValue_join fun alt halt => ?_
    obtain ⟨event, -, rfl⟩ := halts alt halt
    exact safeValue_alt _
  obtain ⟨image, hcuts⟩ := cuts_picture (η := η) address title halt
  exact ⟨_, _, htext, hclosed, hcuts⟩

end Mounts

/-! ### Nested events cut into code blocks -/

/-- The elements that code blocks are mounted as, each given by its language and its code. -/
def elementsOf (blocks : List (Option String × String)) : List (CodeElement η) :=
  blocks.map fun block => { language := languageTag block.1, source := block.2 }

theorem elementsOf_append (first rest : List (Option String × String)) :
    elementsOf (η := η) (first ++ rest) = elementsOf first ++ elementsOf rest :=
  List.map_append

section Replaced

variable {renderer : Renderer} {sources inside within : List Event} {codes : List (CodeElement η)}

/-- The tags of a link. -/
theorem mounts_link (address title : String) (hinside : Mounts renderer sources codes within) :
    Mounts renderer sources codes
      ((Event.start (.link address title)).typeset renderer :: within ++
        [(Event.stop (.link address title)).typeset renderer]) := by
  have hopen : Cuts (η := η)
      (spell [.opening "a" (linkAttributes address (some title))]) [] [] := by
    rw [spell_singleton]
    exact .opening (by decide) (safeAttributes_link _ _)
  have hclose : Cuts (η := η) (Token.closing "a").spell [] [] := .closing (by decide)
  have hopened : Mounts renderer sources [] _ := .html hopen
  have hall := (hopened.append hinside).append (.html hclose)
  rw [List.nil_append, List.append_nil] at hall
  rw [typeset_link]
  exact hall

/-- The name of a heading of any level. -/
theorem plainName_heading (level : Nat) : PlainName ("h" ++ toString level) := by
  have hdigits : '<' ∉ (toString level).toList := (safeValue_toString level).no_open
  generalize toString level = digits at hdigits ⊢
  refine ⟨by simpa using hdigits, ?_, ?_⟩ <;>
    simp [List.cons_prefix_cons]

/-- The tags of a heading, of any level. -/
theorem mounts_heading (level : Nat) (id : String)
    (hinside : Mounts renderer sources codes within) :
    Mounts renderer sources codes
      (.html (headingOpen level id) :: within ++
        (if renderer.config.headings.anchorLinks then [.html (anchorLink id)] else []) ++
        [.html (headingClose level)]) := by
  have hname := plainName_heading level
  have hid : SafeAttributes documentVocabulary [⟨"id", escape id⟩] :=
    .cons (by decide) (safeValue_escape id) safeAttributes_nil
  have hopen : Cuts (η := η) (headingOpen level id) [] [] := by
    rw [headingOpen_eq_spell, spell_singleton]
    exact .openingTag hname (no_open_spellAttributes hid)
  have hclose : Cuts (η := η) (headingClose level) [] [] := by
    rw [headingClose_eq_spell, spell_cons, spell_singleton]
    exact (Cuts.closingTag hname.no_open).append .newline
  have hanchor : Mounts (η := η) renderer sources []
      (if renderer.config.headings.anchorLinks then [.html (anchorLink id)] else []) := by
    split
    case isTrue hlinks =>
      rw [anchorLink_eq_spell hlinks]
      exact .html (cuts_anchor renderer id)
    case isFalse => exact .nil
  have hopened : Mounts renderer sources [] _ := .html hopen
  have hall := ((hopened.append hinside).append hanchor).append (.html hclose)
  rw [List.nil_append, List.append_nil, List.append_nil] at hall
  exact hall

/-- What a tag encloses that stays a tag, becomes the ends of an element, or is an image. -/
theorem mounts_enclosed {tag : Tag} (hdelimits : (Event.start tag).delimits = false)
    (himage : ∀ address title, tag = .image address title → codes = [])
    (hinside : Mounts renderer sources codes within) :
    Mounts renderer sources codes
      ((Event.start tag).typeset renderer :: within ++ [(Event.stop tag).typeset renderer]) := by
  cases tag with
  | heading | codeBlock => cases hdelimits
  | link address title => exact mounts_link address title hinside
  | image address title =>
    rw [himage address title rfl]
    exact .image address title hinside.within
  | _ => exact .around rfl hinside

/-- **What nested events are replaced by is cut into their code blocks**, where raw markup is not
allowed. -/
theorem Replaced.mounts (hraw : renderer.config.markdown.allowRawHtml = false) {zone : Zone}
    {events written : List Event} (hreplaced : Replaced renderer zone events written)
    (hsources : ∀ event ∈ events, event ∈ sources) :
    Mounts (η := η) renderer sources (elementsOf (codeBlocks events)) written := by
  induction hreplaced with
  | nil => exact .nil
  | @leaf zone event rest others hleaf _ ih =>
    obtain ⟨hsource, hrest⟩ := List.forall_mem_cons.1 hsources
    obtain ⟨-, hsingle, hmarkup⟩ := leaf_typeset hraw hleaf
    rw [codeBlocks_leaf _ hleaf]
    exact (Mounts.leaf hsource hsingle hmarkup).append (ih hrest)
  | @enclosed zone inner tag inside rest within others htag hdelimits hnested _ _ ih_inside
      ih_rest =>
    obtain ⟨hgroup, hrest⟩ := List.forall_mem_append.1 hsources
    have htags : ∀ info, tag ≠ .codeBlock info := by
      rintro info rfl
      cases hdelimits
    have himage (address title : String) (h : tag = .image address title) :
        elementsOf (η := η) (codeBlocks inside) = [] := by
      subst h
      rw [hnested.codeBlocks_eq_nil (Zone.enter_image htag)]
      rfl
    rw [hnested.codeBlocks_around htags, elementsOf_append]
    exact (mounts_enclosed hdelimits himage (ih_inside (List.forall_mem_cons.1 hgroup).2)).append
      (ih_rest (List.forall_mem_cons.1 hrest).2)
  | @heading zone level inside rest within others id hnested _ _ ih_inside ih_rest =>
    obtain ⟨hgroup, hrest⟩ := List.forall_mem_append.1 hsources
    have htags : ∀ info, Tag.heading level ≠ .codeBlock info := nofun
    rw [hnested.codeBlocks_around htags, elementsOf_append]
    exact (mounts_heading level id (ih_inside (List.forall_mem_cons.1 hgroup).2)).append
      (ih_rest (List.forall_mem_cons.1 hrest).2)
  | @code info texts rest others _ ih_rest =>
    obtain ⟨-, hrest⟩ := List.forall_mem_append.1 hsources
    rw [codeBlocks_codeBlock]
    exact (Mounts.html (cuts_codeBlock _ _)).append (ih_rest (List.forall_mem_cons.1 hrest).2)

/-- The markup of nested events is cut into their code blocks. -/
theorem cuts_typeset (hraw : renderer.config.markdown.allowRawHtml = false) {events : List Event}
    (hevents : Nested .blocks events) (headings : Headings) :
    ∃ images : List (ImageElement η),
      Cuts (eventsHtml (typeset renderer events headings).1) (elementsOf (codeBlocks events))
        images := by
  have hreplaced : Replaced renderer .blocks events (typeset renderer events headings).1 :=
    hevents.typeset_replaced headings
  obtain ⟨html, images, htext, hclosed, hcuts⟩ :=
    (hreplaced.mounts (η := η) hraw fun _ hevent => hevent).outside {} rfl
  have hhtml : eventsHtml (typeset renderer events headings).1 = html := by
    rw [eventsHtml]
    change (Output.writeAll {} (typeset renderer events headings).1).finish.text = html
    rw [Output.finish, hclosed]
    exact htext.trans String.empty_append
  rw [hhtml]
  exact ⟨images, hcuts⟩

end Replaced

end Markdown

/-! ### Passes over markup that is cut -/

/-- A pass over markup changes each code block by itself, and leaves no handler. -/
theorem Cuts.codes_enhanceHtml {html : String} {codes : List (CodeElement η)}
    {images : List (ImageElement η)} (hcuts : Cuts html codes images) {enhancer : Enhancer η}
    (henhancer : enhancer.Faithful) :
    (Container.mount (η := η) (enhanceHtml enhancer html)).codes =
      codes.map fun code => (enhancer.codeAfter code).unwired := by
  obtain ⟨⟨segments⟩, hreadable, hunwired, rfl, rfl, rfl⟩ := hcuts
  have hpassed : Container.passed ⟨segments⟩ enhancer =
      ⟨segments.map (Segment.change enhancer.codeAfter enhancer.imageAfter)⟩ :=
    congrArg Container.mk (List.map_congr_left fun segment hsegment =>
      congrArg _ (hunwired segment hsegment))
  rw [Container.enhanceHtml_html hreadable, Container.mount_html (hreadable.passed henhancer),
    Container.codes_remounted, hpassed, Container.codes_change, List.map_map]
  rfl

/-! ### Two sources of code blocks -/

/-- The code blocks of a document tree, each with its language and its code. -/
def Document.Node.codeBlocks (root : Node) : List (Option String × String) :=
  ((root.visited 0).filter (·.kind = .codeBlock)).map fun node => (node.language?, node.plainText)

namespace Markdown

theorem elementsOf_codeBlocks (root : Node) :
    elementsOf (η := η) root.codeBlocks = codeElements (root.visited 0) := by
  rw [elementsOf, Node.codeBlocks, List.map_map]
  rfl

/-- **Markdown and document trees agree on code blocks.** Where raw markup is not allowed, mounting
the markup of nested events finds one code block for each of theirs, in order, with the tag of the
language after its fence and the whole of its text, however this is cut into events. A document
tree with the same code blocks is mounted to the same elements. A pass leaves them the same, both in
the containers and, when the markup of the highlighter is faithful, in the markup that is written
back. -/
theorem codes_agree (renderer : Renderer) (hraw : renderer.config.markdown.allowRawHtml = false)
    {events : List Event} (hevents : Nested .blocks events) (headings : Headings) :
    let html := eventsHtml (typeset renderer events headings).1
    let mounted : Folio.Container η := .mount html
    mounted.codes = elementsOf (codeBlocks events) ∧
      ∀ (other : Renderer) (root : Node) (others : Headings), root.codeBlocks = codeBlocks events →
        let tree := (compile other root others).1
        let mountedTree : Folio.Container η := .mount tree
        mountedTree.codes = mounted.codes ∧
          ∀ enhancer : Enhancer η,
            (enhancer.enhance mountedTree).1.codes = (enhancer.enhance mounted).1.codes ∧
            (enhancer.Faithful →
              (Folio.Container.mount (η := η) (enhanceHtml enhancer tree)).codes =
                (Folio.Container.mount (η := η) (enhanceHtml enhancer html)).codes) := by
  intro html mounted
  obtain ⟨images, hcuts⟩ := cuts_typeset (η := η) hraw hevents headings
  have hcodes : mounted.codes = elementsOf (codeBlocks events) := hcuts.mount.2.1
  refine ⟨hcodes, fun other root others hblocks => ?_⟩
  intro tree mountedTree
  have htree := cuts_compile (η := η) other root others
  rw [← elementsOf_codeBlocks, hblocks] at htree
  have hsame : mountedTree.codes = mounted.codes := htree.mount.2.1.trans hcodes.symm
  refine ⟨hsame, fun enhancer => ⟨?_, fun henhancer => ?_⟩⟩
  · rw [Enhancer.codes_enhance, Enhancer.codes_enhance, hsame]
  · rw [htree.codes_enhanceHtml henhancer, hcuts.codes_enhanceHtml henhancer]

/-- Text that looks like the start of a code block is none, and a code block in a quote is found
with both of its texts. -/
theorem codes_agree_quote :
    let text : List Event :=
      .start .paragraph :: [.inlineHtml "<pre><code class=\"language-c\">"] ++
        .stop .paragraph :: []
    let quote : List Event := .start .quote ::
      (.start (.codeBlock (some "json,x")) :: [.text "[1,", .text "2]"] ++
        .stop (.codeBlock (some "json,x")) :: []) ++ .stop .quote :: []
    let html := eventsHtml (typeset {} (text ++ quote) {}).1
    let root := Node.branch .document [Node.codeOf (some "json") "[1,2]"]
    ({} : Renderer).config.markdown.allowRawHtml = false ∧ Nested .blocks (text ++ quote) ∧
      root.codeBlocks = codeBlocks (text ++ quote) ∧
      (Folio.Container.mount (η := Nat) (compile {} root {}).1).codes =
        (Folio.Container.mount html).codes := by
  intro text quote html root
  have hevents : Nested .blocks (text ++ quote) :=
    .around rfl (.leaf rfl .nil) (.around rfl (.around rfl (.leaf rfl (.leaf rfl .nil)) .nil) .nil)
  have hblocks : root.codeBlocks = codeBlocks (text ++ quote) := by
    decide
  exact ⟨rfl, hevents, hblocks,
    ((codes_agree {} rfl hevents {}).2 {} root {} hblocks).1⟩

end Markdown

end Folio
