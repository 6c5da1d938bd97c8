import Folio.Proofs.EventGroups
import Folio.Proofs.EventMarkup
import Folio.Proofs.MarkupSafety

/-!
# Where the markup of events comes from

Each token in the markup of a Markdown document comes from one event: it is what that event adds by
itself, or a part of the markup of an image, link, heading or code block. Strings of the events come
into it only as escaped text, as escaped values, and as the names of known languages, so that a
token stays what it is whatever these strings are.

## Main definitions

* `Folio.Html.Token.Sealed`: a token that can only be read back as what it is.
* `Folio.Markdown.Origin`: what the markup of a document may consist of.

## Main results

* `Folio.Markdown.Origin.isSealed`: whatever the events say, their tokens are sealed.
-/

namespace Folio.Html

/-! ### Sealed tokens -/

/-- A value that stays between its quotation marks and in its tag. -/
structure Quoted (value : String) : Prop where
  no_quote : '"' ∉ value.toList
  no_open : '<' ∉ value.toList
  no_close : '>' ∉ value.toList

instance (value : String) : Decidable (Quoted value) :=
  decidable_of_iff ('"' ∉ value.toList ∧ '<' ∉ value.toList ∧ '>' ∉ value.toList)
    ⟨fun ⟨no_quote, no_open, no_close⟩ => ⟨no_quote, no_open, no_close⟩,
      fun quoted => ⟨quoted.no_quote, quoted.no_open, quoted.no_close⟩⟩

theorem SafeValue.quoted {value : String} (hvalue : SafeValue value) : Quoted value :=
  ⟨hvalue.no_quote, hvalue.no_open, hvalue.no_close⟩

/-- An attribute with a known name and a quoted value. -/
structure Attribute.Sealed (vocabulary : Vocabulary) (attr : Attribute) : Prop where
  name_mem : attr.name ∈ vocabulary.attributes
  value : Quoted attr.value

/-- A token that can only be read back as what it is: a text without angle brackets, or a tag with
known names and quoted values. -/
def Token.Sealed (vocabulary : Vocabulary) : Token → Prop
  | text content => '<' ∉ content.toList ∧ '>' ∉ content.toList
  | opening name attributes =>
    name ∈ vocabulary.elements ∧ ∀ attr ∈ attributes, attr.Sealed vocabulary
  | closing name => name ∈ vocabulary.elements
  | single name attributes =>
    name ∈ vocabulary.singles ∧ ∀ attr ∈ attributes, attr.Sealed vocabulary

instance (vocabulary : Vocabulary) (attr : Attribute) : Decidable (attr.Sealed vocabulary) :=
  decidable_of_iff (attr.name ∈ vocabulary.attributes ∧ Quoted attr.value)
    ⟨fun ⟨name_mem, value⟩ => ⟨name_mem, value⟩, fun h => ⟨h.name_mem, h.value⟩⟩

instance (vocabulary : Vocabulary) : (token : Token) → Decidable (token.Sealed vocabulary)
  | .text _ => inferInstanceAs (Decidable (_ ∧ _))
  | .opening _ _ => inferInstanceAs (Decidable (_ ∧ _))
  | .closing _ => inferInstanceAs (Decidable (_ ∈ _))
  | .single _ _ => inferInstanceAs (Decidable (_ ∧ _))

end Folio.Html

namespace Folio.Markdown

open Html

/-- The elements and attributes that the markup of Markdown documents may have. -/
def markdownVocabulary : Vocabulary where
  elements := documentVocabulary.elements ++ ["table", "thead", "tbody", "tr", "th", "td", "del"]
  singles := documentVocabulary.singles ++ ["hr", "input"]
  attributes := documentVocabulary.attributes ++ ["style", "disabled", "type", "checked"]

/-- A safe token of a document tree is sealed. -/
theorem sealed_of_safe {token : Token} (htoken : token.Safe documentVocabulary) :
    token.Sealed markdownVocabulary := by
  have hattributes {attributes : List Attribute}
      (hsafe : SafeAttributes documentVocabulary attributes) :
      ∀ attr ∈ attributes, attr.Sealed markdownVocabulary :=
    fun attr hattr => ⟨List.mem_append_left _ (hsafe attr hattr).name_mem,
      (hsafe attr hattr).value.quoted⟩
  cases token with
  | text content => exact ⟨htoken.no_open, htoken.no_close⟩
  | opening name attributes => exact ⟨List.mem_append_left _ htoken.1, hattributes htoken.2⟩
  | closing name => exact List.mem_append_left _ htoken
  | single name attributes => exact ⟨List.mem_append_left _ htoken.1, hattributes htoken.2⟩

/-! ### Escaped strings -/

/-- Escaped text has no angle brackets. -/
theorem notMem_escapeText {special : Char} (hspecial : special ∈ ['<', '>']) (s : String) :
    special ∉ (escapeText s).toList := by
  have hchar (c : Char) : special ∉ escapeTextChar c := by
    simp only [List.mem_cons, List.not_mem_nil, or_false] at hspecial
    rcases hspecial with rfl | rfl <;> unfold escapeTextChar <;> split <;> simp_all [eq_comm]
  rw [escapeText, String.toList_ofList, List.mem_flatMap]
  rintro ⟨c, -, hc⟩
  exact hchar c hc

/-- A byte given by its digits has none of the characters that end a value or a tag. -/
theorem quoted_percentByte (b : UInt8) : ∀ c ∈ percentByte b, c ∉ ['"', '<', '>'] := by
  have hdigit : ∀ n < 16, upperHex n ∉ ['"', '<', '>'] := by decide
  have hb := b.toNat_lt
  rw [percentByte]
  refine List.forall_mem_cons.2 ⟨by decide, List.forall_mem_cons.2 ⟨hdigit _ (by omega),
    List.forall_mem_singleton.2 (hdigit _ (by omega))⟩⟩

/-- **An escaped address is quoted.** -/
theorem quoted_escapeAddress (s : String) : Quoted (escapeAddress s) := by
  have hchar (c : Char) : ∀ d ∈ addressChar c, d ∉ ['"', '<', '>'] := by
    unfold addressChar
    split
    · rename_i hplain
      refine List.forall_mem_singleton.2 fun hc => ?_
      simp only [List.mem_cons, List.not_mem_nil, or_false] at hc
      rcases hc with rfl | rfl | rfl <;> exact absurd hplain (by decide)
    · split
      · simp
      · split
        · simp
        · intro d hd
          obtain ⟨b, -, hb⟩ := List.mem_flatMap.1 hd
          exact quoted_percentByte b d hb
  have hnone {special : Char} (hspecial : special ∈ ['"', '<', '>']) :
      special ∉ (escapeAddress s).toList := by
    rw [escapeAddress, String.toList_ofList, List.mem_flatMap]
    rintro ⟨c, -, hc⟩
    exact hchar c special hc hspecial
  exact ⟨hnone (by decide), hnone (by decide), hnone (by decide)⟩

/-- What an event adds within an image is quoted. -/
theorem safeValue_alt (event : Event) : SafeValue event.alt := by
  cases event with
  | text | code | inlineHtml => exact safeValue_escape _
  | softBreak | hardBreak | rule => exact (by decide : SafeValue " ")
  | taskMarker checked =>
    rw [Event.alt]
    cases checked <;> decide
  | start | stop | html => exact (by decide : SafeValue "")

theorem safeValue_join {pieces : List String} (hpieces : ∀ piece ∈ pieces, SafeValue piece) :
    SafeValue (String.join pieces) := by
  induction pieces with
  | nil => decide
  | cons piece pieces ih =>
    obtain ⟨hpiece, hpieces⟩ := List.forall_mem_cons.1 hpieces
    rw [String.join_cons]
    exact hpiece.append (ih hpieces)

/-! ### Origins -/

/-- The markup that a document with certain events may consist of: what an event other than markup
adds by itself, the tag of an image, and the tokens of links, headings and code blocks. -/
inductive Origin (renderer : Renderer) (events : List Event) : Lexeme → Prop where
  /-- What a single event is replaced by adds this in some state of the output. -/
  | single {event : Event} {lexeme : Lexeme} (o : Output) (hevent : event ∈ events)
      (hlexeme : lexeme ∈ o.lexemes (event.typeset renderer)) : Origin renderer events lexeme
  | image {address title : String} {alts : List String}
      (hevent : .start (.image address title) ∈ events)
      (halts : ∀ alt ∈ alts, ∃ event ∈ events, alt = (event.typeset renderer).alt) :
      Origin renderer events
        (.token (.single "img" (pictureAttributes address (String.join alts) title)))
  | link {address title : String} {token : Token}
      (hevent : .start (.link address title) ∈ events)
      (htoken : token ∈ element "a" (linkAttributes address (some title)) []) :
      Origin renderer events (.token token)
  /-- The identifier is that of some text and number, in the form of the renderer. -/
  | heading {level : Nat} {token : Token} (text : String) (n : Nat)
      (hevent : .start (.heading level) ∈ events) (hlevel : level ∈ [1, 2, 3, 4, 5, 6])
      (htoken : token ∈ renderer.headingTokens level (renderer.idFormat text n) []) :
      Origin renderer events (.token token)
  | codeBlock {info : Option String} {texts : List String} {token : Token}
      (hevent : .start (.codeBlock info) ∈ events)
      (htexts : ∀ text ∈ texts, .text text ∈ events)
      (htoken : token ∈ codeBlockTokens (info.bind fenceLanguage) (String.join texts)) :
      Origin renderer events (.token token)

/-! ### The tokens of events are sealed -/

section Sealed

variable (o : Output)

theorem sealed_freshLine : ∀ token ∈ o.freshLine, token.Sealed markdownVocabulary := by
  unfold Output.freshLine
  cases o.lineEnded <;> decide

theorem listName_mem (start : Option Nat) : listName start ∈ documentVocabulary.elements := by
  unfold listName
  split <;> decide

theorem sealed_startTokens (tag : Tag) :
    ∀ token ∈ o.startTokens tag, token.Sealed markdownVocabulary := by
  cases tag with
  | paragraph | quote | item => exact List.forall_mem_append.2 ⟨sealed_freshLine o, by decide⟩
  | list start =>
    have hopening : (Token.opening (listName start) (startAttributes start)).Sealed
        markdownVocabulary := sealed_of_safe ⟨listName_mem start, safeAttributes_start start⟩
    exact List.forall_mem_append.2 ⟨sealed_freshLine o,
      List.forall_mem_cons.2 ⟨hopening, by decide⟩⟩
  | tableCell =>
    rw [Output.startTokens]
    cases o.head <;> cases o.columns[o.cell]?.getD .unset <;> decide
  | table | tableHead | tableRow | emphasis | strong | strikethrough | heading | codeBlock
  | htmlBlock | link | image =>
    rw [Output.startTokens]
    decide

theorem sealed_stopTokens (tag : Tag) :
    ∀ token ∈ o.stopTokens tag, token.Sealed markdownVocabulary := by
  cases tag with
  | list start =>
    have hclosing : (Token.closing (listName start)).Sealed markdownVocabulary :=
      sealed_of_safe (listName_mem start)
    exact List.forall_mem_cons.2 ⟨hclosing, by decide⟩
  | tableCell =>
    rw [Output.stopTokens]
    cases o.head <;> decide
  | _ =>
    rw [Output.stopTokens]
    decide

theorem sealed_lexemes (event : Event) :
    ∀ lexeme ∈ o.lexemes event, lexeme.toToken.Sealed markdownVocabulary := by
  have htokens {tokens : List Token} (h : ∀ token ∈ tokens, token.Sealed markdownVocabulary) :
      ∀ lexeme ∈ lexemesOf tokens, lexeme.toToken.Sealed markdownVocabulary :=
    List.forall_mem_map.2 h
  have htext (s : String) : (Token.text (escapeText s)).Sealed markdownVocabulary :=
    ⟨notMem_escapeText (by decide) s, notMem_escapeText (by decide) s⟩
  cases event with
  | start tag => exact htokens (sealed_startTokens o tag)
  | stop tag => exact htokens (sealed_stopTokens o tag)
  | text text => exact htokens (List.forall_mem_singleton.2 (htext text))
  | code text =>
    exact htokens (List.forall_mem_cons.2 ⟨by decide,
      List.forall_mem_cons.2 ⟨htext text, by decide⟩⟩)
  | softBreak | hardBreak => exact htokens (by decide)
  | rule => exact htokens (List.forall_mem_append.2 ⟨sealed_freshLine o, by decide⟩)
  | taskMarker checked => cases checked <;> (rw [Output.lexemes]; decide)
  | html | inlineHtml => exact fun _ hmem => absurd hmem List.not_mem_nil

end Sealed

/-- The tag of an image is sealed. -/
theorem sealed_picture (address title : String) {alt : String} (halt : SafeValue alt) :
    (Token.single "img" (pictureAttributes address alt title)).Sealed markdownVocabulary := by
  have hsrc : "src" ∈ markdownVocabulary.attributes := by decide
  have halts : "alt" ∈ markdownVocabulary.attributes := by decide
  refine ⟨by decide, List.forall_mem_cons.2 ⟨⟨hsrc, quoted_escapeAddress address⟩,
    List.forall_mem_cons.2 ⟨⟨halts, halt.quoted⟩, fun attr hattr => ?_⟩⟩⟩
  have hsafe := safeAttributes_title (some title) attr hattr
  exact ⟨List.mem_append_left _ hsafe.name_mem, hsafe.value.quoted⟩

/-- **Whatever the events say, the markup that comes from them is sealed.** -/
theorem Origin.isSealed {renderer : Renderer} {events : List Event} {lexeme : Lexeme}
    (horigin : Origin renderer events lexeme) : lexeme.toToken.Sealed markdownVocabulary := by
  cases horigin with
  | single o _ hlexeme => exact sealed_lexemes o _ lexeme hlexeme
  | @image address title alts _ halts =>
    refine sealed_picture address title (safeValue_join fun alt halt => ?_)
    obtain ⟨event, -, rfl⟩ := halts alt halt
    exact safeValue_alt _
  | @link address title token _ htoken =>
    have hlink : DocumentTokens (element "a" (linkAttributes address (some title)) []) :=
      .element (by decide) (safeAttributes_link _ _) .nil
    exact sealed_of_safe (hlink.safe token htoken)
  | @heading level token text n _ hlevel htoken =>
    exact sealed_of_safe
      ((documentTokens_heading renderer (renderer.idFormat text n) hlevel .nil).safe token htoken)
  | @codeBlock info texts token _ _ htoken =>
    exact sealed_of_safe ((documentTokens_codeBlock _ _).safe token htoken)

end Folio.Markdown
