import Folio.Markdown.Html
import Folio.Proofs.DocumentMarkup

/-!
# The markup of events as tokens

Events are written one after the other, so that the tags of an element come from two events with
others between them. What one event adds to the output outside images is described here by tokens;
the tokens depend on the state of the output only in the line end before a block and in the cells of
a table. Tokens that open or close elements are followed by their effect on the elements that are
open.

## Main definitions

* `Folio.Html.Moves`: what tokens do to the elements that are open.
* `Folio.Markdown.Lexeme`: a token, or the tag of a check box.
* `Folio.Markdown.Output.lexemes`: what an event adds outside images.
* `Folio.Markdown.Event.alt`: what an event adds within an image.

## Main results

* `Folio.Markdown.Output.text_writePlain`: an event adds the markup of its lexemes.
* `Folio.Markdown.Output.moves_start`, `Folio.Markdown.Output.moves_stop`: the two ends of what a
  tag encloses fit together.
-/

namespace Folio.Html

/-! ### What tokens do to open elements -/

/-- Tokens that turn some open elements into others, the innermost given first. -/
inductive Moves : List String → List String → List Token → Prop where
  | nil {names : List String} : Moves names names []
  | text {before after : List String} {content : String} {rest : List Token}
      (hrest : Moves before after rest) : Moves before after (.text content :: rest)
  | single {before after : List String} {name : String} {attributes : List Attribute}
      {rest : List Token} (hrest : Moves before after rest) :
      Moves before after (.single name attributes :: rest)
  | opening {before after : List String} {name : String} {attributes : List Attribute}
      {rest : List Token} (hrest : Moves (name :: before) after rest) :
      Moves before after (.opening name attributes :: rest)
  | closing {before after : List String} {name : String} {rest : List Token}
      (hrest : Moves before after rest) : Moves (name :: before) after (.closing name :: rest)

namespace Moves

variable {before between after : List String} {first rest tokens : List Token}

theorem append (hfirst : Moves before between first) (hrest : Moves between after rest) :
    Moves before after (first ++ rest) := by
  induction hfirst with
  | nil => exact hrest
  | text _ ih => exact (ih hrest).text
  | single _ ih => exact (ih hrest).single
  | opening _ ih => exact (ih hrest).opening
  | closing _ ih => exact (ih hrest).closing

/-- Elements that were open already stay open. -/
theorem frame (htokens : Moves before after tokens) (names : List String) :
    Moves (before ++ names) (after ++ names) tokens := by
  induction htokens with
  | nil => exact .nil
  | text _ ih => exact ih.text
  | single _ ih => exact ih.single
  | opening _ ih => exact ih.opening
  | closing _ ih => exact ih.closing

/-- Tokens that leave nothing open close exactly what was open. -/
theorem nests (htokens : Moves before [] tokens) : nests before tokens = true := by
  generalize hafter : [] = after at htokens
  induction htokens with
  | nil => rw [← hafter]; rfl
  | @text before _ _ _ _ ih => cases before <;> exact ih hafter
  | @single before _ _ _ _ _ ih => cases before <;> exact ih hafter
  | opening _ ih => exact ih hafter
  | closing _ ih => rw [Html.nests, beq_self_eq_true, Bool.true_and, ih hafter]

end Moves

end Folio.Html

namespace Folio.Markdown

open Html

/-! ### Lexemes -/

/-- A token of the markup of events. The tag of a check box ends without a space. -/
inductive Lexeme where
  | token (token : Token)
  | checkBox (checked : Bool)
  deriving DecidableEq, Repr

/-- The attributes of a check box. -/
def checkBoxAttributes (checked : Bool) : List Attribute :=
  ⟨"disabled", ""⟩ :: ⟨"type", "checkbox"⟩ :: if checked then [⟨"checked", ""⟩] else []

/-- The token that a lexeme is. -/
def Lexeme.toToken : Lexeme → Token
  | .token inner => inner
  | .checkBox checked => .single "input" (checkBoxAttributes checked)

/-- The markup of a lexeme. -/
def Lexeme.spell : Lexeme → String
  | .token inner => inner.spell
  | .checkBox checked => "<input" ++ spellAttributes (checkBoxAttributes checked) ++ "/>"

/-- The markup of lexemes. -/
def spellLexemes (lexemes : List Lexeme) : String :=
  String.join (lexemes.map Lexeme.spell)

/-- Tokens as lexemes. -/
def lexemesOf (tokens : List Token) : List Lexeme := tokens.map .token

theorem spellLexemes_append (first rest : List Lexeme) :
    spellLexemes (first ++ rest) = spellLexemes first ++ spellLexemes rest := by
  simp only [spellLexemes, List.map_append, String.join_append]

theorem spellLexemes_lexemesOf (tokens : List Token) :
    spellLexemes (lexemesOf tokens) = spell tokens := by
  simp only [spellLexemes, lexemesOf, List.map_map, spell]
  rfl

theorem map_toToken_lexemesOf (tokens : List Token) :
    (lexemesOf tokens).map Lexeme.toToken = tokens := by
  simp only [lexemesOf, List.map_map]
  exact List.map_id' tokens

/-! ### What an event adds -/

/-- Whether the start and the end of a tag are written as tags of their own. The markup of headings,
code blocks and links comes in place of their events, and an image is one tag. -/
def Tag.isWritten : Tag → Bool
  | .heading _ | .codeBlock _ | .link _ _ | .image _ _ => false
  | _ => true

/-- The element of a list. -/
def listName : Option Nat → String
  | none => "ul"
  | some _ => "ol"

/-- The style attribute of a cell. -/
def styleAttributes : Alignment → List Attribute
  | .unset => []
  | .left => [⟨"style", "text-align: left"⟩]
  | .center => [⟨"style", "text-align: center"⟩]
  | .right => [⟨"style", "text-align: right"⟩]

/-- The element of a cell, in the head of a table or below it. -/
def cellName (head : Bool) : String := if head then "th" else "td"

/-- What an event adds within an image: there is no markup in the value of an attribute. -/
def Event.alt : Event → String
  | .text content | .code content | .inlineHtml content => escape content
  | .softBreak | .hardBreak | .rule => " "
  | .taskMarker checked => if checked then "[x]" else "[ ]"
  | .start _ | .stop _ | .html _ => ""

/-- The attributes of an image. -/
def pictureAttributes (address alt title : String) : List Attribute :=
  ⟨"src", escapeAddress address⟩ :: ⟨"alt", alt⟩ :: titleAttributes (some title)

namespace Output

/-- The end of a line, unless the output has just ended one. -/
def freshLine (o : Output) : List Token := if o.lineEnded then [] else [newline]

/-- The tokens at the start of what a tag encloses. -/
def startTokens (o : Output) : Tag → List Token
  | .paragraph => o.freshLine ++ [.opening "p" []]
  | .quote => o.freshLine ++ [.opening "blockquote" [], newline]
  | .list start => o.freshLine ++ [.opening (listName start) (startAttributes start), newline]
  | .item => o.freshLine ++ [.opening "li" []]
  | .table _ => [.opening "table" []]
  | .tableHead => [.opening "thead" [], .opening "tr" []]
  | .tableRow => [.opening "tr" []]
  | .tableCell => [.opening (cellName o.head) (styleAttributes (o.columns[o.cell]?.getD .unset))]
  | .emphasis => [.opening "em" []]
  | .strong => [.opening "strong" []]
  | .strikethrough => [.opening "del" []]
  | .heading _ | .codeBlock _ | .htmlBlock | .link _ _ | .image _ _ => []

/-- The tokens at the end of what a tag encloses. -/
def stopTokens (o : Output) : Tag → List Token
  | .paragraph => [.closing "p", newline]
  | .quote => [.closing "blockquote", newline]
  | .list start => [.closing (listName start), newline]
  | .item => [.closing "li", newline]
  | .table _ => [.closing "tbody", .closing "table", newline]
  | .tableHead => [.closing "tr", .closing "thead", .opening "tbody" [], newline]
  | .tableRow => [.closing "tr", newline]
  | .tableCell => [.closing (cellName o.head)]
  | .emphasis => [.closing "em"]
  | .strong => [.closing "strong"]
  | .strikethrough => [.closing "del"]
  | .heading _ | .codeBlock _ | .htmlBlock | .link _ _ | .image _ _ => []

/-- What an event other than markup adds outside images. -/
def lexemes (o : Output) : Event → List Lexeme
  | .start tag => lexemesOf (o.startTokens tag)
  | .stop tag => lexemesOf (o.stopTokens tag)
  | .text text => lexemesOf [.text (escapeText text)]
  | .code text => lexemesOf (element "code" [] [.text (escapeText text)])
  | .softBreak => lexemesOf [newline]
  | .hardBreak => lexemesOf [.single "br" [], newline]
  | .rule => lexemesOf (o.freshLine ++ [.single "hr" [], newline])
  | .taskMarker checked => [.checkBox checked, .token newline]
  | .html _ | .inlineHtml _ => []

section Write

variable (o : Output)

theorem text_writeBlock (s : String) :
    (o.writeBlock s).text = o.text ++ (spell o.freshLine ++ s) := by
  unfold writeBlock freshLine
  cases o.lineEnded <;> simp [write, spell, newline, Token.spell]

theorem text_writeStart {tag : Tag} (htag : tag.isWritten = true) :
    (o.writeStart tag).text = o.text ++ spell (o.startTokens tag) := by
  cases tag with
  | heading | codeBlock | link | image => cases htag
  | paragraph | quote | item =>
    rw [startTokens, spell_append, writeStart, text_writeBlock]
    rfl
  | list start =>
    rw [startTokens, spell_append, ← List.singleton_append]
    cases start with
    | none => exact o.text_writeBlock _
    | some n =>
      have hopen : spell ([.opening "ol" (startAttributes (some n))] ++ [newline]) =
          if n = 1 then "<ol>\n" else "<ol start=\"" ++ toString n ++ "\">\n" := by
        rw [List.singleton_append, spell_startAttributes, orderedOpen]
        simp only [ne_eq, ite_not]
      rw [listName, hopen, writeStart, text_writeBlock]
  | htmlBlock => exact String.append_empty.symm
  | tableCell =>
    unfold writeStart startTokens
    cases o.columns[o.cell]?.getD .unset <;> cases o.head <;> rfl
  | table | tableHead | tableRow | emphasis | strong | strikethrough => rfl

theorem text_writeStop {tag : Tag} (htag : tag.isWritten = true) :
    (o.writeStop tag).text = o.text ++ spell (o.stopTokens tag) := by
  cases tag with
  | heading | codeBlock | link | image => cases htag
  | list start => cases start <;> rfl
  | htmlBlock => exact String.append_empty.symm
  | tableCell =>
    unfold writeStop stopTokens
    cases o.head <;> rfl
  | _ => rfl

theorem image_writeStart {tag : Tag} (htag : tag.isWritten = true) :
    (o.writeStart tag).image = o.image := by
  cases tag with
  | image => cases htag
  | list start => cases start <;> rfl
  | _ => rfl

theorem image_writeStop {tag : Tag} (htag : tag.isWritten = true) :
    (o.writeStop tag).image = o.image := by
  cases tag with
  | image => cases htag
  | list start => cases start <;> rfl
  | _ => rfl

/-- Only the head of a table changes what rows belong to. -/
theorem head_writeStart {tag : Tag} (htag : tag ≠ .tableHead) :
    (o.writeStart tag).head = o.head := by
  cases tag with
  | tableHead => exact absurd rfl htag
  | list start => cases start <;> rfl
  | _ => rfl

theorem head_writeStop {tag : Tag} (htag : tag ≠ .tableHead) :
    (o.writeStop tag).head = o.head := by
  cases tag with
  | tableHead => exact absurd rfl htag
  | list start => cases start <;> rfl
  | _ => rfl

end Write

end Output

/-! ### The two ends of what a tag encloses -/

/-- The elements that the start of a tag opens, the innermost first, in the head of a table or
elsewhere. -/
def Tag.opens (head : Bool) : Tag → List String
  | .paragraph => ["p"]
  | .quote => ["blockquote"]
  | .list start => [listName start]
  | .item => ["li"]
  | .table _ => ["table"]
  | .tableHead => ["tr", "thead"]
  | .tableRow => ["tr"]
  | .tableCell => [cellName head]
  | .emphasis => ["em"]
  | .strong => ["strong"]
  | .strikethrough => ["del"]
  | _ => []

/-- The elements that the end of a tag leaves open: below the head of a table its body starts. -/
def Tag.leaves : Tag → List String
  | .tableHead => ["tbody"]
  | _ => []

/-- The elements that are left open by what a tag encloses. -/
def Tag.holds : Tag → List String
  | .table _ => ["tbody"]
  | _ => []

namespace Output

variable (o : Output)

theorem moves_freshLine_append {before after : List String} {tokens : List Token}
    (htokens : Moves before after tokens) : Moves before after (o.freshLine ++ tokens) := by
  unfold freshLine
  cases o.lineEnded with
  | true => exact htokens
  | false => exact .text htokens

/-- The start of a tag opens its elements. -/
theorem moves_start (tag : Tag) : Moves [] (tag.opens o.head) (o.startTokens tag) := by
  cases tag with
  | paragraph | item => exact o.moves_freshLine_append (.opening .nil)
  | quote | list => exact o.moves_freshLine_append (.opening (.text .nil))
  | tableHead => exact .opening (.opening .nil)
  | table | tableRow | tableCell | emphasis | strong | strikethrough => exact .opening .nil
  | heading | codeBlock | htmlBlock | link | image => exact .nil

/-- The end of a tag closes what its start opened and what stands in it left open. -/
theorem moves_stop (tag : Tag) :
    Moves (tag.holds ++ tag.opens o.head) tag.leaves (o.stopTokens tag) := by
  cases tag with
  | paragraph | quote | list | item | tableRow => exact .closing (.text .nil)
  | table => exact .closing (.closing (.text .nil))
  | tableHead => exact .closing (.closing (.opening (.text .nil)))
  | tableCell | emphasis | strong | strikethrough => exact .closing .nil
  | heading | codeBlock | htmlBlock | link | image => exact .nil

end Output

/-! ### Single events -/

/-- Whether an event neither starts nor ends anything. -/
def Event.isLeaf : Event → Bool
  | .start _ | .stop _ => false
  | _ => true

/-- Whether an event is markup already. -/
def Event.isMarkup : Event → Bool
  | .html _ | .inlineHtml _ => true
  | _ => false

namespace Output

variable (o : Output)

section Leaf

variable {event : Event} (hleaf : event.isLeaf = true)

include hleaf

/-- **An event adds the markup of its lexemes** outside images, unless it is markup itself. -/
theorem text_writePlain (hmarkup : event.isMarkup = false) :
    (o.writePlain event).text = o.text ++ spellLexemes (o.lexemes event) := by
  cases event with
  | start | stop => cases hleaf
  | html | inlineHtml => cases hmarkup
  | code text =>
    rw [lexemes, spellLexemes_lexemesOf, spell_element, spell_singleton]
    rfl
  | text text =>
    rw [lexemes, spellLexemes_lexemesOf, spell_singleton]
    rfl
  | rule =>
    rw [lexemes, spellLexemes_lexemesOf, spell_append, writePlain, text_writeBlock]
    rfl
  | taskMarker checked => cases checked <;> rfl
  | softBreak | hardBreak => rfl

theorem image_writePlain : (o.writePlain event).image = o.image := by
  cases event with
  | start | stop => cases hleaf
  | taskMarker checked => cases checked <;> rfl
  | _ => rfl

theorem head_writePlain : (o.writePlain event).head = o.head := by
  cases event with
  | start | stop => cases hleaf
  | taskMarker checked => cases checked <;> rfl
  | _ => rfl

/-- What stands alone opens and closes nothing. -/
theorem moves_leaf (names : List String) :
    Moves names names ((o.lexemes event).map Lexeme.toToken) := by
  cases event with
  | start | stop => cases hleaf
  | html | inlineHtml => exact .nil
  | text | softBreak => exact .text .nil
  | code => exact .opening (.text (.closing .nil))
  | hardBreak => exact .single (.text .nil)
  | rule =>
    rw [lexemes, map_toToken_lexemesOf]
    exact o.moves_freshLine_append (.single (.text .nil))
  | taskMarker => exact .single (.text .nil)

/-- Within an image an event adds text. -/
theorem writeWithin_leaf (image : OpenImage) :
    ∃ ended : Bool, o.writeWithin image event =
      { o with text := o.text ++ event.alt, lineEnded := ended } := by
  cases event with
  | start | stop => cases hleaf
  | html => exact ⟨o.lineEnded, by simp [writeWithin, Event.alt]⟩
  | taskMarker checked => cases checked <;> exact ⟨_, rfl⟩
  | _ => exact ⟨_, rfl⟩

end Leaf

/-! ### Events one after the other -/

/-- Writes events one after the other. -/
def writeAll (o : Output) (events : List Event) : Output := events.foldl writeEvent o

theorem writeAll_append (first rest : List Event) :
    o.writeAll (first ++ rest) = (o.writeAll first).writeAll rest := List.foldl_append

theorem writeAll_cons (event : Event) (rest : List Event) :
    o.writeAll (event :: rest) = (o.writeEvent event).writeAll rest := rfl

variable {o}

theorem writeEvent_outside (himage : o.image = none) (event : Event) :
    o.writeEvent event = o.writePlain event := by
  rw [writeEvent, himage]

theorem writeEvent_within {image : OpenImage} (himage : o.image = some image) (event : Event) :
    o.writeEvent event = o.writeWithin image event := by
  rw [writeEvent, himage]

end Output

end Folio.Markdown
