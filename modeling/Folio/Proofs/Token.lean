import Folio.Html.CodeBlock

/-!
# Markup as text and tags

A piece of markup is a sequence of tokens: text, opening tags, closing tags, and tags of elements
that have no content. A token is *safe* when it can only be read back as what it is: its text and
the values of its attributes have no angle bracket and no ampersand outside the entities listed
here, a value has no quotation mark either, and all names come from fixed lists. Tokens *nest* when
each closing tag closes the element that was opened last and none stays open.

## Main definitions

* `Folio.Html.Token`, `Folio.Html.spell`: tokens, and the markup that they spell.
* `Folio.Html.SafeText`, `Folio.Html.SafeValue`, `Folio.Html.Token.Safe`: safe tokens.
* `Folio.Html.nests`, `Folio.Html.Balanced`: nested tokens, alone and inside open elements.
* `Folio.Html.WellFormed`: tokens that are safe and balanced.
* `Folio.Html.element`: an element with its attributes and content.

## Main results

* `Folio.Html.safeValue_escape`: escaped text is safe, as text and as a value.
* `Folio.Html.WellFormed.element`: an element with well-formed content is well formed.
-/

namespace Folio.Html

/-- An attribute with its value as it stands between quotation marks. -/
structure Attribute where
  name : String
  value : String
  deriving DecidableEq, Repr

/-- A token of markup. -/
inductive Token where
  /-- Text, as it stands in the markup. -/
  | text (content : String)
  | opening (name : String) (attributes : List Attribute)
  | closing (name : String)
  /-- The tag of an element without content. -/
  | single (name : String) (attributes : List Attribute)
  deriving DecidableEq, Repr

/-- An attribute as it stands in a tag, its value in double quotation marks. -/
def Attribute.spell : Attribute → String
  | ⟨name, value⟩ => " " ++ name ++ "=\"" ++ value ++ "\""

/-- Attributes one after the other. -/
def spellAttributes (attributes : List Attribute) : String :=
  String.join (attributes.map Attribute.spell)

/-- The markup of a token. -/
def Token.spell : Token → String
  | text content => content
  | opening name attributes => "<" ++ name ++ spellAttributes attributes ++ ">"
  | closing name => "</" ++ name ++ ">"
  | single name attributes => "<" ++ name ++ spellAttributes attributes ++ " />"

/-- The markup of tokens. -/
def spell (tokens : List Token) : String :=
  String.join (tokens.map Token.spell)

theorem spellAttributes_cons (name value : String) (others : List Attribute) :
    (spellAttributes (⟨name, value⟩ :: others)).toList =
      (" " ++ name ++ "=\"").toList ++
        (value.toList ++ '"' :: (spellAttributes others).toList) := by
  simp [spellAttributes, Attribute.spell]

/-- A character that no name and no value has, and that is none of those around them, does not stand
in attributes. -/
theorem notMem_spellAttributes {c : Char} (hc : c ∉ [' ', '=', '"']) {attributes : List Attribute}
    (hattributes : ∀ attr ∈ attributes, c ∉ attr.name.toList ∧ c ∉ attr.value.toList) :
    c ∉ (spellAttributes attributes).toList := by
  rw [spellAttributes, String.toList_join, List.mem_flatMap]
  rintro ⟨spelled, hspelled, hmem⟩
  obtain ⟨attr, hattr, rfl⟩ := List.mem_map.1 hspelled
  obtain ⟨hname, hvalue⟩ := hattributes attr hattr
  simp only [List.mem_cons, List.not_mem_nil, or_false, not_or] at hc
  simp [Attribute.spell, hname, hvalue, hc] at hmem

theorem spell_nil : spell [] = "" := rfl

theorem spell_cons (token : Token) (tokens : List Token) :
    spell (token :: tokens) = token.spell ++ spell tokens := by
  rw [spell, List.map_cons, String.join_cons, spell]

theorem spell_singleton (token : Token) : spell [token] = token.spell := by
  rw [spell_cons, spell_nil, String.append_empty]

theorem spell_append (first rest : List Token) :
    spell (first ++ rest) = spell first ++ spell rest := by
  simp only [spell, List.map_append, String.join_append]

/-! ### Safe text -/

/-- The entities that stand for characters in markup. -/
def textEntities : List String := ["&amp;", "&lt;", "&gt;", "&quot;", "&#39;", "&nbsp;"]

/-- Whether every ampersand starts an entity. -/
def entitiesOnly : List Char → Bool
  | [] => true
  | c :: cs =>
    (c != '&' || textEntities.any fun entity => entity.toList.isPrefixOf (c :: cs)) &&
      entitiesOnly cs

/-- Text in which no tag starts or ends and every ampersand starts an entity. -/
structure SafeText (content : String) : Prop where
  no_open : '<' ∉ content.toList
  no_close : '>' ∉ content.toList
  entities : entitiesOnly content.toList = true

/-- Safe text that stays between quotation marks. -/
structure SafeValue (value : String) : Prop extends SafeText value where
  no_quote : '"' ∉ value.toList

instance (content : String) : Decidable (SafeText content) :=
  decidable_of_iff ('<' ∉ content.toList ∧ '>' ∉ content.toList ∧ entitiesOnly content.toList)
    ⟨fun ⟨no_open, no_close, entities⟩ => ⟨no_open, no_close, entities⟩,
      fun safe => ⟨safe.no_open, safe.no_close, safe.entities⟩⟩

instance (value : String) : Decidable (SafeValue value) :=
  decidable_of_iff (SafeText value ∧ '"' ∉ value.toList)
    ⟨fun ⟨safe, no_quote⟩ => ⟨safe, no_quote⟩, fun safe => ⟨safe.toSafeText, safe.no_quote⟩⟩

theorem entitiesOnly_append {cs ds : List Char} (hcs : entitiesOnly cs = true)
    (hds : entitiesOnly ds = true) : entitiesOnly (cs ++ ds) = true := by
  induction cs with
  | nil => exact hds
  | cons c cs ih =>
    simp only [entitiesOnly, Bool.and_eq_true, Bool.or_eq_true, List.any_eq_true,
      List.isPrefixOf_iff_prefix] at hcs
    obtain ⟨hc, hcs⟩ := hcs
    simp only [List.cons_append, entitiesOnly, Bool.and_eq_true, Bool.or_eq_true,
      List.any_eq_true, List.isPrefixOf_iff_prefix]
    refine ⟨hc.imp_right ?_, ih hcs⟩
    rintro ⟨entity, hentity, starts⟩
    exact ⟨entity, hentity, starts.trans (List.prefix_append (c :: cs) ds)⟩

theorem entitiesOnly_of_notMem {cs : List Char} (hcs : '&' ∉ cs) : entitiesOnly cs = true := by
  induction cs with
  | nil => rfl
  | cons c cs ih =>
    obtain ⟨hc, hrest⟩ := List.ne_and_not_mem_of_not_mem_cons hcs
    simp only [entitiesOnly, ih hrest, Bool.and_true, bne_iff_ne.2 (Ne.symm hc), Bool.true_or]

private theorem notMem_append {c : Char} {s t : String} (hs : c ∉ s.toList) (ht : c ∉ t.toList) :
    c ∉ (s ++ t).toList := by
  rw [String.toList_append, List.mem_append]
  exact not_or.2 ⟨hs, ht⟩

theorem SafeValue.append {s t : String} (hs : SafeValue s) (ht : SafeValue t) :
    SafeValue (s ++ t) where
  no_open := notMem_append hs.no_open ht.no_open
  no_close := notMem_append hs.no_close ht.no_close
  entities := by
    rw [String.toList_append]
    exact entitiesOnly_append hs.entities ht.entities
  no_quote := notMem_append hs.no_quote ht.no_quote

/-- No character of an escaped one can start or end a tag or a value. -/
theorem notMem_escapeChar {special : Char} (hspecial : special ∈ ['<', '>', '"']) (c : Char) :
    special ∉ escapeChar c := by
  simp only [List.mem_cons, List.not_mem_nil, or_false] at hspecial
  rcases hspecial with rfl | rfl | rfl <;> unfold escapeChar <;> split <;> simp_all [eq_comm]

theorem entitiesOnly_escapeChar (c : Char) : entitiesOnly (escapeChar c) = true := by
  unfold escapeChar
  split
  case h_6 hamp _ _ _ _ => exact entitiesOnly_of_notMem (by simpa [eq_comm] using hamp)
  all_goals decide

/-- **Escaped text is safe**, as text and as the value of an attribute. -/
theorem safeValue_escape (s : String) : SafeValue (escape s) := by
  have notMem {special : Char} (hspecial : special ∈ ['<', '>', '"']) :
      special ∉ (escape s).toList := by
    rw [toList_escape, List.mem_flatMap]
    rintro ⟨c, _, hc⟩
    exact notMem_escapeChar hspecial c hc
  have entities : entitiesOnly (s.toList.flatMap escapeChar) = true := by
    induction s.toList with
    | nil => rfl
    | cons c cs ih => exact entitiesOnly_append (entitiesOnly_escapeChar c) ih
  exact ⟨⟨notMem (by decide), notMem (by decide), by rwa [toList_escape]⟩, notMem (by decide)⟩

theorem safeText_escape (s : String) : SafeText (escape s) := (safeValue_escape s).toSafeText

/-- Letters and digits are safe. -/
theorem safeValue_of_alphanum {s : String} (hs : s.toList.all Char.isAlphanum = true) :
    SafeValue s := by
  have notMem {c : Char} (hc : c.isAlphanum = false) : c ∉ s.toList := by
    intro hmem
    rw [List.all_eq_true.1 hs c hmem] at hc
    exact absurd hc (by decide)
  exact ⟨⟨notMem rfl, notMem rfl, entitiesOnly_of_notMem (notMem rfl)⟩, notMem rfl⟩

theorem safeValue_toString (n : Nat) : SafeValue (toString n) := by
  apply safeValue_of_alphanum
  rw [Nat.toString_eq_repr, Nat.toList_repr, List.all_eq_true]
  intro c hmem
  simp only [Char.isAlphanum, Nat.isDigit_of_mem_toDigits (by decide) (by decide) hmem,
    Bool.or_true]

/-- Whatever language is asked for, its tag is a known one. -/
theorem languageTag_mem (language : Option String) : languageTag language ∈ knownLanguages := by
  unfold languageTag
  split
  · decide
  · dsimp only
    split
    case isTrue h => simpa using h
    case isFalse => decide

/-- The tags of languages have letters and digits only. -/
theorem safeValue_languageTag (language : Option String) : SafeValue (languageTag language) := by
  have alphanum : ∀ tag ∈ knownLanguages, tag.toList.all Char.isAlphanum = true := by decide
  exact safeValue_of_alphanum (alphanum _ (languageTag_mem language))

/-! ### Safe tokens -/

/-- The names that markup may use. -/
structure Vocabulary where
  /-- The elements that have content. -/
  elements : List String
  /-- The elements without content. -/
  singles : List String
  /-- The attributes. -/
  attributes : List String
  deriving Repr

/-- An attribute of the vocabulary with a safe value. -/
structure Attribute.Safe (vocabulary : Vocabulary) (attr : Attribute) : Prop where
  name_mem : attr.name ∈ vocabulary.attributes
  value : SafeValue attr.value

/-- Attributes that are all safe. -/
def SafeAttributes (vocabulary : Vocabulary) (attributes : List Attribute) : Prop :=
  ∀ attr ∈ attributes, attr.Safe vocabulary

/-- A token that can only be read back as what it is. -/
def Token.Safe (vocabulary : Vocabulary) : Token → Prop
  | text content => SafeText content
  | opening name attributes =>
    name ∈ vocabulary.elements ∧ SafeAttributes vocabulary attributes
  | closing name => name ∈ vocabulary.elements
  | single name attributes =>
    name ∈ vocabulary.singles ∧ SafeAttributes vocabulary attributes

section SafeAttributes

variable {vocabulary : Vocabulary}

theorem safeAttributes_nil : SafeAttributes vocabulary [] :=
  fun _ hmem => absurd hmem List.not_mem_nil

theorem SafeAttributes.cons {name value : String} {rest : List Attribute}
    (hname : name ∈ vocabulary.attributes) (hvalue : SafeValue value)
    (hrest : SafeAttributes vocabulary rest) :
    SafeAttributes vocabulary (⟨name, value⟩ :: rest) :=
  List.forall_mem_cons.2 ⟨⟨hname, hvalue⟩, hrest⟩

theorem SafeAttributes.append {first rest : List Attribute}
    (hfirst : SafeAttributes vocabulary first) (hrest : SafeAttributes vocabulary rest) :
    SafeAttributes vocabulary (first ++ rest) :=
  List.forall_mem_append.2 ⟨hfirst, hrest⟩

end SafeAttributes

/-- An element with its content. -/
def element (name : String) (attributes : List Attribute) (content : List Token) : List Token :=
  .opening name attributes :: content ++ [.closing name]

theorem spell_element (name : String) (attributes : List Attribute) (content : List Token) :
    spell (element name attributes content) =
      (Token.opening name attributes).spell ++ spell content ++ (Token.closing name).spell := by
  rw [element, spell_append, spell_cons, spell_singleton]

/-! ### Nesting -/

/-- Whether tokens close exactly the elements that are open, the innermost given first, and those
that they open themselves, each by its own name. -/
def nests : List String → List Token → Bool
  | opened, [] => opened.isEmpty
  | opened, .opening name _ :: rest => nests (name :: opened) rest
  | [], .closing _ :: _ => false
  | last :: opened, .closing name :: rest => last == name && nests opened rest
  | opened, .text _ :: rest => nests opened rest
  | opened, .single _ _ :: rest => nests opened rest

/-- Tokens that can stand inside any open elements without a change to what is open. -/
def Balanced (tokens : List Token) : Prop :=
  ∀ opened rest, nests opened (tokens ++ rest) = nests opened rest

theorem Balanced.nests {tokens : List Token} (balanced : Balanced tokens) :
    nests [] tokens = true := by
  have := balanced [] []
  rwa [List.append_nil] at this

theorem balanced_nil : Balanced [] := fun _ _ => rfl

theorem balanced_text (content : String) : Balanced [.text content] := by
  intro opened rest
  cases opened <;> rfl

theorem balanced_single (name : String) (attributes : List Attribute) :
    Balanced [.single name attributes] := by
  intro opened rest
  cases opened <;> rfl

theorem Balanced.append {first rest : List Token} (hfirst : Balanced first)
    (hrest : Balanced rest) : Balanced (first ++ rest) := by
  intro opened others
  rw [List.append_assoc, hfirst, hrest]

/-- **An element with balanced content is balanced.** -/
theorem Balanced.element {content : List Token} (hcontent : Balanced content) (name : String)
    (attributes : List Attribute) : Balanced (element name attributes content) := by
  intro opened rest
  calc Html.nests opened (Html.element name attributes content ++ rest)
      = Html.nests (name :: opened) (content ++ ([.closing name] ++ rest)) := by
        rw [Html.element, List.append_assoc, List.cons_append, Html.nests]
    _ = Html.nests (name :: opened) ([.closing name] ++ rest) := hcontent _ _
    _ = Html.nests opened rest := by
        rw [List.singleton_append, Html.nests, beq_self_eq_true, Bool.true_and]

/-! ### Well-formed markup -/

/-- Tokens that are safe and balanced. -/
structure WellFormed (vocabulary : Vocabulary) (tokens : List Token) : Prop where
  safe : ∀ token ∈ tokens, token.Safe vocabulary
  balanced : Balanced tokens

namespace WellFormed

variable {vocabulary : Vocabulary}

theorem nil : WellFormed vocabulary [] :=
  ⟨fun _ hmem => absurd hmem List.not_mem_nil, balanced_nil⟩

theorem text {content : String} (hcontent : SafeText content) :
    WellFormed vocabulary [.text content] := by
  refine ⟨?_, balanced_text content⟩
  intro token hmem
  rwa [List.mem_singleton.1 hmem]

theorem single {name : String} {attributes : List Attribute} (hname : name ∈ vocabulary.singles)
    (hattributes : SafeAttributes vocabulary attributes) :
    WellFormed vocabulary [.single name attributes] := by
  refine ⟨?_, balanced_single name attributes⟩
  intro token hmem
  rw [List.mem_singleton.1 hmem]
  exact ⟨hname, hattributes⟩

theorem append {first rest : List Token} (hfirst : WellFormed vocabulary first)
    (hrest : WellFormed vocabulary rest) : WellFormed vocabulary (first ++ rest) := by
  refine ⟨?_, hfirst.balanced.append hrest.balanced⟩
  intro token hmem
  exact (List.mem_append.1 hmem).elim (hfirst.safe token) (hrest.safe token)

theorem element {name : String} {attributes : List Attribute} {content : List Token}
    (hname : name ∈ vocabulary.elements) (hattributes : SafeAttributes vocabulary attributes)
    (hcontent : WellFormed vocabulary content) :
    WellFormed vocabulary (element name attributes content) := by
  refine ⟨?_, hcontent.balanced.element name attributes⟩
  intro token hmem
  simp only [Html.element, List.cons_append, List.mem_cons, List.mem_append, List.not_mem_nil,
    or_false] at hmem
  rcases hmem with rfl | hmem | rfl
  · exact ⟨hname, hattributes⟩
  · exact hcontent.safe token hmem
  · exact hname

end WellFormed

end Folio.Html
