import Folio.Proofs.ElementMarkup

/-!
# The attributes of an image

The tag of an image is read without a parser: the marker of a handler is cut out wherever it stands,
and the address is the value of the first attribute that is named like one. Attributes whose values
have no quotation mark survive both. The marker has quotation marks of its own, so that it would
have to be an attribute of the tag to be found, and it is none of those that were written.

## Main definitions

* `Folio.Html.Attribute.Plain`: attributes that can be read off the tag of an image.

## Main results

* `Folio.nowhere_zoomable`: the marker of a handler does not stand in written attributes.
* `Folio.cleanAttributes_spell`: the attributes are what is left of the tag of an image.
* `Folio.ImageElement.readable_of_plain`: an image with written attributes is read back.
-/

namespace Folio

open Text Html

variable {η : Type}

/-- An attribute that can be read off the tag of an image: it has a name of the usual kind, which
is not that of the marker of a handler, and its value stays between its quotation marks and in the
tag. -/
structure Html.Attribute.Plain (attr : Attribute) : Prop where
  name : ∀ c ∈ attr.name.toList, continuesAttribute c = true
  unmarked : attr.name ≠ "data-zoomable"
  no_quote : '"' ∉ attr.value.toList
  no_close : '>' ∉ attr.value.toList

/-- A character that no name of an attribute has. -/
theorem Html.Attribute.Plain.notMem_name {attr : Attribute} (hattr : attr.Plain) {c : Char}
    (hc : continuesAttribute c = false) : c ∉ attr.name.toList := by
  intro hmem
  rw [hattr.name c hmem] at hc
  cases hc

/-- An attribute whose value has neither quotation marks nor the end of a tag. -/
theorem Html.Attribute.Plain.of_value {name value : String}
    (hname : name.toList.all continuesAttribute = true) (hunmarked : name ≠ "data-zoomable")
    (hquote : '"' ∉ value.toList) (hclose : '>' ∉ value.toList) : Attribute.Plain ⟨name, value⟩ :=
  ⟨List.all_eq_true.1 hname, hunmarked, hquote, hclose⟩

/-- An attribute with an escaped value can be read off the tag. -/
theorem Html.Attribute.plain_escape {name : String}
    (hname : name.toList.all continuesAttribute = true) (hunmarked : name ≠ "data-zoomable")
    (s : String) : Attribute.Plain ⟨name, escape s⟩ :=
  .of_value hname hunmarked (safeValue_escape s).no_quote (safeValue_escape s).no_close

theorem toList_spell_attribute (attr : Attribute) :
    attr.spell.toList =
      ' ' :: (attr.name.toList ++ ("=\"".toList ++ (attr.value.toList ++ "\"".toList))) := by
  simp [Attribute.spell]

/-! ### The marker of a handler -/

theorem toList_zoomableMarker :
    zoomableMarker.toList =
      (' ' :: "data-zoomable=".toList) ++ '"' :: "true\"".toList := by
  decide

/-- Within a value the marker does not start: its first quotation mark would be the one that ends
the value, and it does not go on as what follows. -/
theorem nowhere_zoomable_value {value rest : List Char} (hvalue : '"' ∉ value)
    (hrest : rest.head? ≠ some 't') :
    Nowhere zoomableMarker.toList.IsPrefix value ('"' :: rest) := by
  induction value with
  | nil => trivial
  | cons c cs ih =>
    refine ⟨fun h => ?_, ih (List.not_mem_of_not_mem_cons hvalue)⟩
    obtain ⟨tail, htail⟩ := h
    rw [toList_zoomableMarker, List.append_assoc, List.cons_append, ← List.cons_append] at htail
    obtain ⟨-, hafter⟩ := append_cons_inj (by decide) hvalue htail
    exact hrest (hafter ▸ rfl)

theorem nowhere_zoomable_attribute {attr : Attribute} (hattr : attr.Plain) {rest : List Char}
    (hrest : rest.head? ≠ some 't') :
    Nowhere zoomableMarker.toList.IsPrefix attr.spell.toList rest := by
  have hspace {cs : List Char} (hcs : ' ' ∉ cs) (rest : List Char) :
      Nowhere zoomableMarker.toList.IsPrefix cs rest :=
    nowhere_of_notMem (by decide) hcs rest
  rw [toList_spell_attribute]
  refine ⟨fun h => ?_, ?_⟩
  · -- At the start of the attribute the marker would have its name.
    obtain ⟨tail, htail⟩ := h
    have hname : "data-zoomable".toList ++ '=' :: ("\"true\"".toList ++ tail) =
        attr.name.toList ++ '=' :: ('"' :: (attr.value.toList ++ "\"".toList) ++ rest) := by
      simpa [zoomableMarker] using htail
    obtain ⟨hsame, -⟩ := append_cons_inj (by decide) (hattr.notMem_name (by decide)) hname
    exact hattr.unmarked (String.toList_injective hsame.symm)
  · rw [nowhere_append, nowhere_append, nowhere_append]
    refine ⟨hspace (hattr.notMem_name (by decide)) _, hspace (by decide) _, ?_,
      hspace (by decide) _⟩
    exact nowhere_zoomable_value hattr.no_quote hrest

/-- **The marker does not stand in written attributes**, whatever their values are. -/
theorem nowhere_zoomable {attributes : List Attribute}
    (hattributes : ∀ attr ∈ attributes, attr.Plain) {rest : List Char}
    (hrest : rest.head? ≠ some 't') :
    Nowhere zoomableMarker.toList.IsPrefix (spellAttributes attributes).toList rest := by
  induction attributes with
  | nil => trivial
  | cons attr others ih =>
    obtain ⟨hattr, hothers⟩ := List.forall_mem_cons.1 hattributes
    have hspelled : (spellAttributes (attr :: others)).toList =
        attr.spell.toList ++ (spellAttributes others).toList := by
      simp [spellAttributes]
    rw [hspelled, nowhere_append]
    refine ⟨nowhere_zoomable_attribute hattr ?_, ih hothers⟩
    cases others with
    | nil => exact hrest
    | cons other others => simp [spellAttributes, Attribute.spell]

/-! ### What is left of the tag -/

theorem dropEnd_concat_of_pos {p : Char → Bool} {c : Char} (hc : p c = true) (cs : List Char) :
    dropEnd p (cs ++ [c]) = dropEnd p cs := by
  simp [dropEnd, hc]

theorem dropEnd_concat_of_neg {p : Char → Bool} {c : Char} (hc : p c = false) (cs : List Char) :
    dropEnd p (cs ++ [c]) = cs ++ [c] := by
  simp [dropEnd, hc]

/-- Written attributes end with a quotation mark. -/
theorem spellAttributes_concat {attributes : List Attribute} (hne : attributes ≠ []) :
    ∃ cs, (spellAttributes attributes).toList = cs ++ ['"'] := by
  obtain ⟨others, ⟨name, value⟩, rfl⟩ := List.eq_nil_or_concat attributes |>.resolve_left hne
  exact ⟨(spellAttributes others).toList ++ (" " ++ name ++ "=\"" ++ value).toList, by
    simp [spellAttributes, Attribute.spell]⟩

/-- **The attributes are what is left of the tag** of an image without the marker of a handler and
the slash. -/
theorem cleanAttributes_spell {attributes : List Attribute} (hne : attributes ≠ [])
    (hattributes : ∀ attr ∈ attributes, attr.Plain) {marker : String}
    (hmarker : marker ∈ ["", zoomableMarker]) :
    ImageElement.cleanAttributes (spellAttributes attributes ++ marker ++ " /").toList =
      (spellAttributes attributes).toList := by
  have hslash : replaceAll zoomableMarker.toList [] " /".toList = " /".toList := by decide
  have hunmarked : replaceAll zoomableMarker.toList []
      (spellAttributes attributes ++ marker ++ " /").toList =
        (spellAttributes attributes).toList ++ " /".toList := by
    rw [String.toList_append, String.toList_append, List.append_assoc]
    simp only [List.mem_cons, List.not_mem_nil, or_false] at hmarker
    rcases hmarker with rfl | rfl
    · rw [replaceAll_append [] (nowhere_zoomable hattributes (by decide))]
      exact congrArg _ hslash
    · rw [replaceAll_append [] (nowhere_zoomable hattributes (by decide)),
        replaceAll_word (by decide), hslash, List.nil_append]
  obtain ⟨cs, hcs⟩ := spellAttributes_concat hne
  have hspelled : (spellAttributes attributes).toList ++ " /".toList =
      cs ++ ['"'] ++ [' '] ++ ['/'] := by
    simp [hcs]
  rw [ImageElement.cleanAttributes, hunmarked, hspelled, hcs, dropEnd_concat_of_neg (by decide),
    dropEnd_concat_of_pos (by decide), dropEnd_concat_of_neg (by decide),
    dropEnd_concat_of_pos (by decide), dropEnd_concat_of_neg (by decide)]

/-! ### The address -/

/-- The first attribute is found where it is written. -/
theorem attributesFrom_spell {attr : Attribute} (hattr : attr.Plain) {first : Char}
    {name : List Char} (hname : attr.name.toList = first :: name)
    (hfirst : startsAttribute first = true) (others : List Attribute) :
    ∃ rest, attributesFrom 0 (spellAttributes (attr :: others)).toList =
      (attr.name.toList, attr.value.toList) :: rest := by
  have hstop : continuesAttribute '=' = false := by decide
  have hcontinues : ∀ c ∈ name, continuesAttribute c = true :=
    fun c hc => hattr.name c (hname ▸ List.mem_cons_of_mem _ hc)
  have hspelled : (spellAttributes (attr :: others)).toList = ' ' :: first ::
      (name ++ '=' :: '"' :: (attr.value.toList ++ ("\"".toList ++
        (spellAttributes others).toList))) := by
    simp [spellAttributes, Attribute.spell, hname]
  have htaken (after : List Char) : (name ++ '=' :: after).takeWhile continuesAttribute = name := by
    rw [List.takeWhile_append_of_pos hcontinues, List.takeWhile_cons_of_neg (by simp [hstop]),
      List.append_nil]
  have hvalue : splitAt? "\"".toList
      (attr.value.toList ++ ("\"".toList ++ (spellAttributes others).toList)) =
        some (attr.value.toList, (spellAttributes others).toList) :=
    splitAt?_append (nowhere_of_notMem (by decide) hattr.no_quote _)
  have hfound : attribute? (first :: (name ++ '=' :: '"' :: (attr.value.toList ++ ("\"".toList ++
      (spellAttributes others).toList)))) =
        some ((first :: name, attr.value.toList), (spellAttributes others).toList) := by
    have hdrop (after : List Char) : dropWord? ['=', '"'] ('=' :: '"' :: after) = some after :=
      dropWord?_eq_some.2 rfl
    simp only [attribute?, hfirst, ↓reduceIte, htaken, List.length_cons, List.drop_succ_cons,
      List.drop_left, hdrop, Option.bind_some]
    exact congrArg (Option.map _) hvalue
  have hspace : attribute? (' ' :: first :: (name ++ '=' :: '"' :: (attr.value.toList ++
      ("\"".toList ++ (spellAttributes others).toList)))) = none := rfl
  rw [hspelled, attributesFrom, hspace, attributesFrom, hfound, hname]
  exact ⟨_, rfl⟩

/-- **The address is the value of the first attribute** when that is written as one. -/
theorem imageSource_spell {value : String} (hattr : Attribute.Plain ⟨"src", value⟩)
    (others : List Attribute) :
    imageSource (spellAttributes (⟨"src", value⟩ :: others)).toList =
      String.ofList (unescapeChars value.toList) := by
  have hname : "src".toList = 's' :: ['r', 'c'] := by simp
  obtain ⟨rest, hrest⟩ := attributesFrom_spell hattr hname (by decide) others
  rw [imageSource, hrest, List.find?_cons]
  simp

/-- **An image with written attributes is read back**, with the address that they give. -/
theorem ImageElement.readable_of_plain {attributes : List Attribute} (hne : attributes ≠ [])
    (hattributes : ∀ attr ∈ attributes, attr.Plain) (onClick : Option η) :
    ImageElement.Readable
      { attributes := spellAttributes attributes
        source := imageSource (spellAttributes attributes).toList, onClick } := by
  have hclose : '>' ∉ (spellAttributes attributes).toList :=
    notMem_spellAttributes (by decide) fun attr hattr =>
      ⟨(hattributes attr hattr).notMem_name (by decide), (hattributes attr hattr).no_close⟩
  refine ⟨?_, hclose, fun marker => cleanAttributes_spell hne hattributes, rfl⟩
  have hspace : isWord ' ' = false := by decide +kernel
  obtain ⟨⟨name, value⟩, others, rfl⟩ := List.exists_cons_of_ne_nil hne
  simp [spellAttributes_cons, hspace]

/-- An image whose first attribute is an escaped address is read back with this address. -/
theorem ImageElement.readable_of_attributes {source : String} {others : List Attribute}
    (hothers : ∀ attr ∈ others, attr.Plain) (onClick : Option η) :
    ImageElement.Readable
      { attributes := spellAttributes (⟨"src", escape source⟩ :: others), source, onClick } := by
  have hfirst : Attribute.Plain ⟨"src", escape source⟩ :=
    Attribute.plain_escape (by decide) (by decide) source
  have hsource : imageSource (spellAttributes (⟨"src", escape source⟩ :: others)).toList =
      source := by
    rw [imageSource_spell hfirst, toList_escape, unescapeChars_escape, String.ofList_toList]
  have hreadable := readable_of_plain (List.cons_ne_nil _ _)
    (List.forall_mem_cons.2 ⟨hfirst, hothers⟩) onClick
  rwa [hsource] at hreadable

end Folio
