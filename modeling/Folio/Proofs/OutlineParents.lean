import Folio.Proofs.Outline

/-!
# What stands below what in an outline

A heading stands below the latest heading before it whose level is lower. While an outline is built
the open entries are the headings that no later one has closed: those with only higher levels after
them. Seen from the innermost outwards their levels fall, so a new heading closes those whose level
is not lower and finds, in the first that stays open, the latest heading of a lower level.
Completing an entry puts it where it stood already, below the entry that was open around it.

## Main definitions

* `Folio.parentsAll`: for each heading of several entries, the position of the one it stands below.
* `Folio.NearestLower`: the latest position with a lower level before a position.
* `Folio.Nest.path`: the positions and levels of the open entries.

## Main results

* `Folio.Nest.Settled.add`: a new heading is put below the latest one of a lower level.
* `Folio.outline_nests`: so is every heading of an outline.
-/

namespace Folio

/-! ### Positions in document order -/

mutual

/-- For an entry at a position and for those below it, the position of the entry that each stands
below. -/
def Entry.parents (parent : Option Nat) (start : Nat) : Entry → List (Option Nat)
  | ⟨_, children⟩ => parent :: parentsAll (some start) (start + 1) children

/-- The same for several entries that stand below the same one, the first of them at a position. -/
def parentsAll (parent : Option Nat) (start : Nat) : List Entry → List (Option Nat)
  | [] => []
  | entry :: rest =>
    entry.parents parent start ++ parentsAll parent (start + entry.flatten.length) rest

end

mutual

theorem Entry.length_parents (parent : Option Nat) (start : Nat) :
    (entry : Entry) → (entry.parents parent start).length = entry.flatten.length
  | ⟨_, children⟩ => by
    rw [Entry.parents, Entry.flatten, List.length_cons, List.length_cons, length_parentsAll]

theorem length_parentsAll (parent : Option Nat) (start : Nat) :
    (entries : List Entry) → (parentsAll parent start entries).length = (flattenAll entries).length
  | [] => by rw [parentsAll, flattenAll, List.length_nil, List.length_nil]
  | entry :: rest => by
    rw [parentsAll, flattenAll, List.length_append, List.length_append, entry.length_parents,
      length_parentsAll]

end

theorem parentsAll_append (parent : Option Nat) (start : Nat) (first rest : List Entry) :
    parentsAll parent start (first ++ rest) =
      parentsAll parent start first ++
        parentsAll parent (start + (flattenAll first).length) rest := by
  induction first generalizing start with
  | nil => simp only [List.nil_append, parentsAll, flattenAll, List.length_nil, Nat.add_zero]
  | cons entry first ih =>
    simp only [List.cons_append, parentsAll, flattenAll, ih, List.append_assoc, List.length_append,
      Nat.add_assoc]

theorem parentsAll_singleton (parent : Option Nat) (start : Nat) (entry : Entry) :
    parentsAll parent start [entry] = entry.parents parent start := by
  simp only [parentsAll, List.append_nil]

/-- An entry that gets one more entry below it. -/
theorem Entry.parents_addChild (above : Option Nat) (start : Nat) (parent entry : Entry) :
    Entry.parents above start { parent with children := parent.children ++ [entry] } =
      parent.parents above start ++
        entry.parents (some start) (start + parent.flatten.length) := by
  cases parent
  simp only [Entry.parents, Entry.flatten, parentsAll_append, parentsAll_singleton,
    List.cons_append, List.length_cons, Nat.add_right_comm, Nat.add_assoc]

/-! ### The latest lower level -/

/-- The latest position before `i` with a level lower than the one given; none when there is no such
position. -/
def NearestLower (headings : List Heading) (i level : Nat) : Option Nat → Prop
  | some j => j < i ∧ (∃ heading, headings[j]? = some heading ∧ heading.level < level) ∧
      ∀ k heading, j < k → k < i → headings[k]? = some heading → level ≤ heading.level
  | none => ∀ k heading, k < i → headings[k]? = some heading → level ≤ heading.level

namespace NearestLower

variable {headings : List Heading} {i level : Nat} {parent other : Option Nat}

/-- There is at most one such position. -/
theorem unique (h : NearestLower headings i level parent)
    (hother : NearestLower headings i level other) : parent = other := by
  match parent, other, h, hother with
  | none, none, _, _ => rfl
  | some j, none, ⟨hji, ⟨heading, hj, hlower⟩, _⟩, hnone =>
    exact absurd hlower (Nat.not_lt.2 (hnone j heading hji hj))
  | none, some j, hnone, ⟨hji, ⟨heading, hj, hlower⟩, _⟩ =>
    exact absurd hlower (Nat.not_lt.2 (hnone j heading hji hj))
  | some j, some k, ⟨hji, ⟨heading, hj, hjlower⟩, hjlast⟩,
      ⟨hki, ⟨heading', hk, hklower⟩, hklast⟩ =>
    have hkj : ¬ j < k := fun hlt => absurd hklower (Nat.not_lt.2 (hjlast k heading' hlt hki hk))
    have hjk : ¬ k < j := fun hlt => absurd hjlower (Nat.not_lt.2 (hklast j heading hlt hji hj))
    rw [Nat.le_antisymm (Nat.not_lt.1 hjk) (Nat.not_lt.1 hkj)]

/-- What comes at the position or after it does not matter. -/
theorem append (hi : i ≤ headings.length) (rest : List Heading)
    (h : NearestLower headings i level parent) :
    NearestLower (headings ++ rest) i level parent := by
  have hsame : ∀ k, k < i → (headings ++ rest)[k]? = headings[k]? := fun k hk =>
    List.getElem?_append_left (Nat.lt_of_lt_of_le hk hi)
  match parent, h with
  | none, hnone => exact fun k heading hk hget => hnone k heading hk (hsame k hk ▸ hget)
  | some j, ⟨hji, ⟨heading, hj, hlower⟩, hlast⟩ =>
    exact ⟨hji, ⟨heading, (hsame j hji).trans hj, hlower⟩,
      fun k heading' hjk hki hget => hlast k heading' hjk hki (hsame k hki ▸ hget)⟩

end NearestLower

/-- Of the positions with a lower level there is a latest one. -/
theorem exists_latest_lower {headings : List Heading} {level k : Nat} {heading : Heading}
    (hget : headings[k]? = some heading) (hlower : heading.level < level) :
    ∃ j found, k ≤ j ∧ headings[j]? = some found ∧ found.level < level ∧
      ∀ k' later, j < k' → headings[k']? = some later → level ≤ later.level := by
  by_cases hmore : ∃ k' later, k < k' ∧ headings[k']? = some later ∧ later.level < level
  · obtain ⟨k', later, hk, hget', hlower'⟩ := hmore
    have hlt := (List.getElem?_eq_some_iff.1 hget').1
    obtain ⟨j, found, hj, hrest⟩ := exists_latest_lower hget' hlower'
    exact ⟨j, found, Nat.le_of_lt (Nat.lt_of_lt_of_le hk hj), hrest⟩
  · refine ⟨k, heading, Nat.le_refl k, hget, hlower, fun k' later hk hlater => ?_⟩
    exact Nat.not_lt.1 fun hlt => hmore ⟨k', later, hk, hlater, hlt⟩
termination_by headings.length - k

/-! ### An outline under construction -/

namespace Nest

/-- The positions and levels of open entries, where the first heading of the outermost one has the
position `base`. -/
def pathFrom (base : Nat) : List Entry → List (Nat × Nat)
  | [] => []
  | entry :: rest => (base + (flattenAll rest).length, entry.heading.level) :: pathFrom base rest

/-- What is left of a path when the entries of no lower level than the one given are taken off, from
the innermost on. -/
def lowerThan (level : Nat) (path : List (Nat × Nat)) : List (Nat × Nat) :=
  path.dropWhile fun step => decide (level ≤ step.2)

theorem lowerThan_cons_of_le {level : Nat} {step : Nat × Nat} (h : level ≤ step.2)
    (rest : List (Nat × Nat)) : lowerThan level (step :: rest) = lowerThan level rest :=
  List.dropWhile_cons_of_pos (decide_eq_true h)

theorem lowerThan_cons_of_lt {level : Nat} {step : Nat × Nat} (h : ¬ level ≤ step.2)
    (rest : List (Nat × Nat)) : lowerThan level (step :: rest) = step :: rest :=
  List.dropWhile_cons_of_neg (by rwa [decide_eq_true_iff])

theorem lowerThan_sublist (level : Nat) (path : List (Nat × Nat)) :
    (lowerThan level path).Sublist path :=
  List.dropWhile_sublist _

/-- The position of the innermost of some open entries. -/
def innermost (base : Nat) (opened : List Entry) : Option Nat :=
  (pathFrom base opened).head?.map Prod.fst

/-- For each heading in open entries, the position of the one it stands below. -/
def openParents (base : Nat) : List Entry → List (Option Nat)
  | [] => []
  | entry :: rest =>
    openParents base rest ++ entry.parents (innermost base rest) (base + (flattenAll rest).length)

/-- The positions and levels of the open entries, innermost first. -/
def path (nest : Nest) : List (Nat × Nat) :=
  pathFrom (flattenAll nest.roots).length nest.opened

/-- For each heading, the position of the one it stands below. -/
def parents (nest : Nest) : List (Option Nat) :=
  parentsAll none 0 nest.roots ++ openParents (flattenAll nest.roots).length nest.opened

theorem length_flattenAll_reverse (entries : List Entry) :
    (flattenAll entries.reverse).length = (flattenAll entries).length := by
  induction entries with
  | nil => rfl
  | cons entry entries ih =>
    rw [List.reverse_cons, flattenAll_append, flattenAll_singleton, flattenAll, List.length_append,
      List.length_append, ih, Nat.add_comm]

theorem length_openParents (base : Nat) (opened : List Entry) :
    (openParents base opened).length = (flattenAll opened).length := by
  induction opened with
  | nil => rfl
  | cons entry opened ih =>
    rw [openParents, flattenAll, List.length_append, List.length_append, ih, entry.length_parents,
      Nat.add_comm]

theorem length_parents (nest : Nest) : nest.parents.length = nest.headings.length := by
  rw [parents, headings, List.length_append, List.length_append, length_parentsAll,
    length_openParents, length_flattenAll_reverse]

/-! ### Completing an entry -/

/-- Completing an entry leaves every heading below the one it stood below. -/
theorem parents_close (entry : Entry) (rest roots : List Entry) :
    (close (entry :: rest) roots).parents = parents ⟨entry :: rest, roots⟩ := by
  cases rest with
  | nil =>
    simp only [close, parents, openParents, innermost, pathFrom, parentsAll_append,
      parentsAll_singleton, flattenAll, List.head?_nil, Option.map_none, List.length_nil,
      Nat.zero_add, Nat.add_zero, List.nil_append, List.append_nil]
  | cons parent rest =>
    simp only [close, parents, openParents, innermost, pathFrom, flattenAll, List.head?_cons,
      Option.map_some, Entry.parents_addChild, List.append_assoc, List.length_append]
    rw [Nat.add_assoc, Nat.add_comm parent.flatten.length]

/-- Completing an entry takes it off the path. -/
theorem path_close (entry : Entry) (rest roots : List Entry) :
    (close (entry :: rest) roots).path = (path ⟨entry :: rest, roots⟩).tail := by
  cases rest with
  | nil => rfl
  | cons parent rest => rfl

theorem parents_closeTo (level : Nat) (nest : Nest) :
    (nest.closeTo level).parents = nest.parents := by
  induction nest using closeTo.induct level with
  | case1 roots => rw [closeTo]
  | case2 entry rest roots hlevel ih => rw [closeTo, if_pos hlevel, ih, parents_close]
  | case3 entry rest roots hlevel => rw [closeTo, if_neg hlevel]

/-- Closing to a level takes the entries of no lower level off the path, from the innermost on. -/
theorem path_closeTo (level : Nat) (nest : Nest) :
    (nest.closeTo level).path = lowerThan level nest.path := by
  induction nest using closeTo.induct level with
  | case1 roots =>
    rw [closeTo]
    rfl
  | case2 entry rest roots hlevel ih =>
    rw [closeTo, if_pos hlevel, ih, path_close, path, pathFrom, List.tail_cons]
    exact (lowerThan_cons_of_le hlevel _).symm
  | case3 entry rest roots hlevel =>
    rw [closeTo, if_neg hlevel, path, pathFrom]
    exact (lowerThan_cons_of_lt hlevel _).symm

/-! ### Adding a heading -/

theorem parents_add (nest : Nest) (heading : Heading) :
    (nest.add heading).parents =
      nest.parents ++ [(nest.closeTo heading.level).path.head?.map Prod.fst] := by
  rw [← parents_closeTo heading.level nest]
  simp only [add, parents, openParents, innermost, path, Entry.parents, parentsAll,
    List.append_assoc]

theorem path_add (nest : Nest) (heading : Heading) :
    (nest.add heading).path =
      (nest.headings.length, heading.level) :: lowerThan heading.level nest.path := by
  rw [← path_closeTo, ← headings_closeTo heading.level nest]
  simp only [add, path, pathFrom, headings, List.length_append, length_flattenAll_reverse]

/-! ### What the open entries are -/

/-- The headings with only higher levels after them, the latest first, with their levels. -/
structure Opens (headings : List Heading) (path : List (Nat × Nat)) : Prop where
  /-- Which headings these are. -/
  mem_iff : ∀ step, step ∈ path ↔ ∃ heading, headings[step.1]? = some heading ∧
    heading.level = step.2 ∧
      ∀ k later, step.1 < k → headings[k]? = some later → step.2 < later.level
  /-- The latest comes first. -/
  latest_first : path.Pairwise fun step outer => outer.1 < step.1

namespace Opens

variable {headings : List Heading} {path : List (Nat × Nat)}

/-- Outwards the levels fall. -/
theorem levels_fall (h : Opens headings path) :
    path.Pairwise fun step outer => outer.2 < step.2 := by
  refine h.latest_first.imp_of_mem fun {step outer} hstep houter hlt => ?_
  obtain ⟨heading, hget, hlevel, -⟩ := (h.mem_iff step).1 hstep
  obtain ⟨-, -, -, hafter⟩ := (h.mem_iff outer).1 houter
  exact hlevel ▸ hafter step.1 heading hlt hget

/-- All that is left of the path has a lower level, and all of it that has a lower level is left. -/
theorem mem_lowerThan (h : Opens headings path) (level : Nat) (step : Nat × Nat) :
    step ∈ lowerThan level path ↔ step ∈ path ∧ step.2 < level := by
  have hfall := h.levels_fall
  clear h
  induction path with
  | nil => exact ⟨fun hmem => absurd hmem List.not_mem_nil, fun hmem => hmem.1⟩
  | cons first rest ih =>
    obtain ⟨hfirst, hrest⟩ := List.pairwise_cons.1 hfall
    by_cases hlevel : level ≤ first.2
    · rw [lowerThan_cons_of_le hlevel, List.mem_cons]
      refine (ih hrest).trans ⟨?_, ?_⟩
      · exact fun ⟨hmem, hlt⟩ => ⟨.inr hmem, hlt⟩
      · rintro ⟨rfl | hmem, hlt⟩
        · exact absurd hlt (Nat.not_lt.2 hlevel)
        · exact ⟨hmem, hlt⟩
    · rw [lowerThan_cons_of_lt hlevel]
      constructor
      · intro hmem
        refine ⟨hmem, ?_⟩
        rcases List.mem_cons.1 hmem with rfl | hmem
        · exact Nat.lt_of_not_le hlevel
        · exact Nat.lt_trans (hfirst step hmem) (Nat.lt_of_not_le hlevel)
      · exact fun ⟨hmem, _⟩ => hmem

/-- When nothing on the path that has a lower level stands at a position or after it, neither does
any heading of a lower level. -/
theorem le_level (h : Opens headings path) {level bound : Nat}
    (hbound : ∀ step ∈ lowerThan level path, step.1 < bound) {k : Nat} {heading : Heading}
    (hk : bound ≤ k) (hget : headings[k]? = some heading) : level ≤ heading.level := by
  refine Nat.not_lt.1 fun hlower => ?_
  obtain ⟨j, found, hkj, hfound, hfoundLower, hafter⟩ := exists_latest_lower hget hlower
  have hon : (j, found.level) ∈ path := (h.mem_iff _).2 ⟨found, hfound, rfl,
    fun k' later hj hlater => Nat.lt_of_lt_of_le hfoundLower (hafter k' later hj hlater)⟩
  have hlt := hbound _ ((h.mem_lowerThan level _).2 ⟨hon, hfoundLower⟩)
  exact absurd (Nat.le_trans hk hkj) (Nat.not_le.2 hlt)

/-- The innermost entry of a lower level is the latest heading of a lower level. -/
theorem nearestLower (h : Opens headings path) (level : Nat) :
    NearestLower headings headings.length level ((lowerThan level path).head?.map Prod.fst) := by
  cases hlow : lowerThan level path with
  | nil =>
    have hbound : ∀ step ∈ lowerThan level path, step.1 < 0 := hlow ▸ List.forall_mem_nil _
    exact fun k heading _ hget => h.le_level hbound (Nat.zero_le k) hget
  | cons first rest =>
    have hmem : first ∈ lowerThan level path := hlow ▸ List.mem_cons_self
    obtain ⟨hon, hlower⟩ := (h.mem_lowerThan level first).1 hmem
    obtain ⟨heading, hget, hlevel, -⟩ := (h.mem_iff first).1 hon
    have hsorted := h.latest_first.sublist (lowerThan_sublist level path)
    rw [hlow] at hsorted
    obtain ⟨hfirst, -⟩ := List.pairwise_cons.1 hsorted
    have hbound : ∀ step ∈ lowerThan level path, step.1 < first.1 + 1 := by
      rw [hlow]
      refine List.forall_mem_cons.2 ⟨Nat.lt_succ_self _, fun step hstep => ?_⟩
      exact Nat.lt_succ_of_lt (hfirst step hstep)
    exact ⟨(List.getElem?_eq_some_iff.1 hget).1, ⟨heading, hget, hlevel ▸ hlower⟩,
      fun k later hk _ hlater => h.le_level hbound hk hlater⟩

/-- A new heading closes those of no lower level. -/
theorem add (h : Opens headings path) (heading : Heading) :
    Opens (headings ++ [heading])
      ((headings.length, heading.level) :: lowerThan heading.level path) where
  mem_iff step := by
    rw [List.mem_cons, h.mem_lowerThan, h.mem_iff]
    constructor
    · rintro (rfl | ⟨⟨found, hget, hlevel, hafter⟩, hlower⟩)
      · refine ⟨heading, List.getElem?_concat_length, rfl, fun k later hk hlater => ?_⟩
        have hlt := (List.getElem?_eq_some_iff.1 hlater).1
        rw [List.length_append, List.length_singleton] at hlt
        exact absurd hk (by simp only; omega)
      · have hlt := (List.getElem?_eq_some_iff.1 hget).1
        refine ⟨found, (List.getElem?_append_left hlt).trans hget, hlevel,
          fun k later hk hlater => ?_⟩
        rcases Nat.lt_or_ge k headings.length with hold | hnew
        · exact hafter k later hk (by rwa [List.getElem?_append_left hold] at hlater)
        · rw [List.getElem?_append_right hnew, List.getElem?_singleton] at hlater
          split at hlater
          · exact Option.some.inj hlater ▸ hlower
          · cases hlater
    · rintro ⟨found, hget, hlevel, hafter⟩
      rcases Nat.lt_or_ge step.1 headings.length with hold | hnew
      · rw [List.getElem?_append_left hold] at hget
        refine .inr ⟨⟨found, hget, hlevel, fun k later hk hlater => hafter k later hk ?_⟩, ?_⟩
        · have hlt := (List.getElem?_eq_some_iff.1 hlater).1
          rwa [List.getElem?_append_left hlt]
        · exact hafter headings.length heading hold List.getElem?_concat_length
      · rw [List.getElem?_append_right hnew, List.getElem?_singleton] at hget
        split at hget
        case isTrue hzero =>
          cases hget
          exact .inl (Prod.ext (by simp only; omega) hlevel.symm)
        case isFalse => cases hget
  latest_first := by
    refine List.pairwise_cons.2 ⟨fun step hstep => ?_,
      h.latest_first.sublist (lowerThan_sublist _ _)⟩
    obtain ⟨found, hget, -⟩ := (h.mem_iff step).1 ((h.mem_lowerThan _ step).1 hstep).1
    exact (List.getElem?_eq_some_iff.1 hget).1

end Opens

/-- An outline under construction in which every heading stands below the latest one before it of a
lower level, and the open entries are those that later headings have not closed. -/
structure Settled (nest : Nest) : Prop where
  opens : Opens nest.headings nest.path
  parents : ∀ i heading, nest.headings[i]? = some heading →
    ∃ parent, nest.parents[i]? = some parent ∧ NearestLower nest.headings i heading.level parent

theorem settled_nil : Settled {} where
  opens := ⟨fun step => by simp [path, pathFrom, headings, flattenAll], List.Pairwise.nil⟩
  parents i heading hget := by simp [headings, flattenAll] at hget

/-- **A new heading is put below the latest one of a lower level**, and those before it stay where
they are. -/
theorem Settled.add {nest : Nest} (h : Settled nest) (heading : Heading) :
    Settled (nest.add heading) where
  opens := by
    rw [headings_add, path_add]
    exact h.opens.add heading
  parents i found hget := by
    rw [headings_add] at hget ⊢
    rw [parents_add, path_closeTo]
    rcases Nat.lt_or_ge i nest.headings.length with hold | hnew
    · rw [List.getElem?_append_left hold] at hget
      obtain ⟨parent, hparent, hnearest⟩ := h.parents i found hget
      refine ⟨parent, ?_, hnearest.append (Nat.le_of_lt hold) _⟩
      rwa [List.getElem?_append_left (by rwa [length_parents])]
    · rw [List.getElem?_append_right hnew, List.getElem?_singleton] at hget
      split at hget
      case isTrue hzero =>
        cases hget
        have hi : i = nest.headings.length := by omega
        subst hi
        refine ⟨_, ?_, (h.opens.nearestLower heading.level).append (Nat.le_refl _) _⟩
        rw [← length_parents, List.getElem?_concat_length]
      case isFalse => cases hget

theorem settled_foldl_add {nest : Nest} (h : Settled nest) (headings : List Heading) :
    Settled (headings.foldl add nest) := by
  induction headings generalizing nest with
  | nil => exact h
  | cons heading rest ih => exact ih (h.add heading)

end Nest

/-- **An outline holds its headings in order, each below the latest one before it whose level is
lower**; a heading is at the root exactly when no earlier one has a lower level. -/
theorem outline_nests (headings : List Heading) :
    flattenAll (outline headings) = headings ∧
      ∀ (i : Fin headings.length) (parent : Option Nat),
        (parentsAll none 0 (outline headings))[i.val]? = some parent ↔
          NearestLower headings i headings[i].level parent := by
  refine ⟨flattenAll_outline headings, fun i parent => ?_⟩
  have hsettled := Nest.settled_foldl_add Nest.settled_nil headings
  have hheadings : (headings.foldl Nest.add {}).headings = headings := by
    rw [Nest.headings_foldl_add]
    rfl
  have hparents : parentsAll none 0 (outline headings) = (headings.foldl Nest.add {}).parents := by
    rw [← Nest.parents_closeTo 0, Nest.parents, Nest.opened_closeTo_zero, Nest.openParents,
      List.append_nil, outline]
  have hget : (headings.foldl Nest.add {}).headings[i.val]? = some headings[i] := by
    rw [hheadings]
    exact List.getElem?_eq_getElem i.isLt
  obtain ⟨found, hfound, hnearest⟩ := hsettled.parents i headings[i] hget
  rw [hheadings] at hnearest
  rw [hparents, hfound, Option.some.injEq]
  constructor
  · rintro rfl
    exact hnearest
  · exact fun hparent => hnearest.unique hparent

/-- A document may start deep and skip levels. -/
example : parentsAll none 0 (outline
    [⟨"a", "A", 3⟩, ⟨"b", "B", 1⟩, ⟨"c", "C", 4⟩, ⟨"d", "D", 2⟩, ⟨"e", "E", 2⟩, ⟨"f", "F", 1⟩]) =
      [none, none, some 1, some 1, some 1, none] := by
  cbv

end Folio
