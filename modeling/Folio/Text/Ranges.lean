/-!
# Tables of characters

A property of characters beyond ASCII is held as a list of closed intervals of code points, and a
mapping of characters as a list of runs that move by one distance.

## Main definitions

* `Folio.Text.Ranges`: intervals of code points, with membership `Ranges.holds`.
* `Folio.Text.Run`: every `step`-th character of an interval, moved by `shift`.
* `Folio.Text.mapCase`: the image of a character under a table of runs and one of sequences.
-/

namespace Folio.Text

/-- Closed intervals of code points. -/
abbrev Ranges := List (Nat × Nat)

/-- Whether the code point of a character lies in one of the intervals. -/
def Ranges.holds (ranges : Ranges) (c : Char) : Bool :=
  ranges.any fun range => range.1 ≤ c.toNat && c.toNat ≤ range.2

/-- The characters `first`, `first + step`, … up to `last`, each moved by `shift`. -/
structure Run where
  /-- The first code point of the run. -/
  first : Nat
  /-- The last code point of the run. -/
  last : Nat
  /-- The distance of two neighbours. -/
  step : Nat
  /-- The distance from a character to its image. -/
  shift : Int

/-- Whether the run moves this code point. -/
def Run.moves (run : Run) (code : Nat) : Bool :=
  run.first ≤ code && code ≤ run.last && (code - run.first) % run.step == 0

/-- The image of a character: its sequence if it has one, else where its run moves it, else the
character itself. -/
def mapCase (runs : List Run) (sequences : List (Nat × List Nat)) (c : Char) : List Char :=
  match sequences.lookup c.toNat with
  | some codes => codes.map Char.ofNat
  | none =>
    match runs.find? (·.moves c.toNat) with
    | some run => [Char.ofNat (c.toNat + run.shift).toNat]
    | none => [c]

end Folio.Text
