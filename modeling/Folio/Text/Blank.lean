/-!
# White space

The characters of the property White_Space, and the operations that cut text at them.

## Main definitions

* `Folio.Text.isBlank`: the twenty-five white space characters.
* `Folio.Text.trim`: text without outer white space.
* `Folio.Text.words`: the maximal runs of characters that are not white space.
-/

namespace Folio.Text

/-- A white space character. -/
def isBlank (c : Char) : Bool :=
  let n := c.toNat
  (0x09 <= n && n <= 0x0D) || n == 0x20 || n == 0x85 || n == 0xA0 || n == 0x1680 ||
    (0x2000 <= n && n <= 0x200A) || n == 0x2028 || n == 0x2029 || n == 0x202F || n == 0x205F ||
    n == 0x3000

/-- The elements without those at the end that satisfy `p`. -/
def dropEnd {α : Type} (p : α → Bool) (xs : List α) : List α :=
  (xs.reverse.dropWhile p).reverse

/-- Text without white space at either end. -/
def trim (s : String) : String :=
  String.ofList (dropEnd isBlank (s.toList.dropWhile isBlank))

/-- The runs between characters that satisfy `p`, empty runs included, after a run `acc` that is
open already and held in reverse. -/
def splitRuns (p : Char → Bool) : List Char → List Char → List (List Char)
  | acc, [] => [acc.reverse]
  | acc, c :: cs => if p c then acc.reverse :: splitRuns p [] cs else splitRuns p (c :: acc) cs

/-- The maximal runs of characters that are not white space. -/
def words (cs : List Char) : List (List Char) :=
  (splitRuns isBlank [] cs).filter fun run => !run.isEmpty

end Folio.Text
