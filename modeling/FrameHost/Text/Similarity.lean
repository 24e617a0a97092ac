/-! How alike two words are.

Characters match when they are equal and not too far apart. The words are alike if most of
their characters match and few of those have changed places. -/

set_option autoImplicit false

namespace FrameHost.Text

def matchRange (a b : List Char) : Nat := max a.length b.length / 2 - 1

/-- The first free place at which a character is found, of those within range of `i`. -/
def matchPlace? (b : List Char) (taken : List Nat) (range i : Nat) (c : Char) : Option Nat :=
  (List.range b.length).find? fun j =>
    i - range ≤ j && j ≤ i + range && !taken.contains j && b[j]? == some c

def matching (a b : List Char) : List Char × List Nat :=
  a.zipIdx.foldl
    (fun (found, taken) (c, i) =>
      match matchPlace? b taken (matchRange a b) i c with
      | some j => (found ++ [c], taken ++ [j])
      | none => (found, taken))
    ([], [])

/-- Are two words alike by more than seven tenths? -/
def alike (a b : String) : Bool :=
  let (a, b) := (a.toList, b.toList)
  let (found, places) := matching a b
  let m := found.length
  let other := b.zipIdx.filterMap fun (c, j) => if j ∈ places then some c else none
  let swapped := ((found.zip other).filter fun (c, d) => c ≠ d).length / 2
  21 * a.length * b.length * m
    < 10 * (m * m * b.length + m * m * a.length + (m - swapped) * a.length * b.length)

end FrameHost.Text
