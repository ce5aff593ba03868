/-!
# Similar words

How alike two texts are is measured by the characters they have in common in
order: the longest run of characters that both contain, then the longest runs
on either side of it, and so on. Of several longest runs the one that comes
first in the first text counts, and then the one that comes first in the second.
-/

namespace Rollout.Text

/-- How many characters two lists have in common at their fronts. -/
def commonLength : List Char → List Char → Nat
  | a :: as, b :: bs => if a = b then commonLength as bs + 1 else 0
  | _, _ => 0

/-- A run of characters in two texts: where it starts in each, and how long it is. -/
structure Run where
  left : Nat
  right : Nat
  length : Nat
  deriving DecidableEq, Repr

/-- The longest run of characters that both texts contain. -/
def longestRun (as bs : List Char) : Run :=
  (List.range as.length).foldl (fun best i =>
    (List.range bs.length).foldl (fun best j =>
      let n := commonLength (as.drop i) (bs.drop j)
      if best.length < n then ⟨i, j, n⟩ else best) best) ⟨0, 0, 0⟩

/-- How many characters two texts have in common, run by run. -/
def matching : (fuel : Nat) → List Char → List Char → Nat
  | 0, _, _ => 0
  | fuel + 1, as, bs =>
      let run := longestRun as bs
      if run.length = 0 then 0
      else
        matching fuel (as.take run.left) (bs.take run.right) + run.length +
          matching fuel (as.drop (run.left + run.length)) (bs.drop (run.right + run.length))

/-- How many characters two texts have in common, and how many they have together. -/
def likeness (s t : String) : Nat × Nat :=
  (matching (s.length + 1) s.toList t.toList, s.length + t.length)

/-- Whether at least three fifths of two texts are in common. -/
def isSimilar (s t : String) : Bool :=
  let (common, total) := likeness s t
  3 * total ≤ 10 * common

/-- Puts a text into a list ordered by likeness, the most alike first. -/
def insertSimilar (word s : String) : List String → List String
  | [] => [s]
  | t :: ts =>
      let (a, m) := likeness s word
      let (b, n) := likeness t word
      if b * m < a * n ∨ (a * n = b * m ∧ t < s) then s :: t :: ts
      else t :: insertSimilar word s ts

/-- The three texts most similar to a word, of those that are similar at all. -/
def similarTo (word : String) (candidates : List String) : List String :=
  ((candidates.filter fun s => isSimilar s word).foldl
    (fun found s => insertSimilar word s found) []).take 3

end Rollout.Text
