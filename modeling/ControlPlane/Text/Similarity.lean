/-!
# Similar words

Two words are compared by what they share: the longest piece that both have, and again what they
share to the left of it and to the right.  `Ratio` counts that twice over both lengths, so it is one
for equal words and zero for words without a common character.  `closest` proposes words for a
misspelled one.
-/

namespace ControlPlane.Text

/-! ## common pieces -/

/-- The length of the longest common start of two lists. -/
def commonStart : List Char → List Char → Nat
  | a :: as, b :: bs => if a = b then commonStart as bs + 1 else 0
  | _, _ => 0

/-- A piece that two words share: where it starts in each of them, and its length. -/
structure Piece where
  left : Nat
  right : Nat
  size : Nat
  deriving DecidableEq, Repr

/-- The longer of two pieces, the first one if they are equally long. -/
def Piece.longer (p q : Piece) : Piece := if p.size < q.size then q else p

/-- The longest piece that two words share; of several the leftmost in the first word, and of those
the leftmost in the second one. -/
def longestPiece (a b : List Char) : Piece :=
  (List.range a.length).foldl
    (fun best i => (List.range b.length).foldl
      (fun best j => best.longer ⟨i, j, commonStart (a.drop i) (b.drop j)⟩) best)
    ⟨0, 0, 0⟩

/-- The number of characters in the common pieces of two words.  Every round leaves a shorter first
word. -/
def sharedLength : (fuel : Nat) → List Char → List Char → Nat
  | 0, _, _ => 0
  | fuel + 1, a, b =>
    let p := longestPiece a b
    if p.size = 0 then 0
    else
      sharedLength fuel (a.take p.left) (b.take p.right) + p.size +
        sharedLength fuel (a.drop (p.left + p.size)) (b.drop (p.right + p.size))

/-! ## similarity -/

/-- A ratio of two numbers. -/
structure Ratio where
  numerator : Nat
  denominator : Nat
  deriving DecidableEq, Repr

/-- Whether a ratio is at most another one. -/
def Ratio.le (p q : Ratio) : Bool :=
  p.numerator * q.denominator ≤ q.numerator * p.denominator

/-- How similar two words are. -/
def similarity (a b : List Char) : Ratio :=
  ⟨2 * sharedLength (a.length + 1) a b, a.length + b.length⟩

/-- The greatest similarity that words of such lengths can have. -/
def similarityBound (a b : List Char) : Ratio := ⟨2 * min a.length b.length, a.length + b.length⟩

/-- The least similarity of a proposal. -/
def leastSimilarity : Ratio := ⟨3, 5⟩

/-- The greatest number of proposals. -/
def proposalLimit : Nat := 3

/-- The words of a list that are similar to a given one, the most similar first and at most
three. -/
def closest (word : String) (words : List String) : List String :=
  let scored := words.filterMap fun w =>
    if leastSimilarity.le (similarityBound w.toList word.toList) then
      let s := similarity w.toList word.toList
      if leastSimilarity.le s then some (s, w) else none
    else none
  let ordered := scored.mergeSort fun p q =>
    if p.1.le q.1 && q.1.le p.1 then !decide (p.2 < q.2) else q.1.le p.1
  (ordered.take proposalLimit).map (·.2)

end ControlPlane.Text
