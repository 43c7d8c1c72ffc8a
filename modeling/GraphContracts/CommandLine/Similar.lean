namespace GraphContracts.CommandLine

def commonStart : List Char → List Char → Nat
  | a :: as, b :: bs => if a = b then commonStart as bs + 1 else 0
  | _, _ => 0

structure CommonPart where
  left : Nat
  right : Nat
  length : Nat

def CommonPart.longer (best next : CommonPart) : CommonPart :=
  if best.length < next.length then next else best

def longestCommonPart (as bs : List Char) : CommonPart :=
  (List.range as.length).foldl (fun best i =>
    (List.range bs.length).foldl (fun best j =>
      best.longer ⟨i, j, commonStart (as.drop i) (bs.drop j)⟩) best) ⟨0, 0, 0⟩

/-- The number of characters in common parts. Every round finds a part, so that the length of one
text bounds their number. -/
def commonLength : (rounds : Nat) → List Char → List Char → Nat
  | 0, _, _ => 0
  | rounds + 1, as, bs =>
    let part := longestCommonPart as bs
    if part.length = 0 then 0
    else
      commonLength rounds (as.take part.left) (bs.take part.right) + part.length +
        commonLength rounds (as.drop (part.left + part.length))
          (bs.drop (part.right + part.length))

/-- How similar two words are: the share of their characters that lie in common parts. -/
structure Similarity where
  common : Nat
  total : Nat

namespace Similarity

def of (a b : String) : Similarity :=
  ⟨2 * commonLength a.length a.toList b.toList, a.length + b.length⟩

def isClose (s : Similarity) : Bool :=
  6 * s.total ≤ 10 * s.common

def atLeast (s t : Similarity) : Bool :=
  t.common * s.total ≤ s.common * t.total

end Similarity

def mostSuggestions : Nat := 3

def similarWords (word : String) (known : List String) : List String :=
  let rated := (known.map fun k => (k, Similarity.of k word)).filter fun (_, s) => s.isClose
  let best := (rated.mergeSort fun (_, s) (_, t) => s.atLeast t).take mostSuggestions
  (best.map (·.1)).mergeSort fun a b => a ≤ b

example : commonLength 3 ['a', 'b', 'c'] ['a', 'x', 'c'] = 2 := by decide

end GraphContracts.CommandLine
