import Runbook.Pattern.Tally
/-! The states of several words. Words that begin alike share the states of their beginnings, as
far as none of the words between them ends there. -/
namespace Runbook.Pattern.WordLayout

abbrev Word := List UInt8

/-- Whether nothing follows. -/
def isOver (words : List Word) : Bool := words.all List.isEmpty

/-- Words that end here before any other word goes on count as one. -/
def endingOnce (words : List Word) : List Word :=
  match words with
  | [] :: rest => [] :: rest.dropWhile List.isEmpty
  | _ => words

/-- What stands between the words that end here. -/
def pieces : List Word → List (List Word)
  | [] => [[]]
  | [] :: rest => [] :: pieces rest
  | w :: rest =>
    match pieces rest with
    | piece :: others => (w :: piece) :: others
    | [] => [[w]]

/-- How the words with a first byte go on. -/
def tails (b : UInt8) (words : List Word) : List Word :=
  words.filterMap fun w => if w.head? = some b then some w.tail else none

/-- The states where words of less than `bound` bytes go on: one for each piece, and one that
leads to these, and to the end for each word that ends. -/
def node : Nat → List Word → Tally
  | 0, _ => .none
  | bound + 1, words =>
    let parts := pieces (endingOnce words)
    let going := parts.filter fun part => !part.isEmpty
    going.foldl (fun t part =>
      let heads := (part.filterMap List.head?).eraseDups
      heads.foldl (fun t b =>
          let rest := tails b part
          if isOver rest then t else t + node bound rest)
        (t + if heads.length = 1 then .plain 1 else .switch heads.length))
      (.fork (going.length + (parts.length - 1)))

/-- The states of some words, with the one where all of them end. -/
def tally (words : List Word) : Tally :=
  .plain 1 + node (words.foldl (fun bound w => max bound w.length) 0 + 1) words

end Runbook.Pattern.WordLayout
