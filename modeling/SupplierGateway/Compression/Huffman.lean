/-!
# Canonical prefix codes

A prefix code is a binary tree with symbols at its leaves.  A canonical code is given by the lengths
of its code words alone: words of one length are consecutive numbers in the order of their symbols,
and shorter words come before longer ones.
-/

namespace SupplierGateway
namespace Compression

/-- A prefix code. -/
inductive CodeTree where
  | unused
  | leaf (symbol : Nat)
  | node (zero one : CodeTree)
deriving DecidableEq, Repr

namespace CodeTree

/-- Reads one symbol. -/
def decode : CodeTree → List Bool → Option (Nat × List Bool)
  | leaf symbol, bits => some (symbol, bits)
  | unused, _ => none
  | node .., [] => none
  | node zero _, false :: rest => zero.decode rest
  | node _ one, true :: rest => one.decode rest

/-- The branches of a tree; a tree that is not a node has unused ones. -/
def branches : CodeTree → CodeTree × CodeTree
  | node zero one => (zero, one)
  | unused | leaf _ => (unused, unused)

/-- Puts a symbol at the end of a path. -/
def insert (symbol : Nat) : List Bool → CodeTree → CodeTree
  | [], _ => leaf symbol
  | false :: path, tree => node (insert symbol path tree.branches.1) tree.branches.2
  | true :: path, tree => node tree.branches.1 (insert symbol path tree.branches.2)

/-- The bits of a code word, most significant first. -/
def wordBits : Nat → Nat → List Bool
  | 0, _ => []
  | length + 1, word => wordBits length (word / 2) ++ [word % 2 == 1]

/-- Inserts the symbols that have words of a length, from a word on.  Gives the next word. -/
def insertLength (length : Nat) : List (Nat × Nat) → Nat → CodeTree → CodeTree × Nat
  | [], word, tree => (tree, word)
  | (l, symbol) :: rest, word, tree =>
      if l = length then
        insertLength length rest (word + 1) (tree.insert symbol (wordBits length word))
      else insertLength length rest word tree

/-- The longest code word. -/
def longest : Nat := 15

/-- The share of all words of the longest length that a code uses up. -/
def coverage (lengths : List Nat) : Nat :=
  lengths.foldl (fun share l => if l = 0 then share else share + Nat.pow 2 (longest - l)) 0

/-- The code with words of the given lengths; a symbol of length zero has no word.  The words must
use up all words of the longest length exactly, unless there is at most one. -/
def ofLengths (lengths : List Nat) : Option CodeTree :=
  let used := lengths.countP (· ≠ 0)
  let covered := coverage lengths
  if covered > Nat.pow 2 longest ∨ (covered < Nat.pow 2 longest ∧ used > 1) then none
  else
    let symbols := lengths.zipIdx
    let (tree, _) := (List.range longest).foldl
      (fun (tree, word) l => insertLength (l + 1) symbols (2 * word) tree)
      (unused, 0)
    some tree

end CodeTree
end Compression
end SupplierGateway
