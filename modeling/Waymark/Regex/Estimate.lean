/-
  Waymark.Regex.Estimate

  The capacity that running programs work with: an estimate of the bytes of an automaton.  It follows
  an engine that makes one state for each byte of a character and one tree of all alternatives
  if they are texts.  For large classes it is no more than a guess.
-/

import Waymark.Regex.Capacity

namespace Waymark.Regex

/-! ## Alternatives that are texts -/

/-- Texts as a tree of their bytes: each byte with what may follow it and what may stand in its
    place. -/
inductive Trie where
  | leaf
  | node (byte : UInt8) (child next : Trie)

namespace Trie

/-- The tree of one text. -/
def chain : List UInt8 → Trie
  | [] => leaf
  | b :: bs => node b (chain bs) leaf

/-- Adds a text. -/
def insert : Trie → List UInt8 → Trie
  | t, [] => t
  | leaf, bs => chain bs
  | node byte child next, b :: bs =>
    if b = byte then node byte (child.insert bs) next else node byte child (next.insert (b :: bs))

/-- About how many bytes the automaton takes: two states wherever a text goes on. -/
def size : Trie → Nat
  | leaf => 0
  | node _ leaf next => 8 + next.size
  | node _ child next => 8 + 68 + child.size + next.size

end Trie

/-! ## Expressions -/

namespace Expr

/-- The alternatives of an expression. -/
def alternatives : Expr → List Expr
  | alt a b => a :: b.alternatives
  | e => [e]

/-- The text that an expression stands for, if it stands for one. -/
def text? : Expr → Option (List Char)
  | set (.range first last) => if first = last then some [first] else none
  | cat a b => return (← a.text?) ++ (← b.text?)
  | _ => none

/-- The size of alternatives that are texts. -/
def textsSize? (es : List Expr) : Option Nat := do
  let texts ← es.mapM text?
  let bytes := texts.map fun t => t.flatMap String.utf8EncodeChar
  let forward := bytes.foldl Trie.insert .leaf
  let backward := (bytes.map List.reverse).foldl Trie.insert .leaf
  return 100 + max forward.size backward.size

/-- About how many bytes the automaton of a set takes. -/
def setSize : CharSet → Nat
  | .range first last => if first = last then 32 * first.utf8Size else 320
  | .table ranges => 256 + 24 * ranges.size
  | .union a b => setSize a + setSize b
  | .inter a b | .diff a b | .symmDiff a b => setSize a + setSize b
  | .compl a => 320 + setSize a
  | .folded a | .foldedAscii a => setSize a
  | .empty => 32

/-- About how many bytes the automaton of an expression takes.  `inside` says that the expression is
    one of several alternatives, not all of which are texts. -/
def sizeFrom (inside : Bool) : Expr → Nat
  | empty => 32
  | set s =>
    match s.asciiRanges? with
    | some n => min (64 + 8 * n) (setSize s)
    | none => setSize s
  | look _ => 32
  | cat a b => a.sizeFrom false + b.sizeFrom false
  | alt a b =>
    let parts := a.sizeFrom false + b.sizeFrom true + (if inside then 4 else 72)
    if inside then parts else (textsSize? (alt a b).alternatives).getD parts
  | group _ body => body.sizeFrom false + 64
  | «repeat» least none _ body => (max least 1) * body.sizeFrom false + 72
  | «repeat» least (some most) _ body =>
    max least most * body.sizeFrom false + (most - least) * 40 + 32

/-- About how many bytes the automaton of an expression takes. -/
def size (e : Expr) : Nat := e.sizeFrom false

/-- The estimate does not exceed what is known to be enough. -/
theorem BuiltWithin.size_le {e : Expr} {n : Nat} (h : e.BuiltWithin n) : e.size ≤ n := by
  rw [size]
  induction h with
  | empty | look => exact Nat.le_refl _
  | char c =>
    have hset : setSize (.single c) = 32 * c.utf8Size := if_pos rfl
    rw [sizeFrom, ← hset]
    split
    · exact Nat.min_le_right _ _
    · exact Nat.le_refl _
  | ascii h =>
    rw [sizeFrom, h]
    exact Nat.min_le_left _ _
  | @other c h =>
    have hsize : setSize (.compl (.single c)) = 320 + 32 * c.utf8Size :=
      congrArg (320 + ·) (if_pos rfl)
    have hranges : (CharSet.compl (.single c)).asciiRanges? = none := rfl
    have hbytes := Char.utf8Size_le_four c
    rw [sizeFrom, hranges]
    show setSize (.compl (.single c)) ≤ 1040
    omega
  | cat ha hb iha ihb =>
    rw [sizeFrom]
    omega
  | group index h ih =>
    rw [sizeFrom]
    omega
  | optional greedy h ih =>
    rw [sizeFrom, Nat.zero_max, Nat.one_mul]
    omega
  | star greedy h ih =>
    rw [sizeFrom, Nat.zero_max, Nat.one_mul]
    omega
  | plus greedy h ih =>
    rw [sizeFrom, Nat.max_self, Nat.one_mul]
    omega
  | mono h hle ih => exact Nat.le_trans ih hle

end Expr

/-- Whatever is estimated to stay within the limit fits. -/
instance estimatedCapacity : Capacity where
  fits e := e.size ≤ Expr.sizeLimit
  fits_of_builtWithin h hn := decide_eq_true (Nat.le_trans h.size_le hn)

end Waymark.Regex
