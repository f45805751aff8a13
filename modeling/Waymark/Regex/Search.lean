/-
  Waymark.Regex.Search

  Searching a text.  A search tries the alternatives of each choice in order of preference and goes
  back when what follows fails.  A choice is entered at most once at each place: what failed there
  would fail again, and a body that matched nothing is not repeated.  This bounds the work by the
  number of choices times the length of the text.
-/

import Waymark.Regex.Plan

namespace Waymark.Regex

/-! ## Places -/

/-- A place in a text: the character before it, the text behind it and that text's length. -/
structure Cursor where
  before : Option Char
  rest : List Char
  left : Nat
  left_eq : left = rest.length

namespace Cursor

/-- The start of a text. -/
def start (s : List Char) : Cursor := ⟨none, s, s.length, rfl⟩

/-- The next character and the place behind it. -/
def next? (c : Cursor) : Option (Char × Cursor) :=
  match h : c.rest with
  | [] => none
  | x :: xs => some (x, ⟨some x, xs, c.left - 1, by rw [c.left_eq, h]; simp⟩)

/-- The text between a place and a later one. -/
def upTo (c d : Cursor) : List Char := c.rest.take (c.left - d.left)

end Cursor

/-! ## States -/

/-- The texts of groups, the latest first. -/
abbrev Groups := List (Nat × List Char)

/-- The choices entered so far.  There is a row for each place, by the length of the text behind
    it: a number whose bits say which choices were entered there. -/
structure Visited where
  rows : Array Nat

namespace Visited

/-- Nothing entered yet. -/
def none : Visited := ⟨#[]⟩

/-- The row of a place, empty if there is none yet. -/
def row (v : Visited) (place : Nat) : Nat := v.rows[place]?.getD 0

/-- Whether a choice was entered at a place. -/
def contains (v : Visited) (place label : Nat) : Bool := (v.row place).testBit label

/-- Enters a choice at a place.  Rows are added until the place has one. -/
def insert (v : Visited) (place label : Nat) : Visited :=
  if h : place < v.rows.size then ⟨v.rows.set place (v.rows[place] ||| 1 <<< label) h⟩
  else ⟨(v.rows ++ Array.replicate (place - v.rows.size) 0).push (1 <<< label)⟩

@[simp] theorem contains_none (place label : Nat) : none.contains place label = false := by
  simp [contains, row, none]

theorem row_insert (v : Visited) (place label p : Nat) :
    (v.insert place label).row p = if p = place then v.row p ||| 1 <<< label else v.row p := by
  unfold insert row
  split
  · rename_i h
    by_cases hp : p = place
    · subst hp
      simp [h]
    · simp [hp, Ne.symm hp]
  · rename_i h
    simp only [Array.getElem?_push, Array.getElem?_append, Array.getElem?_replicate,
      Array.size_append, Array.size_replicate]
    grind

/-- Afterwards that choice was entered at that place, and all others as before. -/
theorem contains_insert (v : Visited) (place label p l : Nat) :
    (v.insert place label).contains p l
      = (decide (p = place ∧ l = label) || v.contains p l) := by
  unfold contains
  rw [row_insert]
  by_cases hp : p = place
  · rw [if_pos hp, Nat.testBit_or, Nat.one_shiftLeft, Nat.testBit_two_pow, Bool.or_comm]
    simp [hp, eq_comm]
  · simp [hp]

end Visited

/-- How a search ended: with the groups of a match, or without one. -/
inductive Outcome where
  | found (groups : Groups)
  | failed (visited : Visited)

/-- What is left to do from a place on. -/
abbrev Continuation := Cursor → Groups → Visited → Outcome

/-! ## Choices -/

/-- Gives up. -/
def giveUp : Continuation := fun _ _ v => .failed v

/-- Tries one way, then the other. -/
def first (a b : Continuation) : Continuation := fun c g v =>
  match a c g v with
  | .found g => .found g
  | .failed v => b c g v

/-- Goes on with a body or goes past it; a greedy choice goes on first. -/
def choose (greedy : Bool) (body past : Continuation) : Continuation :=
  if greedy then first body past else first past body

/-- Enters a choice unless it was entered at this place before. -/
def once (label : Nat) (k : Continuation) : Continuation := fun c g v =>
  if v.contains c.left label then .failed v else k c g (v.insert c.left label)

/-- What follows a body that is repeated: the body again or what is behind the repetition.  A
    choice is entered once at each place, so that the length of the text left bounds the number of
    rounds. -/
def again (label : Nat) (greedy : Bool) (body : Continuation → Continuation)
    (past : Continuation) : Nat → Continuation
  | 0 => giveUp
  | rounds + 1 => once label (choose greedy (body (again label greedy body past rounds)) past)

/-! ## Searching -/

/-- Matches a plan at a place and does what is left to do behind it. -/
def Plan.run : Plan → Continuation → Continuation
  | .empty, k => k
  | .set s, k => fun c g v =>
    match c.next? with
    | some (x, d) => if s.contains x then k d g v else .failed v
    | none => .failed v
  | .look l, k => fun c g v => if l.holds c.before c.rest.head? then k c g v else .failed v
  | .cat a b, k => a.run (b.run k)
  | .alt label a b, k => once label (first (a.run k) (b.run k))
  | .group index body, k => fun c g v =>
    body.run (fun d g v => k d ((index, c.upTo d) :: g) v) c g v
  | .maybe label greedy body, k => once label (choose greedy (body.run k) k)
  | .plus label greedy body, k => fun c g v =>
    body.run (again label greedy body.run k (c.left + 1)) c g v
  | .star label greedy body, k => fun c g v =>
    again label greedy body.run k (c.left + 1) c g v

/-- Matches a plan at the first place where it does, from a place on. -/
def Plan.search (p : Plan) : Nat → Cursor → Visited → Option Groups
  | rounds, c, v =>
    match p.run (fun _ g _ => .found g) c [] v with
    | .found g => some g
    | .failed v =>
      match rounds, c.next? with
      | rounds + 1, some (_, d) => p.search rounds d v
      | _, _ => none

end Waymark.Regex
