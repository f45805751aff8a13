/-
  Waymark.Proofs.Template.Composition

  How the tree of a text is put together from the trees of its parts.  Behind a text that ends
  outside of groups a closed group cuts the whole in three, and each part is read as if it stood
  alone: the pass has given all that it collected to the tree when a group begins, and again when
  the group ends.

  Main statement: `parse_append_group`.
-/

import Waymark.Proofs.Template.Canonical
import Waymark.Proofs.Template.Scan

namespace Waymark.Template

/-! ## Composition -/

/-- Outside of groups the nodes of a text are those found so far and those of the text behind
    them. -/
theorem parse_eq_of_outside {a : String} (h : (scan a.toList).inGroup = false) :
    parse a = (scan a.toList).nodes ++ tokens (scan a.toList).buffer := by
  have hpass := (parses_parse a).finish_foldl [] 0
  rw [List.nil_append] at hpass
  rw [← hpass]
  show (scan a.toList).finish = _
  rw [Scan.finish, Scan.pending, h]
  rfl

/-- A parenthesis opens a group where the pass is outside of groups. -/
theorem scan_append_open {a : String} (h : (scan a.toList).inGroup = false) :
    scan (a.toList ++ ['(']) = ⟨parse a, [], true, 0⟩ := by
  rw [scan, List.foldl_append]
  show (scan a.toList).step '(' = _
  rw [Scan.step, if_pos rfl, h, parse_eq_of_outside h]
  rfl

/-- The tree of a text with a closed group outside of other groups, its groups' dependents left
    aside. -/
theorem parse_append_body {a b c : String} (ha : (scan a.toList).inGroup = false)
    (hb : Paired b.toList) :
    parse (a ++ "(" ++ b ++ ")" ++ c) = parse a ++ [.group (parse b)] ++ parse c := by
  have htext : (a ++ "(" ++ b ++ ")" ++ c).toList
      = (a.toList ++ ['(']) ++ (b.toList ++ ')' :: c.toList) := by
    simp
  have hpass := (parses_parse (a ++ "(" ++ b ++ ")" ++ c)).finish_foldl [] 0
  rw [List.nil_append] at hpass
  rw [← hpass, htext, List.foldl_append]
  show ((b.toList ++ ')' :: c.toList).foldl Scan.step (scan (a.toList ++ ['(']))).finish = _
  rw [scan_append_open ha]
  -- the group ends at its parenthesis, and the pass goes on outside of it
  show ((b.toList ++ ')' :: c.toList).foldl Scan.step ⟨parse a, [], true, ((0 : Nat) : Int)⟩).finish
    = _
  rw [foldl_step_group (hb.splitGroup_eq c.toList), List.nil_append, String.ofList_toList]
  exact (parses_parse c).finish_foldl _ 0

namespace Marked

theorem collect_ofNode (names : List String) (n : Node) :
    (ofNode n).collect names = Node.collect names n := by
  cases n with
  | literal text => rfl
  | param name => rfl
  | group children =>
    rw [ofNode, collect, Node.collect, Node.dependents]

theorem foldl_collect_ofNodes (names : List String) (ns : List Node) :
    (ofNodes ns).foldl collect names = Node.collectAll names ns := by
  induction ns generalizing names with
  | nil => rfl
  | cons n ns ih => rw [ofNodes, List.foldl_cons, collect_ofNode, ih, Node.collectAll]

/-- The dependents of a group are made from its children. -/
theorem ofNode_group (ns : List Node) : ofNode (.group ns) = groupOf (ofNodes ns) := by
  rw [ofNode, groupOf, foldl_collect_ofNodes, Node.dependents]

theorem ofNodes_append (ns ms : List Node) : ofNodes (ns ++ ms) = ofNodes ns ++ ofNodes ms := by
  induction ns with
  | nil => rfl
  | cons n ns ih => rw [List.cons_append, ofNodes, ofNodes, ih, List.cons_append]

end Marked

/-- A closed group behind a text that is outside of groups: the tree is that of the text, the group
    made from the tree of its body, and the tree of the text behind it, whatever that is. -/
theorem parse_append_group (a b c : String) (ha : (scan a.toList).inGroup = false)
    (hb : Paired b.toList) :
    parse (a ++ "(" ++ b ++ ")" ++ c) = parse a ++ [.group (parse b)] ++ parse c ∧
      Marked.ofNodes (parse (a ++ "(" ++ b ++ ")" ++ c))
        = Marked.ofNodes (parse a) ++ [Marked.groupOf (Marked.ofNodes (parse b))]
          ++ Marked.ofNodes (parse c) := by
  have hparse := parse_append_body (c := c) ha hb
  refine ⟨hparse, ?_⟩
  have hgroup : Marked.ofNodes [.group (parse b)]
      = [Marked.groupOf (Marked.ofNodes (parse b))] := by
    rw [Marked.ofNodes, Marked.ofNode_group, Marked.ofNodes]
  rw [hparse, Marked.ofNodes_append, Marked.ofNodes_append, hgroup]

/-- Stray brackets and parentheses around a group, and one that is never closed behind it. -/
theorem parse_append_group_of_malformed :
    (scan ")<x".toList).inGroup = false ∧ Paired "/(<n>)<y".toList ∧
      parse ")<x(/(<n>)<y)(/<d>" = parse ")<x" ++ [.group (parse "/(<n>)<y")] ++ parse "(/<d>" ∧
      Marked.ofNodes (parse ")<x(/(<n>)<y)(/<d>")
        = [.literal ")", .literal "<", .literal "x",
            .group [.literal "/", .group [.param "n"] ["n"], .literal "<", .literal "y"] ["n"],
            .literal "(/", .param "d"] := by
  have houtside : (scan ")<x".toList).inGroup = false := by decide
  have hpaired : Paired "/(<n>)<y".toList :=
    paired_iff.2 ⟨splitGroup_eq_none_iff.1 (by decide), by decide⟩
  have hfront : parse ")<x" = [.literal ")", .literal "<", .literal "x"] := by decide +kernel
  have hbody : parse "/(<n>)<y"
      = [.literal "/", .group [.param "n"], .literal "<", .literal "y"] := by decide +kernel
  have hbehind : parse "(/<d>" = [.literal "(/", .param "d"] := by decide +kernel
  obtain ⟨hparse, hmarked⟩ := parse_append_group ")<x" "/(<n>)<y" "(/<d>" houtside hpaired
  refine ⟨houtside, hpaired, hparse, ?_⟩
  rw [hfront, hbody, hbehind] at hmarked
  exact hmarked

end Waymark.Template
