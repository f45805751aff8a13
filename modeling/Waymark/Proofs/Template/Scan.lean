/-
  Waymark.Proofs.Template.Scan

  Reading a template in one pass.  The pass keeps the nodes that it is sure of, the text since the
  last of them, and inside a group the number of groups that were opened there and not closed yet.
  A group's body is collected as it is and read on its own once the group is closed.

  `Scan.Keeps` is the invariant of the pass: nodes and buffer together are the text read so far, and
  the number of open groups is never negative.  Main statement: `parse_in_one_pass`.
-/

import Waymark.Proofs.Template.Groups

namespace Waymark.Template

/-! ## The pass -/

/-- What the pass knows behind some characters. -/
structure Scan where
  nodes : List Node
  buffer : List Char
  inGroup : Bool
  /-- How many groups are open inside the group; counted without regard to a lower bound. -/
  depth : Int

namespace Scan

/-- Before the first character. -/
def start : Scan := ⟨[], [], false, 0⟩

/-- One more character belongs to the text since the last node. -/
def collect (k : Scan) (c : Char) : Scan := { k with buffer := k.buffer ++ [c] }

/-- Behind one more character.  The body of a group that is closed is read by `parse`. -/
def step (k : Scan) (c : Char) : Scan :=
  if c = '(' then
    if k.inGroup then { k.collect c with depth := k.depth + 1 }
    else ⟨k.nodes ++ tokens k.buffer, [], true, 0⟩
  else if c = ')' then
    if k.inGroup then
      if k.depth = 0 then
        ⟨k.nodes ++ [.group (parse (String.ofList k.buffer))], [], false, k.depth⟩
      else { k.collect c with depth := k.depth - 1 }
    else k.collect c
  else k.collect c

/-- The text behind the last node, with the parenthesis of a group that is still open. -/
def pending (k : Scan) : List Char := if k.inGroup then '(' :: k.buffer else k.buffer

/-- The nodes when the text ends here. -/
def finish (k : Scan) : List Node := k.nodes ++ tokens k.pending

end Scan

/-- The pass over a text. -/
def scan (s : List Char) : Scan := s.foldl Scan.step .start

/-! ## The invariant -/

/-- The text read so far is there, and no group was closed that was not open. -/
structure Scan.Keeps (k : Scan) (read : List Char) : Prop where
  text : (Node.sourceAll k.nodes).toList ++ k.pending = read
  depth : 0 ≤ k.depth

theorem Scan.keeps_start : Scan.Keeps .start [] where
  text := rfl
  depth := Int.le_refl 0

theorem Scan.pending_collect (k : Scan) (c : Char) : (k.collect c).pending = k.pending ++ [c] := by
  rw [pending, pending, collect]
  cases k.inGroup <;> simp

/-- What one character keeps. -/
theorem Scan.Keeps.step {k : Scan} {read : List Char} (h : k.Keeps read) (c : Char) :
    (k.step c).Keeps (read ++ [c]) := by
  have hcollect : (Node.sourceAll k.nodes).toList ++ (k.collect c).pending = read ++ [c] := by
    rw [pending_collect, ← List.append_assoc, h.text]
  rw [Scan.step]
  by_cases hopen : c = '('
  · rw [if_pos hopen]
    by_cases hgroup : k.inGroup = true
    · rw [if_pos hgroup]
      exact ⟨hcollect, Int.le_add_one h.depth⟩
    · -- what was collected in front of the group becomes nodes
      rw [if_neg hgroup]
      refine ⟨?_, Int.le_refl 0⟩
      have htext := h.text
      rw [pending, if_neg hgroup] at htext
      rw [toList_sourceAll_append, (splits_tokens k.buffer).source, htext, hopen]
      rfl
  · rw [if_neg hopen]
    by_cases hclose : c = ')'
    · rw [if_pos hclose]
      by_cases hgroup : k.inGroup = true
      · rw [if_pos hgroup]
        by_cases hdepth : k.depth = 0
        · -- the group is closed, and its body writes what was collected
          rw [if_pos hdepth]
          refine ⟨?_, h.depth⟩
          have htext := h.text
          rw [pending, if_pos hgroup] at htext
          have hbody : (Node.sourceAll (parse (String.ofList k.buffer))).toList = k.buffer := by
            rw [sourceAll_parse, String.toList_ofList]
          rw [toList_sourceAll_append, toList_sourceAll_group, hbody, ← htext, hclose]
          simp [pending]
        · rw [if_neg hdepth]
          have hnonneg := h.depth
          refine ⟨hcollect, ?_⟩
          show 0 ≤ k.depth - 1
          omega
      · rw [if_neg hgroup]
        exact ⟨hcollect, h.depth⟩
    · rw [if_neg hclose]
      exact ⟨hcollect, h.depth⟩

/-- What a pass keeps. -/
theorem Scan.Keeps.foldl {k : Scan} {read : List Char} (h : k.Keeps read) (s : List Char) :
    (s.foldl Scan.step k).Keeps (read ++ s) := by
  induction s generalizing k read with
  | nil => simpa using h
  | cons c s ih => simpa using ih (h.step c)

theorem keeps_scan (s : List Char) : (scan s).Keeps s := Scan.keeps_start.foldl s

/-- The body of a group is shorter than the text that it was collected from. -/
theorem length_buffer_scan {s : List Char} (h : (scan s).inGroup = true) :
    (scan s).buffer.length < s.length := by
  have htext := congrArg List.length (keeps_scan s).text
  rw [Scan.pending, if_pos h, List.length_append, List.length_cons] at htext
  omega

/-! ## The pass finds the tree -/

/-- Outside groups everything in front of a parenthesis is collected. -/
theorem foldl_step_plain {nodes : List Node} {depth : Int} {s : List Char} (h : '(' ∉ s)
    (buffer : List Char) :
    s.foldl Scan.step ⟨nodes, buffer, false, depth⟩ = ⟨nodes, buffer ++ s, false, depth⟩ := by
  induction s generalizing buffer with
  | nil => rw [List.foldl_nil, List.append_nil]
  | cons c s ih =>
    rw [List.mem_cons, not_or] at h
    have hstep : Scan.step ⟨nodes, buffer, false, depth⟩ c = ⟨nodes, buffer ++ [c], false, depth⟩ := by
      simp [Scan.step, Scan.collect, Ne.symm h.1]
    rw [List.foldl_cons, hstep, ih h.2, List.append_assoc, List.singleton_append]

/-- Inside a group the pass counts open groups as `splitGroup` does. -/
theorem step_inside (nodes : List Node) (buffer : List Char) (depth : Nat) (c : Char) :
    Scan.step ⟨nodes, buffer, true, depth⟩ c = match depthBehind depth c with
      | none => ⟨nodes ++ [.group (parse (String.ofList buffer))], [], false, 0⟩
      | some depth' => ⟨nodes, buffer ++ [c], true, depth'⟩ := by
  rw [Scan.step, depthBehind]
  by_cases hopen : c = '('
  · rw [if_pos hopen, if_pos hopen]
    rfl
  · rw [if_neg hopen, if_neg hopen]
    by_cases hclose : c = ')'
    · rw [if_pos hclose, if_pos hclose]
      by_cases hdepth : depth = 0
      · subst hdepth
        rfl
      · have hne : (depth : Int) ≠ 0 := by omega
        have hsub : (depth : Int) - 1 = ((depth - 1 : Nat) : Int) := by omega
        rw [if_pos rfl, if_neg hne, if_neg hdepth, hsub]
        rfl
    · rw [if_neg hclose, if_neg hclose]
      rfl

/-- Inside a group the pass ends where the group does: its body is read, and the pass goes on
    outside. -/
theorem foldl_step_group {nodes : List Node} {s body rest : List Char} {depth : Nat}
    (h : splitGroup depth s = some (body, rest)) (buffer : List Char) :
    s.foldl Scan.step ⟨nodes, buffer, true, depth⟩
      = rest.foldl Scan.step
          ⟨nodes ++ [.group (parse (String.ofList (buffer ++ body)))], [], false, 0⟩ := by
  induction s generalizing depth body buffer with
  | nil => exact absurd h (by simp [splitGroup])
  | cons c s ih =>
    rw [splitGroup_cons] at h
    rw [List.foldl_cons, step_inside]
    cases hdepth : depthBehind depth c with
    | none =>
      rw [hdepth] at h
      cases h
      rw [List.append_nil]
    | some depth' =>
      rw [hdepth] at h
      obtain ⟨w, hw, heq⟩ := Option.map_eq_some_iff.1 h
      cases heq
      show s.foldl Scan.step ⟨nodes, buffer ++ [c], true, depth'⟩ = _
      rw [ih hw, List.append_assoc, List.singleton_append]

/-- A group that is never closed collects all the text behind it. -/
theorem foldl_step_unclosed {s : List Char} {depth : Nat} (h : splitGroup depth s = none)
    (nodes : List Node) (buffer : List Char) :
    ∃ depth', s.foldl Scan.step ⟨nodes, buffer, true, depth⟩
      = ⟨nodes, buffer ++ s, true, depth'⟩ := by
  induction s generalizing depth buffer with
  | nil => exact ⟨depth, by rw [List.foldl_nil, List.append_nil]⟩
  | cons c s ih =>
    rw [splitGroup_cons] at h
    rw [List.foldl_cons, step_inside]
    cases hdepth : depthBehind depth c with
    | none =>
      rw [hdepth] at h
      exact absurd h (by simp)
    | some depth' =>
      rw [hdepth] at h
      obtain ⟨d, hd⟩ := ih (Option.map_eq_none_iff.1 h) (buffer ++ [c])
      refine ⟨d, ?_⟩
      show s.foldl Scan.step ⟨nodes, buffer ++ [c], true, depth'⟩ = _
      rw [hd, List.append_assoc, List.singleton_append]

/-- From outside any group the pass collects up to the first parenthesis, which opens a group. -/
theorem foldl_step_open {head : List Char} (hhead : '(' ∉ head) (nodes : List Node) (depth : Int)
    (tail : List Char) :
    (head ++ '(' :: tail).foldl Scan.step ⟨nodes, [], false, depth⟩
      = tail.foldl Scan.step ⟨nodes ++ tokens head, [], true, ((0 : Nat) : Int)⟩ := by
  rw [List.foldl_append, foldl_step_plain hhead, List.nil_append, List.foldl_cons]
  rfl

/-- From outside any group the pass adds the nodes of the text that is left. -/
theorem Parses.finish_foldl {s : List Char} {ns : List Node} (h : Parses s ns) (nodes : List Node)
    (depth : Int) : (s.foldl Scan.step ⟨nodes, [], false, depth⟩).finish = nodes ++ ns := by
  induction h generalizing nodes depth with
  | plain hs =>
    rw [foldl_step_plain hs, List.nil_append]
    rfl
  | @unclosed head tail hhead hnone =>
    obtain ⟨d, hd⟩ := foldl_step_unclosed hnone (nodes ++ tokens head) []
    rw [foldl_step_open hhead, hd, List.nil_append, ← List.append_assoc]
    rfl
  | @group head tail body rest ms ns hhead hsplit hbody hrest ihbody ihrest =>
    rw [foldl_step_open hhead, foldl_step_group hsplit, List.nil_append, ihrest,
      parses_iff.1 hbody]
    simp

/-- The tree of a text is found in one pass.  Behind any part of the text the number of groups open
    inside a group is not negative, and the body that is about to be read on its own is shorter than
    that part, so reading ends.  Nothing of the text is lost and nothing is added. -/
theorem parse_in_one_pass (text : String) :
    (∀ s, s <+: text.toList → 0 ≤ (scan s).depth ∧
      ((scan s).inGroup = true → (scan s).buffer.length < s.length)) ∧
    parse text = (scan text.toList).finish ∧
    Node.sourceAll (parse text) = text := by
  refine ⟨?_, ?_, sourceAll_parse text⟩
  · intro s _
    exact ⟨(keeps_scan s).depth, length_buffer_scan⟩
  · have hpass := (parses_parse text).finish_foldl [] 0
    exact hpass.symm

-- Stray and unclosed parentheses and brackets.
example : parse "a)<b>(<c(/d" =
    [.literal "a)", .param "b", .literal "(", .literal "<", .literal "c(/d"] := by
  decide +kernel

end Waymark.Template
