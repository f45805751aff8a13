/-
  Waymark.Proofs.Template.Enclosed

  The text that a group comes from.  Every group of the tree of a text, however deep, stands in the
  text between two parentheses that belong together, and the nodes inside it are the tree of what
  stands between them.  So its dependents can be read off the text as well: they are the
  placeholders between its parentheses, each once, in the order in which they first occur.

  Main statement: `dependents_of_within_parse`.
-/

import Waymark.Proofs.Template.Canonical
import Waymark.Proofs.Template.Dependents
import Waymark.Proofs.Template.Placeholders

namespace Waymark.Template

/-! ## Groups in a text -/

theorem Flat.not_within {ns : List Node} (h : Flat ns) (children : List Node) :
    ¬ (Node.group children).Within ns := by
  intro hwithin
  cases hwithin with
  | here hmem => exact h _ hmem children rfl
  | inside hmem _ => exact h _ hmem _ rfl

theorem not_within_tokens (children : List Node) (s : List Char) :
    ¬ (Node.group children).Within (tokens s) :=
  (splits_tokens s).flat.not_within children

/-- A text encloses another one in two parentheses that belong together. -/
def Encloses (s body : List Char) : Prop :=
  Paired body ∧ ('(' :: (body ++ [')'])) <:+: s

theorem Encloses.trans {s body inner : List Char} (h : Encloses s body) (hin : Encloses body inner) :
    Encloses s inner := by
  have hbody : body <:+: '(' :: (body ++ [')']) := ⟨['('], [')'], rfl⟩
  exact ⟨hin.1, hin.2.trans (hbody.trans h.2)⟩

/-- What a group of a tree holds is the tree of a text that stands between two parentheses. -/
theorem Parses.exists_enclosed {s : List Char} {ns : List Node} (h : Parses s ns)
    {children : List Node} (hwithin : (Node.group children).Within ns) :
    ∃ body, Encloses s body ∧ Parses body children := by
  induction h with
  | plain hs => exact absurd hwithin (not_within_tokens children _)
  | unclosed hhead hnone =>
    rw [Node.within_append] at hwithin
    rcases hwithin with hwithin | hwithin
    · exact absurd hwithin (not_within_tokens children _)
    · exact absurd hwithin (not_within_tokens children _)
  | @group head tail body rest ms ns hhead hsplit hbody hrest ihbody ihrest =>
    have hsplits : head ++ '(' :: tail = head ++ '(' :: (body ++ [')']) ++ rest := by
      rw [append_of_splitGroup hsplit]
      simp
    have henclosed : Encloses (head ++ '(' :: tail) body :=
      ⟨paired_of_splitGroup hsplit, head, rest, hsplits.symm⟩
    rw [Node.within_append, ← List.singleton_append, Node.within_append] at hwithin
    rcases hwithin with hwithin | hwithin | hwithin
    · exact absurd hwithin (not_within_tokens children _)
    · -- the group itself, or one inside of it
      cases hwithin with
      | here hmem =>
        cases List.mem_singleton.1 hmem
        exact ⟨body, henclosed, hbody⟩
      | inside hmem hinside =>
        cases List.mem_singleton.1 hmem
        obtain ⟨inner, hinner, hparses⟩ := ihbody hinside
        exact ⟨inner, henclosed.trans hinner, hparses⟩
    · obtain ⟨inner, ⟨hpaired, hpart⟩, hparses⟩ := ihrest hwithin
      have hbehind : rest <:+ head ++ '(' :: tail := ⟨_, hsplits.symm⟩
      exact ⟨inner, ⟨hpaired, hpart.trans hbehind.isInfix⟩, hparses⟩

/-! ## Dependents -/

/-- The dependents of a group of the tree of a text, however deep the group is: no name occurs
    twice among them, they are the parameters inside the group at any depth, and they stand in the
    order in which these first occur.  The order is that of the text, as the parameters inside the
    group are the placeholders between its parentheses, from left to right.  A group has the
    dependents of every group inside it. -/
theorem dependents_of_within_parse (text : String) (children : List Node)
    (h : (Node.group children).Within (parse text)) :
    (Node.dependents children).Nodup ∧
      (∀ name, name ∈ Node.dependents children ↔ (Node.param name).Within children) ∧
      (Node.dependents children).Pairwise
        (fun a b => (Node.paramsAll children).idxOf a < (Node.paramsAll children).idxOf b) ∧
      Node.dependents children = (Node.paramsAll children).eraseDups ∧
      (∃ body : String, Encloses text.toList body.toList ∧ parse body = children ∧
        Node.paramsAll children = names body.toList) ∧
      ∀ inner, (Node.group inner).Within children →
        Node.dependents inner ⊆ Node.dependents children := by
  obtain ⟨body, henclosed, hparses⟩ := (parses_parse text).exists_enclosed h
  refine ⟨nodup_dependents children, fun name => ?_, pairwise_dependents children,
    dependents_eq_eraseDups children, ⟨String.ofList body, ?_, parses_iff.1 hparses, ?_⟩,
    fun inner hinner => dependents_subset_of_within hinner⟩
  · rw [mem_dependents, mem_paramsAll_iff_within]
  · rw [String.toList_ofList]
    exact henclosed
  · rw [String.toList_ofList]
    exact hparses.params

/-- Names that occur again beside a group, inside it and around it, behind a stray bracket and in
    front of a parenthesis that is never closed. -/
theorem dependents_of_within_parse_of_repeated_names :
    let inner := [Node.literal "/", .param "b", .literal "-", .param "a"]
    let middle := [.param "a", .group inner, .literal "<", .group [.param "c"], .param "b"]
    let outer := [.param "c", .group middle, .param "d"]
    parse "/<c>(<c>(<a>(/<b>-<a>)<(<c>)<b>)<d>)(<e>" = [.literal "/", .param "c", .group outer,
        .literal "(", .param "e"] ∧
      (Node.group middle).Within (parse "/<c>(<c>(<a>(/<b>-<a>)<(<c>)<b>)<d>)(<e>") ∧
      Node.dependents middle = ["a", "b", "c"] ∧
      Node.dependents inner ⊆ Node.dependents middle := by
  intro inner middle outer
  have hparse : parse "/<c>(<c>(<a>(/<b>-<a>)<(<c>)<b>)<d>)(<e>" = [.literal "/", .param "c",
      .group outer, .literal "(", .param "e"] := by decide +kernel
  have hwithin : (Node.group middle).Within (parse "/<c>(<c>(<a>(/<b>-<a>)<(<c>)<b>)<d>)(<e>") := by
    rw [hparse]
    have houter : Node.group outer ∈ [.literal "/", .param "c", .group outer, .literal "(",
        .param "e"] := by simp
    exact .inside houter (.here (by simp [outer]))
  obtain ⟨-, -, -, hdependents, -, hinside⟩ := dependents_of_within_parse _ middle hwithin
  refine ⟨hparse, hwithin, ?_, hinside inner (.here (by simp [middle]))⟩
  rw [hdependents]
  rfl

end Waymark.Template
