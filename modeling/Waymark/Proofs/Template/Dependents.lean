/-
  Waymark.Proofs.Template.Dependents

  The parameters of a tree and the dependents of its groups.  A group collects its dependents from
  its children, and a group among them hands over its own list rather than its parameters.  All the
  same the list is that of the parameters inside the group, at any depth, each at the place where
  it first occurs: names that are added a second time change nothing, so it does not matter that
  the groups inside have left out their repetitions already.

  Main statements: `dependents_eq_eraseDups`, `pairwise_dependents`, `dependents_subset_of_within`.
-/

import Mathlib.Data.List.Basic
import Mathlib.Data.List.Induction
import Waymark.Template.Node

namespace Waymark.Template

/-! ## First occurrences -/

/-- One more occurrence behind others adds a name. -/
theorem eraseDups_concat (names : List String) (name : String) :
    (names ++ [name]).eraseDups = Node.addName names.eraseDups name := by
  rw [List.eraseDups_append, Node.addName]
  by_cases h : name ∈ names
  · rw [if_pos (List.mem_eraseDups.2 h)]
    simp [List.removeAll, h]
  · rw [if_neg fun hmem => h (List.mem_eraseDups.1 hmem)]
    simp [List.removeAll, h, List.eraseDups_cons]

/-- Names are added one at a time. -/
theorem foldl_addName_eraseDups (names more : List String) :
    more.foldl Node.addName names.eraseDups = (names ++ more).eraseDups := by
  induction more generalizing names with
  | nil => rw [List.append_nil, List.foldl_nil]
  | cons name more ih =>
    rw [List.foldl_cons, ← eraseDups_concat, ih, List.append_assoc, List.singleton_append]

/-- A list from which repetitions were left out adds the same names, in the same order. -/
theorem eraseDups_append_eraseDups (names more : List String) :
    (names ++ more.eraseDups).eraseDups = (names ++ more).eraseDups := by
  induction more using List.reverseRecOn with
  | nil => rfl
  | append_singleton more name ih =>
    rw [eraseDups_concat more, ← List.append_assoc, eraseDups_concat (names ++ more), ← ih,
      Node.addName]
    by_cases h : name ∈ more.eraseDups
    · rw [if_pos h, Node.addName,
        if_pos (List.mem_eraseDups.2 (List.mem_append_right names h))]
    · rw [if_neg h, ← List.append_assoc, eraseDups_concat]

/-- The order that is left is that of the first occurrences. -/
theorem pairwise_eraseDups (names : List String) :
    names.eraseDups.Pairwise fun a b => names.idxOf a < names.idxOf b := by
  induction names using List.reverseRecOn with
  | nil => exact List.Pairwise.nil
  | append_singleton names name ih =>
    -- what occurred before has its place before
    have hplace : ∀ a ∈ names.eraseDups, (names ++ [name]).idxOf a = names.idxOf a :=
      fun a ha => List.idxOf_append_of_mem (List.mem_eraseDups.1 ha)
    have hbefore : names.eraseDups.Pairwise
        fun a b => (names ++ [name]).idxOf a < (names ++ [name]).idxOf b := by
      refine ih.imp_of_mem fun ha hb hlt => ?_
      rw [hplace _ ha, hplace _ hb]
      exact hlt
    rw [eraseDups_concat, Node.addName]
    by_cases h : name ∈ names.eraseDups
    · rw [if_pos h]
      exact hbefore
    · rw [if_neg h, List.pairwise_append]
      refine ⟨hbefore, List.pairwise_singleton _ _, ?_⟩
      intro a ha b hb
      have hnew : name ∉ names := fun hmem => h (List.mem_eraseDups.2 hmem)
      have hlt : names.idxOf a < names.length :=
        List.idxOf_lt_length_iff.2 (List.mem_eraseDups.1 ha)
      rw [List.mem_singleton.1 hb, hplace a ha, List.idxOf_append_of_notMem hnew]
      omega

/-! ## Dependents -/

mutual

theorem collect_eraseDups (names : List String) (n : Node) :
    Node.collect names.eraseDups n = (names ++ n.params).eraseDups := by
  cases n with
  | literal text => simp
  | param name => simp [eraseDups_concat]
  | group children =>
    -- the group has collected its own dependents, from nothing
    have hown : Node.collectAll [] children = (Node.paramsAll children).eraseDups :=
      collectAll_eraseDups [] children
    simp [hown, foldl_addName_eraseDups, eraseDups_append_eraseDups]

theorem collectAll_eraseDups (names : List String) (ns : List Node) :
    Node.collectAll names.eraseDups ns = (names ++ Node.paramsAll ns).eraseDups := by
  cases ns with
  | nil => simp
  | cons n ns => simp [collect_eraseDups names n, collectAll_eraseDups _ ns]

end

/-- The dependents of a group are the parameters inside it, at any depth, each once and in the order
    of first occurrence. -/
theorem dependents_eq_eraseDups (children : List Node) :
    Node.dependents children = (Node.paramsAll children).eraseDups :=
  collectAll_eraseDups [] children

theorem mem_dependents {children : List Node} {a : String} :
    a ∈ Node.dependents children ↔ a ∈ Node.paramsAll children := by
  rw [dependents_eq_eraseDups, List.mem_eraseDups]

/-- A dependent in front of another occurs before it. -/
theorem pairwise_dependents (children : List Node) :
    (Node.dependents children).Pairwise
      fun a b => (Node.paramsAll children).idxOf a < (Node.paramsAll children).idxOf b := by
  rw [dependents_eq_eraseDups]
  exact pairwise_eraseDups _

theorem nodup_dependents (children : List Node) : (Node.dependents children).Nodup := by
  refine (pairwise_dependents children).imp fun hlt heq => ?_
  rw [heq] at hlt
  exact Nat.lt_irrefl _ hlt

/-! ## At any depth -/

/-- A node stands among others, or inside a group that does. -/
inductive Node.Within : Node → List Node → Prop
  | here {n : Node} {ns : List Node} (h : n ∈ ns) : Node.Within n ns
  | inside {n : Node} {children ns : List Node} (h : .group children ∈ ns)
      (hn : Node.Within n children) : Node.Within n ns

theorem Node.Within.mono {n : Node} {ns ms : List Node} (h : n.Within ns) (hsub : ns ⊆ ms) :
    n.Within ms := by
  cases h with
  | here h => exact .here (hsub h)
  | inside h hn => exact .inside (hsub h) hn

theorem Node.within_append {n : Node} {ns ms : List Node} :
    n.Within (ns ++ ms) ↔ n.Within ns ∨ n.Within ms := by
  constructor
  · intro h
    cases h with
    | here h => exact (List.mem_append.1 h).imp .here .here
    | inside h hn => exact (List.mem_append.1 h).imp (.inside · hn) (.inside · hn)
  · rintro (h | h)
    · exact h.mono (List.subset_append_left ns ms)
    · exact h.mono (List.subset_append_right ns ms)

theorem Node.paramsAll_append (ns ms : List Node) :
    Node.paramsAll (ns ++ ms) = Node.paramsAll ns ++ Node.paramsAll ms := by
  induction ns with
  | nil => rfl
  | cons n ns ih => simp [ih]

theorem Node.params_isInfix {n : Node} {ns : List Node} (h : n ∈ ns) :
    n.params <:+: Node.paramsAll ns := by
  obtain ⟨before, behind, rfl⟩ := List.append_of_mem h
  refine ⟨Node.paramsAll before, Node.paramsAll behind, ?_⟩
  simp [Node.paramsAll_append]

/-- The parameters of a part stand together among those of the whole. -/
theorem Node.Within.params_isInfix {n : Node} {ns : List Node} (h : n.Within ns) :
    n.params <:+: Node.paramsAll ns := by
  induction h with
  | here h => exact Node.params_isInfix h
  | inside h _ ih =>
    have hgroup := Node.params_isInfix h
    exact ih.trans hgroup

mutual

theorem within_of_mem_params {a : String} (n : Node) (h : a ∈ n.params) :
    (Node.param a).Within [n] := by
  cases n with
  | literal text => exact absurd h List.not_mem_nil
  | param name =>
    rw [List.mem_singleton.1 h]
    exact .here List.mem_cons_self
  | group children => exact .inside List.mem_cons_self (within_of_mem_paramsAll children h)

theorem within_of_mem_paramsAll {a : String} (ns : List Node) (h : a ∈ Node.paramsAll ns) :
    (Node.param a).Within ns := by
  cases ns with
  | nil => exact absurd h List.not_mem_nil
  | cons n ns =>
    rw [Node.paramsAll_cons, List.mem_append] at h
    rw [← List.singleton_append, Node.within_append]
    exact h.imp (within_of_mem_params n) (within_of_mem_paramsAll ns)

end

/-- The parameters of nodes are those that stand among them at any depth. -/
theorem mem_paramsAll_iff_within {a : String} {ns : List Node} :
    a ∈ Node.paramsAll ns ↔ (Node.param a).Within ns := by
  constructor
  · exact within_of_mem_paramsAll ns
  · intro h
    have hpart := h.params_isInfix
    exact hpart.subset List.mem_cons_self

/-- A group has the dependents of every group inside it. -/
theorem dependents_subset_of_within {inner children : List Node}
    (h : (Node.group inner).Within children) :
    Node.dependents inner ⊆ Node.dependents children := by
  intro a ha
  have hpart := h.params_isInfix
  exact mem_dependents.2 (hpart.subset (mem_dependents.1 ha))

end Waymark.Template
