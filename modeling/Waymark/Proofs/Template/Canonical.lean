/-
  Waymark.Proofs.Template.Canonical

  Trees that are read back from the text they write.  A canonical tree has names for its parameters
  and, between them, literal texts that hold no brackets and no parentheses and never stand side by
  side; groups may be empty and nest to any depth.  The text of such a tree is balanced, so each
  group ends at its own parenthesis.

  A `Marked` tree has the dependents of every group written down in it.  Main statement:
  `marked_parse_source`, which reads these back as well.
-/

import Waymark.Proofs.Template.Groups

namespace Waymark.Template

/-! ## Canonical trees -/

/-- The characters of literal text that nothing can be mistaken in. -/
def isLiteralChar (c : Char) : Bool := c != '(' && c != ')' && isPlainText c

/-- Whether a node in front of others leaves no two literals side by side. -/
def Node.StandsApart : Node → List Node → Prop
  | .literal _, .literal _ :: _ => False
  | _, _ => True

mutual

/-- What a node of a canonical tree is like. -/
def Node.Canonical : Node → Prop
  | .literal text => text ≠ "" ∧ text.toList.all isLiteralChar = true
  | .param name => IsName name
  | .group children => Node.CanonicalAll children

/-- What the nodes of a canonical tree are like, and that literals stand apart. -/
def Node.CanonicalAll : List Node → Prop
  | [] => True
  | n :: ns => n.Canonical ∧ n.StandsApart ns ∧ Node.CanonicalAll ns

end

@[simp] theorem Node.canonicalAll_nil : Node.CanonicalAll [] := trivial

@[simp] theorem Node.canonicalAll_cons {n : Node} {ns : List Node} :
    Node.CanonicalAll (n :: ns) ↔ n.Canonical ∧ n.StandsApart ns ∧ Node.CanonicalAll ns := Iff.rfl

theorem Node.CanonicalAll.of_append_right {ns ms : List Node} (h : Node.CanonicalAll (ns ++ ms)) :
    Node.CanonicalAll ms := by
  induction ns with
  | nil => exact h
  | cons n ns ih =>
    rw [List.cons_append, Node.canonicalAll_cons] at h
    exact ih h.2.2

theorem Node.StandsApart.of_append {n : Node} {ns ms : List Node} (h : n.StandsApart (ns ++ ms)) :
    n.StandsApart ns := by
  cases ns with
  | nil => cases n <;> trivial
  | cons m ns =>
    cases n with
    | literal text =>
      cases m with
      | literal text => exact h
      | param name => trivial
      | group children => trivial
    | param name => trivial
    | group children => trivial

theorem Node.CanonicalAll.of_append_left {ns ms : List Node} (h : Node.CanonicalAll (ns ++ ms)) :
    Node.CanonicalAll ns := by
  induction ns with
  | nil => trivial
  | cons n ns ih =>
    rw [List.cons_append, Node.canonicalAll_cons] at h
    exact ⟨h.1, h.2.1.of_append, ih h.2.2⟩

/-! ## The text of a canonical tree -/

theorem ne_of_isLiteralChar {c : Char} (h : isLiteralChar c = true) :
    (c ≠ '(' ∧ c ≠ ')') ∧ isPlainText c = true := by
  rw [isLiteralChar, Bool.and_eq_true, Bool.and_eq_true, bne_iff_ne, bne_iff_ne] at h
  exact h

theorem IsName.ne_of_mem {name : String} (h : IsName name) {c : Char} (hc : c ∈ name.toList) :
    c ≠ '(' ∧ c ≠ ')' := by
  have hchar : isNameChar c = true := List.all_eq_true.1 h.all c hc
  constructor
  · rintro rfl
    exact absurd hchar (by decide)
  · rintro rfl
    exact absurd hchar (by decide)

theorem toList_source_param (name : String) :
    (Node.param name).source.toList = '<' :: (name.toList ++ ['>']) := by
  simp [Node.source]

/-- Outside its groups a canonical tree writes no parentheses. -/
theorem Node.Canonical.ne_of_mem_source {n : Node} (h : n.Canonical)
    (hflat : ∀ children, n ≠ .group children) {c : Char} (hc : c ∈ n.source.toList) :
    c ≠ '(' ∧ c ≠ ')' := by
  cases n with
  | literal text => exact (ne_of_isLiteralChar (List.all_eq_true.1 h.2 c hc)).1
  | param name =>
    rw [toList_source_param, List.mem_cons, List.mem_append, List.mem_singleton] at hc
    rcases hc with rfl | hc | rfl
    · decide
    · exact h.ne_of_mem hc
    · decide
  | group children => exact absurd rfl (hflat children)

mutual

theorem Node.Canonical.balanced {n : Node} (h : n.Canonical) : Balanced n.source.toList := by
  cases n with
  | literal text => exact Balanced.of_all fun c hc => h.ne_of_mem_source (by simp) hc
  | param name => exact Balanced.of_all fun c hc => h.ne_of_mem_source (by simp) hc
  | group children =>
    have hgroup := Balanced.nest (Node.CanonicalAll.balanced h) .nil
    have htext : (Node.group children).source.toList
        = '(' :: ((Node.sourceAll children).toList ++ [')']) := by
      simp [Node.source]
    rw [htext]
    exact hgroup

theorem Node.CanonicalAll.balanced {ns : List Node} (h : Node.CanonicalAll ns) :
    Balanced (Node.sourceAll ns).toList := by
  cases ns with
  | nil => exact .nil
  | cons n ns =>
    rw [Node.sourceAll_cons, String.toList_append]
    exact h.1.balanced.append h.2.2.balanced

end

/-! ## Reading it back -/

/-- Whether there is no group among the nodes. -/
def Flat (ns : List Node) : Prop := ∀ n ∈ ns, ∀ children, n ≠ .group children

theorem flat_nil : Flat [] := fun _ hn => absurd hn List.not_mem_nil

theorem Flat.cons {n : Node} {ns : List Node} (h : Flat ns) (hn : ∀ children, n ≠ .group children) :
    Flat (n :: ns) := by
  intro m hm
  rcases List.mem_cons.1 hm with rfl | hm
  · exact hn
  · exact h m hm

theorem Flat.concat {ns : List Node} {n : Node} (h : Flat ns)
    (hn : ∀ children, n ≠ .group children) : Flat (ns ++ [n]) := by
  intro m hm
  rcases List.mem_append.1 hm with hm | hm
  · exact h m hm
  · rw [List.mem_singleton.1 hm]
    exact hn

theorem Node.group_or_ne (n : Node) :
    (∃ children, n = .group children) ∨ ∀ children, n ≠ .group children := by
  cases n with
  | group children => exact Or.inl ⟨children, rfl⟩
  | literal text => exact Or.inr (by simp)
  | param name => exact Or.inr (by simp)

/-- Text that falls into nodes without groups has none. -/
theorem Splits.flat {s : List Char} {ns : List Node} (h : Splits s ns) : Flat ns := by
  induction h with
  | nil => exact flat_nil
  | param _ _ ih => exact ih.cons (by simp)
  | opening _ _ ih => exact ih.cons (by simp)
  | closing _ ih => exact ih.cons (by simp)
  | run _ _ _ _ ih => exact ih.cons (by simp)

/-- What stands behind a literal does not continue it. -/
theorem stops_source {text : String} {ns : List Node} (hflat : Flat ns)
    (happart : (Node.literal text).StandsApart ns) :
    Stops isPlainText (Node.sourceAll ns).toList := by
  cases ns with
  | nil => exact fun c hc => absurd hc (by simp [Node.sourceAll])
  | cons m ns =>
    cases m with
    | literal text => exact absurd happart id
    | group children => exact absurd rfl (hflat _ List.mem_cons_self children)
    | param name =>
      intro c hc
      rw [Node.sourceAll_cons, String.toList_append, toList_source_param] at hc
      cases hc
      decide

/-- Nodes without groups are those that their text falls into. -/
theorem splits_source {ns : List Node} (h : Node.CanonicalAll ns) (hflat : Flat ns) :
    Splits (Node.sourceAll ns).toList ns := by
  induction ns with
  | nil => exact .nil
  | cons n ns ih =>
    have hflat' : Flat ns := fun m hm => hflat m (List.mem_cons_of_mem n hm)
    have hrest := ih h.2.2 hflat'
    rw [Node.sourceAll_cons, String.toList_append]
    cases n with
    | group children => exact absurd rfl (hflat _ List.mem_cons_self children)
    | param name =>
      obtain ⟨hname, -, -⟩ := h
      rw [toList_source_param, List.cons_append, List.append_assoc, List.singleton_append]
      exact .param hname hrest
    | literal text =>
      obtain ⟨hliteral, happart, -⟩ := h
      have hne : text.toList ≠ [] := by simpa using hliteral.1
      have hplain : text.toList.all isPlainText = true := by
        rw [List.all_eq_true]
        intro c hc
        exact (ne_of_isLiteralChar (List.all_eq_true.1 hliteral.2 c hc)).2
      have hrun := Splits.run hne hplain (stops_source hflat' happart) hrest
      rw [String.ofList_toList] at hrun
      exact hrun

theorem not_mem_source {ns : List Node} (h : Node.CanonicalAll ns) (hflat : Flat ns) :
    '(' ∉ (Node.sourceAll ns).toList := by
  induction ns with
  | nil => exact List.not_mem_nil
  | cons n ns ih =>
    rw [Node.sourceAll_cons, String.toList_append, List.mem_append]
    rintro (hc | hc)
    · exact (h.1.ne_of_mem_source (hflat n List.mem_cons_self) hc).1 rfl
    · exact ih h.2.2 (fun m hm => hflat m (List.mem_cons_of_mem n hm)) hc

/-- The nodes `flat` in front of the next group, and all that follows. -/
theorem parses_source (flat ns : List Node) (hflat : Flat flat)
    (h : Node.CanonicalAll (flat ++ ns)) :
    Parses (Node.sourceAll (flat ++ ns)).toList (flat ++ ns) := by
  have hsplits := splits_iff.1 (splits_source h.of_append_left hflat)
  have hhead := not_mem_source h.of_append_left hflat
  match ns with
  | [] =>
    rw [List.append_nil]
    have hplain := Parses.plain hhead
    rw [hsplits] at hplain
    exact hplain
  | n :: rest =>
    rcases n.group_or_ne with ⟨children, rfl⟩ | hn
    · have hns := h.of_append_right
      rw [Node.canonicalAll_cons, Node.Canonical] at hns
      obtain ⟨hchildren, -, hrest⟩ := hns
      have hbody := parses_source [] children flat_nil hchildren
      have hbehind := parses_source [] rest flat_nil hrest
      have hgroup := Parses.group hhead
        (splitGroup_close hchildren.balanced (Node.sourceAll rest).toList) hbody hbehind
      rw [hsplits] at hgroup
      rw [toList_sourceAll_append, toList_sourceAll_group]
      exact hgroup
    · -- one node more in front of the next group
      have hnext := parses_source (flat ++ [n]) rest (hflat.concat hn)
      rw [List.append_assoc, List.singleton_append] at hnext
      exact hnext h
termination_by sizeOf ns

/-- A canonical tree is read back from the text that it writes. -/
theorem parse_source_of_canonical {tree : List Node} (h : Node.CanonicalAll tree) :
    parse (Node.sourceAll tree) = tree := by
  have hparses := parses_source [] tree flat_nil h
  rw [List.nil_append, parses_iff, String.ofList_toList] at hparses
  exact hparses

/-! ## Dependents -/

/-- A part of a template, with the dependents of every group written down. -/
inductive Marked where
  | literal (text : String)
  | param (name : String)
  | group (children : List Marked) (dependents : List String)

namespace Marked

/-- Adds the parameters of a node to those collected before it; of a group, its dependents. -/
def collect (names : List String) : Marked → List String
  | .literal _ => names
  | .param name => Node.addName names name
  | .group _ dependents => dependents.foldl Node.addName names

/-- The group with these children, its dependents collected from theirs. -/
def groupOf (children : List Marked) : Marked := .group children (children.foldl collect [])

mutual

/-- The node without the dependents. -/
def node : Marked → Node
  | .literal text => .literal text
  | .param name => .param name
  | .group children _ => .group (nodes children)

/-- The nodes without the dependents. -/
def nodes : List Marked → List Node
  | [] => []
  | m :: ms => m.node :: nodes ms

end

mutual

/-- The node with the dependents of its groups. -/
def ofNode : Node → Marked
  | .literal text => .literal text
  | .param name => .param name
  | .group children => .group (ofNodes children) (Node.dependents children)

/-- The nodes with the dependents of their groups. -/
def ofNodes : List Node → List Marked
  | [] => []
  | n :: ns => ofNode n :: ofNodes ns

end

mutual

/-- Every group in the node is made by `groupOf`. -/
def Grown : Marked → Prop
  | .literal _ => True
  | .param _ => True
  | .group children dependents =>
    Marked.group children dependents = groupOf children ∧ GrownAll children

/-- Every group in the nodes is made by `groupOf`. -/
def GrownAll : List Marked → Prop
  | [] => True
  | m :: ms => m.Grown ∧ GrownAll ms

end

mutual

theorem Grown.collect_node {m : Marked} (h : m.Grown) (names : List String) :
    Node.collect names m.node = m.collect names := by
  cases m with
  | literal text => rfl
  | param name => rfl
  | group children dependents =>
    rw [Grown, groupOf, group.injEq] at h
    obtain ⟨⟨-, rfl⟩, hchildren⟩ := h
    simp [node, collect, hchildren.collectAll_nodes]

/-- The dependents of nodes can be collected with those of the groups among them, or without. -/
theorem GrownAll.collectAll_nodes {ms : List Marked} (h : GrownAll ms) (names : List String) :
    Node.collectAll names (nodes ms) = ms.foldl collect names := by
  cases ms with
  | nil => rfl
  | cons m ms =>
    rw [GrownAll] at h
    rw [nodes, Node.collectAll_cons, List.foldl_cons, h.1.collect_node, h.2.collectAll_nodes]

end

mutual

theorem Grown.ofNode_node {m : Marked} (h : m.Grown) : ofNode m.node = m := by
  cases m with
  | literal text => rfl
  | param name => rfl
  | group children dependents =>
    rw [Grown, groupOf, group.injEq] at h
    obtain ⟨⟨-, rfl⟩, hchildren⟩ := h
    rw [node, ofNode, hchildren.ofNodes_nodes, Node.dependents, hchildren.collectAll_nodes]

/-- The dependents of groups made from their children are known from the nodes alone. -/
theorem GrownAll.ofNodes_nodes {ms : List Marked} (h : GrownAll ms) : ofNodes (nodes ms) = ms := by
  cases ms with
  | nil => rfl
  | cons m ms =>
    rw [GrownAll] at h
    rw [nodes, ofNodes, h.1.ofNode_node, h.2.ofNodes_nodes]

end

end Marked

/-- A canonical tree whose groups were made from their children is read back from the text that it
    writes, with the dependents of every group. -/
theorem marked_parse_source (tree : List Marked) (hgrown : Marked.GrownAll tree)
    (hcanonical : Node.CanonicalAll (Marked.nodes tree)) :
    parse (Node.sourceAll (Marked.nodes tree)) = Marked.nodes tree ∧
      Marked.ofNodes (parse (Node.sourceAll (Marked.nodes tree))) = tree := by
  have hparse := parse_source_of_canonical hcanonical
  refine ⟨hparse, ?_⟩
  rw [hparse, hgrown.ofNodes_nodes]

/-- Empty groups, groups in groups, and a parameter that occurs twice. -/
theorem marked_parse_source_of_nested_groups :
    let inner := Marked.groupOf [.param "b", .groupOf [], .param "a"]
    let tree := [.literal "/x", .param "a", .groupOf [.param "a", inner, .literal "-"], .literal "y"]
    Marked.GrownAll tree ∧ Node.CanonicalAll (Marked.nodes tree) ∧
      Node.sourceAll (Marked.nodes tree) = "/x<a>(<a>(<b>()<a>)-)y" ∧
      Marked.ofNodes (parse "/x<a>(<a>(<b>()<a>)-)y") = tree ∧
      inner = .group [.param "b", .group [] [], .param "a"] ["b", "a"] := by
  intro inner tree
  have hgrown : Marked.GrownAll tree := by
    simp only [tree, inner, Marked.groupOf, Marked.GrownAll, Marked.Grown, and_self]
  have hname : ∀ c : Char, isNameStart c = true → IsName (String.ofList [c]) := fun c hc =>
    ⟨c, [], String.toList_ofList, hc, rfl⟩
  have hcanonical : Node.CanonicalAll (Marked.nodes tree) := by
    have ha : IsName "a" := hname 'a' (by decide)
    have hb : IsName "b" := hname 'b' (by decide)
    simp only [tree, inner, Marked.groupOf, Marked.nodes, Marked.node, Node.CanonicalAll,
      Node.Canonical, Node.StandsApart, ha, hb, true_and, and_true]
    decide
  have hsource : Node.sourceAll (Marked.nodes tree) = "/x<a>(<a>(<b>()<a>)-)y" := by decide
  have hread := (marked_parse_source tree hgrown hcanonical).2
  rw [hsource] at hread
  exact ⟨hgrown, hcanonical, hsource, hread, rfl⟩

end Waymark.Template
