/-
  Waymark.Proofs.Template.Leaves

  Which parts of a template are written.  A leaf, literal text or one occurrence of a parameter,
  is kept if every group around it holds, at whatever depth, a parameter that is supplied with a
  value other than its default.  The writer sees groups one at a time, from the outside in, and
  asks the names collected for each; here a leaf is asked for all the groups around it at once.

  Main statement: `expand_parse`, the kept leaves are written, one behind another.
-/

import Waymark.Proofs.Template.Expansion
import Waymark.Template.Parse

namespace Waymark.Template

/-! ## Leaves -/

/-- A part of a template that is no group. -/
inductive Leaf where
  | literal (text : String)
  | param (name : String)

/-- A leaf at its place in a template. -/
structure Placed where
  leaf : Leaf
  /-- The groups around the leaf, the outermost first, each as the nodes inside it. -/
  around : List (List Node)

mutual

/-- The leaves of a node in the order of the template, given the groups around the node. -/
def Node.placed (around : List (List Node)) : Node → List Placed
  | .literal text => [⟨.literal text, around⟩]
  | .param name => [⟨.param name, around⟩]
  | .group children => Node.placedAll (around ++ [children]) children

/-- The leaves of nodes in the order of the template, given the groups around the nodes. -/
def Node.placedAll (around : List (List Node)) : List Node → List Placed
  | [] => []
  | n :: ns => n.placed around ++ Node.placedAll around ns

end

section

variable (around : List (List Node))

@[simp] theorem Node.placed_literal (text : String) :
    (Node.literal text).placed around = [⟨.literal text, around⟩] := rfl

@[simp] theorem Node.placed_param (name : String) :
    (Node.param name).placed around = [⟨.param name, around⟩] := rfl

@[simp] theorem Node.placed_group (children : List Node) :
    (Node.group children).placed around = Node.placedAll (around ++ [children]) children := rfl

@[simp] theorem Node.placedAll_nil : Node.placedAll around [] = [] := rfl

@[simp] theorem Node.placedAll_cons (n : Node) (ns : List Node) :
    Node.placedAll around (n :: ns) = n.placed around ++ Node.placedAll around ns := rfl

end

/-! ## Leaves that are kept -/

section

variable (params defaults : Dict String)

/-- A parameter is supplied with a value that differs from its default, or has no default. -/
def Supplied (name : String) : Prop :=
  ∃ value, params.get? name = some value ∧ defaults.get? name ≠ some value

/-- Every one of some groups holds, at whatever depth, a parameter that is supplied. -/
def AllOpen (groups : List (List Node)) : Prop :=
  ∀ g ∈ groups, ∃ name ∈ Node.paramsAll g, Supplied params defaults name

/-- What a leaf writes: its text, or the value of its parameter, else the default, else nothing. -/
def Leaf.text : Leaf → String
  | .literal text => text
  | .param name => ((params.get? name).or (defaults.get? name)).getD ""

end

variable {params defaults : Dict String}

theorem isTelling_iff {name : String} :
    isTelling params defaults name = true ↔ Supplied params defaults name := by
  rw [isTelling, Supplied]
  cases params.get? name with
  | none => simp
  | some value => simp

instance {name : String} : Decidable (Supplied params defaults name) :=
  decidable_of_iff _ isTelling_iff

instance {groups : List (List Node)} : Decidable (AllOpen params defaults groups) :=
  inferInstanceAs (Decidable (∀ g ∈ groups, ∃ name ∈ Node.paramsAll g, _))

theorem allOpen_nil : AllOpen params defaults [] := fun _ hg => absurd hg List.not_mem_nil

theorem allOpen_concat {groups : List (List Node)} {children : List Node} :
    AllOpen params defaults (groups ++ [children])
      ↔ AllOpen params defaults groups ∧ isWritten params defaults children = true := by
  have hwritten : isWritten params defaults children = true
      ↔ ∃ name ∈ Node.paramsAll children, Supplied params defaults name := by
    simp only [isWritten_iff, isTelling_iff]
  rw [hwritten, AllOpen, AllOpen]
  constructor
  · intro h
    exact ⟨fun g hg => h g (List.mem_append_left _ hg), h children (by simp)⟩
  · rintro ⟨hgroups, hchildren⟩ g hg
    rcases List.mem_append.1 hg with hg | hg
    · exact hgroups g hg
    · rw [List.mem_singleton.1 hg]
      exact hchildren

variable (params defaults) in
/-- What the kept ones of some leaves write, one behind another. -/
def keptText (leaves : List Placed) : String :=
  String.join ((leaves.filter fun p => AllOpen params defaults p.around).map
    fun p => p.leaf.text params defaults)

theorem keptText_append (ps qs : List Placed) :
    keptText params defaults (ps ++ qs)
      = keptText params defaults ps ++ keptText params defaults qs := by
  rw [keptText, List.filter_append, List.map_append, String.join_append]
  rfl

theorem keptText_singleton (p : Placed) :
    keptText params defaults [p]
      = if AllOpen params defaults p.around then p.leaf.text params defaults else "" := by
  rw [keptText]
  by_cases h : AllOpen params defaults p.around
  · rw [if_pos h, List.filter_cons_of_pos (by simpa using h)]
    simp
  · rw [if_neg h, List.filter_cons_of_neg (by simpa using h)]
    simp

/-! ## What is written -/

-- Outside of a closed group nothing is kept, so the groups around a node decide for all of it.
mutual

theorem keptText_placed (around : List (List Node)) (n : Node) :
    keptText params defaults (n.placed around)
      = if AllOpen params defaults around then expandNode params defaults n else "" := by
  cases n with
  | literal text => simp [keptText_singleton, Leaf.text]
  | param name => simp [keptText_singleton, Leaf.text, valueOf]
  | group children =>
    rw [Node.placed_group, keptText_placedAll, expandNode, ← isWritten]
    simp only [allOpen_concat]
    by_cases haround : AllOpen params defaults around
    · simp [haround]
    · simp [haround]

theorem keptText_placedAll (around : List (List Node)) (ns : List Node) :
    keptText params defaults (Node.placedAll around ns)
      = if AllOpen params defaults around then expand params defaults ns else "" := by
  cases ns with
  | nil =>
    rw [Node.placedAll_nil, expand_nil, ite_self]
    rfl
  | cons n ns =>
    rw [Node.placedAll_cons, keptText_append, keptText_placed around n,
      keptText_placedAll around ns, expand_cons]
    by_cases haround : AllOpen params defaults around
    · simp only [if_pos haround]
    · simp only [if_neg haround, String.append_empty]

end

/-- The kept leaves of a tree are what is written from it. -/
theorem expand_eq_keptText (tree : List Node) :
    expand params defaults tree = keptText params defaults (Node.placedAll [] tree) := by
  rw [keptText_placedAll, if_pos allOpen_nil]

/-! ## Parameters inside groups -/

mutual

/-- A parameter is one of the parameters of every group around it. -/
theorem mem_params_of_placed {around : List (List Node)} {p : Placed} {name : String} (n : Node)
    (hp : p ∈ n.placed around) (hname : p.leaf = .param name) :
    name ∈ n.params ∧ ∀ g ∈ p.around, g ∈ around ∨ name ∈ Node.paramsAll g := by
  cases n with
  | literal text =>
    rw [Node.placed_literal, List.mem_singleton] at hp
    rw [hp] at hname
    exact absurd hname (by simp)
  | param a =>
    rw [Node.placed_param, List.mem_singleton] at hp
    rw [hp, Leaf.param.injEq] at hname
    rw [hp, hname, Node.params_param]
    exact ⟨List.mem_singleton_self _, fun g hg => Or.inl hg⟩
  | group children =>
    obtain ⟨hmem, hgroups⟩ := mem_params_of_placedAll children hp hname
    refine ⟨hmem, fun g hg => ?_⟩
    rcases hgroups g hg with h | h
    · rcases List.mem_append.1 h with h | h
      · exact Or.inl h
      · -- the group itself: the parameter is among its children
        rw [List.mem_singleton.1 h]
        exact Or.inr hmem
    · exact Or.inr h

theorem mem_params_of_placedAll {around : List (List Node)} {p : Placed} {name : String}
    (ns : List Node) (hp : p ∈ Node.placedAll around ns) (hname : p.leaf = .param name) :
    name ∈ Node.paramsAll ns ∧ ∀ g ∈ p.around, g ∈ around ∨ name ∈ Node.paramsAll g := by
  cases ns with
  | nil => exact absurd hp (by simp)
  | cons n ns =>
    rw [Node.placedAll_cons, List.mem_append] at hp
    rw [Node.paramsAll_cons, List.mem_append]
    rcases hp with hp | hp
    · obtain ⟨hmem, hgroups⟩ := mem_params_of_placed n hp hname
      exact ⟨Or.inl hmem, hgroups⟩
    · obtain ⟨hmem, hgroups⟩ := mem_params_of_placedAll ns hp hname
      exact ⟨Or.inr hmem, hgroups⟩

end

/-- Every occurrence of a parameter that is supplied is kept: it opens the groups around it. -/
theorem allOpen_around_of_supplied {tree : List Node} {p : Placed} {name : String}
    (hp : p ∈ Node.placedAll [] tree) (hname : p.leaf = .param name)
    (hsupplied : Supplied params defaults name) : AllOpen params defaults p.around := by
  intro g hg
  rcases (mem_params_of_placedAll tree hp hname).2 g hg with h | h
  · exact absurd h List.not_mem_nil
  · exact ⟨name, h, hsupplied⟩

/-- What is written from a template are its kept leaves, in order.  So a parameter that is supplied
    with a value other than its default is written with that value wherever it occurs, and of a
    group in which every parameter is absent or at its default no leaf is written. -/
theorem expand_parse (params defaults : Dict String) (text : String) :
    expand params defaults (parse text)
      = String.join (((Node.placedAll [] (parse text)).filter
          fun p => AllOpen params defaults p.around).map fun p => p.leaf.text params defaults) ∧
    (∀ p ∈ Node.placedAll [] (parse text), ∀ name value, p.leaf = .param name →
      params.get? name = some value → defaults.get? name ≠ some value →
      AllOpen params defaults p.around ∧ p.leaf.text params defaults = value) ∧
    (∀ p ∈ Node.placedAll [] (parse text), ∀ g ∈ p.around,
      (∀ name ∈ Node.paramsAll g, params.get? name = none ∨ params.get? name = defaults.get? name) →
      ¬ AllOpen params defaults p.around) := by
  refine ⟨expand_eq_keptText _, ?_, ?_⟩
  · intro p hp name value hname hvalue hdefault
    refine ⟨allOpen_around_of_supplied hp hname ⟨value, hvalue, hdefault⟩, ?_⟩
    rw [hname, Leaf.text, hvalue]
    rfl
  · intro p _ g hg hclosed hopen
    obtain ⟨name, hname, value, hvalue, hdefault⟩ := hopen g hg
    rcases hclosed name hname with h | h
    · rw [hvalue] at h
      exact absurd h (by simp)
    · exact hdefault (h ▸ hvalue)

/-- A value in an inner group opens the groups around it, an equal default does not. -/
example :
    let params := Dict.empty.insert "y" "v"
    expand params .empty [.literal "/a", .group [.literal "/", .param "x", .group [.literal "/",
      .param "y"]]] = "/a//v" ∧
    expand params params [.literal "/a", .group [.literal "/", .param "x", .group [.literal "/",
      .param "y"]]] = "/a" := by
  decide +kernel

end Waymark.Template
