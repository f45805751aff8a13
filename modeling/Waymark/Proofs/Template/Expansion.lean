/-
  Waymark.Proofs.Template.Expansion

  Reading what a template wrote.  `Regained` says, node by node, that the preferred reading of the
  written text is the one that was written: a parameter's reader takes its value first, a group
  that was left out cannot be read where it would stand.

  Main statement: `firstReading?_expand`.
-/

import Waymark.Proofs.Template.Dependents
import Waymark.Proofs.Template.Reading
import Waymark.Template.Expand

namespace Waymark.Template

/-! ## What is written -/

section

variable (params defaults : Dict String)

/-- Whether a group is written. -/
def isWritten (children : List Node) : Bool :=
  (Node.dependents children).any (isTelling params defaults)

mutual

/-- The parameters that a node writes. -/
def Node.written : Node → Captured
  | .literal _ => []
  | .param name => [(name, (valueOf params defaults name).toList)]
  | .group children =>
    if isWritten params defaults children then Node.writtenAll children else []

/-- The parameters that nodes write. -/
def Node.writtenAll : List Node → Captured
  | [] => []
  | n :: ns => n.written ++ Node.writtenAll ns

end

@[simp] theorem Node.written_literal (text : String) :
    (Node.literal text).written params defaults = [] := rfl

@[simp] theorem Node.written_param (name : String) :
    (Node.param name).written params defaults
      = [(name, (valueOf params defaults name).toList)] := rfl

@[simp] theorem Node.writtenAll_nil : Node.writtenAll params defaults [] = [] := rfl

@[simp] theorem Node.writtenAll_cons (n : Node) (ns : List Node) :
    Node.writtenAll params defaults (n :: ns)
      = n.written params defaults ++ Node.writtenAll params defaults ns := rfl

mutual

/-- A node is read as it was written when the text `f` stands behind it. -/
def Node.Regained (R : String → Reader) (f : List Char) : Node → Prop
  | .literal _ => True
  | .param name =>
    valueOf params defaults name ≠ "" ∧
      (R name ((valueOf params defaults name).toList ++ f)).head?
        = some ((valueOf params defaults name).toList, f)
  | .group children =>
    if isWritten params defaults children then Node.RegainedAll R f children
    else Node.readingsAll R children f = []

/-- Nodes are read as they were written when the text `f` stands behind them. -/
def Node.RegainedAll (R : String → Reader) (f : List Char) : List Node → Prop
  | [] => True
  | n :: ns =>
    n.Regained R ((expand params defaults ns).toList ++ f) ∧ Node.RegainedAll R f ns

end

end

variable {params defaults : Dict String}

theorem isWritten_iff {children : List Node} :
    isWritten params defaults children = true
      ↔ ∃ a ∈ Node.paramsAll children, isTelling params defaults a = true := by
  rw [isWritten, List.any_eq_true]
  constructor
  · rintro ⟨a, ha, h⟩
    exact ⟨a, mem_dependents.1 ha, h⟩
  · rintro ⟨a, ha, h⟩
    exact ⟨a, mem_dependents.2 ha, h⟩

mutual

theorem Node.sublist_written (n : Node) :
    ((n.written params defaults).map (·.1)).Sublist n.params := by
  cases n with
  | literal text => exact List.Sublist.refl _
  | param name => exact List.Sublist.refl _
  | group children =>
    rw [Node.written, Node.params_group]
    by_cases h : isWritten params defaults children = true
    · rw [if_pos h]
      exact Node.sublist_writtenAll children
    · rw [if_neg h]
      exact List.nil_sublist _

theorem Node.sublist_writtenAll (ns : List Node) :
    ((Node.writtenAll params defaults ns).map (·.1)).Sublist (Node.paramsAll ns) := by
  cases ns with
  | nil => exact List.Sublist.refl _
  | cons n ns =>
    rw [Node.writtenAll_cons, Node.paramsAll_cons, List.map_append]
    exact (Node.sublist_written n).append (Node.sublist_writtenAll ns)

end

mutual

/-- What is written for a parameter is its value, which is not empty. -/
theorem Node.value_of_mem_written {R : String → Reader} {f : List Char} {e : String × List Char}
    (n : Node) (h : n.Regained params defaults R f) (he : e ∈ n.written params defaults) :
    e.2 = (valueOf params defaults e.1).toList ∧ valueOf params defaults e.1 ≠ "" := by
  cases n with
  | literal text => exact absurd he List.not_mem_nil
  | param name =>
    rw [Node.written_param, List.mem_singleton] at he
    subst he
    exact ⟨rfl, h.1⟩
  | group children =>
    rw [Node.written] at he
    rw [Node.Regained] at h
    by_cases hw : isWritten params defaults children = true
    · rw [if_pos hw] at he h
      exact Node.value_of_mem_writtenAll children h he
    · rw [if_neg hw] at he
      exact absurd he List.not_mem_nil

theorem Node.value_of_mem_writtenAll {R : String → Reader} {f : List Char}
    {e : String × List Char} (ns : List Node) (h : Node.RegainedAll params defaults R f ns)
    (he : e ∈ Node.writtenAll params defaults ns) :
    e.2 = (valueOf params defaults e.1).toList ∧ valueOf params defaults e.1 ≠ "" := by
  cases ns with
  | nil => exact absurd he List.not_mem_nil
  | cons n ns =>
    rw [Node.writtenAll_cons, List.mem_append] at he
    rcases he with he | he
    · exact Node.value_of_mem_written n h.1 he
    · exact Node.value_of_mem_writtenAll ns h.2 he

end

mutual

/-- A parameter that is not written has its default, or nothing. -/
theorem Node.mem_written_of_isTelling {a : String} (n : Node) (ha : a ∈ n.params)
    (h : isTelling params defaults a = true) :
    a ∈ (n.written params defaults).map (·.1) := by
  cases n with
  | literal text => exact absurd ha List.not_mem_nil
  | param name => exact ha
  | group children =>
    rw [Node.written, if_pos (isWritten_iff.2 ⟨a, ha, h⟩)]
    exact Node.mem_writtenAll_of_isTelling children ha h

theorem Node.mem_writtenAll_of_isTelling {a : String} (ns : List Node)
    (ha : a ∈ Node.paramsAll ns) (h : isTelling params defaults a = true) :
    a ∈ (Node.writtenAll params defaults ns).map (·.1) := by
  cases ns with
  | nil => exact absurd ha List.not_mem_nil
  | cons n ns =>
    rw [Node.paramsAll_cons, List.mem_append] at ha
    rw [Node.writtenAll_cons, List.map_append, List.mem_append]
    rcases ha with ha | ha
    · exact Or.inl (Node.mem_written_of_isTelling n ha h)
    · exact Or.inr (Node.mem_writtenAll_of_isTelling ns ha h)

end

/-! ## One list behind another -/

theorem expand_append (ns ms : List Node) :
    expand params defaults (ns ++ ms) = expand params defaults ns ++ expand params defaults ms := by
  induction ns with
  | nil => rfl
  | cons n ns ih => simp [ih, String.append_assoc]

theorem Node.RegainedAll.append {R : String → Reader} {f : List Char} {ns ms : List Node}
    (hns : Node.RegainedAll params defaults R ((expand params defaults ms).toList ++ f) ns)
    (hms : Node.RegainedAll params defaults R f ms) :
    Node.RegainedAll params defaults R f (ns ++ ms) := by
  induction ns with
  | nil => exact hms
  | cons n ns ih =>
    rw [List.cons_append, Node.RegainedAll, expand_append, String.toList_append, List.append_assoc]
    exact ⟨hns.1, ih hns.2⟩

/-! ## Reading it back -/

theorem head?_flatMap {α β : Type} {as : List α} {g : α → List β} {a : α} {b : β}
    (ha : as.head? = some a) (hb : (g a).head? = some b) : (as.flatMap g).head? = some b := by
  obtain ⟨rest, rfl⟩ := List.head?_eq_some_iff.1 ha
  obtain ⟨more, hmore⟩ := List.head?_eq_some_iff.1 hb
  rw [List.flatMap_cons, hmore]
  rfl

mutual

theorem Node.head?_readings_expand {R : String → Reader} {f : List Char} (n : Node)
    (h : n.Regained params defaults R f) :
    (n.readings R ((expandNode params defaults n).toList ++ f)).head?
      = some (n.written params defaults, f) := by
  cases n with
  | literal text => simp
  | param name =>
    rw [expandNode_param, Node.readings_param, List.head?_map, h.2]
    rfl
  | group children =>
    rw [Node.Regained] at h
    rw [expandNode, Node.readings_group, Node.written]
    by_cases hw : isWritten params defaults children = true
    · rw [if_pos hw] at h
      rw [isWritten] at hw
      rw [if_pos hw, isWritten, if_pos hw, List.head?_append,
        Node.head?_readingsAll_expand children h]
      rfl
    · -- nothing was written, and the group cannot be read here, so it is skipped
      rw [if_neg hw] at h
      rw [isWritten] at hw
      rw [if_neg hw, isWritten, if_neg hw, String.toList_empty, List.nil_append, h]
      rfl

theorem Node.head?_readingsAll_expand {R : String → Reader} {f : List Char} (ns : List Node)
    (h : Node.RegainedAll params defaults R f ns) :
    (Node.readingsAll R ns ((expand params defaults ns).toList ++ f)).head?
      = some (Node.writtenAll params defaults ns, f) := by
  cases ns with
  | nil => rfl
  | cons n ns =>
    rw [expand_cons, Node.readingsAll_cons, String.toList_append, List.append_assoc]
    refine head?_flatMap (Node.head?_readings_expand n h.1) ?_
    rw [List.head?_map, Node.head?_readingsAll_expand ns h.2]
    rfl

end

/-- A path is read as it was written. -/
theorem firstReading?_expand {R : String → Reader} {tree : List Node}
    (h : Node.RegainedAll params defaults R [] tree) :
    firstReading? R tree (expand params defaults tree).toList
      = some (Node.writtenAll params defaults tree) := by
  have hhead := Node.head?_readingsAll_expand tree h
  rw [List.append_nil] at hhead
  obtain ⟨rest, hrest⟩ := List.head?_eq_some_iff.1 hhead
  rw [firstReading?, hrest, List.find?_cons]
  rfl

end Waymark.Template
