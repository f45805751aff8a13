/-
  Waymark.Proofs.Template.Written

  The text of a template's expression.  It is written for the nodes one after another, given what
  is written for the values of each parameter; a parameter whose condition is refused stops it.

  Main statements: `Sketch.source_addAll` and `Sketch.addAll_eq_error_iff`, which together say what
  comes of writing a template.
-/

import Waymark.Proofs.Regex.Fragment
import Waymark.Template.Matcher

namespace Waymark

/-- One computation behind another fails if the first does, or the second behind the first. -/
theorem bind_eq_error {ε α β : Type} {x : Except ε α} {f : α → Except ε β} {e : ε} :
    x >>= f = .error e ↔ x = .error e ∨ ∃ a, x = .ok a ∧ f a = .error e := by
  cases x with
  | error d => simp [bind, Except.bind]
  | ok a => simp [bind, Except.bind]

namespace Template

/-! ## Values -/

/-- What is written for the values of a parameter: a run of characters, its list of values, or its
    expression, in a group with Unicode mode off where that can be compiled. -/
def valueText [Regex.Capacity] (conditions : Dict Condition) (name : String) : String :=
  match conditions.get? name with
  | none => plainValue
  | some (.oneOf values) => (Condition.oneOf values).source
  | some (.expression source) =>
    if !isReserved name && (Regex.compile source false).isOk then "(?-u:" ++ source ++ ")"
    else source

/-- The expression of a condition that is refused. -/
def refusal? [Regex.Capacity] (conditions : Dict Condition) (name : String) : Option String :=
  match valueSource conditions name with
  | .ok _ => none
  | .error source => some source

theorem refusal?_eq_some_iff [Regex.Capacity] {conditions : Dict Condition} {name source : String} :
    refusal? conditions name = some source ↔ valueSource conditions name = .error source := by
  rw [refusal?]
  cases valueSource conditions name with
  | error s => simp
  | ok r => simp

theorem refusal?_eq_none_iff [Regex.Capacity] {conditions : Dict Condition} {name : String} :
    refusal? conditions name = none ↔ ∃ r, valueSource conditions name = .ok r := by
  rw [refusal?]
  cases valueSource conditions name with
  | error s => simp
  | ok r => simp

/-- The values of a parameter depend on its own condition alone. -/
theorem valueSource_congr [Regex.Capacity] {c d : Dict Condition} {name : String}
    (h : c.get? name = d.get? name) :
    valueSource c name = valueSource d name := by
  rw [valueSource, valueSource, h]

/-- Compiling a condition in ASCII mode, as it is tried for a name. -/
theorem toOption_eq_none_iff [Regex.Capacity] {name source : String} :
    (if isReserved name then none else (Regex.compile source false).toOption) = none ↔
      (!isReserved name && (Regex.compile source false).isOk) = false := by
  cases isReserved name with
  | true => simp
  | false =>
    cases Regex.compile source false with
    | error e => simp [Except.toOption, Except.isOk, Except.toBool]
    | ok r => simp [Except.toOption, Except.isOk, Except.toBool]

theorem valueText_eq [Regex.Capacity] {conditions : Dict Condition} {name value : String} {n : Nat}
    (h : valueSource conditions name = .ok (value, n)) : valueText conditions name = value := by
  rw [valueSource] at h
  rw [valueText]
  cases hcondition : conditions.get? name with
  | none =>
    rw [hcondition] at h
    cases h
    rfl
  | some condition =>
    rw [hcondition] at h
    cases condition with
    | oneOf values =>
      cases h
      rfl
    | expression source =>
      dsimp only at h ⊢
      -- in ASCII mode, or as it is
      split at h
      case h_1 r hascii =>
        cases h
        have hmode : (!isReserved name && (Regex.compile source false).isOk) = true := by
          rw [← Bool.not_eq_false, ← toOption_eq_none_iff, hascii]
          simp
        rw [if_pos hmode]
      case h_2 hascii =>
        rw [toOption_eq_none_iff] at hascii
        rw [hascii, if_neg Bool.false_ne_true]
        split at h
        case h_1 => exact (Prod.mk.inj (Except.ok.inj h)).1
        case h_2 => exact absurd h (by simp)

/-! ## Nodes -/

mutual

/-- The expression that is written for a node; `value` is written for the values of parameters. -/
def Node.expression (value : String → String) : Node → String
  | .literal text => Regex.escape text
  | .param name => "(" ++ value name ++ ")"
  | .group children => "(?:" ++ Node.expressionAll value children ++ ")?"

/-- The expression that is written for nodes, one after another. -/
def Node.expressionAll (value : String → String) : List Node → String
  | [] => ""
  | n :: ns => n.expression value ++ Node.expressionAll value ns

end

section

variable (value : String → String)

@[simp] theorem Node.expression_literal (text : String) :
    (Node.literal text).expression value = Regex.escape text := rfl

@[simp] theorem Node.expression_param (name : String) :
    (Node.param name).expression value = "(" ++ value name ++ ")" := rfl

@[simp] theorem Node.expression_group (children : List Node) :
    (Node.group children).expression value =
      "(?:" ++ Node.expressionAll value children ++ ")?" := rfl

@[simp] theorem Node.expressionAll_nil : Node.expressionAll value [] = "" := rfl

@[simp] theorem Node.expressionAll_cons (n : Node) (ns : List Node) :
    Node.expressionAll value (n :: ns) = n.expression value ++ Node.expressionAll value ns := rfl

end

/-- The expression that is written for a template. -/
def expressionOf (value : String → String) (tree : List Node) : String :=
  "^" ++ Node.expressionAll value tree ++ "$"

mutual

theorem Node.expression_congr {value value' : String → String} (n : Node)
    (h : ∀ a ∈ n.params, value a = value' a) : n.expression value = n.expression value' := by
  cases n with
  | literal text => rfl
  | param name => simp [h name (List.mem_singleton_self name)]
  | group children => simp [Node.expressionAll_congr children h]

theorem Node.expressionAll_congr {value value' : String → String} (ns : List Node)
    (h : ∀ a ∈ Node.paramsAll ns, value a = value' a) :
    Node.expressionAll value ns = Node.expressionAll value' ns := by
  cases ns with
  | nil => rfl
  | cons n ns =>
    rw [Node.expressionAll_cons, Node.expressionAll_cons,
      Node.expression_congr n fun a ha => h a (List.mem_append_left _ ha),
      Node.expressionAll_congr ns fun a ha => h a (List.mem_append_right _ ha)]

end

section

variable [Regex.Capacity] {conditions : Dict Condition} {k k' : Sketch}

@[simp] theorem Sketch.add_literal {text : String} :
    Sketch.add conditions k (.literal text) = .ok k' ↔
      { k with source := k.source ++ Regex.escape text } = k' := by
  simp [Sketch.add]

@[simp] theorem Sketch.add_param {name : String} :
    Sketch.add conditions k (.param name) = .ok k' ↔
      ∃ value n, valueSource conditions name = .ok (value, n) ∧
        ⟨k.source ++ "(" ++ value ++ ")", (name, k.next) :: k.slots, k.next + 1 + n⟩ = k' := by
  simp [Sketch.add]

@[simp] theorem Sketch.add_group {children : List Node} :
    Sketch.add conditions k (.group children) = .ok k' ↔
      ∃ k₁, Sketch.addAll conditions { k with source := k.source ++ "(?:" } children = .ok k₁ ∧
        { k₁ with source := k₁.source ++ ")?" } = k' := by
  simp [Sketch.add]

@[simp] theorem Sketch.addAll_nil : Sketch.addAll conditions k [] = .ok k' ↔ k = k' := by
  simp [Sketch.addAll]

@[simp] theorem Sketch.addAll_cons {n : Node} {ns : List Node} :
    Sketch.addAll conditions k (n :: ns) = .ok k' ↔
      ∃ k₁, Sketch.add conditions k n = .ok k₁ ∧ Sketch.addAll conditions k₁ ns = .ok k' := by
  simp [Sketch.addAll]

end

section

variable {conditions : Dict Condition}

mutual

theorem Sketch.source_add [Regex.Capacity] {k k' : Sketch} (n : Node)
    (h : Sketch.add conditions k n = .ok k') :
    k'.source = k.source ++ n.expression (valueText conditions) := by
  cases n with
  | literal text =>
    obtain rfl := Sketch.add_literal.1 h
    rfl
  | param name =>
    obtain ⟨value, counted, hvalue, rfl⟩ := Sketch.add_param.1 h
    simp [valueText_eq hvalue, String.append_assoc]
  | group children =>
    obtain ⟨k₁, hchildren, rfl⟩ := Sketch.add_group.1 h
    simp [Sketch.source_addAll children hchildren, String.append_assoc]

theorem Sketch.source_addAll [Regex.Capacity] {k k' : Sketch} (ns : List Node)
    (h : Sketch.addAll conditions k ns = .ok k') :
    k'.source = k.source ++ Node.expressionAll (valueText conditions) ns := by
  cases ns with
  | nil =>
    obtain rfl := Sketch.addAll_nil.1 h
    simp
  | cons n ns =>
    obtain ⟨k₁, hn, h⟩ := Sketch.addAll_cons.1 h
    simp [Sketch.source_addAll ns h, Sketch.source_add n hn, String.append_assoc]

end

mutual

/-- Writing a node fails at the first of its parameters whose condition is refused. -/
theorem Sketch.add_eq_error_iff [Regex.Capacity] {k : Sketch} {source : String} (n : Node) :
    Sketch.add conditions k n = .error source ↔
      n.params.findSome? (refusal? conditions) = some source := by
  cases n with
  | literal text =>
    rw [Sketch.add]
    simp
  | param name =>
    rw [Sketch.add, bind_eq_error]
    simp [refusal?_eq_some_iff, pure, Except.pure]
  | group children =>
    rw [Sketch.add, bind_eq_error, Sketch.addAll_eq_error_iff children]
    simp [pure, Except.pure]

/-- Writing nodes fails at the first of their parameters whose condition is refused. -/
theorem Sketch.addAll_eq_error_iff [Regex.Capacity] {k : Sketch} {source : String}
    (ns : List Node) :
    Sketch.addAll conditions k ns = .error source ↔
      (Node.paramsAll ns).findSome? (refusal? conditions) = some source := by
  cases ns with
  | nil =>
    rw [Sketch.addAll]
    simp
  | cons n ns =>
    rw [Sketch.addAll, bind_eq_error, Node.paramsAll_cons, List.findSome?_append,
      Sketch.add_eq_error_iff n, Option.or_eq_some_iff]
    refine or_congr_right ?_
    constructor
    · rintro ⟨k₁, hk₁, h⟩
      refine ⟨?_, (Sketch.addAll_eq_error_iff ns).1 h⟩
      -- the node was written, so nothing in it is refused
      rw [Option.eq_none_iff_forall_ne_some]
      intro refused hrefused
      rw [← Sketch.add_eq_error_iff n (k := k), hk₁] at hrefused
      exact absurd hrefused (by simp)
    · rintro ⟨hnone, h⟩
      cases hadd : Sketch.add conditions k n with
      | error refused =>
        rw [Sketch.add_eq_error_iff n, hnone] at hadd
        exact absurd hadd (by simp)
      | ok k₁ => exact ⟨k₁, rfl, (Sketch.addAll_eq_error_iff ns).2 h⟩

end

/-- Nodes are written if no condition is refused. -/
theorem exists_valueSource_of_addAll [Regex.Capacity] {k k' : Sketch} {ns : List Node}
    (h : Sketch.addAll conditions k ns = .ok k') :
    ∀ a ∈ Node.paramsAll ns, ∃ r, valueSource conditions a = .ok r := by
  -- a refused condition would have stopped the writing
  have hnone : (Node.paramsAll ns).findSome? (refusal? conditions) = none := by
    rw [Option.eq_none_iff_forall_ne_some]
    intro refused hrefused
    rw [← Sketch.addAll_eq_error_iff ns (k := k), h] at hrefused
    exact absurd hrefused (by simp)
  intro a ha
  exact refusal?_eq_none_iff.1 (List.findSome?_eq_none_iff.1 hnone a ha)

/-- The text that is compiled for a template. -/
theorem source_whole [Regex.Capacity] {k : Sketch} {tree : List Node}
    (h : Sketch.addAll conditions ⟨"^", [], 1⟩ tree = .ok k) :
    k.source ++ "$" = expressionOf (valueText conditions) tree := by
  rw [Sketch.source_addAll tree h, expressionOf]

end

end Template

end Waymark
