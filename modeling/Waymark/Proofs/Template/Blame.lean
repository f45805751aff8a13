/-
  Waymark.Proofs.Template.Blame

  Why a template cannot be compiled.  Conditions of names that are no parameters never matter.  A
  condition that is refused by itself, whether Unicode mode is off or on, is blamed; of several the
  first one in the order of the template.  Without such a condition the whole expression of the
  template decides, and is blamed if anything is.

  Main statement: `compile_blames`.
-/

import Waymark.Proofs.Router.Order
import Waymark.Proofs.Template.Expression
import Waymark.Regex.Estimate
import Waymark.Template.Parse

namespace Waymark.Template

/-! ## Conditions that are refused -/

/-- The condition of a parameter is an expression that is refused by itself, in either mode. -/
def RefusedIn [Regex.Capacity] (conditions : Dict Condition) (name source : String) : Prop :=
  conditions.get? name = some (.expression source) ∧
    ∀ unicode r, Regex.compile source unicode ≠ .ok r

/-- What is written for an expression depends on what the two modes make of it. -/
theorem valueSource_of_expression [Regex.Capacity] {conditions : Dict Condition}
    {name source : String} (hreserved : isReserved name = false)
    (h : conditions.get? name = some (.expression source)) :
    (∃ e, valueSource conditions name = .error e) ↔
      ∀ unicode r, Regex.compile source unicode ≠ .ok r := by
  rw [valueSource, h]
  simp only [hreserved, Bool.false_eq_true, if_false]
  -- the mode is tried off first and on then; an error comes of both alone
  cases hascii : Regex.compile source false with
  | ok r =>
    simp only [Except.toOption]
    constructor
    · rintro ⟨e, he⟩
      exact absurd he (by simp)
    · intro hrefused
      exact absurd hascii (hrefused false r)
  | error e =>
    simp only [Except.toOption]
    cases hunicode : Regex.compile source with
    | ok r =>
      constructor
      · rintro ⟨e, he⟩
        exact absurd he (by simp)
      · intro hrefused
        exact absurd hunicode (hrefused true r)
    | error e' =>
      refine ⟨fun _ unicode r hr => ?_, fun _ => ⟨source, rfl⟩⟩
      cases unicode with
      | false => exact absurd (hascii.symm.trans hr) (by simp)
      | true => exact absurd (hunicode.symm.trans hr) (by simp)

/-- Only expressions are refused, and the error names the expression. -/
theorem eq_of_valueSource_eq_error [Regex.Capacity] {conditions : Dict Condition}
    {name refused : String} (h : valueSource conditions name = .error refused) :
    conditions.get? name = some (.expression refused) := by
  rw [valueSource] at h
  cases hcondition : conditions.get? name with
  | none =>
    rw [hcondition] at h
    exact absurd h (by simp)
  | some condition =>
    rw [hcondition] at h
    cases condition with
    | oneOf values => exact absurd h (by simp)
    | expression source =>
      dsimp only at h
      split at h
      case h_1 => exact absurd h (by simp)
      case h_2 =>
        split at h
        case h_1 => exact absurd h (by simp)
        case h_2 => rw [Except.error.inj h]

theorem refusal?_eq_some_iff_refusedIn [Regex.Capacity] {conditions : Dict Condition}
    {name source : String} (hreserved : isReserved name = false) :
    refusal? conditions name = some source ↔ RefusedIn conditions name source := by
  rw [refusal?_eq_some_iff]
  constructor
  · intro h
    have hcondition := eq_of_valueSource_eq_error h
    exact ⟨hcondition, (valueSource_of_expression hreserved hcondition).1 ⟨source, h⟩⟩
  · rintro ⟨hcondition, hrefused⟩
    obtain ⟨refused, h⟩ := (valueSource_of_expression hreserved hcondition).2 hrefused
    have heq := hcondition.symm.trans (eq_of_valueSource_eq_error h)
    rw [Option.some.injEq, Condition.expression.injEq] at heq
    rw [h, heq]

/-! ## Templates -/

section

variable {conditions : Dict Condition}

mutual

theorem Sketch.add_congr [Regex.Capacity] {c d : Dict Condition} (k : Sketch) (n : Node)
    (h : ∀ a ∈ n.params, c.get? a = d.get? a) : Sketch.add c k n = Sketch.add d k n := by
  cases n with
  | literal text => rfl
  | param name =>
    rw [Sketch.add, Sketch.add, valueSource_congr (h name (List.mem_singleton_self name))]
  | group children => rw [Sketch.add, Sketch.add, Sketch.addAll_congr _ children h]

/-- What is written for nodes depends on the conditions of their parameters alone. -/
theorem Sketch.addAll_congr [Regex.Capacity] {c d : Dict Condition} (k : Sketch) (ns : List Node)
    (h : ∀ a ∈ Node.paramsAll ns, c.get? a = d.get? a) :
    Sketch.addAll c k ns = Sketch.addAll d k ns := by
  cases ns with
  | nil => rfl
  | cons n ns =>
    rw [Sketch.addAll, Sketch.addAll,
      Sketch.add_congr k n fun a ha => h a (List.mem_append_left _ ha)]
    refine congrArg _ (funext fun k' => ?_)
    exact Sketch.addAll_congr k' ns fun a ha => h a (List.mem_append_right _ ha)

end

theorem compile_congr [Regex.Capacity] {c d : Dict Condition} {pattern : String} {tree : List Node}
    (h : ∀ a ∈ Node.paramsAll tree, c.get? a = d.get? a) :
    Matcher.compile pattern tree c = Matcher.compile pattern tree d := by
  rw [Matcher.compile, Matcher.compile, Sketch.addAll_congr _ tree h]

/-- A refused condition is the error, before anything is compiled. -/
theorem compile_of_refusal [Regex.Capacity] {pattern source : String} {tree : List Node}
    (h : (Node.paramsAll tree).findSome? (refusal? conditions) = some source) :
    Matcher.compile pattern tree conditions = .error (.badExpression pattern source) := by
  rw [Matcher.compile, (Sketch.addAll_eq_error_iff tree).2 h]

/-- Without one the whole expression decides. -/
theorem compile_of_written [Regex.Capacity] {pattern : String} {tree : List Node}
    (h : (Node.paramsAll tree).findSome? (refusal? conditions) = none) :
    (∃ r, Regex.compile (expressionOf (valueText conditions) tree) = .ok r ∧
        Matcher.compile pattern tree conditions
          = .ok ⟨r, slotsOf (countedIn conditions) 0 (Node.paramsAll tree)⟩) ∨
      ((∀ r, Regex.compile (expressionOf (valueText conditions) tree) ≠ .ok r) ∧
        Matcher.compile pattern tree conditions
          = .error (.badExpression pattern (expressionOf (valueText conditions) tree))) := by
  cases hk : Sketch.addAll conditions ⟨"^", [], 1⟩ tree with
  | error refused =>
    rw [Sketch.addAll_eq_error_iff tree, h] at hk
    exact absurd hk (by simp)
  | ok k =>
    -- without a refusal the whole tree is written, and its text is what is compiled
    have hslots := (Sketch.slots_addAll (i := 0) tree rfl hk).1
    rw [List.reverse_nil, List.nil_append] at hslots
    rw [Matcher.compile, hk, ← hslots]
    dsimp only
    rw [source_whole hk]
    cases hr : Regex.compile (expressionOf (valueText conditions) tree) with
    | error e => exact Or.inr ⟨fun r => by simp, rfl⟩
    | ok r => exact Or.inl ⟨r, rfl, rfl⟩

/-- The refused condition that stops the writing is that of the first parameter which has one. -/
theorem firstWith_of_findSome? [Regex.Capacity] {names : List String} {source : String}
    (hreserved : ∀ a ∈ names, isReserved a = false)
    (h : names.findSome? (refusal? conditions) = some source) :
    ∃ a, FirstWith (fun b => ∃ s, RefusedIn conditions b s) names a ∧
      RefusedIn conditions a source := by
  obtain ⟨a, hfirst, ha⟩ := findSome?_eq_some_iff_firstWith.1 h
  refine ⟨a, hfirst.imp fun b hb => ?_,
    (refusal?_eq_some_iff_refusedIn (hreserved a hfirst.mem)).1 ha⟩
  rw [Option.isSome_iff_exists]
  exact exists_congr fun s => refusal?_eq_some_iff_refusedIn (hreserved b hb)

end

/-- What compiling a template without reserved names depends on and what it blames.  Conditions of
    names that are no parameters of the template do not matter.  If there is a parameter with a
    condition that is refused by itself in either mode, the first one in the order of the template,
    at whatever depth it stands, is the error.  If there is none, the template is compiled exactly
    if its whole expression is, and otherwise the whole expression is the error. -/
theorem compile_blames [Regex.Capacity] {pattern : String} {tree : List Node}
    (hreserved : ∀ a ∈ Node.paramsAll tree, isReserved a = false) :
    (∀ c d : Dict Condition, (∀ a ∈ Node.paramsAll tree, c.get? a = d.get? a) →
        Matcher.compile pattern tree c = Matcher.compile pattern tree d) ∧
      ∀ c : Dict Condition,
        ((∃ a ∈ Node.paramsAll tree, ∃ source, RefusedIn c a source) →
          ∃ a source, FirstWith (fun b => ∃ s, RefusedIn c b s) (Node.paramsAll tree) a ∧
            RefusedIn c a source ∧
            Matcher.compile pattern tree c = .error (.badExpression pattern source)) ∧
        ((∀ a ∈ Node.paramsAll tree, ∀ source, ¬ RefusedIn c a source) →
          (∃ r, Regex.compile (expressionOf (valueText c) tree) = .ok r ∧
            Matcher.compile pattern tree c
              = .ok ⟨r, slotsOf (countedIn c) 0 (Node.paramsAll tree)⟩) ∨
          ((∀ r, Regex.compile (expressionOf (valueText c) tree) ≠ .ok r) ∧
            Matcher.compile pattern tree c
              = .error (.badExpression pattern (expressionOf (valueText c) tree)))) := by
  refine ⟨fun c d h => compile_congr h, fun c => ⟨?_, fun hnone => compile_of_written ?_⟩⟩
  · rintro ⟨a, ha, source, hrefused⟩
    -- some parameter is refused, so a first one is, and compiling stops there
    have hsome : ((Node.paramsAll tree).findSome? (refusal? c)).isSome = true := by
      rw [List.findSome?_isSome_iff]
      refine ⟨a, ha, ?_⟩
      rw [(refusal?_eq_some_iff_refusedIn (hreserved a ha)).2 hrefused]
      rfl
    obtain ⟨blamed, hblamed⟩ := Option.isSome_iff_exists.1 hsome
    obtain ⟨b, hfirst, hb⟩ := firstWith_of_findSome? hreserved hblamed
    exact ⟨b, blamed, hfirst, hb, compile_of_refusal hblamed⟩
  · rw [List.findSome?_eq_none_iff]
    intro a ha
    rw [Option.eq_none_iff_forall_ne_some]
    intro source hsource
    exact hnone a ha source ((refusal?_eq_some_iff_refusedIn (hreserved a ha)).1 hsource)

/-- The condition of a nested group is blamed, not that of a parameter behind it, and one for a name
    that is not in the template is never looked at. -/
theorem compile_blames_nested_group :
    let tree := parse "(/<a>(/<b>/<c>))/<b>"
    let conditions := ((Dict.empty.insert "a" (.expression "[a-z]+")).insert "b"
      (.expression "(")).insert "c" (.expression "[")
    (∀ a ∈ Node.paramsAll tree, isReserved a = false) ∧
      Matcher.compile "(/<a>(/<b>/<c>))/<b>" tree (conditions.insert "z" (.expression "*"))
        = .error (.badExpression "(/<a>(/<b>/<c>))/<b>" "(") := by
  intro tree conditions
  have hparams : Node.paramsAll tree = ["a", "b", "c", "b"] := by
    decide +kernel
  have hreserved : ∀ a ∈ Node.paramsAll tree, isReserved a = false := by
    rw [hparams]
    decide
  have hagree : ∀ a ∈ Node.paramsAll tree,
      (conditions.insert "z" (.expression "*")).get? a = conditions.get? a := by
    rw [hparams]
    decide +kernel
  have hb : RefusedIn conditions "b" "(" := by
    refine ⟨rfl, fun unicode r hr => ?_⟩
    have hisOk : ∀ mode, (Regex.compile "(" mode).isOk = false := by
      decide +kernel
    specialize hisOk unicode
    rw [hr] at hisOk
    exact absurd hisOk (by simp [Except.isOk, Except.toBool])
  obtain ⟨hcongr, hblames⟩ := @compile_blames _ "(/<a>(/<b>/<c>))/<b>" tree hreserved
  have hmem : "b" ∈ Node.paramsAll tree := by
    rw [hparams]
    decide
  obtain ⟨a, source, ⟨i, hi, -, hbefore⟩, ha, herror⟩ := (hblames conditions).1 ⟨"b", hmem, "(", hb⟩
  refine ⟨hreserved, ?_⟩
  rw [hcongr _ _ hagree, herror]
  rw [hparams] at hi hbefore
  -- the first parameter is accepted, the second is the one, and no later one can be first
  rcases i with _ | _ | i
  · cases hi
    obtain ⟨r, hr⟩ : ∃ r, Regex.compile "[a-z]+" = .ok r := exists_of_isOk (by decide +kernel)
    cases ha.1
    exact absurd hr (ha.2 true r)
  · cases hi
    cases ha.1
    rfl
  · exact absurd ⟨_, hb⟩ (hbefore 1 (by omega) "b" rfl)

end Waymark.Template
