/-
  Waymark.Proofs.Route.Construction

  Routes from loosely typed values.  A value lacks options, lacks a pattern, is malformed or stands
  for options; a value is one of these and not two.  The errors have an order: only an object with
  a pattern can be malformed, and the expressions of conditions are looked at last, when nothing
  else is wrong.

  Main statement: `ofValue_classified`.
-/

import Waymark.Proofs.Options.Fields
import Waymark.Regex.Estimate
import Waymark.Route.Basic

namespace Waymark

open Waymark.Json Waymark.Options

namespace Route

/-! ## Kinds of values -/

/-- Neither a text nor an object. -/
def LacksOptions (v : Value) : Prop := ¬ IsText v ∧ ¬ ∃ fs, v = .object fs

/-- An object whose pattern is missing or no text. -/
def LacksPattern (v : Value) : Prop :=
  ∃ fs, v = .object fs ∧ ¬ ∃ s, fs.lookup "pattern" = some (.text s)

/-- An object with a pattern, some other field of which has the wrong shape or which gives the
    slash at the end under more than one name. -/
def Malformed (v : Value) : Prop :=
  ∃ fs, v = .object fs ∧ (∃ s, fs.lookup "pattern" = some (.text s)) ∧
    (¬ WellShaped fs ∨ 1 < (slashValues fs).length)

/-- Why a value is refused before any expression is looked at. -/
inductive Refused : Value → Error → Prop where
  | noOptions {v : Value} (h : LacksOptions v) : Refused v .noOptions
  | noPattern {v : Value} (h : LacksPattern v) : Refused v .noPattern
  | badOptions {v : Value} (h : Malformed v) : Refused v .badOptions

/-- The options that a value stands for: a text is a pattern, an object has them in its fields. -/
inductive OptionsOf : Value → Options → Prop where
  | text (s : String) : OptionsOf (.text s) (.ofPattern s)
  | object {fs : List (String × Value)} {o : Options} (h : Describes fs o) :
      OptionsOf (.object fs) o

/-- What becomes of options: a route, or an error about an expression. -/
def MadeFrom [Regex.Capacity] (o : Options) (made : Except Error Route) : Prop :=
  made = ofOptions o ∧
    ((∃ r, made = .ok r) ∨ ∃ expression, made = .error (.badExpression o.pattern expression))

theorem exists_badExpression_of_compile [Regex.Capacity] {pattern : String}
    {tree : List Template.Node} {conditions : Dict Condition} {e : Error}
    (h : Template.Matcher.compile pattern tree conditions = .error e) :
    ∃ expression, e = .badExpression pattern expression := by
  rw [Template.Matcher.compile] at h
  split at h
  case h_1 refused _ => exact ⟨refused, (Except.error.inj h).symm⟩
  case h_2 k _ =>
    dsimp only at h
    split at h
    case h_1 => exact ⟨k.source ++ "$", (Except.error.inj h).symm⟩
    case h_2 => cases h

theorem madeFrom_ofOptions [Regex.Capacity] (o : Options) : MadeFrom o (ofOptions o) := by
  refine ⟨rfl, ?_⟩
  rw [ofOptions]
  cases hm : Template.Matcher.compile o.pattern (treeOf o.pattern o.slashOptional)
      (conditionsWith o.conditions o.slashOptional) with
  | ok m => exact Or.inl ⟨_, rfl⟩
  | error e =>
    obtain ⟨expression, rfl⟩ := exists_badExpression_of_compile hm
    exact Or.inr ⟨expression, rfl⟩

section

/-- A value that is not refused stands for options. -/
theorem refused_or_optionsOf (v : OrderedValue) :
    (∃ e, Refused v.value e) ∨ ∃ o, OptionsOf v.value o := by
  obtain ⟨v, hv⟩ := v
  by_cases htext : IsText v
  · obtain ⟨s, rfl⟩ := htext
    exact Or.inr ⟨_, .text s⟩
  by_cases hobject : ∃ fs, v = .object fs
  case neg => exact Or.inl ⟨_, .noOptions ⟨htext, hobject⟩⟩
  obtain ⟨fs, rfl⟩ := hobject
  by_cases hpattern : ∃ s, fs.lookup "pattern" = some (.text s)
  case neg => exact Or.inl ⟨_, .noPattern ⟨fs, rfl, hpattern⟩⟩
  by_cases hshape : WellShaped fs ∧ (slashValues fs).length ≤ 1
  case neg =>
    rw [not_and_or, Nat.not_le] at hshape
    exact Or.inl ⟨_, .badOptions ⟨fs, rfl, hpattern, hshape⟩⟩
  obtain ⟨o, ho⟩ := (exists_describes_iff ⟨fs, hv⟩).2 ⟨hpattern, hshape⟩
  exact Or.inr ⟨o, .object ho⟩

theorem OptionsOf.unique {v : OrderedValue} {o p : Options} (ho : OptionsOf v.value o)
    (hp : OptionsOf v.value p) : p = o := by
  obtain ⟨v, hv⟩ := v
  cases ho with
  | text s =>
    cases hp
    rfl
  | @object fs _ ho =>
    cases hp with
    | object hp => exact Describes.unique ⟨fs, hv⟩ hp ho

variable [Regex.Capacity]

theorem ofValue_of_pattern {fs : List (String × Value)} {s : String}
    (h : fs.lookup "pattern" = some (.text s)) :
    ofValue (.object fs) = Options.ofValue (.object fs) >>= ofOptions := by
  rw [ofValue, h]

theorem ofValue_of_optionsOf {v : OrderedValue} {o : Options} (h : OptionsOf v.value o) :
    ofValue v.value = ofOptions o := by
  obtain ⟨v, hv⟩ := v
  cases h with
  | text s => rfl
  | @object fs _ h =>
    rw [ofValue_of_pattern h.pattern, Options.ofValue, (ofDocument?_ofValue_iff ⟨fs, hv⟩).2 h]
    rfl

theorem ofValue_of_refused {v : OrderedValue} {e : Error} (h : Refused v.value e) :
    ofValue v.value = .error e := by
  obtain ⟨v, hv⟩ := v
  cases h with
  | noOptions h =>
    obtain ⟨htext, hobject⟩ := h
    cases v with
    | text s => exact absurd ⟨s, rfl⟩ htext
    | object fs => exact absurd ⟨fs, rfl⟩ hobject
    | _ => rfl
  | noPattern h =>
    obtain ⟨fs, rfl, hpattern⟩ := h
    rw [ofValue]
    split
    case h_1 s hs => exact absurd ⟨s, hs⟩ hpattern
    case h_2 => rfl
  | badOptions h =>
    obtain ⟨fs, rfl, ⟨s, hs⟩, hshape⟩ := h
    let ob : OrderedObject := ⟨fs, hv⟩
    -- whatever were read would be described, and an object that describes options is well shaped
    have hnone : ofDocument? valueDialect (.ofValue (.object fs)) = none := by
      rw [Option.eq_none_iff_forall_ne_some]
      intro o ho
      have hdescribes := (ofDocument?_ofValue_iff ob).1 ho
      obtain ⟨-, hwell, honce⟩ := (exists_describes_iff ob).1 ⟨o, hdescribes⟩
      rcases hshape with hshape | htwice
      · exact hshape hwell
      · exact absurd honce (Nat.not_le.2 htwice)
    rw [ofValue_of_pattern hs, Options.ofValue, hnone]
    rfl

theorem ofValue_eq_error_iff {v : OrderedValue} {e : Error}
    (he : ∀ pattern expression, e ≠ .badExpression pattern expression) :
    ofValue v.value = .error e ↔ Refused v.value e := by
  refine ⟨fun h => ?_, ofValue_of_refused⟩
  rcases refused_or_optionsOf v with ⟨e', he'⟩ | ⟨o, ho⟩
  · rw [ofValue_of_refused he'] at h
    exact Except.error.inj h ▸ he'
  · rw [ofValue_of_optionsOf ho] at h
    rcases (madeFrom_ofOptions o).2 with ⟨r, hr⟩ | ⟨expression, hr⟩
    · rw [hr] at h
      cases h
    · rw [hr] at h
      exact absurd (Except.error.inj h).symm (he _ _)

/-- Fields that options are not read from do not matter. -/
theorem ofValue_congr {a b : OrderedObject}
    (hsame : ∀ k ∈ fieldNames, a.fields.lookup k = b.fields.lookup k) :
    ofValue (.object b.fields) = ofValue (.object a.fields) := by
  have hpattern : a.fields.lookup "pattern" = b.fields.lookup "pattern" := hsame _ (by decide)
  by_cases hp : ∃ s, a.fields.lookup "pattern" = some (.text s)
  · -- both objects describe the same options, if any
    have hdescribes : ∀ o, Describes a.fields o ↔ Describes b.fields o := fun o =>
      ⟨fun h => h.congr hsame, fun h => h.congr fun k hk => (hsame k hk).symm⟩
    obtain ⟨s, hs⟩ := hp
    have hread : ofDocument? valueDialect (.ofValue (.object b.fields))
        = ofDocument? valueDialect (.ofValue (.object a.fields)) := by
      refine Option.ext fun o => ?_
      rw [ofDocument?_ofValue_iff, ofDocument?_ofValue_iff, hdescribes]
    rw [ofValue_of_pattern hs, ofValue_of_pattern (hpattern ▸ hs), Options.ofValue, Options.ofValue,
      hread]
  · have ha : Refused a.toValue.value .noPattern := .noPattern ⟨_, rfl, hp⟩
    have hb : Refused b.toValue.value .noPattern := .noPattern ⟨_, rfl, hpattern ▸ hp⟩
    exact (ofValue_of_refused hb).trans (ofValue_of_refused ha).symm

/-- What becomes of a value: it lacks options, lacks a pattern, is malformed, or else it stands for
    options and becomes what they become. -/
theorem ofValue_classified (v : OrderedValue) :
    (ofValue v.value = .error .noOptions ↔ LacksOptions v.value) ∧
    (ofValue v.value = .error .noPattern ↔ LacksPattern v.value) ∧
    (ofValue v.value = .error .badOptions ↔ Malformed v.value) ∧
    (¬ LacksOptions v.value → ¬ LacksPattern v.value → ¬ Malformed v.value →
      ∃ o, OptionsOf v.value o ∧ (∀ p, OptionsOf v.value p → p = o) ∧
        MadeFrom o (ofValue v.value)) ∧
    ∀ a b : OrderedObject, v = a.toValue →
      (∀ k ∈ fieldNames, a.fields.lookup k = b.fields.lookup k) →
        ofValue b.toValue.value = ofValue v.value := by
  refine ⟨?noOptions, ?noPattern, ?badOptions, ?options, ?unknown⟩
  case noOptions =>
    rw [ofValue_eq_error_iff (by simp)]
    exact ⟨fun | .noOptions h => h, .noOptions⟩
  case noPattern =>
    rw [ofValue_eq_error_iff (by simp)]
    exact ⟨fun | .noPattern h => h, .noPattern⟩
  case badOptions =>
    rw [ofValue_eq_error_iff (by simp)]
    exact ⟨fun | .badOptions h => h, .badOptions⟩
  case options =>
    intro hoptions hpattern hshape
    rcases refused_or_optionsOf v with ⟨e, he⟩ | ⟨o, ho⟩
    · cases he with
      | noOptions h => exact absurd h hoptions
      | noPattern h => exact absurd h hpattern
      | badOptions h => exact absurd h hshape
    · refine ⟨o, ho, fun p hp => ho.unique hp, ?_⟩
      rw [ofValue_of_optionsOf ho]
      exact madeFrom_ofOptions o
  case unknown =>
    rintro a b rfl hsame
    exact ofValue_congr hsame

end

/-- A default that is no text hides a condition that cannot be read. -/
theorem ofValue_of_hidden_condition :
    let v : Value := .object [("conditions", .object [("id", .text "(unclosed")]),
      ("defaults", .object [("id", .number (.integer 1))]), ("pattern", .text "/<id>")]
    v.Ordered ∧ ofValue v = .error .badOptions := by
  intro v
  have hv : v.Ordered := by
    simp only [v, Value.Ordered, Value.OrderedFields, List.pairwise_singleton, and_true]
    decide
  have hmalformed : Malformed v := by
    refine ⟨_, rfl, ⟨"/<id>", rfl⟩, Or.inl fun hshape => ?_⟩
    obtain ⟨fs, hfs, htexts⟩ := hshape.defaults _ rfl
    cases hfs
    obtain ⟨s, hs⟩ := htexts _ (List.mem_singleton_self _)
    cases hs
  exact ⟨hv, (ofValue_classified ⟨v, hv⟩).2.2.1.2 hmalformed⟩

end Route

end Waymark
