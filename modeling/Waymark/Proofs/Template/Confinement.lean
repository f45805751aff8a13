/-
  Waymark.Proofs.Template.Confinement

  A condition stays inside the group of its parameter.  `Spells` says that a path is made of the
  literal texts of a tree and the texts of its parameters' groups, with some optional groups left
  out.  A match of a compiled template is of this kind if two things hold of the expressions in
  its conditions: a closing parenthesis ends them, and the groups they open are all counted.

  Main statement: `captures?_spells`.
-/

import Waymark.Proofs.Regex.Spans
import Waymark.Proofs.Template.Agreement
import Waymark.Regex.Estimate

namespace Waymark.Template

open Waymark.Regex Waymark.Regex.Parse

/-! ## Paths by groups -/

/-- A path is made of nodes, given the texts of groups and the group of each parameter. -/
inductive Spells (g : Groups) : List Node → List (String × Nat) → List Char → Prop
  | nil : Spells g [] [] []
  | literal {ns : List Node} {slots : List (String × Nat)} {t : List Char} (text : String) :
    Spells g ns slots t → Spells g (.literal text :: ns) slots (text.toList ++ t)
  | param {ns : List Node} {slots : List (String × Nat)} {t v : List Char} {name : String}
      {i : Nat} : g.get? i = some v → Spells g ns slots t →
    Spells g (.param name :: ns) ((name, i) :: slots) (v ++ t)
  /-- An optional group that is there. -/
  | taken {cs ns : List Node} {as bs : List (String × Nat)} {s t : List Char} :
    Spells g cs as s → Spells g ns bs t → Spells g (.group cs :: ns) (as ++ bs) (s ++ t)
  /-- An optional group that is left out: its parameters capture nothing. -/
  | skipped {cs ns : List Node} {as bs : List (String × Nat)} {t : List Char} :
    as.map (·.1) = Node.paramsAll cs → (∀ slot ∈ as, g.get? slot.2 = none) →
    Spells g ns bs t → Spells g (.group cs :: ns) (as ++ bs) t

theorem Spells.append {g : Groups} {ms ns : List Node} {as bs : List (String × Nat)}
    {s t : List Char} (h : Spells g ms as s) (h' : Spells g ns bs t) :
    Spells g (ms ++ ns) (as ++ bs) (s ++ t) := by
  induction h with
  | nil => exact h'
  | literal text _ ih =>
    rw [List.cons_append, List.append_assoc]
    exact .literal text ih
  | param hv _ ih =>
    rw [List.cons_append, List.cons_append, List.append_assoc]
    exact .param hv ih
  | taken hcs _ _ ih =>
    rw [List.cons_append, List.append_assoc, List.append_assoc]
    exact .taken hcs ih
  | skipped hnames hnone _ ih =>
    rw [List.cons_append, List.append_assoc]
    exact .skipped hnames hnone ih

theorem spells_literal {g : Groups} {text : String} {ns : List Node} {slots : List (String × Nat)}
    {s : List Char} (h : Spells g (.literal text :: ns) slots s) :
    ∃ t, s = text.toList ++ t ∧ Spells g ns slots t := by
  cases h with
  | literal _ h => exact ⟨_, rfl, h⟩

theorem spells_param {g : Groups} {name : String} {ns : List Node} {slot : String × Nat}
    {slots : List (String × Nat)} {s : List Char}
    (h : Spells g (.param name :: ns) (slot :: slots) s) :
    ∃ v t, s = v ++ t ∧ g.get? slot.2 = some v ∧ Spells g ns slots t := by
  cases h with
  | param hv h => exact ⟨_, _, rfl, hv, h⟩

/-! ## Groups of nodes -/

/-- The groups of parameters have indices of their own. -/
theorem mem_slotsOf {inner : String → Nat} {k : Nat} {as : List String} {slot : String × Nat}
    (h : slot ∈ slotsOf inner k as) : k < slot.2 ∧ slot.2 ≤ k + openedBy inner as := by
  induction as generalizing k with
  | nil => exact absurd h List.not_mem_nil
  | cons a as ih =>
    rw [openedBy_cons]
    rcases List.mem_cons.1 h with rfl | h
    · exact ⟨Nat.lt_succ_self k, by omega⟩
    · have hrest := ih h
      omega

/-- Two lists of groups say the same about the indices behind `i` and up to `j`. -/
def AgreeOn (i j : Nat) (g h : Groups) : Prop := ∀ n, i < n → n ≤ j → g.get? n = h.get? n

/-- Nodes take a text and set no groups but their own; the text is made of the nodes, whatever the
    groups of other nodes are. -/
def Confined (inner : String → Nat) (ns : List Node) (k : Nat) : Span := fun s δ t =>
  ∃ u, s = u ++ t ∧
    (∀ e ∈ δ, k < e.1 ∧ e.1 ≤ k + openedBy inner (Node.paramsAll ns)) ∧
    ∀ g, AgreeOn k (k + openedBy inner (Node.paramsAll ns)) g δ →
      Spells g ns (slotsOf inner k (Node.paramsAll ns)) u

/-- The value of a parameter: a text of a kind, and groups behind `i` and up to `j`. -/
def Value (Q : List Char → Prop) (i j : Nat) : Span := fun s δ t =>
  ∃ u, s = u ++ t ∧ Q u ∧ ∀ e ∈ δ, i < e.1 ∧ e.1 ≤ j

/-- Spans of nodes, given the number of groups opened before them, that come about as the nodes are
    put together; `Q` says what the values of a parameter are like. -/
structure Composes (Q : String → List Char → Prop) (inner : String → Nat)
    (P : List Node → Nat → Span) : Prop where
  nil : ∀ k s δ t, Span.skip s δ t → P [] k s δ t
  cons : ∀ n ns k s δ t, (P [n] k).seq (P ns (k + openedBy inner n.params)) s δ t →
    P (n :: ns) k s δ t
  literal : ∀ text k s δ t, s = text.toList ++ t ∧ δ = [] → P [.literal text] k s δ t
  param : ∀ name k s δ t, ((Value (Q name) (k + 1) (k + 1 + inner name)).group (k + 1)) s δ t →
    P [.param name] k s δ t
  group : ∀ cs k s δ t, ((P cs k).or Span.skip) s δ t → P [.group cs] k s δ t

section

variable {inner : String → Nat} {s t : List Char} {δ : Groups}

theorem confined_nil (inner : String → Nat) (k : Nat) (h : Span.skip s δ t) :
    Confined inner [] k s δ t := by
  obtain ⟨rfl, rfl⟩ := h
  refine ⟨[], rfl, fun e he => absurd he List.not_mem_nil, fun g _ => ?_⟩
  exact .nil

/-- Nodes one behind another. -/
theorem Confined.seq {n : Node} {ns : List Node} {k : Nat}
    (h : (Span.seq (Confined inner [n] k) (Confined inner ns (k + openedBy inner n.params))) s δ t) :
    Confined inner (n :: ns) k s δ t := by
  obtain ⟨δ₁, r, δ₂, ⟨u₁, rfl, hδ₁, hspells₁⟩, ⟨u₂, rfl, hδ₂, hspells₂⟩, rfl⟩ := h
  have hparams : Node.paramsAll [n] = n.params := by simp
  rw [hparams] at hδ₁ hspells₁
  have hopened : openedBy inner (Node.paramsAll (n :: ns))
      = openedBy inner n.params + openedBy inner (Node.paramsAll ns) := by
    simp [openedBy_append]
  refine ⟨u₁ ++ u₂, (List.append_assoc _ _ _).symm, ?_, ?_⟩
  · intro e he
    rcases List.mem_append.1 he with he | he
    · have h₂ := hδ₂ e he
      omega
    · have h₁ := hδ₁ e he
      omega
  · intro g hg
    -- the groups of the two parts have different indices, so each part finds its own
    have hg₁ : AgreeOn k (k + openedBy inner n.params) g δ₁ := by
      intro i hi hi'
      have hnone : Groups.get? δ₂ i = none := by
        refine get?_eq_none fun e he => ?_
        have h₂ := hδ₂ e he
        omega
      rw [hg i hi (by omega), get?_append, hnone, Option.none_or]
    have hg₂ : AgreeOn (k + openedBy inner n.params)
        (k + openedBy inner n.params + openedBy inner (Node.paramsAll ns)) g δ₂ := by
      intro i hi hi'
      have hnone : Groups.get? δ₁ i = none := by
        refine get?_eq_none fun e he => ?_
        have h₁ := hδ₁ e he
        omega
      rw [hg i (by omega) (by omega), get?_append, hnone, Option.or_none]
    rw [Node.paramsAll_cons, slotsOf_append]
    exact (hspells₁ g hg₁).append (hspells₂ g hg₂)

theorem confined_literal (inner : String → Nat) (text : String) (k : Nat)
    (h : s = text.toList ++ t ∧ δ = []) : Confined inner [.literal text] k s δ t := by
  obtain ⟨rfl, rfl⟩ := h
  refine ⟨text.toList, rfl, fun e he => absurd he List.not_mem_nil, fun g _ => ?_⟩
  have hparams : Node.paramsAll [.literal text] = [] := by simp
  have hspells := Spells.literal (g := g) text .nil
  rw [List.append_nil] at hspells
  rw [hparams]
  exact hspells

/-- A parameter: the first of its groups is its own. -/
theorem confined_param (name : String) (k : Nat) {Q : List Char → Prop}
    (h : ((Value Q (k + 1) (k + 1 + inner name)).group (k + 1)) s δ t) :
    Confined inner [.param name] k s δ t := by
  obtain ⟨u, δ', rfl, ⟨-, -, -, hrange⟩, rfl⟩ := h
  have hparams : Node.paramsAll [.param name] = [name] := by simp
  have hopened : openedBy inner (Node.paramsAll [.param name]) = inner name + 1 := by
    rw [hparams]
    rfl
  refine ⟨u, rfl, ?_, fun g hg => ?_⟩
  · intro e he
    rcases List.mem_cons.1 he with rfl | he
    · exact ⟨Nat.lt_succ_self k, by omega⟩
    · have hi := hrange e he
      omega
  · have hvalue : g.get? (k + 1) = some u := by
      rw [hg (k + 1) (Nat.lt_succ_self k) (by omega)]
      simp [Groups.get?]
    have hspells : Spells g [.param name] [(name, k + 1)] (u ++ []) := .param hvalue .nil
    rw [List.append_nil] at hspells
    rw [hparams]
    exact hspells

/-- An optional group, there or left out. -/
theorem confined_group {cs : List Node} {k : Nat} (h : ((Confined inner cs k).or Span.skip) s δ t) :
    Confined inner [.group cs] k s δ t := by
  have hparams : Node.paramsAll [.group cs] = Node.paramsAll cs := by
    simp
  rcases h with ⟨u, rfl, hδ, hspells⟩ | ⟨rfl, rfl⟩
  · refine ⟨u, rfl, hparams ▸ hδ, fun g hg => ?_⟩
    rw [hparams] at hg ⊢
    have htaken := Spells.taken (hspells g hg) .nil
    rw [List.append_nil, List.append_nil] at htaken
    exact htaken
  · refine ⟨[], rfl, fun e he => absurd he List.not_mem_nil, fun g hg => ?_⟩
    rw [hparams] at hg ⊢
    have hnone : ∀ slot ∈ slotsOf inner k (Node.paramsAll cs), g.get? slot.2 = none := by
      intro slot hslot
      have hrange := mem_slotsOf hslot
      exact hg slot.2 hrange.1 hrange.2
    have hskipped := Spells.skipped (map_fst_slotsOf inner k _) hnone .nil
    rw [List.append_nil] at hskipped
    exact hskipped

theorem composes_confined (Q : String → List Char → Prop) (inner : String → Nat) :
    Composes Q inner (Confined inner) where
  nil k _ _ _ := confined_nil inner k
  cons _ _ _ _ _ _ := Confined.seq
  literal text k _ _ _ := confined_literal inner text k
  param name k _ _ _ := confined_param name k
  group _ _ _ _ _ := confined_group

end

/-! ## Nodes -/

section

variable {Q : String → List Char → Prop} {E : String → Nat → Expr} {inner : String → Nat}
  {P : List Node → Nat → Span}

mutual

theorem Node.draws_exprs (hP : Composes Q inner P) (k : Nat) (n : Node)
    (hE : ∀ a ∈ n.params, ∀ i, Draws (Plan.draft (E a i)) (Value (Q a) i (i + inner a))) :
    Draws (Plan.draft (.catAll (n.exprs E inner k))) (P [n] k) := by
  cases n with
  | literal text => exact (Draws.chars text.toList).imp (hP.literal text k)
  | param name =>
    have hname := hE name (List.mem_singleton_self name) (k + 1)
    have hsuffix : ∀ s δ t, Value (Q name) (k + 1) (k + 1 + inner name) s δ t → t <:+ s := by
      rintro s δ t ⟨u, rfl, -⟩
      exact List.suffix_append u t
    intro m
    exact (Leads.group (k + 1) hsuffix (hname m)).imp (hP.param name k)
  | group children =>
    exact (Node.draws_exprsAll hP k children hE).optional.imp (hP.group children k)

/-- The expressions of nodes draw spans that come about as the nodes are put together. -/
theorem Node.draws_exprsAll (hP : Composes Q inner P) (k : Nat) (ns : List Node)
    (hE : ∀ a ∈ Node.paramsAll ns, ∀ i,
      Draws (Plan.draft (E a i)) (Value (Q a) i (i + inner a))) :
    Draws (Plan.draft (.catAll (Node.exprsAll E inner k ns))) (P ns k) := by
  cases ns with
  | nil => exact Draws.empty.imp (hP.nil k)
  | cons n ns =>
    have hn := Node.draws_exprs hP k n (fun a ha => hE a (List.mem_append_left _ ha))
    have hns := Node.draws_exprsAll hP (k + openedBy inner n.params) ns
      (fun a ha => hE a (List.mem_append_right _ ha))
    exact (hn.catAll_append hns).imp (hP.cons n ns k)

end

end

/-! ## Conditions -/

/-- How many groups the expression of a parameter's condition opens. -/
def openedIn (conditions : Dict Condition) (name : String) : Nat :=
  match conditions.get? name with
  | some (.expression source) =>
    match Parse.read source.toList with
    | .ok ast => ast.indices.length
    | .error _ => 0
  | _ => 0

/-- A closing parenthesis ends the expression of a parameter's condition, if it has one. -/
def ClosedIn (conditions : Dict Condition) (name : String) : Prop :=
  ∀ source, conditions.get? name = some (.expression source) → Parse.Closed source.toList

/-- The parameters with the groups that are opened around their own values. -/
def ownSlots (conditions : Dict Condition) (tree : List Node) : List (String × Nat) :=
  slotsOf (openedIn conditions) 0 (Node.paramsAll tree)

/-- The expression of a condition is written as it is or in a group with Unicode mode off. -/
theorem valueSource_expression [Capacity] {conditions : Dict Condition} {name source value : String}
    {n : Nat} (hcondition : conditions.get? name = some (.expression source))
    (h : valueSource conditions name = .ok (value, n)) :
    (∃ ast, Parse.read source.toList = .ok ast) ∧
      (value = source ∨ value = "(?-u:" ++ source ++ ")") := by
  -- what is compiled in either mode has been read first
  have hread : ∀ {r unicode}, Regex.compile source unicode = .ok r →
      ∃ ast, Parse.read source.toList = .ok ast := by
    intro r unicode hr
    obtain ⟨e, he, -⟩ := map_eq_ok.1 hr
    obtain ⟨ast, hast, -⟩ := bind_eq_ok.1 he
    exact ⟨ast, hast⟩
  rw [valueSource, hcondition] at h
  dsimp only at h
  split at h
  case h_1 r hascii =>
    cases h
    refine ⟨?_, Or.inr rfl⟩
    by_cases hreserved : isReserved name = true
    · rw [if_pos hreserved] at hascii
      exact absurd hascii (by simp)
    · rw [if_neg hreserved] at hascii
      cases hr : Regex.compile source false with
      | error e =>
        rw [hr] at hascii
        exact absurd hascii (by simp [Except.toOption])
      | ok r' => exact hread hr
  case h_2 =>
    cases hr : Regex.compile source with
    | error e =>
      simp only [hr] at h
      exact absurd h (by simp)
    | ok r =>
      simp only [hr] at h
      cases h
      exact ⟨hread hr, Or.inl rfl⟩

/-- What a condition says about the text of a value; of an expression nothing is said here. -/
def Allows (conditions : Dict Condition) (name : String) (u : List Char) : Prop :=
  match conditions.get? name with
  | none => u ≠ [] ∧ u.all isWordChar = true
  | some (.oneOf values) => String.ofList u ∈ values ∨ values = [] ∧ u = []
  | some (.expression _) => True

/-- A text without groups is a value. -/
theorem Value.of_text {Q : List Char → Prop} {i j : Nat} {s t : List Char} {δ : Groups}
    (h : Span.text Q s δ t) : Value Q i j s δ t := by
  obtain ⟨u, rfl, hu, rfl⟩ := h
  exact ⟨u, rfl, hu, fun e he => absurd he List.not_mem_nil⟩

/-- An expression with groups of its own takes values of any kind. -/
theorem draws_value {e : Expr} {i j : Nat} (h : ∀ k ∈ e.indices, i < k ∧ k ≤ j) :
    Draws (Plan.draft e) (Value (fun _ => True) i j) := by
  refine (draws_inside e (List.Subset.refl e.indices)).imp ?_
  rintro s δ t ⟨⟨u, rfl⟩, hin⟩
  exact ⟨u, rfl, trivial, fun e he => h e.1 (hin e he)⟩

/-- A list of values, which may be empty. -/
theorem fills_oneOf (values : List String) : ∃ ast : Ast,
    Fills (Condition.oneOf values).source.toList (fun _ => ast) 0 ∧
    Draws (Plan.draft (meaningOf ast))
      (Span.text fun u => String.ofList u ∈ values ∨ values = [] ∧ u = []) := by
  cases values with
  | nil =>
    refine ⟨.group (.plain []) .empty, ?_, ?_⟩
    · exact Fills.ofAdds (AddsBefore.plain (Fills.ofAdds Adds.nil)).toAdds
    · have hempty : meaningOf (.group (.plain []) .empty) = .empty := rfl
      rw [hempty]
      refine Draws.empty.imp ?_
      rintro s δ t ⟨rfl, rfl⟩
      exact ⟨[], rfl, Or.inr ⟨rfl, rfl⟩, rfl⟩
  | cons v values =>
    refine ⟨_, fills_listed v values, ?_⟩
    rw [meaningOf_eq (meaning_listed (v :: values))]
    refine Draws.altAll (by simp) fun e he => ?_
    obtain ⟨w, hw, rfl⟩ := List.mem_map.1 he
    refine (Draws.chars w.toList).imp ?_
    rintro s δ t ⟨rfl, rfl⟩
    exact ⟨w.toList, rfl, Or.inl (by rw [String.ofList_toList]; exact hw), rfl⟩

/-- A closed expression fills a group, its own groups numbered on from there. -/
theorem exists_filled_expression [Capacity] {conditions : Dict Condition}
    {name source value : String}
    {n : Nat} (hcondition : conditions.get? name = some (.expression source))
    (hclosed : Parse.Closed source.toList) (h : valueSource conditions name = .ok (value, n)) :
    ∃ B : Nat → Ast, Fills value.toList B (openedIn conditions name) ∧
      ∀ i, ∀ j ∈ (B i).indices, i < j ∧ j ≤ i + openedIn conditions name := by
  obtain ⟨⟨ast, hast⟩, hwritten⟩ := valueSource_expression hcondition h
  have hfills := fills_of_read hast hclosed
  have hopened : openedIn conditions name = ast.indices.length := by
    rw [openedIn, hcondition]
    simp only [hast]
  have hshift : ∀ i, ∀ j ∈ (ast.shift i).indices, i < j ∧ j ≤ i + ast.indices.length := by
    intro i j hj
    rw [Ast.indices_shift] at hj
    obtain ⟨l, hl, rfl⟩ := List.mem_map.1 hj
    have hrange := mem_indices_of_read hast hl
    omega
  rw [hopened]
  rcases hwritten with rfl | rfl
  · exact ⟨fun k => ast.shift k, hfills, hshift⟩
  · refine ⟨fun k => .group (.plain [(.unicode, false)]) (ast.shift k), ?_, ?_⟩
    · have htext : ("(?-u:" ++ source ++ ")").toList
          = '(' :: '?' :: '-' :: 'u' :: ':' :: (source.toList ++ [')']) := by simp
      rw [htext]
      exact Fills.ofAdds (AddsBefore.ascii hfills).toAdds
    · intro i j hj
      exact hshift i j hj

/-- What is written for the values of a parameter fills its group, takes no values but those that
    the condition allows, and sets no groups but those that it opens. -/
theorem exists_filled [Capacity] {conditions : Dict Condition} {name : String}
    (hclosed : ClosedIn conditions name) : ∃ B : Nat → Ast,
      (∀ value n, valueSource conditions name = .ok (value, n) →
        Fills value.toList B (openedIn conditions name)) ∧
      ∀ i, Draws (Plan.draft (meaningOf (B i)))
        (Value (Allows conditions name) i (i + openedIn conditions name)) := by
  cases hcondition : conditions.get? name with
  | none =>
    have hopened : openedIn conditions name = 0 := by rw [openedIn, hcondition]
    have hallows : Allows conditions name = fun u => u ≠ [] ∧ u.all isWordChar = true := by
      funext u
      rw [Allows, hcondition]
    rw [hopened, hallows]
    refine ⟨fun _ => .repetition 1 none true (.bracketed false wordItems), ?_, fun i => ?_⟩
    · intro value n hvalue
      rw [valueSource, hcondition] at hvalue
      cases hvalue
      exact fills_plainValue
    · rw [meaningOf_plainValue, ← contains_wordSet]
      exact (Draws.members wordSet).imp fun _ _ _ => Value.of_text
  | some c =>
    cases c with
    | oneOf values =>
      have hopened : openedIn conditions name = 0 := by rw [openedIn, hcondition]
      have hallows : Allows conditions name
          = fun u => String.ofList u ∈ values ∨ values = [] ∧ u = [] := by
        funext u
        rw [Allows, hcondition]
      obtain ⟨ast, hfills, hdraws⟩ := fills_oneOf values
      rw [hopened, hallows]
      refine ⟨fun _ => ast, ?_, fun i => hdraws.imp fun _ _ _ => Value.of_text⟩
      intro value n hvalue
      rw [valueSource, hcondition] at hvalue
      cases hvalue
      exact hfills
    | expression source =>
      have hallows : Allows conditions name = fun _ => True := by
        funext u
        rw [Allows, hcondition]
      rw [hallows]
      cases hvalue : valueSource conditions name with
      | error refused =>
        -- nothing is compiled, so any expression will do
        refine ⟨fun _ => .empty, ?_, fun i => draws_value fun k hk => absurd hk List.not_mem_nil⟩
        intro value n h
        exact absurd h (by simp)
      | ok x =>
        obtain ⟨B, hfills, hindices⟩ :=
          exists_filled_expression hcondition (hclosed source hcondition) hvalue
        refine ⟨B, ?_, fun i => draws_value fun k hk => ?_⟩
        · intro value n h
          cases h
          exact hfills
        · exact hindices i k (indices_meaningOf (B i) hk)

/-! ## Whole paths -/

/-- What a compiled template finds, it finds behind any span that comes about as its nodes are put
    together; the span is that of the whole path. -/
theorem span_of_regex [Capacity] {pattern : String} {tree : List Node} {conditions : Dict Condition}
    {m : Matcher} {P : List Node → Nat → Span}
    (hP : Composes (Allows conditions) (openedIn conditions) P)
    (hclosed : ∀ a ∈ Node.paramsAll tree, ClosedIn conditions a)
    (h : Matcher.compile pattern tree conditions = .ok m) {path : List Char} {g : Groups}
    (hg : m.regex.captures? path = some g) : P tree 0 path g [] := by
  choose! V hfills hdraws using fun a ha => exists_filled (hclosed a ha)
  have hplan := plan_compile hfills h
  have hend : Draws (Plan.draft (.catAll [.look .textEnd])) _ := fun _ => Leads.look .textEnd
  have hnodes : Draws _ (P tree 0) := Node.draws_exprsAll hP 0 tree hdraws
  have hwhole := hnodes.catAll_append hend
  rw [Regex.captures?, hplan] at hg
  obtain ⟨d, δ, v, hspan, hdone⟩ := hwhole 0 done (.start path) [] .none g (found_of_search hg)
  obtain ⟨δ₁, r, δ₂, htree, ⟨rfl, hr, before, hlook⟩, rfl⟩ := hspan
  -- the end of the text stands behind the nodes, so they take all of it
  have hnil : r = [] := by
    cases r with
    | nil => rfl
    | cons c r => exact absurd hlook (by simp [Look.holds])
  have hgroups : g = δ := by
    have hfound : δ ++ [] = g := Outcome.found.inj hdone
    rw [List.append_nil] at hfound
    exact hfound.symm
  rw [hnil, ← hgroups] at htree
  exact htree

/-- What a compiled template finds, by the groups around the parameters' own values. -/
theorem spells_of_regex [Capacity] {pattern : String} {tree : List Node}
    {conditions : Dict Condition}
    {m : Matcher} (hclosed : ∀ a ∈ Node.paramsAll tree, ClosedIn conditions a)
    (h : Matcher.compile pattern tree conditions = .ok m) {path : List Char} {g : Groups}
    (hg : m.regex.captures? path = some g) :
    Spells g tree (ownSlots conditions tree) path := by
  have hcomposes := composes_confined (Allows conditions) (openedIn conditions)
  obtain ⟨u, htext, -, hspells⟩ := span_of_regex hcomposes hclosed h hg
  rw [List.append_nil] at htext
  rw [htext]
  exact hspells g fun _ _ _ => rfl

/-- A match of a compiled template is made of the literal texts and of the texts of the groups
    around the parameters' own values, if every condition is closed.  The template knows these
    groups exactly if the groups that conditions open are counted; those of the last parameter
    need not be. -/
theorem captures?_spells [Capacity] {pattern : String} {tree : List Node}
    {conditions : Dict Condition}
    {m : Matcher} (hclosed : ∀ a ∈ Node.paramsAll tree, ClosedIn conditions a)
    (h : Matcher.compile pattern tree conditions = .ok m) :
    (m.slots = ownSlots conditions tree ↔
      ∀ a ∈ (Node.paramsAll tree).dropLast, countedIn conditions a = openedIn conditions a) ∧
    ∀ path captured, m.captures? path = some captured →
      ∃ g, m.regex.captures? path.toList = some g ∧
        captured = m.slots.filterMap (Matcher.valueOf? g) ∧
        Spells g tree (ownSlots conditions tree) path.toList := by
  refine ⟨?_, ?_⟩
  · rw [slots_compile h, ownSlots]
    exact ⟨inner_eq_of_slotsOf, slotsOf_congr 0⟩
  · intro path captured hpath
    obtain ⟨g, hg, hvalues⟩ := Option.map_eq_some_iff.1 hpath
    exact ⟨g, hg, hvalues.symm, spells_of_regex hclosed h hg⟩

/-- A group inside a condition does not shift the parameter behind it. -/
theorem captures?_spells_of_capturing_condition :
    let conditions := Dict.empty.insert "lang" (.expression "(en|ru)")
    let tree := parse "/<lang>(/<id>)"
    (∀ a ∈ Node.paramsAll tree, ClosedIn conditions a) ∧
    ∃ m g, Matcher.compile "/<lang>(/<id>)" tree conditions = .ok m ∧
      m.captures? "/en/42" = some [("lang", "en"), ("id", "42")] ∧
      m.regex.captures? "/en/42".toList = some g ∧
      Spells g tree m.slots "/en/42".toList := by
  intro conditions tree
  have hparams : Node.paramsAll tree = ["lang", "id"] := by decide +kernel
  have hclosed : ∀ a ∈ Node.paramsAll tree, ClosedIn conditions a := by
    intro a ha source hsource
    rw [hparams] at ha
    rcases ha with _ | ⟨_, _ | ⟨_, ha⟩⟩
    · have hlang : conditions.get? "lang" = some (.expression "(en|ru)") := rfl
      rw [hlang] at hsource
      cases hsource
      exact exists_of_isOk (by decide +kernel)
    · have hid : conditions.get? "id" = none := rfl
      rw [hid] at hsource
      exact absurd hsource (by simp)
    · exact absurd ha List.not_mem_nil
  obtain ⟨m, hm, hpath⟩ : ∃ m, Matcher.compile "/<lang>(/<id>)" tree conditions = .ok m ∧
      m.captures? "/en/42" = some [("lang", "en"), ("id", "42")] :=
    exists_of_toOption_bind (by decide +kernel)
  obtain ⟨hslots, hspells⟩ := captures?_spells hclosed hm
  obtain ⟨g, hg, -, hspelled⟩ := hspells "/en/42" _ hpath
  rw [← hslots.2 (by decide +kernel)] at hspelled
  exact ⟨hclosed, m, g, hm, hpath, hg, hspelled⟩

/-- A group that may occur no times at most is not counted, and the parameter behind it is given
    the wrong group. -/
theorem not_spells_of_uncounted_group :
    let conditions := Dict.empty.insert "a" (.expression "(x)\x7b0\x7dy")
    let tree := parse "/<a>/<b>"
    ∃ m g, Matcher.compile "/<a>/<b>" tree conditions = .ok m ∧
      m.captures? "/y/z" = some [("a", "y")] ∧ m.regex.captures? "/y/z".toList = some g ∧
      ¬ Spells g tree m.slots "/y/z".toList := by
  intro conditions tree
  obtain ⟨m, hm, hg⟩ : ∃ m, Matcher.compile "/<a>/<b>" tree conditions = .ok m ∧
      m.regex.captures? "/y/z".toList = some [(3, ['z']), (1, ['y'])] :=
    exists_of_toOption_bind (by decide +kernel)
  have htree : tree = [.literal "/", .param "a", .literal "/", .param "b"] := by decide +kernel
  have hslots : m.slots = [("a", 1), ("b", 2)] := by
    rw [slots_compile hm]
    decide +kernel
  have hpath : m.captures? "/y/z" = some [("a", "y")] := by
    rw [Matcher.captures?, hg, hslots]
    decide +kernel
  refine ⟨m, _, hm, hpath, hg, fun hspells => ?_⟩
  rw [htree, hslots] at hspells
  obtain ⟨t₁, -, hspells⟩ := spells_literal hspells
  obtain ⟨v, t₂, -, -, hspells⟩ := spells_param hspells
  obtain ⟨t₃, -, hspells⟩ := spells_literal hspells
  obtain ⟨w, t₄, -, hw, -⟩ := spells_param hspells
  have hnone : Groups.get? [(3, ['z']), (1, ['y'])] 2 = none := rfl
  exact absurd (hnone.symm.trans hw) (by simp)

-- A condition that is not closed: its comment takes in the parentheses behind it, and the newline
-- of the template ends the comment instead of being matched.
example :
    let conditions := (Dict.empty.insert "a" (.expression "(?x)x#")).insert "b"
      (.expression "#((\n))")
    (Matcher.compile "<a>\n<b>" (parse "<a>\n<b>") conditions).toOption.bind (·.captures? "x")
      = some [("a", "x")] := by
  decide +kernel

end Waymark.Template
