/-
  Waymark.Proofs.Template.AsciiMode

  A condition with Unicode mode off and on.  Where it can be read with that mode off it is written
  in a group that switches the mode off.  If it is steady, the template finds the same in ASCII
  paths as it would with the condition written as it is.

  Main statement: `captures?_eq_of_isSteady`.
-/

import Waymark.Proofs.Regex.AsciiMode
import Waymark.Proofs.Template.Confinement
import Waymark.Regex.Estimate

namespace Waymark.Template

open Waymark.Regex Waymark.Regex.Parse

/-! ## Values -/

section

variable {p : Char → Prop} {E E' : String → Nat → Expr} {inner : String → Nat}

mutual

/-- Nodes are alike if the values of their parameters are. -/
theorem Node.alike_exprs (k : Nat) (n : Node)
    (h : ∀ a ∈ n.params, ∀ i, (E a i).Alike p (E' a i)) :
    List.Forall₂ (Expr.Alike p) (n.exprs E inner k) (n.exprs E' inner k) := by
  cases n with
  | literal text => exact forall₂_alike_refl _
  | param name => exact .cons ((h name (List.mem_singleton_self name) (k + 1)).group (k + 1)) .nil
  | group children =>
    exact .cons ((Expr.Alike.catAll (Node.alike_exprsAll k children h)).repeat 0 (some 1) true) .nil

theorem Node.alike_exprsAll (k : Nat) (ns : List Node)
    (h : ∀ a ∈ Node.paramsAll ns, ∀ i, (E a i).Alike p (E' a i)) :
    List.Forall₂ (Expr.Alike p) (Node.exprsAll E inner k ns) (Node.exprsAll E' inner k ns) := by
  cases ns with
  | nil => exact .nil
  | cons n ns =>
    exact List.rel_append (Node.alike_exprs k n fun a ha => h a (List.mem_append_left _ ha))
      (Node.alike_exprsAll _ ns fun a ha => h a (List.mem_append_right _ ha))

end

end

/-- Reading a text that is written for nodes comes to the value of a parameter, behind a number of
    groups more; `post` is what stands between the parenthesis behind the value and the end. -/
def ComesTo (name : String) (text : (String → String) → String) (depth : Nat)
    (post : List Char) : Prop :=
  ∀ (value : String → String) (fuel : Nat) (st : State) (t : List Char) (ast : Ast),
    NoQuestion (value name).toList → st.verbose = false → NoQuestion t →
    ((text value).toList ++ t).length < fuel →
    readFrom fuel st ((text value).toList ++ t) = .ok ast →
    ∃ fuel' st', ((value name).toList ++ ')' :: (post ++ t)).length < fuel' ∧
      st'.levels = List.replicate depth false ++ st.levels ∧
      readFrom fuel' st' ((value name).toList ++ ')' :: (post ++ t)) = .ok ast

theorem levels_inside {st : State} {kind : GroupKind} {n : Nat} (hv : st.verbose = false) :
    (st.inside kind n).levels = false :: st.levels := by
  simp [State.levels, State.inside, hv]

theorem comesTo_param (name : String) :
    ComesTo name (fun value => (Node.param name).expression value) 1 [] := by
  intro value fuel st t ast hvalue hv _ hfuel hread
  have htext : ((Node.param name).expression value).toList ++ t
      = '(' :: ((value name).toList ++ ')' :: t) := by
    simp
  rw [htext] at hfuel hread
  have hclose := noQuestion_cons (by decide : ')' ≠ '?') t
  obtain ⟨fuel', hfuel', hread'⟩ :=
    (reaches_capture hv (hvalue.append hclose)).readFrom_eq hfuel hread
  exact ⟨fuel', _, hfuel', levels_inside hv, hread'⟩

/-- A text that adds items in front. -/
theorem ComesTo.behind {name : String} {front text : (String → String) → String} {depth : Nat}
    {post : List Char} (h : ComesTo name text depth post)
    (hfront : ∀ value, ∃ items n, Adds (front value).toList items n)
    (htext : ∀ value, NoQuestion (text value).toList) :
    ComesTo name (fun value => front value ++ text value) depth post := by
  intro value fuel st t ast hvalue hv ht hfuel hread
  obtain ⟨items, n, hadds⟩ := hfront value
  rw [String.toList_append, List.append_assoc] at hfuel hread
  obtain ⟨fuel₁, names, hfuel₁, hread₁⟩ :=
    hadds.2 fuel st _ ast hv ((htext value).append ht) hfuel hread
  exact h value fuel₁ (st.grow (items st.captures) n names) t ast hvalue hv ht hfuel₁ hread₁

/-- A text behind that is the same for all values. -/
theorem ComesTo.before {name rest : String} {text : (String → String) → String} {depth : Nat}
    {post : List Char} (h : ComesTo name text depth post) (hrest : NoQuestion rest.toList) :
    ComesTo name (fun value => text value ++ rest) depth (post ++ rest.toList) := by
  intro value fuel st t ast hvalue hv ht hfuel hread
  rw [String.toList_append, List.append_assoc] at hfuel hread
  rw [List.append_assoc]
  exact h value fuel st (rest.toList ++ t) ast hvalue hv (hrest.append ht) hfuel hread

/-- An optional group around the text. -/
theorem ComesTo.optional {name : String} {text : (String → String) → String} {depth : Nat}
    {post : List Char} (h : ComesTo name text depth post) :
    ComesTo name (fun value => "(?:" ++ text value ++ ")?") (depth + 1) (post ++ [')', '?']) := by
  intro value fuel st t ast hvalue hv ht hfuel hread
  have htext : ("(?:" ++ text value ++ ")?").toList ++ t
      = '(' :: '?' :: ([] ++ ':' :: ((text value).toList ++ ')' :: '?' :: t)) := by
    simp
  rw [htext] at hfuel hread
  -- one group more is open around what is written inside
  have hopen : ∀ s, Reaches st ('(' :: '?' :: ([] ++ ':' :: s))
      (st.inside (.plain []) st.captures) s := fun s => reaches_plain [] (fun _ => rfl) rfl hv
  obtain ⟨fuel₁, hfuel₁, hread₁⟩ :=
    (hopen ((text value).toList ++ ')' :: '?' :: t)).readFrom_eq hfuel hread
  obtain ⟨fuel', st', hfuel', hlevels, hread'⟩ := h value fuel₁ (st.inside (.plain []) st.captures)
    (')' :: '?' :: t) ast hvalue hv (noQuestion_cons (by decide) _) hfuel₁ hread₁
  rw [List.append_assoc]
  refine ⟨fuel', st', hfuel', ?_, hread'⟩
  rw [hlevels, levels_inside hv, List.replicate_succ', List.append_assoc]
  rfl

/-- What is written for a node does not begin with a question mark. -/
theorem Node.noQuestion_expression (value : String → String) (n : Node) :
    NoQuestion (n.expression value).toList := by
  cases n with
  | literal text =>
    rw [Node.expression_literal, Regex.escape, String.toList_ofList]
    exact noQuestion_escape text.toList
  | param name =>
    have htext : (Node.expression value (.param name)).toList
        = '(' :: ((value name).toList ++ [')']) := by
      simp
    exact htext ▸ noQuestion_cons (by decide) _
  | group children =>
    have htext : (Node.expression value (.group children)).toList
        = '(' :: '?' :: ':' :: ((Node.expressionAll value children).toList ++ [')', '?']) := by
      simp
    exact htext ▸ noQuestion_cons (by decide) _

theorem Node.noQuestion_expressionAll (value : String → String) (ns : List Node) :
    NoQuestion (Node.expressionAll value ns).toList := by
  induction ns with
  | nil => exact fun h => absurd h (by simp)
  | cons n ns ih =>
    rw [Node.expressionAll_cons, String.toList_append]
    exact (Node.noQuestion_expression value n).append ih

mutual

theorem Node.comesTo_expression {name : String} (n : Node) (h : n.params = [name]) :
    ∃ depth post, ComesTo name (fun value => n.expression value) depth post := by
  cases n with
  | literal text => exact absurd h (by simp)
  | param a =>
    cases h
    exact ⟨1, [], comesTo_param name⟩
  | group children =>
    obtain ⟨depth, post, hcomes⟩ := Node.comesTo_expressionAll children h
    simp only [Node.expression_group]
    exact ⟨depth + 1, _, hcomes.optional⟩

/-- Reading nodes with a single parameter comes to its value, whatever is written there. -/
theorem Node.comesTo_expressionAll {name : String} (ns : List Node)
    (h : Node.paramsAll ns = [name]) :
    ∃ depth post, ComesTo name (fun value => Node.expressionAll value ns) depth post := by
  cases ns with
  | nil => exact absurd h (by simp)
  | cons n ns =>
    rw [Node.paramsAll_cons, List.append_eq_singleton_iff] at h
    simp only [Node.expressionAll_cons]
    rcases h with ⟨hn, hns⟩ | ⟨hn, hns⟩
    · obtain ⟨depth, post, hcomes⟩ := Node.comesTo_expressionAll ns hns
      refine ⟨depth, post, hcomes.behind (fun value => ?_) fun value => ?_⟩
      · -- the node has no parameters, so nothing has to be known about their values
        have hadds : Adds (n.expression value).toList
            (fun i => n.asts (fun _ _ => .empty) (fun _ => 0) i)
            (openedBy (fun _ => 0) n.params) :=
          Node.adds_expression n fun a ha => absurd ha (by simp [hn])
        exact ⟨_, _, hadds⟩
      · exact Node.noQuestion_expressionAll value ns
    · obtain ⟨depth, post, hcomes⟩ := Node.comesTo_expression n hn
      have hsame : ∀ value, Node.expressionAll value ns = Node.expressionAll id ns :=
        fun value => Node.expressionAll_congr ns fun a ha => absurd ha (by simp [hns])
      simp only [hsame]
      exact ⟨depth, _, hcomes.before (Node.noQuestion_expressionAll id ns)⟩

end

/-- Where a template can be read, its value can be read in its place. -/
theorem ComesTo.exists_reading [Capacity] {name : String} {tree : List Node} {depth : Nat}
    {post : List Char}
    {r : Regex} (h : ComesTo name (fun value => expressionOf value tree) depth post)
    (value : String → String) (hvalue : NoQuestion (value name).toList)
    (hr : Regex.compile (expressionOf value tree) = .ok r) :
    ∃ fuel st ast, ((value name).toList ++ ')' :: post).length < fuel ∧
      st.levels = List.replicate (depth + 1) false ∧
      readFrom fuel st ((value name).toList ++ ')' :: post) = .ok ast := by
  obtain ⟨e, he, -⟩ := map_eq_ok.1 hr
  obtain ⟨ast, hast, -⟩ := bind_eq_ok.1 he
  obtain ⟨ast', hread, -⟩ := bind_eq_ok.1 hast
  rw [← List.append_nil (expressionOf value tree).toList] at hread
  obtain ⟨fuel, st, hfuel, hlevels, hread⟩ :=
    h value _ .initial [] ast' hvalue rfl (by simp [NoQuestion]) (Nat.lt_succ_self _) hread
  rw [List.append_nil] at hfuel hread
  rw [List.replicate_succ']
  exact ⟨fuel, st, ast', hfuel, hlevels, hread⟩

end Waymark.Template
