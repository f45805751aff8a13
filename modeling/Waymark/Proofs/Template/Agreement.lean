/-
  Waymark.Proofs.Template.Agreement

  A template reads a path by its expression as by its tree.  `ways` lists how the expression of a
  node takes text; `Labels` says that these are the readings of the node, in the same order, with
  groups for names.  Groups are told apart by their indices alone: those of a node lie between the
  number of groups opened before it and the number opened behind it.

  Main statements: `captures?_eq_directCaptures?` for readers of any kind, and
  `captures?_eq_directCaptures?_of_listed` for parameters without a condition or with a list.
-/

import Mathlib.Tactic.Choose
import Waymark.Proofs.Regex.Sequence
import Waymark.Proofs.Template.Expression
import Waymark.Proofs.Template.Reading
import Waymark.Regex.Estimate
import Waymark.Template.Parse

namespace Waymark.Template

open Waymark.Regex Waymark.Regex.Parse

/-! ## Readers -/

/-- The ways of a reader, which sets no groups. -/
def waysOf (r : Reader) : Ways := fun s => (r s).map fun w => ([], w.2)

/-- What a reader takes and leaves is the text. -/
def Reader.Exact (r : Reader) : Prop := ∀ s, ∀ w ∈ r s, w.1 ++ w.2 = s

/-- The expression of a parameter's values reads as `r` does and opens no groups. -/
def Suits [Capacity] (conditions : Dict Condition) (r : Reader) (name : String) : Prop :=
  ∃ value ast, valueSource conditions name = .ok (value, 0) ∧
    Fills value.toList (fun _ => ast) 0 ∧ Tries (meaningOf ast) (waysOf r) ∧ r.Exact

/-- The parameters that took part in a match, by their groups. -/
def takenIn (slots : List (String × Nat)) (g : Groups) : Captured :=
  slots.filterMap fun slot => (g.get? slot.2).map (slot.1, ·)

/-- Ways and readings are the same, with groups for names.  The groups are those of `slots`, and
    their indices lie between `k` and `k'`. -/
structure Labels (slots : List (String × Nat)) (k k' : Nat) (W : Ways)
    (N : List Char → List (Captured × List Char)) : Prop where
  readings : ∀ s, N s = (W s).map fun w => (takenIn slots w.1, w.2)
  groups : ∀ s, ∀ w ∈ W s, ∀ e ∈ w.1, k < e.1 ∧ e.1 ≤ k'
  slots : ∀ slot ∈ slots, k < slot.2 ∧ slot.2 ≤ k'

theorem get?_append (g h : Groups) (i : Nat) :
    Groups.get? (g ++ h) i = (Groups.get? g i).or (Groups.get? h i) :=
  List.lookup_append

theorem get?_eq_none {g : Groups} {i : Nat} (h : ∀ e ∈ g, e.1 ≠ i) : Groups.get? g i = none := by
  rw [Groups.get?, List.lookup_eq_none_iff]
  intro e he
  simpa using (h e he).symm

theorem takenIn_nil (slots : List (String × Nat)) : takenIn slots [] = [] := by
  simp [takenIn, Groups.get?]

/-- Groups of what follows do not count for the parameters in front, nor the other way round. -/
theorem takenIn_append {as bs : List (String × Nat)} {g h : Groups} {k : Nat}
    (has : ∀ slot ∈ as, slot.2 ≤ k) (hbs : ∀ slot ∈ bs, k < slot.2)
    (hg : ∀ e ∈ g, e.1 ≤ k) (hh : ∀ e ∈ h, k < e.1) :
    takenIn (as ++ bs) (h ++ g) = takenIn as g ++ takenIn bs h := by
  rw [takenIn, List.filterMap_append]
  congr 1
  · refine List.filterMap_congr fun slot hslot => ?_
    have hnone : Groups.get? h slot.2 = none := by
      refine get?_eq_none fun e he => ?_
      have h₁ := has slot hslot
      have h₂ := hh e he
      omega
    rw [get?_append, hnone, Option.none_or]
  · refine List.filterMap_congr fun slot hslot => ?_
    have hnone : Groups.get? g slot.2 = none := by
      refine get?_eq_none fun e he => ?_
      have h₁ := hbs slot hslot
      have h₂ := hg e he
      omega
    rw [get?_append, hnone, Option.or_none]

namespace Labels

/-- Taking nothing. -/
theorem skip (k : Nat) : Labels [] k k .skip (fun s => [([], s)]) where
  readings _ := rfl
  groups s w hw e he := by
    rw [Ways.skip, List.mem_singleton] at hw
    rw [hw] at he
    exact absurd he List.not_mem_nil
  slots _ h := absurd h List.not_mem_nil

/-- One part behind another. -/
theorem seq {as bs : List (String × Nat)} {i j k : Nat} {U W : Ways}
    {M N : List Char → List (Captured × List Char)} (hij : i ≤ j) (hjk : j ≤ k)
    (hU : Labels as i j U M) (hW : Labels bs j k W N) :
    Labels (as ++ bs) i k (U.seq W)
      (fun s => (M s).flatMap fun w => (N w.2).map fun x => (w.1 ++ x.1, x.2)) where
  readings s := by
    simp only [Ways.seq, hU.readings, List.flatMap_map, List.map_flatMap, hW.readings,
      List.map_map]
    refine List.flatMap_congr fun w hw => List.map_congr_left fun x hx => ?_
    -- the groups of the two parts have other numbers, so each takes its own
    have htaken := takenIn_append (fun slot h => (hU.slots slot h).2)
      (fun slot h => (hW.slots slot h).1) (fun e he => (hU.groups s w hw e he).2)
      (fun e he => (hW.groups w.2 x hx e he).1)
    simp only [Function.comp_apply, htaken]
  groups s y hy e he := by
    obtain ⟨w, hw, hy⟩ := List.mem_flatMap.1 hy
    obtain ⟨x, hx, rfl⟩ := List.mem_map.1 hy
    rcases List.mem_append.1 he with he | he
    · have h := hW.groups w.2 x hx e he
      exact ⟨by omega, h.2⟩
    · have h := hU.groups s w hw e he
      exact ⟨h.1, by omega⟩
  slots slot h := by
    rcases List.mem_append.1 h with h | h
    · have hs := hU.slots slot h
      exact ⟨hs.1, by omega⟩
    · have hs := hW.slots slot h
      exact ⟨by omega, hs.2⟩

/-- A part that may be left out. -/
theorem maybe {as : List (String × Nat)} {i j : Nat} {W : Ways}
    {N : List Char → List (Captured × List Char)} (h : Labels as i j W N) :
    Labels as i j (W.or .skip) (fun s => N s ++ [([], s)]) where
  readings s := by
    rw [Ways.or, Ways.skip, List.map_append, h.readings, List.map_singleton, takenIn_nil]
  groups s w hw e he := by
    rcases List.mem_append.1 hw with hw | hw
    · exact h.groups s w hw e he
    · rw [Ways.skip, List.mem_singleton] at hw
      rw [hw] at he
      exact absurd he List.not_mem_nil
  slots := h.slots

/-- A parameter. -/
theorem param (name : String) (i : Nat) {r : Reader} (hr : r.Exact) :
    Labels [(name, i + 1)] i (i + 1) ((waysOf r).group (i + 1))
      (fun s => (r s).map fun w => ([(name, w.1)], w.2)) where
  readings s := by
    rw [Ways.group, waysOf, List.map_map, List.map_map]
    refine List.map_congr_left fun w hw => ?_
    have htake : s.take (s.length - w.2.length) = w.1 := by
      rw [← hr s w hw, List.length_append, Nat.add_sub_cancel, List.take_left]
    simp [takenIn, Groups.get?, htake]
  groups s w hw e he := by
    rw [Ways.group, waysOf, List.map_map] at hw
    obtain ⟨x, -, rfl⟩ := List.mem_map.1 hw
    rw [List.mem_singleton.1 he]
    exact ⟨Nat.lt_succ_self i, Nat.le_refl _⟩
  slots slot h := by
    rw [List.mem_singleton.1 h]
    exact ⟨Nat.lt_succ_self i, Nat.le_refl _⟩

/-- A literal. -/
theorem literal (text : String) (i : Nat) :
    Labels [] i i (Ways.all (text.toList.map fun c => .char (CharSet.single c).contains))
      (fun s => if text.toList.isPrefixOf s then [([], s.drop text.toList.length)] else []) where
  readings s := by
    rw [Ways.all_chars]
    by_cases h : text.toList.isPrefixOf s = true
    · rw [if_pos h, if_pos h]
      rfl
    · rw [if_neg h, if_neg h]
      rfl
  groups s w hw e he := by
    rw [Ways.all_chars] at hw
    by_cases h : text.toList.isPrefixOf s = true
    · rw [if_pos h, List.mem_singleton] at hw
      rw [hw] at he
      exact absurd he List.not_mem_nil
    · rw [if_neg h] at hw
      exact absurd hw List.not_mem_nil
  slots _ h := absurd h List.not_mem_nil

end Labels

/-! ## Values -/

theorem waysOf_readRun (p : Char → Bool) : waysOf (readRun p) = Ways.run p := by
  funext s
  induction s with
  | nil => rfl
  | cons c s ih =>
    rw [waysOf] at ih
    rw [waysOf, readRun, Ways.run, List.map_append, ← ih]
    by_cases hc : p c = true
    · simp [hc]
    · simp [hc]

theorem waysOf_readWord :
    waysOf readWord = (Ways.char isWordChar).seq (.run isWordChar) := by
  funext s
  cases s with
  | nil => rfl
  | cons c s =>
    rw [waysOf, readWord, ← waysOf_readRun, Ways.seq, Ways.char]
    by_cases hc : isWordChar c = true
    · simp [hc, waysOf]
    · simp [hc]

/-- The class of the values without a condition, as written. -/
def wordItems : ClassSet :=
  .union [.range ⟨'A', false⟩ ⟨'Z', false⟩, .range ⟨'a', false⟩ ⟨'z', false⟩,
    .range ⟨'0', false⟩ ⟨'9', false⟩, .literal ⟨'_', false⟩, .literal ⟨'.', false⟩,
    .literal ⟨'~', false⟩, .literal ⟨'-', false⟩]

theorem readClass_wordItems (s : List Char) :
    readClass false ("A-Za-z0-9_.~\\-]".toList ++ s) = .ok (.bracketed false wordItems, s) := rfl

/-- The set of the values' characters. -/
def wordSet : CharSet :=
  .union (.range 'A' 'Z') (.union (.range 'a' 'z') (.union (.range '0' '9')
    (.union (.single '_') (.union (.single '.') (.union (.single '~')
      (.union (.single '-') .empty))))))

theorem contains_wordSet : wordSet.contains = isWordChar := by
  funext c
  have hupper : c.isUpper = (decide ('A' ≤ c) && decide (c ≤ 'Z')) := by
    show decide (_ ∧ _) = _
    rw [Bool.decide_and]
    rfl
  have hlower : c.isLower = (decide ('a' ≤ c) && decide (c ≤ 'z')) := rfl
  have hdigit : c.isDigit = (decide ('0' ≤ c) && decide (c ≤ '9')) := rfl
  simp only [wordSet, CharSet.contains, CharSet.contains_single, isWordChar, hupper, hlower,
    hdigit, Bool.or_false, Bool.or_assoc]

/-- A repeated class takes runs of its members. -/
theorem Tries.plus (S : CharSet) :
    Tries (.repeat 1 none true (.set S)) ((Ways.char S.contains).seq (.run S.contains)) :=
  Runs.plus S

theorem Reader.exact_readWord : Reader.Exact readWord := fun _ _ h => append_of_mem_readWord h

theorem Reader.exact_readListed (values : List String) : Reader.Exact (readListed values) :=
  fun _ _ h => append_of_mem_readListed h

/-- The expression of a parameter without a condition. -/
theorem fills_plainValue :
    Fills plainValue.toList (fun _ => .repetition 1 none true (.bracketed false wordItems)) 0 := by
  have hclass : AddsBefore (fun _ => True) ('[' :: "A-Za-z0-9_.~\\-]".toList)
      (fun _ => [.bracketed false wordItems]) 0 := by
    refine AddsBefore.ofStep (by decide) ?_
    intro st t hv
    show (readClass st.verbose _ >>= fun read => pure (st.push read.1, read.2)) = _
    rw [hv, readClass_wordItems]
    rfl
  exact Fills.ofAdds (Adds.repeat hclass (by simp) repeatsBy_plus (fun _ _ _ => rfl))

theorem meaningOf_plainValue :
    meaningOf (.repetition 1 none true (.bracketed false wordItems))
      = .repeat 1 none true (.set wordSet) := rfl

/-- A parameter without a condition. -/
theorem suits_readWord [Capacity] {conditions : Dict Condition} {name : String}
    (h : conditions.get? name = none) : Suits conditions readWord name := by
  refine ⟨plainValue, _, by rw [valueSource, h], fills_plainValue, ?_, Reader.exact_readWord⟩
  rw [meaningOf_plainValue, waysOf_readWord, ← contains_wordSet]
  exact Tries.plus wordSet

theorem waysOf_readListed (values : List String) :
    waysOf (readListed values) = Ways.any (values.map fun v =>
      Ways.all (v.toList.map fun c => .char (CharSet.single c).contains)) := by
  funext s
  rw [waysOf, readListed, Ways.any, List.flatMap_map]
  induction values with
  | nil => rfl
  | cons v values ih =>
    rw [List.flatMap_cons, Ways.all_chars, ← ih, List.filterMap_cons]
    by_cases h : v.toList.isPrefixOf s = true
    · rw [if_pos h, if_pos h]
      rfl
    · rw [if_neg h, if_neg h]
      rfl

/-- The text of the expression of a list of values. -/
theorem toList_source_oneOf (v : String) (values : List String) :
    (Condition.oneOf (v :: values)).source.toList
      = '(' :: '?' :: ':' :: (alternatives (v.toList :: values.map String.toList) ++ [')']) := by
  have hescape : ∀ w : String, (Regex.escape w).toList
      = w.toList.flatMap fun c => if isMeta c then ['\\', c] else [c] := fun w => by
    rw [Regex.escape, String.toList_ofList]
  simp [Condition.source, alternatives, hescape, Function.comp_def]

/-- The expression of a list of values: the values as they are, one or another. -/
theorem fills_listed (v : String) (values : List String) :
    Fills (Condition.oneOf (v :: values)).source.toList
      (fun _ => .group (.plain [])
        (Ast.ofBranches ((v :: values).map fun w => verbatim w.toList))) 0 := by
  have hgroup := Fills.ofAdds
    (AddsBefore.plain (Fills.alternatives v.toList (values.map String.toList))).toAdds
  have hmap : v.toList :: values.map String.toList = (v :: values).map String.toList := rfl
  rw [hmap, List.map_map] at hgroup
  rw [toList_source_oneOf]
  exact hgroup

theorem meaning_listed (values : List String) :
    (Ast.group (.plain []) (Ast.ofBranches (values.map fun w => verbatim w.toList))).meaning
        (.initial true)
      = .ok (.altAll (values.map fun w => .catAll (w.toList.map fun c => .set (.single c))),
          .initial true) := by
  have hall := meaningAll_map (fun w : String => meaning_verbatim w.toList) values
  exact meaning_plain.2 ⟨.initial true, meaning_ofBranches.2 ⟨_, hall, rfl⟩, rfl⟩

/-- A parameter with a list of values. -/
theorem suits_readListed [Capacity] {conditions : Dict Condition} {name v : String}
    {values : List String} (h : conditions.get? name = some (.oneOf (v :: values))) :
    Suits conditions (readListed (v :: values)) name := by
  refine ⟨(Condition.oneOf (v :: values)).source, _, by rw [valueSource, h],
    fills_listed v values, ?_, Reader.exact_readListed _⟩
  rw [meaningOf_eq (meaning_listed _), waysOf_readListed]
  refine Tries.altAll ?_ (by simp)
  generalize v :: values = ws
  induction ws with
  | nil => exact .nil
  | cons w ws ih => exact .cons (Tries.catAll (Tries.chars w.toList)) ih

/-! ## Nodes -/

/-- The values of parameters open no groups. -/
def noInner : String → Nat := fun _ => 0

section

variable (R : String → Reader)

mutual

/-- How the expression of a node takes text, when `k` groups were opened before. -/
def Node.ways (k : Nat) : Node → List Ways
  | .literal text => text.toList.map fun c => .char (CharSet.single c).contains
  | .param name => [(waysOf (R name)).group (k + 1)]
  | .group children => [(Ways.all (Node.waysAll k children)).or .skip]

/-- How the expressions of nodes take text, one behind another. -/
def Node.waysAll (k : Nat) : List Node → List Ways
  | [] => []
  | n :: ns => n.ways k ++ Node.waysAll (k + openedBy noInner n.params) ns

end

@[simp] theorem Node.ways_literal (k : Nat) (text : String) :
    (Node.literal text).ways R k
      = text.toList.map fun c => .char (CharSet.single c).contains := rfl

@[simp] theorem Node.ways_param (k : Nat) (name : String) :
    (Node.param name).ways R k = [(waysOf (R name)).group (k + 1)] := rfl

@[simp] theorem Node.ways_group (k : Nat) (children : List Node) :
    (Node.group children).ways R k = [(Ways.all (Node.waysAll R k children)).or .skip] := rfl

@[simp] theorem Node.waysAll_nil (k : Nat) : Node.waysAll R k [] = [] := rfl

@[simp] theorem Node.waysAll_cons (k : Nat) (n : Node) (ns : List Node) :
    Node.waysAll R k (n :: ns)
      = n.ways R k ++ Node.waysAll R (k + openedBy noInner n.params) ns := rfl

end

mutual

theorem Node.tries_ways {R : String → Reader} {E : String → Nat → Expr} {k : Nat} (n : Node)
    (hE : ∀ a ∈ n.params, ∀ i, Tries (E a i) (waysOf (R a))) :
    List.Forall₂ Tries (n.exprs E noInner k) (n.ways R k) := by
  cases n with
  | literal text => exact Tries.chars text.toList
  | param name =>
    have hname := hE name (List.mem_singleton_self name) (k + 1)
    exact .cons (hname.group (k + 1)) .nil
  | group children => exact .cons (Tries.catAll (Node.tries_waysAll children hE)).optional .nil

theorem Node.tries_waysAll {R : String → Reader} {E : String → Nat → Expr} {k : Nat}
    (ns : List Node) (hE : ∀ a ∈ Node.paramsAll ns, ∀ i, Tries (E a i) (waysOf (R a))) :
    List.Forall₂ Tries (Node.exprsAll E noInner k ns) (Node.waysAll R k ns) := by
  cases ns with
  | nil => exact .nil
  | cons n ns =>
    have hn := Node.tries_ways (k := k) n (fun a ha => hE a (List.mem_append_left _ ha))
    have hns := Node.tries_waysAll (k := k + openedBy noInner n.params) ns
      (fun a ha => hE a (List.mem_append_right _ ha))
    exact List.rel_append hn hns

end

mutual

theorem Node.labels_ways {R : String → Reader} (k : Nat) (n : Node)
    (hR : ∀ a ∈ n.params, (R a).Exact) :
    Labels (slotsOf noInner k n.params) k (k + openedBy noInner n.params)
      (Ways.all (n.ways R k)) (n.readings R) := by
  cases n with
  | literal text => exact Labels.literal text k
  | param name =>
    have hname := hR name (List.mem_singleton_self name)
    rw [Node.ways_param, Ways.all_singleton]
    exact Labels.param name k hname
  | group children =>
    rw [Node.ways_group, Ways.all_singleton]
    exact (Node.labels_waysAll k children hR).maybe

theorem Node.labels_waysAll {R : String → Reader} (k : Nat) (ns : List Node)
    (hR : ∀ a ∈ Node.paramsAll ns, (R a).Exact) :
    Labels (slotsOf noInner k (Node.paramsAll ns)) k (k + openedBy noInner (Node.paramsAll ns))
      (Ways.all (Node.waysAll R k ns)) (Node.readingsAll R ns) := by
  cases ns with
  | nil => exact Labels.skip k
  | cons n ns =>
    have hn := Node.labels_ways k n (fun a ha => hR a (List.mem_append_left _ ha))
    have hns := Node.labels_waysAll (k + openedBy noInner n.params) ns
      (fun a ha => hR a (List.mem_append_right _ ha))
    rw [Node.paramsAll_cons, Node.waysAll_cons, Ways.all_append, slotsOf_append, openedBy_append,
      ← Nat.add_assoc]
    exact hn.seq (Nat.le_add_right _ _) (Nat.le_add_right _ _) hns

end

/-! ## Whole paths -/

theorem head?_seq_atEnd (W : Ways) (s : List Char) :
    ((W.seq .atEnd) s).head?.map Prod.fst
      = ((W s).find? fun w => w.2.isEmpty).map Prod.fst := by
  rw [Ways.seq]
  induction W s with
  | nil => rfl
  | cons w ws ih =>
    rw [List.flatMap_cons]
    cases hw : w.2 with
    | nil => simp [Ways.atEnd, hw]
    | cons c t => simpa [Ways.atEnd, hw] using ih

theorem filled_takenIn (slots : List (String × Nat)) (g : Groups) :
    (takenIn slots g).filled = slots.filterMap (Matcher.valueOf? g) := by
  induction slots with
  | nil => rfl
  | cons slot slots ih =>
    rw [Captured.filled, takenIn] at ih
    rw [Captured.filled, takenIn, List.filterMap_cons, List.filterMap_cons, ← ih,
      Matcher.valueOf?]
    cases hg : Groups.get? g slot.2 with
    | none => rfl
    | some t => cases t <;> simp

/-- The groups that a compiled template finds are those of the first way through its nodes that
    takes the whole text. -/
theorem regex_captures?_eq_find? [Capacity] {pattern : String} {tree : List Node}
    {conditions : Dict Condition} {R : String → Reader} {V : String → Nat → Ast} {m : Matcher}
    (hfill : ∀ a ∈ Node.paramsAll tree, Filled conditions V noInner a)
    (htries : ∀ a ∈ Node.paramsAll tree, ∀ i, Tries (meaningOf (V a i)) (waysOf (R a)))
    (h : Matcher.compile pattern tree conditions = .ok m) (s : List Char) :
    m.regex.captures? s
      = ((Ways.all (Node.waysAll R 0 tree) s).find? fun w => w.2.isEmpty).map Prod.fst := by
  have hnodes := Node.tries_waysAll (E := fun a i => meaningOf (V a i)) (k := 0) tree htries
  have hends := Tries.catAll (List.rel_append hnodes (.cons Tries.textEnd .nil))
  rw [Ways.all_append, Ways.all_singleton] at hends
  have hsearch := search_eq_head? hends 0 s
  rw [head?_seq_atEnd] at hsearch
  rw [Regex.captures?, plan_compile hfill h]
  exact hsearch

/-- A template reads a path by its expression as by its tree. -/
theorem captures?_eq_directCaptures? [Capacity] {pattern : String} {tree : List Node}
    {conditions : Dict Condition} {R : String → Reader} {m : Matcher}
    (hR : ∀ a ∈ Node.paramsAll tree, Suits conditions (R a) a)
    (h : Matcher.compile pattern tree conditions = .ok m) (path : String) :
    m.captures? path = directCaptures? R tree path := by
  choose! value V hvalue hfills htries hexact using hR
  have hfill : ∀ a ∈ Node.paramsAll tree, Filled conditions (fun a _ => V a) noInner a := by
    intro a ha text n htext
    rw [hvalue a ha] at htext
    cases htext
    exact hfills a ha
  have hcounted : ∀ a ∈ (Node.paramsAll tree).dropLast, countedIn conditions a = noInner a := by
    intro a ha
    rw [countedIn, hvalue a ((List.dropLast_sublist _).subset ha)]
    rfl
  have hslots : m.slots = slotsOf noInner 0 (Node.paramsAll tree) := by
    rw [slots_compile h, slotsOf_congr 0 hcounted]
  have hgroups := regex_captures?_eq_find? hfill (fun a ha _ => htries a ha) h path.toList
  have hlabels := Node.labels_waysAll 0 tree hexact
  -- the ways are the readings, so the first that is complete is the same
  rw [Matcher.captures?, hgroups, directCaptures?, firstReading?, hlabels.readings,
    List.find?_map, hslots]
  simp only [Option.map_map]
  congr 1
  funext w
  exact (filled_takenIn _ w.1).symm

/-- A template whose parameters have no condition or a list of values reads a path as backtracking
    through its tree does. -/
theorem captures?_eq_directCaptures?_of_listed [Capacity] (pattern : String)
    (conditions : Dict Condition) (m : Matcher)
    (hconditions : ∀ a ∈ Node.paramsAll (parse pattern), conditions.get? a = none ∨
      ∃ v values, conditions.get? a = some (.oneOf (v :: values)))
    (h : Matcher.compile pattern (parse pattern) conditions = .ok m) (path : String) :
    m.captures? path
      = directCaptures? (fun a => readerOf (conditions.get? a)) (parse pattern) path := by
  refine captures?_eq_directCaptures? (fun a ha => ?_) h path
  rcases hconditions a ha with hnone | ⟨v, values, hlist⟩
  · rw [hnone]
    exact suits_readWord hnone
  · rw [hlist]
    exact suits_readListed hlist

/-- Of two parameters in a row the first is greedy, and the first of the values that lets the path
    end is preferred to a longer one. -/
theorem captures?_of_ambiguous_path :
    let conditions := Dict.empty.insert "x" (.oneOf ["b", "bc"])
    (∀ a ∈ Node.paramsAll (parse "<a><b>(/<x>(c))"), conditions.get? a = none ∨
      ∃ v values, conditions.get? a = some (.oneOf (v :: values))) ∧
    ∃ m, Matcher.compile "<a><b>(/<x>(c))" (parse "<a><b>(/<x>(c))") conditions = .ok m ∧
      m.captures? "foo/bc" = some [("a", "fo"), ("b", "o"), ("x", "b")] := by
  intro conditions
  have hconditions : ∀ a ∈ Node.paramsAll (parse "<a><b>(/<x>(c))"), conditions.get? a = none ∨
      ∃ v values, conditions.get? a = some (.oneOf (v :: values)) := by
    intro a ha
    have hparams : Node.paramsAll (parse "<a><b>(/<x>(c))") = ["a", "b", "x"] := by
      decide +kernel
    rw [hparams] at ha
    rcases ha with _ | ⟨_, _ | ⟨_, _ | ⟨_, ha⟩⟩⟩
    · exact .inl rfl
    · exact .inl rfl
    · exact .inr ⟨"b", ["bc"], rfl⟩
    · exact absurd ha List.not_mem_nil
  obtain ⟨m, hm⟩ : ∃ m, Matcher.compile "<a><b>(/<x>(c))" (parse "<a><b>(/<x>(c))") conditions
      = .ok m := exists_of_isOk (by decide +kernel)
  refine ⟨hconditions, m, hm, ?_⟩
  rw [captures?_eq_directCaptures?_of_listed _ conditions m hconditions hm "foo/bc"]
  decide +kernel

end Waymark.Template
