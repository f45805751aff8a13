/-
  Waymark.Proofs.Route.Listed

  Routes whose parameters have no condition or a list of values.  Such a route reads a path by its
  tree: words, listed values, and its own two parameters.  If there is no question mark in literals
  and values, the part of the tree in front of the query group reads up to the first question mark
  whatever stands behind it, and the query group reads the rest.

  Main statement: `captures?_query`, what is taken from a path with a query is what is taken from
  the path alone, and the query.
-/

import Waymark.Proofs.Route.RoundTrip

namespace Waymark

open Waymark.Template

/-! ## Options -/

/-- The condition that a parameter has in a route; the reserved ones have their own. -/
def Options.conditionOf (o : Options) (name : String) : Option Condition :=
  (Route.conditionsWith o.conditions o.slashOptional).get? name

/-- Options without a filter of results, and no other conditions on parameters of the template than
    lists of values. -/
structure Options.Listed (o : Options) : Prop where
  postMatch : o.postMatch = none
  conditions : ∀ a ∈ Node.paramsAll (parse o.pattern), o.conditionOf a = none ∨
    ∃ values, o.conditionOf a = some (.oneOf values)

/-- No literal of the template and no value of a list holds a question mark. -/
structure Options.Unasking (o : Options) : Prop where
  literals : ∀ text, Node.literal text ∈ Node.leavesAll (parse o.pattern) → '?' ∉ text.toList
  values : ∀ a ∈ Node.paramsAll (parse o.pattern), ∀ values,
    o.conditionOf a = some (.oneOf values) → ∀ v ∈ values, '?' ∉ v.toList

namespace Template

/-! ## Reading up to a question mark -/

/-- Whether a reader takes the same in front of a question mark as at the end of a text. -/
def Reader.Halts (r : Reader) : Prop :=
  ∀ s q, r (s ++ '?' :: q) = (r s).map fun w => (w.1, w.2 ++ '?' :: q)

theorem halts_readRun {p : Char → Bool} (hp : p '?' = false) : Reader.Halts (readRun p) := by
  intro s q
  induction s with
  | nil =>
    rw [List.nil_append, readRun, readRun, hp]
    rfl
  | cons c s ih =>
    rw [List.cons_append, readRun, readRun, ih]
    by_cases hc : p c = true
    · simp [hc]
    · simp [hc]

theorem halts_readWord : Reader.Halts readWord := by
  intro s q
  cases s with
  | nil =>
    have hmark : isWordChar '?' = false := by decide
    simp [readWord, hmark]
  | cons c s =>
    rw [List.cons_append, readWord, readWord, halts_readRun (by decide)]
    by_cases hc : isWordChar c = true
    · simp [hc]
    · simp [hc]

/-- A text without question marks stands in front of one if it stands there without it. -/
theorem isPrefixOf_append_query {t : List Char} (ht : '?' ∉ t) (s q : List Char) :
    t.isPrefixOf (s ++ '?' :: q) = t.isPrefixOf s := by
  induction t generalizing s with
  | nil => rfl
  | cons c t ih =>
    rw [List.mem_cons, not_or] at ht
    cases s with
    | nil =>
      have hc : (c == '?') = false := beq_eq_false_iff_ne.2 (Ne.symm ht.1)
      have hhead : (c :: t).isPrefixOf ('?' :: q) = (c == '?' && t.isPrefixOf q) := rfl
      rw [List.nil_append, hhead, hc]
      rfl
    | cons d s => rw [List.cons_append, List.isPrefixOf, List.isPrefixOf, ih ht.2]

theorem drop_append_of_isPrefixOf {t s : List Char} (h : t.isPrefixOf s = true) (u : List Char) :
    (s ++ u).drop t.length = s.drop t.length ++ u :=
  List.drop_append_of_le_length (List.isPrefixOf_iff_prefix.1 h).length_le

theorem halts_readListed {values : List String} (h : ∀ v ∈ values, '?' ∉ v.toList) :
    Reader.Halts (readListed values) := by
  intro s q
  rw [readListed, readListed, List.map_filterMap]
  refine List.filterMap_congr fun v hv => ?_
  rw [isPrefixOf_append_query (h v hv)]
  by_cases hp : v.toList.isPrefixOf s = true
  · rw [if_pos hp, if_pos hp, drop_append_of_isPrefixOf hp]
    rfl
  · rw [if_neg hp, if_neg hp]
    rfl

mutual

/-- What a node reads in front of a question mark. -/
theorem Node.readings_query {R : String → Reader} (n : Node) (hR : ∀ a ∈ n.params, (R a).Halts)
    (hn : ∀ text, Node.literal text ∈ n.leaves → '?' ∉ text.toList) (s q : List Char) :
    n.readings R (s ++ '?' :: q) = (n.readings R s).map fun w => (w.1, w.2 ++ '?' :: q) := by
  cases n with
  | literal text =>
    have htext := hn text (List.mem_singleton_self _)
    rw [Node.readings_literal, Node.readings_literal, isPrefixOf_append_query htext]
    by_cases hp : text.toList.isPrefixOf s = true
    · rw [if_pos hp, if_pos hp, drop_append_of_isPrefixOf hp]
      rfl
    · rw [if_neg hp, if_neg hp]
      rfl
  | param name =>
    have hname := hR name (List.mem_singleton_self _)
    rw [Node.readings_param, Node.readings_param, hname, List.map_map, List.map_map]
    rfl
  | group children =>
    rw [Node.readings_group, Node.readings_group, Node.readingsAll_query children hR hn,
      List.map_append]
    rfl

/-- What nodes read in front of a question mark. -/
theorem Node.readingsAll_query {R : String → Reader} (ns : List Node)
    (hR : ∀ a ∈ Node.paramsAll ns, (R a).Halts)
    (hns : ∀ text, Node.literal text ∈ Node.leavesAll ns → '?' ∉ text.toList) (s q : List Char) :
    Node.readingsAll R ns (s ++ '?' :: q)
      = (Node.readingsAll R ns s).map fun w => (w.1, w.2 ++ '?' :: q) := by
  cases ns with
  | nil => rfl
  | cons n ns =>
    have hn := Node.readings_query n (fun a ha => hR a (List.mem_append_left _ ha))
      (fun text h => hns text (List.mem_append_left _ h))
    have hrest := Node.readingsAll_query ns (fun a ha => hR a (List.mem_append_right _ ha))
      (fun text h => hns text (List.mem_append_right _ h))
    rw [Node.readingsAll_cons, Node.readingsAll_cons, hn, List.flatMap_map, List.map_flatMap]
    refine List.flatMap_congr fun w _ => ?_
    rw [hrest, List.map_map, List.map_map]
    rfl

end

mutual

/-- What a node leaves is the end of the text. -/
theorem Node.suffix_of_mem_readings {R : String → Reader} {s : List Char}
    {w : Captured × List Char} (n : Node) (hR : ∀ a ∈ n.params, (R a).Exact)
    (h : w ∈ n.readings R s) : w.2 <:+ s := by
  cases n with
  | literal text =>
    obtain ⟨-, rfl⟩ := Node.mem_readings_literal.1 h
    exact List.suffix_append _ _
  | param name =>
    have hname := hR name (List.mem_singleton_self _)
    obtain ⟨v, hv, rfl⟩ := List.mem_map.1 h
    exact ⟨v.1, hname s v hv⟩
  | group children =>
    rw [Node.readings_group, List.mem_append, List.mem_singleton] at h
    rcases h with h | rfl
    · exact Node.suffix_of_mem_readingsAll children hR h
    · exact List.suffix_refl _

/-- What nodes leave is the end of the text. -/
theorem Node.suffix_of_mem_readingsAll {R : String → Reader} {s : List Char}
    {w : Captured × List Char} (ns : List Node) (hR : ∀ a ∈ Node.paramsAll ns, (R a).Exact)
    (h : w ∈ Node.readingsAll R ns s) : w.2 <:+ s := by
  cases ns with
  | nil =>
    rw [Node.readingsAll_nil, List.mem_singleton] at h
    subst h
    exact List.suffix_refl _
  | cons n ns =>
    obtain ⟨u, hu, h⟩ := List.mem_flatMap.1 h
    obtain ⟨v, hv, rfl⟩ := List.mem_map.1 h
    have hn := Node.suffix_of_mem_readings n (fun a ha => hR a (List.mem_append_left _ ha)) hu
    have hns := Node.suffix_of_mem_readingsAll ns (fun a ha => hR a (List.mem_append_right _ ha)) hv
    exact hns.trans hn

end

theorem Node.leavesAll_append (ns ms : List Node) :
    Node.leavesAll (ns ++ ms) = Node.leavesAll ns ++ Node.leavesAll ms := by
  induction ns with
  | nil => rfl
  | cons n ns ih => simp [ih]

/-! ## The query group -/

/-- What was taken does not matter for finding the first way whose rest is accepted. -/
theorem find?_map_taken {α β : Type} (E : List Char → Bool) (f : α → β)
    (ws : List (α × List Char)) :
    ((ws.map fun w => (f w.1, w.2)).find? fun w => E w.2)
      = (ws.find? fun w => E w.2).map fun w => (f w.1, w.2) := by
  rw [List.find?_map]
  rfl

/-- A run takes a whole text of its kind, or cannot take the whole text. -/
theorem find?_readRun (p : Char → Bool) (s : List Char) :
    ((readRun p s).find? fun w => w.2.isEmpty) = if s.all p then some (s, []) else none := by
  induction s with
  | nil => rfl
  | cons c s ih =>
    by_cases hc : p c = true
    · -- what is left is left behind the first character as well
      rw [readRun, if_pos hc, List.find?_append, find?_map_taken List.isEmpty (List.cons c), ih,
        List.all_cons, hc, Bool.true_and]
      by_cases hs : s.all p = true
      · rw [if_pos hs, if_pos hs]
        rfl
      · rw [if_neg hs, if_neg hs]
        rfl
    · -- the run is empty here, and leaves the character
      rw [readRun, if_neg hc, List.all_cons, Bool.eq_false_iff.2 hc]
      rfl

/-- Where no question mark stands the query group is left out. -/
theorem readingsAll_queryGroup {R : String → Reader} {s : List Char} (h : s.head? ≠ some '?') :
    Node.readingsAll R [Route.queryGroup] s = [([], s)] := by
  have hprefix : ¬ "?".toList.isPrefixOf s = true := by
    cases s with
    | nil => decide
    | cons c s =>
      intro hc
      have hhead : '?' = c := by simpa using hc
      rw [← hhead] at h
      exact h rfl
  have hchildren : Node.readingsAll R [.literal "?", .param queryParam] s = [] := by
    rw [Node.readingsAll_cons, Node.readings_literal, if_neg hprefix]
    rfl
  rw [Route.queryGroup, Node.readingsAll_cons, Node.readings_group, hchildren]
  rfl

/-- A query is taken whole if it is one line; then the query group is not left out. -/
theorem find?_readingsAll_queryGroup {R : String → Reader}
    (hR : R queryParam = readRun (· != '\n')) (q : List Char) :
    ((Node.readingsAll R [Route.queryGroup] ('?' :: q)).find? fun w => w.2.isEmpty)
      = if '\n' ∈ q then none else some ([(queryParam, q)], []) := by
  have hline : q.all (· != '\n') = true ↔ '\n' ∉ q := by
    rw [List.all_eq_true]
    constructor
    · intro h hq
      simpa using h _ hq
    · intro h c hc
      rw [bne_iff_ne]
      rintro rfl
      exact h hc
  -- with the group left out the question mark is left
  have hgroup : Node.readingsAll R [Route.queryGroup] ('?' :: q)
      = (readRun (· != '\n') q).map (fun w => ([(queryParam, w.1)], w.2)) ++ [([], '?' :: q)] := by
    simp [Route.queryGroup, hR, List.map_eq_flatMap]
  rw [hgroup, List.find?_append, find?_map_taken List.isEmpty (fun v => [(queryParam, v)]), find?_readRun]
  by_cases hq : '\n' ∈ q
  · rw [if_pos hq, if_neg (fun h => hline.1 h hq)]
    rfl
  · rw [if_neg hq, if_pos (hline.2 hq)]
    rfl

section

variable {R : String → Reader} {ns : List Node} {p : List Char}

/-- Without a question mark the query group reads nothing. -/
theorem firstReading?_of_not_mem (hexact : ∀ a ∈ Node.paramsAll ns, (R a).Exact) (hp : '?' ∉ p) :
    firstReading? R (ns ++ [Route.queryGroup]) p = firstReading? R ns p := by
  have hsame : Node.readingsAll R (ns ++ [Route.queryGroup]) p = Node.readingsAll R ns p := by
    rw [Node.readingsAll_append]
    refine (List.flatMap_congr (g := fun w => [w]) fun w hw => ?_).trans (List.flatMap_singleton' _)
    have hrest : w.2.head? ≠ some '?' := fun h =>
      hp ((Node.suffix_of_mem_readingsAll ns hexact hw).subset (List.mem_of_mem_head? h))
    rw [readingsAll_queryGroup hrest]
    simp
  rw [firstReading?, firstReading?, hsame]

/-- What is behind the first question mark is read by the query group, in one way or not at all. -/
theorem firstReading?_query (hexact : ∀ a ∈ Node.paramsAll ns, (R a).Exact)
    (hhalts : ∀ a ∈ Node.paramsAll ns, (R a).Halts)
    (hliterals : ∀ text, Node.literal text ∈ Node.leavesAll ns → '?' ∉ text.toList)
    (hR : R queryParam = readRun (· != '\n')) (hp : '?' ∉ p) (q : List Char) :
    firstReading? R (ns ++ [Route.queryGroup]) (p ++ '?' :: q)
      = if '\n' ∈ q then none else (firstReading? R ns p).map (· ++ [(queryParam, q)]) := by
  have hrests : ∀ w ∈ Node.readingsAll R ns p, '?' ∉ w.2 := fun w hw h =>
    hp ((Node.suffix_of_mem_readingsAll ns hexact hw).subset h)
  rw [firstReading?, firstReading?, Node.readingsAll_append,
    Node.readingsAll_query ns hhalts hliterals, List.flatMap_map]
  -- from here on only the list of readings matters
  generalize Node.readingsAll R ns p = readings at hrests
  induction readings with
  | nil => simp
  | cons w ws ih =>
    have hws := ih fun x hx => hrests x (List.mem_cons_of_mem w hx)
    rw [List.flatMap_cons, List.find?_append, find?_map_taken List.isEmpty (w.1 ++ ·)]
    by_cases hw : w.2 = []
    · -- the path is read up to the question mark
      rw [hw, List.nil_append, find?_readingsAll_queryGroup hR]
      by_cases hq : '\n' ∈ q
      · rw [if_pos hq] at hws
        rw [if_pos hq, if_pos hq, Option.map_none, Option.none_or]
        exact hws
      · rw [if_neg hq, if_neg hq, List.find?_cons, hw]
        rfl
    · -- something stands in front of the question mark, and nothing can read it
      obtain ⟨c, t, hct⟩ := List.exists_cons_of_ne_nil hw
      have hc : c ≠ '?' := by
        rintro rfl
        exact hrests w List.mem_cons_self (hct ▸ List.mem_cons_self)
      have hhead : (w.2 ++ '?' :: q).head? ≠ some '?' := by
        rw [hct]
        simpa using hc
      have hnone : ((Node.readingsAll R [Route.queryGroup] (w.2 ++ '?' :: q)).find?
          fun x => x.2.isEmpty) = none := by
        rw [readingsAll_queryGroup hhead, hct]
        rfl
      rw [hnone, List.find?_cons, hct]
      exact hws

end

end Template

namespace Route

/-! ## The readers of a route -/

/-- The values of a list; an empty list has the empty text as its only value. -/
def readAllowed (values : List String) : Reader :=
  readListed (if values = [] then [""] else values)

theorem suits_readAllowed [Regex.Capacity] {conditions : Dict Condition} {name : String}
    {values : List String} (h : conditions.get? name = some (.oneOf values)) :
    Suits conditions (readAllowed values) name := by
  cases values with
  | cons v values =>
    rw [readAllowed, if_neg (by simp)]
    exact suits_readListed h
  | nil =>
    -- the expressions of no value and of the empty value are the same text
    have hget : (conditions.insert name (.oneOf [""])).get? name = some (.oneOf [""]) :=
      Dict.get?_insert_self conditions name (.oneOf [""])
    obtain ⟨value, ast, hvalue, hfills, htries, hexact⟩ := suits_readListed hget
    have hsource : valueSource conditions name
        = valueSource (conditions.insert name (.oneOf [""])) name := by
      rw [valueSource, valueSource, h, hget]
      rfl
    rw [readAllowed, if_pos rfl]
    exact ⟨value, ast, hsource.trans hvalue, hfills, htries, hexact⟩

/-- The reader of a parameter: the route's own parameters are read as in every route. -/
def readerFor (o : Options) (name : String) : Reader :=
  match o.conditionOf name with
  | none => readWord
  | some (.oneOf values) => readAllowed values
  | some (.expression _) => readerIn name

theorem conditionOf_slashParam {o : Options} (h : o.slashOptional = true) :
    o.conditionOf slashParam = some (.expression (Regex.escape "/")) := by
  rw [Options.conditionOf, h]
  exact get?_conditionsWith_slash o.conditions

theorem conditionOf_queryParam (o : Options) :
    o.conditionOf queryParam = some (.expression ".*") :=
  get?_conditionsWith_query o.conditions o.slashOptional

theorem readerFor_queryParam (o : Options) : readerFor o queryParam = readRun (· != '\n') := by
  rw [readerFor, conditionOf_queryParam]
  rfl

/-- The part of a route's tree in front of the query. -/
def front (o : Options) : List Node := parse o.pattern ++ slashGroups o.slashOptional

theorem tree_eq_front [Regex.Capacity] {o : Options} {r : Route} (hr : ofOptions o = .ok r) :
    r.tree = front o ++ [queryGroup] := by
  rw [(ofOptions_spec hr).2.1, treeOf_eq, front, List.append_assoc]

/-- A parameter in front of the query is one of the template, or the slash. -/
theorem mem_paramsAll_front {o : Options} {a : String} (h : a ∈ Node.paramsAll (front o)) :
    a ∈ Node.paramsAll (parse o.pattern) ∨ a = slashParam ∧ o.slashOptional = true := by
  rw [front, Node.paramsAll_append, List.mem_append] at h
  rcases h with h | h
  · exact Or.inl h
  · cases hs : o.slashOptional with
    | false =>
      rw [hs] at h
      exact absurd h List.not_mem_nil
    | true =>
      rw [hs] at h
      exact Or.inr ⟨List.mem_singleton.1 h, rfl⟩

section

variable {o : Options} {r : Route}

/-- A parameter without a condition or with a list of values. -/
theorem suits_readerFor_of_lists [Regex.Capacity] {a : String}
    (h : o.conditionOf a = none ∨ ∃ values, o.conditionOf a = some (.oneOf values)) :
    Suits (conditionsWith o.conditions o.slashOptional) (readerFor o a) a := by
  rcases h with hnone | ⟨values, hvalues⟩
  · rw [readerFor, hnone]
    exact suits_readWord hnone
  · rw [readerFor, hvalues]
    exact suits_readAllowed hvalues

theorem suits_readerFor_slash [Regex.Capacity] (hs : o.slashOptional = true) :
    Suits (conditionsWith o.conditions o.slashOptional) (readerFor o slashParam) slashParam := by
  rw [readerFor, conditionOf_slashParam hs]
  exact suits_slash (conditionOf_slashParam hs)

theorem suits_readerFor_query [Regex.Capacity] (o : Options) :
    Suits (conditionsWith o.conditions o.slashOptional) (readerFor o queryParam) queryParam := by
  rw [readerFor_queryParam]
  exact suits_query (conditionOf_queryParam o)

theorem suits_front [Regex.Capacity] (h : o.Listed) {a : String}
    (ha : a ∈ Node.paramsAll (front o)) :
    Suits (conditionsWith o.conditions o.slashOptional) (readerFor o a) a := by
  rcases mem_paramsAll_front ha with ha | ⟨rfl, hs⟩
  · exact suits_readerFor_of_lists (h.conditions a ha)
  · exact suits_readerFor_slash hs

theorem exact_front [Regex.Capacity] (h : o.Listed) {a : String}
    (ha : a ∈ Node.paramsAll (front o)) :
    (readerFor o a).Exact := by
  obtain ⟨-, -, -, -, -, hexact⟩ := suits_front h ha
  exact hexact

theorem halts_front (h : o.Listed) (hasks : o.Unasking) {a : String}
    (ha : a ∈ Node.paramsAll (front o)) : (readerFor o a).Halts := by
  rcases mem_paramsAll_front ha with ha | ⟨rfl, hs⟩
  · rcases h.conditions a ha with hnone | ⟨values, hvalues⟩
    · rw [readerFor, hnone]
      exact halts_readWord
    · rw [readerFor, hvalues]
      refine halts_readListed fun v hv => ?_
      by_cases hnil : values = []
      · rw [if_pos hnil, List.mem_singleton] at hv
        rw [hv]
        exact List.not_mem_nil
      · rw [if_neg hnil] at hv
        exact hasks.values a ha values hvalues v hv
  · rw [readerFor, conditionOf_slashParam hs]
    refine halts_readListed fun v hv => ?_
    rw [List.mem_singleton.1 hv]
    decide

theorem literals_front (hasks : o.Unasking) (text : String)
    (h : Node.literal text ∈ Node.leavesAll (front o)) : '?' ∉ text.toList := by
  rw [front, Node.leavesAll_append, List.mem_append] at h
  rcases h with h | h
  · exact hasks.literals text h
  · -- the group for a slash has no literal
    cases hs : o.slashOptional with
    | false => simp [hs, slashGroups] at h
    | true => simp [hs, slashGroups, slashGroup] at h

/-- A route reads a path by its tree if the readers in front of the query suit their conditions. -/
theorem captures?_eq_of_suits [Regex.Capacity] (hr : ofOptions o = .ok r)
    (h : ∀ a ∈ Node.paramsAll (front o),
      Suits (conditionsWith o.conditions o.slashOptional) (readerFor o a) a) (path : String) :
    r.matcher.captures? path = directCaptures? (readerFor o) (front o ++ [queryGroup]) path := by
  obtain ⟨hm, -⟩ := ofOptions_spec hr
  rw [tree_eq_front hr] at hm
  refine captures?_eq_directCaptures? (fun a ha => ?_) hm path
  rw [Node.paramsAll_append, List.mem_append] at ha
  rcases ha with ha | ha
  · exact h a ha
  · have hquery : a = queryParam := List.mem_singleton.1 ha
    rw [hquery]
    exact suits_readerFor_query o

/-- A route reads a path by its tree. -/
theorem captures?_eq_readerFor [Regex.Capacity] (h : o.Listed) (hr : ofOptions o = .ok r)
    (path : String) :
    r.matcher.captures? path = directCaptures? (readerFor o) (front o ++ [queryGroup]) path :=
  captures?_eq_of_suits hr (fun _ ha => suits_front h ha) path

/-- What is taken from a path with a query is what is taken from the path alone, and the query if it
    is not empty; only a query of several lines is not read. -/
theorem captures?_query [Regex.Capacity] (h : o.Listed) (hasks : o.Unasking)
    (hr : ofOptions o = .ok r) {p : String} (hp : '?' ∉ p.toList) (q : String) :
    r.matcher.captures? (p ++ "?" ++ q) = if '\n' ∈ q.toList then none
      else (r.matcher.captures? p).map (· ++ if q = "" then [] else [(queryParam, q)]) := by
  have htext : (p ++ "?" ++ q).toList = p.toList ++ '?' :: q.toList := by simp
  have hfilled : ∀ c : Captured, (c ++ [(queryParam, q.toList)]).filled
      = c.filled ++ if q = "" then [] else [(queryParam, q)] := by
    intro c
    by_cases hq : q = ""
    · simp [Captured.filled, hq]
    · simp [Captured.filled, hq]
  rw [captures?_eq_readerFor h hr, captures?_eq_readerFor h hr, directCaptures?, directCaptures?,
    htext, firstReading?_of_not_mem (fun a ha => exact_front h ha) hp,
    firstReading?_query (fun a ha => exact_front h ha) (fun a ha => halts_front h hasks ha)
      (literals_front hasks) (readerFor_queryParam o) hp]
  by_cases hq : '\n' ∈ q.toList
  · rw [if_pos hq, if_pos hq, Option.map_none]
  · rw [if_neg hq, if_neg hq, Option.map_map, Option.map_map]
    congr 1
    funext c
    exact hfilled c

end

end Route

end Waymark
