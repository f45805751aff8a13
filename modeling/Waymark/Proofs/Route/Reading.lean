/-
  Waymark.Proofs.Route.Reading

  What a route without conditions and filters reads.  Its own two parameters have readers like
  those of the template: a slash, and the rest of a line.

  Main statements: `captures?_eq`, the parameters of a path are those of the first reading of the
  route's tree, and `get?_readPath?`, the value of a parameter is the one in the path, else the one
  in its query, else its default.
-/

import Waymark.Proofs.Query.RoundTrip
import Waymark.Proofs.Template.Agreement
import Waymark.Route.Read

namespace Waymark

open Waymark.Json Waymark.Regex Waymark.Regex.Parse Waymark.Template

/-- Options without conditions and filters, whose template has distinct parameters, none of them
    reserved, and whose defaults are not for reserved parameters either. -/
structure Options.Plain (o : Options) : Prop where
  conditions : o.conditions = .empty
  postMatch : o.postMatch = none
  preBuild : o.preBuild = none
  unreserved : ∀ a ∈ Node.paramsAll (parse o.pattern), isReserved a = false
  distinct : (Node.paramsAll (parse o.pattern)).Nodup
  defaults : ∀ a, isReserved a = true → o.defaults.get? a = none

/-- A pattern alone brings no conditions, filters and defaults. -/
theorem Options.plain_ofPattern {pattern : String}
    (hunreserved : ∀ a ∈ Node.paramsAll (parse pattern), isReserved a = false)
    (hdistinct : (Node.paramsAll (parse pattern)).Nodup) : (Options.ofPattern pattern).Plain where
  conditions := rfl
  postMatch := rfl
  preBuild := rfl
  unreserved := hunreserved
  distinct := hdistinct
  defaults _ _ := rfl

namespace Template

/-! ## Lists of nodes -/

theorem Node.readingsAll_append (R : String → Reader) (ns ms : List Node) (s : List Char) :
    Node.readingsAll R (ns ++ ms) s = (Node.readingsAll R ns s).flatMap fun w =>
      (Node.readingsAll R ms w.2).map fun x => (w.1 ++ x.1, x.2) := by
  induction ns generalizing s with
  | nil => simp
  | cons n ns ih =>
    rw [List.cons_append, Node.readingsAll_cons, Node.readingsAll_cons, List.flatMap_assoc]
    refine List.flatMap_congr fun u _ => ?_
    rw [ih, List.map_flatMap, List.flatMap_map]
    refine List.flatMap_congr fun v _ => ?_
    rw [List.map_map]
    simp [Function.comp_def]

theorem Node.mem_readingsAll_append {R : String → Reader} {ns ms : List Node} {s : List Char}
    {w : Captured × List Char} (h : w ∈ Node.readingsAll R (ns ++ ms) s) :
    ∃ x ∈ Node.readingsAll R ns s, ∃ y ∈ Node.readingsAll R ms x.2, w = (x.1 ++ y.1, y.2) := by
  rw [Node.readingsAll_append] at h
  obtain ⟨x, hx, h⟩ := List.mem_flatMap.1 h
  obtain ⟨y, hy, rfl⟩ := List.mem_map.1 h
  exact ⟨x, hx, y, hy, rfl⟩

mutual

/-- A reading captures parameters of the node, in their order. -/
theorem Node.sublist_readings {R : String → Reader} {s : List Char} {w : Captured × List Char}
    (n : Node) (h : w ∈ n.readings R s) : (w.1.map (·.1)).Sublist n.params := by
  cases n with
  | literal text =>
    rw [(Node.mem_readings_literal.1 h).1]
    exact List.nil_sublist _
  | param name =>
    obtain ⟨v, -, rfl⟩ := List.mem_map.1 h
    exact List.Sublist.refl _
  | group children =>
    rw [Node.readings_group, List.mem_append, List.mem_singleton] at h
    rcases h with h | rfl
    · exact Node.sublist_readingsAll children h
    · exact List.nil_sublist _

theorem Node.sublist_readingsAll {R : String → Reader} {s : List Char}
    {w : Captured × List Char} (ns : List Node) (h : w ∈ Node.readingsAll R ns s) :
    (w.1.map (·.1)).Sublist (Node.paramsAll ns) := by
  cases ns with
  | nil =>
    rw [Node.readingsAll_nil, List.mem_singleton] at h
    rw [h]
    exact List.nil_sublist _
  | cons n ns =>
    obtain ⟨u, hu, h⟩ := List.mem_flatMap.1 h
    obtain ⟨v, hv, rfl⟩ := List.mem_map.1 h
    rw [Node.paramsAll_cons, List.map_append]
    exact (Node.sublist_readings n hu).append (Node.sublist_readingsAll ns hv)

end

theorem Captured.map_fst_filled (c : Captured) :
    (c.filled.map (·.1)).Sublist (c.map (·.1)) := by
  rw [Captured.filled, List.map_map]
  exact (List.filter_sublist (p := fun e => !e.2.isEmpty) (l := c)).map (·.1)

end Template

namespace Route

/-! ## The tree of a route -/

theorem ofOptions_spec [Capacity] {o : Options} {r : Route} (h : ofOptions o = .ok r) :
    Matcher.compile o.pattern r.tree (conditionsWith o.conditions o.slashOptional) = .ok r.matcher ∧
      r.tree = treeOf o.pattern o.slashOptional ∧ r.defaults = o.defaults ∧
      r.postMatch = o.postMatch ∧ r.preBuild = o.preBuild := by
  rw [ofOptions, bind_eq_ok] at h
  obtain ⟨m, hm, h⟩ := h
  cases h
  exact ⟨hm, rfl, rfl, rfl, rfl⟩

/-- The group for a slash, if there is one. -/
def slashGroups (slashOptional : Bool) : List Node := if slashOptional then [slashGroup] else []

theorem treeOf_eq (pattern : String) (slashOptional : Bool) :
    treeOf pattern slashOptional = parse pattern ++ (slashGroups slashOptional ++ [queryGroup]) := by
  rw [treeOf, slashGroups, List.append_assoc]

theorem paramsAll_slashGroups (slashOptional : Bool) :
    Node.paramsAll (slashGroups slashOptional ++ [queryGroup])
      = (if slashOptional then [slashParam] else []) ++ [queryParam] := by
  cases slashOptional <;> rfl

theorem isReserved_of_mem_groups {slashOptional : Bool} {a : String}
    (h : a ∈ Node.paramsAll (slashGroups slashOptional ++ [queryGroup])) :
    isReserved a = true := by
  rw [paramsAll_slashGroups] at h
  cases slashOptional with
  | false =>
    rw [List.mem_singleton.1 h]
    decide
  | true =>
    rcases List.mem_append.1 h with h | h
    · rw [List.mem_singleton.1 h]
      decide
    · rw [List.mem_singleton.1 h]
      decide

theorem eq_of_isReserved {a : String} (h : isReserved a = true) :
    a = slashParam ∨ a = queryParam := by
  rw [isReserved, Bool.or_eq_true, beq_iff_eq, beq_iff_eq] at h
  exact h

/-- The reserved parameters are the two of the route's own groups. -/
theorem forall_isReserved_iff {p : String → Prop} :
    (∀ a, isReserved a = true → p a) ↔ p slashParam ∧ p queryParam := by
  constructor
  · intro h
    exact ⟨h slashParam (by decide), h queryParam (by decide)⟩
  · rintro ⟨hslash, hquery⟩ a ha
    rcases eq_of_isReserved ha with rfl | rfl
    · exact hslash
    · exact hquery

theorem ne_queryParam_of_unreserved {a : String} (h : isReserved a = false) : a ≠ queryParam := by
  rintro rfl
  exact absurd h (by decide)

theorem nodup_paramsAll_treeOf {o : Options} (h : o.Plain) :
    (Node.paramsAll (treeOf o.pattern o.slashOptional)).Nodup := by
  rw [treeOf_eq, Node.paramsAll_append]
  refine List.nodup_append.2 ⟨h.distinct, ?_, ?_⟩
  · rw [paramsAll_slashGroups]
    cases o.slashOptional <;> decide
  · intro a ha b hb hab
    have hfree := h.unreserved a ha
    rw [hab, isReserved_of_mem_groups hb] at hfree
    exact absurd hfree (by decide)

/-! ## Readers -/

/-- The reader of a route's parameter: a slash, the rest of a line, or a word. -/
def readerIn (name : String) : Reader :=
  if name = slashParam then readListed ["/"]
  else if name = queryParam then readRun (· != '\n')
  else readWord

theorem readerIn_of_unreserved {name : String} (h : isReserved name = false) :
    readerIn name = readWord := by
  rw [isReserved, Bool.or_eq_false_iff, beq_eq_false_iff_ne, beq_eq_false_iff_ne] at h
  rw [readerIn, if_neg h.1, if_neg h.2]

theorem valueSource_reserved [Capacity] {conditions : Dict Condition} {name source : String}
    {n : Nat}
    (hname : isReserved name = true) (h : conditions.get? name = some (.expression source))
    (hgroups : (Regex.compile source).map (·.groups) = .ok n) :
    valueSource conditions name = .ok (source, n) := by
  obtain ⟨r, hr, rfl⟩ := map_eq_ok.1 hgroups
  rw [valueSource, h]
  simp only [hname, if_true, hr]

/-- The characters of a line. -/
def lineSet : CharSet := .compl (.single '\n')

/-- A text that is read as one of the plain expressions is compiled; there is room for it. -/
theorem groups_compile [Capacity] {source : String} {ast : Ast} {e : Expr} {m : Modes} {n : Nat}
    (hread : Parse.read source.toList = .ok ast)
    (hmeaning : ast.meaning (.initial true) = .ok (e, m)) (h : e.BuiltWithin n)
    (hn : n ≤ Expr.sizeLimit) :
    (Regex.compile source).map (·.groups) = .ok e.lastGroup := by
  have he : Regex.exprOf true source = .ok e :=
    (exprOf_eq_ok_iff hread hmeaning).2 ⟨Capacity.fits_of_builtWithin h hn, rfl⟩
  rw [Regex.compile, he]
  rfl

/-- The two reserved conditions are compiled, whatever the engine has room for. -/
theorem groups_compile_slash [Capacity] :
    (Regex.compile (Regex.escape "/")).map (·.groups) = .ok 0 := by
  have hread : Parse.read (Regex.escape "/").toList = .ok (.literal ⟨'/', false⟩) := rfl
  exact groups_compile hread rfl (.char '/') (by decide)

theorem groups_compile_query [Capacity] : (Regex.compile ".*").map (·.groups) = .ok 0 := by
  have hread : Parse.read ".*".toList = .ok (.repetition 0 none true .dot) := rfl
  have hline : (Expr.set lineSet).BuiltWithin 1040 := .other (by decide)
  exact groups_compile hread rfl (hline.star true) (by decide)

theorem suits_slash [Capacity] {conditions : Dict Condition}
    (h : conditions.get? slashParam = some (.expression (Regex.escape "/"))) :
    Suits conditions (readListed ["/"]) slashParam := by
  have hvalue := valueSource_reserved (by decide) h groups_compile_slash
  have hfills := Fills.ofAdds (Adds.escape ['/'])
  refine ⟨_, .literal ⟨'/', false⟩, hvalue, hfills, ?_, Reader.exact_readListed _⟩
  rw [waysOf_readListed, List.map_singleton, Ways.any_singleton]
  exact Tries.catAll (Tries.chars ['/'])

theorem contains_lineSet : lineSet.contains = (· != '\n') := by
  funext c
  rw [lineSet, CharSet.contains, CharSet.contains_single, bne]

/-- Some characters end no line, hence a repetition of them takes text. -/
theorem isVoid_lineSet : lineSet.isVoid = false := by
  -- the sort is by well-founded recursion and does not reduce
  have hsort : [((10 : Nat), (10 : Nat)), (0xD800, 0xDFFF)].mergeSort (fun x y => x.1 ≤ y.1)
      = [(10, 10), (0xD800, 0xDFFF)] := List.mergeSort_of_pairwise (by decide)
  have hjoin : CharSet.joinRanges [(10, 10)] [(0xD800, 0xDFFF)]
      = [(10, 10), (0xD800, 0xDFFF)] := by
    rw [CharSet.joinRanges, List.singleton_append, hsort, CharSet.coalesce, if_neg (by decide),
      CharSet.coalesce]
  show (CharSet.gapsFrom 0 (CharSet.joinRanges [(10, 10)] [(0xD800, 0xDFFF)])).isEmpty = false
  rw [hjoin]
  decide +kernel

theorem suits_query [Capacity] {conditions : Dict Condition}
    (h : conditions.get? queryParam = some (.expression ".*")) :
    Suits conditions (readRun (· != '\n')) queryParam := by
  have hvalue := valueSource_reserved (by decide) h groups_compile_query
  have hdot : AddsBefore (fun _ => True) ['.'] (fun _ => [.dot]) 0 :=
    AddsBefore.ofStep (by decide) (fun _ _ _ => rfl)
  have hfills := Fills.ofAdds (Adds.repeat hdot (by simp) repeatsBy_star (fun _ _ _ => rfl))
  refine ⟨_, .repetition 0 none true .dot, hvalue, hfills, ?_, fun _ _ => append_of_mem_readRun⟩
  have htakes : (Expr.set lineSet).takes = some true := by
    rw [Expr.takes, isVoid_lineSet]
    rfl
  have hmeaning : meaningOf (.repetition 0 none true .dot) = .repeat 0 none true (.set lineSet) :=
    rfl
  have hdraft : Plan.draft (.repeat 0 none true (.set lineSet))
      = Plan.Draft.star true true (.pure (.set lineSet)) := by
    show Plan.Draft.star ((Expr.set lineSet).takes == some true) true _ = _
    rw [htakes]
    rfl
  have hruns := Runs.star lineSet
  rw [← hdraft, contains_lineSet, ← waysOf_readRun] at hruns
  rw [hmeaning]
  exact hruns

/-- A parameter that is not reserved keeps its condition. -/
theorem get?_conditionsWith (conditions : Dict Condition) (slashOptional : Bool) {a : String}
    (ha : isReserved a = false) :
    (conditionsWith conditions slashOptional).get? a = conditions.get? a := by
  rw [isReserved, Bool.or_eq_false_iff, beq_eq_false_iff_ne, beq_eq_false_iff_ne] at ha
  rw [conditionsWith, Dict.get?_insert, if_neg ha.2]
  cases slashOptional with
  | false => rfl
  | true =>
    show (conditions.insert _ _).get? a = conditions.get? a
    rw [Dict.get?_insert, if_neg ha.1]

/-- The route's own slash is a slash. -/
theorem get?_conditionsWith_slash (conditions : Dict Condition) :
    (conditionsWith conditions true).get? slashParam
      = some (.expression (Regex.escape "/")) := by
  have hne : slashParam ≠ queryParam := by decide
  rw [conditionsWith, Dict.get?_insert, if_neg hne]
  exact Dict.get?_insert_self conditions slashParam _

/-- The query is the rest of a line. -/
theorem get?_conditionsWith_query (conditions : Dict Condition) (slashOptional : Bool) :
    (conditionsWith conditions slashOptional).get? queryParam = some (.expression ".*") :=
  Dict.get?_insert_self _ queryParam _

theorem suits_readerIn [Capacity] {o : Options} (h : o.Plain) {a : String}
    (ha : a ∈ Node.paramsAll (treeOf o.pattern o.slashOptional)) :
    Suits (conditionsWith o.conditions o.slashOptional) (readerIn a) a := by
  have hne : queryParam ≠ slashParam := by decide
  rw [treeOf_eq, Node.paramsAll_append, List.mem_append] at ha
  rw [h.conditions]
  rcases ha with ha | ha
  · -- the only conditions are those of the reserved names
    have hfree := h.unreserved a ha
    rw [readerIn_of_unreserved hfree]
    exact suits_readWord (get?_conditionsWith .empty o.slashOptional hfree)
  · rw [paramsAll_slashGroups, List.mem_append, List.mem_singleton] at ha
    rcases ha with ha | rfl
    · cases hs : o.slashOptional with
      | false =>
        rw [hs] at ha
        exact absurd ha List.not_mem_nil
      | true =>
        rw [hs] at ha
        rw [List.mem_singleton.1 ha, readerIn, if_pos rfl]
        exact suits_slash (get?_conditionsWith_slash .empty)
    · rw [readerIn, if_neg hne, if_pos rfl]
      exact suits_query (get?_conditionsWith_query .empty o.slashOptional)

/-- A route reads a path by its tree. -/
theorem captures?_eq [Capacity] {o : Options} {r : Route} (h : o.Plain) (hr : ofOptions o = .ok r)
    (path : String) : r.matcher.captures? path = directCaptures? readerIn r.tree path := by
  obtain ⟨hm, htree, -⟩ := ofOptions_spec hr
  refine captures?_eq_directCaptures? ?_ hm path
  intro a ha
  rw [htree] at ha
  exact suits_readerIn h ha

/-! ## Results -/

/-- What is taken for one parameter. -/
theorem add_spec {path name value : String} {t u : Taken}
    (h : Taken.add path t (name, value) = some u) :
    (∀ k, u.params.get? k = if isReserved k = false ∧ k = name then some value
      else t.params.get? k) ∧
      u.query = if name = queryParam then some value else t.query := by
  rw [Taken.add] at h
  by_cases hslash : name = slashParam
  · -- the slash is checked and not kept
    have hu : u = t := by
      rw [if_pos hslash] at h
      by_cases hd : hasDoubledSlash path = true
      · rw [if_pos hd] at h
        exact absurd h (by simp)
      · rw [if_neg hd, Option.some.injEq] at h
        exact h.symm
    subst hslash hu
    refine ⟨fun k => ?_, by rw [if_neg (by decide)]⟩
    rw [if_neg]
    rintro ⟨hk, rfl⟩
    exact absurd hk (by decide)
  · rw [if_neg hslash] at h
    by_cases hquery : name = queryParam
    · rw [if_pos hquery, Option.some.injEq] at h
      subst hquery h
      refine ⟨fun k => ?_, by rw [if_pos rfl]⟩
      rw [if_neg]
      rintro ⟨hk, rfl⟩
      exact absurd hk (by decide)
    · rw [if_neg hquery, Option.some.injEq] at h
      subst h
      refine ⟨fun k => ?_, by rw [if_neg hquery]⟩
      rw [Dict.get?_insert]
      by_cases hk : k = name
      · have hfree : isReserved k = false := by
          rw [hk, isReserved, beq_eq_false_iff_ne.2 hslash, beq_eq_false_iff_ne.2 hquery]
          rfl
        rw [if_pos hk, if_pos ⟨hfree, hk⟩]
      · rw [if_neg hk, if_neg (fun h => hk h.2)]

/-- The last value that is given to a name. -/
def lastValue? : List (String × String) → String → Option String
  | [], _ => none
  | e :: es, k => (lastValue? es k).or (if k = e.1 then some e.2 else none)

theorem mem_of_lastValue? {es : List (String × String)} {k v : String}
    (h : lastValue? es k = some v) : (k, v) ∈ es := by
  induction es with
  | nil => exact absurd h (by simp [lastValue?])
  | cons e es ih =>
    rw [lastValue?, Option.or_eq_some_iff] at h
    rcases h with h | ⟨-, h⟩
    · exact List.mem_cons_of_mem e (ih h)
    · by_cases hk : k = e.1
      · rw [if_pos hk, Option.some.injEq] at h
        rw [hk, ← h]
        exact List.mem_cons_self
      · rw [if_neg hk] at h
        exact absurd h (by simp)

theorem lastValue?_eq_none_iff {es : List (String × String)} {k : String} :
    lastValue? es k = none ↔ k ∉ es.map (·.1) := by
  induction es with
  | nil => simp [lastValue?]
  | cons e es ih =>
    rw [lastValue?, Option.or_eq_none_iff, ih, List.map_cons, List.mem_cons, not_or, and_comm]
    by_cases hk : k = e.1
    · simp [hk]
    · simp [hk]

/-- Of a name that is there once the value is the last one. -/
theorem lastValue?_eq_lookup {es : List (String × String)} (h : (es.map (·.1)).Nodup)
    (k : String) : lastValue? es k = es.lookup k := by
  induction es with
  | nil => rfl
  | cons e es ih =>
    rw [List.map_cons, List.nodup_cons] at h
    rw [lastValue?, Dict.lookup_cons_ite, ih h.2]
    by_cases hk : k = e.1
    · have habsent : es.lookup k = none := Dict.lookup_eq_none_of_not_mem (hk ▸ h.1)
      rw [if_pos hk, if_pos hk, habsent, Option.none_or]
    · rw [if_neg hk, if_neg hk, Option.or_none]

/-- What is taken for several parameters: of a name that comes more than once the last value. -/
theorem foldlM_add {path : String} {cs : List (String × String)} {t t' : Taken}
    (h : cs.foldlM (Taken.add path) t = some t') :
    (∀ k, t'.params.get? k
      = if isReserved k then t.params.get? k else (lastValue? cs k).or (t.params.get? k)) ∧
      t'.query = (lastValue? cs queryParam).or t.query := by
  induction cs generalizing t with
  | nil =>
    rw [List.foldlM_nil] at h
    cases h
    refine ⟨fun k => ?_, by rw [lastValue?, Option.none_or]⟩
    rw [lastValue?, Option.none_or, ite_self]
  | cons c cs ih =>
    obtain ⟨name, value⟩ := c
    rw [List.foldlM_cons] at h
    obtain ⟨u, hu, h⟩ := Option.bind_eq_some_iff.1 h
    -- what comes later counts, and what is taken here is left for names that do not come again
    obtain ⟨hparams, hquery⟩ := ih h
    obtain ⟨hparam, hone⟩ := add_spec hu
    refine ⟨fun k => ?_, ?_⟩
    · rw [hparams, hparam, lastValue?, Option.or_assoc]
      by_cases hfree : isReserved k = true
      · simp [hfree]
      · by_cases hk : k = name
        · subst hk
          simp [hfree]
        · simp [hk]
    · rw [hquery, hone, lastValue?, Option.or_assoc]
      by_cases hname : name = queryParam
      · rw [if_pos hname, if_pos hname.symm, Option.some_or]
      · rw [if_neg hname, if_neg (Ne.symm hname), Option.none_or]

/-- Only a slash at the end can make a path fail that its expression matches. -/
theorem exists_foldlM_add (path : String) {cs : List (String × String)}
    (hcs : slashParam ∉ cs.map (·.1)) (t : Taken) :
    ∃ t', cs.foldlM (Taken.add path) t = some t' := by
  induction cs generalizing t with
  | nil => exact ⟨t, rfl⟩
  | cons c cs ih =>
    rw [List.map_cons, List.mem_cons, not_or] at hcs
    obtain ⟨u, hu⟩ : ∃ u, Taken.add path t c = some u := by
      rw [Taken.add, if_neg (Ne.symm hcs.1)]
      by_cases hquery : c.1 = queryParam
      · exact ⟨_, if_pos hquery⟩
      · exact ⟨_, if_neg hquery⟩
    obtain ⟨t', ht'⟩ := ih hcs.2 u
    exact ⟨t', by rw [List.foldlM_cons, hu]; exact ht'⟩

theorem matchPath?_eq_readPath? {r : Route} (h : r.postMatch = none) (path : String) :
    r.matchPath? path = r.readPath? path := by
  have hcandidate : r.candidate? (.ofPath path) = r.readPath? path := rfl
  have hfilter : r.filterResult = some := by
    funext params
    rw [filterResult, h]
  rw [matchPath?, match?, hcandidate, hfilter, Option.bind_fun_some]

/-- The parameters of a query text, if there is one; the query itself is none of them. -/
def queryValue? (query : Option String) (k : String) : Option String :=
  if k = queryParam then none else query.bind fun q => (Query.parse q).get? k

theorem get?_withQuery {t : Taken} (h : t.params.get? queryParam = none) (k : String) :
    t.withQuery.get? k = (t.params.get? k).or (queryValue? t.query k) := by
  rw [Taken.withQuery, queryValue?]
  cases t.query with
  | none =>
    rw [Option.bind_none, ite_self, Option.or_none]
  | some q =>
    show ((t.params.orElse (Query.parse q)).erase queryParam).get? k = _
    rw [Dict.get?_erase, Dict.get?_orElse]
    by_cases hk : k = queryParam
    · rw [if_pos hk, if_pos hk, hk, h]
      rfl
    · rw [if_neg hk, if_neg hk]
      rfl

/-- The value of a parameter is the last one in the path, else the one in its query, else its
    default. -/
theorem get?_readPath?_last [Capacity] {o : Options} {r : Route} {path : String} {R : Params}
    {cs : List (String × String)} (hr : ofOptions o = .ok r)
    (hread : r.readPath? path = some R) (hcs : r.matcher.captures? path = some cs) (k : String) :
    R.get? k = ((if isReserved k then none else lastValue? cs k).or
      (queryValue? (lastValue? cs queryParam) k)).or (o.defaults.get? k) := by
  obtain ⟨cs', hcs', hread⟩ := Option.bind_eq_some_iff.1 hread
  rw [hcs, Option.some.injEq] at hcs'
  subst hcs'
  obtain ⟨t, ht, hR⟩ := Option.bind_eq_some_iff.1 hread
  cases hR
  obtain ⟨hparams, hquery⟩ := foldlM_add ht
  have hparam : ∀ k, t.params.get? k = if isReserved k then none else lastValue? cs k := by
    intro k
    rw [hparams, Dict.get?_empty, Option.or_none]
  rw [Dict.get?_orElse, (ofOptions_spec hr).2.2.1,
    get?_withQuery (by rw [hparam, if_pos (by decide)]), hparam, hquery, Option.or_none]

/-- The same where no parameter comes twice. -/
theorem get?_readPath? [Capacity] {o : Options} {r : Route} {path : String} {R : Params}
    {cs : List (String × String)} (hr : ofOptions o = .ok r)
    (hread : r.readPath? path = some R) (hcs : r.matcher.captures? path = some cs)
    (hnodup : (cs.map (·.1)).Nodup) (k : String) :
    R.get? k = ((if isReserved k then none else cs.lookup k).or
      (queryValue? (cs.lookup queryParam) k)).or (o.defaults.get? k) := by
  rw [get?_readPath?_last hr hread hcs, lastValue?_eq_lookup hnodup, lastValue?_eq_lookup hnodup]

end Route

end Waymark
