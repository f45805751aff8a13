/-
  Waymark.Proofs.Route.Restoring

  Writing a path and reading it again, for routes without conditions and filters.  Parameters of
  the template come back from the path, the others from its query, and what was left out is the
  default again.  That the template's part of a path is read as it was written is a hypothesis
  here; it depends on the shape of the template.

  Main statement: `readPath?_build`.
-/

import Waymark.Proofs.Route.Reading
import Waymark.Proofs.Template.Expansion
import Waymark.Route.Write

namespace Waymark

open Waymark.Json Waymark.Template

namespace Route

/-! ## Sorting parameters -/

/-- The text of a parameter, if it has one. -/
def givenIn (map : BuildParams) (k : String) : Option String := (map.get? k).bind textOf?

theorem Sorted.add_spec (m : Matcher) (s : Sorted) (e : String × Value) (k : String) :
    (Sorted.add m s e).positional.get? k
      = (if m.hasParam k = true ∧ k = e.1 then (textOf? e.2).or (s.positional.get? k)
        else s.positional.get? k) ∧
    (Sorted.add m s e).extra.get? k
      = (if m.hasParam k = false ∧ k = e.1 then (textOf? e.2).or (s.extra.get? k)
        else s.extra.get? k) := by
  rw [Sorted.add]
  cases textOf? e.2 with
  | none =>
    rw [Option.none_or, Option.none_or, ite_self, ite_self]
    exact ⟨rfl, rfl⟩
  | some text =>
    rw [Option.some_or, Option.some_or]
    by_cases hk : k = e.1
    · by_cases hp : m.hasParam e.1 = true
      · simp [hk, hp]
      · simp [hk, hp]
    · by_cases hp : m.hasParam e.1 = true
      · simp [hk, hp, Dict.get?_insert]
      · simp [hk, hp, Dict.get?_insert]

theorem foldl_add_spec (m : Matcher) {es : List (String × Value)}
    (hes : (es.map (·.1)).Nodup) (s : Sorted) (k : String) :
    (es.foldl (Sorted.add m) s).positional.get? k
      = (if m.hasParam k then ((es.lookup k).bind textOf?).or (s.positional.get? k)
        else s.positional.get? k) ∧
    (es.foldl (Sorted.add m) s).extra.get? k
      = (if m.hasParam k then s.extra.get? k
        else ((es.lookup k).bind textOf?).or (s.extra.get? k)) := by
  induction es generalizing s with
  | nil => simp
  | cons e es ih =>
    rw [List.map_cons, List.nodup_cons] at hes
    obtain ⟨hpositional, hextra⟩ := ih hes.2 (Sorted.add m s e)
    obtain ⟨hpositional', hextra'⟩ := Sorted.add_spec m s e k
    rw [List.foldl_cons, hpositional, hextra, hpositional', hextra', Dict.lookup_cons_ite]
    by_cases hk : k = e.1
    · -- no later entry has this key
      have habsent : es.lookup k = none := Dict.lookup_eq_none_of_not_mem (hk ▸ hes.1)
      by_cases hp : m.hasParam k = true
      · simp [hp, habsent, ← hk]
      · simp [hp, habsent, ← hk]
    · simp [hk]

/-- The parameters that a route writes: those of its template as they are given, and a query. -/
def sortedOf (r : Route) (map : BuildParams) : Sorted :=
  map.toList.foldl (Sorted.add r.matcher) ⟨.empty, .empty⟩

theorem get?_sortedOf [Regex.Capacity] {o : Options} {r : Route} (hr : ofOptions o = .ok r)
    (map : BuildParams) (k : String) :
    (sortedOf r map).positional.get? k
      = (if k ∈ Node.paramsAll r.tree then givenIn map k else none) ∧
    (sortedOf r map).extra.get? k
      = (if k ∈ Node.paramsAll r.tree then none else givenIn map k) := by
  obtain ⟨hm, -⟩ := ofOptions_spec hr
  obtain ⟨hpositional, hextra⟩ :=
    foldl_add_spec r.matcher map.nodup_keys ⟨.empty, .empty⟩ k
  have hparam : r.matcher.hasParam k = true ↔ k ∈ Node.paramsAll r.tree := by
    rw [Matcher.hasParam, params_compile hm, List.contains_iff_mem]
  refine ⟨hpositional.trans ?_, hextra.trans ?_⟩
  · by_cases hk : k ∈ Node.paramsAll r.tree
    · rw [if_pos (hparam.2 hk), if_pos hk, Dict.get?_empty, Option.or_none]
      rfl
    · rw [if_neg (fun h => hk (hparam.1 h)), if_neg hk]
      rfl
  · by_cases hk : k ∈ Node.paramsAll r.tree
    · rw [if_pos (hparam.2 hk), if_pos hk]
      rfl
    · rw [if_neg (fun h => hk (hparam.1 h)), if_neg hk, Dict.get?_empty, Option.or_none]
      rfl

theorem Sorted.get?_all_of_ne (s : Sorted) {k : String} (hk : k ≠ queryParam) :
    s.all.get? k = s.positional.get? k := by
  show (if Query.stringify s.extra = "" then s.positional
    else s.positional.insert queryParam (Query.stringify s.extra)).get? k = _
  by_cases hq : Query.stringify s.extra = ""
  · rw [if_pos hq]
  · rw [if_neg hq, Dict.get?_insert, if_neg hk]

theorem Sorted.get?_all_queryParam (s : Sorted) :
    s.all.get? queryParam
      = if Query.stringify s.extra = "" then s.positional.get? queryParam
        else some (Query.stringify s.extra) := by
  show (if Query.stringify s.extra = "" then s.positional
    else s.positional.insert queryParam (Query.stringify s.extra)).get? queryParam = _
  by_cases hq : Query.stringify s.extra = ""
  · rw [if_pos hq, if_pos hq]
  · rw [if_neg hq, if_neg hq, Dict.get?_insert_self]

/-- A parameter of the tree is written with the value it is given, unless it is the query. -/
theorem get?_all_of_mem [Regex.Capacity] {o : Options} {r : Route} (hr : ofOptions o = .ok r)
    (map : BuildParams) {k : String} (hk : k ≠ queryParam) (hmem : k ∈ Node.paramsAll r.tree) :
    (sortedOf r map).all.get? k = givenIn map k := by
  rw [Sorted.get?_all_of_ne _ hk, (get?_sortedOf hr map k).1, if_pos hmem]

/-! ## The groups of every route -/

/-- What may stand behind a written template: nothing, or a query. -/
def Behind (f : List Char) : Prop := f = [] ∨ ∃ q, f = '?' :: q

/-- The query that is written behind a template. -/
def queryTail (query : String) : List Char :=
  if query = "" then [] else '?' :: query.toList

theorem behind_queryTail (query : String) : Behind (queryTail query) := by
  rw [queryTail]
  by_cases hq : query = ""
  · rw [if_pos hq]
    exact Or.inl rfl
  · rw [if_neg hq]
    exact Or.inr ⟨_, rfl⟩

section

variable {params defaults : Dict String} {query : String}

/-- Neither the slash nor the query has a default or a value, but the query if it is not empty. -/
structure Carries (params defaults : Dict String) (query : String) : Prop where
  slash : params.get? slashParam = none
  query : params.get? queryParam = if query = "" then none else some query
  default : defaults.get? queryParam = none

theorem Carries.isTelling_query (h : Carries params defaults query) :
    isTelling params defaults queryParam = !(query == "") := by
  rw [isTelling, h.query, h.default]
  by_cases hq : query = ""
  · rw [if_pos hq, hq]
    rfl
  · rw [if_neg hq, beq_eq_false_iff_ne.2 hq]
    rfl

theorem Carries.valueOf_query (h : Carries params defaults query) :
    valueOf params defaults queryParam = query := by
  rw [valueOf, h.query, h.default]
  by_cases hq : query = ""
  · rw [if_pos hq, hq]
    rfl
  · rw [if_neg hq]
    rfl

theorem Carries.isWritten_slash (h : Carries params defaults query) :
    isWritten params defaults [.param slashParam] = false := by
  have htell : isTelling params defaults slashParam = false := by
    rw [isTelling, h.slash]
  show (isTelling params defaults slashParam || false) = false
  rw [htell, Bool.or_false]

theorem Carries.isWritten_query (h : Carries params defaults query) :
    isWritten params defaults [.literal "?", .param queryParam] = !(query == "") := by
  show (isTelling params defaults queryParam || false) = _
  rw [h.isTelling_query, Bool.or_false]

theorem Carries.expand_query (h : Carries params defaults query) :
    (expand params defaults [queryGroup]).toList = queryTail query := by
  rw [expand_cons, expand_nil, queryGroup, expandNode, String.append_empty, queryTail]
  have hw := h.isWritten_query
  rw [isWritten] at hw
  rw [hw]
  by_cases hq : query = ""
  · rw [if_pos hq, hq]
    rfl
  · rw [if_neg hq, beq_eq_false_iff_ne.2 hq]
    simp [h.valueOf_query]

theorem Carries.expand_groups (h : Carries params defaults query) (slashOptional : Bool) :
    (expand params defaults (slashGroups slashOptional ++ [queryGroup])).toList
      = queryTail query := by
  cases slashOptional with
  | false => exact h.expand_query
  | true =>
    have hw := h.isWritten_slash
    rw [isWritten] at hw
    rw [slashGroups, if_pos rfl, List.singleton_append, expand_cons, slashGroup, expandNode, hw,
      String.toList_append, h.expand_query]
    rfl

/-- The route's own groups are read as they were written. -/
theorem Carries.regainedAll (h : Carries params defaults query) (hquery : '\n' ∉ query.toList)
    (slashOptional : Bool) :
    Node.RegainedAll params defaults readerIn []
      (slashGroups slashOptional ++ [queryGroup]) := by
  have hqueryGroup : Node.RegainedAll params defaults readerIn [] [queryGroup] := by
    rw [Node.RegainedAll, queryGroup, Node.Regained, h.isWritten_query]
    refine ⟨?_, trivial⟩
    by_cases hq : query = ""
    · rw [hq]
      rfl
    · rw [beq_eq_false_iff_ne.2 hq]
      have hline : query.toList.all (· != '\n') = true := by
        rw [List.all_eq_true]
        intro c hc
        have hne : c ≠ '\n' := by
          rintro rfl
          exact hquery hc
        simpa using hne
      have hread := head?_readRun hline (fun c hc => absurd hc (by simp) : Stops _ [])
      refine ⟨trivial, ?_, trivial⟩
      rw [Node.Regained, h.valueOf_query]
      exact ⟨hq, hread⟩
  cases slashOptional with
  | false => exact hqueryGroup
  | true =>
    rw [slashGroups, if_pos rfl, List.singleton_append, Node.RegainedAll]
    refine ⟨?_, hqueryGroup⟩
    -- no slash is written, and neither the end nor a query begins with one
    rw [slashGroup, Node.Regained, h.isWritten_slash, h.expand_query, List.append_nil]
    rcases behind_queryTail query with hf | ⟨q, hf⟩
    · rw [hf]
      rfl
    · rw [hf]
      rfl

end

/-! ## Restoring parameters -/

section

variable {o : Options} {r : Route} {map : BuildParams}

/-- What is written in the path of a route. -/
abbrev written (o : Options) (r : Route) (map : BuildParams) : Captured :=
  Node.writtenAll (sortedOf r map).all o.defaults r.tree

theorem mem_paramsAll_tree [Regex.Capacity] (hr : ofOptions o = .ok r) {a : String} :
    a ∈ Node.paramsAll r.tree ↔ a ∈ Node.paramsAll (parse o.pattern) ∨
      a ∈ Node.paramsAll (slashGroups o.slashOptional ++ [queryGroup]) := by
  rw [(ofOptions_spec hr).2.1, treeOf_eq, Node.paramsAll_append, List.mem_append]

theorem mem_paramsAll_tree_of_unreserved [Regex.Capacity] (hr : ofOptions o = .ok r) {a : String}
    (ha : isReserved a = false) :
    a ∈ Node.paramsAll r.tree ↔ a ∈ Node.paramsAll (parse o.pattern) := by
  rw [mem_paramsAll_tree hr]
  constructor
  · rintro (h | h)
    · exact h
    · rw [isReserved_of_mem_groups h] at ha
      exact absurd ha (by decide)
  · exact Or.inl

/-- A parameter of the template is written with the value it is given. -/
theorem get?_all_of_unreserved [Regex.Capacity] (hr : ofOptions o = .ok r) (map : BuildParams)
    {a : String} (hfree : isReserved a = false) (ha : a ∈ Node.paramsAll (parse o.pattern)) :
    (sortedOf r map).all.get? a = givenIn map a :=
  get?_all_of_mem hr map (ne_queryParam_of_unreserved hfree)
    ((mem_paramsAll_tree_of_unreserved hr hfree).2 ha)

/-- A map without reserved parameters puts nothing but a query into the groups of a route. -/
theorem carries_sortedOf [Regex.Capacity] (h : o.Plain) (hr : ofOptions o = .ok r)
    (hmap : ∀ a, isReserved a = true → givenIn map a = none) :
    Carries (sortedOf r map).all o.defaults (Query.stringify (sortedOf r map).extra) where
  slash := by
    rw [Sorted.get?_all_of_ne _ (by decide), (get?_sortedOf hr map _).1,
      hmap slashParam (by decide), ite_self]
  query := by
    rw [Sorted.get?_all_queryParam, (get?_sortedOf hr map _).1, hmap queryParam (by decide),
      ite_self]
  default := h.defaults queryParam (by decide)

theorem build_eq_expand [Regex.Capacity] (hpre : o.preBuild = none) (hr : ofOptions o = .ok r) :
    r.build map = expand (sortedOf r map).all o.defaults r.tree := by
  obtain ⟨-, -, hdefaults, -, hpre'⟩ := ofOptions_spec hr
  have hfilter : r.filterParams map = map := by
    rw [filterParams, hpre', hpre]
  rw [build, hfilter, hdefaults]
  rfl

theorem build_eq [Regex.Capacity] (h : o.Plain) (hr : ofOptions o = .ok r) :
    r.build map = expand (sortedOf r map).all o.defaults r.tree :=
  build_eq_expand h.preBuild hr

/-- The parameters of the template come back from the path if their text is regained. -/
theorem captures?_build [Regex.Capacity] (h : o.Plain) (hr : ofOptions o = .ok r)
    (hmap : ∀ a, isReserved a = true → givenIn map a = none)
    (hregained : ∀ f, Behind f →
      Node.RegainedAll (sortedOf r map).all o.defaults readerIn f (parse o.pattern)) :
    Node.RegainedAll (sortedOf r map).all o.defaults readerIn [] r.tree ∧
      r.matcher.captures? (r.build map) = some (written o r map).filled := by
  have hcarries := carries_sortedOf h hr hmap
  have htree : Node.RegainedAll (sortedOf r map).all o.defaults readerIn [] r.tree := by
    rw [(ofOptions_spec hr).2.1, treeOf_eq]
    refine Node.RegainedAll.append ?_
      (hcarries.regainedAll (Query.not_mem_stringify _) o.slashOptional)
    rw [List.append_nil, hcarries.expand_groups]
    exact hregained _ (behind_queryTail _)
  refine ⟨htree, ?_⟩
  rw [captures?_eq h hr, directCaptures?, build_eq h hr, firstReading?_expand htree]
  rfl

/-- No parameter is taken twice from a path. -/
theorem nodup_filled [Regex.Capacity] (h : o.Plain) (hr : ofOptions o = .ok r) {c : Captured}
    (hc : (c.map (·.1)).Sublist (Node.paramsAll r.tree)) : (c.filled.map (·.1)).Nodup := by
  have hnodup := nodup_paramsAll_treeOf h
  rw [← (ofOptions_spec hr).2.1] at hnodup
  exact hnodup.sublist ((Captured.map_fst_filled c).trans hc)

/-- What is read for a parameter is what was written for it. -/
theorem lookup_written [Regex.Capacity] (h : o.Plain) (hr : ofOptions o = .ok r)
    (htree : Node.RegainedAll (sortedOf r map).all o.defaults readerIn [] r.tree) (k : String) :
    ((written o r map).filled.lookup k = some (valueOf (sortedOf r map).all o.defaults k) ∧
      valueOf (sortedOf r map).all o.defaults k ≠ "") ∨
    ((written o r map).filled.lookup k = none ∧
      (k ∈ Node.paramsAll r.tree → isTelling (sortedOf r map).all o.defaults k = false)) := by
  have hnodup := nodup_filled h hr (c := written o r map) (Node.sublist_writtenAll r.tree)
  by_cases hk : k ∈ (written o r map).map (·.1)
  · obtain ⟨e, he, rfl⟩ := List.mem_map.1 hk
    obtain ⟨hvalue, hne⟩ := Node.value_of_mem_writtenAll r.tree htree he
    refine Or.inl ⟨?_, hne⟩
    have hmem : (e.1, valueOf (sortedOf r map).all o.defaults e.1) ∈ (written o r map).filled := by
      refine Captured.mem_filled.2 ⟨e.2, he, ?_, ?_⟩
      · rw [hvalue]
        simpa using hne
      · rw [hvalue, String.ofList_toList]
    exact Dict.lookup_eq_some_of_mem hnodup hmem
  · refine Or.inr ⟨Dict.lookup_eq_none_of_not_mem ?_, ?_⟩
    · intro hmem
      exact hk ((Captured.map_fst_filled _).subset hmem)
    · intro hparam
      by_contra htell
      exact hk (Node.mem_writtenAll_of_isTelling r.tree hparam (by simpa using htell))

/-- The query brings back the parameters that are not in the template. -/
theorem queryValue?_written [Regex.Capacity] (h : o.Plain) (hr : ofOptions o = .ok r)
    (hmap : ∀ a, isReserved a = true → givenIn map a = none)
    (htree : Node.RegainedAll (sortedOf r map).all o.defaults readerIn [] r.tree) {k : String}
    (hk : k ≠ queryParam) :
    queryValue? ((written o r map).filled.lookup queryParam) k
      = (sortedOf r map).extra.get? k := by
  have hcarries := carries_sortedOf h hr hmap
  rw [queryValue?, if_neg hk]
  rcases lookup_written h hr htree queryParam with ⟨hlookup, -⟩ | ⟨hlookup, htell⟩
  · rw [hlookup, hcarries.valueOf_query, Option.bind_some, Query.get?_parse_stringify]
  · have hmem : queryParam ∈ Node.paramsAll r.tree := by
      rw [mem_paramsAll_tree hr, paramsAll_slashGroups]
      exact Or.inr (List.mem_append_right _ (List.mem_singleton_self _))
    have hempty : Query.stringify (sortedOf r map).extra = "" := by
      simpa [hcarries.isTelling_query] using htell hmem
    rw [hlookup, Query.stringify_eq_empty_iff.1 hempty]
    rfl

/-- A parameter that was not written can be restored from its default. -/
theorem get?_or_default {params defaults : Dict String} {k : String}
    (h : isTelling params defaults k = false) :
    (params.get? k).or (defaults.get? k) = defaults.get? k := by
  rw [isTelling] at h
  cases hp : params.get? k with
  | none => rw [Option.none_or]
  | some v =>
    simp only [hp, bne_eq_false_iff_eq] at h
    rw [h, Option.some_or]

/-- A value that is not empty stands in the parameters or the defaults. -/
theorem get?_or_eq_valueOf {params defaults : Dict String} {k : String}
    (h : valueOf params defaults k ≠ "") :
    (params.get? k).or (defaults.get? k) = some (valueOf params defaults k) := by
  rw [valueOf] at h ⊢
  cases hv : (params.get? k).or (defaults.get? k) with
  | none =>
    rw [hv] at h
    exact absurd rfl h
  | some v => rfl

/-- No slash at the end is written. -/
theorem slashParam_not_mem_written [Regex.Capacity] (h : o.Plain) (hr : ofOptions o = .ok r)
    (hmap : ∀ a, isReserved a = true → givenIn map a = none)
    (htree : Node.RegainedAll (sortedOf r map).all o.defaults readerIn [] r.tree) :
    slashParam ∉ (written o r map).filled.map (·.1) := by
  intro hmem
  obtain ⟨e, he, hname⟩ := List.mem_map.1 hmem
  have hlookup := Dict.lookup_eq_some_of_mem
    (nodup_filled h hr (c := written o r map) (Node.sublist_writtenAll r.tree)) he
  rw [hname] at hlookup
  have hvalue : valueOf (sortedOf r map).all o.defaults slashParam = "" := by
    rw [valueOf, (carries_sortedOf h hr hmap).slash, h.defaults slashParam (by decide)]
    rfl
  rcases lookup_written h hr htree slashParam with ⟨-, hne⟩ | ⟨hnone, -⟩
  · exact hne hvalue
  · rw [hlookup] at hnone
    exact absurd hnone (by simp)

/-- What stands in the path, the query and the defaults together, for one parameter. -/
theorem restored [Regex.Capacity] (h : o.Plain) (hr : ofOptions o = .ok r)
    (hmap : ∀ a, isReserved a = true → givenIn map a = none)
    (htree : Node.RegainedAll (sortedOf r map).all o.defaults readerIn [] r.tree) (k : String) :
    ((if isReserved k then none else (written o r map).filled.lookup k).or
      (queryValue? ((written o r map).filled.lookup queryParam) k)).or (o.defaults.get? k)
      = (givenIn map k).or (o.defaults.get? k) := by
  have hextra := (get?_sortedOf hr map k).2
  by_cases hk : isReserved k = true
  · have hquery : queryValue? ((written o r map).filled.lookup queryParam) k = none := by
      by_cases hkq : k = queryParam
      · rw [queryValue?, if_pos hkq]
      · rw [queryValue?_written h hr hmap htree hkq, hextra, hmap k hk, ite_self]
    rw [if_pos hk, hquery, hmap k hk]
    rfl
  · have hkq : k ≠ queryParam := by
      rintro rfl
      exact hk (by decide)
    rw [if_neg hk, queryValue?_written h hr hmap htree hkq, hextra]
    by_cases hparam : k ∈ Node.paramsAll r.tree
    · -- a parameter of the template: what the path does not bring is the default
      rw [if_pos hparam, Option.or_none, ← get?_all_of_mem hr map hkq hparam]
      rcases lookup_written h hr htree k with ⟨hlookup, hne⟩ | ⟨hlookup, htell⟩
      · rw [hlookup, get?_or_eq_valueOf hne, Option.some_or]
      · rw [hlookup, Option.none_or, get?_or_default (htell hparam)]
    · -- any other parameter: the query brings it
      have habsent : (written o r map).filled.lookup k = none := by
        refine Dict.lookup_eq_none_of_not_mem fun hmem => hparam ?_
        exact (Node.sublist_writtenAll r.tree).subset ((Captured.map_fst_filled _).subset hmem)
      rw [if_neg hparam, habsent, Option.none_or]

/-- Written and read again, every parameter has the value it was given, else its default. -/
theorem readPath?_build [Regex.Capacity] (h : o.Plain) (hr : ofOptions o = .ok r)
    (hmap : ∀ a, isReserved a = true → givenIn map a = none)
    (hregained : ∀ f, Behind f →
      Node.RegainedAll (sortedOf r map).all o.defaults readerIn f (parse o.pattern)) :
    ∃ R, r.readPath? (r.build map) = some R ∧
      ∀ k, R.get? k = (givenIn map k).or (o.defaults.get? k) := by
  obtain ⟨htree, hcaptures⟩ := captures?_build h hr hmap hregained
  obtain ⟨t, ht⟩ := exists_foldlM_add (r.build map)
    (slashParam_not_mem_written h hr hmap htree) ⟨.empty, none⟩
  have hread : r.readPath? (r.build map) = some (t.withQuery.orElse r.defaults) := by
    rw [readPath?, hcaptures]
    exact Option.bind_eq_some_iff.2 ⟨_, rfl, Option.bind_eq_some_iff.2 ⟨t, ht, rfl⟩⟩
  refine ⟨_, hread, fun k => ?_⟩
  have hnodup := nodup_filled h hr (c := written o r map) (Node.sublist_writtenAll r.tree)
  rw [get?_readPath? hr hread hcaptures hnodup]
  exact restored h hr hmap htree k

end

end Route

end Waymark
