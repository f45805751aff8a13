/-
  Waymark.Proofs.Route.Reserved

  Reserved names in the result of a match.  They can come from the path, from its query or from the
  defaults.  What is captured for them in the path is not kept, and the name of the query is taken
  out of the result again; the name of the slash is not, so a query can bring it.

  Main statement: `contains_reserved_of_matchPath?`, for options that do not use reserved names the
  result holds the slash if and only if the query names it, and never the query.
-/

import Waymark.Proofs.Route.Reading
import Waymark.Regex.Estimate

namespace Waymark

open Waymark.Json Waymark.Template

namespace Query

/-- A query says something about a key if some piece of it has that key. -/
theorem contains_parse_iff {q k : String} :
    (parse q).contains k = true ↔ ∃ e ∈ entries q.toList, e.1 = k := by
  rw [Dict.contains, get?_parse_eq_lookup, Option.isSome_iff_exists]
  constructor
  · rintro ⟨v, hv⟩
    obtain ⟨as, bs, hsplit, -⟩ := List.lookup_eq_some_iff.1 hv
    exact ⟨(k, v), hsplit ▸ List.mem_append_right as List.mem_cons_self, rfl⟩
  · rintro ⟨e, he, rfl⟩
    by_contra hnone
    rw [← Option.isSome_iff_exists, Option.not_isSome_iff_eq_none, List.lookup_eq_none_iff] at hnone
    have hne := hnone e he
    simp at hne

end Query

namespace Template

/-- A parameter is given the text of its group, if that is not empty. -/
theorem Matcher.valueOf?_eq_some {g : Regex.Groups} {slot : String × Nat} {e : String × String}
    (h : valueOf? g slot = some e) :
    e.1 = slot.1 ∧ g.get? slot.2 = some e.2.toList ∧ e.2 ≠ "" := by
  rw [valueOf?] at h
  split at h
  case h_1 => exact absurd h (by simp)
  case h_2 => exact absurd h (by simp)
  case h_3 text hne hget =>
    rw [← Option.some.inj h, hget]
    refine ⟨rfl, by rw [String.toList_ofList], ?_⟩
    simpa using hne

/-- What a path gives is given to parameters of the template, in their order. -/
theorem Matcher.sublist_captures? {m : Matcher} {path : String} {cs : List (String × String)}
    (h : m.captures? path = some cs) : (cs.map (·.1)).Sublist m.params := by
  obtain ⟨g, -, rfl⟩ := Option.map_eq_some_iff.1 h
  rw [params]
  induction m.slots with
  | nil => exact List.Sublist.refl _
  | cons slot slots ih =>
    rw [List.filterMap_cons]
    cases hvalue : valueOf? g slot with
    | none => exact ih.cons slot.1
    | some e =>
      have hname : e.1 = slot.1 := (valueOf?_eq_some hvalue).1
      show ((e :: _).map (·.1)).Sublist (slot.1 :: _)
      rw [List.map_cons, hname]
      exact ih.cons_cons slot.1

end Template

namespace Route

/-- Of a name that is there at most once every value is the last one. -/
theorem lastValue?_eq_some_iff {es : List (String × String)} {k v : String}
    (hone : (es.map (·.1)).count k ≤ 1) : lastValue? es k = some v ↔ (k, v) ∈ es := by
  refine ⟨mem_of_lastValue?, fun h => ?_⟩
  induction es with
  | nil => exact absurd h List.not_mem_nil
  | cons e es ih =>
    rw [List.map_cons, List.count_cons] at hone
    rw [lastValue?]
    rcases List.mem_cons.1 h with rfl | h
    · -- the name does not come again
      have hzero : (es.map (·.1)).count k = 0 := by
        simp only [beq_self_eq_true, if_true] at hone
        omega
      rw [lastValue?_eq_none_iff.2 (List.count_eq_zero.1 hzero), if_pos rfl, Option.none_or]
    · rw [ih (by omega) h, Option.some_or]

section

variable {o : Options} {r : Route} {path : String} {R : Params}

/-- If the template does not use reserved names, the query is captured at most once. -/
theorem count_queryParam_le [Regex.Capacity] (hr : ofOptions o = .ok r)
    (hparams : ∀ a ∈ Node.paramsAll (parse o.pattern), isReserved a = false)
    {cs : List (String × String)} (hcs : r.matcher.captures? path = some cs) :
    (cs.map (·.1)).count queryParam ≤ 1 := by
  obtain ⟨hm, htree, -⟩ := ofOptions_spec hr
  have hsub := Matcher.sublist_captures? hcs
  rw [params_compile hm, htree, treeOf_eq, Node.paramsAll_append, paramsAll_slashGroups] at hsub
  have hfree : (Node.paramsAll (parse o.pattern)).count queryParam = 0 := by
    rw [List.count_eq_zero]
    intro hmem
    exact absurd (hparams queryParam hmem) (by decide)
  have hown : ((if o.slashOptional then [slashParam] else []) ++ [queryParam]).count queryParam
      = 1 := by
    cases o.slashOptional <;> decide
  have hle := hsub.count_le queryParam
  rw [List.count_append, hfree, hown] at hle
  exact hle

/-- The result of a match never holds the query as a parameter.  It holds the slash as one if and
    only if the query of the path has an entry of that name. -/
theorem contains_reserved_of_matchPath? [Regex.Capacity] (hr : ofOptions o = .ok r)
    (hpost : o.postMatch = none)
    (hparams : ∀ a ∈ Node.paramsAll (parse o.pattern), isReserved a = false)
    (hdefaults : ∀ a, isReserved a = true → o.defaults.get? a = none)
    (hR : r.matchPath? path = some R) :
    R.contains queryParam = false ∧
    (R.contains slashParam = true ↔ ∃ cs q, r.matcher.captures? path = some cs ∧
      (queryParam, q) ∈ cs ∧ ∃ e ∈ Query.entries q.toList, e.1 = slashParam) := by
  rw [matchPath?_eq_readPath? ((ofOptions_spec hr).2.2.2.1.trans hpost)] at hR
  obtain ⟨cs, hcs, -⟩ := Option.bind_eq_some_iff.1 hR
  -- neither the path nor the defaults give a value to a reserved name
  have hget : ∀ k, isReserved k = true →
      R.get? k = queryValue? (lastValue? cs queryParam) k := by
    intro k hk
    rw [get?_readPath?_last hr hR hcs, if_pos hk, hdefaults k hk, Option.none_or, Option.or_none]
  constructor
  · rw [Dict.contains, hget queryParam (by decide), queryValue?, if_pos rfl]
    rfl
  · have hone := count_queryParam_le hr hparams hcs
    rw [Dict.contains, hget slashParam (by decide), queryValue?, if_neg (by decide)]
    constructor
    · intro h
      obtain ⟨v, hv⟩ := Option.isSome_iff_exists.1 h
      obtain ⟨q, hq, hvalue⟩ := Option.bind_eq_some_iff.1 hv
      refine ⟨cs, q, hcs, (lastValue?_eq_some_iff hone).1 hq, Query.contains_parse_iff.1 ?_⟩
      rw [Dict.contains, hvalue]
      rfl
    · rintro ⟨cs', q, hcs', hq, hentry⟩
      rw [hcs, Option.some.injEq] at hcs'
      subst hcs'
      rw [(lastValue?_eq_some_iff hone).2 hq, Option.bind_some]
      exact Query.contains_parse_iff.2 hentry

end

/-- A query that names the query itself and something else, behind a slash. -/
theorem contains_reserved_of_own_name :
    let o := (Options.ofPattern "/foo(/<id>)").withDefault "id" "1"
    ∃ r R, ofOptions o = .ok r ∧ r.matchPath? "/foo/?__rhtmx_qs=1&a=2" = some R ∧
      R.contains queryParam = false ∧ R.contains slashParam = false := by
  intro o
  have htree : parse o.pattern = [.literal "/foo", .group [.literal "/", .param "id"]] := by
    decide +kernel
  have hparams : ∀ a ∈ Node.paramsAll (parse o.pattern), isReserved a = false := by
    rw [htree]
    decide +kernel
  have hdefaults : ∀ a, isReserved a = true → o.defaults.get? a = none := by
    intro a ha
    rcases eq_of_isReserved ha with rfl | rfl
    · decide +kernel
    · decide +kernel
  have hplain : o.Plain := by
    refine ⟨rfl, rfl, rfl, hparams, ?_, hdefaults⟩
    rw [htree]
    decide +kernel
  obtain ⟨r, hr⟩ : ∃ r, ofOptions o = .ok r := exists_of_isOk (by decide +kernel)
  have hcaptures : r.matcher.captures? "/foo/?__rhtmx_qs=1&a=2"
      = some [(slashParam, "/"), (queryParam, "__rhtmx_qs=1&a=2")] := by
    rw [captures?_eq hplain hr, (ofOptions_spec hr).2.1]
    decide +kernel
  obtain ⟨R, hR⟩ : ∃ R, r.matchPath? "/foo/?__rhtmx_qs=1&a=2" = some R := by
    rw [matchPath?_eq_readPath? (ofOptions_spec hr).2.2.2.1, readPath?, hcaptures]
    exact ⟨_, rfl⟩
  obtain ⟨hquery, hslash⟩ := contains_reserved_of_matchPath? hr rfl hparams hdefaults hR
  refine ⟨r, R, hr, hR, hquery, ?_⟩
  rw [← Bool.not_eq_true, hslash]
  rintro ⟨cs, q, hcs, hq, hentry⟩
  rw [hcaptures, Option.some.injEq] at hcs
  subst hcs
  have hq' : q = "__rhtmx_qs=1&a=2" := by simpa [slashParam, queryParam] using hq
  subst hq'
  exact absurd hentry (by decide +kernel)

/-- A query that names the slash brings it into the result, where nothing else is. -/
theorem contains_slashParam_of_query :
    let o := Options.ofPattern "/foo"
    o.Plain ∧ ∃ r R, ofOptions o = .ok r ∧ r.matchPath? "/foo?__rhtmx_ts=1" = some R ∧
      R.get? slashParam = some "1" := by
  intro o
  have hparams : Node.paramsAll (parse o.pattern) = [] := by decide +kernel
  have hplain : o.Plain := Options.plain_ofPattern (hparams ▸ by decide) (hparams ▸ by decide)
  obtain ⟨r, hr⟩ : ∃ r, ofOptions o = .ok r := exists_of_isOk (by decide +kernel)
  have hcaptures : r.matcher.captures? "/foo?__rhtmx_ts=1"
      = some [(queryParam, "__rhtmx_ts=1")] := by
    rw [captures?_eq hplain hr, (ofOptions_spec hr).2.1]
    decide +kernel
  obtain ⟨R, hR⟩ : ∃ R, r.readPath? "/foo?__rhtmx_ts=1" = some R := by
    rw [readPath?, hcaptures]
    exact ⟨_, rfl⟩
  have hvalue : R.get? slashParam = some "1" := by
    rw [get?_readPath?_last hr hR hcaptures]
    decide +kernel
  refine ⟨hplain, r, R, hr, ?_, hvalue⟩
  rw [matchPath?_eq_readPath? (ofOptions_spec hr).2.2.2.1]
  exact hR

end Route

end Waymark
