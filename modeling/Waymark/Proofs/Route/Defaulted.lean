/-
  Waymark.Proofs.Route.Defaulted

  Parameters that are given their default.  A template writes the default of a parameter that is
  left out, and it writes no group for the sake of a parameter that has its default.  So it makes no
  difference whether such a parameter is given, wherever and however often it stands in the template
  and whatever else is given.

  Main statement: `build_of_defaults`, for one parameter and for any set of them at once.
-/

import Waymark.Proofs.Route.Tail
import Waymark.Regex.Estimate

namespace Waymark

open Waymark.Json Waymark.Template

namespace Template

/-- A parameter that is left out does the same as one that is given its default. -/
theorem Alike.of_default {params params' defaults : Dict String} {a d : String}
    (hd : defaults.get? a = some d) (h : params.get? a = none) (h' : params'.get? a = some d) :
    Alike params params' defaults a where
  telling := by
    rw [isTelling, isTelling, h, h', hd]
    exact (bne_self_eq_false (some d)).symm
  value := by
    rw [valueOf, valueOf, h, h', hd]
    rfl

end Template

namespace Route

/-- A parameter of the template, not a reserved one, is given the text of its default. -/
structure AtDefault (o : Options) (map : BuildParams) (k : String) : Prop where
  named : k ∈ Node.paramsAll (parse o.pattern)
  unreserved : isReserved k = false
  value : ∃ d, o.defaults.get? k = some d ∧ givenIn map k = some d

section

variable {o : Options} {r : Route} {map : BuildParams} {keep : String → Bool}

/-- Parameters of the template are not written to the query. -/
theorem extra_sortedOf_restrict [Regex.Capacity] (hr : ofOptions o = .ok r)
    (h : ∀ k, keep k = false → AtDefault o map k) :
    (sortedOf r (map.restrict keep)).extra = (sortedOf r map).extra := by
  refine Dict.ext_get? fun k => ?_
  rw [(get?_sortedOf hr _ k).2, (get?_sortedOf hr _ k).2, givenIn_restrict]
  by_cases hk : k ∈ Node.paramsAll r.tree
  · rw [if_pos hk, if_pos hk]
  · have hkeep : keep k = true := by
      by_contra hdrop
      exact hk ((mem_paramsAll_tree hr).2 (Or.inl (h k (by simpa using hdrop)).named))
    rw [if_neg hk, if_neg hk, if_pos hkeep]

/-- No parameter of a route does something else when parameters with their default are dropped. -/
theorem alike_restrict [Regex.Capacity] (hr : ofOptions o = .ok r)
    (h : ∀ k, keep k = false → AtDefault o map k) {a : String} (ha : a ∈ Node.paramsAll r.tree) :
    Alike (sortedOf r (map.restrict keep)).all (sortedOf r map).all o.defaults a := by
  by_cases hquery : a = queryParam
  · -- the query is that of the same parameters, and it is none of those that are dropped
    have hkeep : keep queryParam = true := by
      by_contra hdrop
      exact absurd (h queryParam (by simpa using hdrop)).unreserved (by decide)
    refine .of_get? ?_
    rw [hquery, get?_all_queryParam hr, get?_all_queryParam hr, extra_sortedOf_restrict hr h,
      givenIn_restrict, if_pos hkeep]
  · have hall := get?_all_of_mem hr map hquery ha
    have hrestrict := get?_all_of_mem hr (map.restrict keep) hquery ha
    rw [givenIn_restrict] at hrestrict
    by_cases hkeep : keep a = true
    · rw [if_pos hkeep] at hrestrict
      exact .of_get? (hrestrict.trans hall.symm)
    · obtain ⟨d, hdefault, hgiven⟩ := (h a (by simpa using hkeep)).value
      rw [if_neg hkeep] at hrestrict
      exact .of_default hdefault hrestrict (hall.trans hgiven)

theorem build_restrict [Regex.Capacity] (hr : ofOptions o = .ok r) (hpre : o.preBuild = none)
    (h : ∀ k, keep k = false → AtDefault o map k) : r.build (map.restrict keep) = r.build map := by
  obtain ⟨-, -, hdefaults, -⟩ := ofOptions_spec hr
  rw [build_eq_expand hpre hr, build_eq_expand hpre hr]
  exact expand_congr _ fun a ha => alike_restrict hr h ha

/-- A parameter of the template writes the same path with its default and left out.  Any set of
    parameters with their defaults can be left out at once. -/
theorem build_of_defaults [Regex.Capacity] (hr : ofOptions o = .ok r) (hpre : o.preBuild = none) :
    (∀ (map : BuildParams) (k d : String) (v : Value), k ∈ Node.paramsAll (parse o.pattern) →
      isReserved k = false → o.defaults.get? k = some d → textOf? v = some d →
        r.build (map.insert k v) = r.build (map.erase k)) ∧
    ∀ (map : BuildParams) (keep : String → Bool), (∀ k, keep k = false → AtDefault o map k) →
      r.build (map.restrict keep) = r.build map := by
  refine ⟨fun map k d v hnamed hfree hdefault hv => ?_, fun map keep => build_restrict hr hpre⟩
  have hdrop : ∀ a, (a != k) = false → AtDefault o (map.insert k v) a := by
    intro a ha
    rw [bne_eq_false_iff_eq] at ha
    subst ha
    refine ⟨hnamed, hfree, d, hdefault, ?_⟩
    rw [givenIn, Dict.get?_insert_self, Option.bind_some, hv]
  have herase : (map.insert k v).restrict (· != k) = map.erase k := by
    refine Dict.ext_get? fun a => ?_
    rw [Dict.get?_restrict, Dict.get?_insert, Dict.get?_erase]
    by_cases ha : a = k
    · simp [ha]
    · simp [ha]
  rw [← build_restrict hr hpre hdrop, herase]

end

/-- A number as the default of a parameter that stands inside and outside of a group, which is
    written for another parameter; and both parameters with their defaults. -/
theorem build_of_defaults_list :
    let o := ((Options.ofPattern "/list(/<sort>/<page>)/<page>").withDefault "sort" "asc").withDefault
      "page" "1"
    let map : BuildParams := .ofList [("q", .text "x"), ("sort", .text "desc")]
    let all : BuildParams :=
      .ofList [("page", .number (.integer 1)), ("q", .text "x"), ("sort", .text "asc")]
    ∃ r, ofOptions o = .ok r ∧ r.build (map.erase "page") = "/list/desc/1/1?q=x" ∧
      r.build (map.insert "page" (.number (.integer 1))) = r.build (map.erase "page") ∧
      r.build (all.restrict (· ∉ ["page", "sort"])) = r.build all := by
  intro o map all
  have hnamed : Node.paramsAll (parse o.pattern) = ["sort", "page", "page"] := by decide +kernel
  obtain ⟨r, hr, hpath⟩ : ∃ r, ofOptions o = .ok r ∧
      some (r.build (map.erase "page")) = some "/list/desc/1/1?q=x" :=
    exists_of_toOption_bind (by decide +kernel)
  obtain ⟨hone, hset⟩ := build_of_defaults hr rfl
  refine ⟨r, hr, Option.some.inj hpath, ?_, hset all (· ∉ ["page", "sort"]) fun k hk => ?_⟩
  · exact hone map "page" "1" _ (hnamed ▸ by decide) (by decide) (by decide +kernel)
      (by decide +kernel)
  · have hk' : k ∈ ["page", "sort"] := Decidable.not_not.1 (of_decide_eq_false hk)
    rcases List.mem_cons.1 hk' with rfl | hk'
    · exact ⟨hnamed ▸ by decide, by decide, "1", by decide +kernel, by decide +kernel⟩
    · rw [List.mem_singleton.1 hk']
      exact ⟨hnamed ▸ by decide, by decide, "asc", by decide +kernel, by decide +kernel⟩

end Route

end Waymark
