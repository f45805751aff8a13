/-
  Waymark.Proofs.Route.Parts

  The two parts of a written path.  The first one is what the template writes from the parameters
  that it names.  The second one is the query of all others, which has each of them once.  The query
  is written through a parameter and a group of the route's own, so the split of the parameters and
  the tree have to agree; a map that gives no reserved parameter leaves both to the route.

  Main statement: `build_eq_expand_append_queryText`.
-/

import Waymark.Proofs.Route.Tail
import Waymark.Regex.Estimate

namespace Waymark

open Waymark.Json Waymark.Template

namespace Route

/-! ## The parameters of the parts -/

/-- The texts of the parameters that are not null. -/
def textsOf (map : BuildParams) : Params := map.filterMap textOf?

/-- The texts of the parameters that the template names, at any depth. -/
def namedTexts (o : Options) (map : BuildParams) : Params :=
  (textsOf map).restrict (· ∈ Node.paramsAll (parse o.pattern))

/-- The texts of all other parameters. -/
def otherTexts (o : Options) (map : BuildParams) : Params :=
  (textsOf map).restrict (· ∉ Node.paramsAll (parse o.pattern))

section

variable {o : Options} {r : Route} {map map' : BuildParams}

theorem get?_namedTexts (o : Options) (map : BuildParams) (k : String) :
    (namedTexts o map).get? k
      = if k ∈ Node.paramsAll (parse o.pattern) then givenIn map k else none := by
  rw [namedTexts, textsOf, Dict.get?_restrict, Dict.get?_filterMap, givenIn]
  exact if_congr decide_eq_true_iff rfl rfl

theorem get?_otherTexts (o : Options) (map : BuildParams) (k : String) :
    (otherTexts o map).get? k
      = if k ∈ Node.paramsAll (parse o.pattern) then none else givenIn map k := by
  rw [otherTexts, textsOf, Dict.get?_restrict, Dict.get?_filterMap, ← givenIn]
  by_cases hk : k ∈ Node.paramsAll (parse o.pattern)
  · rw [if_pos hk, if_neg (by simpa using hk)]
  · rw [if_neg hk, if_pos (by simpa using hk)]

/-- The parameters that the template does not name have no effect on those that it names. -/
theorem namedTexts_congr
    (h : ∀ a ∈ Node.paramsAll (parse o.pattern), map'.get? a = map.get? a) :
    namedTexts o map' = namedTexts o map := by
  refine Dict.ext_get? fun k => ?_
  rw [get?_namedTexts, get?_namedTexts]
  by_cases hk : k ∈ Node.paramsAll (parse o.pattern)
  · rw [if_pos hk, if_pos hk, givenIn, givenIn, h k hk]
  · rw [if_neg hk, if_neg hk]

/-! ## The parts -/

/-- The template writes the parameters that it names. -/
theorem expand_all_eq_expand_namedTexts [Regex.Capacity] (hr : ofOptions o = .ok r)
    (hparams : ∀ a ∈ Node.paramsAll (parse o.pattern), isReserved a = false) (map : BuildParams) :
    expand (sortedOf r map).all o.defaults (parse o.pattern)
      = expand (namedTexts o map) o.defaults (parse o.pattern) := by
  refine expand_congr _ fun a ha => .of_get? ?_
  rw [get?_all_of_unreserved hr map (hparams a ha) ha, get?_namedTexts, if_pos ha]

/-- What is left for the query are the parameters that the template does not name. -/
theorem extra_sortedOf [Regex.Capacity] (hr : ofOptions o = .ok r)
    (hmap : ∀ k ∈ r.matcher.params, isReserved k = true → givenIn map k = none) :
    (sortedOf r map).extra = otherTexts o map := by
  refine Dict.ext_get? fun k => ?_
  rw [get?_extra_of_unreserved hr hmap, get?_otherTexts]

theorem build_eq_parts [Regex.Capacity] (hr : ofOptions o = .ok r) (hpre : o.preBuild = none)
    (hparams : ∀ a ∈ Node.paramsAll (parse o.pattern), isReserved a = false)
    (hdefaults : ∀ a, isReserved a = true → o.defaults.get? a = none)
    (hmap : ∀ a, isReserved a = true → map.get? a = none) :
    r.build map = expand (namedTexts o map) o.defaults (parse o.pattern)
      ++ queryText (otherTexts o map) := by
  have hgiven : ∀ k ∈ r.matcher.params, isReserved k = true → givenIn map k = none := by
    intro k _ hk
    rw [givenIn, hmap k hk, Option.bind_none]
  rw [build_eq_expand_append hr hpre, expand_all_eq_expand_namedTexts hr hparams,
    expand_groups_eq_tailOf hr hdefaults, tailOf_of_unreserved hr hgiven, extra_sortedOf hr hgiven]

/-- A path is what the template writes from the parameters that it names, and the query of the
    others, if there are any.  The entries of the query are these others, each of them once.  A map
    that differs in parameters that the template does not name has the same first part. -/
theorem build_eq_expand_append_queryText [Regex.Capacity] (hr : ofOptions o = .ok r)
    (hpre : o.preBuild = none)
    (hparams : ∀ a ∈ Node.paramsAll (parse o.pattern), isReserved a = false)
    (hdefaults : ∀ a, isReserved a = true → o.defaults.get? a = none)
    (hmap : ∀ a, isReserved a = true → map.get? a = none) :
    r.build map = expand (namedTexts o map) o.defaults (parse o.pattern)
        ++ queryText (otherTexts o map) ∧
      Query.entries (Query.stringify (otherTexts o map)).toList = (otherTexts o map).entries ∧
      ∀ map' : BuildParams, (∀ a, isReserved a = true → map'.get? a = none) →
        (∀ a ∈ Node.paramsAll (parse o.pattern), map'.get? a = map.get? a) →
          r.build map' = expand (namedTexts o map) o.defaults (parse o.pattern)
            ++ queryText (otherTexts o map') := by
  refine ⟨build_eq_parts hr hpre hparams hdefaults hmap, Query.entries_stringify _, ?_⟩
  intro map' hmap' hagree
  rw [build_eq_parts hr hpre hparams hdefaults hmap', namedTexts_congr hagree]

end

/-- A parameter inside two groups, one that is left to its default, one that is null, and others
    with an empty key and an empty value. -/
theorem build_eq_expand_append_queryText_of_empty_texts :
    let o := (Options.ofPattern "/a(/<x>(/<y>))").withDefault "x" "d"
    let map : BuildParams :=
      .ofList [("", .text "e"), ("q", .text ""), ("y", .number (.integer 5)), ("z", .null)]
    ∃ r, ofOptions o = .ok r ∧ r.build map = "/a/d/5" ++ "?=e&q=" := by
  intro o map
  have hnamed : Node.paramsAll (parse o.pattern) = ["x", "y"] := by decide +kernel
  obtain ⟨r, hr⟩ : ∃ r, ofOptions o = .ok r := exists_of_isOk (by decide +kernel)
  have hdefaults : ∀ a, isReserved a = true → o.defaults.get? a = none :=
    forall_isReserved_iff.2 ⟨by decide +kernel, by decide +kernel⟩
  have hmap : ∀ a, isReserved a = true → map.get? a = none := forall_isReserved_iff.2 ⟨rfl, rfl⟩
  refine ⟨r, hr, ?_⟩
  rw [(build_eq_expand_append_queryText hr rfl (hnamed ▸ by decide) hdefaults hmap).1]
  decide +kernel

end Route

end Waymark
