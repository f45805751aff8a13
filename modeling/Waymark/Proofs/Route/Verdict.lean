/-
  Waymark.Proofs.Route.Verdict

  Whether a path matches, and what a query changes about it.  A path that its expression matches
  still fails if the slash at its end is taken and the check for a doubled slash finds one.  The
  check looks at the complete text: in front of an empty query it takes the only slash for a doubled
  one, and a query hides a slash that is doubled.

  Main statements: `matchPath?_emptyQuery` and `isSome_matchPath?_longQuery` for these two cases, and
  `isSome_matchPath?_query_iff`, when a path with a query has the verdict of the path alone.
-/

import Waymark.Proofs.Route.Listed
import Waymark.Regex.Estimate

namespace Waymark

open Waymark.Template

namespace Route

/-! ## Paths that match -/

theorem isSome_add (path : String) (t : Taken) (slot : String × String) :
    (Taken.add path t slot).isSome ↔ (slot.1 = slashParam → hasDoubledSlash path = false) := by
  rw [Taken.add]
  by_cases hslash : slot.1 = slashParam
  · rw [if_pos hslash]
    by_cases hd : hasDoubledSlash path = true
    · simp [hslash, hd]
    · simp [hd]
  · -- what is kept is kept whatever the path is
    have hvacuous : slot.1 = slashParam → hasDoubledSlash path = false := fun h => absurd h hslash
    rw [if_neg hslash]
    by_cases hquery : slot.1 = queryParam
    · rw [if_pos hquery]
      exact ⟨fun _ => hvacuous, fun _ => rfl⟩
    · rw [if_neg hquery]
      exact ⟨fun _ => hvacuous, fun _ => rfl⟩

/-- The slots of a path are kept together unless one of them is the slash and it is doubled. -/
theorem isSome_foldlM_add (path : String) (cs : List (String × String)) (t : Taken) :
    (cs.foldlM (Taken.add path) t).isSome ↔
      (slashParam ∈ cs.map (·.1) → hasDoubledSlash path = false) := by
  induction cs generalizing t with
  | nil => simp
  | cons c cs ih =>
    have hone := isSome_add path t c
    rw [List.foldlM_cons, List.map_cons, List.mem_cons, or_imp]
    cases hu : Taken.add path t c with
    | none =>
      -- the first slot is the slash, and what follows is not looked at
      rw [hu, Option.isSome_none] at hone
      constructor
      · intro h
        exact absurd h (by simp)
      · intro h
        exact absurd (hone.2 fun hc => h.1 hc.symm) (by simp)
    | some u =>
      rw [hu, Option.isSome_some] at hone
      have hc : slashParam = c.1 → hasDoubledSlash path = false := fun hc => hone.1 rfl hc.symm
      exact (ih u).trans ⟨fun h => ⟨hc, h⟩, fun h => h.2⟩

/-- A path matches if it is captured and no doubled slash stands where its end is taken. -/
theorem isSome_readPath? (r : Route) (path : String) :
    (r.readPath? path).isSome ↔ ∃ cs, r.matcher.captures? path = some cs ∧
      (slashParam ∈ cs.map (·.1) → hasDoubledSlash path = false) := by
  rw [readPath?]
  cases r.matcher.captures? path with
  | none => simp
  | some cs =>
    -- the query and the defaults complete what was taken and refuse nothing
    have hbind : ∀ x : Option Taken,
        (x.bind fun t => pure (t.withQuery.orElse r.defaults)).isSome = x.isSome := by
      intro x
      cases x <;> rfl
    change ((cs.foldlM (Taken.add path) ⟨.empty, none⟩).bind _).isSome ↔ _
    rw [hbind, isSome_foldlM_add]
    simp

/-- Whether the slash that may stand at the end is taken from a path. -/
def TakesSlash (r : Route) (path : String) : Prop :=
  ∃ cs, r.matcher.captures? path = some cs ∧ slashParam ∈ cs.map (·.1)

/-! ## The end of a path with a query -/

/-- In front of a last character of one byte the character that is checked is the last one. -/
theorem hasDoubledSlash_of_concat {s : String} {t : List Char} {c : Char} (hc : c.toNat < 128)
    (h : s.toList = t ++ [c]) : hasDoubledSlash s = (t.getLast? == some '/') := by
  have htext : s.toList.reverse = c :: t.reverse := by
    rw [h, List.reverse_append, List.reverse_singleton, List.singleton_append]
  rw [hasDoubledSlash, htext, ← List.head?_reverse]
  cases t.reverse with
  | nil => rfl
  | cons d u => simp [hc]

/-- In front of an empty query the character that is checked is the last one of the path. -/
theorem hasDoubledSlash_emptyQuery (p : String) :
    hasDoubledSlash (p ++ "?" ++ "") = (p.toList.getLast? == some '/') := by
  have htext : (p ++ "?" ++ "").toList = p.toList ++ ['?'] := by simp
  exact hasDoubledSlash_of_concat (by decide) htext

/-- Behind two characters or more nothing else is checked. -/
theorem hasDoubledSlash_append (s : String) {t : String} (h : 2 ≤ t.toList.length) :
    hasDoubledSlash (s ++ t) = hasDoubledSlash t := by
  have htext : (s ++ t).toList.reverse = t.toList.reverse ++ s.toList.reverse := by simp
  rw [← List.length_reverse] at h
  rw [hasDoubledSlash, hasDoubledSlash, htext]
  cases ht : t.toList.reverse with
  | nil =>
    rw [ht] at h
    exact absurd h (by decide)
  | cons c u =>
    cases u with
    | nil =>
      rw [ht] at h
      exact absurd h (by simp)
    | cons d u => rfl

/-! ## Verdicts -/

section

variable {o : Options} {r : Route} {p : String}

theorem isSome_matchPath? [Regex.Capacity] (h : o.Listed) (hr : ofOptions o = .ok r)
    (path : String) :
    (r.matchPath? path).isSome ↔ ∃ cs, r.matcher.captures? path = some cs ∧
      (slashParam ∈ cs.map (·.1) → hasDoubledSlash path = false) := by
  have hpost : r.postMatch = none := (ofOptions_spec hr).2.2.2.1.trans h.postMatch
  rw [matchPath?_eq_readPath? hpost]
  exact isSome_readPath? r path

/-- A path with a query matches if the query is one line, the path alone is captured, and the check
    for a doubled slash lets the complete text pass. -/
theorem isSome_matchPath?_query [Regex.Capacity] (h : o.Listed) (hasks : o.Unasking)
    (hr : ofOptions o = .ok r) (hp : '?' ∉ p.toList) (q : String) :
    (r.matchPath? (p ++ "?" ++ q)).isSome ↔ '\n' ∉ q.toList ∧
      ∃ cs, r.matcher.captures? p = some cs ∧
        (slashParam ∈ cs.map (·.1) → hasDoubledSlash (p ++ "?" ++ q) = false) := by
  rw [isSome_matchPath? h hr, captures?_query h hasks hr hp]
  by_cases hq : '\n' ∈ q.toList
  · simp [hq]
  · -- the query is another parameter than the slash
    have hne : slashParam ≠ queryParam := by decide
    have hslots : ∀ cs : List (String × String),
        slashParam ∈ (cs ++ if q = "" then [] else [(queryParam, q)]).map (·.1) ↔
          slashParam ∈ cs.map (·.1) := by
      intro cs
      by_cases hempty : q = ""
      · simp [hempty]
      · simp [hempty, hne]
    rw [if_neg hq]
    cases r.matcher.captures? p with
    | none => simp
    | some cs =>
      simp only [Option.map_some, Option.some.injEq, exists_eq_left', hslots]
      exact ⟨fun hcs => ⟨hq, hcs⟩, fun hcs => hcs.2⟩

/-- A path whose end slash is taken does not match with an empty query. -/
theorem matchPath?_emptyQuery [Regex.Capacity] (h : o.Listed) (hasks : o.Unasking)
    (hr : ofOptions o = .ok r)
    (hp : '?' ∉ p.toList) (hslash : r.TakesSlash p) (hend : p.toList.getLast? = some '/') :
    r.matchPath? (p ++ "?" ++ "") = none := by
  rw [← Option.not_isSome_iff_eq_none, isSome_matchPath?_query h hasks hr hp]
  rintro ⟨-, cs, hcs, hcheck⟩
  obtain ⟨cs', hcs', hmem⟩ := hslash
  rw [hcs, Option.some.injEq] at hcs'
  rw [hasDoubledSlash_emptyQuery, hend] at hcheck
  exact absurd (hcheck (hcs' ▸ hmem)) (by decide)

/-- With a query of two characters or more the query is checked for a doubled slash instead of the
    path. -/
theorem isSome_matchPath?_longQuery [Regex.Capacity] (h : o.Listed) (hasks : o.Unasking)
    (hr : ofOptions o = .ok r) (hp : '?' ∉ p.toList) {q : String} (hq : 2 ≤ q.toList.length) :
    (r.matchPath? (p ++ "?" ++ q)).isSome ↔ '\n' ∉ q.toList ∧
      ∃ cs, r.matcher.captures? p = some cs ∧
        (slashParam ∈ cs.map (·.1) → hasDoubledSlash q = false) := by
  rw [isSome_matchPath?_query h hasks hr hp, hasDoubledSlash_append _ hq]

/-- A query leaves the verdict of a path as it is exactly if it adds no line to a path that matches
    and, where the slash at the end is taken, the check for a doubled slash finds the same in the
    path with the query and in the path alone. -/
theorem isSome_matchPath?_query_iff [Regex.Capacity] (h : o.Listed) (hasks : o.Unasking)
    (hr : ofOptions o = .ok r) (hp : '?' ∉ p.toList) (q : String) :
    ((r.matchPath? (p ++ "?" ++ q)).isSome ↔ (r.matchPath? p).isSome) ↔
      ((r.matchPath? p).isSome → '\n' ∉ q.toList) ∧
      (r.TakesSlash p → '\n' ∉ q.toList →
        hasDoubledSlash (p ++ "?" ++ q) = hasDoubledSlash p) := by
  have halone := isSome_matchPath? h hr p
  have hquery := isSome_matchPath?_query h hasks hr hp q
  rw [hquery, halone, TakesSlash]
  cases r.matcher.captures? p with
  | none => simp
  | some cs =>
    simp only [Option.some.injEq, exists_eq_left']
    by_cases hq : '\n' ∈ q.toList
    · simp [hq]
    · by_cases hslash : slashParam ∈ cs.map (·.1)
      · -- both verdicts are those of the check
        simp only [hq, hslash, not_false_eq_true, true_and, forall_const, implies_true]
        cases hasDoubledSlash p <;> cases hasDoubledSlash (p ++ "?" ++ q) <;> simp
      · simp [hq, hslash]

/-- A path with a list of values, a group and a slash at the end, and a query that has no slash. -/
theorem isSome_matchPath?_files_query :
    let o := (Options.ofPattern "/<lang>/files(/<id>)").withCondition "lang" (.oneOf ["en", "de"])
    ∃ r, ofOptions o = .ok r ∧ (r.matchPath? "/en/files/7/").isSome ∧ r.TakesSlash "/en/files/7/" ∧
      (r.matchPath? ("/en/files/7/" ++ "?" ++ "x=1")).isSome := by
  intro o
  have htree : parse o.pattern = [.literal "/", .param "lang", .literal "/files",
      .group [.literal "/", .param "id"]] := by decide +kernel
  have hparams : Node.paramsAll (parse o.pattern) = ["lang", "id"] := by
    rw [htree]
    rfl
  have hlang : o.conditionOf "lang" = some (.oneOf ["en", "de"]) := by decide +kernel
  have hid : o.conditionOf "id" = none := by decide +kernel
  have hlisted : o.Listed := by
    refine ⟨rfl, fun a ha => ?_⟩
    rw [hparams] at ha
    rcases ha with _ | ⟨_, _ | ⟨_, ha⟩⟩
    · exact Or.inr ⟨_, hlang⟩
    · exact Or.inl hid
    · exact absurd ha List.not_mem_nil
  have hasks : o.Unasking := by
    refine ⟨fun text htext => ?_, fun a ha values hvalues => ?_⟩
    · rw [htree] at htext
      simp at htext
      rcases htext with rfl | rfl | rfl <;> decide
    · rw [hparams] at ha
      rcases ha with _ | ⟨_, _ | ⟨_, ha⟩⟩
      · rw [hlang] at hvalues
        cases hvalues
        decide
      · rw [hid] at hvalues
        exact absurd hvalues (by simp)
      · exact absurd ha List.not_mem_nil
  obtain ⟨r, hr, hcs⟩ : ∃ r, ofOptions o = .ok r ∧
      r.matcher.captures? "/en/files/7/" = some [("lang", "en"), ("id", "7"), (slashParam, "/")] :=
    exists_of_toOption_bind (by decide +kernel)
  have halone : (r.matchPath? "/en/files/7/").isSome :=
    (isSome_matchPath? hlisted hr _).2 ⟨_, hcs, fun _ => by decide⟩
  have hverdict : (r.matchPath? ("/en/files/7/" ++ "?" ++ "x=1")).isSome
      ↔ (r.matchPath? "/en/files/7/").isSome :=
    (isSome_matchPath?_query_iff hlisted hasks hr (by decide) "x=1").2
      ⟨fun _ => by decide, fun _ _ => by decide⟩
  exact ⟨r, hr, halone, ⟨_, hcs, by decide⟩, hverdict.2 halone⟩

/-- An empty query refuses a path with its slash at the end, a query accepts one that is refused for
    its doubled slash, and a query of two lines refuses a path. -/
theorem matchPath?_query_of_end_slash :
    let o := Options.ofPattern "/foo(/x/)"
    o.Listed ∧ o.Unasking ∧ ∃ r, ofOptions o = .ok r ∧
      ¬ ((r.matchPath? ("/foo/" ++ "?" ++ "")).isSome ↔ (r.matchPath? "/foo/").isSome) ∧
      ¬ ((r.matchPath? ("/foo/x//" ++ "?" ++ "a=1")).isSome ↔ (r.matchPath? "/foo/x//").isSome) ∧
      ¬ ((r.matchPath? ("/foo" ++ "?" ++ "a\nb")).isSome ↔ (r.matchPath? "/foo").isSome) := by
  intro o
  have htree : parse o.pattern = [.literal "/foo", .group [.literal "/x/"]] := by decide +kernel
  have hparams : Node.paramsAll (parse o.pattern) = [] := by
    rw [htree]
    rfl
  have hlisted : o.Listed := ⟨rfl, by simp [hparams]⟩
  have hasks : o.Unasking := by
    refine ⟨fun text htext => ?_, by simp [hparams]⟩
    rw [htree] at htext
    simp at htext
    rcases htext with rfl | rfl <;> decide
  obtain ⟨r, hr⟩ : ∃ r, ofOptions o = .ok r := exists_of_isOk (by decide +kernel)
  have hone : r.matcher.captures? "/foo/" = some [(slashParam, "/")] :=
    (captures?_eq_readerFor hlisted hr _).trans (by decide +kernel)
  have hdoubled : r.matcher.captures? "/foo/x//" = some [(slashParam, "/")] :=
    (captures?_eq_readerFor hlisted hr _).trans (by decide +kernel)
  have hbare : r.matcher.captures? "/foo" = some [] :=
    (captures?_eq_readerFor hlisted hr _).trans (by decide +kernel)
  refine ⟨hlisted, hasks, r, hr, ?_, ?_, ?_⟩
  · rw [isSome_matchPath?_query hlisted hasks hr (by decide), isSome_matchPath? hlisted hr, hone]
    decide
  · rw [isSome_matchPath?_query hlisted hasks hr (by decide), isSome_matchPath? hlisted hr,
      hdoubled]
    decide
  · rw [isSome_matchPath?_query hlisted hasks hr (by decide), isSome_matchPath? hlisted hr, hbare]
    decide

end

end Route

end Waymark
