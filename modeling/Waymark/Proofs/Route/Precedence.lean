/-
  Waymark.Proofs.Route.Precedence

  Which source the result of a match takes a parameter from.  The path comes before its query, and
  the query before the defaults.  A template may name a parameter several times, and then the last
  value in the path counts; of the pieces of a query that name a parameter the first one counts.

  The query and the defaults are maps.  `readPathIn?` completes a result by their entries in an
  order that is given from outside, and all orders lead to the same result.

  Main statement: `get?_of_matchPath?`.
-/

import Waymark.Proofs.Route.Listed
import Waymark.Proofs.Route.Reserved
import Waymark.Regex.Estimate

namespace Waymark

open Waymark.Json Waymark.Template

namespace Route

/-! ## Orders of entries -/

/-- An order in which the entries of every map are gone through. -/
structure EntryOrder where
  entriesOf : Dict String → List (String × String)
  perm : ∀ d, (entriesOf d).Perm d.entries

/-- The parameters completed by entries, one after another, under keys that they lack. -/
def completed (params : Params) (es : List (String × String)) : Params :=
  es.foldl (fun d e => d.insertNew e.1 e.2) params

/-- The parameters completed by those of the query, in this order. -/
def Taken.withQueryIn (order : EntryOrder) (t : Taken) : Params :=
  match t.query with
  | none => t.params
  | some q => (completed t.params (order.entriesOf (Query.parse q))).erase queryParam

/-- The parameters that a path gives if the entries of its query and the defaults come in these
    orders. -/
def readPathIn? (queryOrder defaultsOrder : EntryOrder) (r : Route) (path : String) :
    Option Params := do
  let captures ← r.matcher.captures? path
  let taken ← captures.foldlM (Taken.add path) ⟨.empty, none⟩
  return completed (taken.withQueryIn queryOrder) (defaultsOrder.entriesOf r.defaults)

theorem completed_entriesOf (order : EntryOrder) (params : Params) (d : Dict String) :
    completed params (order.entriesOf d) = params.orElse d :=
  Dict.foldl_insertNew_of_perm (order.perm d) params

theorem withQueryIn_eq_withQuery (order : EntryOrder) (t : Taken) :
    t.withQueryIn order = t.withQuery := by
  rw [Taken.withQueryIn, Taken.withQuery]
  cases t.query with
  | none => rfl
  | some q =>
    show (completed t.params (order.entriesOf (Query.parse q))).erase queryParam = _
    rw [completed_entriesOf]

/-- What is read from a path does not depend on the orders of the query and the defaults. -/
theorem readPathIn?_eq_readPath? (queryOrder defaultsOrder : EntryOrder) (r : Route)
    (path : String) : r.readPathIn? queryOrder defaultsOrder path = r.readPath? path := by
  have hresult : ∀ t : Taken, completed (t.withQueryIn queryOrder)
      (defaultsOrder.entriesOf r.defaults) = t.withQuery.orElse r.defaults := by
    intro t
    rw [completed_entriesOf, withQueryIn_eq_withQuery]
  simp only [readPathIn?, readPath?, hresult]

/-! ## Sources -/

section

variable {o : Options} {r : Route} {path : String} {R : Params}

/-- The value of a parameter is the last one in the path, else the one of the first piece of the
    query that has its key, else its default; without any of them it has none.  There is one query
    at most, and the orders of its entries and of the defaults change nothing. -/
theorem get?_of_matchPath? [Regex.Capacity] (hr : ofOptions o = .ok r) (hpost : o.postMatch = none)
    (hparams : ∀ a ∈ Node.paramsAll (parse o.pattern), isReserved a = false)
    (hR : r.matchPath? path = some R) :
    (∃ cs, r.matcher.captures? path = some cs ∧ (cs.map (·.1)).count queryParam ≤ 1 ∧
      ∀ k, isReserved k = false → R.get? k = (lastValue? cs k).or
        (((lastValue? cs queryParam).bind (Query.firstValue? · k)).or (o.defaults.get? k))) ∧
    ∀ queryOrder defaultsOrder, r.readPathIn? queryOrder defaultsOrder path = some R := by
  rw [matchPath?_eq_readPath? ((ofOptions_spec hr).2.2.2.1.trans hpost)] at hR
  constructor
  · obtain ⟨cs, hcs, -⟩ := Option.bind_eq_some_iff.1 hR
    refine ⟨cs, hcs, count_queryParam_le hr hparams hcs, fun k hk => ?_⟩
    rw [get?_readPath?_last hr hR hcs, hk, if_neg Bool.false_ne_true, queryValue?,
      if_neg (ne_queryParam_of_unreserved hk), Option.or_assoc]
    simp only [Query.get?_parse]
  · intro queryOrder defaultsOrder
    rw [readPathIn?_eq_readPath?, hR]

end

/-- A parameter that the template names twice, one that only the query gives, under a key spelled
    with an escape in the first of its two pieces, and one that only the defaults give. -/
theorem get?_of_matchPath?_repeated :
    let o := ((Options.ofPattern "/<a>/<a>(/<b>)").withDefault "b" "9").withDefault "c" "8"
    ∃ r R, ofOptions o = .ok r ∧ r.matchPath? "/1/2?%62=3&b=4&a=5" = some R ∧
      R.get? "a" = some "2" ∧ R.get? "b" = some "3" ∧ R.get? "c" = some "8" ∧
      R.get? "d" = none := by
  intro o
  have hnames : Node.paramsAll (parse o.pattern) = ["a", "a", "b"] := by decide +kernel
  have hparams : ∀ a ∈ Node.paramsAll (parse o.pattern), isReserved a = false := by
    rw [hnames]
    decide
  have hlisted : o.Listed := by
    refine ⟨rfl, fun a ha => Or.inl ?_⟩
    rw [Options.conditionOf, get?_conditionsWith _ _ (hparams a ha)]
    rfl
  obtain ⟨r, hr⟩ : ∃ r, ofOptions o = .ok r := exists_of_isOk (by decide +kernel)
  have hcs : r.matcher.captures? "/1/2?%62=3&b=4&a=5"
      = some [("a", "1"), ("a", "2"), (queryParam, "%62=3&b=4&a=5")] :=
    (captures?_eq_readerFor hlisted hr _).trans (by decide +kernel)
  obtain ⟨R, hR⟩ : ∃ R, r.matchPath? "/1/2?%62=3&b=4&a=5" = some R := by
    rw [matchPath?_eq_readPath? (ofOptions_spec hr).2.2.2.1, readPath?, hcs]
    exact ⟨_, rfl⟩
  obtain ⟨⟨cs, hcs', -, hget⟩, -⟩ := get?_of_matchPath? hr rfl hparams hR
  rw [hcs, Option.some.injEq] at hcs'
  subst hcs'
  refine ⟨r, R, hr, hR, ?_, ?_, ?_, ?_⟩
  · rw [hget "a" (by decide)]
    decide +kernel
  · rw [hget "b" (by decide)]
    decide +kernel
  · rw [hget "c" (by decide)]
    decide +kernel
  · rw [hget "d" (by decide)]
    decide +kernel

end Route

end Waymark
