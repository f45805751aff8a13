/-
  Waymark.Proofs.Query.Joined

  Queries written behind each other.  The pieces of two queries with an `&` between them are the
  pieces of the first and then those of the second, so the map of both is the union of their maps,
  and a key that both have keeps its first value.  Signs that enclose no piece add none.

  Main statement: `parse_join`.
-/

import Waymark.Proofs.Query.Pieces

namespace Waymark

namespace Query

/-! ## Pieces -/

theorem pieces_nil : pieces [] = [] := rfl

/-- The pieces of a joined query are those of its parts. -/
theorem pieces_join (s t : List Char) : pieces (s ++ '&' :: t) = pieces s ++ pieces t := by
  rw [pieces, List.splitOn_append_cons_self, List.filter_append]
  rfl

/-- Signs in a row hold no pieces. -/
theorem pieces_ampersands (n : Nat) (t : List Char) :
    pieces (List.replicate n '&' ++ t) = pieces t := by
  induction n with
  | zero => rfl
  | succ n ih =>
    have hempty := pieces_join [] (List.replicate n '&' ++ t)
    rw [List.nil_append, pieces_nil, List.nil_append] at hempty
    rw [List.replicate_succ, List.cons_append, hempty, ih]

theorem pieces_join_ampersands (s t : List Char) (n : Nat) :
    pieces (s ++ '&' :: (List.replicate n '&' ++ t)) = pieces s ++ pieces t := by
  rw [pieces_join, pieces_ampersands]

/-! ## Maps -/

/-- The map of a query depends on its pieces alone. -/
theorem parse_congr {q r : String} (h : pieces q.toList = pieces r.toList) : parse q = parse r := by
  rw [parse, parse, entries, entries, h]

/-- What a joined query says about a key: what its first part says, else what its second does. -/
theorem get?_parse_join (s t k : String) :
    (parse (s ++ "&" ++ t)).get? k = ((parse s).get? k).or ((parse t).get? k) := by
  have htext : (s ++ "&" ++ t).toList = s.toList ++ '&' :: t.toList := by
    rw [String.toList_append, String.toList_append, List.append_assoc]
    rfl
  rw [get?_parse_eq_lookup, get?_parse_eq_lookup, get?_parse_eq_lookup, htext, entries, pieces_join,
    List.map_append, List.lookup_append]
  rfl

theorem parse_ampersands (n : Nat) (s : String) :
    parse (String.ofList (List.replicate n '&') ++ s) = parse s := by
  refine parse_congr ?_
  rw [String.toList_append, String.toList_ofList, pieces_ampersands]

theorem parse_append_ampersands (n : Nat) (s : String) :
    parse (s ++ String.ofList (List.replicate n '&')) = parse s := by
  refine parse_congr ?_
  rw [String.toList_append, String.toList_ofList]
  cases n with
  | zero => rw [List.replicate_zero, List.append_nil]
  | succ n =>
    have hjoin := pieces_join_ampersands s.toList [] n
    rwa [List.append_nil, pieces_nil, List.append_nil, ← List.replicate_succ] at hjoin

theorem parse_join_ampersands (n : Nat) (s t : String) :
    parse (s ++ "&" ++ String.ofList (List.replicate n '&') ++ t) = parse (s ++ "&" ++ t) := by
  refine parse_congr ?_
  have htext : (s ++ "&" ++ String.ofList (List.replicate n '&') ++ t).toList
      = s.toList ++ '&' :: (List.replicate n '&' ++ t.toList) := by
    simp only [String.toList_append, String.toList_ofList, List.append_assoc]
    rfl
  have hplain : (s ++ "&" ++ t).toList = s.toList ++ '&' :: t.toList := by
    simp only [String.toList_append, List.append_assoc]
    rfl
  rw [htext, hplain, pieces_join_ampersands, pieces_join]

/-- Joining queries merges their maps, and the first value of a key stays.  For any two texts, well
    formed or not, the map of the joined query holds under every key what the first text says about
    it, and what the second says where the first says nothing.  So a key that a query has keeps its
    value whatever is written behind an `&`, and further signs in front, behind and between change
    nothing. -/
theorem parse_join (s t : String) :
    (∀ k, (parse (s ++ "&" ++ t)).get? k = ((parse s).get? k).or ((parse t).get? k))
      ∧ (∀ k v, (parse s).get? k = some v → (parse (s ++ "&" ++ t)).get? k = some v)
      ∧ ∀ n,
        parse (String.ofList (List.replicate n '&') ++ s) = parse s
          ∧ parse (s ++ String.ofList (List.replicate n '&')) = parse s
          ∧ parse (s ++ "&" ++ String.ofList (List.replicate n '&') ++ t)
            = parse (s ++ "&" ++ t) := by
  refine ⟨get?_parse_join s t, fun k v hv => ?_, fun n =>
    ⟨parse_ampersands n s, parse_append_ampersands n s, parse_join_ampersands n s t⟩⟩
  rw [get?_parse_join, hv, Option.some_or]

/-- A key keeps its value although the text behind spells it in another way. -/
theorem parse_join_respelled :
    (parse "a%62=1&x").get? "ab" = some "1"
      ∧ (parse ("a%62=1&x" ++ "&" ++ "ab=2&&+=3&%FF=")).get? "ab" = some "1" := by
  have hfirst : (parse "a%62=1&x").get? "ab" = some "1" := by
    decide +kernel
  exact ⟨hfirst, (parse_join "a%62=1&x" "ab=2&&+=3&%FF=").2.1 "ab" "1" hfirst⟩

end Query

end Waymark
