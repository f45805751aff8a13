/-
  Waymark.Proofs.Query.Pieces

  What a query says about a key.  Of the pieces between `&` signs that hold something the first one
  with that key counts, whatever way the key is spelled there.

  Main statement: `get?_parse`.
-/

import Waymark.Proofs.Dict
import Waymark.Query.Codec

namespace Waymark

namespace Query

/-- The decoded value of the first piece of a query whose decoded key is this one. -/
def firstValue? (q k : String) : Option String :=
  ((pieces q.toList).find? fun piece => decode (splitPair piece).1 == k).map fun piece =>
    decode (splitPair piece).2

/-- Of the entries of a query the first one with a key counts. -/
theorem get?_parse_eq_lookup (q k : String) : (parse q).get? k = (entries q.toList).lookup k := by
  rw [parse, Dict.get?_foldl_insertNew, Dict.get?_empty, Option.none_or]

/-- The map of a query holds under every key what the first piece with that key says. -/
theorem get?_parse (q k : String) : (parse q).get? k = firstValue? q k := by
  rw [get?_parse_eq_lookup, entries, Dict.lookup_map_eq_find?]
  rfl

end Query

end Waymark
