/-
  Waymark.Query.Codec

  Query strings `key=value&key=value`, as maps.  Of values given to one key the first counts;
  writing puts keys in order.
-/

import Waymark.Dict
import Waymark.Query.Percent

namespace Waymark.Query

/-- Splits a piece at its first `=`; without one the value is empty. -/
def splitPair (piece : List Char) : List Char × List Char :=
  (piece.takeWhile (· != '='), (piece.dropWhile (· != '=')).drop 1)

/-- The pieces of a query that hold something, in order. -/
def pieces (s : List Char) : List (List Char) := (s.splitOn '&').filter (!·.isEmpty)

/-- The decoded key and value of a piece. -/
def entry (piece : List Char) : String × String :=
  let (key, value) := splitPair piece
  (decode key, decode value)

/-- The decoded entries of a query, in order. -/
def entries (s : List Char) : List (String × String) := (pieces s).map entry

/-- The map that a query writes. -/
def parse (text : String) : Dict String :=
  (entries text.toList).foldl (fun d e => d.insertNew e.1 e.2) .empty

/-- What is written for an entry. -/
def pairText (e : String × String) : String := encode e.1 ++ "=" ++ encode e.2

/-- The query of a map. -/
def stringify (params : Dict String) : String := "&".intercalate (params.toList.map pairText)

end Waymark.Query
