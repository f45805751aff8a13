/-
  Waymark.Regex.Error

  Why the text of a regular expression is refused.
-/

namespace Waymark.Regex

/-- The reasons to refuse an expression. -/
inductive Error where
  /-- The text ends inside an escape. -/
  | escapeUnfinished
  /-- An escape that means nothing. -/
  | escapeUnknown
  /-- Back references are not supported. -/
  | backreference
  /-- Something else than a hexadecimal digit, or none at all. -/
  | hexDigit
  /-- A number that is no character. -/
  | hexValue
  /-- A word boundary in braces that is not closed or not known. -/
  | wordBoundary
  /-- A property without a name. -/
  | propertyName
  /-- A property that is not known. -/
  | propertyUnknown
  /-- Look-around is not supported. -/
  | lookAround
  /-- A group that is not closed. -/
  | groupUnclosed
  /-- A parenthesis that closes nothing. -/
  | groupUnopened
  /-- A group's name with a wrong character, or empty, or not closed. -/
  | groupName
  /-- Two groups of one name. -/
  | groupNameTwice
  /-- A flag that is not known. -/
  | flagUnknown
  /-- A flag given twice, or two minus signs. -/
  | flagTwice
  /-- A minus sign without a flag behind it. -/
  | flagDangling
  /-- Flags that are not closed. -/
  | flagsUnclosed
  /-- A repetition of nothing. -/
  | repetitionMissing
  /-- A repetition count without its closing brace. -/
  | countUnclosed
  /-- A repetition count without digits, or beyond 32 bits. -/
  | countNumber
  /-- A repetition with more at least than at most. -/
  | countOrder
  /-- A class that is not closed. -/
  | classUnclosed
  /-- An escape that has no place in a class. -/
  | classEscape
  /-- A range with an end that is no single character. -/
  | classRangeEnd
  /-- A range with its ends in the wrong order. -/
  | classRangeOrder
  /-- Nested too deep. -/
  | nestedTooDeep
  /-- Something that needs Unicode mode while it is off. -/
  | needsUnicode
  /-- The expression grows too large when its repetitions are written out. -/
  | tooLarge
deriving DecidableEq, Repr

end Waymark.Regex
