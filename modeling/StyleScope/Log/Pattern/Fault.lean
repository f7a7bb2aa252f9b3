/-
  StyleScope.Log.Pattern.Fault

  What can be wrong with a written pattern, and how it is told.

  A fault lies in a part of the written pattern. The message shows the lines of the pattern, with
  their numbers if there are several, and marks what is faulty below its line; of a part that runs
  over several lines it tells where the part starts and where it ends.
-/
import StyleScope.Log.Pattern
import StyleScope.Text.Basic

namespace StyleScope.Log.Pattern

open Text

/-! ## Faults -/

inductive Fault where
  | groupUnclosed
  | groupUnopened
  | groupNameUnclosed
  | groupNameEmpty
  | groupNameInvalid
  | groupNameDuplicate
  | flagsUnclosed
  | flagUnknown
  | flagDuplicate
  | negationDangling
  | negationRepeated
  | lookAround
  | repetitionMissing
  | countUnclosed
  | countEmpty
  | countTooLarge
  | countInvalid
  | classUnclosed
  | rangeInvalid
  | rangeNotLiteral
  | classEscape
  | escapeUnfinished
  | escapeUnknown
  | hexEmpty
  | hexNoCharacter
  | hexDigitInvalid
  | propertyInvalid
  | edgeUnclosed
  | edgeUnknown
  | edgeUnfinished
  | backreference
  /-- Groups, classes, repetitions and what else holds parts, in one another. -/
  | nestedTooDeep
  /-- A class of digits, blanks or word characters of Unicode, whose tables are not held. -/
  | classUnavailable
  /-- Characters of either case by the tables of Unicode, which are not held. -/
  | caseUnavailable
  | propertyUnavailable
  /-- The value of a property, by a name that cannot be meant for a property alone. -/
  | propertyValueUnavailable
  /-- A class of bytes that holds parts of characters. -/
  | partOfCharacter
  /-- A character outside ASCII in a class of bytes. -/
  | characterOfBytes
deriving DecidableEq, Repr

/-- How deep the parts of a pattern may lie in one another. -/
def depthLimit : Nat := 250

def Fault.message : Fault → String
  | .groupUnclosed => "unclosed group"
  | .groupUnopened => "unopened group"
  | .groupNameUnclosed => "unclosed capture group name"
  | .groupNameEmpty => "empty capture group name"
  | .groupNameInvalid => "invalid capture group character"
  | .groupNameDuplicate => "duplicate capture group name"
  | .flagsUnclosed => "expected flag but got end of regex"
  | .flagUnknown => "unrecognized flag"
  | .flagDuplicate => "duplicate flag"
  | .negationDangling => "dangling flag negation operator"
  | .negationRepeated => "flag negation operator repeated"
  | .lookAround => "look-around, including look-ahead and look-behind, is not supported"
  | .repetitionMissing => "repetition operator missing expression"
  | .countUnclosed => "unclosed counted repetition"
  | .countEmpty => "repetition quantifier expects a valid decimal"
  | .countTooLarge => "decimal literal invalid"
  | .countInvalid => "invalid repetition count range, the start must be <= the end"
  | .classUnclosed => "unclosed character class"
  | .rangeInvalid => "invalid character class range, the start must be <= the end"
  | .rangeNotLiteral => "invalid range boundary, must be a literal"
  | .classEscape => "invalid escape sequence found in character class"
  | .escapeUnfinished => "incomplete escape sequence, reached end of pattern prematurely"
  | .escapeUnknown => "unrecognized escape sequence"
  | .hexEmpty => "hexadecimal literal empty"
  | .hexNoCharacter => "hexadecimal literal is not a Unicode scalar value"
  | .hexDigitInvalid => "invalid hexadecimal digit"
  | .propertyInvalid => "invalid Unicode character class"
  | .edgeUnclosed =>
    "special word boundary assertion is either unclosed or contains an invalid character"
  | .edgeUnknown =>
    "unrecognized special word boundary assertion, valid choices are: " ++
      "start, end, start-half or end-half"
  | .edgeUnfinished =>
    "found either the beginning of a special word boundary or a bounded repetition on a \\b " ++
      "with an opening brace, but no closing brace"
  | .backreference => "backreferences are not supported"
  | .nestedTooDeep =>
    "exceed the maximum number of nested parentheses/brackets (" ++ toString depthLimit ++ ")"
  | .classUnavailable =>
    "Unicode-aware Perl class not found (make sure the unicode-perl feature is enabled)"
  | .caseUnavailable =>
    "Unicode-aware case insensitivity matching is not available " ++
      "(make sure the unicode-case feature is enabled)"
  | .propertyUnavailable => "Unicode property not found"
  | .propertyValueUnavailable => "Unicode property value not found"
  | .partOfCharacter => "pattern can match invalid UTF-8"
  | .characterOfBytes => "Unicode not allowed here"

/-! ## Faults at places -/

/-- A part of a written pattern, from one place to another. -/
structure Span where
  first : Nat
  last : Nat
deriving DecidableEq, Repr

/-- A fault and the parts of the written pattern that it lies in, none before the one listed
    before it. -/
structure Misreading where
  fault : Fault
  parts : List Span
deriving DecidableEq, Repr

/-- A fault in a part. -/
def Fault.at (fault : Fault) (part : Span) : Misreading := ⟨fault, [part]⟩

/-- A fault between two places. -/
def Fault.between (fault : Fault) (first last : Nat) : Misreading := fault.at ⟨first, last⟩

/-! ## Lines and columns -/

/-- The line of a place and its column in the line, both counted from zero. -/
def position (written : Text) (place : Nat) : Nat × Nat :=
  let before := (written.take place).reverse
  (before.count '\n', (before.takeWhile (· != '\n')).length)

/-- The line that a part lies in and its columns, unless it runs over several lines. -/
def Span.inLine? (part : Span) (written : Text) : Option (Nat × Span) :=
  let first := position written part.first
  let last := position written part.last
  if first.1 = last.1 then some (first.1, ⟨first.2, last.2⟩) else none

/-- Where a part that runs over several lines starts, and the last character of it. -/
def Span.lineNote (part : Span) (written : Text) : String :=
  let first := position written part.first
  let last := position written part.last
  "on line " ++ toString (first.1 + 1) ++ " (column " ++ toString (first.2 + 1) ++
    ") through line " ++ toString (last.1 + 1) ++ " (column " ++ toString last.2 ++ ")"

/-- The lines of a written pattern as they are shown: without the carriage returns in front of
    line feeds, and without a last line that is empty. -/
def shownLines (written : Text) : List Text :=
  let all := lines written
  all.dropLast.map body ++ all.getLast?.toList.filter fun line => !line.isEmpty

/-! ## Marks -/

/-- Marks below parts of a line, from a column on. Every part has a mark. -/
def marks (column : Nat) : List Span → Text
  | [] => []
  | part :: parts =>
    let width := max 1 (part.last - part.first)
    List.replicate (part.first - column) ' ' ++ List.replicate width '^' ++
      marks (max column part.first + width) parts

/-- What stands in front of a line: blanks if it is the only one, otherwise its number, at the
    right of a field that the largest number fills. -/
def lineLabel (count line : Nat) : Text :=
  if count ≤ 1 then List.replicate 4 ' '
  else
    let digits := (toString (line + 1)).toList
    List.replicate ((toString count).length - digits.length) ' ' ++ digits ++ [':', ' ']

/-- The lines of a written pattern, each with the marks below it. -/
def Misreading.notated (m : Misreading) (written : Text) : Text :=
  let count := (lines written).length
  let placed := m.parts.filterMap fun part => part.inLine? written
  (shownLines written).zipIdx.flatMap fun (line, number) =>
    let here := placed.filterMap fun (other, part) => if other = number then some part else none
    let label := lineLabel count number
    label ++ line ++ ['\n'] ++
      if here.isEmpty then [] else label.map (fun _ => ' ') ++ marks 0 here ++ ['\n']

/-- A misreading with the written pattern and what is faulty in it. -/
def Misreading.message (m : Misreading) (written : Text) : String :=
  let shown := String.ofList (m.notated written)
  let divider := String.ofList (List.replicate 79 '~') ++ "\n"
  let notes := (m.parts.filter fun part => (part.inLine? written).isNone).map fun part =>
    part.lineNote written ++ "\n"
  "regex parse error:\n" ++
    (if written.contains '\n' then divider ++ shown ++ divider ++ String.join notes else shown) ++
    "error: " ++ m.fault.message

/-! ## Refusals -/

/-- Why a written pattern stands for none. -/
inductive Refusal where
  | misread (cause : Misreading)
  /-- The pattern tells of places at words by the tables of Unicode, which are not held. -/
  | wordPlace
  /-- The pattern is larger than allowed. -/
  | tooLarge
deriving DecidableEq, Repr

def Refusal.message (written : Text) : Refusal → String
  | .misread cause => cause.message written
  | .wordPlace => "error building NFA"
  | .tooLarge => "Compiled regex exceeds size limit of 10485760 bytes."

end StyleScope.Log.Pattern
