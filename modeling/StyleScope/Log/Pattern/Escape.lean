/-
  StyleScope.Log.Pattern.Escape

  The written form of patterns: what stands after a backslash.

  An escape stands for a character, for a class of characters or for a place. Punctuation stands
  for itself, and letters for what they are agreed to mean. Classes that go by the tables of
  Unicode can be written; that they stand for nothing is found when a pattern is made of them.
-/
import StyleScope.Log.Pattern.Cursor
import StyleScope.Log.Pattern.Written

namespace StyleScope.Log.Pattern

open Text

/-! ## What escapes stand for -/

inductive Escaped where
  | literal (l : Literal)
  | one (item : ClassItem)
  | place (p : Place) (span : Span)
deriving Repr

def Escaped.span : Escaped → Span
  | .literal l => l.span
  | .one item => item.span
  | .place _ span => span

/-! ## Numbers of characters -/

/-- The digits of a number in a base, the first digit first. -/
def valueOf (base : Nat) (digits : List Char) : Nat :=
  digits.foldl (fun n d =>
    base * n +
      (if d.isDigit then d.toNat - '0'.toNat else d.toLower.toNat - 'a'.toNat + 10)) 0

def isHexDigit (c : Char) : Bool :=
  c.isDigit || decide ('a' ≤ c.toLower ∧ c.toLower ≤ 'f')

/-- The character with a number in hexadecimal digits. -/
def charOfHex? (digits : List Char) : Option Char :=
  let n := valueOf 16 digits
  if n.isValidChar then some (Char.ofNat n) else none

/-- Reads hexadecimal digits after the letter at the cursor, so many of them or in braces. The
    escape starts at `first`. -/
def hexadecimal (first width : Nat) (cur : Cursor) : Except Misreading (Escaped × Cursor) :=
  let cur := cur.next
  let literal (digits : Text) (asByte : Bool) (last : Cursor) (fault : Misreading) :
      Except Misreading (Escaped × Cursor) :=
    match charOfHex? digits with
    | some c => .ok (.literal ⟨c, asByte, ⟨first, last.place⟩⟩, last)
    | none => .error fault
  if cur.isEnd then .error (cur.here .escapeUnfinished)
  else if cur.isAt '{' then
    let (digits, last) := cur.next.collectAll isHexDigit
    if last.isEnd then .error (last.since cur.place .escapeUnfinished)
    else if !last.isAt '}' then .error (last.here .hexDigitInvalid)
    else if digits.isEmpty then .error (last.next.since cur.place .hexEmpty)
    else literal digits false last.next (last.since (cur.place + 1) .hexNoCharacter)
  else
    let (digits, last) := cur.collect isHexDigit width
    if digits.length < width then
      .error (last.here (if last.isEnd then .escapeUnfinished else .hexDigitInvalid))
    else literal digits (width == 2) last (last.since cur.place .hexNoCharacter)

/-! ## Properties -/

/-- Reads the name of a property after the letter at the cursor: one letter, or a name in
    braces. -/
def property (first : Nat) (cur : Cursor) : Except Misreading (Escaped × Cursor) :=
  let cur := cur.next
  match cur.rest with
  | [] => .error (cur.here .escapeUnfinished)
  | '{' :: _ =>
    let (name, last) := cur.next.collectAll (· != '}')
    if last.isEnd then .error (last.here .escapeUnfinished)
    else .ok (.one (.property name ⟨first, last.place + 1⟩), last.skip 1)
  | '\\' :: _ => .error (cur.here .propertyInvalid)
  | c :: _ => .ok (.one (.property [c] ⟨first, cur.next.place⟩), cur.next)

/-! ## Places at words -/

/-- The names of places at words. -/
def wordPlaces : List (Text × WordPlace) :=
  [("start".toList, .start), ("end".toList, .finish), ("start-half".toList, .noWordBefore),
    ("end-half".toList, .noWordAfter)]

/-- Reads the name of a place at a word, if one stands in braces at the cursor. What does not
    start like a name is a count. -/
def wordPlace (first : Nat) (cur : Cursor) : Except Misreading (WordPlace × Cursor) :=
  if !cur.isAt '{' then .ok (.edge, cur)
  else
    let inside := cur.next
    let (name, last) := inside.collectAll fun c => c.isAlpha || c == '-'
    if inside.isEnd then .error (inside.since first .edgeUnfinished)
    else if name.isEmpty then .ok (.edge, cur)
    else if !last.isAt '}' then .error (last.since cur.place .edgeUnclosed)
    else
      match wordPlaces.lookup name with
      | some kind => .ok (kind, last.skip 1)
      | none => .error (last.since inside.place .edgeUnknown)

/-! ## Escapes -/

/-- Whether an escape of a character of ASCII stands for the character itself. -/
def isEscapable (c : Char) : Bool :=
  decide (c.toNat < 0x80) && !c.isAlphanum && c != '<' && c != '>'

/-- The characters that letters stand for. -/
def escapedChars : List (Char × Char) :=
  [('a', '\x07'), ('f', '\x0c'), ('t', '\t'), ('n', '\n'), ('r', '\r'), ('v', '\x0b')]

/-- The digits of ASCII. -/
def digitSet : CharSet := .ofRanges [('0'.toNat, '9'.toNat)]

/-- The blanks of ASCII: tab to carriage return, and the space. -/
def blankSet : CharSet := .ofRanges [(0x09, 0x0D), (0x20, 0x20)]

/-- The characters of words in ASCII. -/
def wordSet : CharSet :=
  .ofRanges [('0'.toNat, '9'.toNat), ('A'.toNat, 'Z'.toNat), ('_'.toNat, '_'.toNat),
    ('a'.toNat, 'z'.toNat)]

/-- Reads an escape at its backslash: what it stands for, and where it ends. -/
def escape (flags : Flags) (cur : Cursor) : Except Misreading (Escaped × Cursor) := do
  let first := cur.place
  let cur := cur.skip 1
  let after := cur.skip 1
  let span : Span := ⟨first, after.place⟩
  let shorthand (set : CharSet) (negated : Bool) : Except Misreading (Escaped × Cursor) :=
    .ok (.one (.shorthand set negated span), after)
  let place (p : Place) : Except Misreading (Escaped × Cursor) := .ok (.place p span, after)
  match cur.rest with
  | [] => .error (cur.since first .escapeUnfinished)
  | 'x' :: _ => hexadecimal first 2 cur
  | 'u' :: _ => hexadecimal first 4 cur
  | 'U' :: _ => hexadecimal first 8 cur
  | 'p' :: _ | 'P' :: _ => property first cur
  | 'd' :: _ => shorthand digitSet false
  | 'D' :: _ => shorthand digitSet true
  | 's' :: _ => shorthand blankSet false
  | 'S' :: _ => shorthand blankSet true
  | 'w' :: _ => shorthand wordSet false
  | 'W' :: _ => shorthand wordSet true
  | 'A' :: _ => place .textStart
  | 'z' :: _ => place .textEnd
  | 'b' :: _ =>
    let (kind, last) ← wordPlace first after
    .ok (.place (.word kind flags.ofBytes) ⟨first, last.place⟩, last)
  | 'B' :: _ => place (.word .noEdge flags.ofBytes)
  | '<' :: _ => place (.word .start flags.ofBytes)
  | '>' :: _ => place (.word .finish flags.ofBytes)
  | c :: _ =>
    match escapedChars.lookup c with
    | some d => .ok (.literal ⟨d, false, span⟩, after)
    | none =>
      if isEscapable c then .ok (.literal ⟨c, false, span⟩, after)
      else .error (after.since first (if c.isDigit then .backreference else .escapeUnknown))

end StyleScope.Log.Pattern
