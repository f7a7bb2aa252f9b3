/-
  StyleScope.Log.Pattern.Cursor

  A place in a written pattern, and what stands behind it.

  Where blanks and comments have no meaning (`spaced`), `next` passes over them, so that they may
  stand between any two characters that are read with it. A comment runs from `#` to the end of
  its line.
-/
import StyleScope.Log.Pattern.Fault

namespace StyleScope.Log.Pattern

open Text

/-- A place in a written pattern, and the characters behind it. -/
structure Cursor where
  place : Nat
  rest : List Char
  /-- Whether blanks and comments have no meaning here. -/
  spaced : Bool

namespace Cursor

/-! ## Moving on -/

/-- The cursor so many characters further on. -/
def skip (cur : Cursor) (count : Nat) : Cursor :=
  { cur with place := cur.place + count, rest := cur.rest.drop count }

/-- The cursor behind all characters of a class that stand at it. -/
def skipWhile (cur : Cursor) (holds : Char → Bool) : Cursor :=
  cur.skip (cur.rest.takeWhile holds).length

/-- How many characters blanks and comments at the start of a text have. -/
def ignored (inComment : Bool) : List Char → Nat
  | [] => 0
  | c :: rest =>
    if inComment then ignored (c != '\n') rest + 1
    else if isBlank c then ignored false rest + 1
    else if c == '#' then ignored true rest + 1
    else 0

/-- The cursor behind the blanks and comments at it, if they have no meaning. -/
def skipIgnored (cur : Cursor) : Cursor :=
  if cur.spaced then cur.skip (ignored false cur.rest) else cur

/-- The cursor behind the next character and what has no meaning after it. -/
def next (cur : Cursor) : Cursor := (cur.skip 1).skipIgnored

/-- At most so many characters of a class, which are read one after the other, and the cursor
    behind them. -/
def collect (holds : Char → Bool) : Nat → Cursor → Text × Cursor
  | 0, cur => ([], cur)
  | count + 1, cur =>
    match cur.rest with
    | c :: _ =>
      if holds c then
        let (more, last) := collect holds count cur.next
        (c :: more, last)
      else ([], cur)
    | [] => ([], cur)

/-- All characters of a class that are read one after the other. -/
def collectAll (holds : Char → Bool) (cur : Cursor) : Text × Cursor :=
  collect holds cur.rest.length cur

/-! ## Looking ahead -/

def isEnd (cur : Cursor) : Bool := cur.rest.isEmpty

/-- Whether a character is next. -/
def isAt (cur : Cursor) (c : Char) : Bool := cur.rest.head? == some c

/-- The character that comes behind the next one, past blanks without meaning. Of a comment only
    the sign that starts it is passed over. -/
def afterNext? (cur : Cursor) : Option Char :=
  let behind := cur.rest.drop 1
  if cur.spaced then
    match behind.dropWhile isBlank with
    | [] => behind.head?
    | '#' :: rest => (rest.find? fun c => !isBlank c).or behind.head?
    | c :: _ => some c
  else behind.head?

/-! ## Faults at a cursor -/

/-- A fault from an earlier place up to the cursor. -/
def since (cur : Cursor) (first : Nat) (fault : Fault) : Misreading :=
  fault.between first cur.place

/-- A fault at the character after the cursor. -/
def here (cur : Cursor) (fault : Fault) : Misreading :=
  fault.between cur.place (cur.place + cur.rest.length.min 1)

end Cursor

end StyleScope.Log.Pattern
