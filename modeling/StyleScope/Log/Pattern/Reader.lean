/-
  StyleScope.Log.Pattern.Reader

  The written form of patterns: parts, groups and repetitions.

  A character stands for itself, but for `.`, which stands for any character of a line, classes
  in brackets, escapes after a backslash, the places `^` and `$`, groups in parentheses, `|`
  between alternatives, and the repetitions `?`, `*`, `+` and counts in braces. A group may have
  a name or set flags after `(?`.

  The text is read from left to right with the groups that are open on a stack, and every round
  reads at least one character, so as many rounds as there are characters suffice
  (`Written.ofText`). A pattern is then made of what was written, if it may take the room that it
  needs (`ofText`).
-/
import StyleScope.Log.Pattern.Bracket
import StyleScope.Log.Pattern.Meaning
import StyleScope.Log.Pattern.Size
import StyleScope.Text.Alphabetic

namespace StyleScope.Log.Pattern

open Text

/-! ## Flags -/

/-- The flags with one of them set or cleared. -/
def Flags.set? (flags : Flags) (letter : Char) (value : Bool) : Option Flags :=
  match letter with
  | 'i' => some { flags with eitherCase := value }
  | 's' => some { flags with anyLine := value }
  | 'm' => some { flags with everyLine := value }
  | 'R' => some { flags with returns := value }
  | 'U' => some { flags with shortest := value }
  | 'x' => some { flags with spaced := value }
  | 'u' => some { flags with ofBytes := !value }
  | _ => none

/-- Reads flags up to a colon or a parenthesis: the flags, and the place of that end. `seen`
    holds the letters that were read and their places. -/
def flagsFrom (flags : Flags) (value : Bool) (seen : List (Char × Nat)) (place : Nat) :
    List Char → Except Misreading (Flags × Nat)
  | [] => .error (Fault.flagsUnclosed.between place place)
  | c :: rest =>
    let here : Span := ⟨place, place + 1⟩
    if c = ':' ∨ c = ')' then
      match seen with
      | ('-', dash) :: _ => .error (Fault.negationDangling.between dash (dash + 1))
      | _ => .ok (flags, place)
    else
      match if c = '-' then some flags else flags.set? c value with
      | none => .error (Fault.flagUnknown.at here)
      | some changed =>
        match seen.lookup c with
        | some earlier =>
          .error ⟨if c = '-' then .negationRepeated else .flagDuplicate,
            [⟨earlier, earlier + 1⟩, here]⟩
        | none => flagsFrom changed (value && c ≠ '-') ((c, place) :: seen) (place + 1) rest

/-! ## Groups -/

/-- A group whose end was not read yet. -/
structure OpenGroup where
  /-- The place of its parenthesis. -/
  opened : Nat
  number : Option Nat
  /-- The flags in force around it. -/
  outer : Flags
  /-- Where its first alternative starts. -/
  start : Nat
  /-- Its finished alternatives, the last one first. -/
  alternatives : List Written
  /-- Where its unfinished alternative starts. -/
  current : Nat
  /-- The parts of its unfinished alternative, the last one first. -/
  parts : List Written

namespace OpenGroup

/-- A group that starts at a place. -/
def ofStart (opened : Nat) (number : Option Nat) (outer : Flags) (start : Nat) : OpenGroup :=
  ⟨opened, number, outer, start, [], start, []⟩

/-- The alternative that was read, when its end is at a place. -/
def alternative (g : OpenGroup) (last : Nat) : Written :=
  .ofParts ⟨g.current, last⟩ g.parts.reverse

/-- What the group holds, when its end is at a place. -/
def inside (g : OpenGroup) (last : Nat) : Written :=
  if g.alternatives.isEmpty then g.alternative last
  else .alternatives (g.alternative last :: g.alternatives).reverse ⟨g.start, last⟩

end OpenGroup

/-! ## What was read -/

/-- What was read of a written pattern. The last of the groups is the whole pattern. -/
structure Reading where
  /-- The innermost group. -/
  inner : OpenGroup
  /-- The groups around it, from the inside out. -/
  around : List OpenGroup
  flags : Flags
  /-- How many groups have numbers. -/
  numbered : Nat
  /-- The names of groups, and their places. -/
  names : List (Text × Nat)

namespace Reading

/-- Nothing was read. -/
def start : Reading := ⟨.ofStart 0 none .start 0, [], .start, 0, []⟩

/-- Adds a part to the unfinished alternative. -/
def add (r : Reading) (part : Written) : Reading :=
  { r with inner := { r.inner with parts := part :: r.inner.parts } }

/-- Starts a further alternative behind a bar at a place. -/
def split (r : Reading) (place : Nat) : Reading :=
  { r with inner := { r.inner with
      alternatives := r.inner.alternative place :: r.inner.alternatives
      current := place + 1
      parts := [] } }

/-- Opens a group with its flags. -/
def openGroup (r : Reading) (g : OpenGroup) (flags : Flags) : Reading :=
  { r with inner := g, around := r.inner :: r.around, flags := flags }

/-- Opens a group that gets the next number. -/
def openNumbered (r : Reading) (opened start : Nat) : Reading :=
  let number := r.numbered + 1
  { r.openGroup (.ofStart opened (some number) r.flags start) r.flags with numbered := number }

/-- Closes the innermost group at a parenthesis. -/
def closeGroup (r : Reading) (cur : Cursor) : Except Misreading Reading :=
  match r.around with
  | [] => .error (cur.here .groupUnopened)
  | outer :: around =>
    let g := r.inner
    let closed := { r with inner := outer, around := around, flags := g.outer }
    .ok (closed.add (.group g.number (g.inside cur.place) ⟨g.opened, cur.place + 1⟩))

/-- The last part, and the reading without it, if there is a part that the sign at the cursor can
    repeat. -/
def last (r : Reading) (cur : Cursor) : Except Misreading (Written × Reading) :=
  match r.inner.parts with
  | [] | .flags _ :: _ => .error (cur.since cur.place .repetitionMissing)
  | part :: parts => .ok (part, { r with inner := { r.inner with parts := parts } })

end Reading

/-! ## The start of a group -/

/-- Reads the name of a group up to its closing sign. -/
def groupName (r : Reading) (cur : Cursor) : Except Misreading (Text × Cursor) :=
  let starts (c : Char) : Bool := c == '_' || isAlphabetic c
  let continues (c : Char) : Bool :=
    c == '_' || c == '.' || c == '[' || c == ']' || isAlphanumeric c
  let last :=
    match cur.rest with
    | c :: _ => if starts c then (cur.skip 1).skipWhile continues else cur
    | [] => cur
  let name := cur.rest.take (last.place - cur.place)
  match last.rest with
  | [] => .error (last.here .groupNameUnclosed)
  | '>' :: _ =>
    if name.isEmpty then .error (cur.since cur.place .groupNameEmpty)
    else
      match r.names.lookup name with
      | some earlier =>
        .error ⟨.groupNameDuplicate,
          [⟨earlier, earlier + name.length⟩, ⟨cur.place, last.place⟩]⟩
      | none => .ok (name, last.skip 1)
  | _ => .error (last.here .groupNameInvalid)

/-- Reads the start of a group at its parenthesis, or flags in parentheses. -/
def groupStart (r : Reading) (cur : Cursor) : Except Misreading (Reading × Cursor) :=
  let inside := cur.next
  let named (after : Cursor) : Except Misreading (Reading × Cursor) := do
    let (name, last) ← groupName r after
    let r := { r with names := (name, after.place) :: r.names }
    .ok (r.openNumbered cur.place last.place, last)
  match inside.rest with
  | '?' :: '=' :: _ | '?' :: '!' :: _ => .error ((inside.skip 2).since cur.place .lookAround)
  | '?' :: '<' :: '=' :: _ | '?' :: '<' :: '!' :: _ =>
    .error ((inside.skip 3).since cur.place .lookAround)
  | '?' :: 'P' :: '<' :: _ => named (inside.skip 3)
  | '?' :: '<' :: _ => named (inside.skip 2)
  | ['?'] => .error (cur.here .groupUnclosed)
  | '?' :: rest => do
    let first := inside.place + 1
    let (flags, finish) ← flagsFrom r.flags true [] first rest
    let last := inside.skip (finish - inside.place)
    if last.isAt ':' then
      .ok (r.openGroup (.ofStart cur.place none r.flags (finish + 1)) flags, last.skip 1)
    -- Parentheses around a question mark alone repeat nothing.
    else if finish = first then .error (inside.since inside.place .repetitionMissing)
    else .ok ({ r.add (.flags ⟨cur.place, finish + 1⟩) with flags := flags }, last.skip 1)
  | _ => .ok (r.openNumbered cur.place inside.place, inside)

/-! ## Counts in braces -/

/-- Counts are smaller than this, the number of words of 32 bits. -/
def countLimit : Nat := 0x100000000

/-- Reads a number between blanks: the number, and where it ends. -/
def decimal (cur : Cursor) : Except Misreading Nat × Cursor :=
  let first := cur.skipWhile isBlank
  let (digits, last) := first.collectAll Char.isDigit
  let n := valueOf 10 digits
  let found : Except Misreading Nat :=
    if digits.isEmpty then .error (last.since first.place .countEmpty)
    else if countLimit ≤ n then .error (last.since first.place .countTooLarge)
    else .ok n
  (found, (last.collectAll isBlank).2)

/-- The cursor behind a question mark that prefers the shorter match, and whether there is
    one. -/
def preference (cur : Cursor) : Bool × Cursor :=
  if cur.isAt '?' then (true, cur.skip 1) else (false, cur)

/-- Reads a count at its brace: the least number of parts, the limit if there is one, and the
    closing brace. -/
def bounds (cur : Cursor) : Except Misreading (Nat × Option Nat × Cursor) := do
  let unclosed (last : Cursor) : Except Misreading (Nat × Option Nat × Cursor) :=
    .error (last.since cur.place .countUnclosed)
  let closed (least : Nat) (most : Option Nat) (last : Cursor) :
      Except Misreading (Nat × Option Nat × Cursor) :=
    if last.isAt '}' then .ok (least, most, last) else unclosed last
  let inside := cur.next
  if inside.isEnd then unclosed inside
  else
    let (least, after) := decimal inside
    if after.isEnd then unclosed after
    else if !after.isAt ',' then
      let least ← least
      closed least (some least) after
    else
      let behind := after.next
      if behind.isEnd then unclosed behind
      else
        let least ← least
        if behind.isAt '}' then closed least none behind
        else
          let (most, last) := decimal behind
          closed least (some (← most)) last

/-- Repeats the last part, with a sign for it at the cursor that ends in front of another. -/
def repeatLast (r : Reading) (cur : Cursor) (least : Nat) (most : Option Nat) (behind : Cursor) :
    Except Misreading (Reading × Cursor) := do
  let (part, rest) ← r.last cur
  let (shortest, after) := preference behind
  if most.any (· < least) then .error (after.since cur.place .countInvalid)
  else
    let span : Span := ⟨part.span.first, after.place⟩
    .ok (rest.add (.repeated part least most (shortest != r.flags.shortest) span), after)

/-! ## Patterns -/

/-- Reads the part at the cursor. -/
def readPart (r : Reading) (cur : Cursor) (c : Char) : Except Misreading (Reading × Cursor) := do
  let next := cur.skip 1
  let span : Span := ⟨cur.place, next.place⟩
  let place (p : Place) : Except Misreading (Reading × Cursor) := .ok (r.add (.place p span), next)
  match c with
  | '(' => groupStart r cur
  | ')' => .ok (← r.closeGroup cur, next)
  | '|' => .ok (r.split cur.place, next)
  | '[' =>
    let (item, after) ← bracketed r.flags cur
    .ok (r.add (.one r.flags item), after)
  | '?' => repeatLast r cur 0 (some 1) next
  | '*' => repeatLast r cur 0 none next
  | '+' => repeatLast r cur 1 none next
  | '{' =>
    -- A count with nothing to repeat is reported before the count itself.
    let _ ← r.last cur
    let (least, most, last) ← bounds cur
    repeatLast r cur least most last.next
  | '\\' =>
    let (found, after) ← escape r.flags cur
    match found with
    | .literal l => .ok (r.add (.literal r.flags l), after)
    | .one item => .ok (r.add (.one r.flags item), after)
    | .place p span => .ok (r.add (.place p span), after)
  | '.' => .ok (r.add (.dot r.flags span), next)
  | '^' => place (if r.flags.everyLine then .lineStart r.flags.returns else .textStart)
  | '$' => place (if r.flags.everyLine then .lineEnd r.flags.returns else .textEnd)
  | c => .ok (r.add (.literal r.flags ⟨c, false, span⟩), next)

/-- Reads on in a pattern from a place, and tells where it ends. -/
def readFrom : Nat → Reading → Cursor → Except Misreading (Reading × Cursor)
  | 0, r, cur => .ok (r, cur)
  | rounds + 1, r, cur => do
    let cur := { cur with spaced := r.flags.spaced }.skipIgnored
    match cur.rest with
    | [] => .ok (r, cur)
    | c :: _ =>
      let (r, after) ← readPart r cur c
      readFrom rounds r after

/-- Reads a written pattern. -/
def Written.ofText (written : Text) : Except Misreading Written := do
  let (r, last) ← readFrom (written.length + 1) .start ⟨0, written, false⟩
  if !r.around.isEmpty then
    .error (Fault.groupUnclosed.between r.inner.opened (r.inner.opened + 1))
  else
    let w := r.inner.inside last.place
    match w.tooDeep? 0 with
    | some part => .error (Fault.nestedTooDeep.at part)
    | none => .ok w

/-! ## Room -/

/-- Whether a pattern tells of places at words by the tables of Unicode, which are not held. -/
def asksForWords : Pattern → Bool
  | .place (.word _ ofBytes) => !ofBytes
  | .group _ part | .repeated part _ _ _ => part.asksForWords
  | .seq first rest | .either first rest => first.asksForWords || rest.asksForWords
  | .empty | .text _ | .one _ _ | .place _ => false

/-- The pattern itself if it can be matched in the room that there is. -/
def admitted (p : Pattern) : Except Refusal Pattern :=
  if sizeLimit < p.size false then .error .tooLarge
  else if p.asksForWords then .error .wordPlace
  else if sizeLimit < p.size true then .error .tooLarge
  else .ok p

/-- Reads a pattern. What is wrong with its form is reported before what it has no meaning for,
    and its size last. -/
def ofText (written : Text) : Except Refusal Pattern := do
  let w ← (Written.ofText written).mapError .misread
  let p ← w.toPattern.mapError .misread
  p.admitted

end StyleScope.Log.Pattern
