/-
  StyleScope.Log.Pattern.Size

  How much room a pattern takes.

  A pattern is matched by a machine with states, which knows forward from its start and in
  reverse from its end. The room for the machine is counted in bytes: for every state, for every
  range of bytes that leads from it to others, and for every state that it may go on to without
  reading. A part that is repeated takes room for every repetition that is counted out, so that a
  short pattern can ask for more room than there is (`sizeLimit`).
-/
import StyleScope.Log.Pattern.Normal
import StyleScope.Text.CharSet
import StyleScope.Text.Utf8

namespace StyleScope.Log.Pattern

open Text

/-! ## States -/

/-- The room for a state. -/
def stateSize : Nat := 32

/-- The room for a state that leads on over several ranges of bytes. -/
def rangesSize (count : Nat) : Nat := stateSize + 8 * count

/-- The room for a state that goes on to several states. -/
def forkSize (count : Nat) : Nat := stateSize + 4 * count

/-- The room for several things. -/
def total (sizes : List Nat) : Nat := sizes.foldl (· + ·) 0

/-! ## Classes -/

/-- The sequences that start with the same range, as that range and what follows it. -/
def byFirst : List (List ByteRange) → List (ByteRange × List (List ByteRange))
  | [] => []
  | [] :: rest => byFirst rest
  | (range :: more) :: rest =>
    match byFirst rest with
    | (first, tails) :: groups =>
      if first = range then (range, more :: tails) :: groups
      else (range, [more]) :: (first, tails) :: groups
    | [] => [(range, [more])]

/-- The sets of sequences that remain after each range of bytes, without the finished ones. -/
def remaining : Nat → List (List ByteRange) → List (List (List ByteRange))
  | 0, _ => []
  | rounds + 1, sequences =>
    let groups := byFirst sequences
    if groups.isEmpty then []
    else sequences :: groups.flatMap fun (_, tails) => remaining rounds tails

/-- The room for a class of characters outside ASCII. Forward, what follows different ranges of
    bytes shares its states; in reverse, what starts with the same ranges does. -/
def classSize (inReverse : Bool) (sequences : List (List ByteRange)) : Nat :=
  if inReverse then
    let starts := sequences.flatMap fun sequence =>
      (List.range sequence.length).map fun count => sequence.take (count + 1)
    stateSize + starts.eraseDups.length * stateSize + forkSize sequences.length
  else
    -- No character has more than four bytes.
    let states := (remaining 4 sequences).eraseDups
    stateSize + total (states.map fun state => rangesSize (byFirst state).length)

/-! ## Alternative texts -/

/-- What is left of the words with the same first byte, one list for each such byte. -/
def byFirstByte (words : List (List UInt8)) : List (List (List UInt8)) :=
  (words.filterMap List.head?).eraseDups.map fun b =>
    words.filterMap fun word => if word.head? = some b then some word.tail else none

/-- The words before, between and after those that end here. What ends here before any other
    word does so once. -/
def chunks (words : List (List UInt8)) : List (List (List UInt8)) :=
  let longer := words.dropWhile List.isEmpty
  (if words.head? = some [] then [] :: longer else longer).splitOn []

/-- The room for what is left of words that all lead to one state. -/
def wordsSize : Nat → List (List UInt8) → Nat
  | 0, _ => 0
  | rounds + 1, words =>
    let chunkSize (groups : List (List (List UInt8))) : Nat :=
      (if groups.length ≤ 1 then groups.length * stateSize else rangesSize groups.length) +
        total (groups.map (wordsSize rounds))
    let pieces := (chunks words).map byFirstByte
    let ways := (pieces.filter fun groups => !groups.isEmpty).length + (pieces.length - 1)
    total (pieces.map chunkSize) + if ways ≤ 1 then 0 else forkSize ways

/-- The room for alternatives that are all texts. -/
def textsSize (inReverse : Bool) (texts : List Text) : Nat :=
  let words := texts.map fun t =>
    let bytes := (encode t).toList
    if inReverse then bytes.reverse else bytes
  stateSize + wordsSize (total (words.map List.length) + 1) words

/-! ## Patterns -/

/-- The texts of alternatives that are all texts. -/
def texts? (p : Pattern) : Option (List Text) :=
  p.choices.mapM fun q =>
    match q with
    | .text t => some t
    | _ => none

/-- The room for a repetition, from the room for the part. `mayBeEmpty` tells whether the part
    may match no character. -/
def repetitionSize (part : Nat) (mayBeEmpty : Bool) (least : Nat) : Option Nat → Nat
  | none =>
    if least ≠ 0 then least * part + forkSize 2
    else if mayBeEmpty then part + 2 * forkSize 2 + stateSize
    else part + forkSize 2
  | some most =>
    if most ≤ least then most * part
    else
      (if least = 0 then 0 else least * part) + (most - least) * (part + forkSize 2) +
        if least = 0 ∧ most ≠ 1 then 2 * stateSize else stateSize

/-- The room for the states of a pattern in normal form. `further` tells whether the pattern
    stands after the first of alternatives, whose fork is counted there. -/
def sizeOf (inReverse : Bool) : Pattern → Bool → Nat
  | .empty, _ | .place _, _ => stateSize
  | .text t, _ => stateSize * byteLength t
  | .one ofBytes set, _ =>
    if ofBytes || set.ranges.all fun r => decide (r.2 < 0x80) then
      stateSize + rangesSize set.ranges.length
    else classSize inReverse set.byteRanges
  | .group _ part, _ => part.sizeOf inReverse false + if inReverse then 0 else 2 * stateSize
  | .repeated part least most _, _ =>
    repetitionSize (part.sizeOf inReverse false) (part.leastLength?.getD 0 == 0) least most
  | .seq first rest, _ => first.sizeOf inReverse false + rest.sizeOf inReverse false
  | .either first rest, further =>
    let both := first.sizeOf inReverse false + rest.sizeOf inReverse true
    if further then both
    else
      match texts? (.either first rest) with
      | some texts => textsSize inReverse texts
      | none => both + forkSize (choices (.either first rest)).length + stateSize

/-! ## Machines -/

/-- Whether a pattern only matches from the start of a text, as its first places tell. -/
def startsText : Pattern → Bool
  | .place p => p == .textStart
  | .group _ part => part.startsText
  | .repeated part least _ _ => decide (0 < least) && part.startsText
  | .seq first rest => first.startsText || first.isPlaces && rest.startsText
  | .either first rest => first.startsText && rest.startsText
  | _ => false

/-- Whether a pattern only matches up to the end of a text, as its last places tell. -/
def endsText : Pattern → Bool
  | .place p => p == .textEnd
  | .group _ part => part.endsText
  | .repeated part least _ _ => decide (0 < least) && part.endsText
  | .seq first rest => rest.endsText || rest.isPlaces && first.endsText
  | .either first rest => first.endsText && rest.endsText
  | _ => false

/-- The room for the whole machine. It starts by passing over the text before the match, if there
    can be any, and ends in a state of its own. -/
def size (p : Pattern) (inReverse : Bool) : Nat :=
  let atEnd := if inReverse then p.endsText else p.startsText
  let passing := if atEnd then stateSize else stateSize + forkSize 2 + rangesSize 1
  let ends := if inReverse then stateSize else 3 * stateSize
  passing + p.sizeOf inReverse false + ends

/-- The room that a machine may take. -/
def sizeLimit : Nat := 10485760

end StyleScope.Log.Pattern
