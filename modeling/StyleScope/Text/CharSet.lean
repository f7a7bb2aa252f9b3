/-
  StyleScope.Text.CharSet

  Sets of characters, as ranges of code points.

  The ranges of a set are in ascending order, and a code point lies between any two of them.
  Ranges are put into this form by `insertRange`, which joins what overlaps or touches.

  The code points of surrogates are no characters, so that `next` and `previous` pass over them.

  The UTF-8 forms of the characters in a range are the sequences of bytes with one byte from
  each of several ranges, if the range is cut where the forms get longer, at the surrogates, and
  wherever a byte but the last would not run through all its values. `byteRanges` cuts a range of
  characters in this way, and lists the sequences of ranges of bytes in ascending order.
-/
import StyleScope.Text.Basic

namespace StyleScope.Text

/-- A set of characters, by the first and the last code point of each range. -/
structure CharSet where
  ranges : List (Nat × Nat)
deriving DecidableEq, Repr

namespace CharSet

/-! ## Code points -/

/-- The last code point. -/
def lastCode : Nat := 0x10FFFF

/-- The code point of the next character. -/
def next (n : Nat) : Nat := if n = 0xD7FF then 0xE000 else n + 1

/-- The code point of the character before. -/
def previous (n : Nat) : Nat := if n = 0xE000 then 0xD7FF else n - 1

/-- Whether a range holds a code point. -/
def within (range : Nat × Nat) (n : Nat) : Bool := decide (range.1 ≤ n) && decide (n ≤ range.2)

/-- Whether a set holds a character. -/
def contains (s : CharSet) (c : Char) : Bool := s.ranges.any fun range => within range c.toNat

/-! ## Ranges in order -/

/-- Whether two ranges have a code point in common or none between them. -/
def touch (r s : Nat × Nat) : Bool := decide (max r.1 s.1 ≤ min r.2 s.2 + 1)

/-- Adds a range to ranges in order. -/
def insertRange : Nat × Nat → List (Nat × Nat) → List (Nat × Nat)
  | r, [] => [r]
  | r, s :: rest =>
    if touch r s then insertRange (min r.1 s.1, max r.2 s.2) rest
    else if r.1 < s.1 then r :: s :: rest
    else s :: insertRange r rest

/-- The set of the characters in some ranges. -/
def ofRanges (ranges : List (Nat × Nat)) : CharSet := ⟨ranges.foldr insertRange []⟩

/-- The set of one character. -/
def single (c : Char) : CharSet := ⟨[(c.toNat, c.toNat)]⟩

/-- The set of all characters. -/
def all : CharSet := ⟨[(0, lastCode)]⟩

/-- The only character of a set, if it has just one. -/
def only? (s : CharSet) : Option Char :=
  match s.ranges with
  | [(first, last)] => if first = last then some (Char.ofNat first) else none
  | _ => none

/-! ## Joining sets -/

/-- The characters in one of two sets. -/
def union (s t : CharSet) : CharSet := ofRanges (s.ranges ++ t.ranges)

/-- The characters in both of two sets. -/
def intersection (s t : CharSet) : CharSet :=
  ⟨s.ranges.flatMap fun r =>
    t.ranges.flatMap fun q =>
      if max r.1 q.1 ≤ min r.2 q.2 then [(max r.1 q.1, min r.2 q.2)] else []⟩

/-- What a range leaves of another one. -/
def leaves (taken r : Nat × Nat) : List (Nat × Nat) :=
  (if r.1 < taken.1 then [(r.1, min r.2 (previous taken.1))] else []) ++
    if taken.2 < r.2 then [(max r.1 (next taken.2), r.2)] else []

/-- The characters of a set that another one does not hold. -/
def difference (s t : CharSet) : CharSet :=
  ⟨t.ranges.foldl (fun rest taken => rest.flatMap (leaves taken)) s.ranges⟩

/-- What lies between ranges in order and after them, behind a code point. Between two ranges
    that only surrogates part, the ends that face each other change places. -/
def gapsAfter (last : Nat) : List (Nat × Nat) → List (Nat × Nat)
  | [] => if last < lastCode then [(next last, lastCode)] else []
  | r :: rest =>
    (min (next last) (previous r.1), max (next last) (previous r.1)) :: gapsAfter r.2 rest

/-- The characters that a set does not hold. -/
def complement (s : CharSet) : CharSet :=
  match s.ranges with
  | [] => all
  | r :: rest => ⟨(if 0 < r.1 then [(0, previous r.1)] else []) ++ gapsAfter r.2 rest⟩

/-! ## Case -/

/-- The part of a range between two letters of ASCII, moved so that the first letter becomes
    another one. -/
def shifted (first last goal : Char) (r : Nat × Nat) : List (Nat × Nat) :=
  let low := max r.1 first.toNat
  let high := min r.2 last.toNat
  if low ≤ high then [(low - first.toNat + goal.toNat, high - first.toNat + goal.toNat)] else []

/-- A set with the letters of ASCII in either case. -/
def eitherCase (s : CharSet) : CharSet :=
  ofRanges (s.ranges ++
    s.ranges.flatMap fun r => shifted 'a' 'z' 'A' r ++ shifted 'A' 'Z' 'a' r)

end CharSet

/-! ## Ranges of bytes -/

/-- The first and the last value of a byte. -/
abbrev ByteRange := Nat × Nat

/-- The UTF-8 bytes of a code point. -/
def utf8Bytes (n : Nat) : List Nat :=
  let tail (k : Nat) : Nat := 0x80 + n / k % 0x40
  if n < 0x80 then [n]
  else if n < 0x800 then [0xC0 + n / 0x40, tail 1]
  else if n < 0x10000 then [0xE0 + n / 0x1000, tail 0x40, tail 1]
  else [0xF0 + n / 0x40000, tail 0x1000, tail 0x40, tail 1]

/-- Where to cut a range of code points: the last code point of the first piece and the first of
    the second, if it has to be cut. -/
def cut? (first last : Nat) : Option (Nat × Nat) :=
  if first < 0xE000 ∧ 0xD7FF < last then some (0xD7FF, 0xE000)
  else
    match [0x7F, 0x7FF, 0xFFFF].find? fun finish => decide (first ≤ finish ∧ finish < last) with
    | some finish => some (finish, finish + 1)
    | none =>
      if last ≤ 0x7F then none
      else
        ([0x40, 0x1000, 0x40000].filterMap fun block =>
          if first / block = last / block then none
          else if first % block ≠ 0 then
            some ((first / block + 1) * block - 1, (first / block + 1) * block)
          else if last % block ≠ block - 1 then
            some (last / block * block - 1, last / block * block)
          else none).head?

/-- The sequences of ranges of bytes for a range of code points. Every round cuts one in two. -/
def byteRangesFrom : Nat → Nat → Nat → List (List ByteRange)
  | 0, first, last => [(utf8Bytes first).zip (utf8Bytes last)]
  | rounds + 1, first, last =>
    match cut? first last with
    | some (finish, start) => byteRangesFrom rounds first finish ++ byteRangesFrom rounds start last
    | none => [(utf8Bytes first).zip (utf8Bytes last)]

/-- The sequences of ranges of bytes for a set of characters. -/
def CharSet.byteRanges (s : CharSet) : List (List ByteRange) :=
  s.ranges.flatMap fun r => byteRangesFrom (r.2 - r.1) r.1 r.2

end StyleScope.Text
