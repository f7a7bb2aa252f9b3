/-
  StyleScope.Log.Pattern.Meaning

  What written patterns mean.

  `Written.toPattern` makes a pattern in normal form of a written one. Of what has no meaning,
  because it goes by tables of Unicode that are not held or because a class of bytes would hold
  parts of characters, the first that is read to its end is reported.
-/
import StyleScope.Log.Pattern.Normal
import StyleScope.Log.Pattern.Written

namespace StyleScope.Log.Pattern

open Text

/-! ## Classes under change of case -/

/-- The characters of a class while it is read. -/
structure Members where
  set : CharSet
  /-- Whether the set is known to hold its letters in either case. -/
  folded : Bool
deriving DecidableEq, Repr

namespace Members

def none : Members := ⟨⟨[]⟩, true⟩

/-- A set that was listed. -/
def ofSet (set : CharSet) : Members := ⟨set, set.ranges.isEmpty⟩

def union (m n : Members) : Members :=
  if n.set.ranges.isEmpty || m.set == n.set then m
  else ⟨m.set.union n.set, m.folded && n.folded⟩

def intersection (m n : Members) : Members :=
  if m.set.ranges.isEmpty then m
  else if n.set.ranges.isEmpty then none
  else ⟨m.set.intersection n.set, m.folded && n.folded⟩

def difference (m n : Members) : Members :=
  if m.set.ranges.isEmpty || n.set.ranges.isEmpty then m
  else ⟨m.set.difference n.set, m.folded && n.folded⟩

def complement (m : Members) : Members :=
  ⟨m.set.complement, m.folded || m.set.ranges.isEmpty⟩

def join (m n : Members) : Join → Members
  | .both => m.intersection n
  | .firstOnly => m.difference n
  | .justOne => (m.union n).difference (m.intersection n)

/-- The letters in either case. Letters of all scripts would need tables that are not held,
    unless there is nothing to change. -/
def fold (m : Members) (flags : Flags) (part : Span) : Except Misreading Members :=
  if !flags.eitherCase || m.folded then .ok m
  else if flags.ofBytes || m.set.ranges.isEmpty then .ok ⟨m.set.eitherCase, true⟩
  else .error (Fault.caseUnavailable.at part)

/-- All other characters. Of bytes these are parts of characters too. -/
def negate (m : Members) (flags : Flags) (part : Span) : Except Misreading Members :=
  if flags.ofBytes then .error (Fault.partOfCharacter.at part) else .ok m.complement

/-- The class in a part, negated or not. -/
def finish (m : Members) (flags : Flags) (negated : Bool) (part : Span) :
    Except Misreading Members := do
  let m ← m.fold flags part
  if negated then m.negate flags part else .ok m

end Members

/-! ## Characters -/

/-- A character of a class. In a class of bytes it is one of ASCII. -/
def Literal.toMember (l : Literal) (flags : Flags) : Except Misreading Nat :=
  if !flags.ofBytes || decide (l.char.toNat < 0x80) then .ok l.char.toNat
  else .error (Fault.at (if l.asByte then .partOfCharacter else .characterOfBytes) l.span)

/-- The pattern of a character. -/
def Literal.toPattern (l : Literal) (flags : Flags) : Except Misreading Pattern :=
  if flags.ofBytes && l.asByte && decide (0x80 ≤ l.char.toNat) then
    .error (Fault.partOfCharacter.at l.span)
  else if !flags.eitherCase then .ok (.text [l.char])
  else if flags.ofBytes then .ok (oneOf true (CharSet.single l.char).eitherCase)
  else .error (Fault.caseUnavailable.at l.span)

/-! ## Properties -/

/-- The name of a property in its shortest form: in small letters, without blanks, hyphens and
    underscores, and without a word `is` in front. -/
def propertyName (name : Text) : Text :=
  let name := if (name.take 2).map Char.toLower = "is".toList then name.drop 2 else name
  (name.filter fun c => decide (c.toNat < 0x80) && !" _-".toList.contains c).map Char.toLower

/-- Names that stand for a value of the general category before they stand for a property. -/
def categoryNames : List Text := ["cf".toList, "sc".toList, "lc".toList]

/-- What is missing for a property. -/
def propertyFault (name : Text) (flags : Flags) : Fault :=
  if flags.ofBytes then .characterOfBytes
  else if categoryNames.contains (propertyName name) then .propertyValueUnavailable
  else .propertyUnavailable

/-! ## Classes -/

mutual

/-- The characters of a class with those of a further item. -/
def ClassItem.addTo (flags : Flags) (m : Members) : ClassItem → Except Misreading Members
  | .nothing _ => .ok m
  | .literal l => do
    let n ← l.toMember flags
    .ok ⟨.ofRanges ((n, n) :: m.set.ranges), false⟩
  | .range low high => do
    let first ← low.toMember flags
    let last ← high.toMember flags
    .ok ⟨.ofRanges ((first, last) :: m.set.ranges), false⟩
  | .named set negated span => do
    .ok (m.union (← (Members.ofSet set).finish flags negated span))
  | .shorthand set negated span =>
    if !flags.ofBytes then .error (Fault.classUnavailable.at span)
    else if negated then .error (Fault.partOfCharacter.at span)
    else .ok (m.union (.ofSet set))
  | .property name span => .error ((propertyFault name flags).at span)
  | .bracketed inside negated span => do
    let inner ← inside.addTo flags .none
    .ok (m.union (← inner.finish flags negated span))
  | .union items _ => addAllTo flags m items
  | .joined join first second => do
    let a ← first.addTo flags .none
    let b ← second.addTo flags .none
    let b ← b.fold flags second.span
    let a ← a.fold flags first.span
    .ok (m.union (a.join b join))

/-- The characters of a class with those of further items. -/
def addAllTo (flags : Flags) (m : Members) : List ClassItem → Except Misreading Members
  | [] => .ok m
  | item :: rest => do addAllTo flags (← item.addTo flags m) rest

end

/-- The pattern of a class. -/
def ClassItem.toPattern (item : ClassItem) (flags : Flags) : Except Misreading Pattern := do
  .ok (oneOf flags.ofBytes (← item.addTo flags .none).set)

/-! ## Patterns -/

/-- The characters that a dot stands for. -/
def dotSet (flags : Flags) : CharSet :=
  if flags.anyLine then .all
  else (CharSet.ofRanges ((0x0A, 0x0A) :: if flags.returns then [(0x0D, 0x0D)] else [])).complement

mutual

/-- The pattern that a written one stands for. -/
def Written.toPattern : Written → Except Misreading Pattern
  | .nothing _ | .flags _ => .ok .empty
  | .literal flags l => l.toPattern flags
  | .dot flags span =>
    if flags.ofBytes then .error (Fault.partOfCharacter.at span)
    else .ok (oneOf false (dotSet flags))
  | .place p _ => .ok (.place p)
  | .one flags item => item.toPattern flags
  | .repeated part least most shortest _ => do
    .ok (repetition (← part.toPattern) least most shortest)
  | .group none part _ => part.toPattern
  | .group (some number) part _ => do .ok (.group number (← part.toPattern))
  | .sequence parts _ => do .ok (sequence (← toPatterns parts))
  | .alternatives parts _ => do .ok (alternatives (← toPatterns parts))

/-- The patterns that written ones stand for. -/
def toPatterns : List Written → Except Misreading (List Pattern)
  | [] => .ok []
  | part :: rest => do
    let p ← part.toPattern
    .ok (p :: (← toPatterns rest))

end

end StyleScope.Log.Pattern
