/-
  StyleScope.Log.Pattern.Bracket

  The written form of patterns: classes of characters in brackets.

  A class lists characters, ranges, escapes, named classes such as `[:alpha:]` and further
  classes in brackets. `^` at its start stands for all other characters; `&&`, `--` and `~~` join
  what stands before and after them, from left to right. Hyphens at the start of a class, and a
  closing bracket if it is the first character, stand for themselves.
-/
import StyleScope.Log.Pattern.Escape

namespace StyleScope.Log.Pattern

open Text

/-! ## Named classes -/

/-- The classes of ASCII that have names. -/
def namedClasses : List (Text × CharSet) :=
  let letters : List (Nat × Nat) := [('A'.toNat, 'Z'.toNat), ('a'.toNat, 'z'.toNat)]
  let digits : Nat × Nat := ('0'.toNat, '9'.toNat)
  [("alnum".toList, .ofRanges (digits :: letters)),
    ("alpha".toList, .ofRanges letters),
    ("ascii".toList, .ofRanges [(0, 0x7F)]),
    ("blank".toList, .ofRanges [(0x09, 0x09), (0x20, 0x20)]),
    ("cntrl".toList, .ofRanges [(0, 0x1F), (0x7F, 0x7F)]),
    ("digit".toList, digitSet),
    ("graph".toList, .ofRanges [('!'.toNat, '~'.toNat)]),
    ("lower".toList, .ofRanges [('a'.toNat, 'z'.toNat)]),
    ("print".toList, .ofRanges [(' '.toNat, '~'.toNat)]),
    ("punct".toList, .ofRanges [('!'.toNat, '/'.toNat), (':'.toNat, '@'.toNat),
      ('['.toNat, 0x60), (0x7B, '~'.toNat)]),
    ("space".toList, blankSet),
    ("upper".toList, .ofRanges [('A'.toNat, 'Z'.toNat)]),
    ("word".toList, wordSet),
    ("xdigit".toList, .ofRanges [digits, ('A'.toNat, 'F'.toNat), ('a'.toNat, 'f'.toNat)])]

/-- The named class at a place, if one stands there, and where it ends. -/
def namedClass? (cur : Cursor) : Option (ClassItem × Cursor) :=
  match cur.rest with
  | '[' :: ':' :: rest =>
    let negated := rest.head? == some '^'
    let first := cur.skip (if negated then 3 else 2)
    let last := first.skipWhile (· != ':')
    match last.rest, namedClasses.lookup (first.rest.take (last.place - first.place)) with
    | ':' :: ']' :: _, some set =>
      some (.named set negated ⟨cur.place, last.place + 2⟩, last.skip 2)
    | _, _ => none
  | _ => none

/-! ## Items -/

/-- What an escape stands for as an item of a class. -/
def Escaped.toItem : Escaped → Except Misreading ClassItem
  | .literal l => .ok (.literal l)
  | .one item => .ok item
  | .place _ span => .error (Fault.classEscape.at span)

/-- What an escape stands for at an end of a range. -/
def Escaped.toLiteral : Escaped → Except Misreading Literal
  | .literal l => .ok l
  | .one item => .error (Fault.rangeNotLiteral.at item.span)
  | .place _ span => .error (Fault.rangeNotLiteral.at span)

/-- The range between two ends. -/
def rangeBetween (low high : Escaped) : Except Misreading ClassItem := do
  let a ← low.toLiteral
  let b ← high.toLiteral
  if b.char < a.char then .error (Fault.rangeInvalid.between a.span.first b.span.last)
  else .ok (.range a b)

/-! ## Open classes -/

/-- A class whose end was not read yet. -/
structure OpenClass where
  /-- From its bracket to where its items start. -/
  opened : Span
  negated : Bool
  /-- What stands before the last operator, and the operator. -/
  before : Option (ClassItem × Join)
  /-- Where the items since the last operator start. -/
  start : Nat
  /-- The items since the last operator, the last one first. -/
  items : List ClassItem

namespace OpenClass

/-- Adds an item. -/
def add (o : OpenClass) (item : ClassItem) : OpenClass := { o with items := item :: o.items }

/-- The items since the last operator, joined with what stands before it. -/
def inside (o : OpenClass) : ClassItem :=
  let items := ClassItem.ofItems o.start o.items.reverse
  match o.before with
  | some (first, join) => .joined join first items
  | none => items

/-- Reads an operator that ends at a place. -/
def joinBy (o : OpenClass) (join : Join) (place : Nat) : OpenClass :=
  { o with before := some (o.inside, join), start := place, items := [] }

/-- The class that was read, when its end is at a place. -/
def close (o : OpenClass) (last : Nat) : ClassItem :=
  .bracketed o.inside o.negated ⟨o.opened.first, last⟩

/-- The end of the class is missing. -/
def unclosed (o : OpenClass) : Misreading := Fault.classUnclosed.at o.opened

/-- Reads hyphens that stand for themselves: those read, the last one first. -/
def hyphens : Nat → List ClassItem → Cursor → List ClassItem × Cursor
  | 0, items, cur => (items, cur)
  | count + 1, items, cur =>
    if cur.isAt '-' then
      hyphens count (.literal ⟨'-', false, ⟨cur.place, cur.place + 1⟩⟩ :: items) cur.next
    else (items, cur)

/-- Reads the start of a class at its bracket. -/
def read (cur : Cursor) : Except Misreading (OpenClass × Cursor) :=
  let negated := cur.next.isAt '^'
  let inside := if negated then cur.next.next else cur.next
  let (items, after) := hyphens inside.rest.length [] inside
  let literal := items.isEmpty && after.isAt ']'
  let items := if literal then [.literal ⟨']', false, ⟨after.place, after.place + 1⟩⟩] else items
  let after := if literal then after.next else after
  let opened : Span := ⟨cur.place, after.place⟩
  if !after.isEnd then .ok (⟨opened, negated, none, inside.place, items⟩, after)
  else if items.isEmpty || literal then .error (Fault.classUnclosed.at opened)
  -- After hyphens alone only the bracket is shown.
  else .error (Fault.classUnclosed.between cur.place cur.place)

end OpenClass

/-! ## Classes -/

/-- Reads a character or an escape at a place. -/
def readItem (o : OpenClass) (flags : Flags) (cur : Cursor) :
    Except Misreading (Escaped × Cursor) :=
  match cur.rest with
  | [] => .error o.unclosed
  | '\\' :: _ => escape flags cur
  | c :: _ => .ok (.literal ⟨c, false, ⟨cur.place, cur.place + 1⟩⟩, cur.skip 1)

/-- Reads an item or a range at a place, and tells where it ends. -/
def itemOrRange (o : OpenClass) (flags : Flags) (cur : Cursor) :
    Except Misreading (ClassItem × Cursor) := do
  let (low, after) ← readItem o flags cur
  let after := after.skipIgnored
  -- A hyphen in front of another one belongs to an operator.
  if after.isEnd then .error o.unclosed
  else if !after.isAt '-' || after.afterNext? == some ']' || after.afterNext? == some '-' then
    .ok (← low.toItem, after)
  else
    let (high, last) ← readItem o flags after.next
    .ok (← rangeBetween low high, last)

/-- Reads on in a class, with the classes around it, up to the end of the outermost one. Every
    round reads a character. -/
def classFrom (flags : Flags) :
    Nat → OpenClass → List OpenClass → Cursor → Except Misreading (ClassItem × Cursor)
  | 0, o, _, _ => .error o.unclosed
  | rounds + 1, o, around, cur => do
    let cur := cur.skipIgnored
    let joined (join : Join) : Except Misreading (ClassItem × Cursor) :=
      classFrom flags rounds (o.joinBy join (cur.place + 2)) around (cur.skip 2)
    match cur.rest with
    | [] => .error o.unclosed
    | '[' :: _ =>
      match namedClass? cur with
      | some (item, after) => classFrom flags rounds (o.add item) around after
      | none =>
        let (inner, after) ← OpenClass.read cur
        classFrom flags rounds inner (o :: around) after
    | ']' :: _ =>
      let item := o.close (cur.place + 1)
      match around with
      | [] => .ok (item, cur.skip 1)
      | outer :: around => classFrom flags rounds (outer.add item) around (cur.skip 1)
    | '&' :: '&' :: _ => joined .both
    | '-' :: '-' :: _ => joined .firstOnly
    | '~' :: '~' :: _ => joined .justOne
    | _ =>
      let (item, after) ← itemOrRange o flags cur
      classFrom flags rounds (o.add item) around after

/-- Reads a class in brackets at its place, and tells where it ends. -/
def bracketed (flags : Flags) (cur : Cursor) : Except Misreading (ClassItem × Cursor) := do
  let (o, after) ← OpenClass.read cur
  classFrom flags (cur.rest.length + 1) o [] after

end StyleScope.Log.Pattern
