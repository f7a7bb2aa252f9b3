/-
  StyleScope.Text.ControlSequence

  Text as it is shown where control sequences have no meaning.

  A control sequence starts with the escape character. What follows tells its kind and where it
  ends:

    * `[` and then anything up to a character from `@` to `~`;
    * `]` and then anything up to a bell;
    * `P`, `X`, `^` or `_` and then anything up to a string terminator;
    * any other character, after any number of characters from the space to `/`.

  `plain` leaves out control sequences and the control characters that are not blanks. A blank
  control character inside a sequence is shown and the text after it too, up to the next control
  character; only then the sequence goes on.
-/
import StyleScope.Text.Basic

namespace StyleScope.Text

/-! ## Characters -/

/-- A control character of ASCII that is shown: tab, line feed, form feed, carriage return. -/
def isShownControl (c : Char) : Bool :=
  c == '\t' || c == '\n' || c == '\x0c' || c == '\r'

/-- A character that is shown outside control sequences. -/
def isPlain (c : Char) : Bool :=
  isShownControl c || (decide (0x20 ≤ c.toNat) && c.toNat != 0x7F)

/-- A character whose UTF-8 form holds the byte of the string terminator after its first byte. -/
def holdsTerminator (c : Char) : Bool :=
  let n := c.toNat
  (decide (0x80 ≤ n) && n % 64 == 0x1C) || (decide (0x800 ≤ n) && n / 64 % 64 == 0x1C) ||
    (decide (0x10000 ≤ n) && n / 4096 % 64 == 0x1C)

/-! ## Inside a sequence -/

/-- How far a control sequence was read. -/
inductive Stage where
  /-- Outside sequences. -/
  | outside
  /-- After the escape character. -/
  | escape
  /-- After the escape character and characters from the space to `/`. -/
  | intermediate
  /-- In a sequence that `[` started. -/
  | control
  /-- After the `P` of a device control. -/
  | deviceStart
  /-- In the numbers of a device control. -/
  | deviceNumbers
  /-- After the numbers of a device control. -/
  | deviceIntermediate
  /-- In a string that ends with a string terminator. -/
  | string
  /-- In a string that ends with a bell. -/
  | bellString
deriving DecidableEq, Repr

namespace Stage

/-- Whether a character is shown at this stage. -/
def shows (stage : Stage) (c : Char) : Bool :=
  match stage with
  | .outside => isPlain c
  | .escape | .intermediate | .control => isShownControl c
  | .deviceStart | .deviceNumbers | .deviceIntermediate | .string | .bellString => false

/-- The stage after the escape character and one more character of ASCII that is no control
    character. -/
def afterEscape (c : Char) : Stage :=
  if c.toNat < 0x30 then .intermediate
  else if c = '[' then .control
  else if c = ']' then .bellString
  else if c = 'P' then .deviceStart
  else if c = 'X' ∨ c = '^' ∨ c = '_' then .string
  else .outside

/-- The stage after a character of ASCII that starts no sequence. -/
def afterAscii (stage : Stage) (c : Char) : Stage :=
  let n := c.toNat
  if n < 0x20 ∨ n = 0x7F then
    -- Of the control characters only the bell ends something.
    if stage = .bellString ∧ n = 0x07 then .outside else stage
  else
    match stage with
    | .outside => .outside
    | .escape => afterEscape c
    | .intermediate => if n < 0x30 then .intermediate else .outside
    | .control => if n < 0x40 then .control else .outside
    | .deviceStart =>
      if n < 0x30 then .deviceIntermediate else if n < 0x40 then .deviceNumbers else .string
    | .deviceNumbers =>
      if n < 0x30 then .deviceIntermediate else if n < 0x3C then .deviceNumbers else .string
    | .deviceIntermediate => if n < 0x30 then .deviceIntermediate else .string
    | .string => .string
    | .bellString => .bellString

/-- The stage after a character. -/
def next (stage : Stage) (c : Char) : Stage :=
  if c = '\x1b' then .escape
  -- The cancel and the substitute character break off any sequence.
  else if c = '\x18' ∨ c = '\x1a' then .outside
  else if c.toNat < 0x80 then stage.afterAscii c
  else if stage = .string ∧ holdsTerminator c then .outside
  else stage

end Stage

/-! ## What is shown -/

/-- What is shown of a text that is read from a stage on. While text is being shown it goes on
    as it would outside sequences. -/
def plainFrom : Stage → Bool → Text → Text
  | _, _, [] => []
  | stage, showing, c :: rest =>
    if stage.shows c || (showing && isPlain c) then
      -- A character outside ASCII ends the sequence that a shown control character cut off.
      c :: plainFrom (if c.toNat < 0x80 then stage else .outside) true rest
    else
      plainFrom (stage.next c) false rest

/-- What is shown of a text. -/
def plain (t : Text) : Text := plainFrom .outside false t

end StyleScope.Text
