/-
  StyleScope.Log.Pattern

  Patterns of text, and whether one occurs in a text.

  A pattern is matched against a text by the places it leads to: `reach` takes the places marked
  in a list, which are one more than the text has characters, to all places that a part matching
  the pattern can end at. A repetition first makes the steps it must make (`stepped`), then adds
  places until no new one is found or no more steps are allowed (`closure`). A pattern occurs in
  a text if it leads from any place to any other (`occursIn`).
-/
import StyleScope.Text.CharSet

namespace StyleScope.Log

open Text

/-! ## Places in a text -/

/-- How a place lies to a word. -/
inductive WordPlace where
  | edge
  | noEdge
  | start
  | finish
  | noWordBefore
  | noWordAfter
deriving DecidableEq, Repr

/-- What a pattern can tell of a place. -/
inductive Place where
  | textStart
  | textEnd
  /-- The start of a line; `returns` tells whether lines can end in a carriage return too. -/
  | lineStart (returns : Bool)
  | lineEnd (returns : Bool)
  /-- A place at a word, of the letters of ASCII or of all letters. -/
  | word (kind : WordPlace) (ofBytes : Bool)
deriving DecidableEq, Repr

/-- A character in words: letters, digits and the underscore, of ASCII. -/
def isWordChar (c : Char) : Bool := c.isAlphanum || c == '_'

/-- Whether a place lies so, by whether a word character is before it and after it. -/
def WordPlace.holds : WordPlace → Bool → Bool → Bool
  | .edge, before, after => before != after
  | .noEdge, before, after => before == after
  | .start, before, after => !before && after
  | .finish, before, after => before && !after
  | .noWordBefore, before, _ => !before
  | .noWordAfter, _, after => !after

/-- Whether it is true of the place between two characters. A carriage return and a line feed
    end a line together. -/
def Place.holds : Place → Option Char → Option Char → Bool
  | .textStart, before, _ => before.isNone
  | .textEnd, _, after => after.isNone
  | .lineStart false, before, _ => before.all (· == '\n')
  | .lineStart true, before, after =>
    before.all fun c => c == '\n' || c == '\r' && after != some '\n'
  | .lineEnd false, _, after => after.all (· == '\n')
  | .lineEnd true, before, after =>
    after.all fun c => c == '\r' || c == '\n' && before != some '\r'
  | .word kind _, before, after => kind.holds (before.any isWordChar) (after.any isWordChar)

/-! ## Patterns -/

/-- A pattern of text. -/
inductive Pattern where
  /-- Nothing at all. -/
  | empty
  /-- These characters. -/
  | text (t : Text)
  /-- One character of a set; `ofBytes` tells whether it is a set of bytes. -/
  | one (ofBytes : Bool) (set : CharSet)
  | place (p : Place)
  /-- A part that has a number. -/
  | group (number : Nat) (part : Pattern)
  /-- At least so many parts, and no more than so many if there is a limit; `shortest` tells
      whether fewer parts are preferred. -/
  | repeated (part : Pattern) (least : Nat) (most : Option Nat) (shortest : Bool)
  | seq (first rest : Pattern)
  | either (first rest : Pattern)
deriving DecidableEq, Repr

namespace Pattern

/-! ## Matching -/

/-- The places that so many steps lead to. -/
def stepped (step : List Bool → List Bool) : Nat → List Bool → List Bool
  | 0, places => places
  | count + 1, places =>
    let found := step places
    -- Further steps lead to the same places again.
    if found = places then places else stepped step count found

/-- The places that at most so many steps lead to. -/
def closure (step : List Bool → List Bool) : Nat → List Bool → List Bool
  | 0, places => places
  | count + 1, places =>
    let found := places.zipWith (· || ·) (step places)
    if found = places then places else closure step count found

/-- The places behind a character of the text for which something is true. -/
def after (text : Text) (holds : Char → Bool) (places : List Bool) : List Bool :=
  false :: places.zipWith (fun place c => place && holds c) text

/-- The characters before and after every place of a text. -/
def sides (text : Text) : List (Option Char × Option Char) :=
  (none :: text.map some).zip (text.map some ++ [none])

/-- The places at which parts of the text can end that start at one of the given places and
    match the pattern. -/
def reach (text : Text) : Pattern → List Bool → List Bool
  | .empty, places => places
  | .text t, places => t.foldl (fun places c => after text (· == c) places) places
  | .one _ set, places => after text set.contains places
  | .place p, places =>
    places.zipWith (fun place side => place && p.holds side.1 side.2) (sides text)
  | .group _ part, places => reach text part places
  | .repeated part least most _, places =>
    -- Every step of the second kind finds a new place, so there are no more than places.
    let further := most.elim (text.length + 1) (· - least)
    let step := fun found => reach text part found
    closure step further (stepped step least places)
  | .seq first rest, places => reach text rest (reach text first places)
  | .either first rest, places =>
    (reach text first places).zipWith (· || ·) (reach text rest places)

/-- Whether some part of the text matches the pattern. -/
def occursIn (p : Pattern) (text : Text) : Bool :=
  (p.reach text (List.replicate (text.length + 1) true)).any id

/-! ## Lengths -/

/-- Whether a pattern matches places only, and no character. -/
def isPlaces : Pattern → Bool
  | .empty | .place _ => true
  | .text _ | .one _ _ => false
  | .group _ part | .repeated part _ _ _ => part.isPlaces
  | .seq first rest | .either first rest => first.isPlaces && rest.isPlaces

/-- The least number of characters that a pattern matches, where it is known. A class without
    characters has none. -/
def leastLength? : Pattern → Option Nat
  | .empty | .place _ => some 0
  | .text t => some t.length
  | .one _ set => if set.ranges.isEmpty then none else some 1
  | .group _ part => part.leastLength?
  | .repeated part least _ _ => part.leastLength?.map (· * least)
  | .seq first rest => do .some ((← first.leastLength?) + (← rest.leastLength?))
  | .either first rest => do .some (min (← first.leastLength?) (← rest.leastLength?))

end Pattern

end StyleScope.Log
