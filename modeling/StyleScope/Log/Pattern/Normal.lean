/-
  StyleScope.Log.Pattern.Normal

  Patterns in normal form.

    * A sequence has no empty parts, no sequences as parts and no two texts in a row.
    * Alternatives are no alternatives themselves. If each of them is one character they are a
      class, and what all of them start with stands in front of them.
    * A class has more than one character, or none.
    * A pattern that matches places only is not repeated more than once.

  `sequence`, `alternatives`, `oneOf` and `repetition` build patterns of this form from patterns
  of this form. The size of a pattern is told from it.
-/
import StyleScope.Log.Pattern

namespace StyleScope.Log.Pattern

open Text

/-! ## Sequences -/

/-- The parts of a sequence. -/
def parts : Pattern → List Pattern
  | .empty => []
  | .seq first rest => first :: rest.parts
  | p => [p]

/-- One part after the other. -/
def ofParts : List Pattern → Pattern
  | [] => .empty
  | [p] => p
  | p :: rest => .seq p (ofParts rest)

/-- Puts a part in front of others, and a text into a text. -/
def consPart : Pattern → List Pattern → List Pattern
  | .text t, .text u :: rest => .text (t ++ u) :: rest
  | p, rest => p :: rest

/-- Patterns one after the other. -/
def sequence (ps : List Pattern) : Pattern := ofParts ((ps.flatMap parts).foldr consPart [])

/-! ## Classes -/

/-- One character of a set. -/
def oneOf (ofBytes : Bool) (set : CharSet) : Pattern :=
  if set.ranges.isEmpty then .one true set
  else
    match set.only? with
    | some c => .text [c]
    | none => .one ofBytes set

/-- The set that a pattern of one character stands for. -/
def toSet? : Pattern → Option CharSet
  | .text [c] => some (.single c)
  | .one _ set => some set
  | _ => none

/-! ## Alternatives -/

/-- The alternatives of a pattern. -/
def choices : Pattern → List Pattern
  | .either first rest => first :: rest.choices
  | p => [p]

/-- One of several patterns. -/
def ofChoices : List Pattern → Pattern
  | [] => .one true ⟨[]⟩
  | [p] => p
  | p :: rest => .either p (ofChoices rest)

/-- The parts that two sequences both start with. -/
def commonParts : List Pattern → List Pattern → List Pattern
  | p :: ps, q :: qs => if p = q then p :: commonParts ps qs else []
  | _, _ => []

/-- The parts that all of several sequences start with; a single part is no sequence. -/
def sharedParts : List Pattern → List Pattern
  | [] => []
  | p :: ps =>
    if (p :: ps).all fun q => decide (1 < q.parts.length) then
      ps.foldl (fun shared q => commonParts shared q.parts) p.parts
    else []

/-- One of several patterns. What they share is put in front of them, so that every round leaves
    shorter sequences. -/
def alternativesFrom : Nat → List Pattern → Pattern
  | 0, ps => ofChoices ps
  | rounds + 1, ps =>
    let ps := ps.flatMap choices
    match ps with
    | [p] => p
    | _ =>
      match ps.mapM toSet? with
      | some sets => oneOf false (sets.foldl CharSet.union ⟨[]⟩)
      | none =>
        let shared := sharedParts ps
        if shared.isEmpty then ofChoices ps
        else
          let rests := ps.map fun p => sequence (p.parts.drop shared.length)
          sequence (shared ++ [alternativesFrom rounds rests])

/-- One of several patterns. -/
def alternatives (ps : List Pattern) : Pattern :=
  alternativesFrom (ps.foldl (fun count p => count + p.parts.length) 1) ps

/-! ## Repetitions -/

/-- A pattern repeated. A place is there or not, however often it is looked at. -/
def repetition (part : Pattern) (least : Nat) (most : Option Nat) (shortest : Bool) : Pattern :=
  let least := if part.isPlaces then min least 1 else least
  let most := if part.isPlaces then some (min (most.getD 1) 1) else most
  if most = some 0 ∧ least = 0 then .empty
  else if most = some 1 ∧ least = 1 then part
  else .repeated part least most shortest

end StyleScope.Log.Pattern
