/-
  StyleScope.Log.Pattern.Written

  Written patterns as trees.

  Every part of a written pattern knows where it stands in the text, and the parts whose meaning
  depends on flags know the flags in force there. A tree says what was written, also where a
  pattern of that meaning cannot be had; its parts may lie in one another only so deep
  (`tooDeep?`).
-/
import StyleScope.Log.Pattern.Fault

namespace StyleScope.Log.Pattern

open Text

/-! ## Flags -/

/-- The flags in force at a place of a written pattern. -/
structure Flags where
  /-- Letters stand for either case. -/
  eitherCase : Bool
  /-- A dot stands for line feeds too. -/
  anyLine : Bool
  /-- `^` and `$` are places at every line. -/
  everyLine : Bool
  /-- Lines can end in a carriage return too, and a dot does not stand for it. -/
  returns : Bool
  /-- Repetitions prefer fewer parts. -/
  shortest : Bool
  /-- Blanks and comments between parts have no meaning. -/
  spaced : Bool
  /-- Classes are of bytes, and go by ASCII instead of Unicode. -/
  ofBytes : Bool
deriving DecidableEq, Repr

/-- The flags that a pattern starts with. -/
def Flags.start : Flags := ⟨false, false, false, false, false, false, false⟩

/-! ## Characters -/

/-- A character that stands for itself. -/
structure Literal where
  char : Char
  /-- Whether it is written as two hexadecimal digits, which stand for a byte. -/
  asByte : Bool
  span : Span
deriving DecidableEq, Repr

/-! ## Classes -/

/-- How two classes are joined. -/
inductive Join where
  | both
  | firstOnly
  | justOne
deriving DecidableEq, Repr

/-- What a class in brackets is made of, and the escapes that stand for classes. -/
inductive ClassItem where
  /-- Nothing, at a place where an item could stand. -/
  | nothing (span : Span)
  | literal (l : Literal)
  | range (low high : Literal)
  /-- A class of ASCII with a name, in brackets and colons. -/
  | named (set : CharSet) (negated : Bool) (span : Span)
  /-- A letter after a backslash, which is a class of Unicode unless classes are of bytes. -/
  | shorthand (set : CharSet) (negated : Bool) (span : Span)
  | property (name : Text) (span : Span)
  | bracketed (inside : ClassItem) (negated : Bool) (span : Span)
  | union (items : List ClassItem) (span : Span)
  | joined (join : Join) (first second : ClassItem)
deriving Repr

namespace ClassItem

def span : ClassItem → Span
  | .nothing span | .named _ _ span | .shorthand _ _ span | .property _ span
  | .bracketed _ _ span | .union _ span => span
  | .literal l => l.span
  | .range low high => ⟨low.span.first, high.span.last⟩
  | .joined _ first second => ⟨first.span.first, second.span.last⟩

/-- Items side by side; `place` is where the first would stand if there is none. -/
def ofItems (place : Nat) : List ClassItem → ClassItem
  | [] => .nothing ⟨place, place⟩
  | [item] => item
  | item :: rest => .union (item :: rest) ⟨item.span.first, ((rest.getLast?.getD item).span).last⟩

mutual

/-- The first part that lies too deep, in an item that itself lies so deep. -/
def tooDeep? (depth : Nat) : ClassItem → Option Span
  | .bracketed inside _ span =>
    if depthLimit ≤ depth then some span else inside.tooDeep? (depth + 1)
  | .union items span => if depthLimit ≤ depth then some span else anyTooDeep? (depth + 1) items
  | .joined _ first second =>
    if depthLimit ≤ depth then some ⟨first.span.first, second.span.last⟩
    else (first.tooDeep? (depth + 1)).or (second.tooDeep? (depth + 1))
  | .nothing _ | .literal _ | .range _ _ | .named _ _ _ | .shorthand _ _ _ | .property _ _ => none

def anyTooDeep? (depth : Nat) : List ClassItem → Option Span
  | [] => none
  | item :: rest => (item.tooDeep? depth).or (anyTooDeep? depth rest)

end

end ClassItem

/-! ## Patterns -/

/-- A written pattern. -/
inductive Written where
  | nothing (span : Span)
  /-- A change of flags, which nothing can repeat. -/
  | flags (span : Span)
  | literal (flags : Flags) (l : Literal)
  | dot (flags : Flags) (span : Span)
  | place (p : Place) (span : Span)
  | one (flags : Flags) (item : ClassItem)
  | repeated (part : Written) (least : Nat) (most : Option Nat) (shortest : Bool) (span : Span)
  /-- A part in parentheses, which has a number or none. -/
  | group (number : Option Nat) (part : Written) (span : Span)
  | sequence (parts : List Written) (span : Span)
  | alternatives (parts : List Written) (span : Span)
deriving Repr

namespace Written

def span : Written → Span
  | .nothing span | .flags span | .dot _ span | .place _ span | .repeated _ _ _ _ span
  | .group _ _ span | .sequence _ span | .alternatives _ span => span
  | .literal _ l => l.span
  | .one _ item => item.span

/-- Parts one after the other. -/
def ofParts (span : Span) : List Written → Written
  | [] => .nothing span
  | [part] => part
  | parts => .sequence parts span

mutual

/-- The first part that lies too deep, in a pattern that itself lies so deep. -/
def tooDeep? (depth : Nat) : Written → Option Span
  | .one _ item => item.tooDeep? depth
  | .repeated part _ _ _ span | .group _ part span =>
    if depthLimit ≤ depth then some span else part.tooDeep? (depth + 1)
  | .sequence parts span | .alternatives parts span =>
    if depthLimit ≤ depth then some span else anyTooDeep? (depth + 1) parts
  | .nothing _ | .flags _ | .literal _ _ | .dot _ _ | .place _ _ => none

def anyTooDeep? (depth : Nat) : List Written → Option Span
  | [] => none
  | part :: rest => (part.tooDeep? depth).or (anyTooDeep? depth rest)

end

end Written

end StyleScope.Log.Pattern
