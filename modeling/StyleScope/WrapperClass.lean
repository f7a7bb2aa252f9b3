/-
  StyleScope.WrapperClass

  The class that every rule of a stylesheet is nested under, such as `.dashboard`.

  A class is given as a token, with or without its leading dot and with any blanks around it.
  `ofToken` accepts a token whose name is not empty and holds neither a blank nor one of
  `{`, `}` and `,`; `selector` is the accepted class as a selector.
-/
import StyleScope.Text.Basic
import StyleScope.Text.Printable

namespace StyleScope

open Text

/-- A character that the name of a wrapper class may hold. -/
def isNameChar (c : Char) : Bool :=
  !isBlank c && c != '{' && c != '}' && c != ','

/-- The name of a class, without its dot. -/
structure WrapperClass where
  name : Text
  name_ne_nil : name ≠ []
  name_clean : ∀ c ∈ name, isNameChar c = true
deriving DecidableEq

/-- A token that names no class, as it was given. -/
structure InvalidToken where
  raw : Text
deriving DecidableEq

namespace InvalidToken

def message (e : InvalidToken) : String :=
  "Invalid scope prefix " ++ String.ofList (quote e.raw) ++
    ": expected a class name such as `.dashboard`"

end InvalidToken

namespace WrapperClass

/-- A text without one dot at its start. -/
def dropDot : Text → Text
  | '.' :: r => r
  | t => t

/-- Reads the class that a token names. -/
def ofToken (raw : Text) : Except InvalidToken WrapperClass :=
  let name := dropDot (trim raw)
  if h : name.isEmpty = false ∧ name.all isNameChar = true then
    .ok {
      name := name
      name_ne_nil := List.isEmpty_eq_false_iff.1 h.1
      name_clean := List.all_eq_true.1 h.2 }
  else
    .error ⟨raw⟩

/-- The class as a selector: its name after a dot. -/
def selector (w : WrapperClass) : Text := '.' :: w.name

/-- A class is known by its selector. -/
theorem selector_injective {v w : WrapperClass} (h : v.selector = w.selector) : v = w := by
  obtain ⟨a, _, _⟩ := v
  obtain ⟨b, _, _⟩ := w
  obtain rfl : a = b := by simpa [selector] using h
  rfl

/-- A refused token is reported as it was given. -/
theorem raw_of_ofToken_error {raw : Text} {e : InvalidToken} (h : ofToken raw = .error e) :
    e.raw = raw := by
  simp only [ofToken] at h
  split at h
  · simp at h
  · simp only [Except.error.injEq] at h
    exact h ▸ rfl

end WrapperClass

end StyleScope
