/-
  StyleScope.Stylesheet.History

  What a line is, told from the lines before it without any state.

  Every notion here is a condition on the texts of the lines up to one of them, numbered from
  zero: a comment is open where an earlier line opened one and no line since has closed it, and
  a block is open where an earlier line outside comments opened one and no line since has closed
  it. `IsSelector` collects the conditions under which a line may be given the wrapper. All of
  them can be decided.
-/
import StyleScope.ScanState

namespace StyleScope.Stylesheet.History

open Text

variable (ls : List Text)

/-! ## What one line holds -/

/-- The line with this number is there and has the property. -/
def LineIs (p : Text → Prop) (k : Nat) : Prop := ∃ line, ls[k]? = some line ∧ p line

instance (p : Text → Prop) [DecidablePred p] (k : Nat) : Decidable (LineIs ls p k) :=
  match h : ls[k]? with
  | none => isFalse fun ⟨_, hl, _⟩ => by simp [h] at hl
  | some line =>
    decidable_of_iff (p line)
      ⟨fun hp => ⟨line, h, hp⟩, fun ⟨_, hl, hp⟩ => Option.some.inj (h.symm.trans hl) ▸ hp⟩

/-- The line starts like an import or a comment. -/
def Literal (k : Nat) : Prop := LineIs ls (fun line => IsLiteral (trim line)) k

/-- The line holds the token. -/
def Holds (token : Text) (k : Nat) : Prop := LineIs ls (fun line => Occurs token line) k

instance (k : Nat) : Decidable (Literal ls k) := inferInstanceAs (Decidable (LineIs ..))

instance (token : Text) (k : Nat) : Decidable (Holds ls token k) :=
  inferInstanceAs (Decidable (LineIs ..))

/-! ## Comments -/

/-- A comment was opened before the line and was not closed since. Literal lines neither open
    nor close a comment. -/
def InComment (k : Nat) : Prop :=
  ∃ j < k, (¬ Literal ls j ∧ Holds ls commentOpener j ∧ ¬ Holds ls commentCloser j) ∧
    ∀ m < k, j < m → Literal ls m ∨ ¬ Holds ls commentCloser m

instance (k : Nat) : Decidable (InComment ls k) :=
  inferInstanceAs (Decidable (∃ j < k, _ ∧ ∀ m < k, j < m → _))

/-- The line is neither a literal nor has to do with a comment. -/
def Active (k : Nat) : Prop :=
  ¬ Literal ls k ∧ ¬ Holds ls commentOpener k ∧ ¬ Holds ls commentCloser k ∧ ¬ InComment ls k

instance (k : Nat) : Decidable (Active ls k) := inferInstanceAs (Decidable (_ ∧ _))

/-! ## Blocks -/

/-- The line opens the block of an at-rule. -/
def OpensBlock (k : Nat) : Prop :=
  Active ls k ∧ (Holds ls AtRule.media.keyword k ∨ Holds ls AtRule.keyframes.keyword k)

instance (k : Nat) : Decidable (OpensBlock ls k) := inferInstanceAs (Decidable (_ ∧ _))

/-- The line closes the block of an at-rule, if one is open. -/
def ClosesBlock (k : Nat) : Prop := Active ls k ∧ LineIs ls (fun line => trim line = ['}']) k

instance (k : Nat) : Decidable (ClosesBlock ls k) := inferInstanceAs (Decidable (_ ∧ _))

/-- A block was opened before the line and was not closed since. -/
def InBlock (k : Nat) : Prop :=
  ∃ j < k, OpensBlock ls j ∧ ∀ m < k, j < m → ¬ ClosesBlock ls m

instance (k : Nat) : Decidable (InBlock ls k) :=
  inferInstanceAs (Decidable (∃ j < k, _ ∧ ∀ m < k, j < m → _))

/-! ## Selectors -/

/-- The line opens a rule at the top level of the stylesheet. -/
def IsSelector (k : Nat) : Prop :=
  Active ls k ∧ ¬ OpensBlock ls k ∧ ¬ InBlock ls k ∧
    LineIs ls (fun line => OpensRule (trim line)) k

instance (k : Nat) : Decidable (IsSelector ls k) := inferInstanceAs (Decidable (_ ∧ _))

end StyleScope.Stylesheet.History
