/-
  StyleScope.Proofs.WrapperClass.Token

  Which tokens name a class, and which class they name.

  A token without its blanks spells a name in one of two ways: behind a dot, or as it is, if the
  name does not start with a dot itself (`Spells`). The name that is read off a token is the one
  name that it spells (`dropDot_eq_iff`), and it is accepted if it may be the name of a class
  (`IsClassName`). So a class has two spellings, unless its name starts with a dot, and every token
  for it is one of these between blanks (`dropDot_eq_dropDot_iff`).
-/
import StyleScope.Proofs.WrapperClass

namespace StyleScope.WrapperClass

open Text

variable {w : WrapperClass} {a b raw name : Text} {e : InvalidToken}

/-! ## Names and how they are spelled -/

/-- A text that may be the name of a class. -/
def IsClassName (name : Text) : Prop :=
  name ≠ [] ∧ ∀ c ∈ name, isBlank c = false ∧ c ≠ '{' ∧ c ≠ '}' ∧ c ≠ ','

/-- A trimmed token spells a name: behind a dot, or as it is if it starts with none. -/
def Spells (token name : Text) : Prop :=
  token = '.' :: name ∨ token = name ∧ ¬ ['.'] <+: name

/-- Two trimmed tokens differ at most by one dot in front of a token that starts with none. -/
def IsRespelling (a b : Text) : Prop :=
  a = b ∨ (a = '.' :: b ∧ ¬ ['.'] <+: b) ∨ (b = '.' :: a ∧ ¬ ['.'] <+: a)

theorem isClassName_iff :
    IsClassName name ↔ name ≠ [] ∧ ∀ c ∈ name, isNameChar c = true := by
  simp only [IsClassName, isNameChar, Bool.and_eq_true, Bool.not_eq_true', bne_iff_ne, and_assoc]

theorem dropDot_of_not_dot (h : ¬ ['.'] <+: a) : dropDot a = a := by
  cases a with
  | nil => rfl
  | cons c rest =>
    have hc : c ≠ '.' := by
      intro hc
      exact h ⟨rest, by rw [hc, List.singleton_append]⟩
    simp [dropDot, hc]

theorem dropDot_eq_iff : dropDot a = name ↔ Spells a name := by
  by_cases hdot : ['.'] <+: a
  · obtain ⟨rest, rfl⟩ := hdot
    -- A token that starts with a dot spells nothing as it is.
    have hnot : ¬ (['.'] ++ rest = name ∧ ¬ ['.'] <+: name) := by
      rintro ⟨rfl, hname⟩
      exact hname (List.prefix_append ['.'] rest)
    show rest = name ↔ '.' :: rest = '.' :: name ∨ (['.'] ++ rest = name ∧ ¬ ['.'] <+: name)
    rw [or_iff_left hnot, List.cons_inj_right]
  · rw [dropDot_of_not_dot hdot]
    constructor
    · rintro rfl
      exact Or.inr ⟨rfl, hdot⟩
    · rintro (rfl | ⟨rfl, -⟩)
      · exact absurd (List.prefix_append ['.'] name) hdot
      · rfl

theorem dropDot_eq_dropDot_iff : dropDot a = dropDot b ↔ IsRespelling a b := by
  rw [dropDot_eq_iff, Spells, IsRespelling]
  by_cases hdot : ['.'] <+: b
  · obtain ⟨rest, rfl⟩ := hdot
    show a = '.' :: rest ∨ (a = rest ∧ ¬ ['.'] <+: rest) ↔
      a = '.' :: rest ∨ (a = '.' :: '.' :: rest ∧ ¬ ['.'] <+: '.' :: rest) ∨
        ('.' :: rest = '.' :: a ∧ ¬ ['.'] <+: a)
    have hnot : ¬ (a = '.' :: '.' :: rest ∧ ¬ ['.'] <+: '.' :: rest) := by
      rintro ⟨-, hrest⟩
      exact hrest (List.prefix_append ['.'] rest)
    rw [or_iff_right hnot, List.cons_inj_right]
    apply or_congr_right
    constructor
    · rintro ⟨rfl, ha⟩
      exact ⟨rfl, ha⟩
    · rintro ⟨rfl, ha⟩
      exact ⟨rfl, ha⟩
  · rw [dropDot_of_not_dot hdot]
    have hnot : ¬ (b = '.' :: a ∧ ¬ ['.'] <+: a) := by
      rintro ⟨rfl, -⟩
      exact hdot (List.prefix_append ['.'] a)
    rw [or_iff_left hnot]
    constructor
    · rintro (ha | ⟨ha, -⟩)
      · exact Or.inr ⟨ha, hdot⟩
      · exact Or.inl ha
    · rintro (ha | ⟨ha, -⟩)
      · exact Or.inr ⟨ha, hdot⟩
      · exact Or.inl ha

/-! ## Accepted and refused tokens -/

theorem isClassName_name (w : WrapperClass) : IsClassName w.name :=
  isClassName_iff.2 ⟨w.name_ne_nil, w.name_clean⟩

/-- Every name is the name of a class. -/
theorem exists_name_eq (h : IsClassName name) : ∃ w : WrapperClass, w.name = name :=
  ⟨⟨name, (isClassName_iff.1 h).1, (isClassName_iff.1 h).2⟩, rfl⟩

theorem exists_ofToken_iff :
    (∃ w, ofToken raw = .ok w) ↔ ∃ name, IsClassName name ∧ Spells (trim raw) name := by
  constructor
  · rintro ⟨w, hw⟩
    exact ⟨w.name, isClassName_name w, dropDot_eq_iff.1 (ofToken_eq_ok_iff.1 hw)⟩
  · rintro ⟨name, hname, hspells⟩
    obtain ⟨w, rfl⟩ := exists_name_eq hname
    exact ⟨w, ofToken_eq_ok_iff.2 (dropDot_eq_iff.2 hspells)⟩

/-- A token that is not accepted is refused as it was given. -/
theorem ofToken_eq_error_iff :
    ofToken raw = .error e ↔ e.raw = raw ∧ ¬ ∃ w, ofToken raw = .ok w := by
  cases h : ofToken raw with
  | ok w => simp
  | error refused =>
    have hraw : refused.raw = raw := raw_of_ofToken_error h
    constructor
    · intro heq
      obtain rfl := Except.error.inj heq
      exact ⟨hraw, by simp⟩
    · rintro ⟨heq, -⟩
      exact congrArg Except.error (congrArg InvalidToken.mk (hraw.trans heq.symm))

/-- Two tokens that are accepted name one class just when they are respellings of each other. -/
theorem exists_ofToken_both_iff :
    (∃ w, ofToken a = .ok w ∧ ofToken b = .ok w) ↔
      (∃ w, ofToken a = .ok w) ∧ IsRespelling (trim a) (trim b) := by
  simp only [ofToken_eq_ok_iff, ← dropDot_eq_dropDot_iff]
  constructor
  · rintro ⟨w, ha, hb⟩
    exact ⟨⟨w, ha⟩, ha.trans hb.symm⟩
  · rintro ⟨⟨w, ha⟩, hab⟩
    exact ⟨w, ha, hab.symm.trans ha⟩

/-- A token is accepted just when, without the blanks around it, it spells a name: any text that is
    not empty and holds no blank, brace or comma. It then names the class with that name behind a
    dot, and any other token is refused as it was given. So the selector of a class is itself a
    token for the class, blanks around a token change nothing, and tokens for one class are
    respellings of each other. -/
theorem ofToken_iff_spells :
    (∀ (raw : Text) (w : WrapperClass), ofToken raw = .ok w ↔
      ∃ name, IsClassName name ∧ w.selector = '.' :: name ∧ Spells (trim raw) name) ∧
    (∀ (raw : Text) (e : InvalidToken), ofToken raw = .error e ↔
      e.raw = raw ∧ ¬ ∃ name, IsClassName name ∧ Spells (trim raw) name) ∧
    (∀ w : WrapperClass, ofToken w.selector = .ok w) ∧
    (∀ (raw before behind : Text) (w : WrapperClass), (∀ c ∈ before, isBlank c = true) →
      (∀ c ∈ behind, isBlank c = true) →
      (ofToken (before ++ raw ++ behind) = .ok w ↔ ofToken raw = .ok w)) ∧
    ∀ a b : Text, (∃ w, ofToken a = .ok w ∧ ofToken b = .ok w) ↔
      (∃ w, ofToken a = .ok w) ∧ IsRespelling (trim a) (trim b) := by
  refine ⟨fun raw w => ?_, fun raw e => ?_, ofToken_selector,
    fun raw before behind w hbefore hbehind => ?_, fun a b => exists_ofToken_both_iff⟩
  · rw [ofToken_eq_ok_iff, dropDot_eq_iff]
    constructor
    · intro hspells
      exact ⟨w.name, isClassName_name w, rfl, hspells⟩
    · rintro ⟨name, -, hselector, hspells⟩
      obtain ⟨-, rfl⟩ := List.cons.inj hselector
      exact hspells
  · rw [ofToken_eq_error_iff, exists_ofToken_iff]
  · rw [ofToken_eq_ok_iff, ofToken_eq_ok_iff, trim_append_blanks hbehind,
      trim_blanks_append hbefore]

/-- The class `.dash` is named with its dot and without, also between blanks. One more dot makes it
    another class, and a token that is nothing but a dot names none. -/
theorem ofToken_iff_spells_dash :
    (∀ c ∈ [' ', '\u2003'], isBlank c = true) ∧ (∀ c ∈ ['\r', '\n'], isBlank c = true) ∧
      ofToken ([' ', '\u2003'] ++ dash.selector ++ ['\r', '\n']) = .ok dash ∧
      (∃ w, ofToken dash.name = .ok w ∧ ofToken dash.selector = .ok w) ∧
      (¬ ∃ w, ofToken dash.selector = .ok w ∧ ofToken ('.' :: dash.selector) = .ok w) ∧
      ofToken ['.'] = .error ⟨['.']⟩ := by
  obtain ⟨-, herror, hself, hblanks, hboth⟩ := ofToken_iff_spells
  have hbefore : ∀ c ∈ [' ', '\u2003'], isBlank c = true :=
    List.forall_mem_cons.2 ⟨rfl, List.forall_mem_singleton.2 rfl⟩
  have hbehind : ∀ c ∈ ['\r', '\n'], isBlank c = true :=
    List.forall_mem_cons.2 ⟨rfl, List.forall_mem_singleton.2 rfl⟩
  refine ⟨hbefore, hbehind, (hblanks _ _ _ dash hbefore hbehind).2 (hself dash), ?_, ?_, ?_⟩
  · rw [hboth]
    exact ⟨⟨dash, rfl⟩, Or.inr (Or.inr ⟨by decide, by decide⟩)⟩
  · rw [hboth]
    rintro ⟨-, hsame | ⟨hsame, -⟩ | ⟨-, hdot⟩⟩
    · exact absurd hsame (by decide)
    · exact absurd hsame (by decide)
    · exact absurd hdot (by decide)
  · rw [herror]
    refine ⟨rfl, ?_⟩
    rintro ⟨name, ⟨hne, -⟩, hspells | ⟨hspells, hdot⟩⟩
    · exact hne (List.cons.inj hspells).2.symm
    · subst hspells
      exact absurd hdot (by decide)

end StyleScope.WrapperClass
