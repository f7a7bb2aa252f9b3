/-
  StyleScope.Proofs.Text.Comments

  Which comments a line opens and closes.

  Outside a comment a reader looks for one delimiter and inside for the other. A text without it
  leaves things as they are (`leavesComment_of_not_occurs`), and the first one turns them round
  (`leavesComment_append_delimiter`). A line is paired if it holds either delimiter once at most and
  the opener ends before the closer begins. Whether such a line leaves a comment open is told from
  the delimiters that it holds, wherever they stand (`IsPaired.leavesComment_iff`).
-/
import StyleScope.Proofs.Text.Pieces
import StyleScope.ScanState
import StyleScope.Text.Comments

namespace StyleScope.Text

variable {token t a b line : Text} {i j : Nat}

/-! ## Places -/

/-- The places at which a token stands in a text, counted from its start. -/
def places (token t : Text) : List Nat :=
  (List.range t.length).filter fun i => token.isPrefixOf (t.drop i)

theorem length_mem_places (hne : token ≠ []) (a b : Text) :
    a.length ∈ places token (a ++ token ++ b) := by
  have hpos := List.length_pos_iff.2 hne
  refine List.mem_filter.2 ⟨List.mem_range.2 ?_, ?_⟩
  · rw [List.length_append, List.length_append]
    omega
  · rw [List.isPrefixOf_iff_prefix, List.append_assoc, List.drop_left]
    exact List.prefix_append token b

theorem eq_of_length_le_one {l : List Nat} (h : l.length ≤ 1) (hi : i ∈ l) (hj : j ∈ l) :
    i = j := by
  match l, h with
  | [k], _ => rw [List.mem_singleton.1 hi, List.mem_singleton.1 hj]

/-- No token stands in front of the only one. -/
theorem not_occurs_before (hne : token ≠ [])
    (h : (places token (a ++ token ++ b)).length ≤ 1) : ¬ Occurs token a := by
  intro hocc
  obtain ⟨x, y, rfl⟩ := occurs_iff.1 hocc
  have hlast := length_mem_places hne (x ++ token ++ y) b
  have hfirst := length_mem_places hne x (y ++ token ++ b)
  have hsame : x ++ token ++ (y ++ token ++ b) = x ++ token ++ y ++ token ++ b := by simp
  rw [hsame] at hfirst
  have heq := eq_of_length_le_one h hfirst hlast
  have hpos := List.length_pos_iff.2 hne
  rw [List.length_append, List.length_append] at heq
  omega

/-! ## The delimiter that is looked for -/

/-- The delimiter that ends the part of a text that is being read. -/
def delimiter : Bool → Text
  | false => commentOpener
  | true => commentCloser

theorem leavesComment_of_not_occurs (inside : Bool) (h : ¬ Occurs (delimiter inside) t) :
    leavesComment inside t = inside := by
  fun_induction leavesComment inside t with
  | case1 inside => rfl
  | case2 rest ih => exact absurd (occurs_iff.2 ⟨[], rest, rfl⟩) h
  | case3 rest ih => exact absurd (occurs_iff.2 ⟨[], rest, rfl⟩) h
  | case4 inside c rest hopen hclose ih => exact ih fun hocc => h (List.infix_cons hocc)

theorem leavesComment_append_delimiter (inside : Bool) (b : Text)
    (h : ¬ Occurs (delimiter inside) a) :
    leavesComment inside (a ++ delimiter inside ++ b) = leavesComment (!inside) b := by
  fun_induction leavesComment inside a with
  | case1 inside =>
    cases inside with
    | false => rfl
    | true => rfl
  | case2 rest ih => exact absurd (occurs_iff.2 ⟨[], rest, rfl⟩) h
  | case3 rest ih => exact absurd (occurs_iff.2 ⟨[], rest, rfl⟩) h
  | case4 inside c rest hopen hclose ih =>
    -- The delimiter that follows is cut off from `c` by its own first character.
    rw [List.cons_append, List.cons_append, leavesComment]
    · exact ih fun hocc => h (List.infix_cons hocc)
    · rintro r rfl rfl hr
      cases rest with
      | nil => exact absurd (List.cons.inj hr).1 (by decide)
      | cons d more => exact hopen more rfl rfl (by rw [(List.cons.inj hr).1])
    · rintro r rfl rfl hr
      cases rest with
      | nil => exact absurd (List.cons.inj hr).1 (by decide)
      | cons d more => exact hclose more rfl rfl (by rw [(List.cons.inj hr).1])

theorem leavesComment_nil (inside : Bool) : leavesComment inside [] = inside := by
  cases inside with
  | false => rfl
  | true => rfl

/-- A line feed opens and closes nothing. -/
theorem leavesComment_append_newline (inside : Bool) (t : Text) :
    leavesComment inside (t ++ ['\n']) = leavesComment inside t := by
  rw [leavesComment_append, leavesComment_nil]

/-! ## Paired lines -/

/-- A line with one comment opener and one comment closer at most, and if it has both, with the
    opener wholly in front of the closer. -/
structure IsPaired (line : Text) : Prop where
  openers : (places commentOpener line).length ≤ 1
  closers : (places commentCloser line).length ≤ 1
  opener_first : ∀ i ∈ places commentOpener line, ∀ j ∈ places commentCloser line,
    i + commentOpener.length ≤ j

theorem commentOpener_ne_nil : commentOpener ≠ [] := by decide

theorem commentCloser_ne_nil : commentCloser ≠ [] := by decide

theorem isPaired_of_not_occurs (ho : ¬ Occurs commentOpener line)
    (hc : ¬ Occurs commentCloser line) : IsPaired line := by
  have hnone : ∀ {token}, ¬ Occurs token line → places token line = [] := by
    intro token hnot
    refine List.eq_nil_iff_forall_not_mem.2 fun i hi => hnot ?_
    rw [places, List.mem_filter, List.isPrefixOf_iff_prefix] at hi
    exact hi.2.isInfix.trans (List.drop_suffix i line).isInfix
  refine ⟨?_, ?_, ?_⟩
  · rw [hnone ho]
    exact Nat.zero_le 1
  · rw [hnone hc]
    exact Nat.zero_le 1
  · rw [hnone ho]
    exact fun i hi => absurd hi List.not_mem_nil

namespace IsPaired

theorem not_occurs_opener_behind (h : IsPaired (a ++ commentCloser ++ b)) :
    ¬ Occurs commentOpener b := by
  intro hocc
  obtain ⟨x, y, rfl⟩ := occurs_iff.1 hocc
  have hcloser := length_mem_places commentCloser_ne_nil a (x ++ commentOpener ++ y)
  have hopener := length_mem_places commentOpener_ne_nil (a ++ commentCloser ++ x) y
  have hsame : a ++ commentCloser ++ x ++ commentOpener ++ y =
      a ++ commentCloser ++ (x ++ commentOpener ++ y) := by simp
  rw [hsame] at hopener
  have hle := h.opener_first _ hopener _ hcloser
  have hpos := List.length_pos_iff.2 commentOpener_ne_nil
  rw [List.length_append, List.length_append] at hle
  omega

theorem occurs_opener_before (h : IsPaired (a ++ commentCloser ++ b))
    (hocc : Occurs commentOpener (a ++ commentCloser ++ b)) : Occurs commentOpener a := by
  obtain ⟨x, y, hxy⟩ := occurs_iff.1 hocc
  have hcloser := length_mem_places commentCloser_ne_nil a b
  have hopener := length_mem_places commentOpener_ne_nil x y
  rw [hxy] at hopener
  have hle := h.opener_first _ hopener _ hcloser
  rw [← List.length_append] at hle
  have hpre : x ++ commentOpener <+: a := by
    have hleft : x ++ commentOpener <+: a ++ commentCloser ++ b := ⟨y, hxy⟩
    have hright : a <+: a ++ commentCloser ++ b := by
      rw [List.append_assoc]
      exact List.prefix_append a _
    exact List.prefix_of_prefix_length_le hleft hright hle
  exact (List.infix_append' x commentOpener []).trans (by simpa using hpre.isInfix)

/-- A closer leaves no comment open. -/
theorem leavesComment_closer (h : IsPaired (a ++ commentCloser ++ b)) (inside : Bool) :
    leavesComment inside (a ++ commentCloser ++ b) = false := by
  have hbehind : leavesComment false b = false :=
    leavesComment_of_not_occurs false h.not_occurs_opener_behind
  have hbefore : ¬ Occurs commentCloser a := not_occurs_before commentCloser_ne_nil h.closers
  cases inside with
  | true => exact (leavesComment_append_delimiter true b hbefore).trans hbehind
  | false =>
    by_cases hocc : Occurs commentOpener (a ++ commentCloser ++ b)
    · -- The comment that the line opens is the one that it closes.
      obtain ⟨x, y, rfl⟩ := occurs_iff.1 (h.occurs_opener_before hocc)
      have hsame : x ++ commentOpener ++ y ++ commentCloser ++ b =
          x ++ commentOpener ++ (y ++ commentCloser ++ b) := by simp
      have hopeners := h.openers
      rw [hsame] at hopeners ⊢
      have hx : ¬ Occurs commentOpener x := not_occurs_before commentOpener_ne_nil hopeners
      have hy : ¬ Occurs commentCloser y := by
        intro hy
        exact hbefore (List.infix_append_of_infix_right hy)
      calc leavesComment false (x ++ commentOpener ++ (y ++ commentCloser ++ b))
          = leavesComment true (y ++ commentCloser ++ b) :=
            leavesComment_append_delimiter false _ hx
        _ = leavesComment false b := leavesComment_append_delimiter true b hy
        _ = false := hbehind
    · exact leavesComment_of_not_occurs false hocc

/-- A comment is open after a paired line if the line does not close it and it was open before or
    is opened by the line. -/
theorem leavesComment_iff (h : IsPaired line) (inside : Bool) :
    leavesComment inside line = true ↔
      ¬ Occurs commentCloser line ∧ (inside = true ∨ Occurs commentOpener line) := by
  by_cases hc : Occurs commentCloser line
  · obtain ⟨a, b, rfl⟩ := occurs_iff.1 hc
    rw [h.leavesComment_closer inside]
    exact ⟨fun hopen => absurd hopen Bool.false_ne_true, fun hopen => absurd hc hopen.1⟩
  cases inside with
  | true =>
    rw [leavesComment_of_not_occurs true hc]
    simp [hc]
  | false =>
    by_cases ho : Occurs commentOpener line
    · obtain ⟨a, b, rfl⟩ := occurs_iff.1 ho
      have ha : ¬ Occurs commentOpener a := not_occurs_before commentOpener_ne_nil h.openers
      have hb : ¬ Occurs commentCloser b :=
        fun hb => hc (List.infix_append_of_infix_right hb)
      have hopens : leavesComment false (a ++ commentOpener ++ b) = leavesComment true b :=
        leavesComment_append_delimiter false b ha
      rw [hopens, leavesComment_of_not_occurs true hb]
      exact ⟨fun _ => ⟨hc, Or.inr ho⟩, fun _ => rfl⟩
    · rw [leavesComment_of_not_occurs false ho]
      simp [ho]

end IsPaired

end StyleScope.Text
