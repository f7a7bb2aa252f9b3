/-
  StyleScope.Proofs.SelectorList.Rescoped

  Nested selector lists, cut into their selectors again.

  No wrapper class brings a comma into a list, so the selectors of a nested list are the nested
  selectors (`fragments_scope`), and blanks around the list do not show in them (`fragments_trim`).
  Nesting a list under one class and then under another is nesting it under the two, one inside the
  other, as long as no selector is empty (`scope_scope`). Each selector of a nested list is confined
  to the wrapper (`isConfined_of_mem_fragments_scope`).
-/
import StyleScope.Proofs.SelectorList.Nested
import StyleScope.Proofs.WrapperClass

namespace StyleScope.SelectorList

open Text

variable {v w : WrapperClass} {wrapper selectors f t : Text} {pieces : List Text}

/-! ## Cutting a list -/

theorem intercalate_comma_space (p : Text) (ps : List Text) :
    [',', ' '].intercalate (p :: ps) = [','].intercalate (p :: ps.map (' ' :: ·)) := by
  induction ps generalizing p with
  | nil => rfl
  | cons q rest ih =>
    rw [List.intercalate_cons_cons, List.map_cons, List.intercalate_cons_cons, ih,
      List.intercalate_cons_cons_left, List.append_assoc, List.append_assoc]
    rfl

theorem trim_space_cons (t : Text) : trim (' ' :: t) = trim t :=
  trim_blanks_append (a := [' ']) (List.forall_mem_singleton.2 rfl) t

theorem fragments_intercalate (hne : pieces ≠ []) (h : ∀ p ∈ pieces, ',' ∉ p) :
    fragments ([',', ' '].intercalate pieces) = pieces.map trim := by
  obtain ⟨p, ps, rfl⟩ := List.exists_cons_of_ne_nil hne
  have hcommas : ∀ q ∈ p :: ps.map (' ' :: ·), ',' ∉ q := by
    intro q hq
    rcases List.mem_cons.1 hq with rfl | hq
    · exact h q List.mem_cons_self
    · obtain ⟨r, hr, rfl⟩ := List.mem_map.1 hq
      have hcomma : ',' ∉ r := h r (List.mem_cons_of_mem p hr)
      simpa using hcomma
  rw [intercalate_comma_space, fragments, List.splitOn_intercalate ',' hcommas (by simp),
    List.map_cons, List.map_cons, List.map_map]
  exact congrArg _ (List.map_congr_left fun q _ => trim_space_cons q)

theorem comma_notMem_of_mem_fragments (h : f ∈ fragments selectors) : ',' ∉ f := by
  obtain ⟨piece, hpiece, rfl⟩ := List.mem_map.1 h
  exact fun hmem => notMem_of_mem_splitOn hpiece (mem_of_mem_trim hmem)

theorem isTrimmed_of_mem_fragments (h : f ∈ fragments selectors) : IsTrimmed f := by
  obtain ⟨piece, -, rfl⟩ := List.mem_map.1 h
  exact isTrimmed_trim piece

/-! ## Blanks around a list -/

theorem comma_notMem_of_blanks {b : Text} (hb : ∀ c ∈ b, isBlank c = true) : ',' ∉ b :=
  fun hmem => absurd (hb ',' hmem) (by decide)

theorem fragments_blanks_append {b : Text} (hb : ∀ c ∈ b, isBlank c = true) (t : Text) :
    fragments (b ++ t) = fragments t := by
  obtain ⟨p, ps, hps⟩ := List.exists_cons_of_ne_nil (List.splitOn_ne_nil ',' t)
  rw [fragments, fragments, splitOn_of_notMem_append hps (comma_notMem_of_blanks hb), hps,
    List.map_cons, List.map_cons, trim_blanks_append hb]

theorem fragments_append_blanks {b : Text} (hb : ∀ c ∈ b, isBlank c = true) (t : Text) :
    fragments (t ++ b) = fragments t := by
  obtain ⟨ps, p, hps⟩ :=
    (List.eq_nil_or_concat' (t.splitOn ',')).resolve_left (List.splitOn_ne_nil ',' t)
  rw [fragments, fragments, splitOn_append_of_notMem hps (comma_notMem_of_blanks hb), hps,
    List.map_append, List.map_append, List.map_singleton, List.map_singleton,
    trim_append_blanks hb]

theorem fragments_trim (t : Text) : fragments (trim t) = fragments t := by
  obtain ⟨b, hb, ht⟩ := exists_eq_indent_append_trim t
  conv_rhs => rw [ht]
  rw [fragments_append_blanks hb, fragments_blanks_append fun c hc => isBlank_of_mem_indent hc]

theorem scope_trim (wrapper t : Text) : scope wrapper (trim t) = scope wrapper t := by
  rw [scope, scope, fragments_trim]

/-! ## A nested list -/

theorem fragments_scope (w : WrapperClass) (selectors : Text) :
    fragments (scope w.selector selectors) =
      (fragments selectors).map fun f => trim (scopeFragment w.selector f) := by
  have hne : (fragments selectors).map (scopeFragment w.selector) ≠ [] := by
    simpa using fragments_ne_nil selectors
  rw [scope, fragments_intercalate hne, List.map_map]
  · rfl
  · intro p hp hcomma
    obtain ⟨f, hf, rfl⟩ := List.mem_map.1 hp
    rcases mem_scopeFragment hcomma with hc | hc | hc
    · exact WrapperClass.notMem_selector w (by decide) hc
    · exact absurd hc (by decide)
    · exact comma_notMem_of_mem_fragments hf hc

/-- Behind the wrapper a nested selector goes on with the colon that it started with, or with a
    space. -/
theorem exists_scopeFragment_eq (wrapper f : Text) :
    ∃ c r, scopeFragment wrapper f = wrapper ++ c :: r ∧ (c = ':' ∨ c = ' ') := by
  by_cases hf : [':'] <+: f
  · obtain ⟨r, rfl⟩ := hf
    exact ⟨':', r, if_pos (List.prefix_append _ r), Or.inl rfl⟩
  · exact ⟨' ', f, if_neg hf, Or.inr rfl⟩

theorem exists_scope_eq (wrapper selectors : Text) :
    ∃ c r, scope wrapper selectors = wrapper ++ c :: r ∧ (c = ':' ∨ c = ' ') := by
  obtain ⟨f, fs, hfs⟩ := List.exists_cons_of_ne_nil (fragments_ne_nil selectors)
  obtain ⟨c, r, hr, hc⟩ := exists_scopeFragment_eq wrapper f
  rw [scope, hfs, List.map_cons, hr]
  cases fs with
  | nil => exact ⟨c, r, List.intercalate_singleton, hc⟩
  | cons g gs =>
    rw [List.map_cons, List.intercalate_cons_cons, List.append_assoc, List.append_assoc]
    exact ⟨c, r ++ _, rfl, hc⟩

/-- A class that a nested list starts with is one that the wrapper starts with, or goes on behind
    the wrapper with a colon. -/
theorem prefix_or_of_prefix_scope (h : v.selector <+: scope w.selector selectors) :
    v.selector <+: w.selector ∨ w.selector ++ [':'] <+: v.selector := by
  obtain ⟨c, r, heq, hc⟩ := exists_scope_eq w.selector selectors
  rw [heq] at h
  rcases List.prefix_or_prefix_of_prefix h (List.prefix_append w.selector (c :: r)) with hvw | ⟨t, ht⟩
  · exact Or.inl hvw
  · cases t with
    | nil => exact Or.inl ⟨[], by rw [List.append_nil, ← ht, List.append_nil]⟩
    | cons d t =>
      rw [← ht, List.prefix_append_right_inj, List.cons_prefix_cons] at h
      obtain rfl : d = c := h.1
      rcases hc with rfl | rfl
      · exact Or.inr ⟨t, by rw [← ht, List.append_assoc, List.singleton_append]⟩
      · have hspace : ' ' ∈ v.selector := by
          rw [← ht]
          exact List.mem_append_right _ List.mem_cons_self
        exact absurd hspace (WrapperClass.notMem_selector v (by decide))

/-- A list that starts with a class is no list for the document itself. -/
theorem not_isGlobal_of_prefix (h : w.selector <+: t) : ¬ IsGlobal t := by
  rintro ⟨word, hword, hstart⟩
  obtain ⟨r, rfl⟩ := h
  have hdot : ∀ word ∈ globals, word.head? ≠ some '.' ∧ word ≠ [] := by decide
  obtain ⟨d, word, rfl⟩ := List.exists_cons_of_ne_nil (hdot word hword).2
  rw [WrapperClass.selector, List.cons_append, List.cons_prefix_cons] at hstart
  exact (hdot _ hword).1 (congrArg some hstart.1)

/-! ## Nesting twice -/

theorem isTrimmed_scopeFragment (w : WrapperClass) (hne : f ≠ []) (hf : IsTrimmed f) :
    IsTrimmed (scopeFragment w.selector f) := by
  obtain ⟨s, d, rfl⟩ := (List.eq_nil_or_concat' f).resolve_left hne
  have hlast : ∃ s', scopeFragment w.selector (s ++ [d]) = s' ++ [d] := by
    rcases scopeFragment_eq w.selector (s ++ [d]) with heq | heq
    · exact ⟨w.selector ++ s, by rw [heq, List.append_assoc]⟩
    · exact ⟨w.selector ++ ' ' :: s, by rw [heq, List.append_assoc, List.cons_append]⟩
  refine ⟨fun c r hc => ?_, fun r c hc => ?_⟩
  · obtain ⟨r', hr'⟩ := prefix_scopeFragment w.selector (s ++ [d])
    rw [← hr'] at hc
    obtain ⟨rfl, -⟩ := List.cons.inj hc
    rfl
  · obtain ⟨s', hs'⟩ := hlast
    obtain ⟨-, hdc⟩ := List.append_inj' (hs'.symm.trans hc) rfl
    exact (List.cons.inj hdc).1 ▸ hf.last s d rfl

/-- Of an empty selector the wrapper is left, without the space behind it. -/
theorem trim_scopeFragment_nil (w : WrapperClass) :
    trim (scopeFragment w.selector []) = w.selector := by
  have hspace : scopeFragment w.selector [] = w.selector ++ [' '] := rfl
  rw [hspace, trim_append_blanks (List.forall_mem_singleton.2 rfl),
    trim_of_isTrimmed (WrapperClass.isTrimmed_selector w)]

/-- A selector nested under a class starts with a dot, so it goes under a second one as it is. -/
theorem scopeFragment_scopeFragment (v w : WrapperClass) (f : Text) :
    scopeFragment v.selector (scopeFragment w.selector f) =
      scopeFragment (v.selector ++ ' ' :: w.selector) f := by
  have hdot : ¬ [':'] <+: scopeFragment w.selector f := by
    obtain ⟨r, hr⟩ := prefix_scopeFragment w.selector f
    rw [← hr, WrapperClass.selector, List.cons_append, List.cons_prefix_cons]
    exact fun h => absurd h.1 (by decide)
  rw [scopeFragment, if_neg hdot]
  by_cases hf : [':'] <+: f
  · rw [scopeFragment, if_pos hf, scopeFragment, if_pos hf, List.append_assoc, List.cons_append]
  · rw [scopeFragment, if_neg hf, scopeFragment, if_neg hf, List.append_assoc, List.cons_append]

theorem scope_scope (v w : WrapperClass) (h : ∀ f ∈ fragments selectors, f ≠ []) :
    scope v.selector (scope w.selector selectors) =
      scope (v.selector ++ ' ' :: w.selector) selectors := by
  rw [scope, fragments_scope, scope, List.map_map]
  refine congrArg _ (List.map_congr_left fun f hf => ?_)
  have htrimmed := isTrimmed_scopeFragment w (h f hf) (isTrimmed_of_mem_fragments hf)
  rw [Function.comp_apply, trim_of_isTrimmed htrimmed, scopeFragment_scopeFragment]

/-! ## Confinement -/

/-- A character that goes on with the name of a class: a letter, a digit, a hyphen, an underscore
    or any character outside ASCII. -/
def continuesName (c : Char) : Bool :=
  c.isAlphanum || c == '-' || c == '_' || decide (128 ≤ c.toNat)

/-- A selector that is the wrapper, or starts with it and does not go on with its name. -/
def IsConfined (wrapper f : Text) : Prop :=
  f = wrapper ∨ ∃ c r, f = wrapper ++ c :: r ∧ continuesName c = false

/-- A class whose name goes on behind the wrapper's is not confined to the wrapper. -/
theorem not_isConfined_append (r : Text) {c : Char} (hc : continuesName c = true) :
    ¬ IsConfined wrapper (wrapper ++ c :: r) := by
  rintro (hself | ⟨d, t, heq, hd⟩)
  · exact absurd (List.append_right_eq_self.1 hself) (List.cons_ne_nil c r)
  · obtain ⟨rfl, -⟩ := List.cons.inj (List.append_cancel_left heq)
    rw [hc] at hd
    exact Bool.false_ne_true hd.symm

theorem isConfined_trim_scopeFragment (w : WrapperClass) (hf : IsTrimmed f) :
    IsConfined w.selector (trim (scopeFragment w.selector f)) := by
  by_cases hne : f = []
  · subst hne
    rw [trim_scopeFragment_nil]
    exact Or.inl rfl
  · rw [trim_of_isTrimmed (isTrimmed_scopeFragment w hne hf)]
    obtain ⟨c, r, heq, hc⟩ := exists_scopeFragment_eq w.selector f
    refine Or.inr ⟨c, r, heq, ?_⟩
    rcases hc with rfl | rfl
    · rfl
    · rfl

theorem isConfined_of_mem_fragments_scope (w : WrapperClass)
    (h : f ∈ fragments (scope w.selector selectors)) : IsConfined w.selector f := by
  rw [fragments_scope] at h
  obtain ⟨g, hg, rfl⟩ := List.mem_map.1 h
  exact isConfined_trim_scopeFragment w (isTrimmed_of_mem_fragments hg)

end StyleScope.SelectorList
