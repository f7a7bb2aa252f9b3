/-
  StyleScope.Proofs.Text.Pieces

  Texts and paths cut into pieces at a character or a byte, and pieces put together.

  The pieces of a text hold its characters without the one it is cut at (`notMem_of_mem_splitOn`,
  `mem_of_mem_splitOn`), and what is put in front of a text or behind it goes to the first or the
  last of them (`splitOn_of_notMem_append`, `splitOn_append_of_notMem`). How many there are tells
  how often that character stood in the text (`length_splitOn`, `count_intercalate`). For lines this
  means that no line holds a line feed. A new body in front of a line's carriage return is read
  back, unless it ends in a carriage return of its own (`body_append_ending_of`).
-/
import StyleScope.Proofs.Text.Trimmed
import StyleScope.Text.Basic

namespace StyleScope.Text

section

variable {α : Type} {x c : α} {s t p piece sep : List α} {ps qs : List (List α)}

/-! ## Putting together -/

/-- What pieces put together hold, a piece or the text between them holds. -/
theorem mem_intercalate_iff (pieces : List (List α)) :
    c ∈ sep.intercalate pieces ↔
      (∃ piece ∈ pieces, c ∈ piece) ∨ c ∈ sep ∧ 1 < pieces.length := by
  induction pieces with
  | nil => simp
  | cons p rest ih =>
    rcases rest with _ | ⟨q, rest⟩
    · simp
    · rw [List.intercalate_cons_cons, List.mem_append, List.mem_append, ih]
      simp only [List.mem_cons, exists_eq_or_imp, List.length_cons]
      constructor
      · rintro ((h | h) | h | ⟨h, -⟩)
        · exact Or.inl (Or.inl h)
        · exact Or.inr ⟨h, by omega⟩
        · exact Or.inl (Or.inr h)
        · exact Or.inr ⟨h, by omega⟩
      · rintro ((h | h) | ⟨h, -⟩)
        · exact Or.inl (Or.inl h)
        · exact Or.inr (Or.inl h)
        · exact Or.inl (Or.inr h)

theorem intercalate_concat_append (ps : List (List α)) (p s : List α) :
    sep.intercalate (ps ++ [p ++ s]) = sep.intercalate (ps ++ [p]) ++ s := by
  induction ps with
  | nil => simp
  | cons q rest ih =>
    have hne : ∀ r : List α, rest ++ [r] ≠ [] := by simp
    rw [List.cons_append, List.cons_append, List.intercalate_cons_of_ne_nil (hne _),
      List.intercalate_cons_of_ne_nil (hne _), ih, ← List.append_assoc]

/-- Pieces put together are the first of them and the others, with what stands between any two. -/
theorem intercalate_append (hps : ps ≠ []) (hqs : qs ≠ []) :
    sep.intercalate (ps ++ qs) = sep.intercalate ps ++ sep ++ sep.intercalate qs := by
  induction ps with
  | nil => exact absurd rfl hps
  | cons p rest ih =>
    by_cases hrest : rest = []
    · subst hrest
      rw [List.singleton_append, List.intercalate_cons_of_ne_nil hqs, List.intercalate_singleton]
    · have hmore : rest ++ qs ≠ [] := List.append_ne_nil_of_left_ne_nil hrest qs
      rw [List.cons_append, List.intercalate_cons_of_ne_nil hmore, ih hrest,
        List.intercalate_cons_of_ne_nil hrest]
      simp only [List.append_assoc]

/-! ## Cutting -/

variable [BEq α]

/-- A text is cut once at each place of the character. -/
theorem length_splitOn (x : α) (t : List α) : (t.splitOn x).length = t.count x + 1 := by
  induction t with
  | nil => rfl
  | cons c rest ih =>
    rw [List.splitOn_cons_eq_if_modifyHead, List.count_cons]
    split
    · rw [List.length_cons, ih]
    · rw [List.length_modifyHead, ih, Nat.add_zero]

variable [LawfulBEq α]

/-- Pieces put together with a character hold it once between any two, and where they hold it. -/
theorem count_intercalate (x : α) (hps : ps ≠ []) :
    ([x].intercalate ps).count x + 1 = ps.flatten.count x + ps.length := by
  induction ps with
  | nil => exact absurd rfl hps
  | cons p rest ih =>
    by_cases hrest : rest = []
    · subst hrest
      simp
    · have htail := ih hrest
      rw [List.intercalate_cons_of_ne_nil hrest, List.count_append, List.count_append,
        List.flatten_cons, List.count_append, List.count_singleton_self, List.length_cons]
      omega

theorem notMem_of_mem_splitOn (h : piece ∈ t.splitOn x) : x ∉ piece := by
  induction t generalizing piece with
  | nil =>
    rw [List.splitOn_nil, List.mem_singleton] at h
    simp [h]
  | cons d r ih =>
    rw [List.splitOn_cons_eq_if_modifyHead] at h
    split at h
    · rcases List.mem_cons.1 h with rfl | h
      · exact List.not_mem_nil
      · exact ih h
    · rename_i hd
      -- The character goes to the first piece of the rest.
      obtain ⟨p, ps, hp⟩ := List.exists_cons_of_ne_nil (List.splitOn_ne_nil x r)
      rw [hp, List.modifyHead_cons] at h
      rcases List.mem_cons.1 h with rfl | h
      · have hx : x ∉ p := ih (hp ▸ List.mem_cons_self)
        have hdx : x ≠ d := fun hxd => hd (beq_iff_eq.2 hxd.symm)
        simp [hx, hdx]
      · exact ih (hp ▸ List.mem_cons_of_mem p h)

theorem mem_of_mem_splitOn (h : piece ∈ t.splitOn x) (hc : c ∈ piece) : c ∈ t := by
  have hwhole : [x].intercalate (t.splitOn x) = t := List.intercalate_splitOn x
  rw [← hwhole, mem_intercalate_iff]
  exact Or.inl ⟨piece, h, hc⟩

/-! ## Text in front of the first piece and behind the last -/

theorem splitOn_of_notMem_append (h : t.splitOn x = p :: ps) (hs : x ∉ s) :
    (s ++ t).splitOn x = (s ++ p) :: ps := by
  induction s with
  | nil => exact h
  | cons c r ih =>
    obtain ⟨hc, hr⟩ := not_or.1 (mt List.mem_cons.2 hs)
    rw [List.cons_append, List.splitOn_cons_eq_if_modifyHead,
      if_neg fun heq => hc (beq_iff_eq.1 heq).symm, ih hr]
    rfl

theorem splitOn_append_of_notMem (h : t.splitOn x = ps ++ [p]) (hs : x ∉ s) :
    (t ++ s).splitOn x = ps ++ [p ++ s] := by
  have hpieces : ∀ q ∈ ps ++ [p ++ s], x ∉ q := by
    have hold : ∀ q ∈ ps ++ [p], x ∉ q := fun q hq => notMem_of_mem_splitOn (h ▸ hq)
    intro q hq
    rcases List.mem_append.1 hq with hq | hq
    · exact hold q (List.mem_append_left _ hq)
    · obtain rfl := List.mem_singleton.1 hq
      have hp : x ∉ p := hold p (List.mem_append_right _ (List.mem_singleton.2 rfl))
      simp [hp, hs]
  have hwhole : t ++ s = [x].intercalate (ps ++ [p ++ s]) := by
    rw [intercalate_concat_append, ← h, List.intercalate_splitOn]
  rw [hwhole]
  exact List.splitOn_intercalate x hpieces (by simp)

end

/-! ## Lines -/

variable {c : Char} {t l : Text} {ps : List Text}

/-- A line feed between two texts keeps their lines apart. -/
theorem lines_append_newline (a b : Text) : lines (a ++ '\n' :: b) = lines a ++ lines b :=
  List.splitOn_append_cons_self a b

theorem lines_of_newline_notMem (h : '\n' ∉ l) : lines l = [l] := List.splitOn_eq_singleton h

theorem joinLines_singleton (l : Text) : joinLines [l] = l := List.intercalate_singleton

theorem joinLines_cons (l : Text) (h : ps ≠ []) :
    joinLines (l :: ps) = l ++ '\n' :: joinLines ps := by
  rw [joinLines, List.intercalate_cons_of_ne_nil h, List.append_assoc]
  rfl

/-- Lines put together are the first of them and the others, with a line feed. -/
theorem joinLines_append {qs : List Text} (hps : ps ≠ []) (hqs : qs ≠ []) :
    joinLines (ps ++ qs) = joinLines ps ++ '\n' :: joinLines qs := by
  rw [joinLines, intercalate_append hps hqs, List.append_assoc]
  rfl

theorem newline_notMem_of_mem_lines (h : l ∈ lines t) : '\n' ∉ l := notMem_of_mem_splitOn h

theorem mem_of_mem_body (h : c ∈ body l) : c ∈ l := by
  rw [← body_append_ending l]
  exact List.mem_append_left _ h

theorem body_append_ending_of (h : t.getLast? ≠ some '\r') (l : Text) :
    body (t ++ ending l) = t := by
  by_cases hl : l.getLast? = some '\r'
  · simp [body, ending, hl]
  · simp [body, ending, hl, h]

theorem ending_append_ending_of (h : t.getLast? ≠ some '\r') (l : Text) :
    ending (t ++ ending l) = ending l := by
  have hsplit := body_append_ending (t ++ ending l)
  rw [body_append_ending_of h l] at hsplit
  exact List.append_cancel_left hsplit

/-- The carriage return is a blank, so trimming takes it off. -/
theorem trim_body (l : Text) : trim (body l) = trim l := by
  have hblank : ∀ c ∈ ending l, isBlank c = true := by
    intro c hc
    unfold ending at hc
    split at hc
    · obtain rfl := List.mem_singleton.1 hc
      rfl
    · exact absurd hc List.not_mem_nil
  conv_rhs => rw [← body_append_ending l]
  rw [trim_append_blanks hblank]

/-- A text that ends in no carriage return is its own body. -/
theorem body_of_getLast?_ne (h : t.getLast? ≠ some '\r') : body t = t := if_neg h

end StyleScope.Text
