/-
  StyleScope.Proofs.SelectorList.Nesting

  Selector lists cut at every comma, and cut between their selectors.

  The selectors of a list are its pieces between the commas at which nothing is open
  (`pieces_intercalate`). Scoping cuts at every comma, so it nests the selectors one by one
  (`scope_intercalate`), but cuts further into each that holds a comma of its own: inside an
  argument, brackets or a quote. How often the wrapper was put in shows in the length of what is
  visible (`length_visible_nestEach`). So a list is nested selector by selector just when no
  selector holds a comma (`scope_intercalate_eq_iff`), and the attribute of `titled` is one that
  comes out changed.
-/
import StyleScope.Proofs.RuleLine.Visible
import StyleScope.SelectorList.Nesting

namespace StyleScope.SelectorList

open Text

variable {w : WrapperClass} {opened : List Char} {s t wrapper : Text} {ps sels : List Text}

/-! ## The selectors of a list -/

/-- A text with everything closed again, and without a comma at which nothing is open. -/
def IsSelector (s : Text) : Prop := IsBalanced s ∧ pieces s = [s]

/-- A comma behind a text that closes all that is open is a place where the list is cut. -/
theorem piecesFrom_append_comma (h : closesAll opened s = true) (t : Text) :
    piecesFrom opened (s ++ ',' :: t) = piecesFrom opened s ++ piecesFrom [] t := by
  induction s generalizing opened with
  | nil =>
    obtain rfl : opened = [] := List.isEmpty_iff.1 h
    rfl
  | cons c rest ih =>
    rw [closesAll, Bool.and_eq_true] at h
    have hrest := ih h.2
    rw [List.cons_append, piecesFrom, piecesFrom]
    by_cases hc : c = ',' ∧ opened = []
    · obtain ⟨rfl, rfl⟩ := hc
      -- A comma opens and closes nothing.
      have hopen : openAfter [] ',' = [] := rfl
      rw [hopen] at hrest
      rw [if_pos ⟨rfl, rfl⟩, if_pos ⟨rfl, rfl⟩, hrest, List.cons_append]
    · obtain ⟨p, more, hp⟩ :=
        List.exists_cons_of_ne_nil (piecesFrom_ne_nil (openAfter opened c) rest)
      rw [if_neg hc, if_neg hc, hrest, hp, List.cons_append, List.modifyHead_cons,
        List.modifyHead_cons, List.cons_append]

/-- A list that is written from selectors has these as its selectors. -/
theorem pieces_intercalate (hne : sels ≠ []) (h : ∀ s ∈ sels, IsSelector s) :
    pieces ([','].intercalate sels) = sels := by
  induction sels with
  | nil => exact absurd rfl hne
  | cons s rest ih =>
    obtain ⟨hbalanced, hpieces⟩ := h s List.mem_cons_self
    by_cases hrest : rest = []
    · subst hrest
      rw [List.intercalate_singleton, hpieces]
    · have htail := ih hrest fun r hr => h r (List.mem_cons_of_mem s hr)
      rw [List.intercalate_cons_of_ne_nil hrest, List.append_assoc, List.singleton_append, pieces,
        piecesFrom_append_comma hbalanced, ← pieces, ← pieces, hpieces, htail,
        List.singleton_append]

/-! ## Lists put together -/

theorem fragments_append_comma (s t : Text) :
    fragments (s ++ ',' :: t) = fragments s ++ fragments t := by
  rw [fragments, List.splitOn_append_cons_self, List.map_append]
  rfl

/-- Lists with a comma between them are scoped one by one. -/
theorem scope_append_comma (wrapper s t : Text) :
    scope wrapper (s ++ ',' :: t) = scope wrapper s ++ [',', ' '] ++ scope wrapper t := by
  have hne : ∀ r, (fragments r).map (scopeFragment wrapper) ≠ [] := by
    intro r hnil
    exact fragments_ne_nil r (List.map_eq_nil_iff.1 hnil)
  rw [scope, fragments_append_comma, List.map_append, intercalate_append (hne s) (hne t)]
  rfl

theorem scope_intercalate (wrapper : Text) (hne : ps ≠ []) :
    scope wrapper ([','].intercalate ps) = [',', ' '].intercalate (ps.map (scope wrapper)) := by
  induction ps with
  | nil => exact absurd rfl hne
  | cons p rest ih =>
    by_cases hrest : rest = []
    · subst hrest
      rw [List.intercalate_singleton, List.map_singleton, List.intercalate_singleton]
    · have hmap : rest.map (scope wrapper) ≠ [] := mt List.map_eq_nil_iff.1 hrest
      rw [List.intercalate_cons_of_ne_nil hrest, List.append_assoc, List.singleton_append,
        scope_append_comma, ih hrest, List.map_cons, List.intercalate_cons_of_ne_nil hmap]

/-! ## How often the wrapper is put in -/

/-- Texts that are nested one by one, trimmed and with commas between them. -/
def nestEach (wrapper : Text) (ps : List Text) : Text :=
  [',', ' '].intercalate (ps.map fun p => scopeFragment wrapper (trim p))

theorem scope_eq_nestEach (wrapper selectors : Text) :
    scope wrapper selectors = nestEach wrapper (selectors.splitOn ',') := by
  rw [scope, fragments, List.map_map]
  rfl

/-- The wrapper shows once for each of the texts. -/
theorem length_visible_nestEach (w : WrapperClass) (ps : List Text) :
    (visible (nestEach w.selector ps)).length =
      (visible ([','].intercalate ps)).length + w.selector.length * ps.length := by
  have hfragment : ∀ p : Text, visible (scopeFragment w.selector (trim p)) =
      w.selector ++ visible p := by
    intro p
    have htrim := skipsBlanks_visible.filter_trim p
    have hnest := filter_scopeFragment skipsBlanks_visible w.selector (trim p)
    rw [htrim] at hnest
    exact hnest.trans (congrArg (· ++ visible p) w.visible_selector)
  have hgap : [',', ' '].filter (fun c => !isBlank c) = [','] := by decide
  have hcomma : [','].filter (fun c => !isBlank c) = [','] := by decide
  have hnested : visible (nestEach w.selector ps) =
      [','].intercalate ((ps.map visible).map (w.selector ++ ·)) := by
    rw [visible, nestEach, filter_intercalate, hgap, List.map_map, List.map_map]
    exact congrArg _ (List.map_congr_left fun p _ => hfragment p)
  have hplain : visible ([','].intercalate ps) = [','].intercalate (ps.map visible) := by
    rw [visible, filter_intercalate, hcomma]
    rfl
  rw [hnested, hplain, length_intercalate_map_append, List.length_map]

/-- A list is nested text by text just when none of the texts holds a comma. -/
theorem scope_intercalate_eq_iff (w : WrapperClass) (hne : ps ≠ []) :
    scope w.selector ([','].intercalate ps) = nestEach w.selector ps ↔ ∀ p ∈ ps, ',' ∉ p := by
  constructor
  · intro h
    -- Otherwise the wrapper was put in more often than there are texts.
    rw [scope_eq_nestEach] at h
    have hlength := congrArg (fun t => (visible t).length) h
    simp only [length_visible_nestEach, List.intercalate_splitOn] at hlength
    have hpos : 0 < w.selector.length := Nat.succ_pos _
    have hcuts : (([','].intercalate ps).splitOn ',').length = ps.length :=
      Nat.eq_of_mul_eq_mul_left hpos (Nat.add_left_cancel hlength)
    have hcount := count_intercalate ',' hne
    rw [← length_splitOn, hcuts] at hcount
    have hnone : ',' ∉ ps.flatten := by
      rw [← List.count_eq_zero]
      omega
    intro p hp hmem
    exact hnone (List.mem_flatten.2 ⟨p, hp, hmem⟩)
  · intro h
    rw [scope_eq_nestEach, List.splitOn_intercalate ',' h hne]

/-! ## Selector by selector -/

/-- The selectors of a list are scoped one by one, and the list is nested selector by selector, each
    as a whole and under one wrapper, just when no selector holds a comma: every other list gets the
    wrapper inside a selector too. What the selectors of a list are is settled by the lists that are
    written from selectors. -/
theorem scope_eq_nestEach_pieces_iff (w : WrapperClass) :
    (∀ selectors : Text,
      scope w.selector selectors =
          [',', ' '].intercalate ((pieces selectors).map (scope w.selector)) ∧
        (∀ s ∈ pieces selectors,
          scope w.selector s = scopeFragment w.selector (trim s) ↔ ',' ∉ s) ∧
        (scope w.selector selectors = nestEach w.selector (pieces selectors) ↔
          ∀ s ∈ pieces selectors, ',' ∉ s)) ∧
    ∀ sels : List Text, sels ≠ [] → (∀ s ∈ sels, IsSelector s) →
      pieces ([','].intercalate sels) = sels := by
  refine ⟨fun selectors => ⟨?_, fun s _ => ?_, ?_⟩, fun sels => pieces_intercalate⟩
  · have hscope := scope_intercalate w.selector (piecesFrom_ne_nil [] selectors)
    rw [intercalate_piecesFrom] at hscope
    exact hscope
  · have hone := scope_intercalate_eq_iff w (List.cons_ne_nil s [])
    rw [List.intercalate_singleton, List.forall_mem_singleton, nestEach, List.map_singleton,
      List.intercalate_singleton] at hone
    exact hone
  · have hwhole := scope_intercalate_eq_iff w (piecesFrom_ne_nil [] selectors)
    rw [intercalate_piecesFrom] at hwhole
    exact hwhole

/-- An attribute whose value holds a comma: `[t="a,b"]`. -/
def titled : Text := ['[', 't', '=', '"', 'a', ',', 'b', '"', ']']

/-- A pseudo-class with two arguments: `:is(a,b)`. -/
def either : Text := [':', 'i', 's', '(', 'a', ',', 'b', ')']

/-- The attribute and the pseudo-class are the two selectors of a list, and neither is nested as a
    whole. -/
theorem scope_eq_nestEach_pieces_titled :
    (∀ s ∈ [titled, either], IsSelector s) ∧
      pieces (titled ++ ',' :: either) = [titled, either] ∧
      scope WrapperClass.dash.selector (titled ++ ',' :: either) ≠
        nestEach WrapperClass.dash.selector (pieces (titled ++ ',' :: either)) := by
  obtain ⟨hlists, hselectors⟩ := scope_eq_nestEach_pieces_iff WrapperClass.dash
  have hboth : ∀ s ∈ [titled, either], IsSelector s := by
    unfold IsSelector
    decide
  have hpieces : pieces (titled ++ ',' :: either) = [titled, either] :=
    hselectors [titled, either] (by decide) hboth
  refine ⟨hboth, hpieces, fun heq => ?_⟩
  have hnone := (hlists (titled ++ ',' :: either)).2.2.1 heq titled
  rw [hpieces] at hnone
  exact hnone List.mem_cons_self (by decide)

/-- The wrapper is put into the value of an attribute, though the list has one selector and
    everything in it is closed again. -/
theorem scope_titled_ne_nestEach :
    IsBalanced titled ∧ pieces titled = [titled] ∧
      scope WrapperClass.dash.selector titled ≠
        nestEach WrapperClass.dash.selector (pieces titled) ∧
      scope WrapperClass.dash.selector titled = WrapperClass.dash.selector ++
        ' ' :: ['[', 't', '=', '"', 'a', ',', ' '] ++ WrapperClass.dash.selector ++
        ' ' :: ['b', '"', ']'] := by
  refine ⟨by decide, by decide, by decide, by decide⟩

end StyleScope.SelectorList
