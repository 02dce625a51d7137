import ReqConflict.Proofs.Text.Balance

/-!
# Lines

A text up to its first line feed is its first line, a carriage return at the
end aside.  Trimming takes the carriage return as well, so a trimmed line is
the trimmed text in front of the line feed.  A text with balanced parentheses
that breaks only between them leaves one open on its first line.
-/

namespace ReqConflict.Text

variable {text text' start line : List Char}

theorem linesFrom_break (htext : '\n' ∉ text) (line rest : List Char) :
    linesFrom line (text ++ '\n' :: rest) =
      closeLine (text.reverse ++ line) :: linesFrom [] rest := by
  induction text generalizing line with
  | nil => rfl
  | cons c text ih =>
      have hc : c ≠ '\n' := fun heq => htext (heq ▸ List.mem_cons_self)
      have hrest : '\n' ∉ text := fun hmem => htext (List.mem_cons_of_mem c hmem)
      rw [List.cons_append, linesFrom, ih hrest, List.reverse_cons, List.append_assoc]
      · rfl
      · exact hc

theorem lines_break (htext : '\n' ∉ text) (rest : List Char) :
    lines (text ++ '\n' :: rest) = closeLine text.reverse :: lines rest := by
  rw [lines, linesFrom_break htext, List.append_nil, lines]

theorem mem_of_mem_closeLine {c : Char} (hc : c ∈ closeLine line) : c ∈ line := by
  unfold closeLine at hc
  split at hc
  · exact List.mem_cons_of_mem _ (List.mem_reverse.mp hc)
  · exact List.mem_reverse.mp hc

theorem not_mem_of_mem_linesFrom {current : List Char} (hcurrent : '\n' ∉ current)
    (hline : line ∈ linesFrom current text) : '\n' ∉ line := by
  induction text generalizing current with
  | nil =>
      rw [linesFrom] at hline
      split at hline
      · cases hline
      · rw [List.mem_singleton.mp hline]
        simpa using hcurrent
  | cons c rest ih =>
      by_cases hc : c = '\n'
      · subst hc
        rw [linesFrom] at hline
        rcases List.mem_cons.mp hline with rfl | hline
        · exact fun hmem => hcurrent (mem_of_mem_closeLine hmem)
        · exact ih (by simp) hline
      · rw [linesFrom] at hline
        · refine ih ?_ hline
          intro hmem
          rcases List.mem_cons.mp hmem with heq | hmem
          · exact hc heq.symm
          · exact hcurrent hmem
        · exact hc

theorem not_mem_of_mem_lines (hline : line ∈ lines text) : '\n' ∉ line :=
  not_mem_of_mem_linesFrom (by simp) hline

theorem mem_of_mem_trimEnd {c : Char} (hc : c ∈ trimEnd text) : c ∈ text := by
  obtain ⟨blanks, htext, _⟩ := exists_trimEnd text
  rw [htext]
  exact List.mem_append_left blanks hc

theorem mem_of_mem_trim {c : Char} (hc : c ∈ trim text) : c ∈ text :=
  (List.dropWhile_sublist isBlank).mem (mem_of_mem_trimEnd hc)

/-- The end of a line does not outlive trimming. -/
theorem trimEnd_closeLine (text : List Char) : trimEnd (closeLine text.reverse) = trimEnd text := by
  unfold closeLine
  split
  · rename_i line heq
    have hblank : isBlank '\r' = true := by decide
    rw [trimEnd, trimEnd, List.reverse_reverse, heq, List.dropWhile_cons_of_pos hblank]
  · rw [List.reverse_reverse]

/-- Blanks at the end do not outlive trimming. -/
theorem trimEnd_append_blanks {blanks : List Char} (hblanks : ∀ c ∈ blanks, isBlank c = true)
    (text : List Char) : trimEnd (text ++ blanks) = trimEnd text := by
  have hreverse : ∀ c ∈ blanks.reverse, isBlank c = true :=
    fun c hc => hblanks c (List.mem_reverse.mp hc)
  rw [trimEnd, trimEnd, List.reverse_append, List.dropWhile_append_of_pos hreverse]

theorem trim_trimEnd (text : List Char) : trim (trimEnd text) = trim text := by
  obtain ⟨blanks, htext, hblanks⟩ := exists_trimEnd text
  have hnone : trimStart (blanks ++ []) = trimStart [] := List.dropWhile_append_of_pos hblanks
  have hstart : trimStart (trimEnd text ++ blanks) =
      if (trimStart (trimEnd text)).isEmpty then trimStart blanks
      else trimStart (trimEnd text) ++ blanks :=
    List.dropWhile_append
  rw [← htext] at hstart
  rw [trim, trim, hstart]
  split
  · rename_i hempty
    rw [List.isEmpty_iff.mp hempty, ← List.append_nil blanks, hnone]
    rfl
  · rw [trimEnd_append_blanks hblanks]

theorem length_trimEnd_le (text : List Char) : (trimEnd text).length ≤ text.length := by
  simpa [trimEnd] using (List.dropWhile_sublist isBlank (l := text.reverse)).length_le

theorem length_trim_le (text : List Char) : (trim text).length ≤ (trimEnd text).length := by
  rw [← trim_trimEnd]
  exact Nat.le_trans (length_trimEnd_le _) (List.dropWhile_sublist isBlank).length_le

/-- Trimming does not reach back beyond a character that is not blank. -/
theorem prefix_trimEnd {c : Char} (hc : isBlank c = false) (hstart : start ++ [c] <+: text) :
    start ++ [c] <+: trimEnd text := by
  obtain ⟨blanks, htext, hblanks⟩ := exists_trimEnd text
  have hstart' : start ++ [c] <+: trimEnd text ++ blanks := htext ▸ hstart
  rcases prefix_append_cases hstart' with hprefix | ⟨more, hmore, heq⟩
  · exact hprefix
  · -- a beginning that goes on into the blanks ends with one of them
    rcases List.eq_nil_or_concat more with rfl | ⟨more', d, rfl⟩
    · rw [List.append_nil] at heq
      exact heq ▸ List.prefix_rfl
    · have hlast : c = d := by
        rw [List.concat_eq_append, ← List.append_assoc] at heq
        exact (List.append_singleton_inj.mp heq).2
      have hblank : isBlank c = true := by
        rw [hlast]
        exact hblanks d (hmore.subset (by simp))
      rw [hc] at hblank
      cases hblank

/-- Every line feed of a text stands between parentheses. -/
def BreaksInside (text : List Char) : Prop :=
  ∀ before after, text = before ++ '\n' :: after → 0 < openAfter before

theorem breaksInside_of_not_mem (htext : '\n' ∉ text) : BreaksInside text := by
  intro before after heq
  exact absurd (by simp [heq]) htext

theorem Balanced.breaksInside_parenthesized (htext : Balanced text) :
    BreaksInside ('(' :: (text ++ [')'])) := by
  intro before after heq
  cases before with
  | nil => cases heq
  | cons c start =>
      obtain ⟨hc, hinside⟩ := List.cons.inj heq
      have hprefix : start <+: text := by
        rcases List.append_eq_append_iff.mp hinside with ⟨more, rfl, hmore⟩ | ⟨more, htext, _⟩
        · cases more with
          | nil => simp
          | cons d more => simp at hmore
        · exact ⟨more, htext.symm⟩
      have hnonneg := htext.openAfter_nonneg hprefix
      rw [← hc, openAfter_open]
      omega

theorem BreaksInside.append (hbreaks : BreaksInside text) (htext : Balanced text)
    (hbreaks' : BreaksInside text') : BreaksInside (text ++ text') := by
  intro before after heq
  rcases List.append_eq_append_iff.mp heq with ⟨more, rfl, hmore⟩ | ⟨more, htext', hmore⟩
  · rw [htext.openAfter_append]
    exact hbreaks' more after hmore
  · cases more with
    | nil =>
        rw [List.append_nil] at htext'
        subst htext'
        have hpositive := hbreaks' [] after hmore.symm
        exact absurd hpositive (by decide)
    | cons c more =>
        obtain ⟨rfl, hafter⟩ := List.cons.inj hmore
        exact hbreaks before more htext'

end ReqConflict.Text
