import ReqConflict.Text.Blank
import ReqConflict.Text.Escape

/-!
# Parentheses in tuple text

The parentheses of a tuple come in pairs, escaped ones aside, and no beginning
of it closes more of them than it opens.  So a beginning that leaves one open
is no tuple, and neither is such a beginning with blanks trimmed off its ends.
-/

namespace ReqConflict.Text

/-- What a character does to the number of open parentheses. -/
def opening (c : Char) : Int :=
  if c = '(' then 1 else if c = ')' then -1 else 0

/-- The number of parentheses that a text leaves open, escaped ones aside. -/
def openAfter : List Char → Int
  | [] => 0
  | ['\\'] => 0
  | '\\' :: _ :: rest => openAfter rest
  | c :: rest => opening c + openAfter rest

/-- A character that neither escapes, opens nor closes anything. -/
def IsPlain (c : Char) : Prop :=
  c ≠ '\\' ∧ c ≠ '(' ∧ c ≠ ')'

instance (c : Char) : Decidable (IsPlain c) :=
  inferInstanceAs (Decidable (c ≠ '\\' ∧ c ≠ '(' ∧ c ≠ ')'))

/-- Every parenthesis that is not escaped has its partner. -/
inductive Balanced : List Char → Prop
  | nil : Balanced []
  | plain {c : Char} {rest : List Char} (hc : IsPlain c) (hrest : Balanced rest) :
      Balanced (c :: rest)
  | escaped (c : Char) {rest : List Char} (hrest : Balanced rest) : Balanced ('\\' :: c :: rest)
  | group {inside rest : List Char} (hinside : Balanced inside) (hrest : Balanced rest) :
      Balanced ('(' :: (inside ++ ')' :: rest))

variable {text text' start blanks : List Char}

theorem openAfter_cons {c : Char} (hc : c ≠ '\\') (rest : List Char) :
    openAfter (c :: rest) = opening c + openAfter rest := by
  rw [openAfter]
  · exact fun heq _ => hc heq
  · exact fun _ _ heq _ => hc heq

theorem openAfter_plain {c : Char} (hc : IsPlain c) (rest : List Char) :
    openAfter (c :: rest) = openAfter rest := by
  rw [openAfter_cons hc.1, opening, if_neg hc.2.1, if_neg hc.2.2, Int.zero_add]

theorem openAfter_open (rest : List Char) : openAfter ('(' :: rest) = 1 + openAfter rest :=
  openAfter_cons (by decide) rest

theorem openAfter_close (rest : List Char) : openAfter (')' :: rest) = -1 + openAfter rest :=
  openAfter_cons (by decide) rest

theorem openAfter_escaped (c : Char) (rest : List Char) :
    openAfter ('\\' :: c :: rest) = openAfter rest := by
  rw [openAfter]

theorem Balanced.append (htext : Balanced text) (htext' : Balanced text') :
    Balanced (text ++ text') := by
  induction htext with
  | nil => exact htext'
  | plain hc _ ih => exact ih.plain hc
  | escaped c _ ih => exact ih.escaped c
  | group hinside _ _ ih =>
      rw [List.cons_append, List.append_assoc]
      exact hinside.group ih

theorem balanced_of_plain (htext : ∀ c ∈ text, IsPlain c) : Balanced text := by
  induction text with
  | nil => exact .nil
  | cons c text ih =>
      exact .plain (htext c List.mem_cons_self) (ih fun d hd => htext d (List.mem_cons_of_mem c hd))

theorem Balanced.parenthesized (htext : Balanced text) : Balanced ('(' :: (text ++ [')'])) :=
  htext.group .nil

theorem Balanced.openAfter_append (htext : Balanced text) (rest : List Char) :
    openAfter (text ++ rest) = openAfter rest := by
  induction htext generalizing rest with
  | nil => rfl
  | plain hc _ ih => rw [List.cons_append, openAfter_plain hc, ih]
  | escaped c _ ih => rw [List.cons_append, List.cons_append, openAfter_escaped, ih]
  | group _ _ ihInside ih =>
      rw [List.cons_append, List.append_assoc, List.cons_append, openAfter_open, ihInside,
        openAfter_close, ih]
      omega

theorem Balanced.openAfter_eq (htext : Balanced text) : openAfter text = 0 := by
  have happend := htext.openAfter_append []
  rw [List.append_nil] at happend
  exact happend

theorem prefix_append_cases (hstart : start <+: text ++ text') :
    start <+: text ∨ ∃ more, more <+: text' ∧ start = text ++ more := by
  rcases List.prefix_or_prefix_of_prefix hstart (List.prefix_append text text') with h | h
  · exact Or.inl h
  · obtain ⟨more, rfl⟩ := h
    exact Or.inr ⟨more, (List.prefix_append_right_inj text).mp hstart, rfl⟩

/-- No beginning of a balanced text closes more than it opens. -/
theorem Balanced.openAfter_nonneg (htext : Balanced text) (hstart : start <+: text) :
    0 ≤ openAfter start := by
  induction htext generalizing start with
  | nil =>
      rw [List.prefix_nil.mp hstart]
      exact Int.le_refl 0
  | plain hc _ ih =>
      rcases List.prefix_cons_iff.mp hstart with rfl | ⟨more, rfl, hmore⟩
      · exact Int.le_refl 0
      · rw [openAfter_plain hc]
        exact ih hmore
  | escaped c _ ih =>
      rcases List.prefix_cons_iff.mp hstart with rfl | ⟨more, rfl, hmore⟩
      · exact Int.le_refl 0
      · rcases List.prefix_cons_iff.mp hmore with rfl | ⟨left, rfl, hleft⟩
        · exact Int.le_refl 0
        · rw [openAfter_escaped]
          exact ih hleft
  | group hinside _ ihInside ih =>
      rcases List.prefix_cons_iff.mp hstart with rfl | ⟨more, rfl, hmore⟩
      · exact Int.le_refl 0
      · rw [openAfter_open]
        rcases prefix_append_cases hmore with hinner | ⟨beyond, hbeyond, rfl⟩
        · have hnonneg := ihInside hinner
          omega
        · rw [hinside.openAfter_append]
          rcases List.prefix_cons_iff.mp hbeyond with rfl | ⟨left, rfl, hleft⟩
          · decide
          · have hnonneg := ih hleft
            rw [openAfter_close]
            omega

/-- What accepts no backslash and no parenthesis accepts plain characters only. -/
theorem isPlain_of_accepts (accepts : Char → Bool) (hslash : accepts '\\' = false)
    (hopening : accepts '(' = false) (hclosing : accepts ')' = false) {c : Char}
    (hc : accepts c = true) : IsPlain c := by
  refine ⟨?_, ?_, ?_⟩
  · rintro rfl
    rw [hslash] at hc
    cases hc
  · rintro rfl
    rw [hopening] at hc
    cases hc
  · rintro rfl
    rw [hclosing] at hc
    cases hc

theorem isPlain_of_isBlank {c : Char} (hc : isBlank c = true) : IsPlain c :=
  isPlain_of_accepts isBlank (by decide) (by decide) (by decide) hc

/-- Plain characters at the end change nothing, also behind a lone backslash. -/
theorem openAfter_append_plain (hblanks : ∀ c ∈ blanks, IsPlain c) (text : List Char) :
    openAfter (text ++ blanks) = openAfter text := by
  have hplain : openAfter blanks = 0 := (balanced_of_plain hblanks).openAfter_eq
  induction text using openAfter.induct with
  | case1 => exact hplain
  | case2 =>
      cases blanks with
      | nil => rfl
      | cons c blanks =>
          -- the lone backslash escapes the first of the blanks
          have hrest : ∀ d ∈ blanks, IsPlain d := fun d hd => hblanks d (List.mem_cons_of_mem c hd)
          exact (openAfter_escaped c blanks).trans (balanced_of_plain hrest).openAfter_eq
  | case3 c rest ih =>
      rw [List.cons_append, List.cons_append, openAfter_escaped, openAfter_escaped, ih]
  | case4 c rest hlone hescape ih =>
      have hc : c ≠ '\\' := by
        rintro rfl
        cases rest with
        | nil => exact hlone rfl rfl
        | cons d rest => exact hescape d rest rfl rfl
      rw [List.cons_append, openAfter_cons hc, openAfter_cons hc, ih]

theorem exists_trimEnd (text : List Char) :
    ∃ blanks, text = trimEnd text ++ blanks ∧ ∀ c ∈ blanks, isBlank c = true := by
  refine ⟨(text.reverse.takeWhile isBlank).reverse, ?_, ?_⟩
  · rw [trimEnd, ← List.reverse_append, List.takeWhile_append_dropWhile, List.reverse_reverse]
  · intro c hc
    exact List.all_eq_true.mp List.all_takeWhile c (List.mem_reverse.mp hc)

theorem openAfter_trimEnd (text : List Char) : openAfter (trimEnd text) = openAfter text := by
  obtain ⟨blanks, htext, hblanks⟩ := exists_trimEnd text
  have happend := openAfter_append_plain (fun c hc => isPlain_of_isBlank (hblanks c hc))
    (trimEnd text)
  rw [← htext] at happend
  exact happend.symm

theorem openAfter_trimStart (text : List Char) : openAfter (trimStart text) = openAfter text := by
  induction text with
  | nil => rfl
  | cons c text ih =>
      cases hc : isBlank c with
      | false => rw [trimStart, List.dropWhile_cons_of_neg (by simp [hc])]
      | true =>
          rw [trimStart, List.dropWhile_cons_of_pos hc, openAfter_plain (isPlain_of_isBlank hc)]
          exact ih

theorem openAfter_trim (text : List Char) : openAfter (trim text) = openAfter text := by
  rw [trim, openAfter_trimEnd, openAfter_trimStart]

namespace Escape

theorem isPlain_of_not_isReserved {c : Char} (hc : isReserved c = false) : IsPlain c := by
  have hfree : (!isReserved c) = true := by rw [hc, Bool.not_false]
  exact isPlain_of_accepts (fun c => !isReserved c) (by decide) (by decide) (by decide) hfree

/-- What a value is read from is balanced, and it has a line feed in it just if the value
has one. -/
theorem balanced_of_decode {input value rest : List Char}
    (hdecode : decode input = some (value, rest)) :
    ∃ taken, input = taken ++ rest ∧ Balanced taken ∧ ('\n' ∈ taken ↔ '\n' ∈ value) := by
  induction input using decode.induct generalizing value with
  | case1 =>
      cases hdecode
      exact ⟨[], rfl, .nil, Iff.rfl⟩
  | case2 => cases hdecode
  | case3 c left ih =>
      rw [decode_escaped] at hdecode
      obtain ⟨⟨value', rest'⟩, hleft, heq⟩ := Option.map_eq_some_iff.mp hdecode
      cases heq
      obtain ⟨taken, rfl, hbalanced, hbreak⟩ := ih hleft
      refine ⟨'\\' :: c :: taken, rfl, hbalanced.escaped c, ?_⟩
      simp [hbreak]
  | case4 c left hlone hescape hreserved =>
      have hends : decode (c :: left) = some ([], c :: left) := by
        rw [decode, if_pos hreserved]
        · exact hlone
        · exact hescape
      rw [hends] at hdecode
      cases hdecode
      exact ⟨[], rfl, .nil, Iff.rfl⟩
  | case5 c left hlone hescape hreserved ih =>
      have hplain : isReserved c = false := by simpa using hreserved
      rw [decode_plain hplain] at hdecode
      obtain ⟨⟨value', rest'⟩, hleft, heq⟩ := Option.map_eq_some_iff.mp hdecode
      cases heq
      obtain ⟨taken, rfl, hbalanced, hbreak⟩ := ih hleft
      refine ⟨c :: taken, rfl, hbalanced.plain (isPlain_of_not_isReserved hplain), ?_⟩
      simp [hbreak]

end Escape

end ReqConflict.Text
