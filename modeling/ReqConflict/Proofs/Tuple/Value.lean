import ReqConflict.Proofs.Text.Reading
import ReqConflict.Tuple.Grammar

/-!
# Values, flags, markers and numbers

These are the texts without parts.  A flag is optional and tried first, so the
text behind a flag that is not set must not look like it.  Escaping sees to
that: a flag is made of plain characters, and a plain beginning of an escaped
value is a beginning of the value itself.
-/

namespace ReqConflict

namespace Text.Escape

variable {flags : List String} {value rest left : List Char}

theorem isReserved_of_ends {c : Char} (hends : Ends (c :: left)) : isReserved c = true :=
  hends.1

theorem encodeBeside_nil (value : List Char) : encodeBeside [] value = encode value := by
  cases value with
  | nil => rfl
  | cons c value => simp [encodeBeside]

theorem head?_encode (c : Char) (value : List Char) :
    (encode (c :: value)).head? = if isReserved c then some '\\' else some c := by
  rw [encode, List.flatMap_cons, encodeChar]
  split <;> rfl

theorem head?_encodeBeside_ne {d : Char} (hreserved : isReserved d = true) (hplain : d ≠ '\\')
    (hvalue : value ≠ []) : (encodeBeside flags value ++ rest).head? ≠ some d := by
  cases value with
  | nil => exact absurd rfl hvalue
  | cons c value =>
      have hhead : (encodeBeside flags (c :: value)).head? = some '\\' ∨
          (encodeBeside flags (c :: value)).head? = some c ∧ isReserved c = false := by
        rw [encodeBeside]
        split
        · exact Or.inl rfl
        · rw [head?_encode]
          split
          · exact Or.inl rfl
          · rename_i hc
            exact Or.inr ⟨rfl, by simpa using hc⟩
      rw [List.head?_append]
      rcases hhead with hhead | ⟨hhead, hc⟩
      · rw [hhead]
        simpa using Ne.symm hplain
      · rw [hhead]
        intro heq
        have hcd : c = d := by simpa using heq
        rw [hcd, hreserved] at hc
        cases hc

/-- A plain beginning of a written value is a beginning of the value. -/
theorem prefix_of_encode {word : List Char} (hword : ∀ c ∈ word, isReserved c = false)
    (hrest : Ends rest) (heq : encode value ++ rest = word ++ left) : word <+: value := by
  induction word generalizing value with
  | nil => exact List.nil_prefix
  | cons c word ih =>
      have hc : isReserved c = false := hword c List.mem_cons_self
      cases value with
      | nil =>
          have hrest' : rest = c :: (word ++ left) := heq
          rw [hrest'] at hrest
          rw [isReserved_of_ends hrest] at hc
          cases hc
      | cons d value =>
          rw [encode, List.flatMap_cons, List.append_assoc, encodeChar] at heq
          by_cases hd : isReserved d
          · rw [if_pos hd] at heq
            have hslash : '\\' = c := (List.cons.inj heq).1
            rw [← hslash] at hc
            cases hc
          · rw [if_neg hd] at heq
            obtain ⟨hdc, htail⟩ := List.cons.inj heq
            have hprefix : word <+: value :=
              ih (fun d hd => hword d (List.mem_cons_of_mem c hd)) htail
            rw [hdc]
            exact List.cons_prefix_cons.mpr ⟨rfl, hprefix⟩

/-- A value written beside a flag does not start like the flag. -/
theorem dropWord_encodeBeside {flag : String} (hflag : flag ∈ flags)
    (hplain : ∀ c ∈ flag.toList, isReserved c = false) (hne : flag.toList ≠ [])
    (hrest : Ends rest) :
    Parser.dropWord flag.toList (encodeBeside flags value ++ rest) = none := by
  rw [Option.eq_none_iff_forall_not_mem]
  intro left hleft
  have heq : encodeBeside flags value ++ rest = flag.toList ++ left :=
    Parser.dropWord_eq_some_iff.mp hleft
  have hbeside : ∀ c input, c :: input = flag.toList ++ left → isReserved c = false := by
    intro c input hinput
    cases hword : flag.toList with
    | nil => exact absurd hword hne
    | cons d word =>
        rw [hword] at hinput
        have hcd : c = d := (List.cons.inj hinput).1
        exact hcd ▸ hplain d (hword ▸ List.mem_cons_self)
  cases value with
  | nil =>
      cases rest with
      | nil => exact absurd (List.append_eq_nil_iff.mp heq.symm).1 hne
      | cons c rest =>
          have hc := hbeside c rest heq
          rw [isReserved_of_ends hrest] at hc
          cases hc
  | cons c value =>
      rw [encodeBeside] at heq
      split at heq
      · have hslash := hbeside _ _ heq
        cases hslash
      · rename_i hnone
        have hprefix : flag.toList <+: c :: value := prefix_of_encode hplain hrest heq
        apply hnone
        rw [List.any_eq_true]
        exact ⟨flag, hflag, List.isPrefixOf_iff_prefix.mpr hprefix⟩

end Text.Escape

namespace Tuple

open Text Text.Parser Text.Escape

variable {rest : List Char}

theorem value_reads (flags : List String) (value : List Char) :
    Reads Grammar.value (encodeBeside flags value) value True Ends [] := by
  apply Reads.of_done
  intro rest hrest
  rw [Grammar.value, decode_encodeBeside flags value hrest]

/-- An empty value cannot be read where one has to stand. -/
theorem nonemptyValue_reads (flags : List String) (value : List Char) :
    Reads Grammar.nonemptyValue (encodeBeside flags value) value (value ≠ []) Ends [] where
  done := by
    intro hvalue rest hrest
    have hread := (value_reads flags value).done trivial rest hrest
    have hfull : (!value.isEmpty) = true := by simpa using hvalue
    rw [Grammar.nonemptyValue, Parser.satisfying, hread]
    simp only [hfull, if_true]
  stopsAt := by
    intro hvalue rest hrest
    have hread := (value_reads flags value).done trivial rest hrest
    have hempty : (!value.isEmpty) = false := by simpa using hvalue
    rw [Grammar.nonemptyValue, Parser.satisfying, hread]
    simp only [hempty]
    exact Reply.stopsAt_fail [] false _

theorem nonemptyValue_isOpen (hrest : Ends rest) : (Grammar.nonemptyValue rest).IsOpen := by
  refine ⟨[⟨rest, .part "Verify"⟩], ?_⟩
  rw [Grammar.nonemptyValue, Parser.satisfying, Grammar.value, decode_of_ends hrest]
  rfl

theorem flagged_reads (text : String) (isSet : Bool) :
    Reads (Grammar.flagged text) (flag text isSet) isSet True
      (fun rest => isSet = false → dropWord text.toList rest = none) [] := by
  apply Reads.of_done
  intro rest hrest
  cases isSet with
  | false =>
      obtain ⟨trace, htrace⟩ := word_isOpen (hrest rfl)
      have hnone : Parser.optional (word text) rest = .done none rest := by
        rw [Parser.optional, htrace]
      exact bind_done hnone
  | true =>
      have hword := (Reads.word text).done trivial rest trivial
      have hsome : Parser.optional (word text) (text.toList ++ rest) = .done (some ()) rest := by
        rw [Parser.optional, hword]
      exact bind_done hsome

theorem marker_reads {α : Type} (text : String) (meaning : α) :
    Reads (Grammar.marker text meaning) text.toList meaning True Anything [] :=
  (Reads.word text).map fun _ => meaning

theorem marker_isOpen {α : Type} {text : String} (hdrop : dropWord text.toList rest = none)
    (meaning : α) : (Grammar.marker text meaning rest).IsOpen :=
  bind_isOpen (word_isOpen hdrop)

theorem decimal_toDigits (n : Nat) : Grammar.decimal (Nat.toDigits 10 n) = n := by
  have hfold : Grammar.decimal (Nat.toDigits 10 n) =
      Nat.ofDigitChars 10 (Nat.toDigits 10 n) 0 := by
    simp only [Grammar.decimal, Nat.ofDigitChars_eq_foldl, Nat.mul_comm]
  rw [hfold]
  exact Nat.ofDigitChars_ten_toDigits

/-- Decimal digits that stand for a number of 32 bits; there may be zeros in
front. -/
structure Numeral (digits : List Char) (n : UInt32) : Prop where
  ne_nil : digits ≠ []
  isDigit : ∀ c ∈ digits, c.isDigit = true
  decimal_eq : Grammar.decimal digits = n.toNat

theorem numeral_number (n : UInt32) : Numeral (number n) n where
  ne_nil := Nat.toDigits_ne_nil
  isDigit := fun _ hc => Nat.isDigit_of_mem_toDigits (by omega) (by omega) hc
  decimal_eq := decimal_toDigits n.toNat

theorem Numeral.reads {digits : List Char} {n : UInt32} (hdigits : Numeral digits n) :
    Reads Grammar.number digits n True (fun rest => ∀ c ∈ rest.head?, c.isDigit = false) [] := by
  apply Reads.of_done
  intro rest hrest
  have hspan : span1 "Digit" Char.isDigit (digits ++ rest) = .done digits rest :=
    span1_done hdigits.isDigit hdigits.ne_nil hrest
  have hsize : n.toNat < UInt32.size := n.toNat_lt_size
  rw [Grammar.number, converted, hspan]
  simp only [hdigits.decimal_eq, hsize, if_true, UInt32.ofNat_toNat]

end Tuple

end ReqConflict
