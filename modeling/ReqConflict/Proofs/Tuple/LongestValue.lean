import ReqConflict.Proofs.Tuple.Value

/-!
# The longest value

A value is read by a loop.  It takes runs of plain characters by turns with
pairs of a backslash and any character, and stops at the end of the input or at
a reserved character.  A reserved character at the very beginning and a
backslash at the very end make it fail, and then nothing is taken at all.

What is taken, if the loop does not run into such a backslash, is the longest
beginning of the input that is made of plain characters and pairs.  The value
is that beginning with the second character in place of each pair.
-/

namespace ReqConflict

namespace Text

namespace Parser

/-- Goes on reading an input behind what is `read` of it, at most `bound` times a run or an
escape. -/
def transformedUpTo (run : Parser (List Char)) (control : Char) (escaped : Parser Char)
    (input : List Char) : Nat → List Char → List Char → Reply (List Char)
  | 0, read, rest => .done read rest
  | _ + 1, read, [] => .done read []
  | bound + 1, read, c :: behind =>
      match run (c :: behind) with
      | .done taken left =>
          if left.isEmpty then .done (read ++ taken) []
          else if left.length = input.length then .done (read ++ taken) (c :: behind)
          else transformedUpTo run control escaped input bound (read ++ taken) left
      | .fail true trace => .fail true trace
      | .fail false _ =>
          if c = control then
            if behind.isEmpty then .fail false [⟨c :: behind, .part "EscapedTransform"⟩]
            else
              match escaped behind with
              | .done d left =>
                  if left.isEmpty then .done (read ++ [d]) []
                  else transformedUpTo run control escaped input bound (read ++ [d]) left
              | .fail committed trace => .fail committed trace
          else if (c :: behind).length = input.length then
            .fail false [⟨c :: behind, .part "EscapedTransform"⟩]
          else .done read (c :: behind)

/-- Runs taken by one part, by turns with a control character and what another part takes behind
it.  A run takes at least one character, so the length of the input bounds how often. -/
def transformed (run : Parser (List Char)) (control : Char) (escaped : Parser Char) :
    Parser (List Char) :=
  fun input => transformedUpTo run control escaped input input.length [] input

end Parser

namespace Escape

open ReqConflict.Text.Parser (transformed transformedUpTo)

variable {input taken left rest value : List Char} {c : Char}

/-- A run of characters that are not reserved. -/
def plainRun : Parser (List Char) :=
  Parser.span1 "IsNot" fun c => !isReserved c

def anyCharacter : Parser Char :=
  Parser.oneOf "Eof" fun _ => true

theorem exists_plainRun_done (hc : isReserved c = false) (rest : List Char) :
    ∃ taken left, c :: rest = taken ++ left ∧ taken ≠ [] ∧ (∀ d ∈ taken, isReserved d = false) ∧
      plainRun (c :: rest) = .done taken left := by
  refine ⟨c :: rest.takeWhile fun d => !isReserved d, rest.dropWhile fun d => !isReserved d,
    ?_, List.cons_ne_nil _ _, ?_, ?_⟩
  · rw [List.cons_append, List.takeWhile_append_dropWhile]
  · intro d hd
    rcases List.mem_cons.mp hd with rfl | hd
    · exact hc
    · simpa using List.all_eq_true.mp List.all_takeWhile d hd
  · simp [plainRun, Parser.span1, hc]

theorem plainRun_isOpen (hc : isReserved c = true) (rest : List Char) :
    (plainRun (c :: rest)).IsOpen :=
  ⟨[⟨c :: rest, .part "IsNot"⟩], by simp [plainRun, Parser.span1, hc]⟩

theorem decode_append_plain (htaken : ∀ d ∈ taken, isReserved d = false) (left : List Char) :
    decode (taken ++ left) = (decode left).map fun (value, rest) => (taken ++ value, rest) := by
  induction taken with
  | nil => simp
  | cons d taken ih =>
      obtain ⟨hd, htaken⟩ := List.forall_mem_cons.mp htaken
      rw [List.cons_append, decode_plain hd, ih htaken, Option.map_map]
      rfl

/-- What the loop comes to behind what it has read: the value that is decoded from the rest, or a
failure at the backslash that ends the input. -/
def decodedBehind (read rest : List Char) : Reply (List Char) :=
  match decode rest with
  | some (value, left) => .done (read ++ value) left
  | none => .fail false [⟨['\\'], .part "EscapedTransform"⟩]

theorem decodedBehind_of_ends (read : List Char) (hrest : Ends rest) :
    decodedBehind read rest = .done read rest := by
  rw [decodedBehind, decode_of_ends hrest]
  simp

theorem decodedBehind_append (read : List Char) (htaken : ∀ d ∈ taken, isReserved d = false)
    (left : List Char) :
    decodedBehind read (taken ++ left) = decodedBehind (read ++ taken) left := by
  rw [decodedBehind, decode_append_plain htaken, decodedBehind]
  cases decode left <;> simp

theorem decodedBehind_escaped (read : List Char) (d : Char) (left : List Char) :
    decodedBehind read ('\\' :: d :: left) = decodedBehind (read ++ [d]) left := by
  rw [decodedBehind, decode_escaped, decodedBehind]
  cases decode left <;> simp

/-! ## The turns of the loop -/

theorem transformedUpTo_nil (bound : Nat) (read : List Char) :
    transformedUpTo plainRun '\\' anyCharacter input bound read [] = .done read [] := by
  cases bound <;> rfl

/-- A plain character begins a run, and the loop goes on behind it. -/
theorem exists_transformedUpTo_run (bound : Nat) (read : List Char) (hc : isReserved c = false)
    (hlength : (c :: rest).length ≤ input.length) :
    ∃ taken left, c :: rest = taken ++ left ∧ taken ≠ [] ∧ (∀ d ∈ taken, isReserved d = false) ∧
      transformedUpTo plainRun '\\' anyCharacter input (bound + 1) read (c :: rest) =
        transformedUpTo plainRun '\\' anyCharacter input bound (read ++ taken) left := by
  obtain ⟨taken, left, hsplit, hne, htaken, hrun⟩ := exists_plainRun_done hc rest
  refine ⟨taken, left, hsplit, hne, htaken, ?_⟩
  rw [transformedUpTo, hrun]
  cases left with
  | nil => exact (transformedUpTo_nil bound _).symm
  | cons d left =>
      have hpos : 0 < taken.length := List.length_pos_iff.mpr hne
      have hshort : (d :: left).length ≠ input.length := by
        rw [hsplit, List.length_append] at hlength
        omega
      simp only [List.isEmpty_cons, Bool.false_eq_true, if_false, if_neg hshort]

/-- Behind a pair of a backslash and any character the loop goes on. -/
theorem transformedUpTo_pair (bound : Nat) (read : List Char) (d : Char) (left : List Char) :
    transformedUpTo plainRun '\\' anyCharacter input (bound + 1) read ('\\' :: d :: left) =
      transformedUpTo plainRun '\\' anyCharacter input bound (read ++ [d]) left := by
  obtain ⟨trace, hrun⟩ := plainRun_isOpen (c := '\\') rfl (d :: left)
  rw [transformedUpTo, hrun]
  cases left with
  | nil => exact (transformedUpTo_nil bound _).symm
  | cons e left =>
      simp only [List.isEmpty_cons, Bool.false_eq_true, if_true, if_false, anyCharacter,
        Parser.oneOf]

theorem transformedUpTo_lone (bound : Nat) (read : List Char) :
    transformedUpTo plainRun '\\' anyCharacter input (bound + 1) read ['\\'] =
      .fail false [⟨['\\'], .part "EscapedTransform"⟩] := rfl

/-- Another reserved character stops the loop, if something was read before it. -/
theorem transformedUpTo_of_ends (bound : Nat) (read : List Char) (hends : Ends (c :: rest))
    (hlength : (c :: rest).length ≠ input.length) :
    transformedUpTo plainRun '\\' anyCharacter input (bound + 1) read (c :: rest) =
      .done read (c :: rest) := by
  obtain ⟨hc, hslash⟩ := hends
  obtain ⟨trace, hrun⟩ := plainRun_isOpen hc rest
  rw [transformedUpTo, hrun]
  simp only [if_neg hslash, if_neg hlength]

/-- The loop decodes the rest, unless a reserved character at the very beginning is a failure. -/
theorem transformedUpTo_eq (bound : Nat) (read : List Char) (hbound : rest.length ≤ bound)
    (hrest : rest.length ≤ input.length)
    (hstart : rest.length = input.length → ∀ c ∈ rest.head?, isReserved c = true → c = '\\') :
    transformedUpTo plainRun '\\' anyCharacter input bound read rest =
      decodedBehind read rest := by
  induction bound generalizing read rest with
  | zero =>
      obtain rfl := List.length_eq_zero_iff.mp (Nat.le_zero.mp hbound)
      exact (decodedBehind_of_ends read (show Ends [] from trivial)).symm
  | succ bound ih =>
      -- every turn takes a character, so what is left is shorter than the input
      have hleft : ∀ {left : List Char} (read : List Char), left.length < rest.length →
          transformedUpTo plainRun '\\' anyCharacter input bound read left =
            decodedBehind read left := by
        intro left read hlt
        exact ih read (by omega) (by omega) (fun hlength => by omega)
      cases rest with
      | nil => exact (decodedBehind_of_ends read (show Ends [] from trivial)).symm
      | cons c behind =>
          cases hc : isReserved c with
          | false =>
              obtain ⟨taken, left, hsplit, hne, htaken, hturn⟩ :=
                exists_transformedUpTo_run bound read hc hrest
              have hpos : 0 < taken.length := List.length_pos_iff.mpr hne
              have hshorter : left.length < (c :: behind).length := by
                rw [hsplit, List.length_append]
                omega
              rw [hturn, hleft _ hshorter, hsplit, decodedBehind_append read htaken]
          | true =>
              by_cases hslash : c = '\\'
              · subst hslash
                cases behind with
                | nil => simp [transformedUpTo_lone, decodedBehind, decode]
                | cons d behind =>
                    have hshorter : behind.length < ('\\' :: d :: behind).length := by
                      simp only [List.length_cons]
                      omega
                    rw [transformedUpTo_pair, hleft _ hshorter, decodedBehind_escaped]
              · have hends : Ends (c :: behind) := ⟨hc, hslash⟩
                have hlength : (c :: behind).length ≠ input.length :=
                  fun hlength => hslash (hstart hlength c rfl hc)
                rw [transformedUpTo_of_ends bound read hends hlength,
                  decodedBehind_of_ends read hends]

theorem transformed_eq (hinput : ∀ c ∈ input.head?, isReserved c = true → c = '\\') :
    transformed plainRun '\\' anyCharacter input = decodedBehind [] input :=
  transformedUpTo_eq input.length [] (Nat.le_refl _) (Nat.le_refl _) fun _ => hinput

theorem transformed_isOpen (hc : isReserved c = true) (hslash : c ≠ '\\') (rest : List Char) :
    (transformed plainRun '\\' anyCharacter (c :: rest)).IsOpen := by
  obtain ⟨trace, hrun⟩ := plainRun_isOpen hc rest
  refine ⟨[⟨c :: rest, .part "EscapedTransform"⟩], ?_⟩
  rw [transformed, List.length_cons, transformedUpTo, hrun]
  simp only [if_neg hslash, List.length_cons, if_true]

/-! ## Texts that stand for values -/

/-- A text of plain characters and of pairs of a backslash and any character stands for the value
with the second character in place of each pair. -/
inductive StandsFor : List Char → List Char → Prop
  | nil : StandsFor [] []
  | plain {c : Char} {taken value : List Char} (hc : isReserved c = false)
      (hrest : StandsFor taken value) : StandsFor (c :: taken) (c :: value)
  | pair (c : Char) {taken value : List Char} (hrest : StandsFor taken value) :
      StandsFor ('\\' :: c :: taken) (c :: value)

/-- An input is split behind the longest beginning that stands for a value. -/
structure IsLongest (input taken value left : List Char) : Prop where
  split : input = taken ++ left
  standsFor : StandsFor taken value
  longest : ∀ other otherValue, StandsFor other otherValue → other <+: input → other <+: taken

/-- What stands for a value at the beginning of an input starts with a plain character or a pair,
if it has any. -/
theorem StandsFor.cases_of_prefix (hstands : StandsFor taken value)
    (hbegins : taken <+: c :: rest) :
    taken = [] ∨
      (isReserved c = false ∧ ∃ more moreValue,
        taken = c :: more ∧ StandsFor more moreValue ∧ more <+: rest) ∨
      (c = '\\' ∧ ∃ d behind more moreValue, rest = d :: behind ∧
        taken = '\\' :: d :: more ∧ StandsFor more moreValue ∧ more <+: behind) := by
  cases hstands with
  | nil => exact Or.inl rfl
  | plain hc hmore =>
      obtain ⟨rfl, hwithin⟩ := List.cons_prefix_cons.mp hbegins
      exact Or.inr (Or.inl ⟨hc, _, _, rfl, hmore, hwithin⟩)
  | pair d hmore =>
      obtain ⟨hslash, hwithin⟩ := List.cons_prefix_cons.mp hbegins
      cases rest with
      | nil => simp at hwithin
      | cons e behind =>
          obtain ⟨rfl, hbehind⟩ := List.cons_prefix_cons.mp hwithin
          exact Or.inr (Or.inr ⟨hslash.symm, d, behind, _, _, rfl, rfl, hmore, hbehind⟩)

theorem isLongest_nil : IsLongest [] [] [] [] :=
  ⟨rfl, .nil, fun _ _ _ hbegins => hbegins⟩

/-- Nothing is taken in front of a reserved character that begins no pair. -/
theorem isLongest_of_isReserved (hc : isReserved c = true) (hpair : c = '\\' → rest = []) :
    IsLongest (c :: rest) [] [] (c :: rest) where
  split := rfl
  standsFor := .nil
  longest := by
    intro other _ hother hbegins
    rcases hother.cases_of_prefix hbegins with
      rfl | ⟨hplain, _⟩ | ⟨hslash, d, behind, _, _, hrest, _⟩
    · exact List.nil_prefix
    · rw [hc] at hplain
      cases hplain
    · rw [hpair hslash] at hrest
      cases hrest

theorem IsLongest.plain (hlongest : IsLongest rest taken value left) (hc : isReserved c = false) :
    IsLongest (c :: rest) (c :: taken) (c :: value) left where
  split := by rw [hlongest.split, List.cons_append]
  standsFor := hlongest.standsFor.plain hc
  longest := by
    intro other _ hother hbegins
    rcases hother.cases_of_prefix hbegins with
      rfl | ⟨_, more, _, rfl, hmore, hwithin⟩ | ⟨rfl, _⟩
    · exact List.nil_prefix
    · exact List.cons_prefix_cons.mpr ⟨rfl, hlongest.longest more _ hmore hwithin⟩
    · cases hc

theorem IsLongest.pair (hlongest : IsLongest rest taken value left) (c : Char) :
    IsLongest ('\\' :: c :: rest) ('\\' :: c :: taken) (c :: value) left where
  split := by rw [hlongest.split, List.cons_append, List.cons_append]
  standsFor := hlongest.standsFor.pair c
  longest := by
    intro other _ hother hbegins
    rcases hother.cases_of_prefix hbegins with
      rfl | ⟨hplain, _⟩ | ⟨_, d, behind, more, _, hrest, rfl, hmore, hwithin⟩
    · exact List.nil_prefix
    · cases hplain
    · obtain ⟨rfl, rfl⟩ := List.cons.inj hrest
      refine List.cons_prefix_cons.mpr ⟨rfl, List.cons_prefix_cons.mpr ⟨rfl, ?_⟩⟩
      exact hlongest.longest more _ hmore hwithin

/-- Decoding takes the longest beginning, unless the backslash that ends the input is left. -/
theorem exists_isLongest_decode (input : List Char) :
    ∃ taken value left, IsLongest input taken value left ∧
      decode input = if left = ['\\'] then none else some (value, left) := by
  induction input using decode.induct with
  | case1 => exact ⟨[], [], [], isLongest_nil, rfl⟩
  | case2 => exact ⟨[], [], ['\\'], isLongest_of_isReserved rfl fun _ => rfl, rfl⟩
  | case3 c rest ih =>
      obtain ⟨taken, value, left, hlongest, hdecode⟩ := ih
      refine ⟨'\\' :: c :: taken, c :: value, left, hlongest.pair c, ?_⟩
      rw [decode_escaped, hdecode]
      split <;> rfl
  | case4 c rest hlone hescape hreserved =>
      have hslash : c ≠ '\\' := by
        rintro rfl
        cases rest with
        | nil => exact hlone rfl rfl
        | cons d rest => exact hescape d rest rfl rfl
      have hends : Ends (c :: rest) := ⟨hreserved, hslash⟩
      have hleft : c :: rest ≠ ['\\'] := fun heq => hslash (List.cons.inj heq).1
      refine ⟨[], [], c :: rest, isLongest_of_isReserved hreserved (absurd · hslash), ?_⟩
      rw [decode_of_ends hends, if_neg hleft]
  | case5 c rest hlone hescape hreserved ih =>
      have hplain : isReserved c = false := by simpa using hreserved
      obtain ⟨taken, value, left, hlongest, hdecode⟩ := ih
      refine ⟨c :: taken, c :: value, left, hlongest.plain hplain, ?_⟩
      rw [decode_plain hplain, hdecode]
      split <;> rfl

end Escape

end Text

namespace Tuple

open Text Text.Parser Text.Escape

/-- A value is what the loop reads, or empty where the loop fails. -/
theorem value_eq_choice (input : List Char) :
    Grammar.value input =
      choice [transformed plainRun '\\' anyCharacter, Grammar.marker "" []] input := by
  have hnothing : choice [Grammar.marker "" []] input = .done ([] : List Char) input :=
    choice_singleton_of_done rfl
  by_cases hinput : ∀ c ∈ input.head?, isReserved c = true → c = '\\'
  · have hloop := transformed_eq hinput
    cases hdecode : decode input with
    | none =>
        rw [decodedBehind, hdecode] at hloop
        rw [choice_cons_of_isOpen ⟨_, hloop⟩, hnothing, Grammar.value, hdecode]
    | some found =>
        obtain ⟨value, left⟩ := found
        rw [decodedBehind, hdecode] at hloop
        rw [choice_cons_of_done hloop, Grammar.value, hdecode]
        rfl
  · cases input with
    | nil => simp at hinput
    | cons c rest =>
        obtain ⟨hc, hslash⟩ : isReserved c = true ∧ c ≠ '\\' := by simpa using hinput
        have hends : Ends (c :: rest) := ⟨hc, hslash⟩
        rw [choice_cons_of_isOpen (transformed_isOpen hc hslash rest), hnothing, Grammar.value,
          decode_of_ends hends]

/-- What a value is.  Its reading never fails: it takes the longest beginning of plain characters
and pairs, or nothing if all that is left behind that is a lone backslash.  So an escaped value,
beside flags or not, is read in front of every rest that ends it. -/
theorem value_takes_longest :
    (∀ input, Grammar.value input =
      choice [transformed plainRun '\\' anyCharacter, Grammar.marker "" []] input) ∧
    (∀ input, ∃ taken value left, IsLongest input taken value left ∧
      Grammar.value input = if left = ['\\'] then .done [] input else .done value left) ∧
    ∀ value rest, Ends rest →
      Grammar.value (encode value ++ rest) = .done value rest ∧
        ∀ flags, Grammar.value (encodeBeside flags value ++ rest) = .done value rest := by
  refine ⟨value_eq_choice, ?_, ?_⟩
  · intro input
    obtain ⟨taken, value, left, hlongest, hdecode⟩ := exists_isLongest_decode input
    refine ⟨taken, value, left, hlongest, ?_⟩
    rw [Grammar.value, hdecode]
    by_cases hleft : left = ['\\']
    · rw [if_pos hleft, if_pos hleft]
    · rw [if_neg hleft, if_neg hleft]
  · intro value rest hrest
    have hbeside : ∀ flags, Grammar.value (encodeBeside flags value ++ rest) = .done value rest :=
      fun flags => (value_reads flags value).done trivial rest hrest
    exact ⟨encodeBeside_nil value ▸ hbeside [], hbeside⟩

/-- A value that looks like a flag and a modifier, in front of the end of a modifier. -/
theorem value_takes_longest_flag :
    let value := "ALL [x]".toList
    let rest := "]door".toList
    Ends rest ∧ encodeBeside [allFlag] value = "\\ALL \\[x\\]".toList ∧
      Grammar.value (encode value ++ rest) = .done value rest ∧
      Grammar.value (encodeBeside [allFlag] value ++ rest) = .done value rest := by
  intro value rest
  have hrest : Ends rest := by simp [rest, Ends, isReserved]
  obtain ⟨_, _, hread⟩ := value_takes_longest
  obtain ⟨hplain, hbeside⟩ := hread value rest hrest
  exact ⟨hrest, by decide, hplain, hbeside [allFlag]⟩

/-- The backslash at the end makes even the characters in front of it be left. -/
example : Grammar.value "door\\".toList = .done [] "door\\".toList := by decide

end Tuple

end ReqConflict
