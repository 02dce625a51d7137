/-!
# Escaped values

Inside tuple text, the characters that delimit fields are reserved.  A value
that holds one writes a backslash before it.  A backslash makes the next
character literal whatever it is, so a value that starts like a flag can be
told from the flag by escaping its first character.

Reading takes the longest beginning made of plain characters and escaped
pairs.  It takes nothing where that beginning runs into a backslash at the
very end of the input.
-/

namespace ReqConflict.Text.Escape

def isReserved (c : Char) : Bool :=
  ['\\', ',', '(', ')', '[', ']', '{', '}', '*'].contains c

def encodeChar (c : Char) : List Char :=
  if isReserved c then ['\\', c] else [c]

def encode (value : List Char) : List Char :=
  value.flatMap encodeChar

/-- Writes a value in a place where the given flags may stand: a value that
starts with one of them gets its first character escaped. -/
def encodeBeside (flags : List String) : List Char → List Char
  | [] => []
  | c :: rest =>
      if flags.any (fun flag => flag.toList.isPrefixOf (c :: rest)) then
        '\\' :: c :: encode rest
      else encode (c :: rest)

/-- The value written at the beginning of the input and the rest, unless a
lone backslash ends the input. -/
def decode : List Char → Option (List Char × List Char)
  | [] => some ([], [])
  | ['\\'] => none
  | '\\' :: c :: rest => (decode rest).map fun (value, left) => (c :: value, left)
  | c :: rest =>
      if isReserved c then some ([], c :: rest)
      else (decode rest).map fun (value, left) => (c :: value, left)

/-- A rest that ends a value: nothing, or a reserved character other than the
backslash. -/
def Ends : List Char → Prop
  | [] => True
  | c :: _ => isReserved c ∧ c ≠ '\\'

theorem decode_of_ends {rest : List Char} (h : Ends rest) : decode rest = some ([], rest) := by
  cases rest with
  | nil => rfl
  | cons c rest =>
      obtain ⟨hreserved, hplain⟩ := h
      simp [decode, hreserved, hplain]

theorem decode_escaped (c : Char) (rest : List Char) :
    decode ('\\' :: c :: rest) =
      (decode rest).map fun (value, left) => (c :: value, left) := by
  rw [decode]

theorem decode_plain {c : Char} (h : isReserved c = false) (rest : List Char) :
    decode (c :: rest) = (decode rest).map fun (value, left) => (c :: value, left) := by
  have hplain : c ≠ '\\' := by
    rintro rfl
    simp [isReserved] at h
  rw [decode]
  · simp [h]
  · intro hc _
    exact hplain hc
  · intro _ _ hc
    exact absurd hc hplain

theorem decode_encodeChar (c : Char) (rest : List Char) :
    decode (encodeChar c ++ rest) =
      (decode rest).map fun (value, left) => (c :: value, left) := by
  by_cases h : isReserved c
  · simpa [encodeChar, h] using decode_escaped c rest
  · simpa [encodeChar, h] using decode_plain (by simpa using h) rest

/-- Reading gives back what was written. -/
theorem decode_encode (value : List Char) {rest : List Char} (h : Ends rest) :
    decode (encode value ++ rest) = some (value, rest) := by
  induction value with
  | nil => exact decode_of_ends h
  | cons c value ih =>
      rw [encode, List.flatMap_cons, List.append_assoc, decode_encodeChar]
      rw [encode] at ih
      rw [ih]
      rfl

theorem decode_encodeBeside (flags : List String) (value : List Char) {rest : List Char}
    (h : Ends rest) : decode (encodeBeside flags value ++ rest) = some (value, rest) := by
  cases value with
  | nil => exact decode_of_ends h
  | cons c value =>
      rw [encodeBeside]
      split
      · simp only [List.cons_append, decode_escaped, decode_encode value h, Option.map_some]
      · exact decode_encode (c :: value) h

end ReqConflict.Text.Escape
