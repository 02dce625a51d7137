import ReqConflict.Proofs.Text.Reading

/-!
# What a reading takes

A successful reading takes a beginning of its input and leaves the rest.
`Parser.Ensures` says of a part of a grammar what holds of every text that it
takes together with the value that it yields.  It is closed under the
combinators, so a property of a whole grammar follows from its parts; nothing
needs to be known about the inputs on which a part fails.
-/

namespace ReqConflict.Text.Parser

variable {α β : Type} {part : Parser α} {post post' : List Char → α → Prop}

/-- Every text that a part takes, and the value it is read as, satisfy a condition. -/
def Ensures (part : Parser α) (post : List Char → α → Prop) : Prop :=
  ∀ input value rest, part input = .done value rest →
    ∃ taken, input = taken ++ rest ∧ post taken value

theorem Ensures.mono (hpart : Ensures part post)
    (hpost : ∀ taken value, post taken value → post' taken value) : Ensures part post' := by
  intro input value rest hread
  obtain ⟨taken, hinput, htaken⟩ := hpart input value rest hread
  exact ⟨taken, hinput, hpost taken value htaken⟩

theorem ensures_pure {value : α} (hvalue : post [] value) : Ensures (pure value) post := by
  intro input _ rest hread
  cases hread
  exact ⟨[], rfl, hvalue⟩

theorem Ensures.bind {next : α → Parser β} {post' : List Char → β → Prop}
    (hpart : Ensures part post)
    (hnext : ∀ taken value, post taken value →
      Ensures (next value) fun taken' value' => post' (taken ++ taken') value') :
    Ensures (part >>= next) post' := by
  intro input value' rest hread
  rw [bind_apply] at hread
  cases hreply : part input with
  | fail committed trace =>
      rw [hreply] at hread
      cases hread
  | done value left =>
      rw [hreply] at hread
      obtain ⟨taken, hinput, htaken⟩ := hpart input value left hreply
      obtain ⟨taken', hleft, htaken'⟩ := hnext taken value htaken left value' rest hread
      exact ⟨taken ++ taken', by rw [hinput, hleft, List.append_assoc], htaken'⟩

theorem ensures_reject (wanted : Wanted) : Ensures (reject wanted : Parser α) post := by
  intro input value rest hread
  cases hread

theorem ensures_char (c : Char) : Ensures (char c) fun taken _ => taken = [c] := by
  intro input value rest hread
  cases input with
  | nil => cases hread
  | cons d input =>
      rw [char] at hread
      split at hread
      · rename_i hd
        cases hread
        exact ⟨[d], rfl, by rw [hd]⟩
      · cases hread

theorem ensures_word (text : String) :
    Ensures (word text) fun taken _ => taken = text.toList := by
  intro input value rest hread
  rw [word] at hread
  cases hdrop : dropWord text.toList input with
  | none =>
      rw [hdrop] at hread
      cases hread
  | some left =>
      rw [hdrop] at hread
      cases hread
      exact ⟨text.toList, dropWord_eq_some_iff.mp hdrop, rfl⟩

theorem ensures_span (accepts : Char → Bool) :
    Ensures (span accepts) fun taken value =>
      taken = value ∧ ∀ c ∈ taken, accepts c = true := by
  intro input value rest hread
  cases hread
  refine ⟨input.takeWhile accepts, List.takeWhile_append_dropWhile.symm, rfl, ?_⟩
  exact fun c hc => List.all_eq_true.mp List.all_takeWhile c hc

theorem ensures_span1 (name : String) (accepts : Char → Bool) :
    Ensures (span1 name accepts) fun taken value =>
      taken = value ∧ taken ≠ [] ∧ ∀ c ∈ taken, accepts c = true := by
  intro input value rest hread
  rw [span1] at hread
  split at hread
  · cases hread
  · rename_i hne
    obtain ⟨taken, hinput, rfl, hall⟩ := ensures_span accepts input value rest hread
    cases hread
    exact ⟨_, hinput, rfl, hne, hall⟩

theorem Ensures.named (hpart : Ensures part post) (name : String) :
    Ensures (named name part) post := by
  intro input value rest hread
  rw [Parser.named] at hread
  split at hread
  · rename_i hreply
    cases hread
    exact hpart input _ _ hreply
  · cases hread

theorem Ensures.commit (hpart : Ensures part post) : Ensures (commit part) post := by
  intro input value rest hread
  rw [Parser.commit] at hread
  split at hread
  · rename_i hreply
    cases hread
    exact hpart input _ _ hreply
  · cases hread

theorem ensures_choice {branches : List (Parser α)}
    (hbranches : ∀ branch ∈ branches, Ensures branch post) : Ensures (choice branches) post := by
  induction branches with
  | nil => exact ensures_reject _
  | cons branch others ih =>
      have hbranch : Ensures branch post := hbranches branch List.mem_cons_self
      have hothers : Ensures (choice others) post :=
        ih fun other hother => hbranches other (List.mem_cons_of_mem branch hother)
      intro input value rest hread
      cases others with
      | nil =>
          rw [choice_singleton] at hread
          split at hread
          · cases hread
          · exact hbranch input value rest hread
      | cons second others =>
          cases hreply : branch input with
          | done value' rest' =>
              rw [choice_cons_of_done hreply] at hread
              cases hread
              exact hbranch input value rest hreply
          | fail committed trace =>
              cases committed with
              | false =>
                  rw [choice_cons_of_isOpen ⟨trace, hreply⟩] at hread
                  exact hothers input value rest hread
              | true =>
                  have hfail : choice (branch :: second :: others) input = .fail true trace := by
                    rw [choice_cons_cons, hreply]
                  rw [hfail] at hread
                  cases hread

theorem ensures_choice_pair {first second : Parser α} (hfirst : Ensures first post)
    (hsecond : Ensures second post) : Ensures (choice [first, second]) post :=
  ensures_choice (by simp [hfirst, hsecond])

theorem Ensures.optional (hpart : Ensures part post) :
    Ensures (optional part) fun taken value =>
      (value = none ∧ taken = []) ∨ ∃ read, value = some read ∧ post taken read := by
  intro input value rest hread
  rw [Parser.optional] at hread
  split at hread
  · rename_i value' _ hreply
    cases hread
    obtain ⟨taken, hinput, htaken⟩ := hpart input _ _ hreply
    exact ⟨taken, hinput, Or.inr ⟨value', rfl, htaken⟩⟩
  · cases hread
    exact ⟨[], rfl, Or.inl ⟨rfl, rfl⟩⟩
  · cases hread

theorem ensures_manyUpTo {all : List Char → List α → Prop} (hpart : Ensures part post)
    (hnil : all [] [])
    (hcons : ∀ taken value taken' values, post taken value → all taken' values →
      all (taken ++ taken') (value :: values)) (bound : Nat) :
    Ensures (manyUpTo part bound) all := by
  induction bound with
  | zero =>
      intro input value rest hread
      cases hread
      exact ⟨[], rfl, hnil⟩
  | succ bound ih =>
      intro input values rest hread
      rw [manyUpTo_succ] at hread
      cases hreply : part input with
      | fail committed trace =>
          rw [hreply] at hread
          cases committed with
          | false =>
              cases hread
              exact ⟨[], rfl, hnil⟩
          | true => cases hread
      | done value left =>
          obtain ⟨taken, hinput, htaken⟩ := hpart input value left hreply
          rw [hreply] at hread
          cases hothers : manyUpTo part bound left with
          | fail committed trace =>
              simp only [hothers] at hread
              cases hread
          | done values' left' =>
              simp only [hothers] at hread
              cases hread
              obtain ⟨taken', hleft, htaken'⟩ := ih left values' rest hothers
              refine ⟨taken ++ taken', by rw [hinput, hleft, List.append_assoc], ?_⟩
              exact hcons taken value taken' values' htaken htaken'

theorem ensures_many {all : List Char → List α → Prop} (hpart : Ensures part post)
    (hnil : all [] [])
    (hcons : ∀ taken value taken' values, post taken value → all taken' values →
      all (taken ++ taken') (value :: values)) : Ensures (many part) all :=
  fun input => ensures_manyUpTo hpart hnil hcons input.length input

theorem ensures_missing (part : Parser α) : Ensures (missing part) fun taken _ => taken = [] := by
  intro input value rest hread
  rw [missing] at hread
  split at hread
  · cases hread
  · cases hread
    exact ⟨[], rfl, rfl⟩
  · cases hread

theorem Ensures.satisfying (hpart : Ensures part post) (accepts : α → Bool) :
    Ensures (satisfying accepts part) fun taken value =>
      post taken value ∧ accepts value = true := by
  intro input value rest hread
  rw [Parser.satisfying] at hread
  split at hread
  · rename_i hreply
    split at hread
    · rename_i haccepts
      cases hread
      obtain ⟨taken, hinput, htaken⟩ := hpart input _ _ hreply
      exact ⟨taken, hinput, htaken, haccepts⟩
    · cases hread
  · cases hread

theorem Ensures.converted {convert : α → Option β} (hpart : Ensures part post) :
    Ensures (converted convert part) fun taken result =>
      ∃ value, post taken value ∧ convert value = some result := by
  intro input result rest hread
  rw [Parser.converted] at hread
  split at hread
  · rename_i value _ hreply
    split at hread
    · rename_i hconvert
      cases hread
      obtain ⟨taken, hinput, htaken⟩ := hpart input _ _ hreply
      exact ⟨taken, hinput, value, htaken, hconvert⟩
    · cases hread
  · cases hread

theorem Ensures.of_whole (hpart : Ensures part post) {input rest : List Char} {value : α}
    (hread : Parser.whole part input = .done value rest) : post input value := by
  rw [Parser.whole] at hread
  split at hread
  · rename_i hreply
    cases hread
    obtain ⟨taken, hinput, htaken⟩ := hpart input value [] hreply
    rw [List.append_nil] at hinput
    exact hinput ▸ htaken
  · cases hread
  · cases hread

theorem Ensures.separated1 {separator : Parser Unit} {all : List Char → List α → Prop}
    {between : List Char → Prop} (hpart : Ensures part post)
    (hseparator : Ensures separator fun taken _ => between taken)
    (hnil : all [] [])
    (hcons : ∀ taken value taken' values, post taken value → all taken' values →
      all (taken ++ taken') (value :: values))
    (hseparated : ∀ taken taken' value taken'' values, between taken → post taken' value →
      all taken'' values → all (taken ++ taken' ++ taken'') (value :: values)) :
    Ensures (Parser.separated1 separator part) all := by
  have hstep : Ensures (separator >>= fun _ => part) fun taken value =>
      ∃ first second, taken = first ++ second ∧ between first ∧ post second value := by
    apply hseparator.bind
    intro first _ hfirst
    exact hpart.mono fun second value hsecond => ⟨first, second, rfl, hfirst, hsecond⟩
  have htail : Ensures (many (separator >>= fun _ => part)) all := by
    apply ensures_many hstep hnil
    rintro _ value taken' values ⟨first, second, rfl, hfirst, hsecond⟩ hvalues
    exact hseparated first second value taken' values hfirst hsecond hvalues
  apply hpart.bind
  intro taken value htaken
  apply htail.bind
  intro taken' values htaken'
  apply ensures_pure
  rw [List.append_nil]
  exact hcons taken value taken' values htaken htaken'

theorem Ensures.separated {separator : Parser Unit} {all : List Char → List α → Prop}
    (hpart : Ensures (Parser.separated1 separator part) all) (hnil : all [] []) :
    Ensures (Parser.separated separator part) all := by
  intro input values rest hread
  rw [Parser.separated] at hread
  split at hread
  · cases hread
    exact ⟨[], rfl, hnil⟩
  · exact hpart input values rest hread

end ReqConflict.Text.Parser
