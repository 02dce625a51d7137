import ReqConflict.Text.Parser

/-!
# Reading back what was written

A printed text is read back part by part.  `Parser.Reads` says of a part of a
grammar and a text what its reading yields in front of every rest of a certain
class: the value that was printed if the text is legible, and otherwise either
a failure, or a stop in front of one of a few characters.  Which of the two
happens depends on the branches and repetitions around the fault.  A fault is
final once no continuation can start with any of these characters.
-/

namespace ReqConflict.Text

variable {α β : Type}

namespace Reply

/-- Another branch may be tried. -/
def IsOpen (reply : Reply α) : Prop :=
  ∃ trace, reply = .fail false trace

/-- The reading fails, or stops in front of one of some characters. -/
def StopsAt (stops : List Char) (reply : Reply α) : Prop :=
  ∀ value rest, reply = .done value rest → ∃ c ∈ stops, ∃ left, rest = c :: left

theorem stopsAt_fail (stops : List Char) (committed : Bool) (trace : Trace) :
    (Reply.fail committed trace : Reply α).StopsAt stops := by
  intro value rest heq
  cases heq

theorem stopsAt_done {stops : List Char} {c : Char} (hc : c ∈ stops) (value : α)
    (left : List Char) : (Reply.done value (c :: left)).StopsAt stops := by
  intro _ rest heq
  cases heq
  exact ⟨c, hc, left, rfl⟩

theorem IsOpen.stopsAt {reply : Reply α} (hopen : reply.IsOpen) (stops : List Char) :
    reply.StopsAt stops := by
  obtain ⟨trace, rfl⟩ := hopen
  exact stopsAt_fail stops false trace

/-- A reading that goes wrong in every way open to it fails. -/
theorem StopsAt.not_done {reply : Reply α} (hstops : reply.StopsAt []) (value : α)
    (rest : List Char) : reply ≠ .done value rest := by
  intro heq
  obtain ⟨c, hc, _⟩ := hstops value rest heq
  cases hc

end Reply

namespace Parser

variable {input rest text text' : List Char} {value : α} {value' : β} {part : Parser α}
  {legible legible' : Prop} {ends ends' : List Char → Prop} {stops stops' : List Char}

/-- A part of a grammar reads a text as a value in front of the rests of a
class if the text is legible; it goes wrong there if the text is not. -/
structure Reads (part : Parser α) (text : List Char) (value : α) (legible : Prop)
    (ends : List Char → Prop) (stops : List Char) : Prop where
  done : legible → ∀ rest, ends rest → part (text ++ rest) = .done value rest
  stopsAt : ¬legible → ∀ rest, ends rest → (part (text ++ rest)).StopsAt stops

def Anything : List Char → Prop :=
  fun _ => True

theorem Reads.of_done (hdone : ∀ rest, ends rest → part (text ++ rest) = .done value rest) :
    Reads part text value True ends [] where
  done := fun _ => hdone
  stopsAt := fun hnot => absurd trivial hnot

theorem Reads.congr (hreads : Reads part text value legible ends stops)
    (hlegible : legible' ↔ legible) : Reads part text value legible' ends stops where
  done := fun h => hreads.done (hlegible.mp h)
  stopsAt := fun h => hreads.stopsAt (mt hlegible.mpr h)

theorem Reads.restrict (hreads : Reads part text value legible ends stops)
    (hends : ∀ rest, ends' rest → ends rest) : Reads part text value legible ends' stops where
  done := fun h rest hrest => hreads.done h rest (hends rest hrest)
  stopsAt := fun h rest hrest => hreads.stopsAt h rest (hends rest hrest)

theorem Reads.widen (hreads : Reads part text value legible ends stops)
    (hstops : stops ⊆ stops') : Reads part text value legible ends stops' where
  done := hreads.done
  stopsAt := by
    intro hnot rest hrest value rest' heq
    obtain ⟨c, hc, left, hleft⟩ := hreads.stopsAt hnot rest hrest value rest' heq
    exact ⟨c, hstops hc, left, hleft⟩

/-- Two parts in a row.  What follows the first must be a rest that the first
can stand in front of, and where a fault makes the first stop, the second must
go wrong as well. -/
theorem Reads.bind {next : α → Parser β} (hpart : Reads part text value legible ends stops)
    (hnext : Reads (next value) text' value' legible' ends' stops')
    (hends : ∀ rest, ends' rest → ends (text' ++ rest))
    (hstops : ∀ value, ∀ c ∈ stops, ∀ left, (next value (c :: left)).StopsAt stops') :
    Reads (part >>= next) (text ++ text') value' (legible ∧ legible') ends' stops' where
  done := by
    intro ⟨hlegible, hlegible'⟩ rest hrest
    rw [List.append_assoc, bind_done (hpart.done hlegible _ (hends rest hrest))]
    exact hnext.done hlegible' rest hrest
  stopsAt := by
    intro hnot rest hrest
    rw [List.append_assoc]
    by_cases hlegible : legible
    · rw [bind_done (hpart.done hlegible _ (hends rest hrest))]
      exact hnext.stopsAt (fun hlegible' => hnot ⟨hlegible, hlegible'⟩) rest hrest
    · have hwrong := hpart.stopsAt hlegible _ (hends rest hrest)
      rw [bind_apply]
      cases hreply : part (text ++ (text' ++ rest)) with
      | done value rest =>
          obtain ⟨c, hc, left, rfl⟩ := hwrong value rest hreply
          exact hstops value c hc left
      | fail committed trace => exact Reply.stopsAt_fail stops' committed trace

theorem Reads.followed {next : α → Parser β} (hpart : Reads part text value legible Anything [])
    (hnext : Reads (next value) text' value' legible' ends' stops') :
    Reads (part >>= next) (text ++ text') value' (legible ∧ legible') ends' stops' := by
  apply hpart.bind hnext
  · intro _ _
    trivial
  · intro _ c hc
    cases hc

theorem Reads.map (hpart : Reads part text value legible ends stops) (f : α → β) :
    Reads (part >>= fun value => Pure.pure (f value)) text (f value) legible ends stops where
  done := by
    intro hlegible rest hrest
    rw [bind_done (hpart.done hlegible rest hrest)]
    rfl
  stopsAt := by
    intro hnot rest hrest
    have hwrong := hpart.stopsAt hnot rest hrest
    rw [bind_apply]
    cases hreply : part (text ++ rest) with
    | done value rest =>
        obtain ⟨c, hc, left, rfl⟩ := hwrong value rest hreply
        exact Reply.stopsAt_done hc (f value) left
    | fail committed trace => exact Reply.stopsAt_fail stops committed trace

/-! ## Characters and words -/

theorem Reads.char (c : Char) : Reads (char c) [c] () True Anything [] := by
  apply Reads.of_done
  intro rest _
  simp [Parser.char]

theorem char_isOpen {c : Char} (hhead : input.head? ≠ some c) : (char c input).IsOpen := by
  cases input with
  | nil => exact ⟨_, rfl⟩
  | cons d rest =>
      have hne : d ≠ c := by
        intro heq
        apply hhead
        rw [heq]
        rfl
      refine ⟨[⟨d :: rest, .char c⟩], ?_⟩
      simp [char, hne]

theorem Reads.word (text : String) : Reads (word text) text.toList () True Anything [] := by
  apply Reads.of_done
  intro rest _
  have hdrop : dropWord text.toList (text.toList ++ rest) = some rest :=
    dropWord_eq_some_iff.mpr rfl
  rw [Parser.word, hdrop]

theorem word_isOpen {text : String} (hdrop : dropWord text.toList input = none) :
    (word text input).IsOpen := by
  refine ⟨[⟨input, .part "Tag"⟩], ?_⟩
  rw [word, hdrop]

theorem dropWord_of_head? {c : Char} (hhead : input.head? ≠ some c) (word : List Char) :
    dropWord (c :: word) input = none := by
  cases input with
  | nil => rfl
  | cons d rest =>
      have hne : c ≠ d := by
        intro heq
        apply hhead
        rw [heq]
        rfl
      simp [dropWord, hne]

theorem bind_isOpen {next : α → Parser β} (hopen : (part input).IsOpen) :
    ((part >>= next) input).IsOpen := by
  obtain ⟨trace, htrace⟩ := hopen
  exact ⟨trace, bind_fail htrace⟩

theorem span1_done {name : String} {accepts : Char → Bool} {taken : List Char}
    (htaken : ∀ c ∈ taken, accepts c = true) (hne : taken ≠ [])
    (hrest : ∀ c ∈ rest.head?, accepts c = false) :
    span1 name accepts (taken ++ rest) = .done taken rest := by
  have htake : rest.takeWhile accepts = [] := by
    cases rest with
    | nil => rfl
    | cons c rest => simp [hrest c rfl]
  have hdrop : rest.dropWhile accepts = rest := by
    cases rest with
    | nil => rfl
    | cons c rest => simp [hrest c rfl]
  have htaken' : (taken ++ rest).takeWhile accepts = taken := by
    rw [List.takeWhile_append_of_pos htaken, htake, List.append_nil]
  have hdropped : (taken ++ rest).dropWhile accepts = rest := by
    rw [List.dropWhile_append_of_pos htaken, hdrop]
  unfold span1
  rw [htaken', hdropped]
  cases taken with
  | nil => exact absurd rfl hne
  | cons c taken => rfl

theorem Reads.named (name : String) (hpart : Reads part text value legible ends stops) :
    Reads (named name part) text value legible ends stops where
  done := by
    intro hlegible rest hrest
    rw [Parser.named, hpart.done hlegible rest hrest]
  stopsAt := by
    intro hnot rest hrest
    have hwrong := hpart.stopsAt hnot rest hrest
    unfold Parser.named
    cases hreply : part (text ++ rest) with
    | done value rest =>
        rw [hreply] at hwrong
        exact hwrong
    | fail committed trace => exact Reply.stopsAt_fail stops committed _

theorem named_isOpen (name : String) (hopen : (part input).IsOpen) :
    (named name part input).IsOpen := by
  obtain ⟨trace, htrace⟩ := hopen
  refine ⟨trace ++ [⟨input, .part name⟩], ?_⟩
  rw [named, htrace]

theorem Reads.between {opening : Parser Unit} {closing : Char}
    (hopening : Reads opening text' () True Anything [])
    (hpart : Reads part text value legible ends stops) (hends : ∀ rest, ends (closing :: rest))
    (hstops : closing ∉ stops) :
    Reads (between opening part (Parser.char closing)) (text' ++ (text ++ [closing])) value
      legible Anything [] := by
  have hclosed : Reads (part >>= fun value => Parser.char closing >>= fun _ => Pure.pure value)
      (text ++ [closing]) value (legible ∧ True) Anything [] := by
    apply hpart.bind ((Reads.char closing).map fun _ => value)
    · exact fun rest _ => hends rest
    · intro _ c hc left
      have hhead : (c :: left).head? ≠ some closing := by
        intro heq
        have hclosing : c = closing := by simpa using heq
        exact hstops (hclosing ▸ hc)
      exact (bind_isOpen (char_isOpen hhead)).stopsAt []
  have hreads : Reads (Parser.between opening part (Parser.char closing))
      (text' ++ (text ++ [closing])) value (True ∧ legible ∧ True) Anything [] :=
    hopening.followed hclosed
  exact hreads.congr (by simp)

theorem between_isOpen {opening closing : Parser Unit} (hopen : (opening input).IsOpen) :
    (between opening part closing input).IsOpen :=
  bind_isOpen hopen

/-! ## Branches -/

theorem choice_singleton (branch : Parser α) (input : List Char) :
    choice [branch] input =
      match branch input with
      | .fail false trace => .fail false (trace ++ [⟨input, .part "Alt"⟩])
      | reply => reply :=
  rfl

theorem choice_cons_cons (first second : Parser α) (others : List (Parser α))
    (input : List Char) :
    choice (first :: second :: others) input =
      match first input with
      | .fail false _ => choice (second :: others) input
      | reply => reply :=
  rfl

theorem choice_cons_of_done {first : Parser α} (hfirst : first input = .done value rest)
    (second : Parser α) (others : List (Parser α)) :
    choice (first :: second :: others) input = .done value rest := by
  rw [choice_cons_cons, hfirst]

theorem choice_cons_of_isOpen {first : Parser α} (hfirst : (first input).IsOpen)
    (second : Parser α) (others : List (Parser α)) :
    choice (first :: second :: others) input = choice (second :: others) input := by
  obtain ⟨trace, htrace⟩ := hfirst
  rw [choice_cons_cons, htrace]

theorem choice_singleton_of_done {branch : Parser α} (hbranch : branch input = .done value rest) :
    choice [branch] input = .done value rest := by
  rw [choice_singleton, hbranch]

theorem choice_isOpen {first second : Parser α} (hfirst : (first input).IsOpen)
    (hsecond : (second input).IsOpen) : (choice [first, second] input).IsOpen := by
  obtain ⟨_, hfirst⟩ := hfirst
  obtain ⟨trace, hsecond⟩ := hsecond
  refine ⟨trace ++ [⟨input, .part "Alt"⟩], ?_⟩
  rw [choice_cons_cons, hfirst]
  simp only [choice_singleton, hsecond]

theorem Reads.choice_first {first : Parser α} (second : Parser α)
    (hfirst : Reads first text value True ends []) :
    Reads (choice [first, second]) text value True ends [] := by
  apply Reads.of_done
  intro rest hrest
  rw [choice_cons_cons, hfirst.done trivial rest hrest]

theorem Reads.choice_second {first second : Parser α}
    (hfirst : ∀ rest, ends rest → (first (text ++ rest)).IsOpen)
    (hsecond : Reads second text value legible ends stops) :
    Reads (choice [first, second]) text value legible ends stops where
  done := by
    intro hlegible rest hrest
    obtain ⟨_, hopen⟩ := hfirst rest hrest
    rw [choice_cons_cons, hopen]
    simp only [choice_singleton, hsecond.done hlegible rest hrest]
  stopsAt := by
    intro hnot rest hrest
    have hwrong := hsecond.stopsAt hnot rest hrest
    obtain ⟨_, hopen⟩ := hfirst rest hrest
    rw [choice_cons_cons, hopen]
    simp only [choice_singleton]
    cases hreply : second (text ++ rest) with
    | done value rest =>
        rw [hreply] at hwrong
        exact hwrong
    | fail committed trace => cases committed <;> exact Reply.stopsAt_fail stops _ _

theorem Reads.optional_none :
    Reads (optional part) [] none True (fun rest => (part rest).IsOpen) [] := by
  apply Reads.of_done
  intro rest ⟨trace, htrace⟩
  rw [List.nil_append, optional, htrace]

/-- An optional part with a fault in it is passed over. -/
theorem Reads.optional_some {c : Char} (hpart : Reads part (c :: text) value legible ends []) :
    Reads (optional part) (c :: text) (some value) legible ends [c] where
  done := by
    intro hlegible rest hrest
    rw [optional, hpart.done hlegible rest hrest]
  stopsAt := by
    intro hnot rest hrest
    have hwrong := hpart.stopsAt hnot rest hrest
    unfold optional
    cases hreply : part (c :: text ++ rest) with
    | done value rest => exact absurd hreply (hwrong.not_done value rest)
    | fail committed trace =>
        cases committed with
        | false => exact Reply.stopsAt_done (List.mem_singleton_self c) none (text ++ rest)
        | true => exact Reply.stopsAt_fail [c] true trace

/-! ## Repetitions -/

theorem manyUpTo_succ (part : Parser α) (bound : Nat) (input : List Char) :
    manyUpTo part (bound + 1) input =
      match part input with
      | .fail true trace => .fail true trace
      | .fail false _ => .done [] input
      | .done value rest =>
          match manyUpTo part bound rest with
          | .done values rest => .done (value :: values) rest
          | .fail committed trace => .fail committed trace :=
  rfl

theorem manyUpTo_of_isOpen (hopen : (part input).IsOpen) (bound : Nat) :
    manyUpTo part bound input = .done [] input := by
  obtain ⟨trace, htrace⟩ := hopen
  cases bound with
  | zero => rfl
  | succ bound => rw [manyUpTo_succ, htrace]

theorem many_of_isOpen (hopen : (part input).IsOpen) : many part input = .done [] input :=
  manyUpTo_of_isOpen hopen input.length

section Many

variable {ι : Type} {itemText : ι → List Char} {read : ι → α} {isLegible : ι → Prop}
  {items : List ι} {bound : Nat} {c : Char}

theorem length_le_flatMap (htext : ∀ item, ∃ left, itemText item = c :: left)
    (items : List ι) : items.length ≤ (items.flatMap itemText).length := by
  induction items with
  | nil => simp
  | cons item items ih =>
      obtain ⟨left, hleft⟩ := htext item
      simp only [List.flatMap_cons, List.length_append, List.length_cons, hleft]
      omega

/-- The texts of items can stand after an item if the end of the last can. -/
theorem ends_flatMap (htext : ∀ item, ∃ left, itemText item = c :: left)
    (hends : ∀ left, ends (c :: left)) (items : List ι) (hrest : ends rest) :
    ends (items.flatMap itemText ++ rest) := by
  cases items with
  | nil => exact hrest
  | cons item items =>
      obtain ⟨left, hleft⟩ := htext item
      rw [List.flatMap_cons, hleft]
      exact hends _

theorem manyUpTo_done (hitem : ∀ item, Reads part (itemText item) (read item) (isLegible item)
      ends stops)
    (htext : ∀ item, ∃ left, itemText item = c :: left) (hends : ∀ left, ends (c :: left))
    (hrest : ends rest) (hopen : (part rest).IsOpen) (hlegible : ∀ item ∈ items, isLegible item)
    (hbound : items.length ≤ bound) :
    manyUpTo part bound (items.flatMap itemText ++ rest) = .done (items.map read) rest := by
  induction items generalizing bound with
  | nil => exact manyUpTo_of_isOpen hopen bound
  | cons item items ih =>
      obtain ⟨bound, rfl⟩ : ∃ less, bound = less + 1 :=
        ⟨bound - 1, by simp only [List.length_cons] at hbound; omega⟩
      have hfirst : part (itemText item ++ (items.flatMap itemText ++ rest)) =
          .done (read item) (items.flatMap itemText ++ rest) :=
        (hitem item).done (hlegible item List.mem_cons_self) _
          (ends_flatMap htext hends items hrest)
      have hothers : manyUpTo part bound (items.flatMap itemText ++ rest) =
          .done (items.map read) rest := by
        apply ih
        · exact fun other hother => hlegible other (List.mem_cons_of_mem item hother)
        · simpa using hbound
      rw [List.flatMap_cons, List.append_assoc, manyUpTo_succ, hfirst]
      simp only [hothers, List.map_cons]

/-- A repetition ends at the first fault: in front of the item that holds it,
or inside that item. -/
theorem manyUpTo_stopsAt (hitem : ∀ item, Reads part (itemText item) (read item)
      (isLegible item) ends stops)
    (htext : ∀ item, ∃ left, itemText item = c :: left) (hends : ∀ left, ends (c :: left))
    (hstops : ∀ d ∈ stops, ∀ left, (part (d :: left)).IsOpen) (hrest : ends rest)
    (hnot : ∃ item ∈ items, ¬isLegible item) (bound : Nat) :
    (manyUpTo part bound (items.flatMap itemText ++ rest)).StopsAt (c :: stops) := by
  induction items generalizing bound with
  | nil =>
      obtain ⟨item, hmem, _⟩ := hnot
      cases hmem
  | cons item items ih =>
      have hbehind : ends (items.flatMap itemText ++ rest) :=
        ends_flatMap htext hends items hrest
      obtain ⟨left, hleft⟩ := htext item
      have hfront : ∀ values : List α,
          (Reply.done values (itemText item ++ (items.flatMap itemText ++ rest))).StopsAt
            (c :: stops) := by
        intro values
        rw [hleft]
        exact Reply.stopsAt_done List.mem_cons_self values _
      rw [List.flatMap_cons, List.append_assoc]
      cases bound with
      | zero => exact hfront []
      | succ bound =>
          rw [manyUpTo_succ]
          by_cases hfirst : isLegible item
          · have hothers : ∃ other ∈ items, ¬isLegible other := by
              obtain ⟨other, hmem, hother⟩ := hnot
              rcases List.mem_cons.mp hmem with rfl | hmem
              · exact absurd hfirst hother
              · exact ⟨other, hmem, hother⟩
            have hwrong := ih hothers bound
            rw [(hitem item).done hfirst _ hbehind]
            intro values rest' heq
            cases hreply : manyUpTo part bound (items.flatMap itemText ++ rest) with
            | done values' rest'' =>
                simp only [hreply, Reply.done.injEq] at heq
                exact hwrong values' rest' (heq.2 ▸ hreply)
            | fail committed trace =>
                simp only [hreply] at heq
                cases heq
          · have hwrong := (hitem item).stopsAt hfirst _ hbehind
            cases hreply : part (itemText item ++ (items.flatMap itemText ++ rest)) with
            | done value rest' =>
                obtain ⟨d, hd, left', rfl⟩ := hwrong value rest' hreply
                simp only [manyUpTo_of_isOpen (hstops d hd left') bound]
                exact Reply.stopsAt_done (List.mem_cons_of_mem c hd) [value] left'
            | fail committed trace =>
                cases committed with
                | false => exact hfront []
                | true => exact Reply.stopsAt_fail (c :: stops) true trace

theorem Reads.many (hitem : ∀ item, Reads part (itemText item) (read item) (isLegible item)
      ends stops)
    (htext : ∀ item, ∃ left, itemText item = c :: left) (hends : ∀ left, ends (c :: left))
    (hstops : ∀ d ∈ stops, ∀ left, (part (d :: left)).IsOpen) (items : List ι) :
    Reads (many part) (items.flatMap itemText) (items.map read)
      (∀ item ∈ items, isLegible item)
      (fun rest => ends rest ∧ (part rest).IsOpen) (c :: stops) where
  done := by
    intro hlegible rest ⟨hrest, hopen⟩
    apply manyUpTo_done hitem htext hends hrest hopen hlegible
    have hlength := length_le_flatMap htext items
    rw [List.length_append]
    omega
  stopsAt := by
    intro hnot rest ⟨hrest, _⟩
    have hfault : ∃ item ∈ items, ¬isLegible item := by simpa using hnot
    exact manyUpTo_stopsAt hitem htext hends hstops hrest hfault _

/-- A list of items goes wrong at its first fault: inside the item that holds
it, or in front of the separator before that item. -/
theorem Reads.separated1 {separator : String} {word : List Char}
    (hitem : ∀ item, Reads part (itemText item) (read item) (isLegible item) ends stops)
    (hword : separator.toList = c :: word) (hends : ∀ left, ends (c :: left))
    (hstops : c ∉ stops) (item : ι) (items : List ι) :
    Reads (separated1 (Parser.word separator) part)
      (itemText item ++ items.flatMap fun other => separator.toList ++ itemText other)
      (read item :: items.map read) (∀ other ∈ item :: items, isLegible other)
      (fun rest => ends rest ∧ rest.head? ≠ some c) (c :: stops) := by
  have hopen : ∀ input : List Char, input.head? ≠ some c →
      ((Parser.word separator >>= fun _ => part) input).IsOpen := by
    intro input hinput
    have hdrop : dropWord separator.toList input = none := by
      rw [hword]
      exact dropWord_of_head? hinput word
    exact bind_isOpen (word_isOpen hdrop)
  have hstop : ∀ d ∈ stops, ∀ left : List Char,
      ((Parser.word separator >>= fun _ => part) (d :: left)).IsOpen := by
    intro d hd left
    apply hopen
    intro heq
    have hd' : d = c := by simpa using heq
    exact hstops (hd' ▸ hd)
  have hnext : ∀ other, Reads (Parser.word separator >>= fun _ => part)
      (separator.toList ++ itemText other) (read other) (isLegible other) ends stops := by
    intro other
    have hreads : Reads (Parser.word separator >>= fun _ => part)
        (separator.toList ++ itemText other) (read other) (True ∧ isLegible other) ends stops :=
      (Reads.word separator).followed (hitem other)
    exact hreads.congr (by simp)
  have htext : ∀ other, ∃ left, separator.toList ++ itemText other = c :: left :=
    fun other => ⟨word ++ itemText other, by rw [hword]; rfl⟩
  have htail : Reads (Parser.many (Parser.word separator >>= fun _ => part))
      (items.flatMap fun other => separator.toList ++ itemText other) (items.map read)
      (∀ other ∈ items, isLegible other)
      (fun rest => ends rest ∧ rest.head? ≠ some c) (c :: stops) :=
    (Reads.many hnext htext hends hstop items).restrict
      fun rest hrest => ⟨hrest.1, hopen rest hrest.2⟩
  have hbehind : ∀ rest, (ends rest ∧ rest.head? ≠ some c) →
      ends ((items.flatMap fun other => separator.toList ++ itemText other) ++ rest) :=
    fun rest hrest => ends_flatMap htext hends items hrest.1
  have hreads : Reads (Parser.separated1 (Parser.word separator) part)
      (itemText item ++ items.flatMap fun other => separator.toList ++ itemText other)
      (read item :: items.map read) (isLegible item ∧ ∀ other ∈ items, isLegible other)
      (fun rest => ends rest ∧ rest.head? ≠ some c) (c :: stops) := by
    apply (hitem item).bind (htail.map (read item :: ·)) hbehind
    intro value d hd left
    have hnone := many_of_isOpen (hstop d hd left)
    exact (bind_done hnone).symm ▸ Reply.stopsAt_done (List.mem_cons_of_mem c hd) _ left
  exact hreads.congr List.forall_mem_cons

end Many

end Parser

end ReqConflict.Text
