/-!
# Outcomes of sequences

What it takes for a sequence of steps, each of which may fail, to succeed or to
fail.
-/

namespace ReqConflict

variable {α β ε : Type} {first : Except ε α} {next : α → Except ε β} {error : ε}

theorem bind_eq_ok_iff {result : β} :
    first >>= next = .ok result ↔ ∃ value, first = .ok value ∧ next value = .ok result := by
  cases first <;> simp [bind, Except.bind]

theorem bind_eq_error_iff :
    first >>= next = .error error ↔
      first = .error error ∨ ∃ value, first = .ok value ∧ next value = .error error := by
  cases first <;> simp [bind, Except.bind]

theorem map_eq_ok_iff {f : α → β} {result : β} :
    f <$> first = .ok result ↔ ∃ value, first = .ok value ∧ f value = result := by
  cases first <;> simp [Functor.map, Except.map]

theorem map_eq_error_iff {f : α → β} : f <$> first = .error error ↔ first = .error error := by
  cases first <;> simp [Functor.map, Except.map]

theorem map_nil_append (left : Except ε (List α)) : left.map ([] ++ ·) = left := by
  cases left <;> rfl

theorem map_append_cons (item : α) (items : List α) (left : Except ε (List α)) :
    (left.map (items ++ ·)).map (item :: ·) = left.map (item :: items ++ ·) := by
  cases left <;> rfl

theorem toOption_eq_some_iff {value : α} : first.toOption = some value ↔ first = .ok value := by
  cases first <;> simp [Except.toOption]

theorem toOption_eq_none_iff : first.toOption = none ↔ ∃ error, first = .error error := by
  cases first <;> simp [Except.toOption]

/-- The first item without the property, if they do not all have it. -/
theorem exists_first_not {p : α → Prop} {items : List α} (hnot : ¬∀ item ∈ items, p item) :
    ∃ before item after, items = before ++ item :: after ∧ (∀ other ∈ before, p other) ∧
      ¬p item := by
  induction items with
  | nil => simp at hnot
  | cons item items ih =>
      by_cases hitem : p item
      · have hrest : ¬∀ other ∈ items, p other :=
          fun hrest => hnot (List.forall_mem_cons.mpr ⟨hitem, hrest⟩)
        obtain ⟨before, other, after, rfl, hbefore, hother⟩ := ih hrest
        exact ⟨item :: before, other, after, rfl,
          List.forall_mem_cons.mpr ⟨hitem, hbefore⟩, hother⟩
      · exact ⟨[], item, items, rfl, by simp, hitem⟩

/-- A sequence of steps fails with the error of one of them. -/
theorem exists_of_foldlM_eq_error {step : β → α → Except ε β} {items : List α} {start : β}
    (herror : items.foldlM step start = .error error) :
    ∃ item ∈ items, ∃ state, step state item = .error error := by
  induction items generalizing start with
  | nil => cases herror
  | cons item items ih =>
      rw [List.foldlM_cons] at herror
      rcases bind_eq_error_iff.mp herror with hitem | ⟨state, _, hitems⟩
      · exact ⟨item, List.mem_cons_self, start, hitem⟩
      · obtain ⟨other, hother, hstep⟩ := ih hitems
        exact ⟨other, List.mem_cons_of_mem item hother, hstep⟩

theorem mapM_eq_error {step : α → Except ε β} {before after : List α} {item : α}
    {values : List β} (hbefore : before.mapM step = .ok values) (hitem : step item = .error error) :
    (before ++ item :: after).mapM step = .error error := by
  rw [List.mapM_append, hbefore, List.mapM_cons, hitem]
  rfl

/-- A step for every item fails at the first item whose step fails. -/
theorem exists_of_mapM_eq_error {step : α → Except ε β} {items : List α}
    (herror : items.mapM step = .error error) :
    ∃ before item after values, items = before ++ item :: after ∧
      before.mapM step = .ok values ∧ step item = .error error := by
  induction items with
  | nil => cases herror
  | cons item items ih =>
      rw [List.mapM_cons] at herror
      rcases bind_eq_error_iff.mp herror with hitem | ⟨value, hitem, hrest⟩
      · exact ⟨[], item, items, [], rfl, rfl, hitem⟩
      · rcases bind_eq_error_iff.mp hrest with hrest | ⟨_, _, hdone⟩
        · obtain ⟨before, other, after, values, rfl, hbefore, hother⟩ := ih hrest
          refine ⟨item :: before, other, after, value :: values, rfl, ?_, hother⟩
          rw [List.mapM_cons, hitem, hbefore]
          rfl
        · cases hdone

theorem forM_eq_ok_iff {step : α → Except ε PUnit} {items : List α} :
    items.forM step = .ok () ↔ ∀ item ∈ items, step item = .ok () := by
  induction items with
  | nil => simp [List.forM, pure, Except.pure]
  | cons item items ih =>
      have hcons : (item :: items).forM step = step item >>= fun _ => items.forM step := rfl
      rw [hcons, bind_eq_ok_iff, List.forall_mem_cons, ← ih]
      exact ⟨fun ⟨_, hitem⟩ => hitem, fun hitem => ⟨(), hitem⟩⟩

end ReqConflict
