import ReqConflict.Proofs.Decides

/-!
# Lists of one kind as sets

The members of a list or set have one kind, and two values of that kind can
always be compared.  So membership, inclusion and disjointness of two lists
whose members have the same kind are never errors, and mean what their names
say.
-/

namespace ReqConflict.Value

variable {α : Type} {make : α → Value}

/-- Values made in one way can be compared, and are equal if they are made of
the same. -/
def Compares (make : α → Value) : Prop :=
  ∀ a b, Decides ((make a).equals (make b)) (a = b)

theorem compares_entity : Compares entity :=
  fun _ _ => Decides.of_ok (by simp)

theorem compares_text : Compares text :=
  fun _ _ => Decides.of_ok (by simp)

theorem compares_condition : Compares condition :=
  fun _ _ => Decides.of_ok (by simp)

theorem decides_isMember (hmake : Compares make) (value : α) (members : List α) :
    Decides (isMember (make value) (members.map make)) (value ∈ members) := by
  induction members with
  | nil => exact Decides.of_ok (by simp)
  | cons member members ih =>
      rw [List.map_cons, isMember]
      have hcons := (hmake member value).or fun _ => ih
      exact hcons.congr (by rw [List.mem_cons, eq_comm])

theorem decides_isSubset (hmake : Compares make) (members values : List α) :
    Decides (isSubset (members.map make) (values.map make)) (∀ value ∈ values, value ∈ members) := by
  induction values with
  | nil => exact Decides.of_ok (by simp)
  | cons value values ih =>
      rw [List.map_cons, isSubset]
      have hcons := (decides_isMember hmake value members).and fun _ => ih
      exact hcons.congr (by simp)

theorem decides_isDisjoint (hmake : Compares make) (members values : List α) :
    Decides (isDisjoint (members.map make) (values.map make))
      (∀ value ∈ values, value ∉ members) := by
  induction values with
  | nil => exact Decides.of_ok (by simp)
  | cons value values ih =>
      rw [List.map_cons, isDisjoint]
      apply (decides_isMember hmake value members).ite
      · intro hmember
        exact Decides.of_ok (by simp [hmember])
      · intro hmember
        exact ih.congr (by simp [hmember])

end ReqConflict.Value

namespace ReqConflict.Builtin

variable {α : Type} {make : α → Value} {helpers : Helpers} {a b : Value} {as bs : List α}

/-- A test of the members of two values. -/
theorem decides_members {next : List Value → List Value → Except ExprError Bool} {p : Prop}
    {purpose : String} (ha : ∀ purpose, a.elements purpose = .ok (as.map make))
    (hb : ∀ purpose, b.elements purpose = .ok (bs.map make))
    (hnext : Decides (next (as.map make) (bs.map make)) p) :
    Decides (RuleError.ofExpr do
      let as ← a.elements purpose
      let bs ← b.elements purpose
      next as bs) p := by
  rw [ha, hb]
  exact RuleError.decides_ofExpr hnext

theorem decides_setEqual (hmake : Value.Compares make)
    (ha : ∀ purpose, a.elements purpose = .ok (as.map make))
    (hb : ∀ purpose, b.elements purpose = .ok (bs.map make)) :
    Decides (setEqual.apply helpers [a, b]) (∀ value, value ∈ as ↔ value ∈ bs) := by
  rw [apply]
  apply decides_members ha hb
  have hforth := Value.decides_isSubset hmake bs as
  have hback := Value.decides_isSubset hmake as bs
  apply (hforth.and fun _ => hback).congr
  constructor
  · intro ⟨hab, hba⟩ value
    exact ⟨hab value, hba value⟩
  · intro hsame
    exact ⟨fun value => (hsame value).mp, fun value => (hsame value).mpr⟩

theorem decides_subset (hmake : Value.Compares make)
    (ha : ∀ purpose, a.elements purpose = .ok (as.map make))
    (hb : ∀ purpose, b.elements purpose = .ok (bs.map make)) :
    Decides (subset.apply helpers [a, b]) (∀ value ∈ as, value ∈ bs) := by
  rw [apply]
  apply decides_members ha hb
  exact Value.decides_isSubset hmake bs as

theorem decides_disjoint (hmake : Value.Compares make)
    (ha : ∀ purpose, a.elements purpose = .ok (as.map make))
    (hb : ∀ purpose, b.elements purpose = .ok (bs.map make)) :
    Decides (disjoint.apply helpers [a, b]) (∀ value ∈ as, value ∉ bs) := by
  rw [apply]
  apply decides_members ha hb
  exact Value.decides_isDisjoint hmake bs as

theorem decides_empty (ha : ∀ purpose, a.elements purpose = .ok (as.map make)) :
    Decides (empty.apply helpers [a]) (as = []) := by
  have hanswer : empty.apply helpers [a] = .ok (as.map make).isEmpty := by
    rw [apply, ha]
    rfl
  rw [hanswer]
  exact Decides.of_ok (by simp)

end ReqConflict.Builtin
