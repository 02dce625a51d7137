import Mathlib.Data.List.Basic
import ReqConflict.Proofs.Expr.Calls
import ReqConflict.Proofs.Expr.Sets

/-!
# Sets of one kind, and of two

The set functions take lists and sets of any kinds, with any order and any
repetitions.  Where the members of both can be compared, since they are of one
kind or one of the two has none, the functions mean what their names say.  Where
they cannot, the first comparison that is made fails, and with it the call,
whichever function it is of.
-/

namespace ReqConflict

namespace Value

variable {a b m n : Value}

/-- The members of a list or set. -/
def members : Value → List Value
  | entities values => values.map entity
  | strings values => values.map text
  | modifiers values => values.toList.map text
  | conditions values => values.map condition
  | _ => []

/-- The members of both, as far as there are any, are of one kind. -/
def IsLike (a b : Value) : Prop :=
  ∀ m ∈ a.members, ∀ n ∈ b.members, m.kind = n.kind

instance : Decidable (IsLike a b) :=
  inferInstanceAs (Decidable (∀ m ∈ a.members, ∀ n ∈ b.members, m.kind = n.kind))

theorem elements_eq_members (ha : a.isCollection = true) (purpose : String) :
    a.elements purpose = .ok a.members := by
  cases a <;> cases ha <;> rfl

/-- A list or set has members of one kind. -/
theorem kind_eq_of_mem_members (hm : m ∈ a.members) (hn : n ∈ a.members) : m.kind = n.kind := by
  cases a <;> simp only [members, List.mem_map, List.not_mem_nil] at hm hn
  all_goals
    obtain ⟨_, _, rfl⟩ := hm
    obtain ⟨_, _, rfl⟩ := hn
    rfl

theorem ne_nothing_of_mem_members (hm : m ∈ a.members) : m ≠ nothing := by
  rintro rfl
  cases a <;> simp [members] at hm

theorem IsLike.symm (hlike : a.IsLike b) : b.IsLike a :=
  fun n hn m hm => (hlike m hm n hn).symm

/-- One kind for all members of two lists or sets that are alike. -/
theorem IsLike.exists_kind (hlike : a.IsLike b) :
    ∃ kind, (∀ m ∈ a.members, m.kind = kind) ∧ ∀ n ∈ b.members, n.kind = kind := by
  cases ha : a.members with
  | nil =>
      cases hb : b.members with
      | nil => exact ⟨"", by simp, by simp⟩
      | cons first others =>
          have hfirst : first ∈ b.members := by
            rw [hb]
            exact List.mem_cons_self
          refine ⟨first.kind, by simp, ?_⟩
          intro n hn
          rw [← hb] at hn
          exact kind_eq_of_mem_members hn hfirst
  | cons first others =>
      have hfirst : first ∈ a.members := by
        rw [ha]
        exact List.mem_cons_self
      refine ⟨first.kind, ?_, ?_⟩
      · intro m hm
        rw [← ha] at hm
        exact kind_eq_of_mem_members hm hfirst
      · intro n hn
        exact (hlike first hfirst n hn).symm

theorem decides_equals (hkind : m.kind = n.kind) : Decides (m.equals n) (m = n) := by
  cases m <;> cases n <;> simp only [kind, String.reduceEq] at hkind
  all_goals exact Decides.of_ok (by simp)

theorem compares_ofKind (kind : String) :
    Compares (Subtype.val : {value : Value // value.kind = kind} → Value) := by
  intro a b
  have hkind : a.val.kind = b.val.kind := a.property.trans b.property.symm
  exact (decides_equals hkind).congr Subtype.ext_iff.symm

theorem equals_of_kind_ne (hm : m ≠ nothing) (hn : n ≠ nothing) (hkind : m.kind ≠ n.kind) :
    m.equals n = .error (.incomparable m.kind n.kind) := by
  unfold equals
  split
  -- an entity and nothing are of two kinds, but they are compared
  case h_4 => exact absurd rfl hm
  case h_5 => exact absurd rfl hn
  case h_13 => rfl
  all_goals exact absurd rfl hkind

/-! ## Where kinds differ

Every comparison fails, so it is the first one whose error is answered. -/

theorem exists_first_of_mem_members (hm : m ∈ a.members) :
    ∃ first others, a.members = first :: others ∧ first ∈ a.members ∧ first.kind = m.kind := by
  obtain ⟨first, others, hmembers⟩ := List.exists_cons_of_ne_nil (List.ne_nil_of_mem hm)
  have hfirst : first ∈ a.members := hmembers ▸ List.mem_cons_self
  exact ⟨first, others, hmembers, hfirst, kind_eq_of_mem_members hfirst hm⟩

theorem isMember_of_kind_ne (hm : m ∈ a.members) (hn : n ∈ b.members) (hkind : m.kind ≠ n.kind) :
    isMember m b.members = .error (.incomparable n.kind m.kind) := by
  obtain ⟨first, others, hmembers, hfirst, hsame⟩ := exists_first_of_mem_members hn
  have hdifferent : first.kind ≠ m.kind := by
    rw [hsame]
    exact hkind.symm
  have hequals : first.equals m = .error (.incomparable first.kind m.kind) := by
    apply equals_of_kind_ne _ _ hdifferent
    · exact ne_nothing_of_mem_members hfirst
    · exact ne_nothing_of_mem_members hm
  rw [hmembers, isMember, hequals, hsame]
  rfl

/-- Both functions begin with the first member of the second list or set. -/
theorem isSubset_and_isDisjoint_of_kind_ne (hm : m ∈ a.members) (hn : n ∈ b.members)
    (hkind : m.kind ≠ n.kind) :
    isSubset b.members a.members = .error (.incomparable n.kind m.kind) ∧
      isDisjoint b.members a.members = .error (.incomparable n.kind m.kind) := by
  obtain ⟨first, others, hmembers, hfirst, hsame⟩ := exists_first_of_mem_members hm
  have hdifferent : first.kind ≠ n.kind := by
    rw [hsame]
    exact hkind
  have hmember : isMember first b.members = .error (.incomparable n.kind m.kind) := by
    rw [isMember_of_kind_ne hfirst hn hdifferent, hsame]
  constructor
  · rw [hmembers, isSubset, hmember]
    rfl
  · rw [hmembers, isDisjoint, hmember]
    rfl

end Value

namespace Builtin

open Value

variable {helpers : Helpers} {a b m n : Value}

/-- The functions that compare two lists or sets. -/
def comparing : List Builtin :=
  [setEqual, subset, disjoint]

/-- Members of one kind are values made in one way. -/
theorem exists_compares (hlike : a.IsLike b) :
    ∃ (α : Type) (make : α → Value) (as bs : List α), Compares make ∧ Function.Injective make ∧
      as.map make = a.members ∧ bs.map make = b.members := by
  obtain ⟨kind, hm, hn⟩ := hlike.exists_kind
  let as : List {value : Value // value.kind = kind} := a.members.attachWith _ hm
  let bs : List {value : Value // value.kind = kind} := b.members.attachWith _ hn
  have has : as.map Subtype.val = a.members := List.attachWith_map_subtype_val hm
  have hbs : bs.map Subtype.val = b.members := List.attachWith_map_subtype_val hn
  exact ⟨_, Subtype.val, as, bs, compares_ofKind kind, Subtype.val_injective, has, hbs⟩

theorem elements_eq_map {α : Type} {make : α → Value} {as : List α} (ha : a.isCollection = true)
    (hmembers : as.map make = a.members) (purpose : String) :
    a.elements purpose = .ok (as.map make) := by
  rw [hmembers]
  exact elements_eq_members ha purpose

/-- What holds of all values of one list and their membership in another one
holds of the members that they make. -/
theorem forall_mem_members_iff {α : Type} {make : α → Value} {as bs : List α}
    (hinjective : Function.Injective make) (has : as.map make = a.members)
    (hbs : bs.map make = b.members) (p : Prop → Prop) :
    (∀ value ∈ as, p (value ∈ bs)) ↔ ∀ m ∈ a.members, p (m ∈ b.members) := by
  rw [← has, ← hbs, List.forall_mem_map]
  simp only [List.mem_map_of_injective hinjective]

theorem decides_subset_members (helpers : Helpers) (ha : a.isCollection = true)
    (hb : b.isCollection = true) (hlike : a.IsLike b) :
    Decides (subset.apply helpers [a, b]) (∀ m ∈ a.members, m ∈ b.members) := by
  obtain ⟨_, make, as, bs, hmake, hinjective, has, hbs⟩ := exists_compares hlike
  have hdecides : Decides (subset.apply helpers [a, b]) (∀ value ∈ as, value ∈ bs) :=
    decides_subset hmake (elements_eq_map ha has) (elements_eq_map hb hbs)
  exact hdecides.congr (forall_mem_members_iff hinjective has hbs id)

theorem decides_disjoint_members (helpers : Helpers) (ha : a.isCollection = true)
    (hb : b.isCollection = true) (hlike : a.IsLike b) :
    Decides (disjoint.apply helpers [a, b]) (∀ m ∈ a.members, m ∉ b.members) := by
  obtain ⟨_, make, as, bs, hmake, hinjective, has, hbs⟩ := exists_compares hlike
  have hdecides : Decides (disjoint.apply helpers [a, b]) (∀ value ∈ as, value ∉ bs) :=
    decides_disjoint hmake (elements_eq_map ha has) (elements_eq_map hb hbs)
  exact hdecides.congr (forall_mem_members_iff hinjective has hbs Not)

theorem decides_setEqual_members (helpers : Helpers) (ha : a.isCollection = true)
    (hb : b.isCollection = true) (hlike : a.IsLike b) :
    Decides (setEqual.apply helpers [a, b]) (∀ m, m ∈ a.members ↔ m ∈ b.members) := by
  obtain ⟨_, make, as, bs, hmake, hinjective, has, hbs⟩ := exists_compares hlike
  have hdecides : Decides (setEqual.apply helpers [a, b]) (∀ value, value ∈ as ↔ value ∈ bs) :=
    decides_setEqual hmake (elements_eq_map ha has) (elements_eq_map hb hbs)
  apply hdecides.congr
  rw [← has, ← hbs]
  constructor
  · intro hsame m
    simp only [List.mem_map, hsame]
  · intro hsame value
    rw [← List.mem_map_of_injective hinjective, hsame, List.mem_map_of_injective hinjective]

theorem apply_of_kind_ne_members (ha : a.isCollection = true) (hb : b.isCollection = true)
    (hm : m ∈ a.members) (hn : n ∈ b.members) (hkind : m.kind ≠ n.kind) {function : Builtin}
    (hfunction : function ∈ comparing) :
    function.apply helpers [a, b] = .error (.expression (.incomparable n.kind m.kind)) := by
  have hcases : function = setEqual ∨ function = subset ∨ function = disjoint := by
    simpa [comparing] using hfunction
  obtain ⟨hsubset, hdisjoint⟩ := isSubset_and_isDisjoint_of_kind_ne hm hn hkind
  rcases hcases with rfl | rfl | rfl
  all_goals
    rw [apply, elements_eq_members ha, elements_eq_members hb]
    simp only [bind, Except.bind, hsubset, hdisjoint, RuleError.ofExpr]

/-- The set functions on two lists or sets.  If all members are of one kind, or
one of the two has none, they answer whether every member of the first is one of
the second, whether the two share no member, and whether they have the same
members; the last two do not depend on the order of the two, and the last is the
first both ways.  If there are members of two kinds, all three answer with the
error that names them. -/
theorem comparing_decides_or_incomparable (helpers : Helpers) {a b : Value}
    (ha : a.isCollection = true) (hb : b.isCollection = true) :
    (a.IsLike b →
      Decides (subset.apply helpers [a, b]) (∀ m ∈ a.members, m ∈ b.members) ∧
        Decides (disjoint.apply helpers [a, b]) (∀ m ∈ a.members, m ∉ b.members) ∧
        Decides (setEqual.apply helpers [a, b]) (∀ m, m ∈ a.members ↔ m ∈ b.members) ∧
        disjoint.apply helpers [a, b] = disjoint.apply helpers [b, a] ∧
        setEqual.apply helpers [a, b] = setEqual.apply helpers [b, a] ∧
        (setEqual.apply helpers [a, b] = .ok true ↔
          subset.apply helpers [a, b] = .ok true ∧ subset.apply helpers [b, a] = .ok true)) ∧
    ∀ m ∈ a.members, ∀ n ∈ b.members, m.kind ≠ n.kind → ∀ function ∈ comparing,
      function.apply helpers [a, b] = .error (.expression (.incomparable n.kind m.kind)) := by
  refine ⟨fun hlike => ?_, fun m hm n hn hkind function hfunction =>
    apply_of_kind_ne_members ha hb hm hn hkind hfunction⟩
  have hsubset := decides_subset_members helpers ha hb hlike
  have hsuperset := decides_subset_members helpers hb ha hlike.symm
  have hdisjoint := decides_disjoint_members helpers ha hb hlike
  have hequal := decides_setEqual_members helpers ha hb hlike
  refine ⟨hsubset, hdisjoint, hequal, ?_, ?_, ?_⟩
  · apply hdisjoint.eq_of_iff (decides_disjoint_members helpers hb ha hlike.symm)
    exact ⟨fun hnone n hn hm => hnone n hm hn, fun hnone m hm hn => hnone m hn hm⟩
  · apply hequal.eq_of_iff (decides_setEqual_members helpers hb ha hlike.symm)
    exact forall_congr' fun m => iff_comm
  · rw [hequal.eq_ok_true_iff, hsubset.eq_ok_true_iff, hsuperset.eq_ok_true_iff, ← forall_and]
    exact forall_congr' fun m => iff_iff_implies_and_implies

/-- A list of texts with a repetition, the set of these texts, and a list of entities, whose
members are of another kind. -/
theorem comparing_decides_or_incomparable_names :
    let names : Value := .strings ["open", "open", "lock"]
    let modifiers : Value := .modifiers (.ofList ["open", "lock"])
    let agents : Value := .entities [.system]
    names.IsLike modifiers ∧
      setEqual.apply .none [names, modifiers] = .ok true ∧
      setEqual.apply .none [names, modifiers] = setEqual.apply .none [modifiers, names] ∧
      subset.apply .none [agents, names] =
        .error (.expression (.incomparable "text" "entity")) := by
  intro names modifiers agents
  have hlike : names.IsLike modifiers := by decide +kernel
  have hsame : ∀ m, m ∈ names.members ↔ m ∈ modifiers.members := by
    intro m
    simp [names, modifiers, Value.members, Modifiers.mem_ofList, eq_comm (b := m)]
  obtain ⟨_, _, hequal, _, hsymmetric, _⟩ :=
    (comparing_decides_or_incomparable .none (a := names) (b := modifiers) rfl rfl).1 hlike
  have hmixed := (comparing_decides_or_incomparable .none (a := agents) (b := names) rfl rfl).2
  refine ⟨hlike, hequal.eq_ok_true_iff.mpr hsame, hsymmetric, ?_⟩
  exact hmixed (.entity .system) (by simp [agents, Value.members]) (.text "open")
    (by simp [names, Value.members]) (by decide) subset (by simp [comparing])

end Builtin

end ReqConflict
