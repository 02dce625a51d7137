/-!
# Tables

A table holds values under names, in increasing order of the names.  A name is
held at most once, and a value that is put under a name that is held already
takes the place of the old one.
-/

namespace ReqConflict

structure Table (α : Type) where
  entries : List (String × α)
  increasing : (entries.map (·.1)).Pairwise (· < ·)

namespace Table

variable {α : Type}

def empty : Table α where
  entries := []
  increasing := by
    rw [List.map_nil]
    exact List.Pairwise.nil

instance : Inhabited (Table α) :=
  ⟨empty⟩

instance [Repr α] : Repr (Table α) :=
  ⟨fun table => reprPrec table.entries⟩

def names (table : Table α) : List String :=
  table.entries.map (·.1)

def place (name : String) (value : α) : List (String × α) → List (String × α)
  | [] => [(name, value)]
  | entry :: entries =>
      if name < entry.1 then (name, value) :: entry :: entries
      else if name = entry.1 then (name, value) :: entries
      else entry :: place name value entries

theorem mem_names_place {name n : String} {value : α} {entries : List (String × α)} :
    n ∈ (place name value entries).map (·.1) ↔ n = name ∨ n ∈ entries.map (·.1) := by
  induction entries with
  | nil => simp [place]
  | cons entry entries ih =>
      rw [place]
      split
      · simp
      · split
        · rename_i heq
          simp [heq]
        · simp only [List.map_cons, List.mem_cons, ih, or_left_comm]

theorem place_increasing_names (name : String) (value : α) {entries : List (String × α)}
    (h : (entries.map (·.1)).Pairwise (· < ·)) :
    ((place name value entries).map (·.1)).Pairwise (· < ·) := by
  induction entries with
  | nil => exact List.pairwise_singleton _ _
  | cons entry entries ih =>
      obtain ⟨hentry, hentries⟩ := List.pairwise_cons.mp h
      rw [place]
      split
      · rename_i hlt
        refine List.pairwise_cons.mpr ⟨fun n hn => ?_, h⟩
        rcases List.mem_cons.mp hn with rfl | hn
        · exact hlt
        · exact String.lt_trans hlt (hentry n hn)
      · rename_i hle
        split
        · rename_i heq
          exact List.pairwise_cons.mpr ⟨heq ▸ hentry, hentries⟩
        · rename_i hne
          refine List.pairwise_cons.mpr ⟨fun n hn => ?_, ih hentries⟩
          rcases mem_names_place.mp hn with rfl | hn
          · exact String.not_le.mp fun hge => hne (String.le_antisymm hge (String.not_lt.mp hle))
          · exact hentry n hn

def insert (table : Table α) (name : String) (value : α) : Table α :=
  ⟨place name value table.entries, place_increasing_names name value table.increasing⟩

/-- The table of some entries, of which the last one under a name counts. -/
def ofList (entries : List (String × α)) : Table α :=
  entries.foldl (fun table entry => table.insert entry.1 entry.2) empty

def find? (table : Table α) (name : String) : Option α :=
  table.entries.lookup name

theorem lookup_cons_ite (n : String) (entry : String × α) (entries : List (String × α)) :
    (entry :: entries).lookup n = if n = entry.1 then some entry.2 else entries.lookup n := by
  obtain ⟨name, value⟩ := entry
  by_cases hn : n = name
  · simp [hn]
  · simp only [List.lookup_cons, beq_eq_false_iff_ne.mpr hn, if_neg hn]

theorem lookup_place (name n : String) (value : α) (entries : List (String × α)) :
    (place name value entries).lookup n =
      if n = name then some value else entries.lookup n := by
  induction entries with
  | nil => rw [place, lookup_cons_ite]
  | cons entry entries ih =>
      rw [place]
      split
      · rw [lookup_cons_ite]
      · split
        · rename_i heq
          rw [lookup_cons_ite, lookup_cons_ite, ← heq]
          by_cases hn : n = name <;> simp [hn]
        · rename_i hne
          rw [lookup_cons_ite, lookup_cons_ite, ih]
          by_cases hn : n = entry.1
          · simp [hn, Ne.symm hne]
          · simp [hn]

theorem find?_insert (table : Table α) (name n : String) (value : α) :
    (table.insert name value).find? n = if n = name then some value else table.find? n :=
  lookup_place name n value table.entries

end Table

end ReqConflict
