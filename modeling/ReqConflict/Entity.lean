/-!
# Entities

An entity is an actor, an object or a concept that a requirement talks about.
It is described by a noun with its modifiers, may be quantified by "all", and
may belong to another entity.  Equality is structural.

The modifiers are a set.  They are kept in increasing order without
repetition, so that equal sets are equal lists.
-/

namespace ReqConflict

/-- A set of modifiers, in increasing order. -/
structure Modifiers where
  toList : List String
  increasing : toList.Pairwise (· < ·)
deriving DecidableEq

namespace Modifiers

def empty : Modifiers :=
  ⟨[], List.Pairwise.nil⟩

instance : Inhabited Modifiers :=
  ⟨empty⟩

instance : Repr Modifiers :=
  ⟨fun modifiers => reprPrec modifiers.toList⟩

def place (modifier : String) : List String → List String
  | [] => [modifier]
  | next :: others =>
      if modifier < next then modifier :: next :: others
      else if modifier = next then next :: others
      else next :: place modifier others

theorem mem_place {modifier m : String} {others : List String} :
    m ∈ place modifier others ↔ m = modifier ∨ m ∈ others := by
  induction others with
  | nil => simp [place]
  | cons next others ih =>
      rw [place]
      split
      · simp
      · split
        · rename_i heq
          subst heq
          simp
        · simp [ih, or_left_comm]

theorem place_increasing (modifier : String) {others : List String}
    (h : others.Pairwise (· < ·)) : (place modifier others).Pairwise (· < ·) := by
  induction others with
  | nil => exact List.pairwise_singleton _ _
  | cons next others ih =>
      obtain ⟨hnext, hothers⟩ := List.pairwise_cons.mp h
      rw [place]
      split
      · rename_i hlt
        refine List.pairwise_cons.mpr ⟨fun m hm => ?_, h⟩
        rcases List.mem_cons.mp hm with rfl | hm
        · exact hlt
        · exact String.lt_trans hlt (hnext m hm)
      · rename_i hle
        split
        · exact h
        · rename_i hne
          refine List.pairwise_cons.mpr ⟨fun m hm => ?_, ih hothers⟩
          rcases mem_place.mp hm with rfl | hm
          · exact String.not_le.mp fun hge => hne (String.le_antisymm hge (String.not_lt.mp hle))
          · exact hnext m hm

def insert (modifier : String) (modifiers : Modifiers) : Modifiers :=
  ⟨place modifier modifiers.toList, place_increasing modifier modifiers.increasing⟩

def ofList (modifiers : List String) : Modifiers :=
  modifiers.foldr insert empty

theorem mem_ofList {m : String} {modifiers : List String} :
    m ∈ (ofList modifiers).toList ↔ m ∈ modifiers := by
  induction modifiers with
  | nil => simp [ofList, empty]
  | cons modifier modifiers ih =>
      rw [ofList, List.foldr_cons, insert, mem_place, List.mem_cons, ← ih, ofList]

end Modifiers

/-- A noun with its modifiers.  The empty base stands for the system itself. -/
structure Noun where
  base : String
  modifiers : Modifiers
  isAll : Bool
deriving DecidableEq, Repr, Inhabited

/-- An entity of its own, or one that is a part of another. -/
inductive Entity where
  | own (noun : Noun)
  | part (noun : Noun) (whole : Entity)
deriving DecidableEq, Repr, Inhabited

namespace Entity

/-- The system as an actor, which a requirement leaves unnamed. -/
def system : Entity :=
  .own ⟨"", .empty, false⟩

def noun : Entity → Noun
  | own noun => noun
  | part noun _ => noun

def base (entity : Entity) : String :=
  entity.noun.base

def modifiers (entity : Entity) : Modifiers :=
  entity.noun.modifiers

def isAll (entity : Entity) : Bool :=
  entity.noun.isAll

def whole? : Entity → Option Entity
  | own _ => none
  | part _ whole => some whole

def ofNoun (noun : Noun) : Option Entity → Entity
  | none => own noun
  | some whole => part noun whole

theorem ofNoun_noun_whole? (entity : Entity) : ofNoun entity.noun entity.whole? = entity := by
  cases entity <;> rfl

def isSystem (entity : Entity) : Bool :=
  entity.base.isEmpty

/-- The entity followed by its owner, the owner of that, and so on. -/
def chain : Entity → List Entity
  | own noun => [own noun]
  | part noun whole => part noun whole :: whole.chain

end Entity

end ReqConflict
