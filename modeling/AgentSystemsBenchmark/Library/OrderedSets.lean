import Mathlib

/-!
# Finite sets of a linear order

A set is the ascending list of its elements, so that sets with the same elements are
equal and are listed in one order.
-/

namespace OrderedSets

variable {α : Type} [LinearOrder α]

/-- The list with an element in its place, unless it is there. -/
def place (a : α) : List α → List α
  | [] => [a]
  | b :: rest => if a < b then a :: b :: rest else if a = b then b :: rest else b :: place a rest

theorem mem_place {a b : α} {items : List α} : b ∈ place a items ↔ b = a ∨ b ∈ items := by
  induction items with
  | nil => simp [place]
  | cons c rest ih =>
    rw [place]
    split
    · simp
    · split
      case isTrue same => subst same; simp
      case isFalse =>
        simp only [List.mem_cons, ih]
        tauto

theorem pairwise_place {a : α} {items : List α} (ascending : items.Pairwise (· < ·)) :
    (place a items).Pairwise (· < ·) := by
  induction items with
  | nil => simp [place]
  | cons b rest ih =>
    obtain ⟨below, onward⟩ := List.pairwise_cons.mp ascending
    rw [place]
    split
    case isTrue less =>
      refine List.pairwise_cons.mpr ⟨fun c mem => ?_, ascending⟩
      rcases List.mem_cons.mp mem with rfl | mem
      · exact less
      · exact less.trans (below c mem)
    case isFalse notLess =>
      split
      · exact ascending
      case isFalse other =>
        refine List.pairwise_cons.mpr ⟨fun c mem => ?_, ih onward⟩
        rcases mem_place.mp mem with rfl | mem
        · exact lt_of_le_of_ne (not_lt.mp notLess) (Ne.symm other)
        · exact below c mem

end OrderedSets

/-- A finite set, listed in ascending order. -/
structure OrderedSet (α : Type) [LinearOrder α] where
  items : List α
  ascending : items.Pairwise (· < ·)

namespace OrderedSet

variable {α : Type} [LinearOrder α]

def empty : OrderedSet α := ⟨[], .nil⟩

def insert (a : α) (set : OrderedSet α) : OrderedSet α :=
  ⟨OrderedSets.place a set.items, OrderedSets.pairwise_place set.ascending⟩

def insertAll (set : OrderedSet α) (items : List α) : OrderedSet α :=
  items.foldl (fun set a => set.insert a) set

def ofList (items : List α) : OrderedSet α := empty.insertAll items

@[ext] theorem ext_items {s t : OrderedSet α} (h : s.items = t.items) : s = t := by
  cases s
  cases t
  simpa using h

instance : DecidableEq (OrderedSet α) := fun s t =>
  decidable_of_iff (s.items = t.items) ⟨ext_items, fun h => h ▸ rfl⟩

instance : Membership α (OrderedSet α) := ⟨fun set a => a ∈ set.items⟩

instance (a : α) (set : OrderedSet α) : Decidable (a ∈ set) :=
  inferInstanceAs (Decidable (a ∈ set.items))

theorem mem_insert {a b : α} {set : OrderedSet α} :
    b ∈ (set.insert a).items ↔ b = a ∨ b ∈ set.items := OrderedSets.mem_place

theorem mem_insertAll {b : α} {set : OrderedSet α} {items : List α} :
    b ∈ (set.insertAll items).items ↔ b ∈ set.items ∨ b ∈ items := by
  induction items generalizing set with
  | nil => simp [insertAll]
  | cons a rest ih =>
    change b ∈ ((set.insert a).insertAll rest).items ↔ _
    rw [ih, mem_insert, List.mem_cons]
    tauto

end OrderedSet
