import AgentSystemsBenchmark.Library.OrderedSets

/-!
# Grouping into ordered maps

A map is listed by ascending key. Items are folded into it one at a time, each into
the entry of its key; the result lists, for each key that occurs, the fold of the items
with that key in their order.
-/

namespace Grouping

open OrderedSets List OrderedSet

section Maps
variable {κ α β : Type} [LinearOrder κ]

/-- Change the entry of a key; a missing entry starts from `first`. -/
def modifyAt (key : κ) (first : β) (f : β → β) : List (κ × β) → List (κ × β)
  | [] => [(key, f first)]
  | (k, b) :: rest =>
    if key < k then (key, f first) :: (k, b) :: rest
    else if key = k then (k, f b) :: rest
    else (k, b) :: modifyAt key first f rest

def group (key : α → κ) (first : β) (step : β → α → β) (items : List α) : List (κ × β) :=
  items.foldl (fun entries a => modifyAt (key a) first (fun b => step b a) entries) []

/-- The keys that occur, ascending. -/
def keys (key : α → κ) (items : List α) : List κ := (ofList (items.map key)).items

variable {key : α → κ} {items : List α}

theorem mem_keys : k ∈ keys key items ↔ ∃ a ∈ items, key a = k := by
  have nothing : k ∉ (empty : OrderedSet κ).items := not_mem_nil
  rw [keys, ofList, mem_insertAll, mem_map]
  exact or_iff_right nothing

theorem pairwise_keys (key : α → κ) (items : List α) : (keys key items).Pairwise (· < ·) :=
  (ofList (items.map key)).ascending

theorem nodup_keys (key : α → κ) (items : List α) : (keys key items).Nodup :=
  (pairwise_keys key items).imp ne_of_lt

/-- The keys are the ascending list of the set of keys. -/
theorem keys_eq_sort {present : Finset κ} (same : ∀ k, k ∈ present ↔ ∃ a ∈ items, key a = k) :
    keys key items = present.sort (· ≤ ·) := by
  have elements : (keys key items).toFinset = present := by
    ext k
    rw [mem_toFinset, mem_keys, same]
  rw [← elements]
  symm
  apply (toFinset_sort _ (nodup_keys key items)).mpr
  exact (pairwise_keys key items).imp le_of_lt

theorem keys_concat (key : α → κ) (items : List α) (a : α) :
    keys key (items ++ [a]) = place (key a) (keys key items) := by
  simp only [keys, ofList, insertAll, map_append, foldl_append,
    map_cons, map_nil, foldl_cons, foldl_nil]
  rfl

/-- Changing one entry of a map that is given by its keys and a function on them. -/
theorem modifyAt_map {key : κ} {first : β} (f : β → β) {ks : List κ} {value : κ → β}
    (ascending : ks.Pairwise (· < ·)) (absent : key ∉ ks → value key = first) :
    modifyAt key first f (ks.map fun k => (k, value k)) =
      (place key ks).map fun k => (k, if k = key then f (value key) else value k) := by
  have unchanged : ∀ rest : List κ, key ∉ rest →
      rest.map (fun k => (k, if k = key then f (value key) else value k)) =
        rest.map fun k => (k, value k) := by
    intro rest missing
    apply map_congr_left
    intro k member
    have other : k ≠ key := fun same => missing (same ▸ member)
    rw [if_neg other]
  induction ks with
  | nil => simp [modifyAt, place, absent]
  | cons k rest ih =>
    obtain ⟨below, onward⟩ := pairwise_cons.mp ascending
    rw [map_cons, modifyAt, place]
    by_cases less : key < k
    · have missing : key ∉ k :: rest := by
        intro member
        rcases mem_cons.mp member with rfl | member
        · exact lt_irrefl _ less
        · exact lt_asymm less (below key member)
      rw [if_pos less, if_pos less, map_cons, unchanged _ missing, if_pos rfl, absent missing]
      rfl
    · rw [if_neg less, if_neg less]
      by_cases same : key = k
      · subst same
        have missing : key ∉ rest := fun member => lt_irrefl _ (below key member)
        rw [if_pos rfl, if_pos rfl, map_cons, unchanged _ missing, if_pos rfl]
      · rw [if_neg same, if_neg same, map_cons, if_neg (Ne.symm same)]
        congr 1
        apply ih onward
        intro missing
        exact absent fun member => (mem_cons.mp member).elim same missing

/-- Each key that occurs holds the fold of its own items. -/
theorem group_eq (key : α → κ) (first : β) (step : β → α → β) (items : List α) :
    group key first step items =
      (keys key items).map fun k => (k, (items.filter fun a => key a = k).foldl step first) := by
  induction items using reverseRecOn with
  | nil => rfl
  | append_singleton items a ih =>
    have absent : key a ∉ keys key items →
        (items.filter fun b => key b = key a).foldl step first = first := by
      intro missing
      have none : (items.filter fun b => decide (key b = key a)) = [] := by
        rw [filter_eq_nil_iff]
        intro b member same
        exact missing (mem_keys.mpr ⟨b, member, of_decide_eq_true same⟩)
      rw [none]
      rfl
    rw [group, foldl_append, ← group, ih, foldl_cons, foldl_nil,
      modifyAt_map _ (pairwise_keys key items) absent, keys_concat]
    apply map_congr_left
    intro k _
    rw [filter_append, foldl_append]
    by_cases same : k = key a
    · subst same
      simp
    · have other : key a ≠ k := Ne.symm same
      simp [same, other]

theorem flatMap_group (key : α → κ) (f : α → List β) (items : List α) :
    group key [] (fun entry a => entry ++ f a) items =
      (keys key items).map fun k => (k, (items.filter fun a => key a = k).flatMap f) := by
  rw [group_eq]
  apply map_congr_left
  intro k _
  rw [flatMap_eq_foldl]

/-- Splitting a list by its keys only reorders it. -/
theorem flatMap_filter_perm {ks : List κ} (distinct : ks.Nodup)
    (covered : ∀ a ∈ items, key a ∈ ks) :
    (ks.flatMap fun k => items.filter fun a => key a = k).Perm items := by
  induction ks generalizing items with
  | nil =>
    have none : items = [] := eq_nil_iff_forall_not_mem.mpr fun a member =>
      not_mem_nil (covered a member)
    rw [none]
    exact .nil
  | cons k ks ih =>
    obtain ⟨missing, distinct⟩ := nodup_cons.mp distinct
    have rest := @ih (items.filter fun a => !decide (key a = k)) distinct (by
      intro a member
      obtain ⟨member, other⟩ := mem_filter.mp member
      rcases mem_cons.mp (covered a member) with same | member
      · simp [same] at other
      · exact member)
    have fibres : (ks.flatMap fun k' => items.filter fun a => decide (key a = k')) =
        ks.flatMap fun k' =>
          (items.filter fun a => !decide (key a = k)).filter fun a => decide (key a = k') := by
      apply flatMap_congr
      intro k' member
      have other : k' ≠ k := fun same => missing (same ▸ member)
      rw [filter_filter]
      apply filter_congr
      intro a _
      by_cases same : key a = k'
      · simp [same, other]
      · simp [same]
    rw [flatMap_cons, fibres]
    exact (List.Perm.append_left _ rest).trans (filter_append_perm _ items)

end Maps

section Chunks
variable {α : Type}

/-- Consecutive pieces of `k` elements; what is left over is dropped. -/
def chunksExact (k : Nat) (items : List α) : List (List α) :=
  (List.range (items.length / k)).map fun i => (items.drop (i * k)).take k

theorem chunksExact_append (positive : 0 < k) (whole : piece.length = k) :
    chunksExact k (piece ++ rest) = piece :: chunksExact k rest := by
  have pieces : (piece ++ rest).length / k = rest.length / k + 1 := by
    rw [length_append, whole, Nat.add_comm, Nat.add_div_right _ positive]
  rw [chunksExact, pieces, List.range_succ_eq_map, map_cons, map_map, chunksExact]
  congr 1
  · rw [Nat.zero_mul, drop_zero, ← whole]
    exact take_left
  · apply map_congr_left
    intro i _
    have beyond : (i + 1) * k = piece.length + i * k := by
      rw [whole, Nat.add_mul]
      omega
    simp only [Function.comp, Nat.succ_eq_add_one, beyond, drop_length_add_append]

/-- Pieces that were put one behind the other are found again. -/
theorem chunksExact_flatMap {β : Type} {k : Nat} (positive : 0 < k) {pieces : List β}
    {piece : β → List α} (whole : ∀ p ∈ pieces, (piece p).length = k) :
    chunksExact k (pieces.flatMap piece) = pieces.map piece := by
  induction pieces with
  | nil => simp [chunksExact]
  | cons p pieces ih =>
    obtain ⟨head, tail⟩ := forall_mem_cons.mp whole
    rw [flatMap_cons, chunksExact_append positive head, ih tail, map_cons]

end Chunks

end Grouping
