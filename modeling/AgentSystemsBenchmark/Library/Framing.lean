import AgentSystemsBenchmark.Library.Numerals

/-!
# Byte frames

Numbers of a fixed width and texts behind their length, as they are fed to a
hash function. A sequence of frames can be read back frame by frame, so it
determines the texts it was made of.
-/

namespace Framing

open Numerals List

/-- The bytes of a number, lowest first. -/
def leBytes : Nat → Nat → List UInt8
  | 0, _ => []
  | width + 1, n => UInt8.ofNat (n % 256) :: leBytes width (n / 256)

/-- A text behind its length. -/
def framed (value : String) : List UInt8 := leBytes 8 value.utf8ByteSize ++ bytes value

@[simp] theorem length_leBytes (width n : Nat) : (leBytes width n).length = width := by
  induction width generalizing n with
  | zero => rfl
  | succ width ih => rw [leBytes, length_cons, ih]

theorem ofNat_mod_injective (h : UInt8.ofNat (m % 256) = UInt8.ofNat (n % 256)) :
    m % 256 = n % 256 := by
  have sizes := congrArg UInt8.toNat h
  simpa [UInt8.toNat_ofNat'] using sizes

theorem leBytes_injective (hm : m < 256 ^ width) (hn : n < 256 ^ width)
    (h : leBytes width m = leBytes width n) : m = n := by
  induction width generalizing m n with
  | zero => omega
  | succ width ih =>
    rw [leBytes, leBytes, List.cons.injEq] at h
    have low := ofNat_mod_injective h.1
    rw [Nat.pow_succ] at hm hn
    have high : m / 256 = n / 256 :=
      ih (Nat.div_lt_of_lt_mul (by omega)) (Nat.div_lt_of_lt_mul (by omega)) h.2
    omega

/-- A text that fits the width of its length. -/
def Fits (value : String) : Prop := value.utf8ByteSize < 2 ^ 64

instance (value : String) : Decidable (Fits value) := inferInstanceAs (Decidable (_ < _))

section Codes
universe u v
variable {α : Type u} {ι : Type v} {valid : α → Prop}

/-- A valid value is read back from the front of whatever follows its code. -/
def Delimits (valid : α → Prop) (code : α → List UInt8) : Prop :=
  ∀ a b s t, valid a → valid b → code a ++ s = code b ++ t → a = b ∧ s = t

theorem delimits_byte (injective : Function.Injective f) : Delimits valid fun a => [f a] := by
  intro a b s t _ _ h
  rw [singleton_append, singleton_append, List.cons.injEq] at h
  exact ⟨injective h.1, h.2⟩

/-- The bytes of a number, highest first. -/
def beBytes (width n : Nat) : List UInt8 := (leBytes width n).reverse

@[simp] theorem length_beBytes (width n : Nat) : (beBytes width n).length = width := by
  rw [beBytes, length_reverse, length_leBytes]

theorem leBytes_mod (width n : Nat) : leBytes width (n % 256 ^ width) = leBytes width n := by
  induction width generalizing n with
  | zero => rfl
  | succ width ih =>
    have low : n % 256 ^ (width + 1) % 256 = n % 256 :=
      Nat.mod_mod_of_dvd n (Nat.dvd_mul_left 256 (256 ^ width))
    have high : n % 256 ^ (width + 1) / 256 = n / 256 % 256 ^ width := by
      rw [Nat.pow_succ, Nat.mul_comm, Nat.mod_mul_right_div_self]
    rw [leBytes, leBytes, low, high, ih]

theorem delimits_beBytes (width : Nat) : Delimits (fun n => n < 256 ^ width) (beBytes width) := by
  intro m n s t hm hn h
  obtain ⟨same, rest⟩ := append_inj h (by rw [length_beBytes, length_beBytes])
  exact ⟨leBytes_injective hm hn (reverse_inj.mp same), rest⟩

/-- The number whose bytes these are, highest first. -/
def beValue (digits : List UInt8) : Nat := digits.foldl (fun n digit => n * 256 + digit.toNat) 0

theorem beValue_beBytes (h : n < 256 ^ width) : beValue (beBytes width n) = n := by
  rw [beValue, beBytes, foldl_reverse]
  induction width generalizing n with
  | zero => rw [leBytes, foldr_nil]; omega
  | succ width ih =>
    rw [Nat.pow_succ] at h
    have high : n / 256 < 256 ^ width := Nat.div_lt_of_lt_mul (by omega)
    have low : (UInt8.ofNat (n % 256)).toNat = n % 256 := by
      rw [UInt8.toNat_ofNat', Nat.mod_mod]
    rw [leBytes, foldr_cons, ih high, low]
    omega

theorem beBytes_succ (width n : Nat) :
    beBytes (width + 1) n = beBytes width (n / 256) ++ [UInt8.ofNat (n % 256)] := by
  rw [beBytes, leBytes, reverse_cons, ← beBytes]

theorem beValue_concat (digits : List UInt8) (digit : UInt8) :
    beValue (digits ++ [digit]) = beValue digits * 256 + digit.toNat := by
  rw [beValue, foldl_append, ← beValue, foldl_cons, foldl_nil]

theorem beBytes_beValue (size : digits.length = width) :
    beBytes width (beValue digits) = digits := by
  subst size
  induction digits using reverseRecOn with
  | nil => rfl
  | append_singleton digits digit ih =>
    have bound : digit.toNat < 256 := digit.toNat_lt
    have high : (beValue digits * 256 + digit.toNat) / 256 = beValue digits := by omega
    have low : (beValue digits * 256 + digit.toNat) % 256 = digit.toNat := by omega
    rw [length_append, length_singleton, beValue_concat, beBytes_succ, high, low, ih,
      UInt8.ofNat_toNat]

/-- A word given by its number. -/
theorem delimits_word (injective : Function.Injective value)
    (bounded : ∀ a, value a < 256 ^ width) :
    Delimits valid fun a => beBytes width (value a) := by
  intro a b s t _ _ h
  obtain ⟨same, rest⟩ := delimits_beBytes width _ _ s t (bounded a) (bounded b) h
  exact ⟨injective same, rest⟩

/-- A text behind its length, highest byte first. -/
def beFramed (value : String) : List UInt8 := beBytes 8 value.utf8ByteSize ++ bytes value

theorem delimits_beFramed : Delimits Fits beFramed := by
  intro a b s t ha hb h
  rw [beFramed, beFramed, append_assoc, append_assoc] at h
  obtain ⟨sizes, rest⟩ := delimits_beBytes 8 _ _ _ _ (by simpa [Fits] using ha)
    (by simpa [Fits] using hb) h
  obtain ⟨texts, tails⟩ := append_inj rest (by rw [length_bytes, length_bytes, sizes])
  exact ⟨bytes_injective texts, tails⟩

/-- A value behind a byte that says whether there is one. -/
def optional (code : α → List UInt8) : Option α → List UInt8
  | none => [0]
  | some value => [1] ++ code value

theorem Delimits.optional (delimits : Delimits valid code) :
    Delimits (fun value => ∀ a ∈ value, valid a) (optional code) := by
  rintro (_ | a) (_ | b) s t ha hb h
  · exact ⟨rfl, (List.cons.inj h).2⟩
  · cases (List.cons.inj h).1
  · cases (List.cons.inj h).1
  · obtain ⟨same, rest⟩ := delimits a b s t (ha a rfl) (hb b rfl) (List.cons.inj h).2
    exact ⟨congrArg some same, rest⟩

/-- Codes written one after another are read back one after another. -/
theorem flatMap_delimits {f g : ι → List UInt8} {Same : ι → Prop} {fields : List ι}
    {s t : List UInt8}
    (delimits : ∀ i ∈ fields, ∀ s t, f i ++ s = g i ++ t → Same i ∧ s = t)
    (h : fields.flatMap f ++ s = fields.flatMap g ++ t) :
    (∀ i ∈ fields, Same i) ∧ s = t := by
  induction fields with
  | nil => exact ⟨fun _ member => (nomatch member), h⟩
  | cons i rest ih =>
    rw [flatMap_cons, flatMap_cons, append_assoc, append_assoc] at h
    obtain ⟨first, later⟩ := delimits i mem_cons_self _ _ h
    obtain ⟨others, tails⟩ := ih (fun j member => delimits j (mem_cons_of_mem _ member)) later
    exact ⟨forall_mem_cons.mpr ⟨first, others⟩, tails⟩

end Codes

/-! ## Slices -/

section Slices
universe w
variable {α : Type w} {input x y : List α} {start mid stop : Nat}

/-- The elements from one position up to another, when both lie inside. -/
def slice (input : List α) (start stop : Nat) : Option (List α) :=
  if start ≤ stop ∧ stop ≤ input.length then some ((input.take stop).drop start) else none

theorem slice_eq_some : slice input start stop = some x ↔
    start ≤ stop ∧ stop ≤ input.length ∧ (input.take stop).drop start = x := by
  rw [slice]
  split
  case isTrue inside => simp [inside]
  case isFalse outside =>
    constructor
    · intro h
      cases h
    · rintro ⟨order, within, -⟩
      exact absurd ⟨order, within⟩ outside

theorem length_slice (h : slice input start stop = some x) : x.length = stop - start := by
  obtain ⟨order, within, rfl⟩ := slice_eq_some.mp h
  rw [length_drop, length_take_of_le within]

/-- Neighbouring slices make one. -/
theorem slice_join (first : slice input start mid = some x)
    (second : slice input mid stop = some y) :
    slice input start stop = some (x ++ y) := by
  obtain ⟨order, within, rfl⟩ := slice_eq_some.mp first
  obtain ⟨order', within', rfl⟩ := slice_eq_some.mp second
  refine slice_eq_some.mpr ⟨order.trans order', within', ?_⟩
  have cut : input.take mid = (input.take stop).take mid := by
    rw [take_take, Nat.min_eq_left order']
  have size : start ≤ ((input.take stop).take mid).length := by
    rw [← cut, length_take_of_le within]
    exact order
  rw [cut, ← drop_append_of_le_length size, take_append_drop]

theorem slice_whole (h : slice input 0 input.length = some x) : input = x := by
  rw [← (slice_eq_some.mp h).2.2, take_length, drop_zero]

/-- One piece of what was written piece by piece. -/
theorem slice_flatten (before : List (List α)) (piece : List α) (after : List (List α))
    (begins : start = before.flatten.length) (ends : stop = start + piece.length) :
    slice (before ++ piece :: after).flatten start stop = some piece := by
  subst begins ends
  rw [flatten_append, flatten_cons]
  refine slice_eq_some.mpr ⟨Nat.le_add_right .., ?_, ?_⟩
  · rw [length_append, length_append]
    omega
  · rw [← append_assoc, ← length_append, take_left, drop_left]

end Slices

end Framing
