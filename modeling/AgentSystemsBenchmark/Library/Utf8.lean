import AgentSystemsBenchmark.Library.Numerals

/-!
# Encoded texts

The UTF-8 bytes of a text, character by character: an ASCII character is its own byte,
and every byte of a wider one lies above the ASCII range. So ASCII texts are found in the
bytes exactly where they stand in the text.
-/

namespace Utf8

open List

/-- The bytes of a text. -/
def encode (text : List Char) : List UInt8 := text.flatMap String.utf8EncodeChar

theorem bytes_ofList (text : List Char) : Numerals.bytes (String.ofList text) = encode text := by
  rw [Numerals.bytes, String.toUTF8, String.toByteArray_ofList, utf8Encode]
  exact toList_data_toByteArray

/-- The text with these bytes, if there is one. -/
def decode (input : List UInt8) : Option String := String.fromUTF8? ⟨input.toArray⟩

theorem decode_eq_some : decode input = some text ↔ input = Numerals.bytes text := by
  constructor
  · intro found
    rw [decode, String.fromUTF8?] at found
    split at found
    · rw [← Option.some.inj found]
      rfl
    · cases found
  · rintro rfl
    have packed : (⟨(Numerals.bytes text).toArray⟩ : ByteArray) = text.toByteArray := rfl
    rw [decode, packed, String.fromUTF8?, dif_pos text.isValidUTF8]
    rfl

@[simp] theorem encode_nil : encode [] = [] := rfl

@[simp] theorem encode_cons (c : Char) (text : List Char) :
    encode (c :: text) = String.utf8EncodeChar c ++ encode text := rfl

@[simp] theorem encode_append (a b : List Char) : encode (a ++ b) = encode a ++ encode b :=
  flatMap_append

def Ascii (c : Char) : Prop := c.toNat < 128

instance : DecidablePred Ascii := fun c => inferInstanceAs (Decidable (c.toNat < 128))

theorem encode_ascii (ascii : Ascii c) : String.utf8EncodeChar c = [UInt8.ofNat c.toNat] :=
  if_pos (Nat.le_of_lt_succ ascii)

theorem encode_wide (wide : ¬ Ascii c) (mem : b ∈ String.utf8EncodeChar c) : 128 ≤ b.toNat := by
  have large : ¬ c.val.toNat ≤ 127 := fun small => wide (Nat.lt_succ_of_le small)
  rw [String.utf8EncodeChar, if_neg large] at mem
  split_ifs at mem <;>
    simp only [mem_cons, not_mem_nil, or_false] at mem <;>
    (rcases mem with rfl | rfl | rfl | rfl) <;>
    (rw [UInt8.toNat_ofNat']; omega)

theorem ascii_inj (ascii : Ascii a) (other : Ascii c)
    (same : UInt8.ofNat a.toNat = UInt8.ofNat c.toNat) : a = c := by
  have eq := congrArg UInt8.toNat same
  rw [UInt8.toNat_ofNat', UInt8.toNat_ofNat'] at eq
  rw [Ascii] at ascii other
  rw [← Char.ofNat_toNat a, ← Char.ofNat_toNat c, show a.toNat = c.toNat by omega]

theorem ascii_toNat_lt (ascii : Ascii a) : (UInt8.ofNat a.toNat).toNat < 128 := by
  rw [UInt8.toNat_ofNat']
  rw [Ascii] at ascii
  omega

/-- An ASCII text in front of the bytes stands in front of the text. -/
theorem prefix_of_encode (all : ∀ c ∈ ascii, Ascii c) (short : ascii.length ≤ text.length)
    (front : encode ascii <+: encode text ++ rest) : ascii <+: text := by
  induction ascii generalizing text with
  | nil => exact nil_prefix
  | cons a ascii ih =>
    obtain ⟨one, others⟩ := forall_mem_cons.mp all
    cases text with
    | nil => cases short
    | cons c text =>
      rw [encode_cons, encode_ascii one, encode_cons] at front
      by_cases narrow : Ascii c
      · rw [encode_ascii narrow] at front
        obtain ⟨same, front⟩ := cons_prefix_cons.mp front
        rw [ascii_inj one narrow same]
        exact cons_prefix_cons.mpr ⟨rfl, ih others (Nat.le_of_succ_le_succ short) front⟩
      · -- the first byte of a wide character is none of an ASCII text
        obtain ⟨b, bs, first⟩ := exists_cons_of_ne_nil (@String.utf8EncodeChar_ne_nil c)
        have wide := encode_wide narrow (first ▸ mem_cons_self)
        rw [first] at front
        obtain ⟨rfl, -⟩ := cons_prefix_cons.mp front
        exact absurd (ascii_toNat_lt one) (Nat.not_lt.mpr wide)

/-- An ASCII text at the end of the bytes stands at the end of the text. -/
theorem suffix_of_encode (all : ∀ c ∈ ascii, Ascii c)
    (whole : encode text = front ++ encode ascii) :
    ascii <:+ text := by
  induction ascii using reverseRecOn generalizing text with
  | nil => exact nil_suffix
  | append_singleton ascii a ih =>
    have one := all a (mem_append_right _ (mem_singleton.mpr rfl))
    rw [encode_append, encode_cons, encode_ascii one, encode_nil, append_nil,
      ← append_assoc] at whole
    rcases eq_nil_or_concat text with rfl | ⟨before, c, rfl⟩
    · exact absurd whole.symm (append_ne_nil_of_right_ne_nil _ (cons_ne_nil _ _))
    · rw [concat_eq_append, encode_append, encode_cons, encode_nil, append_nil] at whole
      by_cases narrow : Ascii c
      · rw [encode_ascii narrow] at whole
        obtain ⟨shorter, same⟩ := append_inj' whole rfl
        obtain rfl := ascii_inj narrow one (List.cons.inj same).1
        obtain ⟨rest, rfl⟩ := ih (fun d mem => all d (mem_append_left _ mem)) shorter
        exact ⟨rest, by rw [concat_eq_append, append_assoc]⟩
      · -- the last byte of a wide character is none of an ASCII text
        obtain ⟨bs, b, last⟩ := (eq_nil_or_concat (String.utf8EncodeChar c)).resolve_left
          String.utf8EncodeChar_ne_nil
        rw [concat_eq_append] at last
        have wide := encode_wide narrow (last ▸ mem_append_right _ (mem_singleton.mpr rfl))
        rw [last, ← append_assoc] at whole
        obtain ⟨-, same⟩ := append_inj' whole rfl
        obtain rfl := (List.cons.inj same).1
        exact absurd (ascii_toNat_lt one) (Nat.not_lt.mpr wide)

end Utf8
