import AgentSystemsBenchmark.Library.Numerals

/-!
# JSON values and their texts

Objects list their members. A value is normal when the members of each object stand in
ascending order of their names, no name twice, and each fractional number is spelled in
characters of a number with a point or an exponent. The canonical text sorts members by name
at every depth; on normal values it is the plain text, and the plain text determines the value.

A pointer names a part of a value by the members and indices on the way to it.
-/

namespace Json

open List

inductive Number where
  | natural (n : Nat)
  | negative (n : Nat)
  | fraction (spelling : String)
  deriving DecidableEq, Repr

inductive Value where
  | null
  | bool (b : Bool)
  | number (n : Number)
  | string (text : String)
  | array (items : List Value)
  | object (members : List (String × Value))
  deriving Repr

open Value

/-! ## Equality -/

mutual
def Value.same : Value → Value → Bool
  | .null, .null => true
  | .bool a, .bool b => a = b
  | .number a, .number b => a = b
  | .string a, .string b => a = b
  | .array a, .array b => sameItems a b
  | .object a, .object b => sameMembers a b
  | _, _ => false

def sameItems : List Value → List Value → Bool
  | [], [] => true
  | v :: vs, w :: ws => v.same w && sameItems vs ws
  | _, _ => false

def sameMembers : List (String × Value) → List (String × Value) → Bool
  | [], [] => true
  | (k, v) :: vs, (l, w) :: ws => k = l && v.same w && sameMembers vs ws
  | _, _ => false
end

mutual
theorem Value.same_iff (v w : Value) : v.same w = true ↔ v = w := by
  cases v <;> cases w <;>
    simp only [Value.same, reduceCtorEq, Bool.false_eq_true, decide_eq_true_eq, Value.bool.injEq,
      Value.number.injEq, Value.string.injEq, Value.array.injEq, Value.object.injEq,
      sameItems_iff, sameMembers_iff]

theorem sameItems_iff (vs ws : List Value) : sameItems vs ws = true ↔ vs = ws := by
  cases vs <;> cases ws <;>
    simp [sameItems, Value.same_iff, sameItems_iff]

theorem sameMembers_iff (vs ws : List (String × Value)) : sameMembers vs ws = true ↔ vs = ws := by
  cases vs <;> cases ws <;>
    simp [sameMembers, Value.same_iff, sameMembers_iff, Prod.ext_iff]
end

instance : DecidableEq Value := fun v w => decidable_of_iff _ (v.same_iff w)

/-! ## Texts -/

def Number.print : Number → List Char
  | .natural n => Nat.toDigits 10 n
  | .negative n => '-' :: Nat.toDigits 10 n
  | .fraction spelling => spelling.toList

/-- A character as it stands in a text: quotes, backslashes and controls are escaped. -/
def escape (c : Char) : List Char :=
  if c = '"' then ['\\', '"']
  else if c = '\\' then ['\\', '\\']
  else if c = '\x08' then ['\\', 'b']
  else if c = '\t' then ['\\', 't']
  else if c = '\n' then ['\\', 'n']
  else if c = '\x0c' then ['\\', 'f']
  else if c = '\r' then ['\\', 'r']
  else if c.toNat < 32 then
    ['\\', 'u', '0', '0', Nat.digitChar (c.toNat / 16), Nat.digitChar (c.toNat % 16)]
  else [c]

/-- The escaped characters and the closing quote. -/
def printChars : List Char → List Char
  | [] => ['"']
  | c :: rest => escape c ++ printChars rest

def printString (text : String) : List Char := '"' :: printChars text.toList

mutual
def Value.print : Value → List Char
  | .null => ['n', 'u', 'l', 'l']
  | .bool true => ['t', 'r', 'u', 'e']
  | .bool false => ['f', 'a', 'l', 's', 'e']
  | .number n => n.print
  | .string text => printString text
  | .array [] => ['[', ']']
  | .array (v :: rest) => '[' :: (v.print ++ printItems rest)
  | .object [] => ['{', '}']
  | .object ((k, v) :: rest) => '{' :: (printString k ++ ':' :: (v.print ++ printMembers rest))

/-- The items behind the first one, and the closing bracket. -/
def printItems : List Value → List Char
  | [] => [']']
  | v :: rest => ',' :: (v.print ++ printItems rest)

def printMembers : List (String × Value) → List Char
  | [] => ['}']
  | (k, v) :: rest => ',' :: (printString k ++ ':' :: (v.print ++ printMembers rest))
end

def byName (a b : String × Value) : Prop := a.1 ≤ b.1

instance : DecidableRel byName := fun a b => inferInstanceAs (Decidable (a.1 ≤ b.1))

mutual
/-- The members of each object in ascending order of their names. -/
def Value.sorted : Value → Value
  | .array items => .array (sortedItems items)
  | .object members => .object ((sortedMembers members).insertionSort byName)
  | v => v

def sortedItems : List Value → List Value
  | [] => []
  | v :: rest => v.sorted :: sortedItems rest

def sortedMembers : List (String × Value) → List (String × Value)
  | [] => []
  | (k, v) :: rest => (k, v.sorted) :: sortedMembers rest
end

def Value.canonical (v : Value) : List Char := v.sorted.print

/-! ## Normal values -/

/-- The characters of a number. -/
def numeral (c : Char) : Bool :=
  c.isDigit || c == '-' || c == '+' || c == '.' || c == 'e' || c == 'E'

def Number.Normal : Number → Prop
  | .natural _ | .negative _ => True
  | .fraction spelling =>
    (∃ c rest, spelling.toList = c :: rest ∧ (c.isDigit = true ∨ c = '-')) ∧
      (∀ c ∈ spelling.toList, numeral c = true) ∧
      ∃ c ∈ spelling.toList, c = '.' ∨ c = 'e' ∨ c = 'E'

mutual
def Value.Normal : Value → Prop
  | .number n => n.Normal
  | .array items => NormalItems items
  | .object members => (members.map Prod.fst).Pairwise (· < ·) ∧ NormalMembers members
  | _ => True

def NormalItems : List Value → Prop
  | [] => True
  | v :: rest => v.Normal ∧ NormalItems rest

def NormalMembers : List (String × Value) → Prop
  | [] => True
  | (_, v) :: rest => v.Normal ∧ NormalMembers rest
end

/-! ## The text determines the value -/

/-- What may follow the text of a value. -/
def Delimited (rest : List Char) : Prop :=
  ∀ c more, rest = c :: more → c = ',' ∨ c = ']' ∨ c = '}'

variable {c : Char}

theorem delimited_cons (ends : c = ',' ∨ c = ']' ∨ c = '}') :
    Delimited (c :: rest) := by
  rintro d more same
  cases same
  exact ends

theorem delimited_printItems (items : List Value) (rest : List Char) :
    Delimited (printItems items ++ rest) := by
  cases items with
  | nil => exact delimited_cons (.inr (.inl rfl))
  | cons => exact delimited_cons (.inl rfl)

theorem delimited_printMembers (members : List (String × Value)) (rest : List Char) :
    Delimited (printMembers members ++ rest) := by
  cases members with
  | nil => exact delimited_cons (.inr (.inr rfl))
  | cons => exact delimited_cons (.inl rfl)

def hexValue (c : Char) : Nat := if c.isDigit then c.toNat - 48 else c.toNat - 87

/-- One escaped character, read back. -/
def unescape : List Char → Option (Char × List Char)
  | '\\' :: '"' :: rest => some ('"', rest)
  | '\\' :: '\\' :: rest => some ('\\', rest)
  | '\\' :: 'b' :: rest => some ('\x08', rest)
  | '\\' :: 't' :: rest => some ('\t', rest)
  | '\\' :: 'n' :: rest => some ('\n', rest)
  | '\\' :: 'f' :: rest => some ('\x0c', rest)
  | '\\' :: 'r' :: rest => some ('\r', rest)
  | '\\' :: 'u' :: '0' :: '0' :: high :: low :: rest =>
    some (Char.ofNat (16 * hexValue high + hexValue low), rest)
  | '"' :: _ => none
  | c :: rest => some (c, rest)
  | [] => none

theorem unescape_control : ∀ n < 32, ∀ rest,
    unescape (escape (Char.ofNat n) ++ rest) = some (Char.ofNat n, rest) := by
  intro n small rest
  interval_cases n <;> rfl

theorem unescape_escape (c : Char) (rest : List Char) :
    unescape (escape c ++ rest) = some (c, rest) := by
  by_cases small : c.toNat < 32
  · have control := unescape_control c.toNat small rest
    rwa [Char.ofNat_toNat] at control
  · by_cases quote : c = '"'
    · subst quote
      rfl
    by_cases slash : c = '\\'
    · subst slash
      rfl
    have plain : escape c = [c] := by
      have other : ∀ d : Char, d.toNat < 32 → c ≠ d := by
        rintro d less rfl
        exact small less
      simp only [escape, quote, slash, other '\x08' (by decide), other '\t' (by decide),
        other '\n' (by decide), other '\x0c' (by decide), other '\r' (by decide), small, if_false]
    rw [plain, singleton_append]
    unfold unescape
    split <;> simp_all

variable {X Y : List Char}

theorem printChars_inj (h : printChars cs ++ X = printChars ds ++ Y) : cs = ds ∧ X = Y := by
  induction cs generalizing ds with
  | nil =>
    cases ds with
    | nil => exact ⟨rfl, by simpa [printChars] using h⟩
    | cons d ds =>
      have read := congrArg unescape h
      rw [printChars, printChars, append_assoc, unescape_escape] at read
      cases read
  | cons c cs ih =>
    cases ds with
    | nil =>
      have read := congrArg unescape h
      rw [printChars, printChars, append_assoc, unescape_escape] at read
      cases read
    | cons d ds =>
      have read := congrArg unescape h
      rw [printChars, printChars, append_assoc, append_assoc, unescape_escape,
        unescape_escape] at read
      obtain ⟨rfl, onward⟩ := Prod.mk.inj (Option.some.inj read)
      obtain ⟨rfl, rest⟩ := ih onward
      exact ⟨rfl, rest⟩

theorem printString_inj (h : printString a ++ X = printString b ++ Y) : a = b ∧ X = Y := by
  obtain ⟨same, rest⟩ := printChars_inj (List.cons.inj h).2
  exact ⟨String.toList_injective same, rest⟩

/-- A number ends where no character of a number follows. -/
theorem numeral_inj (ha : ∀ c ∈ a, numeral c = true) (hb : ∀ c ∈ b, numeral c = true)
    (hX : Delimited X) (hY : Delimited Y) (h : a ++ X = b ++ Y) : a = b ∧ X = Y := by
  have stops : ∀ {Z : List Char}, Delimited Z → Z.takeWhile numeral = [] := by
    intro Z delimited
    cases Z with
    | nil => rfl
    | cons c more =>
      rcases delimited c more rfl with rfl | rfl | rfl <;> rfl
  have spans : ∀ {l Z : List Char}, (∀ c ∈ l, numeral c = true) → Delimited Z →
      (l ++ Z).takeWhile numeral = l := by
    intro l Z all delimited
    rw [takeWhile_append_of_pos all, stops delimited, append_nil]
  have same : a = b := by rw [← spans ha hX, h, spans hb hY]
  subst same
  exact ⟨rfl, append_cancel_left h⟩

theorem numeral_of_digit (digit : c.isDigit = true) : numeral c = true := by
  simp [numeral, digit]

theorem isDigit_toDigits (h : c ∈ Nat.toDigits 10 n) : c.isDigit = true :=
  Nat.isDigit_of_mem_toDigits (by decide) (by decide) h

theorem Number.numeral_print {n : Number} (normal : n.Normal) :
    ∀ c ∈ n.print, numeral c = true := by
  cases n with
  | natural n => exact fun c mem => numeral_of_digit (isDigit_toDigits mem)
  | negative n =>
    intro c mem
    rcases mem_cons.mp mem with rfl | mem
    · rfl
    · exact numeral_of_digit (isDigit_toDigits mem)
  | fraction spelling => exact normal.2.1

theorem toDigits_injective (h : Nat.toDigits 10 m = Nat.toDigits 10 n) : m = n := by
  rw [← Nat.ofDigitChars_ten_toDigits (n := m), h, Nat.ofDigitChars_ten_toDigits]

/-- Neither digits nor a leading sign make a fraction. -/
theorem whole_ne_fraction (normal : (Number.fraction spelling).Normal)
    (h : spelling.toList = Nat.toDigits 10 n ∨ spelling.toList = '-' :: Nat.toDigits 10 n) :
    False := by
  obtain ⟨_, _, c, mem, point⟩ := normal
  have digit : c.isDigit = true ∨ c = '-' := by
    rcases h with h | h
    · rw [h] at mem
      exact .inl (isDigit_toDigits mem)
    · rw [h] at mem
      rcases mem_cons.mp mem with rfl | mem
      · exact .inr rfl
      · exact .inl (isDigit_toDigits mem)
  rcases point with rfl | rfl | rfl <;> revert digit <;> decide

theorem Number.print_inj {m n : Number} (hm : m.Normal) (hn : n.Normal) (h : m.print = n.print) :
    m = n := by
  have signed : ∀ {a b : Nat}, Nat.toDigits 10 a ≠ '-' :: Nat.toDigits 10 b := by
    intro a b same
    have minus : '-' ∈ Nat.toDigits 10 a := same ▸ mem_cons_self
    exact absurd (isDigit_toDigits minus) (by decide)
  cases m with
  | natural a =>
    cases n with
    | natural b => rw [toDigits_injective h]
    | negative b => exact absurd h signed
    | fraction b => exact (whole_ne_fraction hn (.inl h.symm)).elim
  | negative a =>
    cases n with
    | natural b => exact absurd h.symm signed
    | negative b => rw [toDigits_injective (List.cons.inj h).2]
    | fraction b => exact (whole_ne_fraction hn (.inr h.symm)).elim
  | fraction a =>
    cases n with
    | natural b => exact (whole_ne_fraction hm (.inl h)).elim
    | negative b => exact (whole_ne_fraction hm (.inr h)).elim
    | fraction b => rw [String.toList_injective h]

def Value.kind : Value → Nat
  | .null => 0
  | .bool _ => 1
  | .number _ => 2
  | .string _ => 3
  | .array _ => 4
  | .object _ => 5

/-- The kind of value a text that begins with this character stands for. -/
def kindOf (c : Char) : Nat :=
  if c = 'n' then 0
  else if c = 't' ∨ c = 'f' then 1
  else if c = '"' then 3
  else if c = '[' then 4
  else if c = '{' then 5
  else if c.isDigit ∨ c = '-' then 2
  else 6

theorem kindOf_numeral (h : c.isDigit = true ∨ c = '-') : kindOf c = 2 := by
  have other : ∀ d : Char, d.isDigit = false → d ≠ '-' → c ≠ d := by
    rintro d letter sign rfl
    rcases h with digit | minus
    · rw [letter] at digit
      cases digit
    · exact sign minus
  simp only [kindOf, other 'n' rfl (by decide), other 't' rfl (by decide),
    other 'f' rfl (by decide), other '"' rfl (by decide), other '[' rfl (by decide),
    other '{' rfl (by decide), or_self, if_false, h, if_true]

theorem Number.print_head {n : Number} (normal : n.Normal) :
    ∃ c rest, n.print = c :: rest ∧ kindOf c = 2 := by
  cases n with
  | natural n =>
    cases digits : Nat.toDigits 10 n with
    | nil => exact absurd digits Nat.toDigits_ne_nil
    | cons c rest =>
      have mem : c ∈ Nat.toDigits 10 n := digits ▸ mem_cons_self
      exact ⟨c, rest, digits, kindOf_numeral (.inl (isDigit_toDigits mem))⟩
  | negative n => exact ⟨'-', _, rfl, rfl⟩
  | fraction spelling =>
    obtain ⟨⟨c, rest, same, first⟩, _⟩ := normal
    exact ⟨c, rest, same, kindOf_numeral first⟩

theorem Value.print_head {v : Value} (normal : v.Normal) :
    ∃ c rest, v.print = c :: rest ∧ kindOf c = v.kind := by
  cases v with
  | null | string => exact ⟨_, _, rfl, rfl⟩
  | bool b => cases b <;> exact ⟨_, _, rfl, rfl⟩
  | number n => exact Number.print_head normal
  | array items => cases items <;> exact ⟨_, _, rfl, rfl⟩
  | object members => rcases members with _ | ⟨⟨k, v⟩, rest⟩ <;> exact ⟨_, _, rfl, rfl⟩

theorem Value.print_ne_close {w : Value} (hw : w.Normal) :
    ']' :: X ≠ w.print ++ Y := by
  obtain ⟨c, rest, pw, kw⟩ := print_head hw
  rw [pw]
  intro h
  obtain ⟨rfl, _⟩ := List.cons.inj h
  cases w <;> cases kw

variable {v w : Value}

theorem Value.kind_eq (hv : v.Normal) (hw : w.Normal)
    (h : v.print ++ X = w.print ++ Y) : v.kind = w.kind := by
  obtain ⟨c, rest, pv, kv⟩ := print_head hv
  obtain ⟨d, rest', pw, kw⟩ := print_head hw
  rw [pv, pw] at h
  obtain ⟨rfl, _⟩ := List.cons.inj h
  exact kv.symm.trans kw

-- A text that goes on behind a value goes on with a delimiter, so a number ends there.
mutual
theorem Value.print_inj (v w : Value) {X Y : List Char} (hv : v.Normal) (hw : w.Normal)
    (hX : Delimited X) (hY : Delimited Y) (h : v.print ++ X = w.print ++ Y) : v = w ∧ X = Y := by
  have kind := kind_eq hv hw h
  cases v with
  | null =>
    cases w <;> cases kind
    exact ⟨rfl, by simpa [print] using h⟩
  | bool a =>
    cases w <;> cases kind
    rename_i b
    cases a <;> cases b <;> simp [print] at h <;> exact ⟨rfl, h⟩
  | number m =>
    cases w <;> cases kind
    rename_i n
    obtain ⟨same, rest⟩ :=
      numeral_inj (Number.numeral_print hv) (Number.numeral_print hw) hX hY h
    exact ⟨by rw [Number.print_inj hv hw same], rest⟩
  | string a =>
    cases w <;> cases kind
    obtain ⟨rfl, rest⟩ := printString_inj h
    exact ⟨rfl, rest⟩
  | array vs =>
    cases w <;> cases kind
    rename_i ws
    cases vs with
    | nil =>
      cases ws with
      | nil => exact ⟨rfl, by simpa [print] using h⟩
      | cons w ws =>
        simp only [print, cons_append, append_assoc, List.cons.injEq, true_and] at h
        exact absurd h (print_ne_close hw.1)
    | cons v vs =>
      cases ws with
      | nil =>
        simp only [Value.print, cons_append, append_assoc, List.cons.injEq, true_and] at h
        exact absurd h.symm (Value.print_ne_close hv.1)
      | cons w ws =>
        simp only [Value.print, cons_append, append_assoc, List.cons.injEq, true_and] at h
        obtain ⟨rfl, onward⟩ := Value.print_inj v w hv.1 hw.1 (delimited_printItems _ _)
          (delimited_printItems _ _) h
        obtain ⟨rfl, rest⟩ := printItems_inj vs ws hv.2 hw.2 onward
        exact ⟨rfl, rest⟩
  | object vs =>
    cases w <;> cases kind
    rename_i ws
    rcases vs with _ | ⟨⟨k, v⟩, vs⟩ <;> rcases ws with _ | ⟨⟨l, w⟩, ws⟩ <;>
      simp only [print, cons_append, append_assoc, nil_append,
        List.cons.injEq, true_and] at h
    · exact ⟨rfl, h⟩
    · exact absurd (List.cons.inj h).1 (by decide)
    · exact absurd (List.cons.inj h).1 (by decide)
    · obtain ⟨rfl, inner⟩ := printString_inj h
      obtain ⟨rfl, onward⟩ := Value.print_inj v w hv.2.1 hw.2.1 (delimited_printMembers _ _)
        (delimited_printMembers _ _) (List.cons.inj inner).2
      obtain ⟨rfl, rest⟩ := printMembers_inj vs ws hv.2.2 hw.2.2 onward
      exact ⟨rfl, rest⟩

theorem printItems_inj (vs ws : List Value) {X Y : List Char} (hv : NormalItems vs)
    (hw : NormalItems ws) (h : printItems vs ++ X = printItems ws ++ Y) : vs = ws ∧ X = Y := by
  cases vs with
  | nil =>
    cases ws with
    | nil => exact ⟨rfl, (List.cons.inj h).2⟩
    | cons w ws => exact absurd (List.cons.inj h).1 (by decide)
  | cons v vs =>
    cases ws with
    | nil => exact absurd (List.cons.inj h).1 (by decide)
    | cons w ws =>
      simp only [printItems, cons_append, append_assoc, List.cons.injEq, true_and] at h
      obtain ⟨rfl, onward⟩ := Value.print_inj v w hv.1 hw.1 (delimited_printItems _ _)
        (delimited_printItems _ _) h
      obtain ⟨rfl, rest⟩ := printItems_inj vs ws hv.2 hw.2 onward
      exact ⟨rfl, rest⟩

theorem printMembers_inj (vs ws : List (String × Value)) {X Y : List Char} (hv : NormalMembers vs)
    (hw : NormalMembers ws) (h : printMembers vs ++ X = printMembers ws ++ Y) :
    vs = ws ∧ X = Y := by
  cases vs with
  | nil =>
    cases ws with
    | nil => exact ⟨rfl, (List.cons.inj h).2⟩
    | cons w ws => exact absurd (List.cons.inj h).1 (by decide)
  | cons v vs =>
    cases ws with
    | nil => exact absurd (List.cons.inj h).1 (by decide)
    | cons w ws =>
      obtain ⟨k, v⟩ := v
      obtain ⟨l, w⟩ := w
      simp only [printMembers, cons_append, append_assoc, List.cons.injEq, true_and] at h
      obtain ⟨rfl, inner⟩ := printString_inj h
      obtain ⟨rfl, onward⟩ := Value.print_inj v w hv.1 hw.1 (delimited_printMembers _ _)
        (delimited_printMembers _ _) (List.cons.inj inner).2
      obtain ⟨rfl, rest⟩ := printMembers_inj vs ws hv.2 hw.2 onward
      exact ⟨rfl, rest⟩
end

/-! ## Reorderings -/

mutual
/-- What a document read from text satisfies: distinct names in each object, and numbers as the
printer spells them. -/
def Value.Proper : Value → Prop
  | .number n => n.Normal
  | .array items => ProperItems items
  | .object members => (members.map Prod.fst).Nodup ∧ ProperMembers members
  | _ => True

def ProperItems : List Value → Prop
  | [] => True
  | v :: rest => v.Proper ∧ ProperItems rest

def ProperMembers : List (String × Value) → Prop
  | [] => True
  | (_, v) :: rest => v.Proper ∧ ProperMembers rest
end

variable {items : List Value}

theorem properItems_iff : ProperItems items ↔ ∀ v ∈ items, v.Proper := by
  induction items with
  | nil => simp [ProperItems]
  | cons v rest ih => rw [ProperItems, ih, forall_mem_cons]

variable {members : List (String × Value)}

theorem properMembers_iff :
    ProperMembers members ↔ ∀ m ∈ members, m.2.Proper := by
  induction members with
  | nil => simp [ProperMembers]
  | cons m rest ih => rw [ProperMembers, ih, forall_mem_cons]

theorem normalMembers_iff :
    NormalMembers members ↔ ∀ m ∈ members, m.2.Normal := by
  induction members with
  | nil => simp [NormalMembers]
  | cons m rest ih => rw [NormalMembers, ih, forall_mem_cons]

theorem sortedItems_eq_map (items : List Value) : sortedItems items = items.map sorted := by
  induction items with
  | nil => rfl
  | cons v rest ih => rw [sortedItems, ih, map_cons]

theorem sortedMembers_eq_map (members : List (String × Value)) :
    sortedMembers members = members.map fun m => (m.1, m.2.sorted) := by
  induction members with
  | nil => rfl
  | cons m rest ih => rw [sortedMembers, ih, map_cons]

theorem map_fst_sortedMembers (members : List (String × Value)) :
    (sortedMembers members).map Prod.fst = members.map Prod.fst := by
  rw [sortedMembers_eq_map, map_map]
  rfl

instance : Std.Total byName := ⟨fun a b => le_total a.1 b.1⟩

instance : IsTrans (String × Value) byName := ⟨fun _ _ _ => le_trans⟩

mutual
theorem Value.Proper.normal_sorted (v : Value) (proper : v.Proper) : v.sorted.Normal := by
  cases v with
  | null | bool | string => trivial
  | number => exact proper
  | array items => exact normalItems_sortedItems items proper
  | object members =>
    obtain ⟨distinct, values⟩ := proper
    have same := perm_insertionSort byName (sortedMembers members)
    refine ⟨?_, ?_⟩
    · have names : ((sortedMembers members).insertionSort byName |>.map Prod.fst).Nodup := by
        rw [(same.map Prod.fst).nodup_iff, map_fst_sortedMembers]
        exact distinct
      have ascending : ((sortedMembers members).insertionSort byName |>.map Prod.fst).Pairwise
          (· ≤ ·) := pairwise_map.mpr (pairwise_insertionSort byName _)
      exact (ascending.and names).imp fun both => lt_of_le_of_ne both.1 both.2
    · rw [normalMembers_iff]
      intro m mem
      exact normalMembers_iff.mp (normalMembers_sortedMembers members values) m
        (same.mem_iff.mp mem)

theorem normalItems_sortedItems (items : List Value) (proper : ProperItems items) :
    NormalItems (sortedItems items) := by
  cases items with
  | nil => trivial
  | cons v rest =>
    exact ⟨Value.Proper.normal_sorted v proper.1, normalItems_sortedItems rest proper.2⟩

theorem normalMembers_sortedMembers (members : List (String × Value))
    (proper : ProperMembers members) : NormalMembers (sortedMembers members) := by
  rcases members with _ | ⟨⟨k, v⟩, rest⟩
  · trivial
  · exact ⟨Value.Proper.normal_sorted v proper.1, normalMembers_sortedMembers rest proper.2⟩
end

/-- Equality up to the order of object members at every depth: the least equivalence that
permutes the members of an object and reaches into items and members. -/
inductive Value.Reordered : Value → Value → Prop
  | refl (v : Value) : Reordered v v
  | symm {v w : Value} : Reordered v w → Reordered w v
  | trans {u v w : Value} : Reordered u v → Reordered v w → Reordered u w
  | members {xs ys : List (String × Value)} : xs.Perm ys → Reordered (.object xs) (.object ys)
  | item {v w : Value} (before after : List Value) : Reordered v w →
    Reordered (.array (before ++ v :: after)) (.array (before ++ w :: after))
  | member {v w : Value} (before after : List (String × Value)) (k : String) : Reordered v w →
    Reordered (.object (before ++ (k, v) :: after)) (.object (before ++ (k, w) :: after))

theorem Value.Reordered.proper_iff (same : v.Reordered w) :
    v.Proper ↔ w.Proper := by
  induction same with
  | refl => rfl
  | symm _ ih => exact ih.symm
  | trans _ _ first second => exact first.trans second
  | members perm =>
    simp only [Value.Proper, properMembers_iff, (perm.map Prod.fst).nodup_iff, perm.mem_iff]
  | item before after _ ih =>
    simp only [Value.Proper, properItems_iff, forall_mem_append, forall_mem_cons, ih]
  | member before after k _ ih =>
    simp only [Value.Proper, properMembers_iff, forall_mem_append, forall_mem_cons, ih,
      map_append, map_cons]

theorem Value.Reordered.sorted_eq (same : v.Reordered w) (proper : v.Proper) :
    v.sorted = w.sorted := by
  induction same with
  | refl => rfl
  | symm same ih => exact (ih (same.proper_iff.mpr proper)).symm
  | trans first _ ih ih' => exact (ih proper).trans (ih' (first.proper_iff.mp proper))
  | members perm =>
    rename_i xs ys
    have distinct : ((sortedMembers xs).map Prod.fst).Nodup := by
      rw [map_fst_sortedMembers]
      exact proper.1
    have mapped : (sortedMembers xs).Perm (sortedMembers ys) := by
      rw [sortedMembers_eq_map, sortedMembers_eq_map]
      exact perm.map _
    rw [sorted, sorted]
    congr 1
    refine List.Perm.eq_of_pairwise ?_ (pairwise_insertionSort byName _)
      (pairwise_insertionSort byName _) ?_
    · -- members of one name are one member
      intro a b left right le ge
      refine inj_on_of_nodup_map distinct ((perm_insertionSort ..).mem_iff.mp left)
        (mapped.mem_iff.mpr ((perm_insertionSort ..).mem_iff.mp right)) ?_
      exact le_antisymm le ge
    · exact (perm_insertionSort ..).trans (mapped.trans (perm_insertionSort ..).symm)
  | item before after _ ih =>
    have inner := properItems_iff.mp proper _ (mem_append_right _ mem_cons_self)
    simp only [sorted, sortedItems_eq_map, map_append, map_cons, ih inner]
  | member before after k _ ih =>
    have inner := properMembers_iff.mp proper.2 _ (mem_append_right _ mem_cons_self)
    simp only [sorted, sortedMembers_eq_map, map_append, map_cons, ih inner]

mutual
theorem Value.reordered_sorted (v : Value) : v.Reordered v.sorted := by
  cases v with
  | null | bool | number | string => exact .refl _
  | array items => exact reordered_sortedItems [] items
  | object members =>
    refine .trans (reordered_sortedMembers [] members) ?_
    exact .members (perm_insertionSort byName _).symm

theorem reordered_sortedItems (before items : List Value) :
    (array (before ++ items)).Reordered (.array (before ++ sortedItems items)) := by
  cases items with
  | nil => exact .refl _
  | cons v rest =>
    refine .trans (.item before rest v.reordered_sorted) ?_
    simpa [sortedItems] using reordered_sortedItems (before ++ [v.sorted]) rest

theorem reordered_sortedMembers (before members : List (String × Value)) :
    (object (before ++ members)).Reordered (.object (before ++ sortedMembers members)) := by
  rcases members with _ | ⟨⟨k, v⟩, rest⟩
  · exact .refl _
  · refine .trans (.member before rest k v.reordered_sorted) ?_
    simpa [sortedMembers] using reordered_sortedMembers (before ++ [(k, v.sorted)]) rest
end

/-- The canonical text is one per value up to the order of members. -/
theorem Value.canonical_eq_iff (hv : v.Proper) (hw : w.Proper) :
    v.canonical = w.canonical ↔ v.Reordered w := by
  constructor
  · intro same
    have nothing : Delimited [] := nofun
    have padded : v.sorted.print ++ [] = w.sorted.print ++ [] := by
      rw [append_nil, append_nil]
      exact same
    have sorted := (print_inj _ _ (hv.normal_sorted v) (hw.normal_sorted w) nothing nothing
      padded).1
    refine .trans v.reordered_sorted ?_
    rw [sorted]
    exact .symm w.reordered_sorted
  · intro same
    rw [canonical, canonical, same.sorted_eq hv]

/-! ## Parts of a value -/

namespace Value

def members? : Value → Option (List (String × Value))
  | .object members => some members
  | _ => none

def items? : Value → Option (List Value)
  | .array items => some items
  | _ => none

def text? : Value → Option String
  | .string text => some text
  | _ => none

def natural? : Value → Option Nat
  | .number (.natural n) => some n
  | _ => none

def isNumber : Value → Bool
  | .number _ => true
  | _ => false

def isBool : Value → Bool
  | .bool _ => true
  | _ => false

def get? (v : Value) (name : String) : Option Value := v.members?.bind (·.lookup name)

end Value

/-- The member of this name with a new value. -/
def setMember (name : String) (value : Value) : List (String × Value) → List (String × Value)
  | [] => []
  | (k, v) :: rest => if k = name then (k, value) :: rest else (k, v) :: setMember name value rest

theorem map_fst_setMember (name : String) (value : Value) (members : List (String × Value)) :
    (setMember name value members).map Prod.fst = members.map Prod.fst := by
  induction members with
  | nil => rfl
  | cons member rest ih =>
    obtain ⟨k, v⟩ := member
    rw [setMember]
    split
    · rfl
    · rw [map_cons, ih, map_cons]

theorem lookup_setMember_self (value : Value) (present : name ∈ members.map Prod.fst) :
    (setMember name value members).lookup name = some value := by
  induction members with
  | nil => cases present
  | cons member rest ih =>
    obtain ⟨k, v⟩ := member
    rw [setMember]
    split
    case isTrue same =>
      subst same
      exact lookup_cons_self
    case isFalse other =>
      have onward : name ∈ rest.map Prod.fst := by
        rcases mem_cons.mp present with same | onward
        · exact absurd same.symm other
        · exact onward
      rw [lookup_cons, beq_false_of_ne (Ne.symm other)]
      exact ih onward

theorem lookup_setMember_of_ne (value : Value) (members : List (String × Value))
    (differ : other ≠ name) :
    (setMember name value members).lookup other = members.lookup other := by
  induction members with
  | nil => rfl
  | cons member rest ih =>
    obtain ⟨k, v⟩ := member
    rw [setMember]
    split
    case isTrue same =>
      subst same
      rw [lookup_cons, lookup_cons, beq_false_of_ne differ]
    case isFalse =>
      rw [lookup_cons, lookup_cons, ih]

/-! ### Pointers -/

/-- A name as a step of a pointer: `~` stands as `~0` and `/` as `~1`. -/
def escapeStep (name : List Char) : List Char :=
  name.flatMap fun c => if c = '~' then ['~', '0'] else if c = '/' then ['~', '1'] else [c]

/-- Every `~` that this mark follows is replaced, with the mark, by a character. -/
def expand (mark replacement : Char) : List Char → List Char
  | '~' :: c :: rest =>
    if c = mark then replacement :: expand mark replacement rest
    else '~' :: expand mark replacement (c :: rest)
  | c :: rest => c :: expand mark replacement rest
  | [] => []

def unescapeStep (step : List Char) : List Char := expand '0' '~' (expand '1' '/' step)

theorem expand_cons (rest : List Char) (plain : c ≠ '~') :
    expand mark replacement (c :: rest) = c :: expand mark replacement rest := by
  rw [expand]
  rintro d more rfl
  exact absurd rfl plain

/-- The pointer to a member of an object. -/
def memberPointer (name : String) : String := String.ofList ('/' :: escapeStep name.toList)

/-- The steps of a pointer, unless it is not one. -/
def pointerSteps (pointer : String) : Option (List String) :=
  match pointer.toList with
  | [] => some []
  | '/' :: rest => some ((rest.splitOn '/').map fun step => String.ofList (unescapeStep step))
  | _ => none

/-- A position in an array: decimal digits without a superfluous zero. -/
def position (step : String) : Option Nat :=
  match step.toList with
  | [] => none
  | ['0'] => some 0
  | '0' :: _ => none
  | digits =>
    if digits.all Char.isDigit ∧ Nat.ofDigitChars 10 digits 0 < 2 ^ 64 then
      some (Nat.ofDigitChars 10 digits 0)
    else none

def Value.walk : List String → Value → Option Value
  | [], v => some v
  | step :: rest, .object members => (members.lookup step).bind (walk rest)
  | step :: rest, .array items =>
    (position step).bind fun i => items[i]?.bind (walk rest)
  | _, _ => none

/-- The part a pointer names. -/
def Value.pointer (v : Value) (pointer : String) : Option Value :=
  (pointerSteps pointer).bind fun steps => v.walk steps

def Value.putAt (new : Value) : List String → Value → Option Value
  | [], _ => some new
  | step :: rest, .object members => do
    let old ← members.lookup step
    let part ← putAt new rest old
    return .object (setMember step part members)
  | step :: rest, .array items => do
    let i ← position step
    let old ← items[i]?
    let part ← putAt new rest old
    return .array (items.set i part)
  | _, _ => none

/-- The value with a new part where the pointer points. -/
def Value.assign (v : Value) (pointer : String) (new : Value) : Option Value :=
  (pointerSteps pointer).bind fun steps => new.putAt steps v

/-- A position is spelled in one way. -/
theorem position_inj (ha : position a = some i) (hb : position b = some i) : a = b := by
  have spelled : ∀ {step : String}, position step = some i → step.toList = Nat.toDigits 10 i := by
    intro step h
    unfold position at h
    split at h
    case h_1 => cases h
    case h_2 zero =>
      cases h
      exact zero
    case h_3 => cases h
    case h_4 nonempty _ leading =>
      split at h
      case isTrue digits =>
        cases h
        refine (Numerals.toDigits_ofDigitChars (all_eq_true.mp digits.1) nonempty ?_).2.symm
        intro zero
        obtain ⟨rest, is⟩ := head?_eq_some_iff.mp zero
        exact leading rest is
      case isFalse => cases h
  exact String.toList_injective ((spelled ha).trans (spelled hb).symm)

theorem putAt_object {new w : Value} {step : String}
    (h : new.putAt (step :: rest) (.object members) = some w) :
    ∃ old part, members.lookup step = some old ∧ new.putAt rest old = some part ∧
      w = .object (setMember step part members) := by
  rw [putAt] at h
  obtain ⟨old, found, h⟩ := Option.bind_eq_some_iff.mp h
  obtain ⟨part, put, h⟩ := Option.bind_eq_some_iff.mp h
  exact ⟨old, part, found, put, (Option.some.inj h).symm⟩

theorem putAt_array {new w : Value} {step : String}
    (h : new.putAt (step :: rest) (.array items) = some w) :
    ∃ i old part, position step = some i ∧ items[i]? = some old ∧ new.putAt rest old = some part ∧
      w = .array (items.set i part) := by
  rw [putAt] at h
  obtain ⟨i, at_i, h⟩ := Option.bind_eq_some_iff.mp h
  obtain ⟨old, found, h⟩ := Option.bind_eq_some_iff.mp h
  obtain ⟨part, put, h⟩ := Option.bind_eq_some_iff.mp h
  exact ⟨i, old, part, at_i, found, put, (Option.some.inj h).symm⟩

theorem mem_of_lookup {α β : Type} [DecidableEq α] {name : α} {v : β} {members : List (α × β)}
    (h : members.lookup name = some v) : (name, v) ∈ members := by
  induction members with
  | nil => cases h
  | cons member rest ih =>
    rw [lookup_cons] at h
    split at h
    case h_1 same =>
      cases h
      rw [eq_of_beq same]
      exact mem_cons_self
    case h_2 => exact mem_cons_of_mem _ (ih h)

/-- A text in place of a part: a text of the new value is the one put there, or stood where it
stands; names of members stood where they stand. -/
theorem walk_putAt {text : String} {at_ path : List String} {v w u : Value}
    (put : (string text).putAt at_ v = some w) (found : w.walk path = some u) :
    (∀ s, u = .string s → (path = at_ ∧ s = text) ∨ v.walk path = some (.string s)) ∧
      ∀ members, u = .object members →
        ∃ old, v.walk path = some (.object old) ∧ old.map Prod.fst = members.map Prod.fst := by
  induction at_ generalizing v w path with
  | nil =>
    cases put
    cases path with
    | nil =>
      cases found
      exact ⟨fun s is => .inl ⟨rfl, (string.inj is).symm⟩, nofun⟩
    | cons => cases found
  | cons step rest ih =>
    cases v with
    | null | bool | number | string => cases put
    | object members =>
      obtain ⟨old, part, there, inner, rfl⟩ := putAt_object put
      have present : step ∈ members.map Prod.fst :=
        mem_map_of_mem (f := Prod.fst) (mem_of_lookup there)
      cases path with
      | nil =>
        cases found
        refine ⟨nofun, ?_⟩
        rintro _ ⟨⟩
        exact ⟨members, rfl, (map_fst_setMember ..).symm⟩
      | cons s path =>
        rw [walk] at found ⊢
        by_cases same : s = step
        · subst same
          rw [lookup_setMember_self part present, Option.bind_some] at found
          rw [there, Option.bind_some]
          refine ⟨fun s is => ?_, (ih inner found).2⟩
          exact ((ih inner found).1 s is).imp_left fun ⟨same, new⟩ => ⟨by rw [same], new⟩
        · rw [lookup_setMember_of_ne part members same] at found
          rw [found]
          exact ⟨fun s is => .inr (is ▸ rfl), fun ms is => ⟨ms, is ▸ rfl, rfl⟩⟩
    | array items =>
      obtain ⟨i, old, part, at_i, there, inner, rfl⟩ := putAt_array put
      cases path with
      | nil =>
        cases found
        exact ⟨nofun, nofun⟩
      | cons s path =>
        rw [walk] at found ⊢
        obtain ⟨j, at_j, walked⟩ := Option.bind_eq_some_iff.mp found
        rw [at_j, Option.bind_some]
        by_cases same : j = i
        · subst same
          obtain rfl := position_inj at_i at_j
          have inside := (List.getElem?_eq_some_iff.mp there).1
          rw [getElem?_set_self inside, Option.bind_some] at walked
          rw [there, Option.bind_some]
          refine ⟨fun s is => ?_, (ih inner walked).2⟩
          exact ((ih inner walked).1 s is).imp_left fun ⟨same, new⟩ => ⟨by rw [same], new⟩
        · rw [getElem?_set_ne (Ne.symm same)] at walked
          rw [walked]
          exact ⟨fun s is => .inr (is ▸ rfl), fun ms is => ⟨ms, is ▸ rfl, rfl⟩⟩

/-- What is there can be replaced. -/
theorem putAt_of_walk {at_ : List String} {v u : Value} (new : Value)
    (found : v.walk at_ = some u) : ∃ w, new.putAt at_ v = some w := by
  induction at_ generalizing v with
  | nil => exact ⟨new, rfl⟩
  | cons step rest ih =>
    cases v with
    | null | bool | number | string => cases found
    | object members =>
      obtain ⟨old, there, inner⟩ := Option.bind_eq_some_iff.mp found
      obtain ⟨part, put⟩ := ih inner
      simp [putAt, there, put]
    | array items =>
      obtain ⟨i, at_i, found⟩ := Option.bind_eq_some_iff.mp found
      obtain ⟨old, there, inner⟩ := Option.bind_eq_some_iff.mp found
      obtain ⟨part, put⟩ := ih inner
      simp [putAt, at_i, there, put]

theorem walk_putAt_self {new : Value} {at_ : List String} {v w : Value}
    (put : new.putAt at_ v = some w) : w.walk at_ = some new := by
  induction at_ generalizing v w with
  | nil =>
    cases put
    rfl
  | cons step rest ih =>
    cases v with
    | null | bool | number | string => cases put
    | object members =>
      obtain ⟨old, part, there, inner, rfl⟩ := putAt_object put
      rw [walk, lookup_setMember_self part (mem_map_of_mem (f := Prod.fst) (mem_of_lookup there))]
      exact ih inner
    | array items =>
      obtain ⟨i, old, part, at_i, there, inner, rfl⟩ := putAt_array put
      rw [walk, at_i, Option.bind_some,
        getElem?_set_self (List.getElem?_eq_some_iff.mp there).1]
      exact ih inner

/-- A text stays where it stands unless a value that holds it is replaced. -/
theorem walk_putAt_string {new : Value} {at_ path : List String} {v w : Value} {text : String}
    (put : new.putAt at_ v = some w) (found : v.walk path = some (.string text)) :
    at_ <+: path ∨ w.walk path = some (.string text) := by
  induction at_ generalizing v w path with
  | nil => exact .inl nil_prefix
  | cons step rest ih =>
    cases v with
    | null | bool | number | string => cases put
    | object members =>
      obtain ⟨old, part, there, inner, rfl⟩ := putAt_object put
      cases path with
      | nil => cases found
      | cons s path =>
        rw [walk] at found ⊢
        by_cases same : s = step
        · subst same
          rw [there, Option.bind_some] at found
          rw [lookup_setMember_self part (mem_map_of_mem (f := Prod.fst) (mem_of_lookup there))]
          exact (ih inner found).imp_left (prefix_cons_inj s).mpr
        · rw [lookup_setMember_of_ne part members same]
          exact .inr found
    | array items =>
      obtain ⟨i, old, part, at_i, there, inner, rfl⟩ := putAt_array put
      cases path with
      | nil => cases found
      | cons s path =>
        rw [walk] at found ⊢
        obtain ⟨j, at_j, walked⟩ := Option.bind_eq_some_iff.mp found
        rw [at_j, Option.bind_some]
        by_cases same : j = i
        · subst same
          obtain rfl := position_inj at_i at_j
          rw [there, Option.bind_some] at walked
          rw [getElem?_set_self (List.getElem?_eq_some_iff.mp there).1]
          exact (ih inner walked).imp_left (prefix_cons_inj step).mpr
        · rw [getElem?_set_ne (Ne.symm same)]
          exact .inr walked

/-! ### Parts in the text -/

theorem printItems_within (mem : v ∈ items) : v.print <:+: printItems items := by
  induction items with
  | nil => cases mem
  | cons w rest ih =>
    rw [printItems]
    refine infix_cons ?_
    rcases mem_cons.mp mem with rfl | mem
    · exact (prefix_append ..).isInfix
    · exact (ih mem).trans (suffix_append ..).isInfix

theorem memberText_within (mem : (k, v) ∈ (l, w) :: rest) (later : (k, v) ∈ rest →
      printString k <:+: printMembers rest ∧ v.print <:+: printMembers rest) :
    printString k <:+: printString l ++ ':' :: (w.print ++ printMembers rest) ∧
      v.print <:+: printString l ++ ':' :: (w.print ++ printMembers rest) := by
  have behind : w.print ++ printMembers rest <:+:
      printString l ++ ':' :: (w.print ++ printMembers rest) :=
    ((suffix_cons ..).trans (suffix_append ..)).isInfix
  rcases mem_cons.mp mem with same | mem
  · cases same
    exact ⟨(prefix_append ..).isInfix, .trans (prefix_append ..).isInfix behind⟩
  · have onward : printMembers rest <:+: w.print ++ printMembers rest :=
      (suffix_append ..).isInfix
    exact ⟨((later mem).1.trans onward).trans behind, ((later mem).2.trans onward).trans behind⟩

theorem printMembers_within (mem : (k, v) ∈ members) :
    printString k <:+: printMembers members ∧ v.print <:+: printMembers members := by
  induction members with
  | nil => cases mem
  | cons member rest ih =>
    rw [printMembers]
    exact (memberText_within mem ih).imp infix_cons infix_cons

theorem print_item (mem : v ∈ items) : v.print <:+: (array items).print := by
  cases items with
  | nil => cases mem
  | cons w rest =>
    rw [print]
    refine infix_cons ?_
    rcases mem_cons.mp mem with rfl | mem
    · exact (prefix_append ..).isInfix
    · exact (printItems_within mem).trans (suffix_append ..).isInfix

theorem print_member {v : Value} (mem : (k, v) ∈ members) :
    printString k <:+: (object members).print ∧ v.print <:+: (object members).print := by
  cases members with
  | nil => cases mem
  | cons member rest =>
    rw [print]
    exact (memberText_within mem printMembers_within).imp infix_cons infix_cons

/-- The text of a part stands in the text of the value. -/
theorem print_of_walk {path : List String} {v u : Value} (found : v.walk path = some u) :
    u.print <:+: v.print := by
  induction path generalizing v with
  | nil =>
    cases found
    exact infix_refl _
  | cons step rest ih =>
    cases v with
    | null | bool | number | string => cases found
    | object members =>
      obtain ⟨inner, there, found⟩ := Option.bind_eq_some_iff.mp found
      exact (ih found).trans (print_member (mem_of_lookup there)).2
    | array items =>
      obtain ⟨i, -, found⟩ := Option.bind_eq_some_iff.mp found
      obtain ⟨inner, there, found⟩ := Option.bind_eq_some_iff.mp found
      exact (ih found).trans (print_item (mem_of_getElem? there))

/-- A needle without escaped characters that occurs in a string occurs in its text. -/
theorem printString_within (plain : ∀ c ∈ needle, escape c = [c]) (h : needle <:+: text.toList) :
    needle <:+: printString text := by
  have escaped : ∀ front rest : List Char, (∀ c ∈ front, escape c = [c]) →
      printChars (front ++ rest) = front ++ printChars rest := by
    intro front rest plain
    induction front with
    | nil => rfl
    | cons c front ih =>
      obtain ⟨first, others⟩ := forall_mem_cons.mp plain
      rw [cons_append, printChars, first, ih others]
      rfl
  have behind : ∀ front rest : List Char, printChars rest <:+: printChars (front ++ rest) := by
    intro front rest
    induction front with
    | nil => exact infix_refl _
    | cons c front ih =>
      rw [cons_append, printChars]
      exact ih.trans (suffix_append ..).isInfix
  obtain ⟨front, back, split⟩ := h
  rw [printString, ← split, append_assoc]
  refine infix_cons (.trans ?_ (behind front _))
  rw [escaped needle back plain]
  exact (prefix_append ..).isInfix

end Json
