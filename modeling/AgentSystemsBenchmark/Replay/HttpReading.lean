import AgentSystemsBenchmark.Replay.Service
import AgentSystemsBenchmark.Library.Utf8

/-!
# Requests read off a connection

The bytes of a request, written out from its parts, and what is read back from them. The
reader looks for the blank line in whatever has arrived, so the first half is about where
that line is found and that it is found at one place however the bytes are split. The second
half is about the text of the head: its lines, its fields and the length they declare.
-/

namespace AgentSystemsBenchmark.Replay

open Effects Utf8 List

/-! ## Reading a request -/

/-- What successive reads of a connection return; `none` is an I/O error and an empty
read the end of the stream. -/
abbrev Reads := List (Option (List UInt8))

def crlf2 : List UInt8 := [13, 10, 13, 10]

/-- The length of the head with its blank line. -/
def headEnd : List UInt8 → Option Nat
  | [] => none
  | byte :: rest =>
    if crlf2.isPrefixOf (byte :: rest) then some 4 else (headEnd rest).map (· + 1)

def readHead (limits : ReplayLimits) :
    List UInt8 → Reads → Except ReplayError (List UInt8 × Nat × Reads)
  | _, [] => .error .invalidHttp
  | bytes, read :: rest => do
    refuse (bytes.length ≥ limits.maxHeadBytes) .invalidHttp
    match read with
    | none => .error .io
    | some chunk => do
      refuse (chunk = []) .invalidHttp
      match headEnd (bytes ++ chunk) with
      | some length => return (bytes ++ chunk, length, rest)
      | none => readHead limits (bytes ++ chunk) rest

def readExact : Nat → Reads → Except ReplayError (List UInt8)
  | 0, _ => .ok []
  | _ + 1, [] | _ + 1, none :: _ | _ + 1, some [] :: _ => .error .io
  | n + 1, some chunk :: rest => do
    let later ← readExact (n + 1 - chunk.length) rest
    return chunk.take (n + 1) ++ later

def splitLines : List Char → List (List Char)
  | '\r' :: '\n' :: rest => [] :: splitLines rest
  | c :: rest =>
    match splitLines rest with
    | [] => [[c]]
    | line :: lines => (c :: line) :: lines
  | [] => [[]]

/-- A header line: a name, a colon, one space and the value. -/
def parseHeader (line : List Char) : Except ReplayError Header :=
  match line.dropWhile (· ≠ ':') with
  | ':' :: ' ' :: value =>
    .ok ⟨toAsciiLowercase (String.ofList (line.takeWhile (· ≠ ':'))), String.ofList value⟩
  | _ => .error .invalidHttp

/-- The body length the headers declare. -/
def declaredLength (method : String) (headers : List Header) : Except ReplayError Nat := do
  let lengths := (headers.filter fun header => header.name = "content-length").map Header.value
  refuse (headers.any fun header => header.name = "transfer-encoding") .invalidHttp
  let encoded ← match lengths with
    | [] => if method = "GET" then .ok "0" else .error .invalidHttp
    | [length] => if method = "GET" ∨ method = "POST" then .ok length else .error .invalidHttp
    | _ => .error .invalidHttp
  let digits := encoded.toList
  refuse (digits = [] ∨ digits.all Char.isDigit = false ∨
    (digits.head? = some '0' ∧ digits.length ≠ 1)) .invalidHttp
  let length := Nat.ofDigitChars 10 digits 0
  refuse (length ≥ 2 ^ 64) .invalidHttp
  return length

def readHttpRequest (platform : Platform) (limits : ReplayLimits) (reads : Reads) :
    Except ReplayError ReplayHttpRequest := do
  let (bytes, headLength, rest) ← readHead limits [] reads
  refuse (headLength > limits.maxHeadBytes) .invalidHttp
  match platform.decodeUtf8 (bytes.take headLength) with
  | none => .error .invalidHttp
  | some head =>
    match splitLines (head.take (head.length - 4)) with
    | [] => .error .invalidHttp
    | requestLine :: lines =>
      match (requestLine.splitOn ' ').map String.ofList with
      | [method, path, version] => do
        refuse (version ≠ "HTTP/1.1") .invalidHttp
        let headers ← lines.mapM parseHeader
        let headers := headers.insertionSort byHeaderName
        let length ← declaredLength method headers
        refuse (length > limits.maxBodyBytes ∨ (method = "GET" ∧ length ≠ 0)) .invalidHttp
        refuse (headLength + length ≥ 2 ^ 64) .invalidHttp
        refuse (bytes.length > headLength + length) .invalidHttp
        let later ← readExact (headLength + length - bytes.length) rest
        return ⟨method, path, headers, bytes.drop headLength ++ later⟩
      | _ => .error .invalidHttp

/-! ## The blank line in a stream -/

section HeadEnd
variable {bytes more : List UInt8} {n : Nat}

theorem headEnd_cons (byte : UInt8) (rest : List UInt8) : headEnd (byte :: rest) =
    if crlf2 <+: byte :: rest then some 4 else (headEnd rest).map (· + 1) := by
  rw [headEnd]
  exact if_congr isPrefixOf_iff_prefix rfl rfl

theorem headEnd_found (h : headEnd bytes = some n) :
    ∃ front rest, bytes = front ++ crlf2 ++ rest ∧ n = front.length + 4 := by
  induction bytes generalizing n with
  | nil => cases h
  | cons byte bytes ih =>
    rw [headEnd_cons] at h
    split at h
    · rename_i here
      obtain ⟨rest, whole⟩ := here
      exact ⟨[], rest, whole.symm, (Option.some.inj h).symm⟩
    · obtain ⟨m, found, rfl⟩ := Option.map_eq_some_iff.mp h
      obtain ⟨front, rest, rfl, rfl⟩ := ih found
      exact ⟨byte :: front, rest, rfl, by rw [length_cons]⟩

theorem headEnd_bounds (h : headEnd bytes = some n) : 4 ≤ n ∧ n ≤ bytes.length := by
  obtain ⟨front, rest, rfl, rfl⟩ := headEnd_found h
  have four : crlf2.length = 4 := rfl
  rw [length_append, length_append, four]
  omega

theorem headEnd_append (h : headEnd bytes = some n) (more : List UInt8) :
    headEnd (bytes ++ more) = some n := by
  induction bytes generalizing n with
  | nil => cases h
  | cons byte bytes ih =>
    rw [headEnd_cons] at h
    rw [cons_append, headEnd_cons]
    split at h
    · rename_i here
      have there : crlf2 <+: byte :: (bytes ++ more) :=
        here.trans (prefix_append (byte :: bytes) more)
      rw [if_pos there]
      exact h
    · rename_i absent
      obtain ⟨m, found, rfl⟩ := Option.map_eq_some_iff.mp h
      -- the line found later needs more bytes than one found here
      have long := headEnd_bounds found
      have still : ¬ crlf2 <+: byte :: (bytes ++ more) := fun here =>
        absent (prefix_of_prefix_length_le here (prefix_append (byte :: bytes) more)
          (show 4 ≤ bytes.length + 1 by omega))
      rw [if_neg still, ih found]
      rfl

theorem headEnd_within (h : headEnd (bytes ++ more) = some n) (within : n ≤ bytes.length) :
    headEnd bytes = some n := by
  induction bytes generalizing n with
  | nil =>
    have long := (headEnd_bounds h).1
    rw [length_nil] at within
    omega
  | cons byte bytes ih =>
    rw [cons_append, headEnd_cons] at h
    rw [headEnd_cons]
    split at h
    · rename_i here
      cases h
      rw [if_pos (prefix_of_prefix_length_le here (prefix_append (byte :: bytes) more) within)]
    · rename_i absent
      obtain ⟨m, found, rfl⟩ := Option.map_eq_some_iff.mp h
      have still : ¬ crlf2 <+: byte :: bytes := fun here =>
        absent (here.trans (prefix_append (byte :: bytes) more))
      rw [if_neg still, ih found (Nat.le_of_succ_le_succ within)]
      rfl

/-- A line that was not there before the last bytes ends in them. -/
theorem headEnd_fresh (fresh : headEnd bytes = none) (h : headEnd (bytes ++ more) = some n) :
    bytes.length < n := by
  by_contra within
  rw [headEnd_within h (Nat.not_lt.mp within)] at fresh
  cases fresh

end HeadEnd

/-! ## The reads of a connection -/

/-- These are the bytes taken off a connection: every read but the last lies within them, and
the last completes them. -/
def Consumed (reads : Reads) (bytes : List UInt8) : Prop :=
  ∃ (chunks : List (List UInt8)) (rest : Reads), reads = chunks.map some ++ rest ∧
    bytes <+: chunks.flatten ∧ chunks.dropLast.flatten.length < bytes.length

section Reading
variable {limits : ReplayLimits} {acc : List UInt8} {chunks : List (List UInt8)} {n : Nat}

theorem readHead_chunks (after : Reads) (nonempty : [] ∉ chunks)
    (found : headEnd (acc ++ chunks.flatten) = some n) (fresh : headEnd acc = none)
    (small : n ≤ limits.maxHeadBytes) : ∃ taken left, chunks = taken ++ left ∧
      readHead limits acc (chunks.map some ++ after) =
        .ok (acc ++ taken.flatten, n, left.map some ++ after) := by
  induction chunks generalizing acc with
  | nil =>
    rw [flatten_nil, append_nil, fresh] at found
    cases found
  | cons chunk chunks ih =>
    rw [mem_cons, not_or] at nonempty
    rw [flatten_cons, ← append_assoc] at found
    have room : ¬ acc.length ≥ limits.maxHeadBytes := by
      rw [append_assoc] at found
      have late := headEnd_fresh fresh found
      omega
    cases here : headEnd (acc ++ chunk) with
    | some m =>
      obtain rfl := Option.mem_unique (headEnd_append here chunks.flatten) found
      refine ⟨[chunk], chunks, rfl, ?_⟩
      rw [map_cons, cons_append, readHead]
      refine guard_eq_ok.mpr ⟨room, ?_⟩
      refine guard_eq_ok.mpr ⟨(Ne.symm nonempty.1), ?_⟩
      rw [here, flatten_cons, flatten_nil, append_nil]
      rfl
    | none =>
      obtain ⟨taken, left, rfl, read⟩ := ih nonempty.2 found here
      refine ⟨chunk :: taken, left, rfl, ?_⟩
      rw [map_cons, cons_append, readHead]
      refine guard_eq_ok.mpr ⟨room, ?_⟩
      refine guard_eq_ok.mpr ⟨(Ne.symm nonempty.1), ?_⟩
      rw [here, flatten_cons, ← append_assoc]
      exact read

theorem readHead_ok (fresh : headEnd acc = none)
    (h : readHead limits acc reads = .ok (bytes, n, rest)) : headEnd bytes = some n ∧
      ∃ chunks, reads = chunks.map some ++ rest ∧ bytes = acc ++ chunks.flatten ∧ chunks ≠ [] ∧
        (acc ++ chunks.dropLast.flatten).length < n := by
  induction reads generalizing acc with
  | nil => cases h
  | cons read reads ih =>
    cases read with
    | none =>
      rw [readHead] at h
      cases (seq_eq_ok.mp h).2
    | some chunk =>
      rw [readHead] at h
      obtain ⟨-, h⟩ := seq_eq_ok.mp (seq_eq_ok.mp h).2
      cases here : headEnd (acc ++ chunk) with
      | some m =>
        rw [here] at h
        obtain ⟨rfl, rfl, rfl⟩ : acc ++ chunk = bytes ∧ m = n ∧ reads = rest := by
          simpa using pure_eq_ok.mp h
        refine ⟨here, [chunk], rfl, ?_, cons_ne_nil _ _, ?_⟩
        · rw [flatten_cons, flatten_nil, append_nil]
        · rw [dropLast_singleton, flatten_nil, append_nil]
          exact headEnd_fresh fresh here
      | none =>
        rw [here] at h
        obtain ⟨found, chunks, rfl, rfl, some, late⟩ := ih here h
        refine ⟨found, chunk :: chunks, rfl, ?_, cons_ne_nil _ _, ?_⟩
        · rw [flatten_cons, append_assoc]
        · rw [dropLast_cons_of_ne_nil some, flatten_cons, ← append_assoc]
          exact late

theorem readExact_chunks (after : Reads) (nonempty : [] ∉ chunks)
    (size : chunks.flatten.length = n) :
    readExact n (chunks.map some ++ after) = .ok chunks.flatten := by
  induction chunks generalizing n with
  | nil =>
    obtain rfl : 0 = n := size
    rw [readExact]
    rfl
  | cons chunk chunks ih =>
    rw [mem_cons, not_or] at nonempty
    obtain ⟨byte, bytes, rfl⟩ := exists_cons_of_ne_nil (Ne.symm nonempty.1)
    rw [flatten_cons, length_append, length_cons] at size
    obtain ⟨k, rfl⟩ : ∃ k, n = k + 1 := ⟨bytes.length + chunks.flatten.length, by omega⟩
    rw [map_cons, cons_append]
    refine bind_eq_ok.mpr ⟨chunks.flatten, ih nonempty.2 (by rw [length_cons]; omega), ?_⟩
    rw [take_of_length_le (by rw [length_cons]; omega)]
    rfl

theorem readExact_ok (h : readExact n reads = .ok later) :
    later.length = n ∧ ∃ chunks rest, reads = chunks.map some ++ rest ∧ later <+: chunks.flatten ∧
      (chunks ≠ [] → chunks.dropLast.flatten.length < n) := by
  induction reads generalizing n later with
  | nil =>
    cases n with
    | zero =>
      cases h
      exact ⟨rfl, [], [], rfl, nil_prefix, fun absurd => (absurd rfl).elim⟩
    | succ n => cases h
  | cons read reads ih =>
    cases n with
    | zero =>
      cases h
      exact ⟨rfl, [], _, rfl, nil_prefix, fun absurd => (absurd rfl).elim⟩
    | succ n =>
      match read with
      | none => cases h
      | some [] => cases h
      | some (byte :: bytes) =>
        obtain ⟨more, read, ended⟩ := bind_eq_ok.mp h
        cases ended
        obtain ⟨size, chunks, rest, rfl, front, late⟩ := ih read
        refine ⟨?_, (byte :: bytes) :: chunks, rest, rfl, ?_, fun _ => ?_⟩
        · rw [length_append, length_take, size]
          omega
        · rw [flatten_cons]
          by_cases short : (byte :: bytes).length ≤ n + 1
          · rw [take_of_length_le short]
            exact (prefix_append_right_inj _).mpr front
          · -- the buffer is full before the read is used up
            have nothing : more = [] := length_eq_zero_iff.mp (by omega)
            rw [nothing, append_nil]
            refine .trans ?_ (prefix_append _ _)
            exact take_prefix _ _
        · by_cases last : chunks = []
          · rw [last]
            exact Nat.succ_pos n
          · have late := late last
            rw [dropLast_cons_of_ne_nil last, flatten_cons, length_append]
            omega

end Reading

/-! ## The lines of a head -/

def CrlfFree (line : List Char) : Prop := ¬ ['\r', '\n'] <:+: line

instance : DecidablePred CrlfFree := fun line =>
  inferInstanceAs (Decidable (¬ ['\r', '\n'] <:+: line))

/-- The blank line that ends a head. -/
def blank : List Char := ['\r', '\n', '\r', '\n']

/-- Lines behind a first one. -/
def lineBreaks (lines : List (List Char)) : List Char :=
  lines.flatMap fun line => '\r' :: '\n' :: line

section Lines
variable {c : Char} {line text : List Char}

theorem CrlfFree.tail (free : CrlfFree (c :: line)) : CrlfFree line :=
  fun held => free (infix_cons held)

/-- A line break does not start inside a line that another follows. -/
theorem CrlfFree.start (free : CrlfFree (c :: line)) (text : List Char) :
    ¬ ['\r', '\n'] <+: c :: (line ++ '\r' :: text) := by
  intro front
  cases line with
  | nil =>
    obtain ⟨-, second⟩ := cons_prefix_cons.mp front
    exact absurd (cons_prefix_cons.mp second).1 (by decide)
  | cons d line =>
    obtain ⟨rfl, second⟩ := cons_prefix_cons.mp front
    obtain ⟨rfl, -⟩ := cons_prefix_cons.mp second
    exact free ⟨[], line, rfl⟩

theorem splitLines_cons (apart : ¬ ['\r', '\n'] <+: c :: text) : splitLines (c :: text) =
    match splitLines text with
    | [] => [[c]]
    | line :: lines => (c :: line) :: lines := by
  rw [splitLines]
  rintro rest rfl rfl
  exact apart ⟨rest, rfl⟩

theorem splitLines_line (free : CrlfFree line) (text : List Char) :
    splitLines (line ++ '\r' :: '\n' :: text) = line :: splitLines text := by
  induction line with
  | nil => rw [nil_append, splitLines]
  | cons c line ih =>
    rw [cons_append, splitLines_cons (free.start _), ih free.tail]

theorem splitLines_last (free : CrlfFree line) : splitLines line = [line] := by
  induction line with
  | nil => rfl
  | cons c line ih =>
    have apart : ¬ ['\r', '\n'] <+: c :: line := fun front => free front.isInfix
    rw [splitLines_cons apart, ih free.tail]

theorem splitLines_lines (free : ∀ l ∈ line :: lines, CrlfFree l) :
    splitLines (line ++ lineBreaks lines) = line :: lines := by
  induction lines generalizing line with
  | nil =>
    rw [lineBreaks, flatMap_nil, append_nil]
    exact splitLines_last (free line mem_cons_self)
  | cons next lines ih =>
    obtain ⟨first, others⟩ := forall_mem_cons.mp free
    rw [lineBreaks, flatMap_cons, cons_append, cons_append, splitLines_line first]
    exact congrArg (line :: ·) (ih others)

/-- The lines of a text are free of line breaks, and make it up. -/
theorem splitLines_ok (text : List Char) : ∃ line lines, splitLines text = line :: lines ∧
    text = line ++ lineBreaks lines ∧ ∀ l ∈ line :: lines, CrlfFree l := by
  have empty : CrlfFree [] := fun held => by simpa using held.length_le
  induction text using splitLines.induct with
  | case1 rest ih =>
    obtain ⟨line, lines, split, whole, free⟩ := ih
    refine ⟨[], line :: lines, by rw [splitLines, split], ?_, ?_⟩
    · rw [whole]
      rfl
    · exact forall_mem_cons.mpr ⟨empty, free⟩
  | case2 c rest _ nothing ih =>
    obtain ⟨line, lines, split, -, -⟩ := ih
    rw [nothing] at split
    cases split
  | case3 c rest apart _ _ _ ih =>
    obtain ⟨line, lines, split, whole, free⟩ := ih
    obtain ⟨first, others⟩ := forall_mem_cons.mp free
    have whole' : c :: rest = (c :: line) ++ lineBreaks lines := by rw [whole, cons_append]
    refine ⟨c :: line, lines, ?_, whole', forall_mem_cons.mpr ⟨?_, others⟩⟩
    · rw [splitLines, split]
      exact apart
    · -- a break in the longer line would start at its first character
      intro held
      rcases infix_cons_iff.mp held with front | inside
      · obtain ⟨rfl, second⟩ := cons_prefix_cons.mp front
        obtain ⟨tail, rfl⟩ := second
        exact apart (tail ++ lineBreaks lines) rfl whole
      · exact first inside
  | case4 => exact ⟨[], [], rfl, rfl, forall_mem_singleton.mpr empty⟩

end Lines

/-! ## Where the blank line of a head is found -/

section Blank
variable {c : Char} {line text : List Char} {body : List UInt8}

theorem blank_ascii : ∀ c ∈ blank, Ascii c := by
  have plain : blank.all (fun c => decide (Ascii c)) = true := by decide
  simpa using plain

theorem headEnd_skip (wide : ∀ b ∈ bytes, 128 ≤ b.toNat) (rest : List UInt8) :
    headEnd (bytes ++ rest) = (headEnd rest).map (· + bytes.length) := by
  induction bytes with
  | nil =>
    change headEnd rest = (headEnd rest).map id
    rw [Option.map_id, id]
  | cons b bytes ih =>
    obtain ⟨high, others⟩ := forall_mem_cons.mp wide
    have absent : ¬ crlf2 <+: b :: (bytes ++ rest) := by
      intro front
      obtain ⟨rfl, -⟩ := cons_prefix_cons.mp front
      exact absurd high (by decide)
    rw [cons_append, headEnd_cons, if_neg absent, ih others, Option.map_map]
    rfl

/-- The search passes a character that no blank line starts at. -/
theorem headEnd_char (absent : ¬ blank <+: c :: text) (long : 3 ≤ text.length) :
    headEnd (encode (c :: text) ++ body) =
      (headEnd (encode text ++ body)).map (· + (String.utf8EncodeChar c).length) := by
  rw [encode_cons, append_assoc]
  by_cases ascii : Ascii c
  · have apart : ¬ crlf2 <+: UInt8.ofNat c.toNat :: (encode text ++ body) := by
      intro front
      have whole : encode blank <+: encode (c :: text) ++ body := by
        rw [encode_cons, encode_ascii ascii]
        exact front
      exact absent (prefix_of_encode blank_ascii (Nat.succ_le_succ long) whole)
    rw [encode_ascii ascii]
    exact (headEnd_cons _ _).trans (if_neg apart)
  · exact headEnd_skip (fun b mem => encode_wide ascii mem) _

theorem headEnd_line (free : CrlfFree line) (long : 3 ≤ text.length) :
    headEnd (encode (line ++ '\r' :: text) ++ body) =
      (headEnd (encode ('\r' :: text) ++ body)).map (· + (encode line).length) := by
  induction line with
  | nil =>
    change headEnd _ = (headEnd _).map id
    rw [Option.map_id, id]
    rfl
  | cons c line ih =>
    have absent : ¬ blank <+: c :: (line ++ '\r' :: text) := fun front =>
      free.start text (List.IsPrefix.trans ⟨['\r', '\n'], rfl⟩ front)
    rw [cons_append, headEnd_char absent (by rw [length_append, length_cons]; omega),
      ih free.tail, Option.map_map]
    congr 1
    funext n
    rw [Function.comp_apply, encode_cons c line, length_append]
    omega

theorem lineBreaks_blank (lines : List (List Char)) :
    ∃ text, lineBreaks lines ++ blank = '\r' :: text ∧ 3 ≤ text.length := by
  cases lines with
  | nil => exact ⟨_, rfl, Nat.le_refl 3⟩
  | cons line lines =>
    refine ⟨'\n' :: (line ++ lineBreaks lines) ++ blank, rfl, ?_⟩
    rw [length_append]
    exact Nat.le_add_left_of_le (by decide)

/-- The blank line behind lines that are not empty is the first one. -/
theorem headEnd_lines (free : ∀ l ∈ lines, l ≠ [] ∧ CrlfFree l) :
    headEnd (encode (lineBreaks lines ++ blank) ++ body) =
      some (encode (lineBreaks lines ++ blank)).length := by
  induction lines with
  | nil => exact (headEnd_cons _ _).trans (if_pos ⟨body, rfl⟩)
  | cons line lines ih =>
    obtain ⟨⟨nonempty, apart⟩, others⟩ := forall_mem_cons.mp free
    obtain ⟨c, line, rfl⟩ := exists_cons_of_ne_nil nonempty
    obtain ⟨text, rest, long⟩ := lineBreaks_blank lines
    have ih := ih others
    rw [rest] at ih
    have split : lineBreaks ((c :: line) :: lines) ++ blank =
        '\r' :: '\n' :: ((c :: line) ++ '\r' :: text) := by
      rw [← rest, ← append_assoc]
      rfl
    have longer : 3 ≤ ((c :: line) ++ '\r' :: text).length := by
      rw [length_append]
      exact Nat.le_add_left_of_le (Nat.le_succ_of_le long)
    have whole : encode ('\r' :: '\n' :: ((c :: line) ++ '\r' :: text)) =
        String.utf8EncodeChar '\r' ++ (String.utf8EncodeChar '\n' ++
          (encode (c :: line) ++ encode ('\r' :: text))) := by
      rw [encode_cons, encode_cons, encode_append]
    have first : ¬ blank <+: '\r' :: '\n' :: ((c :: line) ++ '\r' :: text) := fun front =>
      apart.start text (cons_prefix_cons.mp (cons_prefix_cons.mp front).2).2
    have second : ¬ blank <+: '\n' :: ((c :: line) ++ '\r' :: text) := fun front =>
      absurd (cons_prefix_cons.mp front).1 (by decide)
    rw [split, headEnd_char first (Nat.le_succ_of_le longer), headEnd_char second longer,
      headEnd_line apart long, ih, whole, Option.map_some, Option.map_some, Option.map_some,
      length_append, length_append, length_append]
    congr 1
    omega

end Blank

/-! ## The parts of a head -/

def fieldLine (field : List Char × List Char) : List Char := field.1 ++ ':' :: ' ' :: field.2

def fieldHeader (field : List Char × List Char) : Header :=
  ⟨toAsciiLowercase (String.ofList field.1), String.ofList field.2⟩

def requestLine (method path : String) : List Char :=
  [' '].intercalate [method.toList, path.toList, "HTTP/1.1".toList]

def headText (method path : String) (fields : List (List Char × List Char)) : List Char :=
  requestLine method path ++ lineBreaks (fields.map fieldLine) ++ blank

def contentLengths (headers : List Header) : List String :=
  (headers.filter fun header => header.name = "content-length").map Header.value

section Parts
variable {method path : String} {line : List Char} {header : Header}

theorem parseHeader_eq_ok : parseHeader line = .ok header ↔
    ∃ field, line = fieldLine field ∧ ':' ∉ field.1 ∧ header = fieldHeader field := by
  constructor
  · intro h
    have parts := takeWhile_append_dropWhile (p := (· ≠ ':')) (l := line)
    have free : ':' ∉ line.takeWhile (· ≠ ':') := fun mem => by
      simpa using all_eq_true.mp all_takeWhile _ mem
    rw [parseHeader] at h
    split at h
    · rename_i value rest
      refine ⟨(line.takeWhile (· ≠ ':'), value), ?_, free, (Except.ok.inj h).symm⟩
      rw [fieldLine, ← rest, parts]
    · cases h
  · rintro ⟨⟨name, value⟩, rfl, free, rfl⟩
    have all : ∀ c ∈ name, decide (c ≠ ':') = true := fun c mem =>
      decide_eq_true fun eq => free (eq ▸ mem)
    rw [parseHeader, fieldLine, dropWhile_append_of_pos all, takeWhile_append_of_pos all]
    rw [dropWhile_cons_of_neg (by decide), takeWhile_cons_of_neg (by decide),
      append_nil]
    rfl

theorem parseHeaders_eq_ok :
    lines.mapM parseHeader = .ok headers ↔ ∃ fields : List (List Char × List Char),
      lines = fields.map fieldLine ∧ (∀ field ∈ fields, ':' ∉ field.1) ∧
        headers = fields.map fieldHeader := by
  induction lines generalizing headers with
  | nil =>
    constructor
    · intro h
      exact ⟨[], rfl, nofun, (pure_eq_ok.mp h).symm⟩
    · rintro ⟨fields, none, -, rfl⟩
      rw [map_eq_nil_iff.mp none.symm]
      rfl
  | cons line lines ih =>
    rw [mapM_cons]
    constructor
    · intro h
      obtain ⟨header, one, h⟩ := bind_eq_ok.mp h
      obtain ⟨headers, others, h⟩ := bind_eq_ok.mp h
      cases h
      obtain ⟨field, rfl, free, rfl⟩ := parseHeader_eq_ok.mp one
      obtain ⟨fields, rfl, frees, rfl⟩ := ih.mp others
      exact ⟨field :: fields, rfl, forall_mem_cons.mpr ⟨free, frees⟩, rfl⟩
    · rintro ⟨fields, whole, frees, rfl⟩
      obtain ⟨field, fields, rfl, rfl, rfl⟩ := map_eq_cons_iff.mp whole.symm
      obtain ⟨free, frees⟩ := forall_mem_cons.mp frees
      exact bind_eq_ok.mpr ⟨_, parseHeader_eq_ok.mpr ⟨field, rfl, free, rfl⟩,
        bind_eq_ok.mpr ⟨_, ih.mpr ⟨fields, rfl, frees, rfl⟩, rfl⟩⟩

theorem decimal_eq_ok {text : String} {n : Nat} :
    (refuse (text.toList = [] ∨ text.toList.all Char.isDigit = false ∨
        (text.toList.head? = some '0' ∧ text.toList.length ≠ 1)) ReplayError.invalidHttp >>=
          fun _ =>
      refuse (Nat.ofDigitChars 10 text.toList 0 ≥ 2 ^ 64) ReplayError.invalidHttp >>= fun _ =>
        (pure (Nat.ofDigitChars 10 text.toList 0) : Except ReplayError Nat)) = .ok n ↔
      n < 2 ^ 64 ∧ text = n.repr := by
  rw [seq_eq_ok, seq_eq_ok, refuse_eq_ok, refuse_eq_ok, pure_eq_ok, ← String.toList_inj,
    Nat.toList_repr, ← Numerals.canonical_digits]
  constructor
  · rintro ⟨canonical, small, rfl⟩
    exact ⟨Nat.not_le.mp small, canonical, rfl⟩
  · rintro ⟨small, canonical, rfl⟩
    exact ⟨canonical, Nat.not_le.mpr small, rfl⟩

theorem declaredLength_eq_ok {headers : List Header} {n : Nat} :
    declaredLength method headers = .ok n ↔
      (∀ header ∈ headers, header.name ≠ "transfer-encoding") ∧ n < 2 ^ 64 ∧
        (contentLengths headers = [] ∧ method = "GET" ∧ n = 0 ∨
          (method = "GET" ∨ method = "POST") ∧ contentLengths headers = [n.repr]) := by
  have plain : ¬ (headers.any fun header => decide (header.name = "transfer-encoding")) = true ↔
      ∀ header ∈ headers, header.name ≠ "transfer-encoding" := by
    rw [any_eq_true]
    push Not
    exact forall₂_congr fun _ _ => by rw [Ne, decide_eq_true_iff]
  unfold declaredLength
  rw [seq_eq_ok, refuse_eq_ok, plain]
  refine and_congr_right fun _ => ?_
  rw [contentLengths]
  generalize (headers.filter _).map Header.value = lengths
  match lengths with
  | [] =>
    by_cases get : method = "GET"
    · dsimp only
      rw [if_pos get]
      refine (@decimal_eq_ok "0" n).trans (and_congr_right fun _ => ?_)
      constructor
      · intro zero
        have none : n = 0 := Numerals.repr_injective zero.symm
        exact .inl ⟨rfl, get, none⟩
      · rintro (⟨-, -, rfl⟩ | ⟨-, absurd⟩)
        · rfl
        · cases absurd
    · dsimp only
      rw [if_neg get]
      constructor
      · intro failed
        cases failed
      · rintro ⟨-, ⟨-, absurd, -⟩ | ⟨-, absurd⟩⟩
        · exact (get absurd).elim
        · cases absurd
  | [length] =>
    by_cases known : method = "GET" ∨ method = "POST"
    · dsimp only
      rw [if_pos known]
      refine decimal_eq_ok.trans (and_congr_right fun _ => ?_)
      constructor
      · rintro rfl
        exact .inr ⟨known, rfl⟩
      · rintro (⟨absurd, -⟩ | ⟨-, same⟩)
        · cases absurd
        · exact (List.cons.inj same).1
    · dsimp only
      rw [if_neg known]
      constructor
      · intro failed
        cases failed
      · rintro ⟨-, ⟨absurd, -⟩ | ⟨absurd, -⟩⟩
        · cases absurd
        · exact (known absurd).elim
  | _ :: _ :: _ =>
    constructor
    · intro failed
      cases failed
    · rintro ⟨-, ⟨absurd, -⟩ | ⟨-, absurd⟩⟩ <;> cases absurd

end Parts

/-! ## Requests and their bytes -/

/-- The bytes of one request: its request line, its fields, the blank line and the body. -/
structure RequestForm (limits : ReplayLimits) (fields : List (List Char × List Char))
    (bytes : List UInt8) (request : ReplayHttpRequest) : Prop where
  whole : bytes = encode (headText request.method request.path fields) ++ request.body
  head : (encode (headText request.method request.path fields)).length ≤ limits.maxHeadBytes
  words : ' ' ∉ request.method.toList ∧ ' ' ∉ request.path.toList
  names : ∀ field ∈ fields, ':' ∉ field.1
  lines : ∀ line ∈ requestLine request.method request.path :: fields.map fieldLine, CrlfFree line
  headers : request.headers = (fields.map fieldHeader).insertionSort byHeaderName
  unchunked : ∀ header ∈ request.headers, header.name ≠ "transfer-encoding"
  length : contentLengths request.headers = [request.body.length.repr] ∨
    request.method = "GET" ∧ contentLengths request.headers = [] ∧ request.body = []

/-- What else the reader asks of a request. -/
structure Served (limits : ReplayLimits) (bytes : List UInt8) (request : ReplayHttpRequest) :
    Prop where
  method : request.method = "GET" ∨ request.method = "POST"
  bodiless : request.method = "GET" → request.body = []
  body : request.body.length ≤ limits.maxBodyBytes
  size : bytes.length < 2 ^ 64

/-- The platform reads UTF-8 bytes as the text they encode, and no other bytes. -/
def Platform.ReadsUtf8 (platform : Platform) : Prop :=
  ∀ bytes text, platform.decodeUtf8 bytes = some text ↔ bytes = encode text

section Exact
variable {platform : Platform} {limits : ReplayLimits} {fields : List (List Char × List Char)}
  {bytes : List UInt8} {request : ReplayHttpRequest}

theorem requestLine_splitOn (method_free : ' ' ∉ method.toList) (path_free : ' ' ∉ path.toList) :
    ((requestLine method path).splitOn ' ').map String.ofList = [method, path, "HTTP/1.1"] := by
  have free : ∀ word ∈ [method.toList, path.toList, "HTTP/1.1".toList], ' ' ∉ word := by
    simp [method_free, path_free]
  rw [requestLine, splitOn_intercalate ' ' free (cons_ne_nil _ _)]
  simp

theorem notMem_of_mem_splitOn {x : Char} {xs word : List Char} (mem : word ∈ xs.splitOn x) :
    x ∉ word := by
  by_cases held : x ∈ xs
  · obtain ⟨first, rest, whole, free⟩ := eq_append_cons_of_mem held
    rw [whole, splitOn_append_cons_self_of_not_mem free] at mem
    rcases mem_cons.mp mem with rfl | mem
    · exact free
    · exact notMem_of_mem_splitOn mem
  · rw [splitOn_eq_singleton held] at mem
    rwa [mem_singleton.mp mem]
termination_by xs.length
decreasing_by
  rw [whole, length_append, length_cons]
  omega

theorem requestLine_of_splitOn {method path : String} {line : List Char}
    (parts : (line.splitOn ' ').map String.ofList = [method, path, "HTTP/1.1"]) :
    line = requestLine method path ∧ ' ' ∉ method.toList ∧ ' ' ∉ path.toList := by
  have words : line.splitOn ' ' = [method.toList, path.toList, "HTTP/1.1".toList] := by
    have texts := congrArg (List.map String.toList) parts
    have same : String.toList ∘ String.ofList = id := funext fun _ => String.toList_ofList
    rwa [map_map, same, map_id] at texts
  refine ⟨?_, ?_, ?_⟩
  · rw [requestLine, ← words, intercalate_splitOn]
  · apply @notMem_of_mem_splitOn ' ' line
    rw [words]
    exact mem_cons_self
  · apply @notMem_of_mem_splitOn ' ' line
    rw [words]
    exact mem_cons_of_mem _ mem_cons_self

theorem headText_take (method path : String) (fields : List (List Char × List Char)) :
    (headText method path fields).take ((headText method path fields).length - 4) =
      requestLine method path ++ lineBreaks (fields.map fieldLine) := by
  rw [headText, length_append]
  exact take_left' rfl

/-- The blank line of a form is found behind its fields. -/
theorem RequestForm.headEnd_eq (form : RequestForm limits fields bytes request) :
    headEnd bytes = some (encode (headText request.method request.path fields)).length := by
  obtain ⟨first, others⟩ := forall_mem_cons.mp form.lines
  have lines : ∀ line ∈ fields.map fieldLine, line ≠ [] ∧ CrlfFree line := by
    intro line mem
    refine ⟨?_, others line mem⟩
    obtain ⟨field, -, rfl⟩ := mem_map.mp mem
    exact append_ne_nil_of_right_ne_nil _ (cons_ne_nil _ _)
  obtain ⟨text, rest, long⟩ := lineBreaks_blank (fields.map fieldLine)
  have found := @headEnd_lines request.body _ lines
  rw [rest] at found
  rw [form.whole, headText, append_assoc, rest, headEnd_line first long, found,
    Option.map_some, encode_append, length_append, Nat.add_comm]

/-- A request is read however its bytes are split. -/
theorem readHttpRequest_form (utf8 : platform.ReadsUtf8)
    (form : RequestForm limits fields bytes request) (served : Served limits bytes request)
    {chunks : List (List UInt8)} (nonempty : [] ∉ chunks) (split : chunks.flatten = bytes)
    (after : Reads) : readHttpRequest platform limits (chunks.map some ++ after) = .ok request := by
  have found : headEnd ([] ++ chunks.flatten) = _ := split ▸ form.headEnd_eq
  obtain ⟨taken, left, rfl, read⟩ := readHead_chunks after nonempty found rfl form.head
  obtain ⟨arrived, -⟩ := readHead_ok rfl read
  rw [nil_append] at read arrived
  rw [flatten_append, form.whole] at split
  -- what has arrived is the head and a first part of the body
  obtain ⟨part, early⟩ : encode (headText request.method request.path fields) <+: taken.flatten :=
    prefix_of_prefix_length_le (prefix_append _ request.body)
      (split ▸ prefix_append _ left.flatten) (headEnd_bounds arrived).2
  have body : request.body = part ++ left.flatten := by
    rw [← early, append_assoc] at split
    exact (append_cancel_left split).symm
  have decoded : platform.decodeUtf8 (taken.flatten.take
      (encode (headText request.method request.path fields)).length) =
        some (headText request.method request.path fields) := by
    rw [utf8, ← early]
    exact take_left
  have size := served.size
  rw [form.whole, length_append] at size
  have bodyLength := congrArg List.length body
  have taken_length := congrArg List.length early
  rw [length_append] at bodyLength taken_length
  have length : declaredLength request.method request.headers = .ok request.body.length := by
    refine declaredLength_eq_ok.mpr ⟨form.unchunked, by omega, ?_⟩
    rcases form.length with one | ⟨get, none, empty⟩
    · exact .inr ⟨served.method, one⟩
    · exact .inl ⟨none, get, by rw [empty]; rfl⟩
  refine bind_eq_ok.mpr ⟨_, read, ?_⟩
  refine guard_eq_ok.mpr ⟨(Nat.not_lt.mpr form.head), ?_⟩
  simp only [decoded, headText_take, splitLines_lines form.lines,
    requestLine_splitOn form.words.1 form.words.2]
  refine guard_eq_ok.mpr ⟨(not_not.mpr rfl), ?_⟩
  refine bind_eq_ok.mpr ⟨_, parseHeaders_eq_ok.mpr ⟨fields, rfl, form.names, rfl⟩, ?_⟩
  rw [← form.headers]
  refine bind_eq_ok.mpr ⟨_, length, ?_⟩
  refine guard_eq_ok.mpr ⟨?_, ?_⟩
  · rintro (large | ⟨get, some⟩)
    · exact absurd served.body (Nat.not_le.mpr large)
    · rw [served.bodiless get] at some
      exact some rfl
  refine guard_eq_ok.mpr ⟨(by omega), ?_⟩
  refine guard_eq_ok.mpr ⟨(by omega), ?_⟩
  have behind : [] ∉ left := fun mem => nonempty (mem_append_right _ mem)
  refine bind_eq_ok.mpr ⟨left.flatten, readExact_chunks after behind (by omega), ?_⟩
  rw [← early, drop_left, ← body]
  rfl

/-- The bytes of a head end with the blank line of its text. -/
theorem blank_of_headEnd (found : headEnd bytes = some n) (decoded : bytes.take n = encode text) :
    text = text.take (text.length - 4) ++ blank := by
  obtain ⟨front, rest, rfl, rfl⟩ := headEnd_found found
  rw [take_left' (by rw [length_append]; rfl)] at decoded
  obtain ⟨before, rfl⟩ := suffix_of_encode blank_ascii decoded.symm
  rw [length_append, take_left' (by rw [show blank.length = 4 from rfl]; omega)]

/-- The reads of the head and then of the rest of a body. -/
theorem Consumed.mk {chunks more : List (List UInt8)} {rest : Reads} {later : List UInt8} {n : Nat}
    (late : chunks.dropLast.flatten.length < n)
    (enough : n ≤ chunks.flatten.length + later.length) (front : later <+: more.flatten)
    (last : more ≠ [] → more.dropLast.flatten.length < later.length) :
    Consumed (chunks.map some ++ (more.map some ++ rest)) (chunks.flatten ++ later) := by
  refine ⟨chunks ++ more, rest, ?_, ?_, ?_⟩
  · rw [map_append, append_assoc]
  · rw [flatten_append]
    exact (prefix_append_right_inj _).mpr front
  · rw [length_append]
    by_cases none : more = []
    · rw [none, append_nil]
      omega
    · have last := last none
      rw [dropLast_append_of_ne_nil none, flatten_append, length_append]
      omega

/-- What is read off a connection is a request in its form. -/
theorem readHttpRequest_ok (utf8 : platform.ReadsUtf8)
    (h : readHttpRequest platform limits reads = .ok request) : ∃ bytes, Consumed reads bytes ∧
      ∃ fields, RequestForm limits fields bytes request ∧ Served limits bytes request := by
  obtain ⟨⟨early, n, rest⟩, read, h⟩ := bind_eq_ok.mp h
  obtain ⟨found, chunks, rfl, rfl, present, late⟩ := readHead_ok rfl read
  rw [nil_append] at found late h
  obtain ⟨small, h⟩ := seq_eq_ok.mp h
  have within := (headEnd_bounds found).2
  cases decoded : platform.decodeUtf8 (chunks.flatten.take n) with
  | none =>
    dsimp only at h
    rw [decoded] at h
    cases h
  | some text =>
    dsimp only at h
    rw [decoded] at h
    have encoded := (utf8 _ _).mp decoded
    have ends := blank_of_headEnd found encoded
    obtain ⟨line, lines, split, whole, free⟩ := splitLines_ok (text.take (text.length - 4))
    dsimp only at h
    rw [split] at h
    dsimp only at h
    split at h
    · rename_i method path version parts
      obtain ⟨known, h⟩ := guard_eq_ok.mp h
      rw [not_not.mp known] at parts
      obtain ⟨headers, parsed, h⟩ := bind_eq_ok.mp h
      obtain ⟨length, declared, h⟩ := bind_eq_ok.mp h
      obtain ⟨bounded, h⟩ := seq_eq_ok.mp h
      obtain ⟨fits, h⟩ := seq_eq_ok.mp h
      obtain ⟨exactly, h⟩ := seq_eq_ok.mp h
      obtain ⟨later, continued, h⟩ := bind_eq_ok.mp h
      cases h
      obtain ⟨rfl, words⟩ := requestLine_of_splitOn parts
      obtain ⟨fields, rfl, names, rfl⟩ := parseHeaders_eq_ok.mp parsed
      obtain ⟨unchunked, -, lengths⟩ := declaredLength_eq_ok.mp declared
      obtain ⟨size, more, rest, rfl, front, last⟩ := readExact_ok continued
      rw [refuse_eq_ok] at small bounded fits exactly
      rw [not_or] at bounded
      have head : text = headText method path fields := by
        rw [ends, whole]
        rfl
      have body : (chunks.flatten.drop n ++ later).length = length := by
        rw [length_append, length_drop, size]
        omega
      refine ⟨chunks.flatten ++ later, .mk late (by omega) front (size ▸ last), fields, ?_, ?_⟩
      · refine ⟨?_, ?_, words, names, free, rfl, unchunked, ?_⟩
        · rw [← head, ← encoded, ← append_assoc, take_append_drop]
        · rw [← head, ← encoded, length_take]
          omega
        · rw [body]
          rcases lengths with ⟨none, get, zero⟩ | ⟨-, one⟩
          · exact .inr ⟨get, none, length_eq_zero_iff.mp (body.trans zero)⟩
          · exact .inl one
      · refine ⟨?_, fun get => ?_, ?_, ?_⟩
        · rcases lengths with ⟨-, get, -⟩ | ⟨known, -⟩
          · exact .inl get
          · exact known
        · have zero : length = 0 := by
            by_contra some
            exact bounded.2 ⟨get, some⟩
          exact length_eq_zero_iff.mp (body.trans zero)
        · rw [body]
          exact Nat.not_lt.mp bounded.1
        · rw [length_append, size]
          omega
    · cases h

/-- Requests are read exactly, however their bytes are split: every request in its form that the
reader serves is read as written, and whatever is read was in that form. -/
theorem readHttpRequest_exact (utf8 : platform.ReadsUtf8) (limits : ReplayLimits) :
    (∀ fields bytes request, RequestForm limits fields bytes request → Served limits bytes request →
      ∀ chunks : List (List UInt8), [] ∉ chunks → chunks.flatten = bytes → ∀ after : Reads,
        readHttpRequest platform limits (chunks.map some ++ after) = .ok request) ∧
    ∀ reads request, readHttpRequest platform limits reads = .ok request →
      ∃ bytes, Consumed reads bytes ∧
        ∃ fields, RequestForm limits fields bytes request ∧ Served limits bytes request :=
  ⟨fun _ _ _ form served _ nonempty split after =>
      readHttpRequest_form utf8 form served nonempty split after,
    fun _ _ h => readHttpRequest_ok utf8 h⟩

end Exact

/-! ## Samples -/

def utf8Platform : Platform :=
  { samplePlatform with
    decodeUtf8 := fun bytes => (String.fromUTF8? ⟨bytes.toArray⟩).map String.toList }

theorem utf8Platform_readsUtf8 : utf8Platform.ReadsUtf8 := by
  intro bytes text
  change (Utf8.decode bytes).map String.toList = some text ↔ _
  rw [Option.map_eq_some_iff, ← bytes_ofList]
  constructor
  · rintro ⟨whole, found, rfl⟩
    rw [String.ofList_toList]
    exact decode_eq_some.mp found
  · intro same
    exact ⟨_, decode_eq_some.mpr same, String.toList_ofList⟩

/-- A request with two fields and a body, split in a field and in the body. -/
theorem readHttpRequest_exact_sample :
    readHttpRequest utf8Platform {}
      [some (encode "POST / HTTP/1.1\r\nHost: a\r\nContent-Le".toList),
        some (encode "ngth: 2\r\n\r\no".toList), some (encode "k".toList)] =
        .ok ⟨"POST", "/", [⟨"content-length", "2"⟩, ⟨"host", "a"⟩], encode "ok".toList⟩ :=
  have form : RequestForm {} [("Host".toList, "a".toList), ("Content-Length".toList, "2".toList)]
      (encode "POST / HTTP/1.1\r\nHost: a\r\nContent-Length: 2\r\n\r\nok".toList)
      ⟨"POST", "/", [⟨"content-length", "2"⟩, ⟨"host", "a"⟩], encode "ok".toList⟩ :=
    { whole := by decide
      head := by decide
      words := by decide
      names := by decide
      lines := by decide
      headers := by decide
      unchunked := by decide
      length := by decide }
  (readHttpRequest_exact utf8Platform_readsUtf8 {}).1 _ _ _ form
    ⟨.inr rfl, by decide, by decide, by decide⟩
    [encode "POST / HTTP/1.1\r\nHost: a\r\nContent-Le".toList,
      encode "ngth: 2\r\n\r\no".toList, encode "k".toList] (by decide) (by decide) []

/-- A method besides `GET` and `POST` is refused. -/
theorem putRequest_refused : ∃ fields bytes request, RequestForm {} fields bytes request ∧
    ∀ platform : Platform, platform.ReadsUtf8 → ∀ read,
      readHttpRequest platform {} [some bytes] ≠ .ok read := by
  let fields := [("content-length".toList, "0".toList)]
  refine ⟨fields, encode (headText "PUT" "/" fields), ⟨"PUT", "/", fields.map fieldHeader, []⟩,
    ?_, ?_⟩
  · exact {
      whole := by decide
      head := by decide
      words := by decide
      names := by decide
      lines := by decide
      headers := by decide
      unchunked := by decide
      length := by decide }
  · intro platform utf8 read h
    obtain ⟨bytes, ⟨chunks, rest, reads, front, _⟩, _, form, served⟩ := readHttpRequest_ok utf8 h
    have within : chunks.flatten <+: encode (headText "PUT" "/" fields) := by
      cases chunks with
      | nil => exact nil_prefix
      | cons chunk chunks =>
        obtain ⟨same, others⟩ := List.cons.inj reads
        obtain ⟨none, -⟩ := append_eq_nil_iff.mp others.symm
        rw [map_eq_nil_iff.mp none, flatten_singleton, Option.some.inj same]
    have opening : encode read.method.toList <+: encode (headText "PUT" "/" fields) := by
      refine List.IsPrefix.trans ?_ (front.trans within)
      rw [form.whole, headText, requestLine]
      simp only [intercalate, intersperse, flatten_cons, encode_append,
        append_assoc]
      exact prefix_append _ _
    rcases served.method with get | post
    · rw [get] at opening
      exact absurd opening (by decide)
    · rw [post] at opening
      exact absurd opening (by decide)

end AgentSystemsBenchmark.Replay
