import AgentSystemsBenchmark.Replay.Acceptance

/-!
# What redaction leaves

A request names some members of its body a second time: options, tools, model and previous
response. Redaction keeps the options in step with the body, and nothing else of it. Markers
in redacted contents are the redactor's own, at the places the policy selects, unless the
reserved text came in percent-encoded in a query.
-/

namespace AgentSystemsBenchmark.Replay

open Effects Json List

/-! ## Steps of the redactor -/

section Steps
variable {s : Redactor}

theorem failIf_eq_ok {c : Prop} [Decidable c] {e : RedactionError} {α : Type}
    {x : Redaction α} {r : α × Redactor} :
    (Redaction.failIf c e >>= fun _ => x) s = .ok r ↔ ¬ c ∧ x s = .ok r := by
  by_cases h : c <;> simp [run_bind_eq_ok, Redaction.failIf, h]

theorem lift_eq_ok {ε α β : Type} {value : Except ε α} {f : α → Redaction β} {r : β × Redactor} :
    (Redaction.lift value e >>= f) s = .ok r ↔ ∃ a, value = .ok a ∧ f a s = .ok r := by
  cases value <;> simp [run_bind_eq_ok, Redaction.lift]

theorem redactPointer_ok {body : Value} {pointer : String} {r : Value × Redactor}
    (h : redactPointer body pointer s = .ok r) :
    ∃ selected key text, body.pointer pointer = some selected ∧
      sensitiveValueKey selected = .ok key ∧ placeholder key s = .ok (text, r.2) ∧
      r.1 = (body.assign pointer (.string text)).getD body := by
  unfold redactPointer at h
  cases found : body.pointer pointer with
  | none =>
    rw [found] at h
    cases h
  | some selected =>
    simp only [found] at h
    obtain ⟨key, keyed, h⟩ := lift_eq_ok.mp h
    obtain ⟨text, t, placed, h⟩ := run_bind_eq_ok.mp h
    cases h
    exact ⟨selected, key, text, rfl, keyed, placed, rfl⟩

/-- The stages of a redacted request. -/
theorem redactRequest_ok {platform : Platform} {policy : RedactionPolicy}
    {request : RecordedRequest} {pointers : List String} {r : RecordedRequest × Redactor}
    (h : redactRequestWithPointers platform policy request pointers s = .ok r) :
    containsMarker request.json = false ∧ ∃ t u v digest,
      redactHeaders policy request.headers s = .ok (r.1.headers, t) ∧
      redactPath platform policy request.path t = .ok (r.1.path, u) ∧
      pointers.foldlM redactPointer request.body u = .ok (r.1.body, v) ∧
      r = ({ request with
        headers := r.1.headers, path := r.1.path, body := r.1.body, bodySha256 := digest
        options := synchronizeRequestOptions r.1.body pointers request.options }, v) := by
  obtain ⟨clean, h⟩ := failIf_eq_ok.mp h
  obtain ⟨headers, t, named, h⟩ := run_bind_eq_ok.mp h
  obtain ⟨path, u, pathed, h⟩ := run_bind_eq_ok.mp h
  obtain ⟨body, v, folded, h⟩ := run_bind_eq_ok.mp h
  obtain ⟨digest, -, h⟩ := lift_eq_ok.mp h
  cases h
  exact ⟨Bool.eq_false_iff.mpr clean, t, u, v, digest, named, pathed, folded, rfl⟩

end Steps

/-! ## Pointers of a policy -/

section Pointers
variable {platform : Platform} {policy : RedactionPolicy}

theorem validate_pointers (valid : policy.validate = .ok ()) :
    RedactionPolicy.rulesValid none policy.requestBodyRules = true ∧
      ∀ p ∈ policy.requestBodyPointers.items ++ policy.responseBodyPointers.items,
        validPointer p = true := by
  rw [RedactionPolicy.validate, seq_eq_ok, refuse_eq_ok, refuse_eq_ok] at valid
  have shape := valid.2
  push Not at shape
  obtain ⟨-, -, rules, -, -, pointers⟩ := shape
  refine ⟨Bool.eq_true_of_not_eq_false rules, fun p mem => ?_⟩
  simpa using any_eq_false.mp (Bool.eq_false_iff.mpr pointers) p mem

theorem rulesValid_pointers (valid : RedactionPolicy.rulesValid previous rules = true) :
    ∀ rule ∈ rules, ∀ p ∈ rule.pointers, validPointer p = true := by
  induction rules generalizing previous with
  | nil => nofun
  | cons rule rest ih =>
    rw [RedactionPolicy.rulesValid] at valid
    simp only [Bool.and_eq_true] at valid
    obtain ⟨⟨-, pointers⟩, onward⟩ := valid
    exact forall_mem_cons.mpr ⟨all_eq_true.mp pointers, ih onward⟩

/-- The pointers of a policy's descriptor are well formed. -/
theorem selected_pointers_valid {id method : String}
    (described : policy.descriptor platform = .ok descriptor)
    (selected : requestBodyPointersForDescriptor descriptor id method = some pointers) :
    ∀ p ∈ pointers, validPointer p = true := by
  obtain ⟨valid, made⟩ := seq_eq_ok.mp described
  have selectors : descriptor.selectors = policy.selectors := by
    rw [descriptorUnchecked] at made
    cases digest : canonicalValueDigest platform policy.selectors.json with
    | error e => rw [digest] at made; cases made
    | ok value => rw [digest] at made; cases made; rfl
  obtain ⟨rules, plain⟩ := validate_pointers valid
  rw [requestBodyPointersForDescriptor, selectors] at selected
  intro p mem
  split at selected
  · cases selected
    exact plain p (mem_append_left _ mem)
  · split at selected
    · split at selected
      · cases selected
        cases mem
      · rename_i rule found
        cases selected
        exact rulesValid_pointers rules rule (mem_of_find?_eq_some found) p mem
    · cases selected

theorem escapeStep_unescapeStep (shaped : stepShape step = true) (single : '/' ∉ step) :
    escapeStep (unescapeStep step) = step := by
  fun_induction stepShape step with
  | case1 => rfl
  | case2 rest ih =>
    have inner := ih shaped (fun mem => single (by simp [mem]))
    have read : unescapeStep ('~' :: '0' :: rest) = '~' :: unescapeStep rest := by
      rw [unescapeStep, expand, if_neg (by decide), expand_cons (c := '0') _ (by decide), expand,
        if_pos rfl]
      rfl
    rw [read, escapeStep, flatMap_cons, if_pos rfl]
    exact congrArg (['~', '0'] ++ ·) inner
  | case3 rest ih =>
    have inner := ih shaped (fun mem => single (by simp [mem]))
    have read : unescapeStep ('~' :: '1' :: rest) = '/' :: unescapeStep rest := by
      rw [unescapeStep, expand, if_pos rfl, expand_cons _ (by decide)]
      rfl
    rw [read, escapeStep, flatMap_cons, if_neg (by decide), if_pos rfl]
    exact congrArg (['~', '1'] ++ ·) inner
  | case4 => cases shaped
  | case5 c rest _ _ tilde ih =>
    have slash : c ≠ '/' := fun is => single (by simp [is])
    have inner := ih shaped (fun mem => single (mem_cons_of_mem _ mem))
    have read : unescapeStep (c :: rest) = c :: unescapeStep rest := by
      rw [unescapeStep, expand_cons _ tilde, expand_cons _ tilde]
      rfl
    rw [read, escapeStep, flatMap_cons, if_neg tilde, if_neg slash]
    exact congrArg ([c] ++ ·) inner

/-- A pointer has a first step, and selects the member it names; without another step it is that
member's pointer. -/
theorem pointerSteps_selects (valid : validPointer pointer = true) :
    ∃ step rest, pointerSteps pointer = some (step :: rest) ∧ selects pointer step = true ∧
      (rest = [] → pointer = memberPointer step) := by
  rw [validPointer, Bool.and_eq_true, Bool.and_eq_true, decide_eq_true_iff] at valid
  obtain ⟨⟨head, -⟩, steps⟩ := valid
  obtain ⟨rest, spelled⟩ := head?_eq_some_iff.mp head
  rw [spelled, show '/' :: rest = [] ++ '/' :: rest from rfl, splitOn_append_cons_self,
    splitOn_nil, cons_append, nil_append, drop_one, tail_cons] at steps
  -- the first step ends where the next slash stands, or with the pointer
  obtain ⟨first, others, split, single, ends⟩ : ∃ first others,
      rest.splitOn '/' = first :: others ∧ '/' ∉ first ∧
        (rest = first ∨ others ≠ [] ∧ first ++ ['/'] <+: rest) := by
    by_cases slash : '/' ∈ rest
    · obtain ⟨first, behind, rfl, single⟩ := eq_append_cons_of_mem slash
      refine ⟨first, _, splitOn_append_cons_self_of_not_mem single behind, single, .inr ⟨?_, ?_⟩⟩
      · exact splitOn_ne_nil '/' behind
      · exact ⟨behind, by simp⟩
    · exact ⟨rest, [], splitOn_eq_singleton slash, slash, .inl rfl⟩
  have shaped : stepShape first = true := by
    rw [split, all_cons, Bool.and_eq_true, Bool.and_eq_true] at steps
    exact steps.1.1
  have named : (memberPointer (String.ofList (unescapeStep first))).toList = '/' :: first := by
    rw [memberPointer, String.toList_ofList, String.toList_ofList,
      escapeStep_unescapeStep shaped single]
  have alone : rest = first → pointer = memberPointer (String.ofList (unescapeStep first)) := by
    intro whole
    apply String.toList_injective
    rw [named, spelled, whole]
  refine ⟨String.ofList (unescapeStep first),
    others.map fun step => String.ofList (unescapeStep step), ?_, ?_, ?_⟩
  · rw [pointerSteps, spelled]
    simp only [split, map_cons]
  · rw [selects, Bool.or_eq_true, decide_eq_true_iff, isPrefixOf_iff_prefix, named, spelled]
    refine ends.imp alone fun ⟨_, front⟩ => ?_
    rw [cons_append]
    exact (prefix_cons_inj '/').mpr front
  · intro last
    rcases ends with whole | ⟨more, _⟩
    · exact alone whole
    · exact absurd (map_eq_nil_iff.mp last) more

end Pointers

/-! ## Markers -/

/-- The reserved text occurs. -/
def Marked (text : String) : Prop := markerPrefix <:+: text.toList

/-- One of the texts a redactor puts in the place of a value. -/
def IsMarker (text : String) : Prop := ∃ n, 1 ≤ n ∧ n ≤ maxMappings ∧ text = marker n

/-- Strings with the reserved text are markers at the places the pointers name; no member is
named so. -/
structure GenuineBody (pointers : List String) (v : Value) : Prop where
  strings : ∀ path text, v.walk path = some (.string text) → Marked text →
    (∃ p ∈ pointers, pointerSteps p = some path) ∧ IsMarker text
  names : ∀ path members, v.walk path = some (.object members) →
    ∀ name ∈ members.map Prod.fst, ¬ Marked name

def RecordedResponse.payloads (response : RecordedResponse) : List Value :=
  match response.body with
  | .buffered payload _ _ _ => [payload]
  | .events recorded _ => recorded.map (·.payload)

def GenuineQuery (platform : Platform) (policy : RedactionPolicy) (path : String) : Prop :=
  ∀ target, platform.parseTarget path = some target → ∀ pair ∈ target.pairs platform,
    Marked pair.2 → pair.1 ∈ policy.queryParameters ∧ IsMarker pair.2

structure GenuineInteraction (platform : Platform) (policy : RedactionPolicy)
    (descriptor : RedactionDescriptor) (interaction : Interaction) : Prop where
  headers : ∀ h ∈ interaction.request.headers ++ interaction.response.headers, Marked h.value →
    h.name ∈ policy.headerNames ∧ IsMarker h.value
  query : GenuineQuery platform policy interaction.request.path
  body : ∃ pointers, requestBodyPointersForDescriptor descriptor interaction.interactionId
      interaction.request.method = some pointers ∧ GenuineBody pointers interaction.request.body
  payloads : ∀ payload ∈ interaction.response.payloads,
    GenuineBody policy.responseBodyPointers.items payload

/-- A query that was built from pairs can be read, and its pairs are those pairs. -/
def FaithfulQueries (platform : Platform) : Prop :=
  ∀ path target pairs, platform.parseTarget path = some target → pairs ≠ [] →
    ∃ read, platform.parseTarget (target.path ++ "?" ++ platform.formQuery pairs) = some read ∧
      read.pairs platform = pairs

/-- No value of a query parameter that is not selected decodes to the reserved text. -/
def PlainQuery (platform : Platform) (policy : RedactionPolicy) (path : String) : Prop :=
  ∀ target, platform.parseTarget path = some target → ∀ pair ∈ target.pairs platform,
    pair.1 ∉ policy.queryParameters → ¬ Marked pair.2

/-! ### Markers of the redactor -/

structure SoundMarkers (s : Redactor) : Prop where
  bounded : s.mappings.length ≤ maxMappings
  markers : ∀ m ∈ s.mappings, IsMarker m.2

theorem SoundMarkers.start : SoundMarkers {} := ⟨Nat.zero_le _, by rintro _ ⟨⟩⟩

theorem IsMarker.marked (made : IsMarker text) : Marked text := by
  obtain ⟨n, -, -, rfl⟩ := made
  rw [Marked, marker, String.toList_ofList, append_assoc, append_assoc]
  exact (prefix_append ..).isInfix

section Markers
variable {platform : Platform} {policy : RedactionPolicy} {s t : Redactor}
  {headers : List Header}

section
variable (sound : SoundMarkers s)
include sound

theorem placeholder_sound (h : placeholder key s = .ok (text, t)) :
    IsMarker text ∧ SoundMarkers t := by
  rw [placeholder, seq_eq_ok] at h
  obtain ⟨-, h⟩ := h
  cases found : s.mappings.lookup key with
  | some existing =>
    simp only [found] at h
    cases pure_eq_ok.mp h
    exact ⟨sound.markers _ (mem_of_lookup found), ⟨sound.bounded, sound.markers⟩⟩
  | none =>
    simp only [found] at h
    obtain ⟨room, h⟩ := seq_eq_ok.mp h
    cases pure_eq_ok.mp h
    rw [refuse_eq_ok] at room
    have below := sound.bounded
    have made : IsMarker (marker (s.mappings.length + 1)) :=
      ⟨_, Nat.succ_pos _, by omega, rfl⟩
    refine ⟨made, ⟨?_, ?_⟩⟩
    · rw [length_append, length_singleton]
      omega
    · intro m mem
      rcases mem_append.mp mem with old | new
      · exact sound.markers m old
      · rw [mem_singleton.mp new]
        exact made

/-- A text that is replaced when it is selected. -/
theorem choice_sound {c : Prop} [Decidable c] {value : String} {β : Type}
    {f : String → Redaction β} {r : β × Redactor}
    (h : (if c then placeholderText value >>= f else pure value >>= f) s = .ok r) :
    ∃ text u, f text u = .ok r ∧ SoundMarkers u ∧
      (c ∧ IsMarker text ∨ ¬ c ∧ text = value) := by
  split at h
  case isTrue selected =>
    obtain ⟨text, u, placed, h⟩ := run_bind_eq_ok.mp h
    obtain ⟨made, sound⟩ := placeholder_sound sound placed
    exact ⟨text, u, h, sound, .inl ⟨selected, made⟩⟩
  case isFalse other => exact ⟨value, s, h, sound, .inr ⟨other, rfl⟩⟩

theorem redactSortedHeaders_sound {previous : Option String} {out : List Header}
    (h : redactSortedHeaders policy previous headers s = .ok (out, t)) :
    SoundMarkers t ∧ ∀ o ∈ out, o.name ∈ policy.headerNames ∧ IsMarker o.value ∨
      ∃ i ∈ headers, i.value = o.value := by
  induction headers generalizing previous s out with
  | nil =>
    cases h
    exact ⟨sound, nofun⟩
  | cons header rest ih =>
    obtain ⟨-, h⟩ := failIf_eq_ok.mp h
    obtain ⟨-, h⟩ := failIf_eq_ok.mp h
    obtain ⟨value, u, h, sound, first⟩ := choice_sound sound h
    obtain ⟨others, v, onward, h⟩ := run_bind_eq_ok.mp h
    cases h
    obtain ⟨sound, later⟩ := ih sound onward
    refine ⟨sound, forall_mem_cons.mpr ⟨?_, fun o mem => ?_⟩⟩
    · exact first.imp_right fun kept => ⟨header, mem_cons_self, kept.2.symm⟩
    · exact (later o mem).imp_right fun ⟨i, old, same⟩ => ⟨i, mem_cons_of_mem _ old, same⟩

theorem redactHeaders_sound (h : redactHeaders policy headers s = .ok (out, t))
    (plain : ∀ i ∈ headers, ¬ Marked i.value) :
    SoundMarkers t ∧ ∀ o ∈ out, Marked o.value → o.name ∈ policy.headerNames ∧
      IsMarker o.value := by
  obtain ⟨sound, out⟩ := redactSortedHeaders_sound sound h
  refine ⟨sound, fun o mem marked => ?_⟩
  rcases out o mem with replaced | ⟨i, old, same⟩
  · exact replaced
  · refine absurd (same ▸ marked) (plain i ?_)
    exact (perm_insertionSort ..).mem_iff.mp old

theorem redactPairs_sound {pairs out : List (String × String)}
    (h : redactPairs policy pairs s = .ok (out, t)) :
    SoundMarkers t ∧ (out = [] → pairs = []) ∧
      ((∀ o ∈ out, Marked o.2 → o.1 ∈ policy.queryParameters ∧ IsMarker o.2) ↔
        ∀ pair ∈ pairs, pair.1 ∉ policy.queryParameters → ¬ Marked pair.2) := by
  induction pairs generalizing s out with
  | nil =>
    cases h
    exact ⟨sound, fun _ => rfl, fun _ => nofun, fun _ => nofun⟩
  | cons pair rest ih =>
    rw [redactPairs] at h
    obtain ⟨value, u, h, sound, first⟩ := choice_sound sound h
    obtain ⟨others, v, onward, h⟩ := run_bind_eq_ok.mp h
    cases h
    obtain ⟨sound, -, later⟩ := ih sound onward
    refine ⟨sound, nofun, ?_⟩
    rw [forall_mem_cons, forall_mem_cons, later]
    refine and_congr_left fun _ => ?_
    rcases first with ⟨selected, made⟩ | ⟨other, rfl⟩
    · exact ⟨fun _ apart => absurd selected apart, fun _ _ => ⟨selected, made⟩⟩
    · exact ⟨fun kept _ marked => other (kept marked).1,
        fun plain marked => absurd marked (plain other)⟩

theorem redactPath_sound {path out : String}
    (h : redactPath platform policy path s = .ok (out, t)) :
    SoundMarkers t ∧ (FaithfulQueries platform →
      (GenuineQuery platform policy out ↔ PlainQuery platform policy path)) := by
  obtain ⟨shape, h⟩ := failIf_eq_ok.mp h
  cases parsed : platform.parseTarget path with
  | none =>
    rw [parsed] at h
    cases h
  | some target =>
    simp only [parsed] at h
    split at h
    case isTrue none =>
      -- the path comes back, and its query has no pairs
      cases h
      have back : target.reconstructed = path := by
        have origin := (not_or.mp shape).1
        rw [validOriginForm, parsed] at origin
        simp only [Bool.not_eq_false, Bool.and_eq_true, decide_eq_true_iff] at origin
        exact origin.2.2
      have empty : ∀ found, platform.parseTarget path = some found →
          found.pairs platform = [] := by
        intro found again
        cases parsed.symm.trans again
        exact none
      rw [back]
      refine ⟨sound, fun _ =>
        ⟨fun _ found again pair mem => ?_, fun _ found again pair mem => ?_⟩⟩ <;>
      · rw [empty found again] at mem
        cases mem
    case isFalse some =>
      obtain ⟨pairs, u, replaced, h⟩ := run_bind_eq_ok.mp h
      cases h
      obtain ⟨sound, nonempty, out⟩ := redactPairs_sound sound replaced
      refine ⟨sound, fun queries => ?_⟩
      obtain ⟨read, again, same⟩ :=
        queries path target pairs parsed fun none => some (nonempty none)
      rw [GenuineQuery, PlainQuery, parsed, again]
      simp only [Option.some.injEq, forall_eq', same]
      exact out

end

/-! ### Markers in bodies -/

theorem markerPrefix_plain : ∀ c ∈ markerPrefix, escape c = [c] := by
  have plain : markerPrefix.all (fun c => decide (escape c = [c])) = true := by decide
  simpa using plain

variable {whole : Value}

theorem not_marked_of_print (clean : containsMarker whole = false)
    (part : printString text <:+: whole.print) : ¬ Marked text := by
  intro marked
  have occurring := occurs_iff.mpr ((printString_within markerPrefix_plain marked).trans part)
  rw [containsMarker, occurring] at clean
  cases clean

theorem genuineBody_of_clean (clean : containsMarker whole = false)
    (part : v.print <:+: whole.print) : GenuineBody [] v where
  strings path text found marked :=
    absurd marked (not_marked_of_print clean ((print_of_walk found).trans part))
  names path members found name mem := by
    obtain ⟨⟨k, u⟩, member, rfl⟩ := mem_map.mp mem
    exact not_marked_of_print clean
      (((print_member member).1.trans (print_of_walk found)).trans part)

theorem GenuineBody.redactPointer {done : List String} {body body' : Value} {pointer : String}
    (genuine : GenuineBody done body) (sound : SoundMarkers s)
    (h : Replay.redactPointer body pointer s = .ok (body', t)) :
    GenuineBody (done ++ [pointer]) body' ∧ SoundMarkers t := by
  obtain ⟨selected, key, text, found, -, placed, written⟩ := redactPointer_ok h
  obtain ⟨made, sound⟩ := placeholder_sound sound placed
  obtain ⟨at_, steps, walked⟩ := Option.bind_eq_some_iff.mp found
  rw [Value.assign, steps, Option.bind_some] at written
  refine ⟨?_, sound⟩
  cases put : (Value.string text).putAt at_ body with
  | none =>
    rw [put] at written
    obtain rfl : body' = body := written
    exact ⟨fun path text found marked => (genuine.strings path text found marked).imp_left
      fun ⟨p, mem, is⟩ => ⟨p, mem_append_left _ mem, is⟩, genuine.names⟩
  | some w =>
    rw [put] at written
    obtain rfl : body' = w := written
    refine ⟨fun path string found marked => ?_, fun path members found name mem => ?_⟩
    · rcases (walk_putAt put found).1 string rfl with ⟨rfl, rfl⟩ | old
      · exact ⟨⟨pointer, mem_append_right _ (mem_singleton.mpr rfl), steps⟩, made⟩
      · exact (genuine.strings path string old marked).imp_left
          fun ⟨p, mem, is⟩ => ⟨p, mem_append_left _ mem, is⟩
    · obtain ⟨old, before, names⟩ := (walk_putAt put found).2 members rfl
      exact genuine.names path old before name (names ▸ mem)

variable {pointers : List String}

theorem redactPointers_genuine {body body' : Value}
    (clean : containsMarker whole = false) (part : body.print <:+: whole.print)
    (sound : SoundMarkers s) (h : pointers.foldlM redactPointer body s = .ok (body', t)) :
    GenuineBody pointers body' ∧ SoundMarkers t :=
  foldlM_related (P := fun done body s => GenuineBody done body ∧ SoundMarkers s)
    (fun _ _ _ _ _ _ held stepped => held.1.redactPointer held.2 stepped)
    ⟨genuineBody_of_clean clean part, sound⟩ h

/-! ### Markers in records -/

theorem plain_headers (clean : containsMarker whole = false)
    (part : (Value.array (headers.map (·.json))).print <:+: whole.print) :
    ∀ h ∈ headers, ¬ Marked h.value := by
  intro h mem
  refine not_marked_of_print clean (.trans (.trans ?_ (print_item (mem_map_of_mem mem))) part)
  exact (print_member (k := "value") (v := .string h.value) (by simp)).2

theorem redactRequest_genuine (queries : FaithfulQueries platform)
    (h : redactRequestWithPointers platform policy request pointers s = .ok (request', t))
    (sound : SoundMarkers s) :
    SoundMarkers t ∧ request'.method = request.method ∧
      (∀ h ∈ request'.headers, Marked h.value → h.name ∈ policy.headerNames ∧ IsMarker h.value) ∧
      (GenuineQuery platform policy request'.path ↔ PlainQuery platform policy request.path) ∧
      GenuineBody pointers request'.body := by
  obtain ⟨clean, _, _, _, _, named, pathed, folded, whole⟩ := redactRequest_ok h
  have headers : (Value.array (request.headers.map (·.json))).print <:+: request.json.print :=
    (print_member (k := "headers") (by simp)).2
  have body : request.body.print <:+: request.json.print := (print_member (k := "body") (by simp)).2
  obtain ⟨sound, headers⟩ := redactHeaders_sound sound named (plain_headers clean headers)
  obtain ⟨sound, query⟩ := redactPath_sound sound pathed
  obtain ⟨genuine, sound⟩ := redactPointers_genuine clean body sound folded
  obtain ⟨fields, same⟩ := Prod.mk.inj whole
  exact ⟨same ▸ sound, by rw [fields], headers, query queries, genuine⟩

theorem redactEvent_genuine {event event' : CassetteEvent}
    (clean : containsMarker whole = false) (part : event.payload.print <:+: whole.print)
    (sound : SoundMarkers s) (h : redactEvent platform pointers event s = .ok (event', t)) :
    SoundMarkers t ∧ GenuineBody pointers event'.payload := by
  obtain ⟨payload, u, folded, h⟩ := run_bind_eq_ok.mp h
  obtain ⟨digest, -, h⟩ := lift_eq_ok.mp h
  cases h
  exact (redactPointers_genuine clean part sound folded).symm

variable {response : RecordedResponse}

/-- The payload of an event stands in the text of its response. -/
theorem event_payload_print {recorded : List CassetteEvent}
    (events : response.body = .events recorded chunks) (mem : event ∈ recorded) :
    event.payload.print <:+: response.json.print := by
  have inner : event.payload.print <:+: event.json.print :=
    (print_member (k := "payload") (by simp)).2
  have listed : event.json.print <:+: (Value.array (recorded.map (·.json))).print :=
    print_item (mem_map_of_mem mem)
  have body : (Value.array (recorded.map (·.json))).print <:+: response.body.json.print := by
    rw [events]
    exact (print_member (k := "events") (by simp)).2
  have outer : response.body.json.print <:+: response.json.print :=
    (print_member (k := "body") (by simp)).2
  exact inner.trans (listed.trans (body.trans outer))

theorem redactResponse_genuine {response' : RecordedResponse}
    (h : redactResponse platform policy response s = .ok (response', t)) (sound : SoundMarkers s) :
    SoundMarkers t ∧
      (∀ h ∈ response'.headers, Marked h.value → h.name ∈ policy.headerNames ∧ IsMarker h.value) ∧
      ∀ payload ∈ response'.payloads, GenuineBody policy.responseBodyPointers.items payload := by
  obtain ⟨clean, h⟩ := failIf_eq_ok.mp h
  replace clean := Bool.eq_false_iff.mpr clean
  obtain ⟨headers, u, named, h⟩ := run_bind_eq_ok.mp h
  have part : (Value.array (response.headers.map (·.json))).print <:+: response.json.print :=
    (print_member (k := "headers") (by simp)).2
  obtain ⟨sound, headers⟩ := redactHeaders_sound sound named (plain_headers clean part)
  cases body : response.body with
  | buffered payload digest responseId terminal =>
    simp only [body] at h
    obtain ⟨payload', v, folded, h⟩ := run_bind_eq_ok.mp h
    obtain ⟨digest', -, h⟩ := lift_eq_ok.mp h
    cases h
    have inner : payload.print <:+: response.body.json.print := by
      rw [body]
      exact (print_member (k := "payload") (by simp)).2
    have outer : response.body.json.print <:+: response.json.print :=
      (print_member (k := "body") (by simp)).2
    obtain ⟨genuine, sound⟩ := redactPointers_genuine clean (inner.trans outer) sound folded
    refine ⟨sound, headers, fun found mem => ?_⟩
    rw [mem_singleton.mp mem]
    exact genuine
  | events recorded chunks =>
    simp only [body] at h
    obtain ⟨recorded', v, mapped, h⟩ := run_bind_eq_ok.mp h
    cases h
    obtain ⟨sound, genuine⟩ := mapM_related (I := SoundMarkers)
      (R := fun _ event => GenuineBody policy.responseBodyPointers.items event.payload ↔ True)
      (fun event mem s event' t sound h =>
        (redactEvent_genuine clean (event_payload_print body mem) sound h).imp_right iff_true_intro)
      sound mapped
    refine ⟨sound, headers, fun found mem => ?_⟩
    obtain ⟨event, listed, rfl⟩ := mem_map.mp mem
    exact (forall_mem_iff genuine).mpr (fun _ _ => trivial) event listed

theorem redactInteraction_genuine (queries : FaithfulQueries platform) (sound : SoundMarkers s)
    (h : redactInteraction platform policy descriptor interaction s = .ok (interaction', t)) :
    SoundMarkers t ∧ (GenuineInteraction platform policy descriptor interaction' ↔
      PlainQuery platform policy interaction.request.path) := by
  unfold redactInteraction at h
  cases selected : requestBodyPointersForDescriptor descriptor interaction.interactionId
      interaction.request.method with
  | none =>
    rw [selected] at h
    cases h
  | some pointers =>
    simp only [selected] at h
    obtain ⟨request, u, asked, h⟩ := run_bind_eq_ok.mp h
    obtain ⟨response, v, answered, h⟩ := run_bind_eq_ok.mp h
    cases h
    obtain ⟨sound, method, headers, query, body⟩ := redactRequest_genuine queries asked sound
    obtain ⟨sound, headers', payloads⟩ := redactResponse_genuine answered sound
    rw [← query]
    refine ⟨sound, fun genuine => genuine.query,
      fun plain => ⟨fun h mem => ?_, plain, ⟨pointers, ?_, body⟩, payloads⟩⟩
    · exact (mem_append.mp mem).elim (headers h) (headers' h)
    · rw [← selected, ← method]

/-- Every marker in redacted contents was put there for a selected field, exactly when no unselected
query parameter decodes to one. -/
theorem redacted_markers_genuine {contents redacted : CassetteContents} {report : RedactionReport}
    (queries : FaithfulQueries platform)
    (h : redactContents platform policy contents = .ok (redacted, report)) :
    (∀ i ∈ redacted.interactions, GenuineInteraction platform policy redacted.redaction i) ↔
      ∀ i ∈ contents.interactions, PlainQuery platform policy i.request.path := by
  rw [redactContents, seq_eq_ok, bind_eq_ok] at h
  obtain ⟨-, descriptor, -, h⟩ := h
  obtain ⟨⟨interactions, redactor⟩, mapped, ended⟩ := bind_eq_ok.mp h
  cases pure_eq_ok.mp ended
  obtain ⟨-, related⟩ := mapM_related (I := SoundMarkers)
    (R := fun i i' => GenuineInteraction platform policy descriptor i' ↔
      PlainQuery platform policy i.request.path)
    (fun i _ s i' t => redactInteraction_genuine queries) .start mapped
  exact forall_mem_iff related

end Markers

/-! ### A query that decodes to a marker -/

/-- The query of a form client that percent-encodes the brackets and the colon. -/
def encodedQuery : String := "x=%5BASB_REDACTED%3A000001%5D"

def percent (text : String) : List Char := text.toList.flatMap fun c => ['%', c]

def percentPair (pair : String × String) : List Char :=
  percent pair.1 ++ '=' :: (percent pair.2 ++ ['&'])

def readPairs (name : String) (taken : List Char) : List Char → List (String × String)
  | '%' :: c :: rest => readPairs name (taken ++ [c]) rest
  | '=' :: rest => readPairs (String.ofList taken) [] rest
  | '&' :: rest => (name, String.ofList taken) :: readPairs "" [] rest
  | _ => []

/-- A platform whose query encoding escapes every character, and which also reads the query of
that client. -/
def queryPlatform : Platform :=
  { samplePlatform with
    parseTarget := fun path => some
      ⟨String.ofList (path.toList.takeWhile (· ≠ '?')),
        (path.toList.dropWhile (· ≠ '?')).tail?.map String.ofList, none⟩
    formPairs := fun query =>
      if query = encodedQuery then [("x", "[ASB_REDACTED:000001]")]
        else readPairs "" [] query.toList
    formQuery := fun pairs => String.ofList (pairs.flatMap percentPair) }

theorem readPairs_percent (name text : String) (taken rest : List Char) :
    readPairs name taken (percent text ++ rest) = readPairs name (taken ++ text.toList) rest := by
  rw [percent]
  induction text.toList generalizing taken with
  | nil => rw [flatMap_nil, nil_append, append_nil]
  | cons c more ih =>
    change readPairs name (taken ++ [c]) (more.flatMap (fun c => ['%', c]) ++ rest) = _
    rw [ih, append_assoc]
    rfl

theorem readPairs_pairs (pairs : List (String × String)) :
    readPairs "" [] (pairs.flatMap percentPair) = pairs := by
  induction pairs with
  | nil => rfl
  | cons pair rest ih =>
    rw [flatMap_cons, percentPair, append_assoc, readPairs_percent, cons_append,
      readPairs, append_assoc, readPairs_percent, nil_append, nil_append]
    change (_, _) :: readPairs "" [] (rest.flatMap percentPair) = _
    rw [ih, String.ofList_toList, String.ofList_toList]

theorem queryPlatform_parse (query : String) (apart : '?' ∉ front) :
    queryPlatform.parseTarget (String.ofList front ++ "?" ++ query) =
      some ⟨String.ofList front, some query, none⟩ := by
  have plain : ∀ c ∈ front, decide (c ≠ '?') = true :=
    fun c mem => decide_eq_true fun is => apart (is ▸ mem)
  have spelled : (String.ofList front ++ "?" ++ query).toList = front ++ '?' :: query.toList := by
    simp
  simp only [queryPlatform, spelled, takeWhile_append_of_pos plain,
    dropWhile_append_of_pos plain]
  simp

variable {pairs : List (String × String)}

/-- What the encoding builds is not the query of that client. -/
theorem formQuery_ne (nonempty : pairs ≠ []) :
    String.ofList (pairs.flatMap percentPair) ≠ encodedQuery := by
  obtain ⟨⟨name, value⟩, rest, rfl⟩ := exists_cons_of_ne_nil nonempty
  intro same
  have first := congrArg (fun text => text.toList.head?) same
  simp only [String.toList_ofList, flatMap_cons, percentPair, percent] at first
  have client : encodedQuery.toList.head? = some 'x' := by decide
  rw [client] at first
  cases spelled : name.toList with
  | nil | cons =>
    rw [spelled] at first
    exact absurd (Option.some.inj first) (by decide)

theorem queryPlatform_pairs (path : String) (nonempty : pairs ≠ []) :
    (⟨path, some (queryPlatform.formQuery pairs), none⟩ : Target).pairs queryPlatform = pairs := by
  have other : queryPlatform.formQuery pairs ≠ encodedQuery := formQuery_ne nonempty
  change (if queryPlatform.formQuery pairs = encodedQuery then _ else _) = pairs
  rw [if_neg other]
  change readPairs "" [] (String.ofList (pairs.flatMap percentPair)).toList = pairs
  rw [String.toList_ofList, readPairs_pairs]

theorem queryPlatform_faithful : FaithfulQueries queryPlatform := by
  intro path target pairs parsed nonempty
  have front : target.path = String.ofList (path.toList.takeWhile (· ≠ '?')) := by
    rw [← Option.some.inj parsed]
  have apart : '?' ∉ path.toList.takeWhile (· ≠ '?') := by
    intro mem
    simpa using all_eq_true.mp all_takeWhile '?' mem
  rw [front]
  exact ⟨_, queryPlatform_parse _ apart, queryPlatform_pairs _ nonempty⟩

/-- A policy that selects these parts of requests. -/
def pointerPolicy (pointers : List String) : RedactionPolicy :=
  ⟨1, .empty, .empty, .ofList pointers, [], .empty⟩

def pointerDescriptor (pointers : List String) : RedactionDescriptor :=
  ⟨1, ⟨[], [], pointers, [], []⟩, zeros⟩

/-- The interaction that a client's query arrives in, with this path. -/
def queryInteraction (path digest : String) : Interaction where
  sessionId := "s"
  attemptId := "a"
  interactionId := "i"
  ordinal := 0
  dialect := .anthropicMessages
  request := ⟨"POST", path, [], .null, digest, "m", [], [], none⟩
  response := ⟨200, [], .buffered .null digest none .completed⟩

def queryContents (path digest : String) : CassetteContents :=
  ⟨1, "c", none, 1, pointerDescriptor [], [queryInteraction path digest]⟩

/-- Nothing selects the parameter, and its value comes out as a marker. -/
theorem redacted_marker_injected :
    ¬ ∀ (platform : Platform) (policy : RedactionPolicy) (contents redacted : CassetteContents)
      (report : RedactionReport), FaithfulQueries platform →
      redactContents platform policy contents = .ok (redacted, report) →
      ∀ i ∈ redacted.interactions, GenuineInteraction platform policy redacted.redaction i := by
  intro claimed
  have redaction : redactContents queryPlatform (pointerPolicy [])
      (queryContents ("/p?" ++ encodedQuery) "") =
        .ok (queryContents (String.ofList ['/', 'p'] ++ "?" ++
          queryPlatform.formQuery [("x", "[ASB_REDACTED:000001]")]) zeros, ⟨1, 0, 0⟩) := by
    decide +kernel
  have genuine := claimed _ _ _ _ _ queryPlatform_faithful redaction _ (mem_singleton.mpr rfl)
  have apart : '?' ∉ ['/', 'p'] := by decide
  have read := genuine.query _ (queryPlatform_parse _ apart) ("x", "[ASB_REDACTED:000001]")
  rw [queryPlatform_pairs _ (cons_ne_nil _ _)] at read
  have marked : Marked "[ASB_REDACTED:000001]" := ⟨[], "000001]".toList, by decide⟩
  exact absurd (read (mem_singleton.mpr rfl) marked).1 (by decide)

/-- A policy that selects a header, a query parameter and a part of each body. -/
def selectingPolicy : RedactionPolicy :=
  ⟨1, .ofList ["authorization"], .ofList ["k"], .ofList ["/user"], [], .ofList ["/id"]⟩

/-- An interaction with a value at each of the selected places, and one beside them. -/
def selectedInteraction (key token user id digest : String) : Interaction :=
  { queryInteraction ("/p?" ++ queryPlatform.formQuery [("k", key), ("x", "y")]) digest with
    request := ⟨"POST", "/p?" ++ queryPlatform.formQuery [("k", key), ("x", "y")],
      [⟨"authorization", token⟩], .object [("user", .string user)], digest, "m", [], [], none⟩
    response := ⟨200, [], .buffered (.object [("id", .string id)]) digest none .completed⟩ }

def selectedContents (interaction : Interaction) : CassetteContents :=
  ⟨1, "c", none, 1, ⟨1, selectingPolicy.selectors, zeros⟩, [interaction]⟩

/-- The four values come out as four markers, at the places the policy selects. -/
theorem redacted_markers_genuine_sample :
    GenuineInteraction queryPlatform selectingPolicy ⟨1, selectingPolicy.selectors, zeros⟩
      (selectedInteraction (marker 2) (marker 1) (marker 3) (marker 4) zeros) := by
  have redaction : redactContents queryPlatform selectingPolicy
      (selectedContents (selectedInteraction "v" "t" "u" "r" "")) =
        .ok (selectedContents
          (selectedInteraction (marker 2) (marker 1) (marker 3) (marker 4) zeros),
          ⟨1, 4, 4⟩) := by decide +kernel
  have plain : PlainQuery queryPlatform selectingPolicy
      ("/p?" ++ queryPlatform.formQuery [("k", "v"), ("x", "y")]) := by
    intro target parsed pair mem
    have pairs : target.pairs queryPlatform = [("k", "v"), ("x", "y")] := by
      rw [← Option.some.inj parsed]
      decide +kernel
    rw [pairs] at mem
    rcases mem_pair.mp mem with rfl | rfl
    · exact fun other => absurd (by decide) other
    · exact fun _ => by rw [Marked]; decide
  exact (redacted_markers_genuine queryPlatform_faithful redaction).mpr
    (forall_mem_singleton.mpr plain) _ (mem_singleton.mpr rfl)

/-! ## Members a request repeats -/

/-- The fields of a request that repeat members of its body, read as replay reads them. -/
structure Mirrored (request : RecordedRequest) : Prop where
  options : ∀ o ∈ request.options, request.body.get? o.1 = some o.2
  tools : ((request.body.get? "tools").bind Value.items?).getD [] = request.tools
  model : (request.body.get? "model").bind Value.text? = some request.model
  previous : (request.body.get? "previous_response_id").bind Value.text? =
    request.previousResponseId

variable {members : List (String × Value)} {pointers done : List String} {s t : Redactor}

/-- An object after some of its parts were redacted. A member is as it was where no pointer selects
it, has the text it had where no pointer names it, and does not come to have items. What a pointer
named is within a marker. -/
structure RedactedMembers (pointers : List String) (members after : List (String × Value)) :
    Prop where
  unselected : ∀ name, (∀ p ∈ pointers, selects p name = false) →
    after.lookup name = members.lookup name
  present : ∀ name, (after.lookup name).isSome = (members.lookup name).isSome
  texts : ∀ name, memberPointer name ∉ pointers →
    (after.lookup name).bind Value.text? = (members.lookup name).bind Value.text?
  items : ∀ name, ((members.lookup name).bind Value.items?).getD [] = [] →
    ((after.lookup name).bind Value.items?).getD [] = []
  marked : ∀ p ∈ pointers, ∀ path, pointerSteps p = some path → ∃ step rest text,
    step :: rest <+: path ∧ (Value.object after).walk (step :: rest) = some (.string text) ∧
      Marked text

/-- A value with a replaced part has no text, and has items only where it had some. -/
theorem putAt_part {old new w : Value} (put : new.putAt (step :: rest) old = some w) :
    old.text? = none ∧ w.text? = none ∧ (old.items?.getD [] = [] → w.items?.getD [] = []) := by
  cases old with
  | null | bool | number | string => cases put
  | object members =>
    obtain ⟨_, _, -, -, rfl⟩ := putAt_object put
    exact ⟨rfl, rfl, fun _ => rfl⟩
  | array items =>
    obtain ⟨i, _, _, -, there, -, rfl⟩ := putAt_array put
    refine ⟨rfl, rfl, fun empty => ?_⟩
    obtain rfl : items = [] := empty
    cases there

theorem RedactedMembers.step {between : List (String × Value)}
    (held : RedactedMembers done members between) (valid : validPointer pointer = true)
    (sound : SoundMarkers s) (h : redactPointer (.object between) pointer s = .ok (body, t)) :
    ∃ after, body = .object after ∧ RedactedMembers (done ++ [pointer]) members after := by
  obtain ⟨selected, key, text, found, -, placed, written⟩ := redactPointer_ok h
  have marked := (placeholder_sound sound placed).1.marked
  obtain ⟨step, rest, steps, chosen, whole⟩ := pointerSteps_selects valid
  rw [Value.pointer, steps, Option.bind_some] at found
  obtain ⟨w, put⟩ := putAt_of_walk (.string text) found
  rw [Value.assign, steps, Option.bind_some, put] at written
  obtain ⟨old, part, there, inner, rfl⟩ := putAt_object put
  have self := lookup_setMember_self part (mem_map_of_mem (f := Prod.fst) (mem_of_lookup there))
  have others := fun {name} differ => @lookup_setMember_of_ne name step part between differ
  have last : pointer ∈ done ++ [pointer] := mem_append_right _ (mem_singleton.mpr rfl)
  refine ⟨_, written, ?_, ?_, ?_, ?_, ?_⟩
  · intro name apart
    have differ : name ≠ step := by
      rintro rfl
      rw [apart pointer last] at chosen
      cases chosen
    rw [others differ, held.unselected name fun p mem => apart p (mem_append_left _ mem)]
  · intro name
    rw [← held.present]
    by_cases same : name = step
    · rw [same, self, there]
      rfl
    · rw [others same]
  · intro name unnamed
    rw [← held.texts name fun mem => unnamed (mem_append_left _ mem)]
    by_cases same : name = step
    · subst same
      rw [self, there]
      cases rest with
      | nil => exact absurd (whole rfl ▸ last) unnamed
      | cons =>
        obtain ⟨before, after, -⟩ := putAt_part inner
        exact after.trans before.symm
    · rw [others same]
  · intro name empty
    replace empty := held.items name empty
    by_cases same : name = step
    · subst same
      rw [there] at empty
      rw [self]
      cases rest with
      | nil =>
        cases inner
        rfl
      | cons => exact (putAt_part inner).2.2 empty
    · rwa [others same]
  · intro p mem path named
    rcases mem_append.mp mem with old | new
    · obtain ⟨first, more, text, within, stands, marks⟩ := held.marked p old path named
      rcases walk_putAt_string put stands with covered | kept
      · exact ⟨step, rest, _, covered.trans within, walk_putAt_self put, marked⟩
      · exact ⟨first, more, text, within, kept, marks⟩
    · rw [mem_singleton.mp new, steps] at named
      cases named
      exact ⟨step, rest, text, prefix_refl _, walk_putAt_self put, marked⟩

theorem redactPointers_members (valid : ∀ p ∈ pointers, validPointer p = true)
    (sound : SoundMarkers s)
    (h : pointers.foldlM redactPointer (.object members) s = .ok (body, t)) :
    ∃ after, body = .object after ∧ RedactedMembers pointers members after := by
  refine (foldlM_related (P := fun done body s => SoundMarkers s ∧
    ((∀ p ∈ done, validPointer p = true) →
      ∃ after, body = .object after ∧ RedactedMembers done members after)) ?_ ?_ h).2 valid
  · rintro done x b s c t ⟨sound, held⟩ stepped
    obtain ⟨_, _, _, -, -, placed, -⟩ := redactPointer_ok stepped
    refine ⟨(placeholder_sound sound placed).2, fun valid => ?_⟩
    obtain ⟨between, rfl, redacted⟩ := held fun p mem => valid p (mem_append_left _ mem)
    exact redacted.step (valid x (mem_append_right _ (mem_singleton.mpr rfl))) sound stepped
  · exact ⟨sound, fun _ => ⟨members, rfl, fun _ _ => rfl, fun _ => rfl, fun _ _ => rfl,
      fun _ empty => empty, nofun⟩⟩

variable {after : List (String × Value)}

theorem RedactedMembers.synchronized (redacted : RedactedMembers pointers members after)
    (mirrored : ∀ o ∈ options, members.lookup o.1 = some o.2) :
    ∀ o ∈ synchronizeRequestOptions (.object after) pointers options,
      after.lookup o.1 = some o.2 := by
  intro o mem
  obtain ⟨⟨name, value⟩, old, rfl⟩ := mem_map.mp mem
  have before := mirrored _ old
  dsimp only
  split
  case isTrue =>
    have there := redacted.present name
    rw [before] at there
    obtain ⟨new, found⟩ := Option.isSome_iff_exists.mp there
    rw [found]
    rfl
  case isFalse apart =>
    have unselected : ∀ p ∈ pointers, selects p name = false := by
      simpa using apart
    rw [redacted.unselected name unselected]
    exact before

/-- A member that a pointer names has become a marker. -/
theorem RedactedMembers.named (redacted : RedactedMembers pointers members after)
    (mem : memberPointer name ∈ pointers)
    (steps : pointerSteps (memberPointer name) = some [name]) :
    ∃ text, after.lookup name = some (.string text) ∧ Marked text := by
  obtain ⟨step, rest, text, within, found, marked⟩ := redacted.marked _ mem _ steps
  obtain ⟨rfl, front⟩ := cons_prefix_cons.mp within
  obtain rfl := prefix_nil.mp front
  obtain ⟨value, there, is⟩ := Option.bind_eq_some_iff.mp found
  cases is
  exact ⟨text, there, marked⟩

theorem pointerSteps_tools (selected : selects pointer "tools" = true) :
    ∃ rest, pointerSteps pointer = some ("tools" :: rest) := by
  rw [selects, Bool.or_eq_true, decide_eq_true_iff, isPrefixOf_iff_prefix] at selected
  rcases selected with rfl | ⟨more, spelled⟩
  · exact ⟨[], by decide⟩
  · have text : pointer.toList = '/' :: ("tools".toList ++ '/' :: more) := by
      rw [← spelled]
      rfl
    have single : '/' ∉ "tools".toList := by decide
    have name : String.ofList (unescapeStep "tools".toList) = "tools" := by decide
    rw [pointerSteps, text]
    simp only [splitOn_append_cons_self_of_not_mem single, map_cons, name]
    exact ⟨_, rfl⟩

/-- A redacted request is mirrored as before exactly when no pointer names its model or its previous
response, and none selects its tools, if there are any. -/
theorem redacted_request_mirrored {platform : Platform} {policy : RedactionPolicy}
    {descriptor : RedactionDescriptor} (id : String) {request request' : RecordedRequest}
    {pointers : List String} {s t : Redactor} (sound : SoundMarkers s)
    (described : policy.descriptor platform = .ok descriptor)
    (selected : requestBodyPointersForDescriptor descriptor id request.method = some pointers)
    (redaction : redactRequestWithPointers platform policy request pointers s = .ok (request', t))
    (mirrored : Mirrored request) :
    Mirrored request' ↔ memberPointer "model" ∉ pointers ∧
      memberPointer "previous_response_id" ∉ pointers ∧
      (request.tools = [] ∨ ∀ p ∈ pointers, selects p "tools" = false) := by
  obtain ⟨clean, _, _, _, _, named, pathed, folded, whole⟩ := redactRequest_ok redaction
  have object : ∃ members, request.body = .object members := by
    have named := mirrored.model
    cases body : request.body with
    | object members => exact ⟨members, rfl⟩
    | null | bool | number | string | array =>
      rw [body] at named
      cases named
  obtain ⟨members, body⟩ := object
  rw [body] at folded
  have sound' := (redactPath_sound (redactSortedHeaders_sound sound named).1 pathed).1
  obtain ⟨after, is, redacted⟩ :=
    redactPointers_members (selected_pointers_valid described selected) sound' folded
  have fields := (Prod.mk.inj whole).1
  have before : ∀ name, request.body.get? name = members.lookup name := by
    intro name
    rw [body]
    rfl
  have now : ∀ name, request'.body.get? name = after.lookup name := by
    intro name
    rw [is]
    rfl
  constructor
  · intro still
    refine ⟨fun mem => ?_, fun mem => ?_, ?_⟩
    · obtain ⟨text, found, marked⟩ := redacted.named mem (by decide)
      have same := still.model
      rw [now, found, fields] at same
      obtain rfl : text = request.model := Option.some.inj same
      have part : (Value.string request.model).print <:+: request.json.print :=
        (print_member (k := "model") (by simp)).2
      exact not_marked_of_print clean part marked
    · obtain ⟨text, found, marked⟩ := redacted.named mem (by decide)
      have same := still.previous
      rw [now, found, fields] at same
      have given : request.previousResponseId = some text := same.symm
      have part : (Value.string text).print <:+: request.json.print :=
        (print_member (k := "previous_response_id") (by simp [given, optional])).2
      exact not_marked_of_print clean part marked
    · by_contra neither
      push Not at neither
      obtain ⟨some_left, p, mem, chosen⟩ := neither
      obtain ⟨rest, steps⟩ := pointerSteps_tools (Bool.eq_true_of_not_eq_false chosen)
      obtain ⟨step, more, text, within, found, marked⟩ := redacted.marked p mem _ steps
      obtain ⟨rfl, -⟩ := cons_prefix_cons.mp within
      obtain ⟨value, there, inner⟩ := Option.bind_eq_some_iff.mp found
      have same := still.tools
      rw [now, there, fields] at same
      cases value with
      | null | bool | number | string | object => exact some_left same.symm
      | array items =>
        obtain rfl : items = request.tools := same
        exact not_marked_of_print clean
          ((print_of_walk inner).trans (print_member (k := "tools") (by simp)).2) marked
  · rintro ⟨model, previous, tools⟩
    refine ⟨?_, ?_, ?_, ?_⟩
    · rw [is] at fields ⊢
      rw [fields]
      refine redacted.synchronized fun o mem => ?_
      rw [← before]
      exact mirrored.options o mem
    · rw [now, fields]
      rcases tools with none | unselected
      · have empty := mirrored.tools
        rw [none, before] at empty
        rw [none]
        exact redacted.items _ empty
      · rw [redacted.unselected _ unselected, ← before, mirrored.tools]
    · rw [now, redacted.texts _ model, ← before, mirrored.model, fields]
    · rw [now, redacted.texts _ previous, ← before, mirrored.previous, fields]

/-- A request with one option and no tools, and with these values in its body. -/
def modelRequest (digest option model : String) (tools : Value) : RecordedRequest where
  method := "POST"
  path := "/p"
  headers := []
  body := .object [("model", .string model), ("tools", tools), ("user", .string option)]
  bodySha256 := digest
  model := "m"
  options := [("user", .string option)]
  tools := []
  previousResponseId := none

theorem modelRequest_mirrored (digest option : String) :
    Mirrored (modelRequest digest option "m" (.array [])) where
  options := by
    intro o mem
    cases mem_singleton.mp mem
    rfl
  tools := rfl
  model := rfl
  previous := rfl

/-- The option and the empty list of tools are replaced by markers, and the mirrors agree. -/
theorem redacted_request_mirrored_sample :
    Mirrored (modelRequest zeros (marker 2) "m" (.string (marker 1))) :=
  have described : (pointerPolicy ["/tools", "/user"]).descriptor samplePlatform =
      .ok (pointerDescriptor ["/tools", "/user"]) := by decide +kernel
  have redaction : redactRequestWithPointers samplePlatform (pointerPolicy ["/tools", "/user"])
      (modelRequest "" "u" "m" (.array [])) ["/tools", "/user"] {} =
        .ok (modelRequest zeros (marker 2) "m" (.string (marker 1)),
          ⟨[(.json ['[', ']'], marker 1), (.text "u", marker 2)], 2⟩) := by rfl
  (redacted_request_mirrored "i" .start described rfl redaction
    (modelRequest_mirrored "" "u")).mpr (by decide)

/-- A selected model is replaced in the body and stays in the field that repeats it. -/
theorem redacted_model_kept :
    ¬ ∀ (platform : Platform) (policy : RedactionPolicy) (descriptor : RedactionDescriptor)
      (id : String) (request request' : RecordedRequest) (pointers : List String) (s t : Redactor),
      policy.descriptor platform = .ok descriptor →
      requestBodyPointersForDescriptor descriptor id request.method = some pointers →
      redactRequestWithPointers platform policy request pointers s = .ok (request', t) →
      Mirrored request → Mirrored request' := by
  intro claimed
  have described : (pointerPolicy ["/model"]).descriptor samplePlatform =
      .ok (pointerDescriptor ["/model"]) := by decide +kernel
  have redaction : redactRequestWithPointers samplePlatform (pointerPolicy ["/model"])
      (modelRequest "" "u" "m" (.array [])) ["/model"] {} =
        .ok (modelRequest zeros "u" (marker 1) (.array []),
          ⟨[(.text "m", marker 1)], 1⟩) := by rfl
  have model := (claimed _ _ _ "i" _ _ _ _ _ described rfl redaction
    (modelRequest_mirrored "" "u")).model
  have differ : some (marker 1) ≠ some "m" := by decide
  exact differ model

end AgentSystemsBenchmark.Replay
