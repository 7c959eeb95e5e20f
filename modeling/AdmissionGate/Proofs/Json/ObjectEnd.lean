import AdmissionGate.Proofs.Json.ValueReading

/-!
# Where an object ends

The text of an object says itself where it ends: its last brace is the first one that closes it.  So the reader takes an object
off the front of anything, whatever follows, and no text of an object goes on as another text of JSON, unless by white space.

A number does not have this property: the text of 1 goes on as that of 12.
-/

namespace AdmissionGate.Json

/-- Whether a written value is an object. -/
def Written.IsObject (w : Written) : Prop :=
  ∃ members, w = .object members

/-! ### Objects are told by their first character -/

theorem Spells.isObject_of_brace {t : List Char} {w : Written} (h : Spells ('\x7b' :: t) w) : w.IsObject := by
  generalize start : '\x7b' :: t = s at h
  cases h with
  | number spelled =>
    obtain ⟨c, u, rfl, sign | digit⟩ := spelled.head
    · rw [sign, List.cons.injEq] at start
      exact absurd start.1 (by decide)
    · cases start
      exact absurd digit (by decide)
  | string quoted =>
    cases quoted with
    | marks _ => cases start
  | null | yes | no | emptyArray _ | array _ => cases start
  | emptyObject _ | object _ => exact ⟨_, rfl⟩

theorem Spells.exists_brace {s : List Char} {members : List (String × Written)} (h : Spells s (.object members)) :
    ∃ t, s = '\x7b' :: t := by
  cases h with
  | emptyObject _ | object _ => exact ⟨_, rfl⟩

/-- A value that starts as another one does is an object if that one is. -/
theorem Spells.isObject_of_head {c : Char} {s t : List Char} {w u : Written} (hs : Spells (c :: s) w) (ht : Spells (c :: t) u)
    (isObject : w.IsObject) : u.IsObject := by
  obtain ⟨members, rfl⟩ := isObject
  obtain ⟨s', start⟩ := hs.exists_brace
  cases start
  exact ht.isObject_of_brace

/-! ### The reader stops at the last brace -/

/-- Unlike other values, an object is taken off whatever follows it. -/
theorem readValue_object {rounds depth : Nat} {s : List Char} {w : Written} (h : Spells s w) (isObject : w.IsObject)
    (deep : w.depth ≤ depth) (finite : w.IsFinite) (short : s.length ≤ rounds) (r : List Char) :
    readValue rounds depth (s ++ r) = some (w.value, r) := by
  obtain ⟨members, rfl⟩ := isObject
  rw [Written.depth] at deep
  obtain ⟨depth, rfl⟩ := Nat.exists_eq_add_of_le' (Nat.le_trans (Nat.le_add_left 1 _) deep)
  rw [readValue]
  cases h with
  | @emptyObject gap blank =>
    rw [List.cons_append, List.append_assoc]
    exact readLevel_emptyObject (skipSpace_blank blank (by decide) r)
  | object spelled =>
    rw [List.length_cons, List.length_append] at short
    rw [List.cons_append, List.append_assoc]
    exact readLevel_complete_object (readValue_complete rounds depth) spelled (Nat.le_of_succ_le_succ deep) finite
      (by omega) r

/-- Two objects at the front of one text are one object. -/
theorem Spells.object_prefix_free {s t r k : List Char} {w u : Written} (hs : Spells s w) (ht : Spells t u)
    (isObject : w.IsObject) (isObject' : u.IsObject) (finite : w.IsFinite) (finite' : u.IsFinite) (same : s ++ r = t ++ k) :
    r = k := by
  have first := readValue_object hs isObject (Nat.le_max_left w.depth u.depth) finite
    (Nat.le_max_left s.length t.length) r
  have second := readValue_object ht isObject' (Nat.le_max_right w.depth u.depth) finite'
    (Nat.le_max_right s.length t.length) k
  rw [same, second, Option.some.injEq, Prod.mk.injEq] at first
  exact first.2.symm

/-! ### Going on with white space -/

theorem Padded.append_blank {s gap : List Char} {w : Written} (h : Padded s w) (hgap : Blank gap) : Padded (s ++ gap) w := by
  cases h with
  | around before spelled after =>
    rw [List.append_assoc, List.append_assoc]
    exact .around before spelled (after.append hgap)

/-- If a text of a value goes on as a text of an object or the other way round, it goes on with white space. -/
theorem Padded.blank_of_append {s r : List Char} {w u : Written} (hs : Padded s w) (hsr : Padded (s ++ r) u)
    (isObject : w.IsObject ∨ u.IsObject) (finite : w.IsFinite) (finite' : u.IsFinite) : Blank r := by
  generalize whole : s ++ r = t at hsr
  rcases hs with @⟨before, s, after, _, hbefore, spelled, hafter⟩
  rcases hsr with @⟨before', t, after', _, hbefore', spelled', hafter'⟩
  obtain ⟨c, s', rfl, notSpace, -⟩ := spelled.head
  obtain ⟨d, t', rfl, notSpace', -⟩ := spelled'.head
  -- behind the white space in front of them the two texts are the same one
  have rest := congrArg skipSpace whole
  simp only [List.append_assoc, List.cons_append] at rest
  rw [skipSpace_blank hbefore notSpace, skipSpace_blank hbefore' notSpace', List.cons.injEq] at rest
  obtain ⟨rfl, rest⟩ := rest
  have objects : w.IsObject ∧ u.IsObject := by
    rcases isObject with isObject | isObject
    · exact ⟨isObject, spelled.isObject_of_head spelled' isObject⟩
    · exact ⟨spelled'.isObject_of_head spelled isObject, isObject⟩
  have ends : after ++ r = after' := by
    apply spelled.object_prefix_free spelled' objects.1 objects.2 finite finite'
    rw [List.cons_append, List.cons_append, rest]
  intro x hx
  apply hafter'
  rw [← ends]
  exact List.mem_append_right after hx

/-! ### The same of octets -/

/-- Whether some octets are white space of JSON. -/
def BlankOctets (octets : List UInt8) : Prop :=
  ∀ o ∈ octets, o = 0x20 ∨ o = 0x09 ∨ o = 0x0a ∨ o = 0x0d

instance (octets : List UInt8) : Decidable (BlankOctets octets) :=
  inferInstanceAs (Decidable (∀ o ∈ octets, o = 0x20 ∨ o = 0x09 ∨ o = 0x0a ∨ o = 0x0d))

theorem BlankOctets.of_blank {gap : List Char} (h : Blank gap) : BlankOctets (Text.Utf8.encode gap) := by
  intro o ho
  rw [Text.Utf8.encode, List.mem_flatMap] at ho
  obtain ⟨c, hc, ho⟩ := ho
  rcases h c hc with rfl | rfl | rfl | rfl
  all_goals
    simp only [String.utf8EncodeChar] at ho
    simp at ho
    simp [ho]

/-- White space is its own UTF-8 form. -/
theorem BlankOctets.exists_blank {octets : List UInt8} (h : BlankOctets octets) :
    ∃ gap, Blank gap ∧ octets = Text.Utf8.encode gap := by
  induction octets with
  | nil => exact ⟨[], blank_nil, rfl⟩
  | cons o octets ih =>
    obtain ⟨gap, blank, rfl⟩ := ih fun o' ho' => h o' (List.mem_cons_of_mem o ho')
    have first : ∃ c, (c = ' ' ∨ c = '\t' ∨ c = '\n' ∨ c = '\r') ∧ [o] = String.utf8EncodeChar c := by
      rcases h o List.mem_cons_self with rfl | rfl | rfl | rfl
      · exact ⟨' ', by simp, rfl⟩
      · exact ⟨'\t', by simp, rfl⟩
      · exact ⟨'\n', by simp, rfl⟩
      · exact ⟨'\r', by simp, rfl⟩
    obtain ⟨c, hc, spelled⟩ := first
    refine ⟨c :: gap, List.forall_mem_cons.mpr ⟨hc, blank⟩, ?_⟩
    calc o :: Text.Utf8.encode gap = [o] ++ Text.Utf8.encode gap := rfl
      _ = String.utf8EncodeChar c ++ Text.Utf8.encode gap := by rw [spelled]
      _ = Text.Utf8.encode (c :: gap) := List.flatMap_cons.symm

theorem IsTextOf.append_blank {octets more : List UInt8} {w : Written} (h : IsTextOf octets w) (blank : BlankOctets more) :
    IsTextOf (octets ++ more) w := by
  obtain ⟨⟨s, rfl, padded⟩, deep, finite⟩ := h
  obtain ⟨gap, hgap, rfl⟩ := blank.exists_blank
  exact ⟨⟨s ++ gap, (Text.Utf8.encode_append s gap).symm, padded.append_blank hgap⟩, deep, finite⟩

/-- No text of an object is part of another text, nor another text part of it, but for white space behind it. -/
theorem IsTextOf.blankOctets_of_append {octets more : List UInt8} {w u : Written} (h : IsTextOf octets w)
    (h' : IsTextOf (octets ++ more) u) (isObject : w.IsObject ∨ u.IsObject) : BlankOctets more := by
  obtain ⟨⟨s, rfl, padded⟩, -, finite⟩ := h
  obtain ⟨⟨t, whole, padded'⟩, -, finite'⟩ := h'
  obtain ⟨r, rfl, rfl⟩ := Text.Utf8.exists_of_encode_append whole
  exact .of_blank (padded.blank_of_append padded' isObject finite finite')

end AdmissionGate.Json
