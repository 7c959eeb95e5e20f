import AdmissionGate.Proofs.Json.NumberReading
import AdmissionGate.Proofs.Json.TextReading
import AdmissionGate.Proofs.Text.Utf8RoundTrip

/-!
# Reading values

The reader accepts exactly the texts of the grammar that nest to its depth and hold finite numbers only, and what it gives
is the value that the text denotes.

Both halves go by induction on the depth.  Within one level the loops over items and members are followed by induction on
their rounds when a reading is known, and on the written items and members when a text is known.
-/

namespace AdmissionGate.Json

/-! ### White space around texts -/

theorem Blank.append {s t : List Char} (hs : Blank s) (ht : Blank t) : Blank (s ++ t) := by
  intro c hc
  rcases List.mem_append.mp hc with h | h
  · exact hs c h
  · exact ht c h

theorem Padded.blank_append {gap s : List Char} {w : Written} (hgap : Blank gap) (h : Padded s w) :
    Padded (gap ++ s) w := by
  cases h with
  | @around before t after _ hbefore ht hafter =>
    rw [← List.append_assoc]
    exact .around (hgap.append hbefore) ht hafter

theorem SpellsItems.blank_append {gap s : List Char} {items : List Written} (hgap : Blank gap)
    (h : SpellsItems s items) : SpellsItems (gap ++ s) items := by
  cases h with
  | last hs => exact .last (hs.blank_append hgap)
  | more hs ht =>
    rw [← List.append_assoc]
    exact .more (hs.blank_append hgap) ht

theorem SpellsMember.blank_append {gap s : List Char} {member : String × Written} (hgap : Blank gap)
    (h : SpellsMember s member) : SpellsMember (gap ++ s) member := by
  cases h with
  | pair hbefore hname hbetween hvalue =>
    rw [← List.append_assoc]
    exact .pair (hgap.append hbefore) hname hbetween hvalue

theorem SpellsMembers.blank_append {gap s : List Char} {members : List (String × Written)} (hgap : Blank gap)
    (h : SpellsMembers s members) : SpellsMembers (gap ++ s) members := by
  cases h with
  | last hs => exact .last (hs.blank_append hgap)
  | more hs ht =>
    rw [← List.append_assoc]
    exact .more (hs.blank_append hgap) ht

/-! ### How texts begin and what may follow them -/

/-- No value starts with white space or a closing bracket. -/
theorem Spells.head {s : List Char} {w : Written} (h : Spells s w) :
    ∃ c t, s = c :: t ∧ isSpace c = false ∧ c ≠ ']' ∧ c ≠ '\x7d' := by
  cases h with
  | null => exact ⟨'n', _, rfl, by decide⟩
  | yes => exact ⟨'t', _, rfl, by decide⟩
  | no => exact ⟨'f', _, rfl, by decide⟩
  | number hl =>
    obtain ⟨c, t, rfl, rfl | digit⟩ := hl.head
    · exact ⟨'-', t, rfl, by decide⟩
    · refine ⟨c, t, rfl, ?_, isDigit_ne digit (by decide), isDigit_ne digit (by decide)⟩
      rw [Bool.eq_false_iff, ne_eq, isSpace_iff]
      rintro (rfl | rfl | rfl | rfl) <;> cases digit
  | string hs =>
    cases hs with
    | marks _ => exact ⟨'"', _, rfl, by decide⟩
  | emptyArray _ => exact ⟨'[', _, rfl, by decide⟩
  | array _ => exact ⟨'[', _, rfl, by decide⟩
  | emptyObject _ => exact ⟨'\x7b', _, rfl, by decide⟩
  | object _ => exact ⟨'\x7b', _, rfl, by decide⟩

/-- The text goes on, if it does, with white space, a comma or a closing bracket. -/
def EndsValue (r : List Char) : Prop :=
  ∀ c t, r = c :: t → isSpace c = true ∨ c = ',' ∨ c = ']' ∨ c = '\x7d'

theorem endsValue_nil : EndsValue [] := by
  intro c t h
  cases h

theorem EndsValue.blank_append {gap r : List Char} (hgap : Blank gap) (hr : EndsValue r) : EndsValue (gap ++ r) := by
  cases gap with
  | nil => exact hr
  | cons a gap =>
    intro c t h
    cases h
    exact Or.inl (isSpace_iff.mpr (hgap a (by simp)))

theorem endsValue_cons {c : Char} (r : List Char) (h : c = ',' ∨ c = ']' ∨ c = '\x7d') : EndsValue (c :: r) := by
  intro c' t hc
  cases hc
  exact Or.inr h

theorem EndsValue.endsNumber {r : List Char} (h : EndsValue r) : EndsNumber r := by
  intro c t hct
  rcases h c t hct with space | rfl | rfl | rfl
  · rcases isSpace_iff.mp space with rfl | rfl | rfl | rfl <;> simp [IsExponentMark]
  · simp [IsExponentMark]
  · simp [IsExponentMark]
  · simp [IsExponentMark]

/-! ### Denoting -/

/-- A text of a value within some depth, all of whose numbers are finite. -/
def Denotes (depth : Nat) (t : List Char) (v : Json) : Prop :=
  ∃ w, Spells t w ∧ w.depth ≤ depth ∧ w.IsFinite ∧ w.value = v

/-- The same with white space around it. -/
def DenotesPadded (depth : Nat) (t : List Char) (v : Json) : Prop :=
  ∃ w, Padded t w ∧ w.depth ≤ depth ∧ w.IsFinite ∧ w.value = v

/-- A text of items. -/
def DenotesItems (depth : Nat) (t : List Char) (vs : List Json) : Prop :=
  ∃ ws, SpellsItems t ws ∧ Written.itemsDepth ws ≤ depth ∧ (∀ l ∈ Written.itemLiterals ws, l.IsFinite) ∧
    Written.itemValues ws = vs

/-- A text of members. -/
def DenotesMembers (depth : Nat) (t : List Char) (pairs : List (String × Json)) : Prop :=
  ∃ ws, SpellsMembers t ws ∧ Written.membersDepth ws ≤ depth ∧ (∀ l ∈ Written.memberLiterals ws, l.IsFinite) ∧
    Written.memberValues ws = pairs

theorem Denotes.padded {depth : Nat} {before t after : List Char} {v : Json} (hbefore : Blank before)
    (h : Denotes depth t v) (hafter : Blank after) : DenotesPadded depth (before ++ (t ++ after)) v := by
  obtain ⟨w, spelled, deep, finite, rfl⟩ := h
  exact ⟨w, .around hbefore spelled hafter, deep, finite, rfl⟩

theorem DenotesPadded.last {depth : Nat} {t : List Char} {v : Json} (h : DenotesPadded depth t v) :
    DenotesItems depth t [v] := by
  obtain ⟨w, padded, deep, finite, rfl⟩ := h
  refine ⟨[w], .last padded, ?_, ?_, rfl⟩
  · simpa [Written.itemsDepth] using deep
  · simpa [Written.itemLiterals, Written.IsFinite] using finite

theorem DenotesPadded.more {depth : Nat} {s t : List Char} {v : Json} {vs : List Json} (h : DenotesPadded depth s v)
    (ht : DenotesItems depth t vs) : DenotesItems depth (s ++ ',' :: t) (v :: vs) := by
  obtain ⟨w, padded, deep, finite, rfl⟩ := h
  obtain ⟨ws, spelled, itemsDeep, itemsFinite, rfl⟩ := ht
  cases ws with
  | nil => cases spelled
  | cons next ws =>
    refine ⟨w :: next :: ws, .more padded spelled, ?_, ?_, rfl⟩
    · rw [Written.itemsDepth]
      exact Nat.max_le.mpr ⟨deep, itemsDeep⟩
    · rw [Written.itemLiterals]
      intro l hl
      rcases List.mem_append.mp hl with hl | hl
      · exact finite l hl
      · exact itemsFinite l hl

/-- A text of one member. -/
def DenotesMember (depth : Nat) (t : List Char) (name : String) (v : Json) : Prop :=
  ∃ w, SpellsMember t (name, w) ∧ w.depth ≤ depth ∧ w.IsFinite ∧ w.value = v

theorem DenotesPadded.member {depth : Nat} {before s gap t : List Char} {name : String} {v : Json}
    (hbefore : Blank before) (hname : Quotes s name) (hgap : Blank gap) (h : DenotesPadded depth t v) :
    DenotesMember depth (before ++ (s ++ (gap ++ ':' :: t))) name v := by
  obtain ⟨w, padded, deep, finite, rfl⟩ := h
  exact ⟨w, .pair hbefore hname hgap padded, deep, finite, rfl⟩

theorem DenotesMember.last {depth : Nat} {t : List Char} {name : String} {v : Json} (h : DenotesMember depth t name v) :
    DenotesMembers depth t [(name, v)] := by
  obtain ⟨w, spelled, deep, finite, rfl⟩ := h
  refine ⟨[(name, w)], .last spelled, ?_, ?_, rfl⟩
  · simpa [Written.membersDepth] using deep
  · simpa [Written.memberLiterals, Written.IsFinite] using finite

theorem DenotesMember.more {depth : Nat} {s t : List Char} {name : String} {v : Json} {pairs : List (String × Json)}
    (h : DenotesMember depth s name v) (ht : DenotesMembers depth t pairs) :
    DenotesMembers depth (s ++ ',' :: t) ((name, v) :: pairs) := by
  obtain ⟨w, member, deep, finite, rfl⟩ := h
  obtain ⟨ws, spelled, membersDeep, membersFinite, rfl⟩ := ht
  cases ws with
  | nil => cases spelled
  | cons next ws =>
    refine ⟨(name, w) :: next :: ws, .more member spelled, ?_, ?_, rfl⟩
    · rw [Written.membersDepth]
      exact Nat.max_le.mpr ⟨deep, membersDeep⟩
    · rw [Written.memberLiterals]
      intro l hl
      rcases List.mem_append.mp hl with hl | hl
      · exact finite l hl
      · exact membersFinite l hl

/-! ### Equations for a level -/

section Level

variable {rounds : Nat} {inner : Option (Reader Json)} {item : Reader Json} {s k : List Char}

/-- A level begins behind the white space. -/
theorem readLevel_skipSpace (s : List Char) : readLevel rounds inner s = readLevel rounds inner (skipSpace s) := by
  rw [readLevel, readLevel, skipSpace_skipSpace]

theorem readLevel_emptyArray (h : skipSpace s = ']' :: k) :
    readLevel rounds (some item) ('[' :: s) = some (.array [], k) := by
  simp only [readLevel, skipSpace_cons (by decide : isSpace '[' = false), h]

theorem readLevel_array (h : ∀ k, skipSpace s ≠ ']' :: k) :
    readLevel rounds (some item) ('[' :: s) = readItems item rounds [] (skipSpace s) := by
  simp only [readLevel, skipSpace_cons (by decide : isSpace '[' = false)]

theorem readLevel_emptyObject (h : skipSpace s = '\x7d' :: k) :
    readLevel rounds (some item) ('\x7b' :: s) = some (.object [], k) := by
  simp only [readLevel, skipSpace_cons (by decide : isSpace '\x7b' = false), h]

theorem readLevel_object (h : ∀ k, skipSpace s ≠ '\x7d' :: k) :
    readLevel rounds (some item) ('\x7b' :: s) = readMembers item rounds [] (skipSpace s) := by
  simp only [readLevel, skipSpace_cons (by decide : isSpace '\x7b' = false)]

/-- What starts like a number is read as one. -/
theorem readLevel_number {c : Char} (hc : c = '-' ∨ c.isDigit = true) :
    readLevel rounds inner (c :: s) = (readNumber (c :: s)).map fun (n, r) => (.number n, r) := by
  have other : ∀ d : Char, d ≠ '-' → d.isDigit = false → c ≠ d := by
    rintro d notMinus notDigit rfl
    rcases hc with minus | digit
    · exact notMinus minus
    · rw [notDigit] at digit
      cases digit
  have notSpace : isSpace c = false := by
    rw [Bool.eq_false_iff, ne_eq, isSpace_iff]
    rintro (h | h | h | h)
    · exact other ' ' (by decide) (by decide) h
    · exact other '\t' (by decide) (by decide) h
    · exact other '\n' (by decide) (by decide) h
    · exact other '\r' (by decide) (by decide) h
  rw [readLevel, skipSpace_cons notSpace]
  split
  · rename_i h
    exact absurd (List.cons.inj h).1 (other 'n' (by decide) (by decide))
  · rename_i h
    exact absurd (List.cons.inj h).1 (other 't' (by decide) (by decide))
  · rename_i h
    exact absurd (List.cons.inj h).1 (other 'f' (by decide) (by decide))
  · rename_i h
    exact absurd (List.cons.inj h).1 (other '"' (by decide) (by decide))
  · rename_i h
    exact absurd (List.cons.inj h).1 (other '[' (by decide) (by decide))
  · rename_i h
    exact absurd (List.cons.inj h).1 (other '\x7b' (by decide) (by decide))
  · rfl

end Level

/-! ### What was read is in the grammar -/

/-- What a reader gives is what the text it takes off denotes. -/
def IsSound (depth : Nat) (reader : Reader Json) : Prop :=
  ∀ s v r, reader s = some (v, r) → ∃ before t, s = before ++ (t ++ r) ∧ Blank before ∧ Denotes depth t v

theorem readItems_sound {depth : Nat} {item : Reader Json} (hitem : IsSound depth item) {rounds : Nat}
    {acc : List Json} {s r : List Char} {v : Json} (h : readItems item rounds acc s = some (v, r)) :
    ∃ t vs, s = t ++ ']' :: r ∧ DenotesItems depth t vs ∧ v = .array (acc.reverse ++ vs) := by
  induction rounds generalizing acc s with
  | zero => cases h
  | succ rounds ih =>
    rw [readItems] at h
    split at h
    · cases h
    · rename_i first r₁ hfirst
      obtain ⟨before, t, rfl, hbefore, denoted⟩ := hitem _ _ _ hfirst
      obtain ⟨gap, hgap, hr₁⟩ := exists_blank_skipSpace r₁
      have padded := denoted.padded hbefore hgap
      split at h
      · rename_i r₂ hr₂
        obtain ⟨u, vs, rfl, rest, rfl⟩ := ih h
        refine ⟨_, first :: vs, ?_, padded.more rest, ?_⟩
        · rw [hr₁, hr₂]
          simp only [List.append_assoc, List.cons_append]
        · rw [List.reverse_cons, List.append_assoc]
          rfl
      · rename_i r₂ hr₂
        cases h
        refine ⟨_, [first], ?_, padded.last, by rw [List.reverse_cons]⟩
        rw [hr₁, hr₂]
        simp only [List.append_assoc]
      · cases h

theorem readMembers_sound {depth : Nat} {item : Reader Json} (hitem : IsSound depth item) {rounds : Nat}
    {acc : Members Json} {s r : List Char} {v : Json} (h : readMembers item rounds acc s = some (v, r)) :
    ∃ t pairs, s = t ++ '\x7d' :: r ∧ DenotesMembers depth t pairs ∧
      v = .object (pairs.foldl (fun members pair => Members.insert pair.1 pair.2 members) acc) := by
  induction rounds generalizing acc s with
  | zero => cases h
  | succ rounds ih =>
    obtain ⟨before, hbefore, hs⟩ := exists_blank_skipSpace s
    rw [readMembers] at h
    split at h
    · rename_i r₁ hr₁
      split at h
      · cases h
      · rename_i name r₂ hname
        obtain ⟨q, hq, quotes⟩ := exists_quotes_of_readText hname
        obtain ⟨gap, hgap, hr₂⟩ := exists_blank_skipSpace r₂
        split at h
        · rename_i r₃ hr₃
          split at h
          · cases h
          · rename_i value r₄ hvalue
            obtain ⟨lead, t, rfl, hlead, denoted⟩ := hitem _ _ _ hvalue
            obtain ⟨trail, htrail, hr₄⟩ := exists_blank_skipSpace r₄
            have member := (denoted.padded hlead htrail).member hbefore quotes hgap
            split at h
            · -- a comma: the members after it are read in the rounds that are left
              rename_i r₅ hr₅
              obtain ⟨u, pairs, rfl, rest, rfl⟩ := ih h
              refine ⟨_, (String.ofList name, value) :: pairs, ?_, member.more rest, rfl⟩
              rw [hs, hr₁, hq, hr₂, hr₃, hr₄, hr₅]
              simp only [List.append_assoc, List.cons_append]
            · rename_i r₅ hr₅
              cases h
              refine ⟨_, [(String.ofList name, value)], ?_, member.last, rfl⟩
              rw [hs, hr₁, hq, hr₂, hr₃, hr₄, hr₅]
              simp only [List.append_assoc, List.cons_append]
            · cases h
        · cases h
    · cases h

theorem DenotesItems.array {depth : Nat} {gap t : List Char} {vs : List Json} (hgap : Blank gap)
    (h : DenotesItems depth t vs) : Denotes (depth + 1) ('[' :: (gap ++ t ++ [']'])) (.array vs) := by
  obtain ⟨ws, spelled, deep, finite, rfl⟩ := h
  cases ws with
  | nil => cases spelled
  | cons w ws =>
    refine ⟨.array (w :: ws), .array (spelled.blank_append hgap), ?_, finite, rfl⟩
    rw [Written.depth]
    exact Nat.succ_le_succ deep

theorem DenotesMembers.object {depth : Nat} {gap t : List Char} {pairs : List (String × Json)} (hgap : Blank gap)
    (h : DenotesMembers depth t pairs) : Denotes (depth + 1) ('\x7b' :: (gap ++ t ++ ['\x7d'])) (.ofPairs pairs) := by
  obtain ⟨ws, spelled, deep, finite, rfl⟩ := h
  cases ws with
  | nil => cases spelled
  | cons w ws =>
    refine ⟨.object (w :: ws), .object (spelled.blank_append hgap), ?_, finite, rfl⟩
    rw [Written.depth]
    exact Nat.succ_le_succ deep

/-- A value without numbers has nothing that could be out of range. -/
theorem denotes_plain {depth : Nat} {t : List Char} {w : Written} (h : Spells t w) (deep : w.depth ≤ depth)
    (plain : w.literals = []) : Denotes depth t w.value := by
  refine ⟨w, h, deep, ?_, rfl⟩
  intro l hl
  rw [plain] at hl
  cases hl

theorem readLevel_sound_array {depth rounds : Nat} {item : Reader Json} (hitem : IsSound depth item) {s r : List Char}
    {v : Json} (h : readLevel rounds (some item) ('[' :: s) = some (v, r)) :
    ∃ t, '[' :: s = t ++ r ∧ Denotes (depth + 1) t v := by
  obtain ⟨gap, hgap, hs⟩ := exists_blank_skipSpace s
  by_cases empty : ∃ k, skipSpace s = ']' :: k
  · obtain ⟨k, hk⟩ := empty
    rw [readLevel_emptyArray hk] at h
    cases h
    refine ⟨'[' :: (gap ++ [']']), ?_, denotes_plain (.emptyArray hgap) (Nat.succ_le_succ (Nat.zero_le _)) rfl⟩
    rw [hs, hk]
    simp only [List.append_assoc, List.cons_append, List.nil_append]
  · rw [readLevel_array (not_exists.mp empty)] at h
    obtain ⟨t, vs, ht, items, rfl⟩ := readItems_sound hitem h
    refine ⟨_, ?_, items.array hgap⟩
    rw [hs, ht]
    simp only [List.append_assoc, List.cons_append, List.nil_append]

theorem readLevel_sound_object {depth rounds : Nat} {item : Reader Json} (hitem : IsSound depth item) {s r : List Char}
    {v : Json} (h : readLevel rounds (some item) ('\x7b' :: s) = some (v, r)) :
    ∃ t, '\x7b' :: s = t ++ r ∧ Denotes (depth + 1) t v := by
  obtain ⟨gap, hgap, hs⟩ := exists_blank_skipSpace s
  by_cases empty : ∃ k, skipSpace s = '\x7d' :: k
  · obtain ⟨k, hk⟩ := empty
    rw [readLevel_emptyObject hk] at h
    cases h
    refine ⟨'\x7b' :: (gap ++ ['\x7d']), ?_, denotes_plain (.emptyObject hgap) (Nat.succ_le_succ (Nat.zero_le _)) rfl⟩
    rw [hs, hk]
    simp only [List.append_assoc, List.cons_append, List.nil_append]
  · rw [readLevel_object (not_exists.mp empty)] at h
    obtain ⟨t, pairs, ht, members, rfl⟩ := readMembers_sound hitem h
    refine ⟨_, ?_, members.object hgap⟩
    rw [hs, ht]
    simp only [List.append_assoc, List.cons_append, List.nil_append]

/-- One level is sound if the level inside it is. -/
theorem readLevel_sound {depth rounds : Nat} {inner : Option (Reader Json)}
    (hinner : ∀ item, inner = some item → ∃ d, depth = d + 1 ∧ IsSound d item) :
    IsSound depth (readLevel rounds inner) := by
  intro s v r h
  obtain ⟨before, hbefore, hs⟩ := exists_blank_skipSpace s
  have bare := h
  rw [readLevel_skipSpace] at bare
  -- the text behind the white space is taken off as a whole
  suffices taken : ∃ t, skipSpace s = t ++ r ∧ Denotes depth t v by
    obtain ⟨t, ht, denoted⟩ := taken
    exact ⟨before, t, by rw [← ht, ← hs], hbefore, denoted⟩
  rw [readLevel] at h
  split at h
  · rename_i hk
    cases h
    exact ⟨_, hk, denotes_plain .null (Nat.zero_le _) rfl⟩
  · rename_i hk
    cases h
    exact ⟨_, hk, denotes_plain .yes (Nat.zero_le _) rfl⟩
  · rename_i hk
    cases h
    exact ⟨_, hk, denotes_plain .no (Nat.zero_le _) rfl⟩
  · rename_i hk
    obtain ⟨⟨text, k⟩, htext, same⟩ := Option.map_eq_some_iff.mp h
    cases same
    obtain ⟨t, ht, quotes⟩ := exists_quotes_of_readText htext
    exact ⟨t, by rw [hk, ht], denotes_plain (.string quotes) (Nat.zero_le _) rfl⟩
  · rename_i hk
    cases inner with
    | none => cases h
    | some item =>
      obtain ⟨d, rfl, hitem⟩ := hinner item rfl
      rw [hk] at bare ⊢
      exact readLevel_sound_array hitem bare
  · rename_i hk
    cases inner with
    | none => cases h
    | some item =>
      obtain ⟨d, rfl, hitem⟩ := hinner item rfl
      rw [hk] at bare ⊢
      exact readLevel_sound_object hitem bare
  · obtain ⟨⟨n, k⟩, hn, same⟩ := Option.map_eq_some_iff.mp h
    cases same
    obtain ⟨t, l, ht, spelled, finite, rfl⟩ := readNumber_sound hn
    refine ⟨t, ht, .number l, .number spelled, Nat.zero_le _, ?_, rfl⟩
    simpa [Written.IsFinite, Written.literals] using finite

theorem readValue_sound (rounds depth : Nat) : IsSound depth (readValue rounds depth) := by
  induction depth with
  | zero =>
    apply readLevel_sound
    intro item h
    cases h
  | succ depth ih =>
    apply readLevel_sound
    intro item h
    cases h
    exact ⟨depth, rfl, ih⟩

/-! ### What is in the grammar is read -/

/-- A reader takes off every text of some depth and length, whatever white space stands before it. -/
def IsComplete (depth rounds : Nat) (reader : Reader Json) : Prop :=
  ∀ before t w r, Blank before → Spells t w → w.depth ≤ depth → w.IsFinite → t.length ≤ rounds → EndsValue r →
    reader (before ++ (t ++ r)) = some (w.value, r)

theorem SpellsItems.length_le {t : List Char} {ws : List Written} (h : SpellsItems t ws) : ws.length ≤ t.length := by
  induction ws generalizing t with
  | nil => exact Nat.zero_le _
  | cons w ws ih =>
    cases h with
    | last padded =>
      cases padded with
      | around _ spelled _ =>
        obtain ⟨c, u, rfl, -⟩ := spelled.head
        simp only [List.length_append, List.length_cons, List.length_nil]
        omega
    | more padded rest =>
      have := ih rest
      simp only [List.length_append, List.length_cons] at this ⊢
      omega

theorem SpellsMembers.length_le {t : List Char} {ws : List (String × Written)} (h : SpellsMembers t ws) :
    ws.length ≤ t.length := by
  induction ws generalizing t with
  | nil => exact Nat.zero_le _
  | cons w ws ih =>
    cases h with
    | last member =>
      cases member with
      | pair _ _ _ _ =>
        simp only [List.length_append, List.length_cons, List.length_nil]
        omega
    | more member rest =>
      have := ih rest
      simp only [List.length_append, List.length_cons] at this ⊢
      omega

theorem readItems_append {depth limit : Nat} {item : Reader Json} (hitem : IsComplete depth limit item)
    (rounds : Nat) (acc : List Json) {ws : List Written} {t r : List Char} (h : SpellsItems t ws)
    (deep : Written.itemsDepth ws ≤ depth) (finite : ∀ l ∈ Written.itemLiterals ws, l.IsFinite)
    (short : t.length ≤ limit) (enough : ws.length ≤ rounds) :
    readItems item rounds acc (t ++ ']' :: r) = some (.array (acc.reverse ++ Written.itemValues ws), r) := by
  induction ws generalizing t rounds acc with
  | nil => cases h
  | cons w ws ih =>
    obtain ⟨rounds, rfl⟩ := Nat.exists_eq_add_of_le' (Nat.le_trans (Nat.le_add_left 1 ws.length) enough)
    rw [Written.itemsDepth, Nat.max_le] at deep
    rw [Written.itemLiterals] at finite
    have wFinite : w.IsFinite := fun l hl => finite l (List.mem_append_left _ hl)
    have wsFinite : ∀ l ∈ Written.itemLiterals ws, l.IsFinite := fun l hl => finite l (List.mem_append_right _ hl)
    cases h with
    | last padded =>
      cases padded with
      | @around before u after _ hbefore spelled hafter =>
        simp only [List.length_append] at short
        have taken := hitem before u w (after ++ ']' :: r) hbefore spelled deep.1 wFinite (by omega)
          ((endsValue_cons r (by simp)).blank_append hafter)
        simp only [List.append_assoc, readItems, taken, skipSpace_blank hafter (by decide : isSpace ']' = false)]
        rw [List.reverse_cons]
        rfl
    | @more _ u _ next ws padded rest =>
      cases padded with
      | @around before u' after _ hbefore spelled hafter =>
        simp only [List.length_append, List.length_cons] at short
        have taken := hitem before u' w (after ++ ',' :: (u ++ ']' :: r)) hbefore spelled deep.1 wFinite (by omega)
          ((endsValue_cons _ (by simp)).blank_append hafter)
        have others := ih rounds (w.value :: acc) rest deep.2 wsFinite (by omega)
          (by simpa using enough)
        simp only [List.append_assoc, List.cons_append, readItems, taken,
          skipSpace_blank hafter (by decide : isSpace ',' = false), others]
        rw [List.reverse_cons, List.append_assoc]
        rfl

/-- A member is taken off with what follows it: a closing brace ends the object, a comma goes on with the next member. -/
theorem readMembers_member {depth limit : Nat} {item : Reader Json} (hitem : IsComplete depth limit item)
    (rounds : Nat) (acc : Members Json) {m : List Char} {name : String} {w : Written} (h : SpellsMember m (name, w))
    (deep : w.depth ≤ depth) (finite : w.IsFinite) (short : m.length ≤ limit) (r : List Char) :
    readMembers item (rounds + 1) acc (m ++ '\x7d' :: r) = some (.object (Members.insert name w.value acc), r) ∧
      readMembers item (rounds + 1) acc (m ++ ',' :: r) =
        readMembers item rounds (Members.insert name w.value acc) r := by
  cases h with
  | @pair before q gap _ _ _ hbefore hname hgap padded =>
    cases padded with
    | @around lead u after _ hlead spelled hafter =>
      obtain ⟨q, rfl, hread⟩ := hname.readText
      simp only [List.length_append, List.length_cons] at short
      have hvalue : ∀ k, EndsValue k → item (lead ++ (u ++ (after ++ k))) = some (w.value, after ++ k) :=
        fun k ends => hitem lead u w (after ++ k) hlead spelled deep finite (by omega) (ends.blank_append hafter)
      constructor
      · have hlast := hvalue ('\x7d' :: r) (endsValue_cons r (by simp))
        simp only [List.append_assoc, List.cons_append, readMembers,
          skipSpace_blank hbefore (by decide : isSpace '"' = false), hread,
          skipSpace_blank hgap (by decide : isSpace ':' = false), hlast,
          skipSpace_blank hafter (by decide : isSpace '\x7d' = false), String.ofList_toList]
      · have hmore := hvalue (',' :: r) (endsValue_cons r (by simp))
        simp only [List.append_assoc, List.cons_append, readMembers,
          skipSpace_blank hbefore (by decide : isSpace '"' = false), hread,
          skipSpace_blank hgap (by decide : isSpace ':' = false), hmore,
          skipSpace_blank hafter (by decide : isSpace ',' = false), String.ofList_toList]

theorem readMembers_append {depth limit : Nat} {item : Reader Json} (hitem : IsComplete depth limit item)
    (rounds : Nat) (acc : Members Json) {ws : List (String × Written)} {t r : List Char} (h : SpellsMembers t ws)
    (deep : Written.membersDepth ws ≤ depth) (finite : ∀ l ∈ Written.memberLiterals ws, l.IsFinite)
    (short : t.length ≤ limit) (enough : ws.length ≤ rounds) :
    readMembers item rounds acc (t ++ '\x7d' :: r) =
      some (.object ((Written.memberValues ws).foldl
        (fun members pair => Members.insert pair.1 pair.2 members) acc), r) := by
  induction ws generalizing t rounds acc with
  | nil => cases h
  | cons w ws ih =>
    obtain ⟨rounds, rfl⟩ := Nat.exists_eq_add_of_le' (Nat.le_trans (Nat.le_add_left 1 ws.length) enough)
    obtain ⟨name, w⟩ := w
    rw [Written.membersDepth, Nat.max_le] at deep
    rw [Written.memberLiterals] at finite
    have wFinite : w.IsFinite := fun l hl => finite l (List.mem_append_left _ hl)
    have wsFinite : ∀ l ∈ Written.memberLiterals ws, l.IsFinite := fun l hl => finite l (List.mem_append_right _ hl)
    cases h with
    | last member => exact (readMembers_member hitem rounds acc member deep.1 wFinite short r).1
    | @more m u _ next ws member rest =>
      simp only [List.length_append, List.length_cons] at short
      have step := (readMembers_member hitem rounds acc member deep.1 wFinite (by omega) (u ++ '\x7d' :: r)).2
      have others := ih rounds (Members.insert name w.value acc) rest deep.2 wsFinite (by omega) (by simpa using enough)
      rw [List.append_assoc, List.cons_append, step]
      exact others

/-- Items are items behind the white space before them, and do not start with a closing bracket. -/
theorem SpellsItems.strip {s : List Char} {ws : List Written} (h : SpellsItems s ws) :
    ∃ gap c u, Blank gap ∧ s = gap ++ c :: u ∧ SpellsItems (c :: u) ws ∧ isSpace c = false ∧ c ≠ ']' := by
  have padded : ∀ {s : List Char} {w : Written}, Padded s w →
      ∃ gap c u, Blank gap ∧ s = gap ++ c :: u ∧ Padded (c :: u) w ∧ isSpace c = false ∧ c ≠ ']' := by
    rintro s w ⟨hbefore, spelled, hafter⟩
    obtain ⟨c, u, rfl, notSpace, notBracket, -⟩ := spelled.head
    exact ⟨_, c, _, hbefore, rfl, .around blank_nil spelled hafter, notSpace, notBracket⟩
  cases h with
  | last hs =>
    obtain ⟨gap, c, u, hgap, rfl, hpadded, first⟩ := padded hs
    exact ⟨gap, c, u, hgap, rfl, .last hpadded, first⟩
  | more hs rest =>
    obtain ⟨gap, c, u, hgap, rfl, hpadded, first⟩ := padded hs
    exact ⟨gap, c, _, hgap, List.append_assoc gap (c :: u) _, .more hpadded rest, first⟩

/-- Members are members behind the white space before them, and start with a quotation mark. -/
theorem SpellsMembers.strip {s : List Char} {ws : List (String × Written)} (h : SpellsMembers s ws) :
    ∃ gap u, Blank gap ∧ s = gap ++ '"' :: u ∧ SpellsMembers ('"' :: u) ws := by
  have single : ∀ {s : List Char} {member : String × Written}, SpellsMember s member →
      ∃ gap u, Blank gap ∧ s = gap ++ '"' :: u ∧ SpellsMember ('"' :: u) member := by
    rintro s member ⟨hbefore, ⟨chars⟩, hgap, hvalue⟩
    exact ⟨_, _, hbefore, rfl, .pair blank_nil (.marks chars) hgap hvalue⟩
  cases h with
  | last hs =>
    obtain ⟨gap, u, hgap, rfl, member⟩ := single hs
    exact ⟨gap, u, hgap, rfl, .last member⟩
  | more hs rest =>
    obtain ⟨gap, u, hgap, rfl, member⟩ := single hs
    exact ⟨gap, _, hgap, List.append_assoc gap ('"' :: u) _, .more member rest⟩

theorem readLevel_complete_array {depth rounds : Nat} {item : Reader Json} (hitem : IsComplete depth rounds item)
    {s : List Char} {ws : List Written} (h : SpellsItems s ws) (deep : Written.itemsDepth ws ≤ depth)
    (finite : ∀ l ∈ Written.itemLiterals ws, l.IsFinite) (short : s.length ≤ rounds) (r : List Char) :
    readLevel rounds (some item) ('[' :: (s ++ ']' :: r)) = some (.array (Written.itemValues ws), r) := by
  obtain ⟨gap, c, u, hgap, rfl, stripped, notSpace, notBracket⟩ := h.strip
  rw [List.length_append] at short
  have skipped : skipSpace (gap ++ c :: u ++ ']' :: r) = c :: u ++ ']' :: r := by
    rw [List.append_assoc, List.cons_append]
    exact skipSpace_blank hgap notSpace _
  have notEmpty : ∀ k, skipSpace (gap ++ c :: u ++ ']' :: r) ≠ ']' :: k := by
    intro k hk
    rw [skipped, List.cons_append] at hk
    exact notBracket (List.cons.inj hk).1
  have enough : ws.length ≤ rounds := Nat.le_trans stripped.length_le (by omega)
  rw [readLevel_array notEmpty, skipped, readItems_append hitem rounds [] stripped deep finite (by omega) enough]
  rfl

theorem readLevel_complete_object {depth rounds : Nat} {item : Reader Json} (hitem : IsComplete depth rounds item)
    {s : List Char} {ws : List (String × Written)} (h : SpellsMembers s ws) (deep : Written.membersDepth ws ≤ depth)
    (finite : ∀ l ∈ Written.memberLiterals ws, l.IsFinite) (short : s.length ≤ rounds) (r : List Char) :
    readLevel rounds (some item) ('\x7b' :: (s ++ '\x7d' :: r)) = some (.ofPairs (Written.memberValues ws), r) := by
  obtain ⟨gap, u, hgap, rfl, stripped⟩ := h.strip
  rw [List.length_append] at short
  have skipped : skipSpace (gap ++ '"' :: u ++ '\x7d' :: r) = '"' :: u ++ '\x7d' :: r := by
    rw [List.append_assoc, List.cons_append]
    exact skipSpace_blank hgap (by decide) _
  have notEmpty : ∀ k, skipSpace (gap ++ '"' :: u ++ '\x7d' :: r) ≠ '\x7d' :: k := by
    intro k hk
    rw [skipped] at hk
    cases hk
  have enough : ws.length ≤ rounds := Nat.le_trans stripped.length_le (by omega)
  rw [readLevel_object notEmpty, skipped, readMembers_append hitem rounds [] stripped deep finite (by omega) enough]
  rfl

/-- One level is complete if the level inside it is. -/
theorem readLevel_complete {depth rounds : Nat} {inner : Option (Reader Json)}
    (hinner : ∀ d, depth = d + 1 → ∃ item, inner = some item ∧ IsComplete d rounds item) :
    IsComplete depth rounds (readLevel rounds inner) := by
  intro before t w r hbefore spelled deep finite short ends
  obtain ⟨c, u, hhead, notSpace, -, -⟩ := spelled.head
  -- the blank characters in front are passed over before the first character is looked at
  have start : readLevel rounds inner (before ++ (t ++ r)) = readLevel rounds inner (t ++ r) := by
    rw [hhead, List.cons_append, readLevel_skipSpace, skipSpace_blank hbefore notSpace]
  rw [start]
  cases spelled with
  | null => rfl
  | yes => rfl
  | no => rfl
  | number hl =>
    obtain ⟨c, u, rfl, first⟩ := hl.head
    have hfinite := finite _ (List.mem_singleton.mpr rfl)
    rw [List.cons_append, readLevel_number first, ← List.cons_append, readNumber_append hl hfinite ends.endsNumber]
    rfl
  | string hs =>
    obtain ⟨q, rfl, hread⟩ := hs.readText
    simp only [List.cons_append, readLevel, skipSpace_cons (by decide : isSpace '"' = false), hread, Option.map_some,
      String.ofList_toList]
    rfl
  | @emptyArray gap hgap =>
    obtain ⟨item, rfl, -⟩ := hinner (depth - 1) (by simp only [Written.depth] at deep; omega)
    rw [List.cons_append, List.append_assoc]
    exact readLevel_emptyArray (skipSpace_blank hgap (by decide) r)
  | @emptyObject gap hgap =>
    obtain ⟨item, rfl, -⟩ := hinner (depth - 1) (by simp only [Written.depth] at deep; omega)
    rw [List.cons_append, List.append_assoc]
    exact readLevel_emptyObject (skipSpace_blank hgap (by decide) r)
  | @array s w ws items =>
    rw [Written.depth] at deep
    rw [List.length_cons, List.length_append] at short
    obtain ⟨item, rfl, hitem⟩ := hinner (depth - 1) (by omega)
    rw [List.cons_append, List.append_assoc]
    exact readLevel_complete_array hitem items (by omega) finite (by omega) r
  | @object s w ws members =>
    rw [Written.depth] at deep
    rw [List.length_cons, List.length_append] at short
    obtain ⟨item, rfl, hitem⟩ := hinner (depth - 1) (by omega)
    rw [List.cons_append, List.append_assoc]
    exact readLevel_complete_object hitem members (by omega) finite (by omega) r

theorem readValue_complete (rounds depth : Nat) : IsComplete depth rounds (readValue rounds depth) := by
  induction depth with
  | zero =>
    apply readLevel_complete
    intro d hd
    cases hd
  | succ depth ih =>
    apply readLevel_complete
    intro d hd
    cases hd
    exact ⟨readValue rounds depth, rfl, ih⟩

/-! ### Whole texts -/

theorem read_eq_some_iff {s : List Char} {v : Json} :
    read s = some v ↔ ∃ w, Padded s w ∧ w.depth ≤ depthLimit ∧ w.IsFinite ∧ w.value = v := by
  constructor
  · intro h
    rw [read] at h
    split at h
    · rename_i v' r hread
      split at h
      · rename_i blank
        cases h
        obtain ⟨before, t, rfl, hbefore, w, spelled, deep, finite, rfl⟩ := readValue_sound _ _ _ _ _ hread
        exact ⟨w, .around hbefore spelled (skipSpace_eq_nil.mp blank), deep, finite, rfl⟩
      · cases h
    · cases h
  · rintro ⟨w, padded, deep, finite, rfl⟩
    cases padded with
    | @around before t after _ hbefore spelled hafter =>
      have ends : EndsValue after := by
        have := endsValue_nil.blank_append hafter
        rwa [List.append_nil] at this
      have taken := readValue_complete (before ++ (t ++ after)).length depthLimit before t w after hbefore spelled deep
        finite (by simp only [List.length_append]; omega) ends
      rw [read, taken]
      simp only [skipSpace_eq_nil.mpr hafter, if_true]

/-- The reader accepts exactly the texts of the grammar, and gives the value that is denoted. -/
theorem parse_eq_some_iff {octets : List UInt8} {v : Json} :
    parse octets = some v ↔ ∃ w, IsTextOf octets w ∧ w.value = v := by
  simp only [parse, Option.bind_eq_some_iff, Text.Utf8.decode_eq_some_iff, read_eq_some_iff]
  constructor
  · rintro ⟨s, hs, w, padded, deep, finite, rfl⟩
    exact ⟨w, ⟨⟨s, hs, padded⟩, deep, finite⟩, rfl⟩
  · rintro ⟨w, ⟨⟨s, hs, padded⟩, deep, finite⟩, rfl⟩
    exact ⟨s, hs, w, padded, deep, finite, rfl⟩

end AdmissionGate.Json
