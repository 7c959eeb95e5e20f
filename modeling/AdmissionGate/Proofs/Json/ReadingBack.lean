import AdmissionGate.Json.Writer
import AdmissionGate.Proofs.Json.NumberWriting
import AdmissionGate.Proofs.Json.SameValue
import AdmissionGate.Proofs.Json.ValueReading

/-!
# Reading back what has been written

A value is written as a text that the reader takes back to it.  Two things are asked of the value: that its numbers are whole
and fit a word of 64 bits, and that it nests no deeper than the reader goes.  What comes back has the members of each object
in order, the last of each name.
-/

namespace AdmissionGate.Json

/-! ### What is asked of a value -/

mutual

/-- Whether every number is whole and fits a word of 64 bits. -/
def HasWords : Json → Prop
  | null | bool _ | string _ => True
  | number (.whole n) => IsWord n
  | number (.real _) => False
  | array items => ItemsHaveWords items
  | object members => MembersHaveWords members

def ItemsHaveWords : List Json → Prop
  | [] => True
  | v :: items => v.HasWords ∧ ItemsHaveWords items

def MembersHaveWords : List (String × Json) → Prop
  | [] => True
  | (_, v) :: members => v.HasWords ∧ MembersHaveWords members

end

theorem itemsHaveWords_iff {items : List Json} : ItemsHaveWords items ↔ ∀ v ∈ items, v.HasWords := by
  induction items with
  | nil => simp [ItemsHaveWords]
  | cons v items ih => rw [ItemsHaveWords, ih, List.forall_mem_cons]

theorem membersHaveWords_iff {members : List (String × Json)} :
    MembersHaveWords members ↔ ∀ member ∈ members, member.2.HasWords := by
  induction members with
  | nil => simp [MembersHaveWords]
  | cons member members ih =>
    obtain ⟨name, v⟩ := member
    rw [MembersHaveWords, ih, List.forall_mem_cons]

mutual

/-- How many arrays and objects are nested in each other. -/
def depth : Json → Nat
  | null | bool _ | number _ | string _ => 0
  | array items => itemsDepth items + 1
  | object members => membersDepth members + 1

def itemsDepth : List Json → Nat
  | [] => 0
  | v :: items => max v.depth (itemsDepth items)

def membersDepth : List (String × Json) → Nat
  | [] => 0
  | (_, v) :: members => max v.depth (membersDepth members)

end

theorem itemsDepth_le_iff {items : List Json} {n : Nat} : itemsDepth items ≤ n ↔ ∀ v ∈ items, v.depth ≤ n := by
  induction items with
  | nil => simp [itemsDepth]
  | cons v items ih => rw [itemsDepth, Nat.max_le, ih, List.forall_mem_cons]

theorem membersDepth_le_iff {members : List (String × Json)} {n : Nat} :
    membersDepth members ≤ n ↔ ∀ member ∈ members, member.2.depth ≤ n := by
  induction members with
  | nil => simp [membersDepth]
  | cons member members ih =>
    obtain ⟨name, v⟩ := member
    rw [membersDepth, Nat.max_le, ih, List.forall_mem_cons]

/-- Whether a value is read back from what is written of it by a reader that goes so deep. -/
structure Fits (n : Nat) (v : Json) : Prop where
  words : v.HasWords
  shallow : v.depth ≤ n

theorem Fits.mono {n m : Nat} {v : Json} (h : v.Fits n) (le : n ≤ m) : v.Fits m :=
  ⟨h.words, Nat.le_trans h.shallow le⟩

theorem fits_bool (n : Nat) (b : Bool) : (bool b).Fits n :=
  ⟨trivial, Nat.zero_le n⟩

theorem fits_string (n : Nat) (s : String) : (string s).Fits n :=
  ⟨trivial, Nat.zero_le n⟩

theorem fits_ofNat {n m : Nat} (word : m < 0x10000000000000000) : (ofNat m).Fits n :=
  ⟨⟨by omega, by omega⟩, Nat.zero_le n⟩

theorem fits_array {n : Nat} {items : List Json} (h : ∀ v ∈ items, v.Fits n) : (array items).Fits (n + 1) :=
  ⟨itemsHaveWords_iff.mpr fun v hv => (h v hv).words,
    Nat.succ_le_succ (itemsDepth_le_iff.mpr fun v hv => (h v hv).shallow)⟩

theorem fits_object {n : Nat} {members : List (String × Json)} (h : ∀ member ∈ members, member.2.Fits n) :
    (object members).Fits (n + 1) :=
  ⟨membersHaveWords_iff.mpr fun member hmem => (h member hmem).words,
    Nat.succ_le_succ (membersDepth_le_iff.mpr fun member hmem => (h member hmem).shallow)⟩

theorem fits_object_perm {n : Nat} {members others : List (String × Json)} (reordered : members.Perm others)
    (fits : ∀ member ∈ others, member.2.Fits n) : (object members).Fits (n + 1) := by
  apply fits_object
  intro member given
  exact fits member (reordered.mem_iff.mp given)

/-! ### What comes back -/

mutual

/-- A value with the members of each object in order, the last of each name. -/
def sorted : Json → Json
  | null => null
  | bool b => bool b
  | number n => number n
  | string s => string s
  | array items => array (sortedItems items)
  | object members => ofPairs (sortedMembers members)

def sortedItems : List Json → List Json
  | [] => []
  | v :: items => v.sorted :: sortedItems items

def sortedMembers : List (String × Json) → List (String × Json)
  | [] => []
  | (name, v) :: members => (name, v.sorted) :: sortedMembers members

end

theorem sortedMembers_eq_map (members : List (String × Json)) :
    sortedMembers members = members.map fun member => (member.1, member.2.sorted) := by
  induction members with
  | nil => rfl
  | cons member members ih =>
    obtain ⟨name, v⟩ := member
    rw [sortedMembers, ih, List.map_cons]

/-- The order in which members are given leaves no trace; they come back in order. -/
theorem sorted_object_perm {members others : List (String × Json)} (reordered : members.Perm others)
    (ascending : (others.map Prod.fst).Pairwise (· < ·)) : (object members).sorted = .object (sortedMembers others) := by
  have order : Members.Ascending (sortedMembers others) := by
    rw [sortedMembers_eq_map]
    exact List.pairwise_map.mpr (List.pairwise_map.mp ascending)
  have perm : (sortedMembers others).Perm (sortedMembers members) := by
    rw [sortedMembers_eq_map, sortedMembers_eq_map]
    exact reordered.symm.map _
  rw [sorted, ofPairs, ← Members.ofPairs_perm perm (Members.nodup_of_ascending order), Members.ofPairs_of_ascending order]

/-! ### The value as it is written -/

/-- The literal of a whole number; doubles are out of account. -/
def Number.literal : Number → Literal
  | whole n => .ofInt n
  | real _ => .ofInt 0

mutual

def written : Json → Written
  | null => .null
  | bool b => .bool b
  | number n => .number n.literal
  | string s => .string s
  | array items => .array (writtenItems items)
  | object members => .object (writtenMembers members)

def writtenItems : List Json → List Written
  | [] => []
  | v :: items => v.written :: writtenItems items

def writtenMembers : List (String × Json) → List (String × Written)
  | [] => []
  | (name, v) :: members => (name, v.written) :: writtenMembers members

end

mutual

theorem depth_written : (v : Json) → v.written.depth = v.depth
  | null | bool _ | number _ | string _ => rfl
  | array items => by rw [written, Written.depth, depth, itemsDepth_writtenItems items]
  | object members => by rw [written, Written.depth, depth, membersDepth_writtenMembers members]

theorem itemsDepth_writtenItems : (items : List Json) → Written.itemsDepth (writtenItems items) = itemsDepth items
  | [] => rfl
  | v :: items => by
    rw [writtenItems, Written.itemsDepth, itemsDepth, depth_written v, itemsDepth_writtenItems items]

theorem membersDepth_writtenMembers :
    (members : List (String × Json)) → Written.membersDepth (writtenMembers members) = membersDepth members
  | [] => rfl
  | (name, v) :: members => by
    rw [writtenMembers, Written.membersDepth, membersDepth, depth_written v, membersDepth_writtenMembers members]

end

mutual

theorem value_written : (v : Json) → v.HasWords → v.written.value = v.sorted
  | null, _ | bool _, _ | string _, _ => rfl
  | number (.whole n), h => by rw [written, Number.literal, Written.value, number_ofInt h, sorted]
  | number (.real _), h => h.elim
  | array items, h => by rw [written, Written.value, itemValues_writtenItems items h, sorted]
  | object members, h => by rw [written, Written.value, memberValues_writtenMembers members h, sorted]

theorem itemValues_writtenItems :
    (items : List Json) → ItemsHaveWords items → Written.itemValues (writtenItems items) = sortedItems items
  | [], _ => rfl
  | v :: items, ⟨first, rest⟩ => by
    rw [writtenItems, Written.itemValues, sortedItems, value_written v first, itemValues_writtenItems items rest]

theorem memberValues_writtenMembers :
    (members : List (String × Json)) → MembersHaveWords members →
      Written.memberValues (writtenMembers members) = sortedMembers members
  | [], _ => rfl
  | (name, v) :: members, ⟨first, rest⟩ => by
    rw [writtenMembers, Written.memberValues, sortedMembers, value_written v first,
      memberValues_writtenMembers members rest]

end

mutual

theorem isFinite_written : (v : Json) → v.HasWords → ∀ l ∈ v.written.literals, l.IsFinite
  | null, _, l, hl | bool _, _, l, hl | string _, _, l, hl => absurd hl List.not_mem_nil
  | number (.whole n), h, l, hl => by
    rw [written, Written.literals, List.mem_singleton] at hl
    subst hl
    exact isFinite_ofInt h
  | number (.real _), h, _, _ => h.elim
  | array items, h, l, hl => isFinite_writtenItems items h l hl
  | object members, h, l, hl => isFinite_writtenMembers members h l hl

theorem isFinite_writtenItems :
    (items : List Json) → ItemsHaveWords items → ∀ l ∈ Written.itemLiterals (writtenItems items), l.IsFinite
  | [], _, l, hl => absurd hl List.not_mem_nil
  | v :: items, ⟨first, rest⟩, l, hl => by
    rw [writtenItems, Written.itemLiterals, List.mem_append] at hl
    rcases hl with hl | hl
    · exact isFinite_written v first l hl
    · exact isFinite_writtenItems items rest l hl

theorem isFinite_writtenMembers :
    (members : List (String × Json)) → MembersHaveWords members →
      ∀ l ∈ Written.memberLiterals (writtenMembers members), l.IsFinite
  | [], _, l, hl => absurd hl List.not_mem_nil
  | (name, v) :: members, ⟨first, rest⟩, l, hl => by
    rw [writtenMembers, Written.memberLiterals, List.mem_append] at hl
    rcases hl with hl | hl
    · exact isFinite_written v first l hl
    · exact isFinite_writtenMembers members rest l hl

end

/-! ### What is written spells the value -/

theorem hexValue_hexDigit : ∀ n < 16, hexValue (hexDigit n) = some n := by decide

theorem spellsWord_control {c : Char} (h : c.toNat < 0x20) :
    SpellsWord ['0', '0', hexDigit (c.toNat / 16), hexDigit (c.toNat % 16)] c.toNat := by
  have zero : SpellsHexDigit '0' 0 := .decimal (by decide) (by decide)
  have high := hexValue_eq_some_iff.mp (hexValue_hexDigit (c.toNat / 16) (by omega))
  have low := hexValue_eq_some_iff.mp (hexValue_hexDigit (c.toNat % 16) (by omega))
  have word := SpellsWord.digits zero zero high low
  rwa [show ((0 * 16 + 0) * 16 + c.toNat / 16) * 16 + c.toNat % 16 = c.toNat by omega] at word

theorem spellsChar_writeChar (c : Char) : SpellsChar (writeChar c) c := by
  have short : ∀ {letter d : Char}, (letter, d) ∈ shortEscapes → c = d → SpellsChar ['\\', letter] c := by
    rintro letter d listed rfl
    exact .short listed
  simp only [writeChar]
  split_ifs with quote backslash backspace tab newline feed carriage control
  · exact short (by decide) quote
  · exact short (by decide) backslash
  · exact short (by decide) backspace
  · exact short (by decide) tab
  · exact short (by decide) newline
  · exact short (by decide) feed
  · exact short (by decide) carriage
  · exact .word (spellsWord_control control)
  · exact .plain quote backslash (Nat.le_of_not_lt control)

theorem spellsChars_flatMap (cs : List Char) : SpellsChars (cs.flatMap writeChar) cs := by
  induction cs with
  | nil => exact .nil
  | cons c cs ih => exact .cons (spellsChar_writeChar c) ih

theorem quotes_writeText (s : String) : Quotes (writeText s) s := by
  have spelled := Quotes.marks (spellsChars_flatMap s.toList)
  rwa [String.ofList_toList] at spelled

theorem padded_of_spells {s : List Char} {w : Written} (h : Spells s w) : Padded s w := by
  have padded := Padded.around blank_nil h blank_nil
  rwa [List.nil_append, List.append_nil] at padded

theorem spellsMember_of_spells (name : String) {s : List Char} {w : Written} (h : Spells s w) :
    SpellsMember (writeText name ++ ':' :: s) (name, w) :=
  .pair blank_nil (quotes_writeText name) blank_nil (padded_of_spells h)

-- The writer of the rest of an array also writes its closing bracket, so the two lemmas beside this one are about what stands
-- in front of that bracket, with the first item already written.
mutual

theorem spells_write : (v : Json) → v.HasWords → Spells (write v) v.written
  | null, _ => .null
  | bool true, _ => .yes
  | bool false, _ => .no
  | number (.whole n), _ => .number (spellsLiteral_write n)
  | number (.real _), h => h.elim
  | string s, _ => .string (quotes_writeText s)
  | array [], _ => .emptyArray blank_nil
  | array (v :: vs), ⟨first, rest⟩ => by
    obtain ⟨t, body, spelled⟩ := spells_writeItems vs rest (padded_of_spells (spells_write v first))
    rw [write, body]
    exact .array spelled
  | object [], _ => .emptyObject blank_nil
  | object ((name, v) :: ms), ⟨first, rest⟩ => by
    obtain ⟨t, body, spelled⟩ := spells_writeMembers ms rest (spellsMember_of_spells name (spells_write v first))
    rw [List.append_assoc, List.cons_append] at body
    rw [write, body]
    exact .object spelled

/-- What stands between the brackets when some items are written after a first one. -/
theorem spells_writeItems : (vs : List Json) → ItemsHaveWords vs → ∀ {s : List Char} {w : Written}, Padded s w →
    ∃ t, s ++ writeItems vs = t ++ [']'] ∧ SpellsItems t (w :: writtenItems vs)
  | [], _, s, _, h => ⟨s, rfl, .last h⟩
  | v :: vs, ⟨first, rest⟩, s, _, h => by
    obtain ⟨t, body, spelled⟩ := spells_writeItems vs rest (padded_of_spells (spells_write v first))
    refine ⟨s ++ ',' :: t, ?_, .more h spelled⟩
    rw [writeItems, body, List.append_assoc, List.cons_append]

/-- What stands between the braces when some members are written after a first one. -/
theorem spells_writeMembers : (ms : List (String × Json)) → MembersHaveWords ms →
    ∀ {s : List Char} {member : String × Written}, SpellsMember s member →
    ∃ t, s ++ writeMembers ms = t ++ ['\x7d'] ∧ SpellsMembers t (member :: writtenMembers ms)
  | [], _, s, _, h => ⟨s, rfl, .last h⟩
  | (name, v) :: ms, ⟨first, rest⟩, s, _, h => by
    obtain ⟨t, body, spelled⟩ := spells_writeMembers ms rest (spellsMember_of_spells name (spells_write v first))
    rw [List.append_assoc, List.cons_append] at body
    refine ⟨s ++ ',' :: t, ?_, .more h spelled⟩
    rw [writeMembers, body, List.append_assoc, List.cons_append]

end

theorem isTextOf_octets {v : Json} (h : v.Fits 127) : IsTextOf v.octets v.written := by
  refine ⟨⟨write v, rfl, padded_of_spells (spells_write v h.words)⟩, ?_, isFinite_written v h.words⟩
  rw [depth_written]
  exact h.shallow

/-- What has been written reads as the value again, with the members of each object in order. -/
theorem parse_octets {v : Json} (h : v.Fits 127) : parse v.octets = some v.sorted :=
  parse_eq_some_iff.mpr ⟨v.written, isTextOf_octets h, value_written v h.words⟩

/-! ### Values in order -/

mutual

/-- Whether the members of each object are in order, each name once. -/
def IsSorted : Json → Prop
  | null | bool _ | number _ | string _ => True
  | array items => ItemsAreSorted items
  | object members => Members.Ascending members ∧ MembersAreSorted members

def ItemsAreSorted : List Json → Prop
  | [] => True
  | v :: items => v.IsSorted ∧ ItemsAreSorted items

def MembersAreSorted : List (String × Json) → Prop
  | [] => True
  | (_, v) :: members => v.IsSorted ∧ MembersAreSorted members

end

mutual

theorem sorted_eq_self : (v : Json) → v.IsSorted → v.sorted = v
  | null, _ | bool _, _ | number _, _ | string _, _ => rfl
  | array items, h => by rw [sorted, sortedItems_eq_self items h]
  | object members, ⟨ascending, h⟩ => by
    rw [sorted, sortedMembers_eq_self members h, ofPairs, Members.ofPairs_of_ascending ascending]

theorem sortedItems_eq_self : (items : List Json) → ItemsAreSorted items → sortedItems items = items
  | [], _ => rfl
  | v :: items, ⟨first, rest⟩ => by rw [sortedItems, sorted_eq_self v first, sortedItems_eq_self items rest]

theorem sortedMembers_eq_self : (members : List (String × Json)) → MembersAreSorted members → sortedMembers members = members
  | [], _ => rfl
  | (name, v) :: members, ⟨first, rest⟩ => by
    rw [sortedMembers, sorted_eq_self v first, sortedMembers_eq_self members rest]

end

theorem membersAreSorted_iff {members : List (String × Json)} :
    MembersAreSorted members ↔ ∀ member ∈ members, member.2.IsSorted := by
  induction members with
  | nil => simp [MembersAreSorted]
  | cons member members ih =>
    obtain ⟨name, v⟩ := member
    rw [MembersAreSorted, ih, List.forall_mem_cons]

mutual

theorem isSorted_value : (w : Written) → w.value.IsSorted
  | .null | .bool _ | .number _ | .string _ => trivial
  | .array items => itemsAreSorted_itemValues items
  | .object members => by
    refine ⟨Members.ascending_ofPairs _, membersAreSorted_iff.mpr ?_⟩
    intro member given
    exact membersAreSorted_iff.mp (membersAreSorted_memberValues members) member (Members.mem_of_mem_ofPairs given)

theorem itemsAreSorted_itemValues : (items : List Written) → ItemsAreSorted (Written.itemValues items)
  | [] => trivial
  | w :: items => ⟨isSorted_value w, itemsAreSorted_itemValues items⟩

theorem membersAreSorted_memberValues :
    (members : List (String × Written)) → MembersAreSorted (Written.memberValues members)
  | [] => trivial
  | (_, w) :: members => ⟨isSorted_value w, membersAreSorted_memberValues members⟩

end

/-- Whatever has been read is in order, so it comes back as it was when it is written and read again. -/
theorem parse_octets_of_parse {octets : List UInt8} {v : Json} (read : parse octets = some v) (h : v.Fits 127) :
    parse v.octets = some v := by
  obtain ⟨w, -, rfl⟩ := parse_eq_some_iff.mp read
  rw [parse_octets h, sorted_eq_self _ (isSorted_value w)]

end AdmissionGate.Json
