import AdmissionGate.Proofs.Json.ReadingBack
import AdmissionGate.Review.Encoding
import AdmissionGate.Review.ResponseForm

/-!
# Objects whose members may be left out

An object is written part by part: each part is a name with a value or with none, and one with none is left out.  Read back,
the object holds under each name what its part has, so a form that takes an absent member for the part's default takes every
part for what it was.
-/

namespace AdmissionGate.Review

open Json (Members)

/-! ### Parts -/

/-- A text, unless it is empty. -/
def textPart (text : String) : Option Json :=
  if text = "" then none else some (.string text)

/-- A number, unless it is zero. -/
def numberPart (n : Nat) : Option Json :=
  if n = 0 then none else some (.ofNat n)

/-- A list, unless it is empty. -/
def listPart (items : List Json) : Option Json :=
  if items = [] then none else some (.array items)

/-- The members that some parts give. -/
def partMembers (parts : List (String × Option Json)) : List (String × Json) :=
  parts.flatMap fun part => optionalMember part.1 part.2

theorem partMembers_cons (name : String) (part : Option Json) (parts : List (String × Option Json)) :
    partMembers ((name, part) :: parts) = optionalMember name part ++ partMembers parts :=
  List.flatMap_cons

theorem textMember_eq (name text : String) : textMember name text = optionalMember name (textPart text) := by
  rw [textMember, textPart]
  split <;> rfl

theorem numberMember_eq (name : String) (n : Nat) : numberMember name n = optionalMember name (numberPart n) := by
  rw [numberMember, numberPart]
  split <;> rfl

theorem listMember_eq (name : String) (items : List Json) :
    listMember name items = optionalMember name (listPart items) := by
  rw [listMember, listPart]
  split <;> rfl

/-! ### Parts that can be read back -/

theorem mem_partMembers {parts : List (String × Option Json)} {member : String × Json}
    (h : member ∈ partMembers parts) : (member.1, some member.2) ∈ parts := by
  obtain ⟨⟨name, part⟩, listed, given⟩ := List.mem_flatMap.mp h
  cases part with
  | none => exact absurd given List.not_mem_nil
  | some v =>
    rw [optionalMember, List.mem_singleton] at given
    subst given
    exact listed

theorem fits_partMembers {n : Nat} {parts : List (String × Option Json)}
    (h : ∀ part ∈ parts, ∀ v ∈ part.2, v.Fits n) : (Json.object (partMembers parts)).Fits (n + 1) :=
  Json.fits_object fun member hmem => h _ (mem_partMembers hmem) member.2 rfl

theorem fits_some {n : Nat} {v : Json} (h : v.Fits n) : ∀ u ∈ some v, u.Fits n := by
  intro u hu
  cases hu
  exact h

theorem fits_map {α : Type} {n : Nat} {encode : α → Json} (h : ∀ a, (encode a).Fits n) {a : Option α} :
    ∀ v ∈ a.map encode, v.Fits n := by
  intro v hv
  obtain ⟨a, -, rfl⟩ := Option.map_eq_some_iff.mp hv
  exact h a

theorem fits_textPart {n : Nat} {text : String} : ∀ v ∈ textPart text, v.Fits n := by
  intro v hv
  rw [textPart] at hv
  split at hv
  · cases hv
  · cases hv
    exact Json.fits_string n text

theorem fits_numberPart {n m : Nat} (word : m < 0x10000000000000000) : ∀ v ∈ numberPart m, v.Fits n := by
  intro v hv
  rw [numberPart] at hv
  split at hv
  · cases hv
  · cases hv
    exact Json.fits_ofNat word

theorem fits_listPart {n : Nat} {items : List Json} (h : ∀ v ∈ items, v.Fits n) :
    ∀ v ∈ listPart items, v.Fits (n + 1) := by
  intro v hv
  rw [listPart] at hv
  split at hv
  · cases hv
  · cases hv
    exact Json.fits_array h

/-! ### What is held under a name -/

/-- The parts that are given are the members, one of a name at most. -/
theorem last?_sortedMembers_partMembers (name : String) {parts : List (String × Option Json)}
    (distinct : (parts.map Prod.fst).Nodup) :
    Members.last? name (Json.sortedMembers (partMembers parts)) =
      ((Members.find? name parts).join).map Json.sorted := by
  induction parts with
  | nil => rfl
  | cons part parts ih =>
    obtain ⟨other, held⟩ := part
    rw [List.map_cons, List.nodup_cons] at distinct
    rw [partMembers_cons, Json.sortedMembers_eq_map, List.map_append, Members.last?_append,
      ← Json.sortedMembers_eq_map, ih distinct.2, Members.find?_cons]
    by_cases same : name = other
    · subst same
      rw [Members.find?_eq_none distinct.1, if_pos rfl]
      cases held <;> simp [optionalMember, Members.last?]
    · rw [if_neg same]
      cases held <;> simp [optionalMember, Members.last?, same]

theorem find?_of_mem {name : String} {part : Option Json} {parts : List (String × Option Json)}
    (distinct : (parts.map Prod.fst).Nodup) (h : (name, part) ∈ parts) : Members.find? name parts = some part := by
  induction parts with
  | nil => cases h
  | cons first parts ih =>
    obtain ⟨other, held⟩ := first
    rw [List.map_cons, List.nodup_cons] at distinct
    rcases List.mem_cons.mp h with same | within
    · cases same
      rw [Members.find?_cons, if_pos rfl]
    · have apart : name ≠ other := by
        rintro rfl
        exact distinct.1 (List.mem_map.mpr ⟨(name, part), within, rfl⟩)
      rw [Members.find?_cons, if_neg apart, ih distinct.2 within]

/-- Read back, an object holds under each name what its part has. -/
theorem member?_partMembers {name : String} {part : Option Json} {parts : List (String × Option Json)}
    (distinct : (parts.map Prod.fst).Nodup) (h : (name, part) ∈ parts) :
    (Json.object (partMembers parts)).sorted.member? name = part.map Json.sorted := by
  rw [Json.sorted, Json.ofPairs, Json.member?, Members.find?_ofPairs, last?_sortedMembers_partMembers name distinct,
    find?_of_mem distinct h, Option.join_some]

theorem exists_members {parts : List (String × Option Json)} (distinct : (parts.map Prod.fst).Nodup) :
    ∃ members, (Json.object (partMembers parts)).sorted = .object members ∧
      ∀ {name part}, (name, part) ∈ parts → Members.find? name members = part.map Json.sorted :=
  ⟨Members.ofPairs (Json.sortedMembers (partMembers parts)), rfl, fun h => member?_partMembers distinct h⟩

/-! ### Forms take parts for what they were -/

namespace Form

variable {α : Type} {members : Members Json} {name : String}

theorem withDefault_textPart {s : String} (held : Members.find? name members = (textPart s).map Json.sorted) :
    withDefault members name "" text = some s := by
  by_cases empty : s = ""
  · rw [textPart, if_pos empty, Option.map_none] at held
    rw [withDefault, held, empty]
  · rw [textPart, if_neg empty, Option.map_some] at held
    rw [withDefault, held]
    rfl

theorem below_ofNat {limit n : Nat} (h : n < limit) : below limit (.ofNat n) = some n := by
  have within : 0 ≤ (n : Int) ∧ (n : Int) < limit := by omega
  rw [Json.ofNat, below, if_pos within, Int.toNat_natCast]

theorem withDefault_numberPart {limit n : Nat} (h : n < limit)
    (held : Members.find? name members = (numberPart n).map Json.sorted) :
    withDefault members name 0 (below limit) = some n := by
  by_cases zero : n = 0
  · rw [numberPart, if_pos zero, Option.map_none] at held
    rw [withDefault, held, zero]
  · rw [numberPart, if_neg zero, Option.map_some] at held
    rw [withDefault, held]
    exact below_ofNat h

theorem listOf_array {form : Form α} {encode : α → Json} (reads : ∀ a, form (encode a).sorted = some a)
    (items : List α) : listOf form (Json.array (items.map encode)).sorted = some items := by
  rw [Json.sorted, listOf]
  induction items with
  | nil => rfl
  | cons a items ih =>
    rw [List.map_cons, Json.sortedItems, List.mapM_cons, reads, ih]
    rfl

theorem withDefault_listPart {form : Form α} {encode : α → Json} (reads : ∀ a, form (encode a).sorted = some a)
    {items : List α} (held : Members.find? name members = (listPart (items.map encode)).map Json.sorted) :
    withDefault members name [] (listOf form) = some items := by
  by_cases empty : items.map encode = []
  · rw [listPart, if_pos empty, Option.map_none] at held
    rw [withDefault, held, List.map_eq_nil_iff.mp empty]
  · rw [listPart, if_neg empty, Option.map_some] at held
    rw [withDefault, held]
    exact listOf_array reads items

theorem orNull_of_some {form : Form α} (refuses : form .null = none) {v : Json} {a : α} (h : form v = some a) :
    orNull form v = some (some a) := by
  cases v with
  | null => rw [refuses] at h; cases h
  | bool _ | number _ | string _ | array _ | object _ => exact congrArg (Option.map some) h

theorem optional_part {form : Form α} {encode : α → Json} (refuses : form .null = none)
    (reads : ∀ a, form (encode a).sorted = some a) {a : Option α}
    (held : Members.find? name members = (a.map encode).map Json.sorted) :
    optional members name form = some a := by
  cases a with
  | none => rw [optional, withDefault, held]; rfl
  | some a =>
    rw [Option.map_some, Option.map_some] at held
    rw [optional, withDefault, held]
    exact orNull_of_some refuses (reads a)

end Form

end AdmissionGate.Review
