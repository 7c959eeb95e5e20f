import AdmissionGate.Proofs.Json.Grammar
import AdmissionGate.Proofs.Json.LastMember

/-!
# Written values that denote the same

Two written values are alike if one becomes the other by putting members with distinct names in another order, and by
leaving out or putting in members that a later one of the same name overrides, at any level.  White space and escapes are no
part of a written value.  Alike written values denote the same value.
-/

namespace AdmissionGate.Json.Written

/-- To differ only in the order of members with distinct names and in overridden members. -/
inductive Alike : Written → Written → Prop where
  | refl (w : Written) : Alike w w
  | symm {w u : Written} : Alike w u → Alike u w
  | trans {w u x : Written} : Alike w u → Alike u x → Alike w x
  | item {before after : List Written} {w u : Written} :
      Alike w u → Alike (array (before ++ w :: after)) (array (before ++ u :: after))
  | member {before after : List (String × Written)} {name : String} {w u : Written} :
      Alike w u → Alike (object (before ++ (name, w) :: after)) (object (before ++ (name, u) :: after))
  | swap {before after : List (String × Written)} {first second : String × Written} :
      first.1 ≠ second.1 →
      Alike (object (before ++ first :: second :: after)) (object (before ++ second :: first :: after))
  | overridden {before after : List (String × Written)} {member : String × Written} :
      (∃ later ∈ after, later.1 = member.1) → Alike (object (before ++ member :: after)) (object (before ++ after))

theorem itemValues_eq_map (items : List Written) : itemValues items = items.map value := by
  induction items with
  | nil => rfl
  | cons w items ih => rw [itemValues, ih, List.map_cons]

theorem itemValues_append (first second : List Written) :
    itemValues (first ++ second) = itemValues first ++ itemValues second := by
  rw [itemValues_eq_map, itemValues_eq_map, itemValues_eq_map, List.map_append]

theorem memberValues_eq_map (members : List (String × Written)) :
    memberValues members = members.map fun member => (member.1, member.2.value) := by
  induction members with
  | nil => rfl
  | cons member members ih =>
    obtain ⟨name, w⟩ := member
    rw [memberValues, ih, List.map_cons]

theorem memberValues_append (first second : List (String × Written)) :
    memberValues (first ++ second) = memberValues first ++ memberValues second := by
  rw [memberValues_eq_map, memberValues_eq_map, memberValues_eq_map, List.map_append]

theorem exists_mem_memberValues {name : String} {members : List (String × Written)}
    (h : ∃ member ∈ members, member.1 = name) : ∃ pair ∈ memberValues members, pair.1 = name := by
  obtain ⟨member, hmem, rfl⟩ := h
  rw [memberValues_eq_map]
  exact ⟨(member.1, member.2.value), List.mem_map.mpr ⟨member, hmem, rfl⟩, rfl⟩

theorem last?_memberValues (name : String) (members : List (String × Written)) :
    Members.last? name (memberValues members) = (Members.last? name members).map value := by
  induction members with
  | nil => rfl
  | cons member members ih =>
    obtain ⟨other, w⟩ := member
    rw [memberValues, Members.last?_cons, Members.last?_cons, ih]
    by_cases h : name = other <;> cases Members.last? name members <;> simp [h]

/-- The last of several members with one name counts. -/
theorem member?_value_object (name : String) (members : List (String × Written)) :
    (object members).value.member? name = (Members.last? name members).map value := by
  rw [value, ofPairs, member?, Members.find?_ofPairs, last?_memberValues]

theorem exists_of_member?_value {w : Written} {name : String} {v : Json}
    (h : w.value.member? name = some v) :
    ∃ members u, w = .object members ∧ Members.last? name members = some u ∧ u.value = v := by
  cases w with
  | object members =>
    rw [member?_value_object, Option.map_eq_some_iff] at h
    obtain ⟨u, held, value⟩ := h
    exact ⟨members, u, rfl, held, value⟩
  | null | bool _ | number _ | string _ | array _ => cases h

theorem Alike.value_eq {w u : Written} (h : Alike w u) : w.value = u.value := by
  induction h with
  | refl w => rfl
  | symm _ ih => exact ih.symm
  | trans _ _ first second => exact first.trans second
  | item _ ih => rw [value, value, itemValues_append, itemValues_append, itemValues, itemValues, ih]
  | member _ ih => rw [value, value, memberValues_append, memberValues_append, memberValues, memberValues, ih]
  | @swap before after first second apart =>
    rw [value, value, ofPairs, ofPairs]
    congr 1
    apply Members.ofPairs_congr
    intro name
    simp only [memberValues_append, memberValues, Members.last?_append, Members.last?_cons]
    by_cases hfirst : name = first.1
    · simp [hfirst, apart]
    · simp [hfirst]
  | @overridden before after member later =>
    rw [value, value, ofPairs, ofPairs]
    congr 1
    apply Members.ofPairs_congr
    intro name
    simp only [memberValues_append, memberValues, Members.last?_append, Members.last?_cons]
    by_cases h : name = member.1
    · have given := Members.last?_isSome_iff.mpr (exists_mem_memberValues later)
      obtain ⟨v, hv⟩ := Option.isSome_iff_exists.mp given
      simp [h, hv]
    · simp [h]

end AdmissionGate.Json.Written
