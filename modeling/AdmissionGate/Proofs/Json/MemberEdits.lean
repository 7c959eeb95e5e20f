import AdmissionGate.Proofs.Json.LastMember

/-!
# Editing members

Members may be added and taken out, several at a time.  What a reader that knows some names only sees of such an edit is what
is held under these names afterwards.
-/

namespace AdmissionGate.Json.Members

variable {α : Type} {known dropped : List String} {members edited : Members α}

/-- Give names their values, one after another. -/
def insertAll (added : List (String × α)) (members : Members α) : Members α :=
  added.foldl (fun members pair => insert pair.1 pair.2 members) members

/-- Take out what is held under some names. -/
def without (dropped : List String) (members : Members α) : Members α :=
  dropped.foldl (fun members name => erase name members) members

theorem find?_insertAll {added : List (String × α)} {name : String} (apart : ∀ pair ∈ added, pair.1 ≠ name)
    (members : Members α) : find? name (insertAll added members) = find? name members := by
  have unnamed : last? name added = none := by
    rw [← Option.not_isSome_iff_eq_none, last?_isSome_iff]
    rintro ⟨pair, given, same⟩
    exact apart pair given same
  rw [insertAll, find?_foldl_insert, unnamed, Option.none_or]

theorem find?_without (dropped : List String) (members : Members α) (name : String) :
    find? name (without dropped members) = if name ∈ dropped then none else find? name members := by
  induction dropped generalizing members with
  | nil => simp [without]
  | cons first rest ih =>
    have step : without (first :: rest) members = without rest (erase first members) := rfl
    rw [step, ih, find?_erase]
    by_cases same : name = first <;> simp [same]

/-- Where members are picked by their names, a name that is picked holds what it held. -/
theorem find?_filter (picked : String → Bool) (members : Members α) (name : String) :
    find? name (members.filter fun member => picked member.1) = if picked name then find? name members else none := by
  induction members with
  | nil => simp
  | cons member rest ih =>
    obtain ⟨other, held⟩ := member
    rw [List.filter_cons, find?_cons]
    by_cases same : name = other
    · subst same
      cases kept : picked name with
      | false => simpa [kept] using ih
      | true => simp [find?_cons]
    · cases picked other with
      | false => simpa [same] using ih
      | true => simpa [find?_cons, same] using ih

/-! ### What is seen of an edit -/

/-- Whether, under the known names, some members hold what others do, but nothing under the dropped ones. -/
def SameBut (known dropped : List String) (members edited : Members α) : Prop :=
  ∀ name ∈ known, find? name edited = if name ∈ dropped then none else find? name members

theorem SameBut.find?_eq (h : SameBut known dropped members edited) {name : String} (listed : name ∈ known)
    (kept : name ∉ dropped) : find? name edited = find? name members := by
  rw [h name listed, if_neg kept]

theorem sameBut_insertAll {added : List (String × α)} (apart : ∀ pair ∈ added, pair.1 ∉ known) (members : Members α) :
    SameBut known [] members (insertAll added members) := by
  intro name listed
  rw [find?_insertAll _ members]
  · simp
  · rintro pair given rfl
    exact apart pair given listed

theorem sameBut_without (known dropped : List String) (members : Members α) :
    SameBut known dropped members (without dropped members) :=
  fun name _ => find?_without dropped members name

end AdmissionGate.Json.Members
