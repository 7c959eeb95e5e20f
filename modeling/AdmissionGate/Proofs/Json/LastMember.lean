import AdmissionGate.Json.Members

/-!
# The last value of a name

What the members that some pairs give hold under a name is the last value that the pairs give it.  Members are determined
by what they hold under each name, so two lists of pairs give the same members as soon as each name has the same last value
in both.
-/

namespace AdmissionGate.Json.Members

variable {α : Type}

/-- The last value that some pairs give a name. -/
def last? (name : String) : List (String × α) → Option α
  | [] => none
  | (other, value) :: rest => (last? name rest).or (if name = other then some value else none)

@[simp]
theorem last?_nil (name : String) : last? name ([] : List (String × α)) = none := rfl

theorem last?_cons (name other : String) (value : α) (rest : List (String × α)) :
    last? name ((other, value) :: rest) = (last? name rest).or (if name = other then some value else none) := rfl

theorem last?_append (name : String) (first second : List (String × α)) :
    last? name (first ++ second) = (last? name second).or (last? name first) := by
  induction first with
  | nil => rw [List.nil_append, last?_nil, Option.or_none]
  | cons pair first ih => rw [List.cons_append, last?_cons, last?_cons, ih, Option.or_assoc]

theorem last?_isSome_iff {name : String} {pairs : List (String × α)} :
    (last? name pairs).isSome = true ↔ ∃ pair ∈ pairs, pair.1 = name := by
  induction pairs with
  | nil => simp
  | cons pair pairs ih =>
    obtain ⟨other, value⟩ := pair
    rw [last?_cons, Option.isSome_or, Bool.or_eq_true, ih]
    by_cases h : name = other
    · simp [h]
    · simp [h, Ne.symm h]

theorem find?_eq_none {name : String} {pairs : List (String × α)} (h : name ∉ pairs.map Prod.fst) :
    find? name pairs = none := by
  induction pairs with
  | nil => rfl
  | cons pair pairs ih =>
    obtain ⟨other, value⟩ := pair
    rw [List.map_cons, List.mem_cons, not_or] at h
    rw [find?_cons, if_neg h.1, ih h.2]

/-- Where no name is repeated, the last value of a name is its only one. -/
theorem last?_eq_find? (name : String) {pairs : List (String × α)} (distinct : (pairs.map Prod.fst).Nodup) :
    last? name pairs = find? name pairs := by
  induction pairs with
  | nil => rfl
  | cons pair pairs ih =>
    obtain ⟨other, value⟩ := pair
    rw [List.map_cons, List.nodup_cons] at distinct
    rw [last?_cons, find?_cons, ih distinct.2]
    by_cases h : name = other
    · subst h
      simp [find?_eq_none distinct.1]
    · simp [h]

/-! ### The members that pairs give -/

theorem find?_foldl_insert (name : String) (pairs : List (String × α)) (members : Members α) :
    find? name (pairs.foldl (fun members pair => insert pair.1 pair.2 members) members) =
      (last? name pairs).or (find? name members) := by
  induction pairs generalizing members with
  | nil => rfl
  | cons pair pairs ih =>
    rw [List.foldl_cons, ih, find?_insert, last?_cons, Option.or_assoc]
    by_cases h : name = pair.1 <;> simp [h]

/-- The last value of a name counts. -/
theorem find?_ofPairs (name : String) (pairs : List (String × α)) : find? name (ofPairs pairs) = last? name pairs := by
  rw [ofPairs, find?_foldl_insert, find?_nil, Option.or_none]

theorem ascending_foldl_insert (pairs : List (String × α)) {members : Members α} (h : Ascending members) :
    Ascending (pairs.foldl (fun members pair => insert pair.1 pair.2 members) members) := by
  induction pairs generalizing members with
  | nil => exact h
  | cons pair pairs ih => exact ih (ascending_insert h)

theorem ascending_ofPairs (pairs : List (String × α)) : Ascending (ofPairs pairs) :=
  ascending_foldl_insert pairs List.Pairwise.nil

theorem mem_foldl_insert {pair : String × α} {pairs : List (String × α)} {members : Members α}
    (h : pair ∈ pairs.foldl (fun members pair => insert pair.1 pair.2 members) members) : pair ∈ pairs ∨ pair ∈ members := by
  induction pairs generalizing members with
  | nil => exact .inr h
  | cons first pairs ih =>
    rcases ih h with later | before
    · exact .inl (List.mem_cons_of_mem first later)
    · rcases mem_insert before with rfl | before
      · exact .inl List.mem_cons_self
      · exact .inr before

theorem mem_of_mem_ofPairs {pair : String × α} {pairs : List (String × α)} (h : pair ∈ ofPairs pairs) : pair ∈ pairs := by
  rcases mem_foldl_insert h with given | none
  · exact given
  · cases none

/-! ### Members are what they hold -/

theorem find?_eq_none_of_forall_lt {name : String} {members : Members α} (least : ∀ pair ∈ members, name < pair.1) :
    find? name members = none := by
  apply find?_eq_none
  intro given
  obtain ⟨pair, hpair, same⟩ := List.mem_map.mp given
  exact String.lt_irrefl name (same ▸ least pair hpair)

/-- A name that is held is not below the least name. -/
theorem not_lt_of_find?_eq_some {name other : String} {value held : α} {rest : Members α}
    (h : Ascending ((other, held) :: rest)) (given : find? name ((other, held) :: rest) = some value) :
    ¬ name < other := by
  intro below
  have least : ∀ pair ∈ (other, held) :: rest, name < pair.1 := by
    intro pair hpair
    rcases List.mem_cons.mp hpair with rfl | hpair
    · exact below
    · exact String.lt_trans below ((List.pairwise_cons.mp h).1 pair hpair)
  rw [find?_eq_none_of_forall_lt least] at given
  cases given

theorem ext {first second : Members α} (hfirst : Ascending first) (hsecond : Ascending second)
    (h : ∀ name, find? name first = find? name second) : first = second := by
  have self : ∀ (name : String) (value : α) (rest : Members α), find? name ((name, value) :: rest) = some value := by
    intro name value rest
    rw [find?_cons, if_pos rfl]
  induction first generalizing second with
  | nil =>
    cases second with
    | nil => rfl
    | cons member second =>
      have held := h member.1
      rw [find?_nil, self] at held
      cases held
  | cons member first ih =>
    obtain ⟨name, value⟩ := member
    cases second with
    | nil =>
      have held := h name
      rw [find?_nil, self] at held
      cases held
    | cons member second =>
      obtain ⟨other, value'⟩ := member
      -- each side holds the least name of the other, so the least names are the same
      have below : ¬ name < other := not_lt_of_find?_eq_some hsecond ((h name).symm.trans (self name value first))
      have above : ¬ other < name := not_lt_of_find?_eq_some hfirst ((h other).trans (self other value' second))
      have same : name = other := String.le_antisymm (String.not_lt.mp above) (String.not_lt.mp below)
      subst same
      have held := h name
      rw [self, self] at held
      cases held
      obtain ⟨firstLeast, firstAscending⟩ := List.pairwise_cons.mp hfirst
      obtain ⟨secondLeast, secondAscending⟩ := List.pairwise_cons.mp hsecond
      have rest : ∀ x, find? x first = find? x second := by
        intro x
        by_cases hx : x = name
        · rw [hx, find?_eq_none_of_forall_lt firstLeast, find?_eq_none_of_forall_lt secondLeast]
        · have held := h x
          rwa [find?_cons, find?_cons, if_neg hx, if_neg hx] at held
      rw [ih firstAscending secondAscending rest]

/-- Pairs that agree on the last value of each name give the same members. -/
theorem ofPairs_congr {first second : List (String × α)} (h : ∀ name, last? name first = last? name second) :
    ofPairs first = ofPairs second := by
  apply ext (ascending_ofPairs first) (ascending_ofPairs second)
  intro name
  rw [find?_ofPairs, find?_ofPairs, h]

theorem nodup_of_ascending {members : Members α} (h : Ascending members) : (members.map Prod.fst).Nodup := by
  rw [List.Nodup, List.pairwise_map]
  exact h.imp fun below => String.ne_of_lt below

/-- Members give themselves. -/
theorem ofPairs_of_ascending {members : Members α} (h : Ascending members) : ofPairs members = members := by
  apply ext (ascending_ofPairs members) h
  intro name
  rw [find?_ofPairs, last?_eq_find? name (nodup_of_ascending h)]

/-! ### The order of distinct names -/

theorem find?_perm (name : String) {first second : List (String × α)} (reordered : first.Perm second)
    (distinct : (first.map Prod.fst).Nodup) : find? name first = find? name second := by
  induction reordered with
  | nil => rfl
  | cons pair _ ih =>
    rw [List.map_cons, List.nodup_cons] at distinct
    simp only [find?, ih distinct.2]
  | swap pair next rest =>
    simp only [List.map_cons, List.nodup_cons, List.mem_cons, not_or] at distinct
    simp only [find?]
    by_cases held : name = pair.1
    · have apart : pair.1 ≠ next.1 := Ne.symm distinct.1.1
      simp [held, apart]
    · simp [held]
  | trans front _ ih ih' => exact (ih distinct).trans (ih' ((front.map Prod.fst).nodup_iff.mp distinct))

/-- The order in which distinct names come leaves no trace. -/
theorem ofPairs_perm {first second : List (String × α)} (reordered : first.Perm second)
    (distinct : (first.map Prod.fst).Nodup) : ofPairs first = ofPairs second := by
  apply ofPairs_congr
  intro name
  have distinct' := (reordered.map Prod.fst).nodup_iff.mp distinct
  rw [last?_eq_find? name distinct, last?_eq_find? name distinct', find?_perm name reordered distinct]

end AdmissionGate.Json.Members
