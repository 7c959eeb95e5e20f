/-!
# Members of an object

A finite map from names to values, kept as pairs in ascending order of their names, each name once.  Putting a name in
again replaces its value, so the last value given wins and the order in which members arrive leaves no trace.
-/

namespace AdmissionGate.Json

/-- Named values in ascending order of their names. -/
abbrev Members (α : Type) := List (String × α)

namespace Members

variable {α : Type}

/-- Give a name a value, in place of the one it had. -/
def insert (name : String) (value : α) : Members α → Members α
  | [] => [(name, value)]
  | (other, held) :: rest =>
    if name < other then (name, value) :: (other, held) :: rest
    else if other < name then (other, held) :: insert name value rest
    else (name, value) :: rest

def find? (name : String) : Members α → Option α
  | [] => none
  | (other, held) :: rest => if name = other then some held else find? name rest

def erase (name : String) (members : Members α) : Members α :=
  members.filter fun member => member.1 ≠ name

/-- The members that some pairs give; the last pair with a name wins. -/
def ofPairs (pairs : List (String × α)) : Members α :=
  pairs.foldl (fun members pair => insert pair.1 pair.2 members) []

/-! ### The view: looking a name up -/

@[simp]
theorem find?_nil (name : String) : find? name ([] : Members α) = none := rfl

theorem find?_cons (name other : String) (held : α) (rest : Members α) :
    find? name ((other, held) :: rest) = if name = other then some held else find? name rest := rfl

theorem find?_insert (name : String) (value : α) (members : Members α) (x : String) :
    find? x (insert name value members) = if x = name then some value else find? x members := by
  induction members with
  | nil => simp only [insert, find?_cons]
  | cons member rest ih =>
    obtain ⟨other, held⟩ := member
    simp only [insert]
    split
    · rw [find?_cons]
    · split
      · rename_i above
        rw [find?_cons, ih, find?_cons]
        by_cases h : x = other
        · subst h
          have apart : x ≠ name := fun same => String.lt_irrefl name (same ▸ above)
          simp [apart]
        · simp [h]
      · rename_i below above
        have same : name = other := String.le_antisymm (String.not_lt.mp above) (String.not_lt.mp below)
        subst same
        rw [find?_cons, find?_cons]
        by_cases h : x = name <;> simp [h]

theorem find?_erase (name : String) (members : Members α) (x : String) :
    find? x (erase name members) = if x = name then none else find? x members := by
  induction members with
  | nil => simp [erase]
  | cons member rest ih =>
    obtain ⟨other, held⟩ := member
    rw [erase] at ih ⊢
    by_cases kept : other = name
    · subst kept
      simp only [ne_eq, not_true_eq_false, decide_false, Bool.false_eq_true, not_false_eq_true,
        List.filter_cons_of_neg, find?_cons]
      rw [ih]
      by_cases h : x = other <;> simp [h]
    · rw [List.filter_cons_of_pos (by simpa using kept), find?_cons, find?_cons, ih]
      by_cases h : x = other
      · subst h
        simp [kept]
      · simp [h]

/-! ### The order -/

/-- The names ascend strictly. -/
def Ascending (members : Members α) : Prop :=
  members.Pairwise fun a b => a.1 < b.1

theorem mem_insert {name : String} {value : α} {members : Members α} {pair : String × α}
    (h : pair ∈ insert name value members) : pair = (name, value) ∨ pair ∈ members := by
  induction members with
  | nil => simpa [insert] using h
  | cons member rest ih =>
    obtain ⟨other, held⟩ := member
    simp only [insert] at h
    split at h
    · simpa using h
    · split at h
      · rcases List.mem_cons.mp h with rfl | h
        · simp
        · rcases ih h with same | within
          · exact Or.inl same
          · exact Or.inr (List.mem_cons_of_mem _ within)
      · rcases List.mem_cons.mp h with rfl | h
        · simp
        · exact Or.inr (List.mem_cons_of_mem _ h)

theorem ascending_insert {name : String} {value : α} {members : Members α} (h : Ascending members) :
    Ascending (insert name value members) := by
  induction members with
  | nil => simp [insert, Ascending]
  | cons member rest ih =>
    obtain ⟨other, held⟩ := member
    obtain ⟨first, rest_ascending⟩ := List.pairwise_cons.mp h
    simp only [insert]
    split
    · rename_i below
      refine List.pairwise_cons.mpr ⟨?_, h⟩
      intro pair hpair
      rcases List.mem_cons.mp hpair with rfl | hpair
      · exact below
      · exact String.lt_trans below (first pair hpair)
    · split
      · rename_i above
        refine List.pairwise_cons.mpr ⟨?_, ih rest_ascending⟩
        intro pair hpair
        rcases mem_insert hpair with rfl | hpair
        · exact above
        · exact first pair hpair
      · rename_i below above
        have same : name = other := String.le_antisymm (String.not_lt.mp above) (String.not_lt.mp below)
        subst same
        exact List.pairwise_cons.mpr ⟨first, rest_ascending⟩

end Members

end AdmissionGate.Json
