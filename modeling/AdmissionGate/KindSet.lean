import AdmissionGate.Text.Blank

/-!
# Sets of kinds

The kinds whose requests pass without being looked at.  A set is kept as its kinds in ascending order of code points,
each once, so that equal sets are equal values.  Names are trimmed on the way in and an empty name is no kind; a look-up
is exact, upper and lower case told apart.
-/

namespace AdmissionGate

/-- Put a name into an ascending list, once. -/
def insertName (name : String) : List String → List String
  | [] => [name]
  | other :: rest =>
    if name < other then name :: other :: rest
    else if other < name then other :: insertName name rest
    else other :: rest

theorem mem_insertName {name x : String} {names : List String} :
    x ∈ insertName name names ↔ x = name ∨ x ∈ names := by
  induction names with
  | nil => simp [insertName]
  | cons other rest ih =>
    simp only [insertName]
    split
    · simp
    · split
      · simp only [List.mem_cons, ih]
        constructor
        · rintro (h | h | h) <;> simp [h]
        · rintro (h | h | h) <;> simp [h]
      · rename_i below above
        have same : name = other := String.le_antisymm (String.not_lt.mp above) (String.not_lt.mp below)
        simp [same]

theorem pairwise_insertName {name : String} {names : List String} (h : names.Pairwise (· < ·)) :
    (insertName name names).Pairwise (· < ·) := by
  induction names with
  | nil => simp [insertName]
  | cons other rest ih =>
    rw [List.pairwise_cons] at h
    simp only [insertName]
    split
    · rename_i below
      refine List.pairwise_cons.mpr ⟨?_, List.pairwise_cons.mpr h⟩
      intro x hx
      rcases List.mem_cons.mp hx with rfl | hx
      · exact below
      · exact String.lt_trans below (h.1 x hx)
    · split
      · rename_i above
        refine List.pairwise_cons.mpr ⟨?_, ih h.2⟩
        intro x hx
        rcases mem_insertName.mp hx with rfl | hx
        · exact above
        · exact h.1 x hx
      · exact List.pairwise_cons.mpr h

/-- The kinds that pass without being looked at. -/
structure KindSet where
  /-- The kinds, in ascending order. -/
  kinds : List String
  ascending : kinds.Pairwise (· < ·)
deriving DecidableEq

namespace KindSet

def empty : KindSet := ⟨[], List.Pairwise.nil⟩

def insert (set : KindSet) (kind : String) : KindSet :=
  ⟨insertName kind set.kinds, pairwise_insertName set.ascending⟩

/-- The set of the kinds that some names give: trimmed, the empty ones left out. -/
def ofList (names : List String) : KindSet :=
  ((names.map Text.trim).filter (· ≠ "")).foldl insert empty

/-- Whether requests about a kind pass without being looked at. -/
def exempts (set : KindSet) (kind : String) : Bool :=
  set.kinds.contains kind

def isEmpty (set : KindSet) : Bool :=
  set.kinds.isEmpty

theorem exempts_iff {set : KindSet} {kind : String} : set.exempts kind = true ↔ kind ∈ set.kinds := by
  simp [exempts]

@[simp]
theorem mem_kinds_insert {set : KindSet} {kind x : String} :
    x ∈ (set.insert kind).kinds ↔ x = kind ∨ x ∈ set.kinds :=
  mem_insertName

end KindSet

end AdmissionGate
