/-! Collections of text kept in order: sets of names, and values under names. -/
namespace Laminate.Text

/-- A name put into an increasing list, once. -/
def putName (name : String) : List String → List String
  | [] => [name]
  | first :: rest =>
    if name < first then name :: first :: rest
    else if name = first then first :: rest
    else first :: putName name rest

/-- The names of a list in increasing order, each once. -/
def sortedNames (names : List String) : List String := names.foldl (fun set n => putName n set) []

variable {β : Type}

/-- A value put under its key in a list that increases by key; an older value gives way. -/
def putKeyed (key : String) (value : β) : List (String × β) → List (String × β)
  | [] => [(key, value)]
  | first :: rest =>
    if key < first.1 then (key, value) :: first :: rest
    else if key = first.1 then (key, value) :: rest
    else first :: putKeyed key value rest

theorem mem_putName {name x : String} {names : List String} :
    x ∈ putName name names ↔ x = name ∨ x ∈ names := by
  induction names with
  | nil => simp [putName]
  | cons first rest ih =>
    simp only [putName]
    split
    · simp
    · split
      · next h => simp [h]
      · simp only [List.mem_cons, ih]
        grind

theorem mem_sortedNames {x : String} {names : List String} :
    x ∈ sortedNames names ↔ x ∈ names := by
  have key : ∀ acc : List String,
      x ∈ names.foldl (fun set n => putName n set) acc ↔ x ∈ acc ∨ x ∈ names := by
    induction names with
    | nil => simp
    | cons n rest ih =>
      intro acc
      simp only [List.foldl_cons, ih, mem_putName, List.mem_cons]
      grind
  simp [sortedNames, key]

theorem lookup_cons_pair (key : String) (value : β) (rest : List (String × β)) (k : String) :
    ((key, value) :: rest).lookup k = if k = key then some value else rest.lookup k := by
  rw [List.lookup_cons]
  by_cases h : k = key
  · simp [h]
  · rw [beq_false_of_ne h, if_neg h]

/-- A value is found under the key that it is put under, and nothing is new under others. -/
theorem lookup_putKeyed (key : String) (value : β) (entries : List (String × β)) (k : String) :
    (putKeyed key value entries).lookup k = if k = key then some value else entries.lookup k := by
  induction entries with
  | nil => exact lookup_cons_pair key value [] k
  | cons first rest ih =>
    obtain ⟨name, v⟩ := first
    unfold putKeyed
    split
    · exact lookup_cons_pair key value _ k
    · split
      · next heq =>
        dsimp only at heq
        subst heq
        rw [lookup_cons_pair, lookup_cons_pair]
        split <;> rfl
      · next hne =>
        rw [lookup_cons_pair, lookup_cons_pair, ih]
        by_cases hname : k = name
        · have hkey : k ≠ key := fun hk => hne (hk.symm.trans hname)
          rw [if_pos hname, if_pos hname, if_neg hkey]
        · rw [if_neg hname, if_neg hname]

end Laminate.Text
