/-!
# Registries

Values under names, at most one under each, in the order in which the names were first entered.
Main statements: `find?_insert`, `find?_erase` and `find?_empty` say what is found under every name
after each operation, `find?_foldl_insert` after many insertions, and `insert` and `erase` keep the
names distinct.
-/
namespace Testbed

/-- Values under distinct names. -/
structure Registry (α : Type) where
  entries : List (String × α)
  distinct : (entries.map Prod.fst).Nodup

namespace Registry

variable {α : Type}

/-- Nothing under any name. -/
def empty : Registry α := ⟨[], .nil⟩

instance : Inhabited (Registry α) := ⟨empty⟩

def names (r : Registry α) : List String := r.entries.map Prod.fst

/-- The value under a name in a list of entries. -/
def lookup (name : String) : List (String × α) → Option α
  | [] => none
  | (n, a) :: rest => if n = name then some a else lookup name rest

/-- The value under a name. -/
def find? (r : Registry α) (name : String) : Option α := lookup name r.entries

def contains (r : Registry α) (name : String) : Bool := (r.find? name).isSome

/-- The entries with `a` under the name, at the place of the old value if there is one. -/
def put (name : String) (a : α) : List (String × α) → List (String × α)
  | [] => [(name, a)]
  | (n, b) :: rest => if n = name then (name, a) :: rest else (n, b) :: put name a rest

/-- The entries without the name. -/
def drop (name : String) (es : List (String × α)) : List (String × α) :=
  es.filter fun e => e.1 ≠ name

theorem mem_names_put {name n : String} {a : α} {es : List (String × α)} :
    n ∈ (put name a es).map Prod.fst ↔ n = name ∨ n ∈ es.map Prod.fst := by
  induction es with
  | nil => simp [put]
  | cons e es ih =>
    by_cases h : e.1 = name
    · subst h; simp [put]
    · rw [put, if_neg h, List.map_cons, List.mem_cons, ih, List.map_cons, List.mem_cons]
      exact or_left_comm

theorem nodup_put {name : String} {a : α} {es : List (String × α)}
    (h : (es.map Prod.fst).Nodup) : ((put name a es).map Prod.fst).Nodup := by
  induction es with
  | nil => simp [put]
  | cons e es ih =>
    obtain ⟨hn, hes⟩ := List.nodup_cons.1 h
    by_cases he : e.1 = name
    · rw [put, if_pos he]; subst he; exact List.nodup_cons.2 ⟨hn, hes⟩
    · rw [put, if_neg he]
      refine List.nodup_cons.2 ⟨fun hmem => ?_, ih hes⟩
      rcases mem_names_put.1 hmem with h' | h'
      · exact he h'
      · exact hn h'

theorem nodup_drop {name : String} {es : List (String × α)} (h : (es.map Prod.fst).Nodup) :
    ((drop name es).map Prod.fst).Nodup :=
  h.sublist (List.Sublist.map _ List.filter_sublist)

/-- Puts `a` under the name, in place of what was there. -/
def insert (r : Registry α) (name : String) (a : α) : Registry α :=
  ⟨put name a r.entries, nodup_put r.distinct⟩

/-- Takes away what is under the name. -/
def erase (r : Registry α) (name : String) : Registry α :=
  ⟨drop name r.entries, nodup_drop r.distinct⟩

@[simp] theorem find?_empty (name : String) : (empty : Registry α).find? name = none := rfl

theorem lookup_put (name other : String) (a : α) (es : List (String × α)) :
    lookup other (put name a es) = if name = other then some a else lookup other es := by
  induction es with
  | nil => simp [put, lookup]
  | cons e es ih =>
    by_cases h : e.1 = name
    · rw [put, if_pos h, lookup, lookup]
      by_cases ho : name = other
      · simp [ho]
      · simp [ho, h]
    · rw [put, if_neg h, lookup, ih, lookup]
      by_cases he : e.1 = other
      · simp [he, show name ≠ other from fun h' => h (he.trans h'.symm)]
      · simp [he]

theorem lookup_drop (name other : String) (es : List (String × α)) :
    lookup other (drop name es) = if name = other then none else lookup other es := by
  induction es with
  | nil => simp [drop, lookup]
  | cons e es ih =>
    rw [drop] at ih
    by_cases h : e.1 = name
    · rw [drop, List.filter_cons_of_neg (by simp [h]), ih, lookup]
      by_cases ho : name = other
      · simp [ho]
      · simp [ho, show e.1 ≠ other from fun h' => ho (h.symm.trans h')]
    · rw [drop, List.filter_cons_of_pos (by simp [h]), lookup, ih, lookup]
      by_cases he : e.1 = other
      · simp [he, show name ≠ other from fun h' => h (he.trans h'.symm)]
      · simp [he]

@[simp] theorem find?_insert (r : Registry α) (name other : String) (a : α) :
    (r.insert name a).find? other = if name = other then some a else r.find? other :=
  lookup_put name other a r.entries

@[simp] theorem find?_erase (r : Registry α) (name other : String) :
    (r.erase name).find? other = if name = other then none else r.find? other :=
  lookup_drop name other r.entries

/-- Of the values entered one after another under a name the last one is found. -/
theorem find?_foldl_insert (r : Registry α) (es : List (String × α)) (name : String) :
    (es.foldl (fun found e => found.insert e.1 e.2) r).find? name =
      ((es.filter (·.1 = name)).getLast?.map Prod.snd).or (r.find? name) := by
  induction es generalizing r with
  | nil => rfl
  | cons e es ih =>
    rw [List.foldl_cons, ih, find?_insert]
    by_cases named : e.1 = name
    · rw [List.filter_cons_of_pos (by simpa using named), List.getLast?_cons]
      cases (es.filter (·.1 = name)).getLast? <;> simp [named]
    · rw [List.filter_cons_of_neg (by simpa using named), if_neg named]

end Registry

end Testbed
