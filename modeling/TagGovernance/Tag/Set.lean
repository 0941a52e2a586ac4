import TagGovernance.Keyed

/-!
# Tag sets

A resource's tags are a finite map from keys to values. The entries are kept in key order, so two
tag sets with the same look-ups are equal (`TagSet.ext_get?`).
-/

namespace TagGovernance

/-- Tags in ascending key order, one for each key. -/
structure TagSet where
  entries : List (String × String)
  ascending : Keyed.Ascending entries

/-- The keys that a request asks to remove. Order and repetition do not matter. -/
abbrev TagKeys := List String

namespace TagSet

instance : DecidableEq TagSet := fun a b =>
  if h : a.entries = b.entries then
    isTrue (by cases a; cases b; cases h; rfl)
  else isFalse (fun e => h (e ▸ rfl))

def empty : TagSet := ⟨[], Keyed.ascending_nil⟩

instance : Inhabited TagSet := ⟨empty⟩

def get? (key : String) (tags : TagSet) : Option String := Keyed.find? key tags.entries

def has (key : String) (tags : TagSet) : Bool := (tags.get? key).isSome

def insert (key value : String) (tags : TagSet) : TagSet :=
  ⟨Keyed.put key value tags.entries, tags.ascending.put key value⟩

def erase (key : String) (tags : TagSet) : TagSet :=
  ⟨Keyed.erase key tags.entries, tags.ascending.erase key⟩

/-- The tags whose keys are to be kept. -/
def filterKeys (keep : String → Bool) (tags : TagSet) : TagSet :=
  ⟨tags.entries.filter (fun e => keep e.1), tags.ascending.filter _⟩

/-- Sets every given pair in turn, so that of equal keys the last one counts. -/
def insertAll (tags : TagSet) (pairs : List (String × String)) : TagSet :=
  pairs.foldl (fun tags p => tags.insert p.1 p.2) tags

def ofList (pairs : List (String × String)) : TagSet := empty.insertAll pairs

def toList (tags : TagSet) : List (String × String) := tags.entries

def keys (tags : TagSet) : List String := Keyed.keys tags.entries

def size (tags : TagSet) : Nat := tags.entries.length

def isEmpty (tags : TagSet) : Bool := tags.entries.isEmpty

theorem ext_entries {a b : TagSet} (h : a.entries = b.entries) : a = b := by
  cases a; cases b; cases h; rfl

/-- Two tag sets with the same look-ups are equal. -/
theorem ext_get? {a b : TagSet} (h : ∀ key, a.get? key = b.get? key) : a = b :=
  ext_entries (Keyed.eq_of_find?_eq a.ascending b.ascending h)

theorem mem_entries_iff {key value : String} {tags : TagSet} :
    (key, value) ∈ tags.entries ↔ tags.get? key = some value :=
  (Keyed.find?_eq_some_iff tags.ascending).symm

@[simp] theorem get?_empty (key : String) : empty.get? key = none := rfl

theorem get?_insert (key other value : String) (tags : TagSet) :
    (tags.insert key value).get? other = if key = other then some value else tags.get? other :=
  Keyed.find?_put key other value tags.entries

theorem get?_erase (key other : String) (tags : TagSet) :
    (tags.erase key).get? other = if other = key then none else tags.get? other :=
  Keyed.find?_erase key other tags.entries

theorem get?_filterKeys (keep : String → Bool) (key : String) (tags : TagSet) :
    (tags.filterKeys keep).get? key = if keep key then tags.get? key else none :=
  Keyed.find?_filter keep key tags.entries

theorem insertAll_cons (tags : TagSet) (p : String × String) (rest : List (String × String)) :
    tags.insertAll (p :: rest) = (tags.insert p.1 p.2).insertAll rest := rfl

/-- A key of an ascending list of pairs ends with its value there, any other as before. -/
theorem get?_insertAll {pairs : List (String × String)} (h : Keyed.Ascending pairs)
    (tags : TagSet) (key : String) :
    (tags.insertAll pairs).get? key = (Keyed.find? key pairs).or (tags.get? key) := by
  induction pairs generalizing tags with
  | nil => rfl
  | cons p rest ih =>
    obtain ⟨k, v⟩ := p
    obtain ⟨hk, hrest⟩ := List.pairwise_cons.1 h
    rw [insertAll_cons, ih hrest, get?_insert, Keyed.find?_cons]
    by_cases he : k = key
    · subst key
      rw [Keyed.find?_eq_none_iff.2 fun hm => String.lt_irrefl k (hk k hm)]
      simp
    · simp [he]

end TagSet

end TagGovernance
