/-!
# Lists looked up by key

Lists of key-value pairs: tag sets, the fields of a JSON object and the tables of a recording are
all held this way. `put` keeps ascending keys ascending, so two ascending lists with the same
look-ups are the same list (`eq_of_find?_eq`). The look-up laws of `put` and `erase` hold of every
list, ascending or not.
-/

namespace TagGovernance.Keyed

variable {α : Type}

/-- The value of the first pair with this key. -/
def find? (key : String) : List (String × α) → Option α
  | [] => none
  | (k, v) :: rest => if k = key then some v else find? key rest

/-- Sets one key, before the first greater one if it is new. -/
def put (key : String) (value : α) : List (String × α) → List (String × α)
  | [] => [(key, value)]
  | (k, v) :: rest =>
    if key < k then (key, value) :: (k, v) :: rest
    else if key = k then (key, value) :: rest
    else (k, v) :: put key value rest

/-- All pairs but those of one key. -/
def erase (key : String) (pairs : List (String × α)) : List (String × α) :=
  pairs.filter (fun p => p.1 ≠ key)

/-- Sets every pair of `news` in turn. -/
def putAll (base news : List (String × α)) : List (String × α) :=
  news.foldl (fun pairs p => put p.1 p.2 pairs) base

/-- The pairs in key order; of equal keys the last one stays. -/
def ofList (pairs : List (String × α)) : List (String × α) := putAll [] pairs

def keys (pairs : List (String × α)) : List String := pairs.map Prod.fst

def Ascending (pairs : List (String × α)) : Prop := (keys pairs).Pairwise (· < ·)

instance (pairs : List (String × α)) : Decidable (Ascending pairs) :=
  inferInstanceAs (Decidable ((keys pairs).Pairwise (· < ·)))

@[simp] theorem find?_nil (key : String) : find? key ([] : List (String × α)) = none := rfl

theorem find?_cons (key k : String) (v : α) (rest : List (String × α)) :
    find? key ((k, v) :: rest) = if k = key then some v else find? key rest := rfl

@[simp] theorem find?_put_self (key : String) (value : α) (pairs : List (String × α)) :
    find? key (put key value pairs) = some value := by
  induction pairs with
  | nil => simp [put, find?]
  | cons p rest ih =>
    obtain ⟨k, v⟩ := p
    simp only [put]
    split
    · simp [find?]
    · split
      · simp [find?]
      · simp [find?, ih, Ne.symm ‹¬key = k›]

theorem find?_put_of_ne {key other : String} (h : key ≠ other) (value : α)
    (pairs : List (String × α)) : find? other (put key value pairs) = find? other pairs := by
  induction pairs with
  | nil => simp [put, find?, h]
  | cons p rest ih =>
    obtain ⟨k, v⟩ := p
    simp only [put]
    split
    · simp [find?, h]
    · split
      · subst k; simp [find?, h]
      · simp [find?, ih]

theorem find?_put (key other : String) (value : α) (pairs : List (String × α)) :
    find? other (put key value pairs) = if key = other then some value else find? other pairs := by
  split
  · subst other; simp
  · exact find?_put_of_ne ‹_› value pairs

theorem find?_filter (keep : String → Bool) (key : String) (pairs : List (String × α)) :
    find? key (pairs.filter (fun p => keep p.1)) = if keep key then find? key pairs else none := by
  induction pairs with
  | nil => simp
  | cons p rest ih =>
    obtain ⟨k, v⟩ := p
    by_cases hk : k = key
    · subst k
      by_cases h : keep key <;> simp [h, find?, ih]
    · by_cases h : keep k <;> simp [h, find?, hk, ih]

theorem find?_erase (key other : String) (pairs : List (String × α)) :
    find? other (erase key pairs) = if other = key then none else find? other pairs := by
  have h := find?_filter (fun k => decide (k ≠ key)) other pairs
  by_cases hk : other = key <;> simp_all [erase]

theorem mem_of_find? {key : String} {value : α} {pairs : List (String × α)}
    (h : find? key pairs = some value) : (key, value) ∈ pairs := by
  induction pairs with
  | nil => simp at h
  | cons p rest ih =>
    obtain ⟨k, v⟩ := p
    by_cases hk : k = key
    · subst k; simp_all [find?]
    · simp_all [find?]

theorem find?_eq_none_iff {key : String} {pairs : List (String × α)} :
    find? key pairs = none ↔ key ∉ keys pairs := by
  induction pairs with
  | nil => simp [keys]
  | cons p rest ih =>
    obtain ⟨k, v⟩ := p
    by_cases hk : k = key <;> simp_all [find?, keys, eq_comm]

theorem ascending_nil : Ascending ([] : List (String × α)) := List.Pairwise.nil

theorem mem_keys_put {key k : String} {value : α} {pairs : List (String × α)} :
    k ∈ keys (put key value pairs) ↔ k = key ∨ k ∈ keys pairs := by
  induction pairs with
  | nil => simp [put, keys]
  | cons p rest ih =>
    obtain ⟨k', v⟩ := p
    simp only [keys] at ih
    simp only [put]
    split
    · simp [keys]
    · split
      · subst key; simp [keys]
      · simp only [keys, List.map_cons, List.mem_cons, ih]
        constructor <;> rintro (h | h | h) <;> simp [h]

theorem Ascending.put {pairs : List (String × α)} (h : Ascending pairs) (key : String) (value : α) :
    Ascending (Keyed.put key value pairs) := by
  induction pairs with
  | nil => simp [Keyed.put, Ascending, keys]
  | cons p rest ih =>
    obtain ⟨k, v⟩ := p
    obtain ⟨hk, hrest⟩ := List.pairwise_cons.1 h
    simp only [Keyed.put]
    split
    · rename_i hlt
      refine List.pairwise_cons.2 ⟨fun a ha => ?_, h⟩
      rcases List.mem_cons.1 ha with rfl | ha
      · exact hlt
      · exact String.lt_trans hlt (hk a ha)
    · split
      · subst key; exact List.pairwise_cons.2 ⟨hk, hrest⟩
      · rename_i hlt hne
        refine List.pairwise_cons.2 ⟨fun a ha => ?_, ih hrest⟩
        rcases mem_keys_put.1 ha with rfl | ha
        · rcases Std.lt_trichotomy a k with h | h | h
          · exact absurd h hlt
          · exact absurd h hne
          · exact h
        · exact hk a ha

theorem Ascending.filter {pairs : List (String × α)} (h : Ascending pairs)
    (keep : String × α → Bool) : Ascending (pairs.filter keep) :=
  List.Pairwise.sublist (List.Sublist.map _ List.filter_sublist) h

theorem Ascending.erase {pairs : List (String × α)} (h : Ascending pairs) (key : String) :
    Ascending (Keyed.erase key pairs) := h.filter _

/-- In an ascending list every pair is what its key finds. -/
theorem find?_eq_some_iff {pairs : List (String × α)} (h : Ascending pairs) {key : String}
    {value : α} : find? key pairs = some value ↔ (key, value) ∈ pairs := by
  refine ⟨mem_of_find?, fun hmem => ?_⟩
  induction pairs with
  | nil => cases hmem
  | cons p rest ih =>
    obtain ⟨hp, hrest⟩ := List.pairwise_cons.1 h
    rcases List.mem_cons.1 hmem with rfl | hmem
    · exact if_pos rfl
    · have hne : p.1 ≠ key := String.ne_of_lt (hp key (List.mem_map_of_mem hmem))
      rw [find?_cons, if_neg hne]
      exact ih hrest hmem

/-- An ascending list is determined by its look-ups. -/
theorem eq_of_find?_eq {xs ys : List (String × α)} (hx : Ascending xs) (hy : Ascending ys)
    (h : ∀ key, find? key xs = find? key ys) : xs = ys := by
  induction xs generalizing ys with
  | nil =>
    cases ys with
    | nil => rfl
    | cons p rest => have := h p.1; simp [find?] at this
  | cons p xs ih =>
    obtain ⟨k, v⟩ := p
    obtain ⟨hk, hxs⟩ := List.pairwise_cons.1 hx
    cases ys with
    | nil => have := h k; simp [find?] at this
    | cons q ys =>
      obtain ⟨k', v'⟩ := q
      obtain ⟨hk', hys⟩ := List.pairwise_cons.1 hy
      have hkey : k = k' := by
        rcases Std.lt_trichotomy k k' with hlt | heq | hlt
        · have hfound := h k
          have hne : k' ≠ k := fun e => String.lt_irrefl k (e ▸ hlt)
          simp only [find?, ↓reduceIte, hne] at hfound
          have hmem := List.mem_map_of_mem (f := Prod.fst) (mem_of_find? hfound.symm)
          exact absurd (String.lt_trans hlt (hk' k hmem)) (String.lt_irrefl k)
        · exact heq
        · have hfound := h k'
          have hne : k ≠ k' := fun e => String.lt_irrefl k (e ▸ hlt)
          simp only [find?, ↓reduceIte, hne] at hfound
          have hmem := List.mem_map_of_mem (f := Prod.fst) (mem_of_find? hfound)
          exact absurd (String.lt_trans hlt (hk k' hmem)) (String.lt_irrefl k')
      subst k'
      have hv : v = v' := by have := h k; simpa [find?] using this
      subst v'
      congr 1
      refine ih hxs hys fun key => ?_
      by_cases hkey : k = key
      · subst key
        rw [find?_eq_none_iff.2 fun hm => String.lt_irrefl k (hk k hm),
          find?_eq_none_iff.2 fun hm => String.lt_irrefl k (hk' k hm)]
      · have := h key
        simpa [find?, hkey] using this

end TagGovernance.Keyed
