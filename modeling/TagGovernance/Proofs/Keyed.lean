import Mathlib.Data.List.Nodup
import TagGovernance.Keyed

/-!
# Keys that are set anew

Pairs are set in a keyed list one after the other. A key that is not among them keeps its value, and
one that stands among them with one value only gets that value. Two lists may agree under all keys but
some; what is set in both of them does not tell them apart then.
-/

namespace TagGovernance.Keyed

variable {α : Type}

theorem putAll_append (base xs ys : List (String × α)) :
    putAll base (xs ++ ys) = putAll (putAll base xs) ys := List.foldl_append

theorem find?_putAll {key : String} {base news : List (String × α)} (h : key ∉ keys news) :
    find? key (putAll base news) = find? key base := by
  induction news generalizing base with
  | nil => rfl
  | cons p rest ih =>
    obtain ⟨hkey, hrest⟩ := not_or.1 (mt List.mem_cons.2 h)
    exact (ih hrest).trans (find?_put_of_ne (Ne.symm hkey) p.2 base)

theorem mem_keys_putAll {key : String} {base news : List (String × α)}
    (h : key ∈ keys (putAll base news)) : key ∈ keys base ∨ key ∈ keys news := by
  induction news generalizing base with
  | nil => exact .inl h
  | cons p rest ih =>
    rcases ih h with h | h
    · rcases mem_keys_put.1 h with rfl | h
      · exact .inr List.mem_cons_self
      · exact .inl h
    · exact .inr (List.mem_cons_of_mem _ h)

theorem find?_putAll_of_nodup {base news : List (String × α)} (hnodup : (keys news).Nodup)
    (key : String) : find? key (putAll base news) = (find? key news).or (find? key base) := by
  induction news generalizing base with
  | nil => rfl
  | cons p rest ih =>
    obtain ⟨k, v⟩ := p
    obtain ⟨hk, hrest⟩ := List.nodup_cons.1 hnodup
    change find? key (putAll (put k v base) rest) = _
    rw [ih hrest, find?_put, find?_cons]
    by_cases hkey : k = key
    · subst k
      simp [find?_eq_none_iff.2 hk]
    · simp [hkey]

/-- A key that is set to one value, however often, has it. -/
theorem find?_putAll_of_unique {key : String} {value : α} {base news : List (String × α)}
    (hmem : (key, value) ∈ news) (hunique : ∀ v, (key, v) ∈ news → v = value) :
    find? key (putAll base news) = some value := by
  induction news generalizing base with
  | nil => cases hmem
  | cons p rest ih =>
    by_cases hrest : (key, value) ∈ rest
    · exact ih hrest fun v hv => hunique v (List.mem_cons_of_mem _ hv)
    · obtain rfl : (key, value) = p := (List.mem_cons.1 hmem).resolve_right hrest
      have hnew : key ∉ keys rest := by
        intro hkey
        obtain ⟨⟨_, v⟩, hv, rfl⟩ := List.mem_map.1 hkey
        exact hrest (hunique v (List.mem_cons_of_mem _ hv) ▸ hv)
      exact (find?_putAll hnew).trans (find?_put_self key value base)

variable {apart : List String} {f g h : List (String × α)} {key : String}

/-- Two lists find the same under every other key. -/
def AgreeOff (apart : List String) (f g : List (String × α)) : Prop :=
  ∀ key, key ∉ apart → find? key f = find? key g

namespace AgreeOff

theorem refl (apart : List String) (f : List (String × α)) : AgreeOff apart f f := fun _ _ => rfl

theorem symm (hfg : AgreeOff apart f g) : AgreeOff apart g f := fun key hkey => (hfg key hkey).symm

theorem trans (hfg : AgreeOff apart f g) (hgh : AgreeOff apart g h) : AgreeOff apart f h :=
  fun key hkey => (hfg key hkey).trans (hgh key hkey)

theorem put_self (hkey : key ∈ apart) (value : α) (f : List (String × α)) :
    AgreeOff apart (put key value f) f := by
  intro other hother
  exact find?_put_of_ne (ne_of_mem_of_not_mem hkey hother) value f

/-- What is set in both lists does not tell them apart. -/
theorem putAll (hfg : AgreeOff apart f g) (news : List (String × α)) :
    AgreeOff apart (Keyed.putAll f news) (Keyed.putAll g news) := by
  induction news generalizing f g with
  | nil => exact hfg
  | cons p rest ih =>
    refine ih fun key hkey => ?_
    rw [find?_put, find?_put, hfg key hkey]

end AgreeOff

end TagGovernance.Keyed
