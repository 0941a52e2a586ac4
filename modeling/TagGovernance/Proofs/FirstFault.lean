import Mathlib.Data.List.Basic
import Mathlib.Data.List.Induction

/-!
# First faults

A list is gone through from its front, and whether an element is at fault depends on the elements
before it. Either no element is, or there is a first one.
-/

namespace TagGovernance

/-- No element of a list is at fault, given the elements before it. -/
def Flawless {α ε : Type} (Fault : List α → α → ε → Prop) (xs : List α) : Prop :=
  ∀ before x after error, xs = before ++ x :: after → ¬Fault before x error

namespace Flawless

variable {α ε : Type} {Fault : List α → α → ε → Prop} {xs : List α} {x : α}

theorem nil : Flawless Fault [] := by
  intro before x after error hsplit
  simp at hsplit

theorem concat_iff : Flawless Fault (xs ++ [x]) ↔
    Flawless Fault xs ∧ ¬∃ error, Fault xs x error := by
  constructor
  · refine fun h => ⟨fun before y after error hsplit => ?_, fun ⟨error, hfault⟩ => ?_⟩
    · refine h before y (after ++ [x]) error ?_
      rw [hsplit, List.append_assoc, List.cons_append]
    · exact h xs x [] error rfl hfault
  · rintro ⟨hxs, hlast⟩ before y after error hsplit hfault
    rcases List.eq_nil_or_concat' after with rfl | ⟨inner, last, rfl⟩
    · obtain ⟨rfl, hy⟩ := List.append_inj' hsplit rfl
      obtain rfl := List.singleton_inj.1 hy
      exact hlast ⟨error, hfault⟩
    · rw [← List.cons_append, ← List.append_assoc] at hsplit
      exact hxs before y inner error (List.append_inj' hsplit rfl).1 hfault

theorem or_first (Fault : List α → α → ε → Prop) (xs : List α) : Flawless Fault xs ∨
    ∃ before x after error, xs = before ++ x :: after ∧ Flawless Fault before ∧
      Fault before x error := by
  induction xs using List.reverseRecOn with
  | nil => exact .inl nil
  | append_singleton xs x ih =>
    rcases ih with hxs | ⟨before, first, after, error, rfl, hbefore, hfault⟩
    · by_cases h : ∃ error, Fault xs x error
      · obtain ⟨error, hfault⟩ := h
        exact .inr ⟨xs, x, [], error, rfl, hxs, hfault⟩
      · exact .inl (concat_iff.2 ⟨hxs, h⟩)
    · refine .inr ⟨before, first, after ++ [x], error, ?_, hbefore, hfault⟩
      rw [List.append_assoc, List.cons_append]

/-- A check that reports every first fault, and none of a list without faults, reports just the
first one. -/
theorem reports_iff {β : Type} {result : β} {report : ε → β} (hreport : Function.Injective report)
    (hfault : ∀ before x after error, xs = before ++ x :: after → Flawless Fault before →
      Fault before x error → result = report error)
    (hflawless : Flawless Fault xs → ∀ error, result ≠ report error) (error : ε) :
    result = report error ↔ ∃ before x after,
      xs = before ++ x :: after ∧ Flawless Fault before ∧ Fault before x error := by
  constructor
  · intro h
    rcases or_first Fault xs with hxs | ⟨before, x, after, found, hsplit, hbefore, hx⟩
    · exact absurd h (hflawless hxs error)
    · have hsame : found = error :=
        hreport ((hfault before x after found hsplit hbefore hx).symm.trans h)
      exact ⟨before, x, after, hsplit, hbefore, hsame ▸ hx⟩
  · rintro ⟨before, x, after, hsplit, hbefore, hx⟩
    exact hfault before x after error hsplit hbefore hx

end Flawless

end TagGovernance
