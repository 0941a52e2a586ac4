import Mathlib.Data.List.Forall2

/-!
# Fallible computations

Successes and failures of computations that are put together from others. `Agree` compares two
computations over different data: they fail with the same error, or both succeed with related
results.
-/

namespace TagGovernance.Fallible

variable {ε ε' ε'' α α' β β' : Type}

@[simp] theorem ok_bind (a : α) (f : α → Except ε β) : (Except.ok a >>= f) = f a := rfl

@[simp] theorem error_bind (e : ε) (f : α → Except ε β) :
    ((Except.error e : Except ε α) >>= f) = .error e := rfl

@[simp] theorem mapError_ok (f : ε → ε') (a : α) :
    (Except.ok a : Except ε α).mapError f = .ok a := rfl

@[simp] theorem mapError_error (f : ε → ε') (e : ε) :
    (Except.error e : Except ε α).mapError f = .error (f e) := rfl

theorem bind_eq_ok {x : Except ε α} {f : α → Except ε β} {b : β} :
    (x >>= f) = .ok b ↔ ∃ a, x = .ok a ∧ f a = .ok b := by
  cases x <;> simp

theorem mapError_eq_ok {f : ε → ε'} {x : Except ε α} {a : α} :
    x.mapError f = .ok a ↔ x = .ok a := by
  cases x <;> simp

theorem mapError_eq_error {f : ε → ε'} {x : Except ε α} {e' : ε'} :
    x.mapError f = .error e' ↔ ∃ e, x = .error e ∧ f e = e' := by
  cases x <;> simp

theorem mapError_mapError (f : ε → ε') (g : ε' → ε'') (x : Except ε α) :
    (x.mapError f).mapError g = x.mapError (g ∘ f) := by
  cases x <;> rfl

theorem map_eq_ok {f : α → β} {x : Except ε α} {b : β} :
    x.map f = .ok b ↔ ∃ a, x = .ok a ∧ f a = b := by
  cases x <;> simp [Except.map]

theorem map_eq_error {f : α → β} {x : Except ε α} {e : ε} : x.map f = .error e ↔ x = .error e := by
  cases x <;> simp [Except.map]

theorem mapM_cons_eq (f : α → Except ε β) (x : α) (xs : List α) :
    (x :: xs).mapM f = f x >>= fun y => xs.mapM f >>= fun ys => .ok (y :: ys) := List.mapM_cons

theorem mapM_eq_ok {f : α → Except ε β} {xs : List α} {ys : List β} :
    xs.mapM f = .ok ys ↔ List.Forall₂ (fun x y => f x = .ok y) xs ys := by
  induction xs generalizing ys with
  | nil =>
    rw [List.forall₂_nil_left_iff]
    exact ⟨fun h => (Except.ok.inj h).symm, fun h => congrArg Except.ok h.symm⟩
  | cons x xs ih =>
    rw [mapM_cons_eq, List.forall₂_cons_left_iff, bind_eq_ok]
    constructor
    · rintro ⟨y, hy, h⟩
      obtain ⟨rest, hrest, h⟩ := bind_eq_ok.1 h
      exact ⟨y, rest, hy, ih.1 hrest, (Except.ok.inj h).symm⟩
    · rintro ⟨y, rest, hy, hrest, rfl⟩
      exact ⟨y, hy, bind_eq_ok.2 ⟨rest, ih.2 hrest, rfl⟩⟩

theorem mem_of_mapM {f : α → Except ε β} {xs : List α} {ys : List β} {y : β}
    (h : xs.mapM f = .ok ys) (hy : y ∈ ys) : ∃ x ∈ xs, f x = .ok y := by
  induction mapM_eq_ok.1 h with
  | nil => cases hy
  | @cons x _ _ _ head tail ih =>
    rcases List.mem_cons.1 hy with rfl | hy
    · exact ⟨x, List.mem_cons_self, head⟩
    · obtain ⟨x, hx, hxy⟩ := ih (mapM_eq_ok.2 tail) hy
      exact ⟨x, List.mem_cons_of_mem _ hx, hxy⟩

theorem exists_of_mapM {f : α → Except ε β} {xs : List α} {ys : List β} {x : α}
    (h : xs.mapM f = .ok ys) (hx : x ∈ xs) : ∃ y ∈ ys, f x = .ok y := by
  induction mapM_eq_ok.1 h with
  | nil => cases hx
  | @cons _ y _ _ head tail ih =>
    rcases List.mem_cons.1 hx with rfl | hx
    · exact ⟨y, List.mem_cons_self, head⟩
    · obtain ⟨y, hy, hxy⟩ := ih (mapM_eq_ok.2 tail) hx
      exact ⟨y, List.mem_cons_of_mem _ hy, hxy⟩

/-- A second pass over what the first one gave succeeds element by element, too. -/
theorem mapM_then_eq_ok {f : α → Except ε β} {g : β → Except ε' β'} {xs : List α} {zs : List β'} :
    (∃ ys, xs.mapM f = .ok ys ∧ ys.mapM g = .ok zs) ↔
      List.Forall₂ (fun x z => ∃ y, f x = .ok y ∧ g y = .ok z) xs zs := by
  simp only [mapM_eq_ok]
  constructor
  · rintro ⟨ys, hfirst, hsecond⟩
    induction hfirst generalizing zs with
    | nil =>
      obtain rfl := List.forall₂_nil_left_iff.1 hsecond
      exact .nil
    | cons hy _ ih =>
      obtain ⟨z, rest, hz, hrest, rfl⟩ := List.forall₂_cons_left_iff.1 hsecond
      exact .cons ⟨_, hy, hz⟩ (ih hrest)
  · intro h
    induction h with
    | nil => exact ⟨[], .nil, .nil⟩
    | cons hboth _ ih =>
      obtain ⟨y, hy, hz⟩ := hboth
      obtain ⟨ys, hfirst, hsecond⟩ := ih
      exact ⟨y :: ys, .cons hy hfirst, .cons hz hsecond⟩

theorem forall_mapM {f : α → Except ε β} {xs : List α} {ys : List β} {P : β → Prop}
    (h : xs.mapM f = .ok ys) : (∀ y ∈ ys, P y) ↔ ∀ x ∈ xs, ∃ y, f x = .ok y ∧ P y := by
  rw [mapM_eq_ok] at h
  induction h with
  | nil => simp
  | @cons x y xs ys hxy _ ih => simp [hxy, ih]

theorem mapM_succeeds_iff {f : α → Except ε β} {xs : List α} :
    (∃ ys, xs.mapM f = .ok ys) ↔ ∀ x ∈ xs, ∃ y, f x = .ok y := by
  constructor
  · rintro ⟨ys, h⟩
    induction mapM_eq_ok.1 h with
    | nil => exact nofun
    | cons head tail ih =>
      exact List.forall_mem_cons.2 ⟨⟨_, head⟩, ih (mapM_eq_ok.2 tail)⟩
  · intro h
    induction xs with
    | nil => exact ⟨[], rfl⟩
    | cons x xs ih =>
      obtain ⟨⟨y, hy⟩, hrest⟩ := List.forall_mem_cons.1 h
      obtain ⟨ys, hys⟩ := ih hrest
      exact ⟨y :: ys, by rw [mapM_cons_eq, hy, hys]; rfl⟩

/-- A pass fails with the failure of the first element that fails. -/
theorem mapM_eq_error {f : α → Except ε β} {xs : List α} {e : ε} : xs.mapM f = .error e ↔
    ∃ before x after, xs = before ++ x :: after ∧ (∀ y ∈ before, ∃ z, f y = .ok z) ∧
      f x = .error e := by
  constructor
  · intro h
    induction xs with
    | nil => cases h
    | cons x xs ih =>
      rw [mapM_cons_eq] at h
      cases hx : f x with
      | error e' =>
        rw [hx] at h
        obtain rfl := Except.error.inj h
        exact ⟨[], x, xs, rfl, nofun, hx⟩
      | ok y =>
        rw [hx, ok_bind] at h
        cases hxs : xs.mapM f with
        | ok ys => simp [hxs] at h
        | error e' =>
          rw [hxs] at h
          obtain rfl := Except.error.inj h
          obtain ⟨before, x', after, rfl, hbefore, hx'⟩ := ih hxs
          exact ⟨x :: before, x', after, rfl, List.forall_mem_cons.2 ⟨⟨y, hx⟩, hbefore⟩, hx'⟩
  · rintro ⟨before, x, after, rfl, hbefore, hx⟩
    induction before with
    | nil => rw [List.nil_append, mapM_cons_eq, hx, error_bind]
    | cons y before ih =>
      obtain ⟨⟨z, hz⟩, hrest⟩ := List.forall_mem_cons.1 hbefore
      rw [List.cons_append, mapM_cons_eq, hz, ih hrest, ok_bind, error_bind]

/-- A second pass that cannot fail on what the first one gave can be made together with it. -/
theorem mapM_mapM {f : α → Except ε β} {g : β → Except ε' β'} {k : α → β → β'} (wrap : ε → ε')
    {xs : List α} (h : ∀ x ∈ xs, ∀ y, f x = .ok y → g y = .ok (k x y)) :
    ((xs.mapM f).mapError wrap >>= fun ys => ys.mapM g) =
      (xs.mapM fun x => (f x).map (k x)).mapError wrap := by
  induction xs with
  | nil => rfl
  | cons x xs ih =>
    obtain ⟨hx, hxs⟩ := List.forall_mem_cons.1 h
    have ih := ih hxs
    rw [mapM_cons_eq, mapM_cons_eq]
    cases hy : f x with
    | error e => rfl
    | ok y =>
      have hz := hx y hy
      change ((xs.mapM f >>= fun ys => .ok (y :: ys)).mapError wrap >>= _) =
        (xs.mapM (fun x => (f x).map (k x)) >>= fun zs => .ok (k x y :: zs)).mapError wrap
      cases hys : xs.mapM f with
      | error e => cases hzs : xs.mapM fun x => (f x).map (k x) with
        | error e' => simpa [hys, hzs] using ih
        | ok zs => simp [hys, hzs] at ih
      | ok ys => cases hzs : xs.mapM fun x => (f x).map (k x) with
        | error e' => simp_all
        | ok zs => simp_all

theorem mapM_of_forall {f : α → Except ε β} {g : α → β} {xs : List α}
    (h : ∀ x ∈ xs, f x = .ok (g x)) : xs.mapM f = .ok (xs.map g) := by
  rw [mapM_eq_ok, List.forall₂_map_right_iff, List.forall₂_same]
  exact h

def Fails (P : ε → Prop) (x : Except ε α) : Prop := ∀ e, x = .error e → P e

namespace Fails

variable {P : ε → Prop}

theorem ok (a : α) : Fails P (.ok a : Except ε α) := fun _ h => nomatch h

theorem error {e : ε} (h : P e) : Fails P (.error e : Except ε α) := by
  rintro _ ⟨⟩
  exact h

theorem bind {x : Except ε α} {f : α → Except ε β} (h : Fails P x)
    (next : ∀ a, x = .ok a → Fails P (f a)) : Fails P (x >>= f) := by
  cases x with
  | error e => exact error (h e rfl)
  | ok a => exact next a rfl

theorem mapError {x : Except ε' α} {f : ε' → ε} (h : ∀ e, P (f e)) : Fails P (x.mapError f) := by
  cases x with
  | error e => exact error (h e)
  | ok a => exact ok a

theorem mapM {f : α → Except ε β} (h : ∀ a, Fails P (f a)) (xs : List α) : Fails P (xs.mapM f) := by
  induction xs with
  | nil => exact ok []
  | cons x xs ih =>
    rw [mapM_cons_eq]
    exact (h x).bind fun y _ => ih.bind fun ys _ => ok (y :: ys)

end Fails

/-- The same error, or results that are related. -/
def Agree (R : α → β → Prop) : Except ε α → Except ε β → Prop
  | .ok a, .ok b => R a b
  | .error e, .error e' => e = e'
  | _, _ => False

namespace Agree

variable {R : α → β → Prop} {S : α' → β' → Prop}

theorem refl (x : Except ε α) : Agree Eq x x := by
  cases x <;> rfl

theorem eq {x y : Except ε α} (h : Agree Eq x y) : x = y := by
  cases x <;> cases y <;> simp_all [Agree]

theorem cases {x : Except ε α} {y : Except ε β} (h : Agree R x y) :
    (∃ e, x = .error e ∧ y = .error e) ∨ ∃ a b, x = .ok a ∧ y = .ok b ∧ R a b := by
  cases x with
  | error e => cases y with
    | error e' => exact .inl ⟨e, rfl, congrArg _ (Eq.symm h)⟩
    | ok b => exact h.elim
  | ok a => cases y with
    | error e' => exact h.elim
    | ok b => exact .inr ⟨a, b, rfl, rfl, h⟩

theorem bind {x : Except ε α} {y : Except ε β} {f : α → Except ε α'} {g : β → Except ε β'}
    (h : Agree R x y) (next : ∀ a b, R a b → Agree S (f a) (g b)) :
    Agree S (x >>= f) (y >>= g) := by
  rcases h.cases with ⟨e, rfl, rfl⟩ | ⟨a, b, rfl, rfl, hab⟩
  · rfl
  · exact next a b hab

theorem mapError {x : Except ε α} {y : Except ε β} (f : ε → ε') (h : Agree R x y) :
    Agree R (x.mapError f) (y.mapError f) := by
  rcases h.cases with ⟨e, rfl, rfl⟩ | ⟨a, b, rfl, rfl, hab⟩
  · rfl
  · exact hab

theorem mono {T : α → β → Prop} {x : Except ε α} {y : Except ε β} (h : Agree R x y)
    (weaken : ∀ a b, R a b → T a b) : Agree T x y := by
  rcases h.cases with ⟨e, rfl, rfl⟩ | ⟨a, b, rfl, rfl, hab⟩
  · rfl
  · exact weaken a b hab

/-- Related lists are gone through with the same first error, or with related results. -/
theorem mapM {xs : List α} {ys : List β} {f : α → Except ε α'} {g : β → Except ε β'}
    (h : List.Forall₂ R xs ys) (step : ∀ a b, R a b → Agree S (f a) (g b)) :
    Agree (List.Forall₂ S) (xs.mapM f) (ys.mapM g) := by
  induction h with
  | nil => exact List.Forall₂.nil
  | cons head _ ih =>
    rw [mapM_cons_eq, mapM_cons_eq]
    refine (step _ _ head).bind fun a b hab => ?_
    exact ih.bind fun as bs hs => List.Forall₂.cons hab hs

end Agree

end TagGovernance.Fallible
