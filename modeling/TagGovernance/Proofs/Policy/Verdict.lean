import Mathlib.Data.Finset.Dedup
import Mathlib.Data.Finset.Filter
import Mathlib.Data.List.Forall2
import TagGovernance.Proofs.Policy.Exclusion

/-!
# Verdicts on policies

A policy is open to everyone, or there are finitely many accounts that it lets in, and the verdict is
whether all of them are trusted. Each statement adds to the one or to the other, so statements that
allow nothing do not count, and a policy with more statements lets in no less. The order of the items
in any list of the policy does not matter.
-/

namespace TagGovernance

/-- The same value but for the order of the items in its lists. -/
inductive Json.Reordered : Json → Json → Prop
  | refl (v : Json) : Reordered v v
  | arr {items others sorted : List Json} (same : List.Forall₂ Reordered items others)
      (order : others.Perm sorted) : Reordered (.arr items) (.arr sorted)
  | obj {fields others : List (String × Json)}
      (names : fields.map Prod.fst = others.map Prod.fst)
      (values : List.Forall₂ Reordered (fields.map Prod.snd) (others.map Prod.snd)) :
      Reordered (.obj fields) (.obj others)

namespace Json.Reordered

variable {v v' : Json} {fields others : List (String × Json)}

abbrev Fields : List (String × Json) → List (String × Json) → Prop :=
  List.Forall₂ fun f g => f.1 = g.1 ∧ Reordered f.2 g.2

theorem forall_fields (names : fields.map Prod.fst = others.map Prod.fst)
    (values : List.Forall₂ Reordered (fields.map Prod.snd) (others.map Prod.snd)) :
    Fields fields others := by
  induction fields generalizing others with
  | nil =>
    obtain rfl := List.map_eq_nil_iff.1 names.symm
    exact .nil
  | cons f rest ih =>
    cases others with
    | nil => cases names
    | cons g others =>
      obtain ⟨hname, hnames⟩ := List.cons.inj names
      obtain ⟨hvalue, hvalues⟩ := List.forall₂_cons.1 values
      exact .cons ⟨hname, hvalue⟩ (ih hnames hvalues)

theorem find? (h : Fields fields others) (test : String → Bool) :
    Option.Rel Reordered ((fields.find? fun f => test f.1).map Prod.snd)
      ((others.find? fun f => test f.1).map Prod.snd) := by
  induction h with
  | nil => exact .none
  | @cons f g _ _ hfield _ ih =>
    obtain ⟨hname, hvalue⟩ := hfield
    rw [List.find?_cons, List.find?_cons, hname]
    cases test g.1 with
    | true => exact .some hvalue
    | false => exact ih

theorem keyed_find? (h : Fields fields others) (key : String) :
    Option.Rel Reordered (Keyed.find? key fields) (Keyed.find? key others) := by
  induction h with
  | nil => exact .none
  | @cons f g _ _ hfield _ ih =>
    obtain ⟨name, value⟩ := f
    obtain ⟨rfl, hvalue⟩ := hfield
    rw [Keyed.find?_cons, Keyed.find?]
    split
    · exact .some hvalue
    · exact ih

theorem field? (h : Reordered v v') (key : String) :
    Option.Rel Reordered (v.field? key) (v'.field? key) := by
  cases h with
  | refl =>
    cases v.field? key with
    | none => exact .none
    | some value => exact .some (.refl value)
  | arr => exact .none
  | obj names values => exact keyed_find? (forall_fields names values) key

theorem asString? (h : Reordered v v') : v.asString? = v'.asString? := by
  cases h <;> rfl

theorem filterMap_asString? {items items' : List Json} (h : List.Forall₂ Reordered items items') :
    items.filterMap Json.asString? = items'.filterMap Json.asString? := by
  induction h with
  | nil => rfl
  | cons hitem _ ih => rw [List.filterMap_cons, List.filterMap_cons, hitem.asString?, ih]

theorem textsOf_perm (h : Reordered v v') : (textsOf v).Perm (textsOf v') := by
  cases h with
  | refl => exact .refl _
  | arr same order => exact .trans (.of_eq (filterMap_asString? same)) (order.filterMap _)
  | obj => exact .refl _

theorem texts_getD {o o' : Option Json} (h : Option.Rel Reordered o o') :
    ((o.map textsOf).getD []).Perm ((o'.map textsOf).getD []) := by
  cases h with
  | none => exact .refl _
  | some h => exact h.textsOf_perm

theorem clauseAccounts_perm (h : Reordered v v') :
    (clauseAccounts v).Perm (clauseAccounts v') := by
  cases h with
  | refl => exact .refl _
  | arr => exact .refl _
  | obj names values =>
    refine List.Perm.flatMap_left _ fun key _ => texts_getD ?_
    exact find? (forall_fields names values) fun name => lowerAscii name = lowerAscii key

theorem conditionAccounts_perm (h : Reordered v v') :
    (conditionAccounts v).Perm (conditionAccounts v') := by
  have hfield := h.field? "Condition"
  rw [conditionAccounts_eq, conditionAccounts_eq, clausesOf, clausesOf]
  generalize v.field? "Condition" = o at hfield
  generalize v'.field? "Condition" = o' at hfield
  cases hfield with
  | none => exact .refl _
  | some h =>
    cases h with
    | refl => exact .refl _
    | arr => exact .refl _
    | obj names values =>
      have hclauses := forall_fields names values
      clear names values
      induction hclauses with
      | nil => exact .refl _
      | cons hclause _ ih => exact hclause.2.clauseAccounts_perm.append ih

theorem principalsOf_perm (h : Reordered v v') :
    (principalsOf v).Perm (principalsOf v') := by
  have hfield := h.field? "Principal"
  rw [principalsOf, principalsOf]
  generalize v.field? "Principal" = o at hfield
  generalize v'.field? "Principal" = o' at hfield
  cases hfield with
  | none => exact .refl _
  | some h =>
    cases h with
    | refl => exact .refl _
    | arr => exact .refl _
    | obj names values => exact texts_getD (keyed_find? (forall_fields names values) "AWS")

theorem exists_statements (h : Reordered v v') :
    ∃ statements, List.Forall₂ Reordered (statementsOf v) statements ∧
      statements.Perm (statementsOf v') := by
  have hfield := h.field? "Statement"
  rw [statementsOf, statementsOf]
  generalize v.field? "Statement" = o at hfield
  generalize v'.field? "Statement" = o' at hfield
  cases hfield with
  | none => exact ⟨[], .nil, .refl _⟩
  | some h =>
    cases h with
    | refl => exact ⟨_, List.forall₂_same.2 fun s _ => .refl s, .refl _⟩
    | arr same order => exact ⟨_, same, order⟩
    | obj names values => exact ⟨_, .cons (.obj names values) .nil, .refl _⟩

theorem allows (h : Reordered v v') :
    CrossAccountFilter.allows v = CrossAccountFilter.allows v' := by
  have hfield := h.field? "Effect"
  rw [CrossAccountFilter.allows, CrossAccountFilter.allows]
  generalize v.field? "Effect" = o at hfield
  generalize v'.field? "Effect" = o' at hfield
  cases hfield with
  | none => rfl
  | some h => rw [Option.bind_some, Option.bind_some, h.asString?]

end Json.Reordered

/-- A statement that lets in everyone, with no condition on the account. -/
structure OpenToAll (statement : Json) : Prop where
  allows : CrossAccountFilter.allows statement = true
  everyone : "*" ∈ principalsOf statement
  unconditional : conditionAccounts statement = []

/-- The accounts that a principal stands for; everyone stands for those of the conditions. -/
def accountsOf (statement : Json) (principal : String) : List String :=
  if principal = "*" then conditionAccounts statement else (accountOf? principal).toList

def letInBy (statement : Json) : List String :=
  if CrossAccountFilter.allows statement then
    (principalsOf statement).flatMap (accountsOf statement)
  else []

def attachedStatements (record : Json) : List Json := ((policyOf? record).map statementsOf).getD []

namespace CrossAccountFilter

variable {filter : CrossAccountFilter} {owner : Option String} {resource : ResourceRef}
  {statement other record record' : Json} {principal : String}

theorem letsIn_iff : filter.letsIn owner statement principal = true ↔
    (principal = "*" ∧ conditionAccounts statement = []) ∨
      ∃ a ∈ accountsOf statement principal, ¬filter.Trusted owner a := by
  by_cases heveryone : principal = "*"
  · subst heveryone
    rw [← not_iff_not, Bool.not_eq_true, letsIn_everyone]
    simp [accountsOf, List.eq_nil_iff_forall_not_mem]
  · rw [← not_iff_not, Bool.not_eq_true, letsIn_other heveryone]
    simp [accountsOf, heveryone]

/-- A statement grants access if it is open to all, or lets in an account that is not trusted. -/
theorem grants_iff : filter.grants owner statement = true ↔
    OpenToAll statement ∨ ∃ a ∈ letInBy statement, ¬filter.Trusted owner a := by
  cases hallows : allows statement with
  | false =>
    have hclosed : ¬OpenToAll statement := fun h => by simp [h.allows] at hallows
    simp [grants, letInBy, hallows, hclosed]
  | true =>
    have hopen : OpenToAll statement ↔
        "*" ∈ principalsOf statement ∧ conditionAccounts statement = [] :=
      ⟨fun h => ⟨h.everyone, h.unconditional⟩, fun h => ⟨hallows, h.1, h.2⟩⟩
    rw [grants, hallows, Bool.true_and, List.any_eq_true, hopen, letInBy, if_pos hallows]
    simp only [letsIn_iff, List.mem_flatMap]
    constructor
    · rintro ⟨p, hp, ⟨rfl, hnone⟩ | ⟨a, ha, htrusted⟩⟩
      · exact .inl ⟨hp, hnone⟩
      · exact .inr ⟨a, ⟨p, hp, ha⟩, htrusted⟩
    · rintro (⟨hp, hnone⟩ | ⟨a, ⟨p, hp, ha⟩, htrusted⟩)
      · exact ⟨"*", hp, .inl ⟨rfl, hnone⟩⟩
      · exact ⟨p, hp, .inr ⟨a, ha, htrusted⟩⟩

/-- The order of principals and of what conditions name does not matter. -/
theorem grants_reordered (h : statement.Reordered other) (filter : CrossAccountFilter)
    (owner : Option String) : filter.grants owner statement = filter.grants owner other := by
  have haccounts := h.conditionAccounts_perm
  have hletsIn : filter.letsIn owner statement = filter.letsIn owner other := by
    funext principal
    simp only [letsIn, haccounts.isEmpty_eq, haccounts.any_eq]
  rw [grants, grants, h.allows, hletsIn, h.principalsOf_perm.any_eq]

theorem any_grants_reordered {statements others : List Json}
    (h : List.Forall₂ Json.Reordered statements others) (filter : CrossAccountFilter)
    (owner : Option String) :
    statements.any (filter.grants owner) = others.any (filter.grants owner) := by
  induction h with
  | nil => rfl
  | cons hstatement _ ih => rw [List.any_cons, List.any_cons, grants_reordered hstatement, ih]

theorem accepts_eq (filter : CrossAccountFilter) (resource : ResourceRef) (record : Json) :
    filter.accepts resource record =
      (attachedStatements record).any (filter.grants (resource.arn.bind accountOf?)) := by
  rw [accepts, attachedStatements]
  cases policyOf? record <;> rfl

theorem accepts_iff : filter.accepts resource record = true ↔
    (∃ statement ∈ attachedStatements record, OpenToAll statement) ∨
      ∃ a, (∃ statement ∈ attachedStatements record, a ∈ letInBy statement) ∧
        ¬filter.Trusted (resource.arn.bind accountOf?) a := by
  simp only [accepts_eq, List.any_eq_true, grants_iff, and_or_left, exists_or]
  refine or_congr Iff.rfl ⟨?_, ?_⟩
  · rintro ⟨statement, hmem, a, ha, htrusted⟩
    exact ⟨a, ⟨statement, hmem, ha⟩, htrusted⟩
  · rintro ⟨a, ⟨statement, hmem, ha⟩, htrusted⟩
    exact ⟨statement, hmem, a, ha, htrusted⟩

theorem accepts_reordered (h : Option.Rel Json.Reordered (policyOf? record) (policyOf? record'))
    (filter : CrossAccountFilter) (resource : ResourceRef) :
    filter.accepts resource record = filter.accepts resource record' := by
  rw [accepts, accepts]
  generalize policyOf? record = o at h
  generalize policyOf? record' = o' at h
  cases h with
  | none => rfl
  | some h =>
    obtain ⟨statements, hsame, horder⟩ := h.exists_statements
    exact (any_grants_reordered hsame ..).trans horder.any_eq

/-- Statements that allow nothing grant nothing. -/
theorem accepts_eq_any_allowing (filter : CrossAccountFilter) (resource : ResourceRef)
    (record : Json) : filter.accepts resource record =
      ((attachedStatements record).filter allows).any
        (filter.grants (resource.arn.bind accountOf?)) := by
  rw [accepts_eq, List.any_filter]
  refine congrArg _ (funext fun statement => ?_)
  rw [grants, ← Bool.and_assoc, Bool.and_self]

def othersLetIn (owner : Option String) (record : Json) : Finset String :=
  ((attachedStatements record).flatMap letInBy).toFinset.filter fun a => owner ≠ some a

theorem mem_othersLetIn {account : String} : account ∈ othersLetIn owner record ↔
    (∃ statement ∈ attachedStatements record, account ∈ letInBy statement) ∧
      owner ≠ some account := by
  rw [othersLetIn, Finset.mem_filter, List.mem_toFinset, List.mem_flatMap]

/-- A policy that is open to no one lets in others just if not all of them are allowed. -/
theorem accepts_of_closed (h : ¬∃ statement ∈ attachedStatements record, OpenToAll statement)
    (allowed : List String) : accepts ⟨allowed⟩ resource record = true ↔
      ¬∀ a ∈ othersLetIn (resource.arn.bind accountOf?) record, a ∈ allowed := by
  simp only [accepts_iff, or_iff_right h, not_forall, exists_prop, mem_othersLetIn, Trusted,
    not_or, and_assoc]

/-- The verdict is whether some of these accounts are not allowed, of which the owner is none. -/
structure DecidedBy (accounts : Finset String) (resource : ResourceRef) (record : Json) : Prop where
  others : ∀ a ∈ accounts, resource.arn.bind accountOf? ≠ some a
  decides : ∀ allowed, accepts ⟨allowed⟩ resource record = true ↔ ¬∀ a ∈ accounts, a ∈ allowed

/-- Allowing all of the accounts turns the verdict. -/
theorem DecidedBy.not_always {accounts : Finset String} (h : DecidedBy accounts resource record) :
    ¬∀ allowed, accepts ⟨allowed⟩ resource record = true := fun always =>
  (h.decides accounts.toList).1 (always _) fun _ ha => Finset.mem_toList.2 ha

def openStatement : Json := .obj [("Effect", .str "Allow"), ("Principal", .str "*")]

theorem openToAll_openStatement : OpenToAll openStatement := ⟨by decide, by decide, by decide⟩

def withStatements (statements : List Json) : Json :=
  .obj [("govtag:Policy", .obj [("Statement", .arr statements)])]

theorem attachedStatements_withStatements (statements : List Json) :
    attachedStatements (withStatements statements) = statements := rfl

/-- Either access is granted whatever accounts are allowed, or there are finitely many accounts other
than the owner's, and it is granted just if not all of them are allowed. The order of statements, of
principals and of the values of conditions does not matter, and statements that allow nothing do not
count. A policy that grants access does so with more statements, too, and any policy does with one
more of the right kind. -/
theorem accepts_normal_form (resource : ResourceRef) (record : Json) :
    Xor (∀ allowed, accepts ⟨allowed⟩ resource record = true)
      (∃ accounts, DecidedBy accounts resource record) ∧
    (∀ record', Option.Rel Json.Reordered (policyOf? record) (policyOf? record') →
      ∀ filter, accepts filter resource record = accepts filter resource record') ∧
    (∀ record', (attachedStatements record).filter allows =
        (attachedStatements record').filter allows →
      ∀ filter, accepts filter resource record = accepts filter resource record') ∧
    (∀ record', attachedStatements record ⊆ attachedStatements record' →
      ∀ filter, accepts filter resource record = true → accepts filter resource record' = true) ∧
    ∃ statement record', attachedStatements record' = attachedStatements record ++ [statement] ∧
      ∀ filter, accepts filter resource record' = true := by
  refine ⟨?_, fun record' h filter => accepts_reordered h filter resource, ?_, ?_, openStatement,
    withStatements _, attachedStatements_withStatements _, fun filter => ?_⟩
  · by_cases hopen : ∃ statement ∈ attachedStatements record, OpenToAll statement
    · have always (allowed : List String) : accepts ⟨allowed⟩ resource record = true :=
        accepts_iff.2 (.inl hopen)
      exact .inl ⟨always, fun ⟨_, hdecided⟩ => hdecided.not_always always⟩
    · have hdecided : DecidedBy (othersLetIn (resource.arn.bind accountOf?) record) resource record :=
        ⟨fun a ha => (mem_othersLetIn.1 ha).2, accepts_of_closed hopen⟩
      exact .inr ⟨⟨_, hdecided⟩, hdecided.not_always⟩
  · intro record' hallowing filter
    rw [accepts_eq_any_allowing, accepts_eq_any_allowing, hallowing]
  · intro record' hmore filter hgranted
    rw [accepts_eq, List.any_eq_true] at hgranted ⊢
    obtain ⟨statement, hmem, hgrants⟩ := hgranted
    exact ⟨statement, hmore hmem, hgrants⟩
  · rw [accepts_iff, attachedStatements_withStatements]
    exact .inl ⟨openStatement, List.mem_append_right _ List.mem_cons_self, openToAll_openStatement⟩

def denial : Json := .obj [("Effect", .str "Deny"), ("Principal", .str "*")]

def sharing (principals accounts : List String) : Json := .obj [
  ("Condition", .obj [("StringEquals",
    .obj [("aws:SourceAccount", .arr (accounts.map .str))])]),
  ("Effect", .str "Allow"),
  ("Principal", .obj [("AWS", .arr (principals.map .str))])]

def shared : Json :=
  withStatements [denial, sharing ["*", "222222222222"] ["111111111111", "333333333333"]]

def turned : Json :=
  withStatements [sharing ["222222222222", "*"] ["333333333333", "111111111111"], denial]

def undenied : Json :=
  withStatements [sharing ["*", "222222222222"] ["111111111111", "333333333333"]]

theorem accepts_normal_form_shared :
    (∃ accounts, DecidedBy accounts accessPoint shared) ∧
    Option.Rel Json.Reordered (policyOf? shared) (policyOf? turned) ∧
    (∀ filter, accepts filter accessPoint shared = accepts filter accessPoint turned) ∧
    (attachedStatements shared).filter allows = (attachedStatements undenied).filter allows ∧
    (∀ filter, accepts filter accessPoint shared = accepts filter accessPoint undenied) ∧
    attachedStatements undenied ⊆ attachedStatements shared ∧
    accepts ⟨["222222222222"]⟩ accessPoint undenied = true ∧
    accepts ⟨["222222222222"]⟩ accessPoint shared = true := by
  have hreordered : Option.Rel Json.Reordered (policyOf? shared) (policyOf? turned) := by
    have hsharing : (sharing ["*", "222222222222"] ["111111111111", "333333333333"]).Reordered
        (sharing ["222222222222", "*"] ["333333333333", "111111111111"]) := by
      have hsame (items : List Json) : List.Forall₂ Json.Reordered items items :=
        List.forall₂_same.2 fun v _ => .refl v
      refine .obj rfl (.cons (.obj rfl (.cons (.obj rfl (.cons ?_ .nil)) .nil))
        (.cons (.refl _) (.cons (.obj rfl (.cons ?_ .nil)) .nil)))
      · exact .arr (hsame _) (.swap ..)
      · exact .arr (hsame _) (.swap ..)
    exact .some (.obj rfl (.cons (.arr (.cons (.refl _) (.cons hsharing .nil)) (.swap ..)) .nil))
  have hallowing : (attachedStatements shared).filter allows =
      (attachedStatements undenied).filter allows := rfl
  have hmore : attachedStatements undenied ⊆ attachedStatements shared := fun _ hmem =>
    List.mem_cons_of_mem denial hmem
  have hgranted : accepts ⟨["222222222222"]⟩ accessPoint undenied = true := by decide +kernel
  have hshared := accepts_normal_form accessPoint shared
  refine ⟨?_, hreordered, hshared.2.1 _ hreordered, hallowing, hshared.2.2.1 _ hallowing, hmore,
    hgranted, (accepts_normal_form accessPoint undenied).2.2.2.1 _ hmore _ hgranted⟩
  have hrefused : accepts ⟨["222222222222", "333333333333"]⟩ accessPoint shared = false := by
    decide +kernel
  refine (Or.resolve_left hshared.1 fun h => ?_).1
  exact nomatch hrefused.symm.trans (h.1 _)

end CrossAccountFilter

end TagGovernance
