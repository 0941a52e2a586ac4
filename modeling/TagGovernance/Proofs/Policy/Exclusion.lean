import TagGovernance.Policy.CrossAccount

/-!
# Accounts that conditions exclude

A statement that lets everyone in is narrowed to the accounts that its conditions name. They are
collected whatever the operator of a condition is. So accounts that a condition excludes count as
those that the statement is for, and if all of them are trusted, the statement seems to be narrowed
to trusted accounts although it is open to all others.
-/

namespace TagGovernance

/-- Operators of conditions that hold of all accounts but the named ones. -/
def exclusions : List String := ["StringNotEquals", "StringNotEqualsIgnoreCase", "StringNotLike"]

def clausesOf (statement : Json) : List (String × Json) :=
  match statement.field? "Condition" with
  | some (.obj clauses) => clauses
  | _ => []

/-- A clause with a field for the account, in any letter case. -/
def IsOnAccount (clause : Json) : Prop :=
  ∃ fields, clause = .obj fields ∧ ∃ f ∈ fields, ∃ key ∈ accountConditions,
    lowerAscii f.1 = lowerAscii key

def Gives (clause : Json) (account : String) : Prop :=
  ∃ fields, clause = .obj fields ∧ ∃ key ∈ accountConditions, ∃ value,
    fieldAnyCase? key fields = some value ∧ account ∈ textsOf value

/-- A statement that excludes an account from those that it lets in. -/
def Excludes (statement : Json) (account : String) : Prop :=
  ∃ c ∈ clausesOf statement, c.1 ∈ exclusions ∧ Gives c.2 account

/-- A statement that lets everyone in and says nothing on accounts but which ones it excludes. -/
structure OpenToOthers (statement : Json) : Prop where
  allows : CrossAccountFilter.allows statement = true
  everyone : "*" ∈ principalsOf statement
  excludes : ∀ c ∈ clausesOf statement, IsOnAccount c.2 → c.1 ∈ exclusions

variable {statement clause : Json} {account : String}

theorem Gives.isOnAccount (h : Gives clause account) : IsOnAccount clause := by
  obtain ⟨fields, hclause, key, hkey, value, hfield, -⟩ := h
  obtain ⟨f, hf, -⟩ := Option.map_eq_some_iff.1 hfield
  have hname := List.find?_some hf
  exact ⟨fields, hclause, f, List.mem_of_find?_eq_some hf, key, hkey, of_decide_eq_true hname⟩

theorem mem_clauseAccounts : account ∈ clauseAccounts clause ↔ Gives clause account := by
  cases clause with
  | obj fields =>
    simp only [clauseAccounts, Gives, List.mem_flatMap, Json.obj.injEq, exists_eq_left']
    refine exists_congr fun key => and_congr_right fun _ => ?_
    cases fieldAnyCase? key fields <;> simp
  | _ => simp [clauseAccounts, Gives]

theorem conditionAccounts_eq (statement : Json) :
    conditionAccounts statement = (clausesOf statement).flatMap fun c => clauseAccounts c.2 := by
  unfold conditionAccounts clausesOf
  split <;> simp_all

/-- The accounts that count are those of all clauses, under any operator. -/
theorem mem_conditionAccounts :
    account ∈ conditionAccounts statement ↔ ∃ c ∈ clausesOf statement, Gives c.2 account := by
  simp only [conditionAccounts_eq, List.mem_flatMap, mem_clauseAccounts]

theorem OpenToOthers.mem_conditionAccounts (h : OpenToOthers statement) :
    account ∈ conditionAccounts statement ↔ Excludes statement account := by
  rw [TagGovernance.mem_conditionAccounts]
  constructor
  · rintro ⟨c, hc, hgives⟩
    exact ⟨c, hc, h.excludes c hc hgives.isOnAccount, hgives⟩
  · rintro ⟨c, hc, -, hgives⟩
    exact ⟨c, hc, hgives⟩

namespace CrossAccountFilter

variable {filter : CrossAccountFilter} {owner : Option String}

def Trusted (filter : CrossAccountFilter) (owner : Option String) (account : String) : Prop :=
  owner = some account ∨ account ∈ filter.allowed

theorem trusts_iff : filter.trusts owner account = true ↔ filter.Trusted owner account := by
  simp [trusts, Trusted]

/-- Everyone is let in unless there are conditions on the account, all for trusted ones. -/
theorem letsIn_everyone : filter.letsIn owner statement "*" = false ↔
    (∃ a, a ∈ conditionAccounts statement) ∧
      ∀ a ∈ conditionAccounts statement, filter.Trusted owner a := by
  simp only [letsIn, if_true, ← trusts_iff, Bool.or_eq_false_iff, List.any_eq_false,
    Bool.not_eq_true', Bool.not_eq_false, List.isEmpty_eq_false_iff_exists_mem]

theorem letsIn_other {principal : String} (h : principal ≠ "*") :
    filter.letsIn owner statement principal = false ↔
      ∀ a, accountOf? principal = some a → filter.Trusted owner a := by
  rw [letsIn, if_neg h]
  cases accountOf? principal <;> simp [← trusts_iff]

/-- A statement that is open to all accounts but some grants nothing, as the filter sees it, just if
the excluded accounts are trusted, and there are such. -/
theorem grants_of_openToOthers (h : OpenToOthers statement) :
    filter.grants owner statement = false ↔
      ((∃ a, Excludes statement a) ∧ ∀ a, Excludes statement a → filter.Trusted owner a) ∧
        ∀ p ∈ principalsOf statement, p ≠ "*" → ∀ a, accountOf? p = some a →
          filter.Trusted owner a := by
  have hprincipals : filter.grants owner statement = false ↔
      ∀ p ∈ principalsOf statement, filter.letsIn owner statement p = false := by
    simp [grants, h.allows]
  have heveryone : filter.letsIn owner statement "*" = false ↔ _ := letsIn_everyone
  simp only [h.mem_conditionAccounts] at heveryone
  rw [hprincipals, ← heveryone]
  constructor
  · intro hall
    exact ⟨hall _ h.everyone, fun p hp hne => (letsIn_other hne).1 (hall p hp)⟩
  · rintro ⟨hstar, hother⟩ p hp
    by_cases hp' : p = "*"
    · rwa [hp']
    · exact (letsIn_other hp').2 (hother p hp hp')

/-- Excluding accounts counts as being for them. If a statement of a policy lets everyone in but
some accounts, which are the only ones that its condition names, then access from other accounts
goes unnoticed just if it excludes some account and only trusted ones, no other principal of it is
from an account that is not trusted, and no other statement grants access. -/
theorem accepts_openToOthers_iff (filter : CrossAccountFilter) {resource : ResourceRef}
    {record document : Json} (hpolicy : policyOf? record = some document)
    (hmem : statement ∈ statementsOf document) (h : OpenToOthers statement) :
    filter.accepts resource record = false ↔
      ((∃ a, Excludes statement a) ∧
        ∀ a, Excludes statement a → filter.Trusted (resource.arn.bind accountOf?) a) ∧
      (∀ p ∈ principalsOf statement, p ≠ "*" → ∀ a, accountOf? p = some a →
        filter.Trusted (resource.arn.bind accountOf?) a) ∧
      ∀ other ∈ statementsOf document, other ≠ statement →
        filter.grants (resource.arn.bind accountOf?) other = false := by
  have haccepts : filter.accepts resource record = false ↔
      ∀ s ∈ statementsOf document, filter.grants (resource.arn.bind accountOf?) s = false := by
    simp [accepts, hpolicy]
  rw [haccepts, ← and_assoc, ← grants_of_openToOthers h]
  constructor
  · exact fun hall => ⟨hall statement hmem, fun other hother _ => hall other hother⟩
  · rintro ⟨hthis, hothers⟩ s hs
    by_cases hsame : s = statement
    · rwa [hsame]
    · exact hothers s hs hsame

/-- Lets everyone in from all accounts but one. -/
def notOwner : Json := .obj [
  ("Action", .str "s3:GetObject"),
  ("Condition", .obj [("StringNotEquals", .obj [("AWS:sourceaccount", .str "111111111111")])]),
  ("Effect", .str "Allow"),
  ("Principal", .obj [("AWS", .arr [.str "*", .str "arn:aws:iam::111111111111:root"])])]

def openRecord : Json := .obj [
  ("Name", .str "ap"),
  ("govtag:Policy", .obj [("Statement", .arr [notOwner]), ("Version", .str "2012-10-17")])]

def accessPoint : ResourceRef :=
  ⟨"s3-access-point", "ap", some "arn:aws:s3:us-east-1:111111111111:accesspoint/ap"⟩

theorem openToOthers_notOwner : OpenToOthers notOwner where
  allows := by decide
  everyone := by decide
  excludes c hc _ := by
    obtain rfl := List.mem_singleton.1 hc
    decide

theorem accepts_openToOthers_iff_accessPoint : ∃ document, policyOf? openRecord = some document ∧
    notOwner ∈ statementsOf document ∧ OpenToOthers notOwner ∧
    Excludes notOwner "111111111111" ∧
    CrossAccountFilter.accepts ⟨[]⟩ accessPoint openRecord = false ∧
    CrossAccountFilter.accepts ⟨[]⟩ { accessPoint with arn := none } openRecord = true := by
  have hmem : notOwner ∈ [notOwner] := List.mem_singleton_self _
  have hopen := openToOthers_notOwner
  have haccounts {a : String} : Excludes notOwner a ↔ a = "111111111111" :=
    hopen.mem_conditionAccounts.symm.trans (List.mem_singleton (b := "111111111111"))
  refine ⟨_, rfl, hmem, hopen, haccounts.2 rfl, ?_, ?_⟩
  · refine (accepts_openToOthers_iff ⟨[]⟩ rfl hmem hopen).2 ⟨⟨⟨_, haccounts.2 rfl⟩, ?_⟩, ?_, ?_⟩
    · intro a ha
      obtain rfl := haccounts.1 ha
      exact .inl (by decide)
    · have hroot : accountOf? "arn:aws:iam::111111111111:root" = some "111111111111" := by decide
      refine List.forall_mem_cons.2 ⟨fun hne => absurd rfl hne, List.forall_mem_cons.2 ⟨?_, nofun⟩⟩
      intro _ a ha
      obtain rfl := Option.some.inj (hroot.symm.trans ha)
      exact .inl (by decide)
    · intro other hother hne
      exact absurd (List.mem_singleton.1 hother) hne
  · refine Bool.ne_false_iff.1 fun hunseen => ?_
    have htrusted := ((accepts_openToOthers_iff ⟨[]⟩ rfl hmem hopen).1 hunseen).1.2 _
      (haccounts.2 rfl)
    exact htrusted.elim nofun List.not_mem_nil

/-- The policy lets every foreign account in, and the filter does not see it. -/
theorem open_to_others_unseen : ∃ document, policyOf? openRecord = some document ∧
    notOwner ∈ statementsOf document ∧ OpenToOthers notOwner ∧
    CrossAccountFilter.accepts ⟨[]⟩ accessPoint openRecord = false :=
  ⟨_, rfl, List.mem_singleton_self _, openToOthers_notOwner, by decide +kernel⟩

end CrossAccountFilter

end TagGovernance
