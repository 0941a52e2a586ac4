import Mathlib.Data.List.Induction
import Mathlib.Data.List.Nodup
import TagGovernance.Proofs.FirstFault
import TagGovernance.Tag.Ingest

/-!
# Which pairs are taken in

A pair is at fault if it has no key, an empty key or, in strict mode, the key of an earlier pair. A
list without a fault is taken in, and every key ends with its last value; any other list is refused
for the first pair that is at fault. In strict mode no key comes twice, so there the order of the
pairs makes no difference.

The proofs go over a list from its front, and what was taken in so far is told from the pairs before.
-/

namespace TagGovernance

/-- What is wrong with a pair, given the pairs before it. -/
inductive PairFault (ingest : Ingest) (before : List TagPair) : TagPair → PairError → Prop
  | missing (value : String) : PairFault ingest before (none, value) (.missingKey before.length)
  | empty (value : String) : PairFault ingest before (some "", value) (.emptyKey before.length)
  | repeated {key earlier : String} (value : String) (strict : ingest = .strict)
      (seen : (some key, earlier) ∈ before) :
      PairFault ingest before (some key, value) (.duplicateKey key)

def Faultless (ingest : Ingest) (pairs : List TagPair) : Prop :=
  ∀ before pair after error, pairs = before ++ pair :: after → ¬PairFault ingest before pair error

def lastValue? (key : String) (pairs : List TagPair) : Option String :=
  (pairs.filterMap fun p => if p.1 = some key then some p.2 else none).getLast?

variable {ingest : Ingest} {pairs others before after : List TagPair} {pair : TagPair}
  {tags : TagSet} {key value : String} {error : PairError}

theorem lastValue?_concat (key : String) (pairs : List TagPair) (other value : String) :
    lastValue? key (pairs ++ [(some other, value)]) =
      if other = key then some value else lastValue? key pairs := by
  by_cases h : other = key <;> simp [lastValue?, h]

theorem mem_of_lastValue? (h : lastValue? key pairs = some value) : (some key, value) ∈ pairs := by
  obtain ⟨⟨found, _⟩, hmem, hfound⟩ := List.mem_filterMap.1 (List.mem_of_getLast? h)
  split at hfound
  · rename_i hkey
    obtain rfl := Option.some.inj hfound
    exact hkey ▸ hmem
  · cases hfound

theorem isSome_lastValue? :
    (lastValue? key pairs).isSome = true ↔ ∃ value, (some key, value) ∈ pairs := by
  constructor
  · intro h
    obtain ⟨value, hvalue⟩ := Option.isSome_iff_exists.1 h
    exact ⟨value, mem_of_lastValue? hvalue⟩
  · rintro ⟨value, hmem⟩
    have hvalue : value ∈ pairs.filterMap fun p => if p.1 = some key then some p.2 else none :=
      List.mem_filterMap.2 ⟨_, hmem, if_pos rfl⟩
    exact List.getLast?_isSome.2 (List.ne_nil_of_mem hvalue)

theorem lastValue?_eq_some_iff (h : (pairs.map Prod.fst).Nodup) :
    lastValue? key pairs = some value ↔ (some key, value) ∈ pairs := by
  refine ⟨mem_of_lastValue?, fun hmem => ?_⟩
  obtain ⟨last, hlast⟩ := Option.isSome_iff_exists.1 (isSome_lastValue?.2 ⟨value, hmem⟩)
  have hsame := List.inj_on_of_nodup_map h (mem_of_lastValue? hlast) hmem rfl
  rw [hlast, (Prod.mk.inj hsame).2]

theorem pairFault_iff : (∃ error, PairFault ingest before pair error) ↔
    pair.1 = none ∨ pair.1 = some "" ∨ ingest = .strict ∧ pair.1 ∈ before.map Prod.fst := by
  constructor
  · rintro ⟨_, value | value | ⟨value, strict, seen⟩⟩
    · exact .inl rfl
    · exact .inr (.inl rfl)
    · exact .inr (.inr ⟨strict, List.mem_map.2 ⟨_, seen, rfl⟩⟩)
  · obtain ⟨_ | key, value⟩ := pair
    · exact fun _ => ⟨_, .missing value⟩
    · rintro (h | h | ⟨strict, hmem⟩)
      · cases h
      · obtain rfl := Option.some.inj h
        exact ⟨_, .empty value⟩
      · obtain ⟨⟨_, earlier⟩, hmem, rfl⟩ := List.mem_map.1 hmem
        exact ⟨_, .repeated value strict hmem⟩

theorem faultless_concat : Faultless ingest (pairs ++ [pair]) ↔
    Faultless ingest pairs ∧ ¬∃ error, PairFault ingest pairs pair error := Flawless.concat_iff

/-- In a list without a fault every pair has a key, and in strict mode no key comes twice. -/
theorem faultless_iff : Faultless ingest pairs ↔
    (∀ pair ∈ pairs, pair.1 ≠ none ∧ pair.1 ≠ some "") ∧
      (ingest = .strict → (pairs.map Prod.fst).Nodup) := by
  induction pairs using List.reverseRecOn with
  | nil => simp [Faultless]
  | append_singleton pairs pair ih =>
    rw [faultless_concat, ih, pairFault_iff]
    simp only [not_or, not_and, List.forall_mem_append, List.forall_mem_singleton, List.map_append,
      List.map_singleton, List.nodup_append, List.nodup_singleton]
    grind

theorem Faultless.key_ne_empty (h : Faultless ingest pairs) (hmem : (some key, value) ∈ pairs) :
    key ≠ "" := by
  rintro rfl
  exact ((faultless_iff.1 h).1 _ hmem).2 rfl

theorem Faultless.lastWins (h : Faultless .strict pairs) : Faultless .lastWins pairs :=
  faultless_iff.2 ⟨(faultless_iff.1 h).1, nofun⟩

theorem Faultless.perm (h : Faultless ingest pairs) (hperm : others.Perm pairs) :
    Faultless ingest others := by
  obtain ⟨hkeys, hnodup⟩ := faultless_iff.1 h
  exact faultless_iff.2 ⟨fun pair hmem => hkeys pair (hperm.mem_iff.1 hmem),
    fun strict => (hperm.map _).nodup_iff.2 (hnodup strict)⟩

theorem faultless_or_first (ingest : Ingest) (pairs : List TagPair) : Faultless ingest pairs ∨
    ∃ before pair after error, pairs = before ++ pair :: after ∧ Faultless ingest before ∧
      PairFault ingest before pair error := Flawless.or_first (PairFault ingest) pairs

namespace TagSet

/-- A tag set has the keys of a list of pairs, each with its last value. -/
def Gathers (tags : TagSet) (pairs : List TagPair) : Prop :=
  ∀ key, tags.get? key = lastValue? key pairs

theorem gathers_empty : empty.Gathers [] := fun _ => rfl

theorem Gathers.insert (h : tags.Gathers pairs) (key value : String) :
    (tags.insert key value).Gathers (pairs ++ [(some key, value)]) := by
  intro other
  rw [get?_insert, lastValue?_concat, h other]

theorem Gathers.has_iff (h : tags.Gathers pairs) (key : String) :
    tags.has key = true ↔ ∃ value, (some key, value) ∈ pairs := by
  rw [has, h, isSome_lastValue?]

theorem Gathers.unique {found : TagSet} (h : tags.Gathers pairs) (hfound : found.Gathers pairs) :
    tags = found := ext_get? fun key => (h key).trans (hfound key).symm

/-- If no key comes twice, the order of the pairs makes no difference. -/
theorem Gathers.perm (h : tags.Gathers pairs) (hnodup : (pairs.map Prod.fst).Nodup)
    (hperm : others.Perm pairs) : tags.Gathers others := by
  intro key
  apply Option.ext
  intro value
  rw [h key, lastValue?_eq_some_iff hnodup, lastValue?_eq_some_iff ((hperm.map _).nodup_iff.2 hnodup),
    hperm.mem_iff]

theorem takeIn_of_fault (hbefore : Faultless ingest before) (h : tags.Gathers before)
    (hfault : PairFault ingest before pair error) (rest : List TagPair) :
    takeIn ingest before.length tags (pair :: rest) = .error error := by
  cases hfault with
  | missing value => rfl
  | empty value => exact if_pos rfl
  | @repeated key earlier value strict seen =>
    have hhas := (h.has_iff key).2 ⟨earlier, seen⟩
    rw [takeIn, if_neg (hbefore.key_ne_empty seen), if_pos ⟨strict, hhas⟩]

/-- A pair that is not at fault is gathered with those before it. -/
theorem takeIn_of_sound (h : tags.Gathers before)
    (sound : ¬∃ error, PairFault ingest before pair error) :
    ∃ next : TagSet, next.Gathers (before ++ [pair]) ∧ ∀ rest,
      takeIn ingest before.length tags (pair :: rest) =
        takeIn ingest (before ++ [pair]).length next rest := by
  obtain ⟨_ | key, value⟩ := pair
  · exact absurd ⟨_, .missing value⟩ sound
  · refine ⟨tags.insert key value, h.insert key value, fun rest => ?_⟩
    have hkey : key ≠ "" := by
      rintro rfl
      exact sound ⟨_, .empty value⟩
    have hnew : ¬(ingest = .strict ∧ tags.has key = true) := by
      rintro ⟨strict, hhas⟩
      obtain ⟨earlier, seen⟩ := (h.has_iff key).1 hhas
      exact sound ⟨_, .repeated value strict seen⟩
    rw [takeIn, if_neg hkey, if_neg hnew, List.length_append]
    rfl

/-- Behind pairs without a fault, taking in goes on with what they gather. -/
theorem takeIn_append (h : Faultless ingest before) : ∃ tags : TagSet, tags.Gathers before ∧
    ∀ rest, takeIn ingest 0 empty (before ++ rest) = takeIn ingest before.length tags rest := by
  induction before using List.reverseRecOn with
  | nil => exact ⟨empty, gathers_empty, fun _ => rfl⟩
  | append_singleton before pair ih =>
    obtain ⟨hbefore, hpair⟩ := faultless_concat.1 h
    obtain ⟨tags, htags, hsame⟩ := ih hbefore
    obtain ⟨next, hnext, hstep⟩ := takeIn_of_sound htags hpair
    refine ⟨next, hnext, fun rest => ?_⟩
    rw [List.append_assoc, List.singleton_append, hsame, hstep]

theorem ofPairs_of_fault (hbefore : Faultless ingest before)
    (hfault : PairFault ingest before pair error) (after : List TagPair) :
    ofPairs ingest (before ++ pair :: after) = .error error := by
  obtain ⟨tags, htags, hsame⟩ := takeIn_append hbefore
  rw [ofPairs, hsame, takeIn_of_fault hbefore htags hfault]

theorem ofPairs_of_faultless (h : Faultless ingest pairs) :
    ∃ tags : TagSet, ofPairs ingest pairs = .ok tags ∧ tags.Gathers pairs := by
  obtain ⟨tags, htags, hsame⟩ := takeIn_append h
  refine ⟨tags, ?_, htags⟩
  rw [ofPairs, ← List.append_nil pairs, hsame, takeIn]

theorem ofPairs_eq_ok_iff : ofPairs ingest pairs = .ok tags ↔
    Faultless ingest pairs ∧ tags.Gathers pairs := by
  constructor
  · intro h
    rcases faultless_or_first ingest pairs with hpairs | ⟨_, _, after, _, rfl, hbefore, hfault⟩
    · obtain ⟨found, hfound, hgathers⟩ := ofPairs_of_faultless hpairs
      obtain rfl := Except.ok.inj (h.symm.trans hfound)
      exact ⟨hpairs, hgathers⟩
    · cases h.symm.trans (ofPairs_of_fault hbefore hfault after)
  · rintro ⟨hpairs, hgathers⟩
    obtain ⟨found, hfound, hsame⟩ := ofPairs_of_faultless hpairs
    rw [hfound, hgathers.unique hsame]

/-- Pairs are refused for the first one that is at fault. -/
theorem ofPairs_eq_error_iff : ofPairs ingest pairs = .error error ↔
    ∃ before pair after, pairs = before ++ pair :: after ∧ Faultless ingest before ∧
      PairFault ingest before pair error := by
  refine Flawless.reports_iff (fun _ _ => Except.error.inj) ?_ (fun hpairs error h => ?_) error
  · intro before pair after error hsplit hbefore hfault
    rw [hsplit, ofPairs_of_fault hbefore hfault after]
  · obtain ⟨tags, htags, -⟩ := ofPairs_of_faultless hpairs
    cases h.symm.trans htags

/-- Modes differ only in what they make of a key that comes twice. -/
theorem ofPairs_mode (hnodup : (pairs.map Prod.fst).Nodup) (mode ingest : Ingest) :
    ofPairs mode pairs = ofPairs ingest pairs := by
  cases h : ofPairs ingest pairs with
  | ok tags =>
    obtain ⟨hpairs, hgathers⟩ := ofPairs_eq_ok_iff.1 h
    refine ofPairs_eq_ok_iff.2 ⟨faultless_iff.2 ⟨(faultless_iff.1 hpairs).1, fun _ => hnodup⟩, hgathers⟩
  | error error =>
    obtain ⟨before, pair, after, rfl, hbefore, hfault⟩ := ofPairs_eq_error_iff.1 h
    rw [List.map_append, List.nodup_append] at hnodup
    obtain ⟨hfirst, -, hapart⟩ := hnodup
    have hbefore : Faultless mode before :=
      faultless_iff.2 ⟨(faultless_iff.1 hbefore).1, fun _ => hfirst⟩
    refine ofPairs_eq_error_iff.2 ⟨before, pair, after, rfl, hbefore, ?_⟩
    cases hfault with
    | missing value => exact .missing value
    | empty value => exact .empty value
    | @repeated key _ value _ seen =>
      exact absurd rfl (hapart _ (List.mem_map_of_mem seen) _ List.mem_cons_self)

/-- Which pairs are taken in, and as what. A list is refused just if some pair has no key, an empty
one or, in strict mode, the key of an earlier pair, and the error is that of the first such pair.
Otherwise every key of the list, and no other, has its last value. What strict mode takes in, the
other mode takes in as the same set, and so does strict mode in any other order. -/
theorem ofPairs_spec (ingest : Ingest) (pairs : List TagPair) :
    ((∃ error, ofPairs ingest pairs = .error error) ↔
      ∃ before pair after, pairs = before ++ pair :: after ∧
        (pair.1 = none ∨ pair.1 = some "" ∨ ingest = .strict ∧ pair.1 ∈ before.map Prod.fst)) ∧
    (∀ error, ofPairs ingest pairs = .error error ↔
      ∃ before pair after, pairs = before ++ pair :: after ∧ Faultless ingest before ∧
        PairFault ingest before pair error) ∧
    (∀ tags, ofPairs ingest pairs = .ok tags → ∀ key,
      (tags.has key = true ↔ ∃ value, (some key, value) ∈ pairs) ∧
        tags.get? key = lastValue? key pairs) ∧
    (∀ tags, ofPairs .strict pairs = .ok tags → ofPairs .lastWins pairs = .ok tags) ∧
    ∀ others tags, others.Perm pairs →
      (ofPairs .strict others = .ok tags ↔ ofPairs .strict pairs = .ok tags) := by
  refine ⟨⟨?_, ?_⟩, fun error => ofPairs_eq_error_iff, fun tags h key => ?_, fun tags h => ?_,
    fun others tags hperm => ?_⟩
  · rintro ⟨error, h⟩
    obtain ⟨before, pair, after, hsplit, -, hfault⟩ := ofPairs_eq_error_iff.1 h
    exact ⟨before, pair, after, hsplit, pairFault_iff.1 ⟨error, hfault⟩⟩
  · rintro ⟨before, pair, after, hsplit, hkey⟩
    obtain ⟨error, hfault⟩ := pairFault_iff.2 hkey
    rcases faultless_or_first ingest pairs with h | ⟨front, first, back, found, hfirst⟩
    · exact absurd hfault (h before pair after error hsplit)
    · exact ⟨found, ofPairs_eq_error_iff.2 ⟨front, first, back, hfirst⟩⟩
  · have hgathers := (ofPairs_eq_ok_iff.1 h).2
    exact ⟨hgathers.has_iff key, hgathers key⟩
  · obtain ⟨hpairs, hgathers⟩ := ofPairs_eq_ok_iff.1 h
    exact ofPairs_eq_ok_iff.2 ⟨hpairs.lastWins, hgathers⟩
  · have hreordered {pairs others : List TagPair} (hperm : others.Perm pairs)
        (h : ofPairs .strict pairs = .ok tags) : ofPairs .strict others = .ok tags := by
      obtain ⟨hpairs, hgathers⟩ := ofPairs_eq_ok_iff.1 h
      have hnodup := (faultless_iff.1 hpairs).2 rfl
      exact ofPairs_eq_ok_iff.2 ⟨hpairs.perm hperm, hgathers.perm hnodup hperm⟩
    exact ⟨hreordered hperm.symm, hreordered hperm⟩

theorem ofPairs_spec_shuffled :
    ofPairs .strict [(some "zone", "b"), (some "app", "web"), (some "env", "")] =
      .ok (.ofList [("app", "web"), ("env", ""), ("zone", "b")]) ∧
    ofPairs .lastWins [(some "zone", "b"), (some "app", "web"), (some "env", "")] =
      .ok (.ofList [("app", "web"), ("env", ""), ("zone", "b")]) ∧
    ofPairs .strict [(some "env", ""), (some "zone", "b"), (some "app", "web")] =
      .ok (.ofList [("app", "web"), ("env", ""), ("zone", "b")]) := by
  have hstrict : ofPairs .strict [(some "zone", "b"), (some "app", "web"), (some "env", "")] =
      .ok (.ofList [("app", "web"), ("env", ""), ("zone", "b")]) := rfl
  obtain ⟨-, -, -, hlastWins, hreordered⟩ :=
    ofPairs_spec .strict [(some "zone", "b"), (some "app", "web"), (some "env", "")]
  exact ⟨hstrict, hlastWins _ hstrict, (hreordered _ _ (by decide)).2 hstrict⟩

end TagSet

end TagGovernance
