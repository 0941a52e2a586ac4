import Mathlib.Data.Set.Card
import TagGovernance.Proofs.Tag.Ingest
import TagGovernance.Tag.Edit

/-!
# Tag sets as maps

A tag set stands for a finite map. By key, by number and entry by entry, it shows this map, in the
order of the keys' code points, and no other tag set does. Every edit does to a tag set what it does
to the map that the set stands for, and answers what it answers there. So tag sets that were built in
different ways are equal if they stand for the same map.
-/

namespace TagGovernance

abbrev TagMap := String → Option String

namespace TagMap

def empty : TagMap := fun _ => none

def putAll (m : TagMap) (pairs : List (String × String)) : TagMap :=
  pairs.foldl (fun m p => Function.update m p.1 (some p.2)) m

def without (m : TagMap) (keys : TagKeys) : TagMap :=
  fun key => if key ∈ keys then none else m key

end TagMap

def codePoints (s : String) : List Nat := s.toList.map Char.toNat

theorem codePoints_lt {s t : String} (h : s < t) : codePoints s < codePoints t :=
  List.map_lt (fun _ _ hlt => hlt) (String.lt_iff.1 h)

namespace TagSet

/-- Looking up a key gives its value in a map. -/
def StandsFor (tags : TagSet) (m : TagMap) : Prop := ∀ key, tags.get? key = m key

/-- A tag set shows a map in every way. -/
structure Describes (tags : TagSet) (m : TagMap) : Prop where
  get : ∀ key, tags.get? key = m key
  has : ∀ key, tags.has key = true ↔ m key ≠ none
  ascending : (tags.keys.map codePoints).Pairwise (· < ·)
  keys : ∀ key, key ∈ tags.keys ↔ m key ≠ none
  entries : ∀ key value, (key, value) ∈ tags.toList ↔ m key = some value
  /-- The entries stand in the order of their keys. -/
  order : tags.toList.map Prod.fst = tags.keys
  finite : {key | m key ≠ none}.Finite
  size : tags.size = {key | m key ≠ none}.ncard
  isEmpty : tags.isEmpty = true ↔ m = .empty

variable {tags : TagSet} {m : TagMap}

namespace StandsFor

theorem mem_keys (h : tags.StandsFor m) (key : String) : key ∈ tags.keys ↔ m key ≠ none := by
  rw [← h key]
  exact (not_iff_comm.1 Keyed.find?_eq_none_iff.symm).symm

theorem keys_eq (h : tags.StandsFor m) : {key | m key ≠ none} = ↑tags.keys.toFinset := by
  ext key
  rw [List.coe_toFinset]
  exact (h.mem_keys key).symm

theorem isEmpty_iff (h : tags.StandsFor m) : tags.isEmpty = true ↔ m = .empty := by
  constructor
  · intro hnone
    funext key
    rw [← h key, get?, List.isEmpty_iff.1 hnone]
    rfl
  · rintro rfl
    have hkeys : tags.keys = [] :=
      List.eq_nil_iff_forall_not_mem.2 fun key hmem => (h.mem_keys key).1 hmem rfl
    exact List.isEmpty_iff.2 (List.map_eq_nil_iff.1 hkeys)

/-- The order of the entries is kept by all tag sets, so the values of the keys decide what is
shown. -/
theorem describes (h : tags.StandsFor m) : tags.Describes m where
  get := h
  has key := by rw [has, h key, Option.isSome_iff_ne_none]
  ascending := List.pairwise_map.2 (tags.ascending.imp codePoints_lt)
  keys := h.mem_keys
  entries key value := by rw [← h key]; exact mem_entries_iff
  order := rfl
  finite := by
    rw [h.keys_eq]
    exact tags.keys.toFinset.finite_toSet
  size := by
    have hnodup : tags.keys.Nodup := tags.ascending.imp String.ne_of_lt
    rw [h.keys_eq, Set.ncard_coe_finset, List.toFinset_card_of_nodup hnodup]
    exact (List.length_map _).symm
  isEmpty := h.isEmpty_iff

theorem unique (h : tags.StandsFor m) {others : TagSet} (hothers : others.StandsFor m) :
    others = tags := ext_get? fun key => (hothers key).trans (h key).symm

theorem empty : TagSet.empty.StandsFor .empty := fun _ => rfl

theorem insert (h : tags.StandsFor m) (key value : String) :
    (tags.insert key value).StandsFor (Function.update m key (some value)) := by
  intro other
  rw [get?_insert, Function.update_apply, h other]
  simp only [eq_comm]

theorem erase (h : tags.StandsFor m) (key : String) :
    (tags.erase key).StandsFor (Function.update m key none) := by
  intro other
  rw [get?_erase, Function.update_apply, h other]

theorem insertAll (h : tags.StandsFor m) (pairs : List (String × String)) :
    (tags.insertAll pairs).StandsFor (m.putAll pairs) := by
  induction pairs generalizing tags m with
  | nil => exact h
  | cons p rest ih => exact ih (h.insert p.1 p.2)

theorem filterKeys (h : tags.StandsFor m) (keys : TagKeys) :
    (tags.filterKeys fun key => !keys.contains key).StandsFor (m.without keys) := by
  intro key
  rw [get?_filterKeys, TagMap.without, h key]
  by_cases hkey : key ∈ keys <;> simp [hkey]

end StandsFor

/-- A list that is in key order already is adopted as if its pairs were set one after the other. -/
theorem ofList_eq_mk {entries : List (String × String)} (ascending : Keyed.Ascending entries) :
    ofList entries = ⟨entries, ascending⟩ := by
  apply ext_get?
  intro key
  rw [ofList, get?_insertAll ascending, get?_empty, Option.or_none, get?]

end TagSet

namespace TagEdit

open TagSet (StandsFor)

/-- What an edit does to a map: its answer, and the map after it. -/
inductive Acts (m : TagMap) : TagEdit → EditAnswer → TagMap → Prop
  | taken {ingest : Ingest} {pairs : List TagPair} (faultless : Faultless ingest pairs) :
    Acts m (.ofPairs ingest pairs) .done fun key => lastValue? key pairs
  | refused {ingest : Ingest} {before : List TagPair} {pair : TagPair} {error : PairError}
    (after : List TagPair) (faultless : Faultless ingest before)
    (fault : PairFault ingest before pair error) :
    Acts m (.ofPairs ingest (before ++ pair :: after)) (.refused error) m
  | ofList (pairs : List (String × String)) :
    Acts m (.ofList pairs) .done (TagMap.empty.putAll pairs)
  | ofMap {entries : List (String × String)} (ascending : Keyed.Ascending entries) :
    Acts m (.ofMap entries ascending) .done (TagMap.empty.putAll entries)
  | insert (key value : String) :
    Acts m (.insert key value) (.previous (m key)) (Function.update m key (some value))
  | erase (key : String) : Acts m (.erase key) (.previous (m key)) (Function.update m key none)
  | reconcile (add : TagSet) (remove : TagKeys) :
    Acts m (.reconcile add remove) .done ((m.without remove).putAll add.entries)

variable {tags : TagSet} {m m' last : TagMap} {edit : TagEdit} {edits : List TagEdit}
  {answer : EditAnswer} {answers : List EditAnswer}

theorem exists_acts (m : TagMap) (edit : TagEdit) : ∃ answer m', Acts m edit answer m' := by
  cases edit with
  | ofPairs ingest pairs =>
    rcases faultless_or_first ingest pairs with h | ⟨_, _, after, _, rfl, hbefore, hfault⟩
    · exact ⟨_, _, .taken h⟩
    · exact ⟨_, _, .refused after hbefore hfault⟩
  | ofList pairs => exact ⟨_, _, .ofList pairs⟩
  | ofMap entries ascending => exact ⟨_, _, .ofMap ascending⟩
  | insert key value => exact ⟨_, _, .insert key value⟩
  | erase key => exact ⟨_, _, .erase key⟩
  | reconcile add remove => exact ⟨_, _, .reconcile add remove⟩

/-- An edit of a tag set answers what it answers on the map, and the set stands for what becomes of
the map. -/
theorem apply_of_acts (h : Acts m edit answer m') (hm : tags.StandsFor m) :
    (edit.apply tags).1 = answer ∧ (edit.apply tags).2.StandsFor m' := by
  -- The cases are those of the map and not those of the edit, as pairs are taken in or refused.
  cases h with
  | taken faultless =>
    obtain ⟨taken, hok, hgathers⟩ := TagSet.ofPairs_of_faultless faultless
    rw [apply, hok]
    exact ⟨rfl, hgathers⟩
  | refused after faultless fault =>
    rw [apply, TagSet.ofPairs_of_fault faultless fault]
    exact ⟨rfl, hm⟩
  | ofList pairs => exact ⟨rfl, StandsFor.empty.insertAll pairs⟩
  | @ofMap entries ascending =>
    refine ⟨rfl, ?_⟩
    rw [apply, ← TagSet.ofList_eq_mk ascending]
    exact StandsFor.empty.insertAll entries
  | insert key value => exact ⟨congrArg _ (hm key), hm.insert key value⟩
  | erase key => exact ⟨congrArg _ (hm key), hm.erase key⟩
  | reconcile add remove => exact ⟨rfl, (hm.filterKeys remove).insertAll add.entries⟩

theorem apply_of_refused {error : PairError} (h : (edit.apply tags).1 = .refused error) :
    (edit.apply tags).2 = tags := by
  obtain ⟨answer, m', hacts⟩ := exists_acts tags.get? edit
  obtain ⟨hanswer, hnext⟩ := apply_of_acts hacts fun _ => rfl
  obtain rfl := h.symm.trans hanswer
  cases hacts with
  | refused => exact StandsFor.unique (fun _ => rfl) hnext

inductive ActsAll : TagMap → List TagEdit → List EditAnswer → TagMap → Prop
  | nil (m : TagMap) : ActsAll m [] [] m
  | cons {m m' last : TagMap} {edit : TagEdit} {rest : List TagEdit} {answer : EditAnswer}
    {answers : List EditAnswer} (first : Acts m edit answer m')
    (others : ActsAll m' rest answers last) : ActsAll m (edit :: rest) (answer :: answers) last

theorem exists_actsAll (m : TagMap) (edits : List TagEdit) :
    ∃ answers last, ActsAll m edits answers last := by
  induction edits generalizing m with
  | nil => exact ⟨[], m, .nil m⟩
  | cons edit rest ih =>
    obtain ⟨answer, m', hfirst⟩ := exists_acts m edit
    obtain ⟨answers, last, hothers⟩ := ih m'
    exact ⟨answer :: answers, last, .cons hfirst hothers⟩

theorem applyAll_of_actsAll (h : ActsAll m edits answers last) (hm : tags.StandsFor m) :
    (applyAll tags edits).1 = answers ∧ (applyAll tags edits).2.StandsFor last := by
  induction h generalizing tags with
  | nil m => exact ⟨rfl, hm⟩
  | cons first others ih =>
    obtain ⟨hanswer, hnext⟩ := apply_of_acts first hm
    obtain ⟨hanswers, hlast⟩ := ih hnext
    exact ⟨congrArg₂ List.cons hanswer hanswers, hlast⟩

/-- From the empty tag set on, any edits lead to the map that they lead to from the empty map, and
to no other, and answer the same on the way: setting or erasing a key answers its value before. The
tag set shows this map in full and in key order, and is the only one that does. Pairs that are
refused next leave it as it is. -/
theorem applyAll_describes (edits : List TagEdit) :
    ∃ m, (applyAll .empty edits).2.Describes m ∧
      (∀ answers last, ActsAll .empty edits answers last ↔
        answers = (applyAll .empty edits).1 ∧ last = m) ∧
      (∀ tags : TagSet, tags.Describes m → tags = (applyAll .empty edits).2) ∧
      ∀ (edit : TagEdit) (error : PairError),
        (edit.apply (applyAll .empty edits).2).1 = .refused error →
        (edit.apply (applyAll .empty edits).2).2 = (applyAll .empty edits).2 := by
  obtain ⟨answers, m, hacts⟩ := exists_actsAll .empty edits
  obtain ⟨hanswers, hm⟩ := applyAll_of_actsAll hacts StandsFor.empty
  refine ⟨m, hm.describes, fun found last => ⟨fun h => ?_, ?_⟩, fun tags h => hm.unique h.get,
    fun edit error => apply_of_refused⟩
  · obtain ⟨hfound, hlast⟩ := applyAll_of_actsAll h StandsFor.empty
    exact ⟨hfound.symm, funext fun key => (hlast key).symm.trans (hm key)⟩
  · rintro ⟨rfl, rfl⟩
    rwa [hanswers]

/-- Pairs out of order, some that are refused, and two keys whose old values are answered. -/
example : applyAll .empty
    [.ofList [("zone", "b"), ("app", "web")], .ofPairs .lastWins [(some "env", "dev"), (none, "x")],
      .insert "app" "api", .erase "env"] =
    ([.done, .refused (.missingKey 1), .previous (some "web"), .previous none],
      ⟨[("app", "api"), ("zone", "b")], by decide⟩) := rfl

end TagEdit

end TagGovernance
