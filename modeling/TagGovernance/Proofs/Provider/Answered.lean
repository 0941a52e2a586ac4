import TagGovernance.Proofs.Provider.Faithful

/-!
# What a call can leave

The gate comes before everything that a call does, and it has an effect of its own: it uses up the
missing id that it is asked for. So there are two ways to fail. A call that fails for want of the
resource may have taken it away, with its missing id; every other failure leaves the store alone. A
call that succeeds does what it was made for to the first resource of its kind with its id, except
that a deletion takes all of these. Nothing is done to any other resource.
-/

namespace TagGovernance

def Answer.error? : Answer → Option ProviderError
  | records (.error e) | tags (.error e) | done (.error e) => some e
  | _ => none

namespace Provider

structure Finds (p : Provider) (kind id : String) (before : List Entry) (e : Entry)
    (after : List Entry) : Prop where
  entries : p.entries = before ++ e :: after
  isFor : e.isFor kind id = true
  first : ∀ x ∈ before, x.isFor kind id = false

/-- The ways in which a call on a resource can end: the error that it fails with, if any, and the
provider that it leaves. -/
inductive Ends (p : Provider) : ClientCall → Option ProviderError → Provider → Prop
  | failed (call : ClientCall) (error : ProviderError) (calls : List Call) :
    Ends p call (some error) { p with calls }
  /-- The resource was missing. It is gone from now on, and its id is not missing any more. -/
  | lost {call : ClientCall} {target : ResourceRef} {kind : ResourceKind} {error : ProviderError}
    (calls : List Call) (about : call.about? = some target)
    (known : p.kindOf target.kind = .ok kind) (missing : target.id ∈ p.missing)
    (notFound : error.isNotFound = true) :
    Ends p call (some error)
      { p.remove kind.typeName target.id with missing := p.missing.filter (· ≠ target.id), calls }
  | read (target : ResourceRef) (calls : List Call) :
    Ends p (.getTags target) none { p with calls }
  | wrote {target : ResourceRef} {kind : ResourceKind} {shape : TagShape} {before after : List Entry}
    {e : Entry} (tags : TagSet) (calls : List Call) (known : p.kindOf target.kind = .ok kind)
    (shaped : kind.tagShape = some shape) (found : p.Finds kind.typeName target.id before e after) :
    Ends p (.putTags target tags) none
      { p with entries := before ++ e.written shape tags :: after, calls }
  | deleted {target : ResourceRef} {kind : ResourceKind} (calls : List Call)
    (known : p.kindOf target.kind = .ok kind) :
    Ends p (.delete target) none { p.remove kind.typeName target.id with calls }
  | updated {target : ResourceRef} {kind : ResourceKind} {before after : List Entry} {e : Entry}
    {change : Json} {fields : List (String × Json)} (calls : List Call)
    (known : p.kindOf target.kind = .ok kind) (changes : change.asObject? = some fields)
    (found : p.Finds kind.typeName target.id before e after) :
    Ends p (.update target change) none
      { p with entries := before ++ e.updated fields :: after, calls }

variable {p q : Provider} {call : ClientCall} {target : ResourceRef} {kind : ResourceKind}
  {name id : String} {before after : List Entry} {e : Entry} {error : ProviderError} {verb : Verb}

namespace Finds

theorem of_find? (h : p.find? name id = some e) : ∃ before after, p.Finds name id before e after := by
  obtain ⟨hfor, before, after, hentries, hbefore⟩ := List.find?_eq_some_iff_append.1 h
  exact ⟨before, after, hentries, hfor, fun x hx => by simpa using hbefore x hx⟩

theorem of_named {rest : List Entry} (h : p.named name id = e :: rest) :
    ∃ before after, p.Finds name id before e after :=
  of_find? (by rw [find?_eq_head?, h, List.head?_cons])

theorem find? (h : p.Finds name id before e after) : p.find? name id = some e := by
  refine List.find?_eq_some_iff_append.2 ⟨h.isFor, before, after, h.entries, fun x hx => ?_⟩
  rw [h.first x hx]
  rfl

theorem live (h : p.Finds name id before e after) (passes : p.Passes id) (present : id ∉ p.missing) :
    p.Live name id :=
  ⟨passes, present, e, h.entries ▸ List.mem_append_right _ List.mem_cons_self, h.isFor⟩

theorem modify (h : p.Finds name id before e after) (change : Entry → Entry) (calls : List Call) :
    ({ p with calls } : Provider).modify name id change =
      { p with entries := before ++ change e :: after, calls } := by
  rw [Provider.modify, h.entries, modifyFirst_of_split h.first h.isFor]

theorem getTags {shape : TagShape} {tags : TagSet} (known : p.kindOf target.kind = .ok kind)
    (shaped : kind.tagShape = some shape) (found : p.Finds kind.typeName target.id before e after)
    (passes : p.Passes target.id) (present : target.id ∉ p.missing)
    (hread : shape.decode (e.recording.tags.getD .null) p.ingest = .ok tags) :
    p.getTags target = (.ok tags, p.log .getTags target) := by
  obtain ⟨f, hf, hget⟩ := getTags_of_live known (found.live passes present)
  obtain rfl : e = f := Option.some.inj (found.find?.symm.trans hf)
  rw [hget, shapeOf, shaped, Fallible.ok_bind, tagsOf, hread, Fallible.mapError_ok]

end Finds

/-- A call that the gate lets through has found the first resource, and only the log is new. -/
theorem finds_of_gate (h : (p.log verb target).gate kind target.id = (.ok e, q)) :
    q = p.log verb target ∧ ∃ before after, p.Finds kind.typeName target.id before e after := by
  by_cases hlive : (p.log verb target).Live kind.typeName target.id
  · obtain ⟨found, hfound, hgate⟩ := gate_of_live hlive
    obtain ⟨hsame, rfl⟩ := Prod.mk.inj (hgate.symm.trans h)
    obtain rfl := Except.ok.inj hsame
    exact ⟨rfl, Finds.of_find? (p := p) hfound⟩
  · obtain ⟨error, r, hgate, -⟩ := gate_of_not_live hlive
    exact absurd (congrArg Prod.fst (hgate.symm.trans h)) nofun

/-- A call that the gate ends has failed, and may have lost what it was for. -/
theorem ends_of_gate (about : call.about? = some target) (known : p.kindOf target.kind = .ok kind)
    (h : (p.log verb target).gate kind target.id = (.error error, q)) :
    Ends p call (some error) q := by
  unfold gate at h
  split at h
  · obtain ⟨-, rfl⟩ := Prod.mk.inj h
    exact .failed ..
  · split at h
    · rename_i hmissing
      obtain ⟨hsame, rfl⟩ := Prod.mk.inj h
      obtain rfl := Except.error.inj hsame
      exact .lost _ about known hmissing rfl
    · split at h
      · cases h
      · obtain ⟨-, rfl⟩ := Prod.mk.inj h
        exact .failed ..

theorem getTags_ends (p : Provider) (target : ResourceRef) :
    Ends p (.getTags target) (Answer.tags (p.getTags target).1).error? (p.getTags target).2 := by
  have hread (answer : Except ProviderError TagSet) (calls : List Call) :
      Ends p (.getTags target) (Answer.tags answer).error? { p with calls } := by
    cases answer with
    | error error => exact .failed _ error calls
    | ok tags => exact .read target calls
  unfold getTags
  cases hk : p.kindOf target.kind with
  | error error => exact .failed _ error p.calls
  | ok kind =>
    dsimp only
    split <;> rename_i hgate
    · exact ends_of_gate rfl hk hgate
    · obtain ⟨rfl, -⟩ := finds_of_gate hgate
      exact hread _ _

theorem putTags_ends (p : Provider) (target : ResourceRef) (tags : TagSet) :
    Ends p (.putTags target tags) (Answer.done (p.putTags target tags).1).error?
      (p.putTags target tags).2 := by
  unfold putTags
  cases hk : p.kindOf target.kind with
  | error error => exact .failed _ error p.calls
  | ok kind =>
    dsimp only
    split <;> rename_i hgate
    · exact ends_of_gate rfl hk hgate
    · obtain ⟨rfl, before, after, hfound⟩ := finds_of_gate hgate
      cases hshape : kind.tagShape with
      | none =>
        simp only [shapeOf, hshape]
        exact .failed ..
      | some shape =>
        simp only [shapeOf, hshape]
        exact hfound.modify (Entry.written shape tags) _ ▸ .wrote tags _ hk hshape hfound

theorem delete_ends (p : Provider) (target : ResourceRef) :
    Ends p (.delete target) (Answer.done (p.delete target).1).error? (p.delete target).2 := by
  unfold delete
  dsimp only
  cases hk : (p.log .delete target).kindOf target.kind with
  | error error => exact .failed ..
  | ok kind =>
    dsimp only
    split <;> rename_i hgate
    · exact ends_of_gate rfl hk hgate
    · obtain ⟨rfl, -⟩ := finds_of_gate hgate
      exact .deleted _ hk

theorem update_ends (p : Provider) (target : ResourceRef) (change : Json) :
    Ends p (.update target change) (Answer.done (p.update target change).1).error?
      (p.update target change).2 := by
  unfold update
  cases hfields : change.asObject? with
  | none => exact .failed _ _ p.calls
  | some fields =>
    dsimp only
    cases hk : (p.log .update target).kindOf target.kind with
    | error error => exact .failed ..
    | ok kind =>
      dsimp only
      split <;> rename_i hgate
      · exact ends_of_gate rfl hk hgate
      · obtain ⟨rfl, before, after, hfound⟩ := finds_of_gate hgate
        exact hfound.modify (Entry.updated fields) _ ▸ .updated _ hk hfields hfound

theorem make_ends (p : Provider) (about : call.about? = some target) :
    Ends p call (call.make p).1.error? (call.make p).2 := by
  cases call with
  | list name => cases about
  | getTags t => exact p.getTags_ends t
  | putTags t tags => exact p.putTags_ends t tags
  | delete t => exact p.delete_ends t
  | update t change => exact p.update_ends t change

theorem remove_others (p : Provider) (kind id : String) :
    ((p.remove kind id).entries.filter fun e => !e.isFor kind id) =
      p.entries.filter fun e => !e.isFor kind id :=
  List.filter_filter.trans (List.filter_congr fun _ _ => Bool.and_self _)

theorem Finds.others (h : p.Finds name id before e after) {f : Entry} (same : f.target = e.target) :
    ((before ++ f :: after).filter fun x => !x.isFor name id) =
      p.entries.filter fun x => !x.isFor name id := by
  have hnew : f.isFor name id = true := (Entry.isFor_congr same name id).trans h.isFor
  simp only [h.entries, List.filter_append, List.filter_cons, h.isFor, hnew, Bool.not_true,
    Bool.false_eq_true, if_false]

/-- However a call ends, the resources of other kinds and those with other ids stand as before. -/
theorem Ends.others {outcome : Option ProviderError} (h : Ends p call outcome q)
    (about : call.about? = some target) :
    (q.entries.filter fun e => !e.isFor (Catalog.bareName target.kind) target.id) =
      p.entries.filter fun e => !e.isFor (Catalog.bareName target.kind) target.id := by
  cases h with
  | failed | read => rfl
  | lost calls sought known missing notFound =>
    obtain rfl := Option.some.inj (sought.symm.trans about)
    rw [← typeName_of_kindOf known]
    exact p.remove_others ..
  | wrote tags calls known shaped found =>
    obtain rfl := Option.some.inj about
    rw [← typeName_of_kindOf known]
    exact found.others rfl
  | deleted calls known =>
    obtain rfl := Option.some.inj about
    rw [← typeName_of_kindOf known]
    exact p.remove_others ..
  | updated calls known changes found =>
    obtain rfl := Option.some.inj about
    rw [← typeName_of_kindOf known]
    exact found.others rfl

/-- A call on a resource that fails leaves the store as it was, unless it fails for want of the
resource: then it may have taken a missing id and the resources of its kind with this id away. A read
changes nothing, a write the tags of one entry, an update the fields set in one, and a deletion takes
away the resources of its kind with its id. No call touches other resources, moves any, or adds one. -/
theorem make_leaves (p : Provider) (call : ClientCall) (about : call.about? = some target) :
    p.Ends call (call.make p).1.error? (call.make p).2 ∧
      ((call.make p).2.entries.filter fun e => !e.isFor (Catalog.bareName target.kind) target.id) =
        (p.entries.filter fun e => !e.isFor (Catalog.bareName target.kind) target.id) ∧
      (call.make p).2.refs.Sublist p.refs := by
  have hends := p.make_ends about
  refine ⟨hends, hends.others about, ?_⟩
  rw [refs_make]
  exact List.filter_sublist

def twoNamesakes : Flight where
  resources := [
    ("memorydb", [
      { listed := .obj [("ARN", .str "arn:x"), ("Name", .str "a")] },
      { listed := .obj [("ARN", .str "arn:y"), ("Name", .str "a")] }]),
    ("memorydb-acl", [{ listed := .obj [("ARN", .str "arn:l"), ("Name", .str "l")] }])]
  missing := ["l"]

def tagNamesakes : ClientCall :=
  .putTags ⟨"aws.memorydb", "a", some "arn:y"⟩ (.ofList [("env", "dev")])

def readList : ClientCall := .getTags ⟨"memorydb-acl", "l", none⟩

theorem make_leaves_twoNamesakes : ∃ catalog start,
    Aws.catalog = .ok catalog ∧ ofFlight catalog twoNamesakes .strict = .ok start ∧
    tagNamesakes.about? = some ⟨"aws.memorydb", "a", some "arn:y"⟩ ∧
    start.Ends tagNamesakes none (tagNamesakes.make start).2 ∧
    (tagNamesakes.make start).2.refs.Sublist start.refs ∧
    readList.about? = some ⟨"memorydb-acl", "l", none⟩ ∧
    start.Ends readList (some (.notFound "memorydb-acl l")) (readList.make start).2 := by
  refine ⟨_, _, Aws.catalog_eq, rfl, rfl, ?_, ?_, rfl, ?_⟩
  · exact (make_leaves _ tagNamesakes rfl).1
  · exact (make_leaves _ tagNamesakes rfl).2.2
  · exact (make_leaves _ readList rfl).1

end Provider

end TagGovernance
