import TagGovernance.Proofs.Fallible
import TagGovernance.Proofs.Provider.ClientCall
import TagGovernance.Proofs.Provider.Effect
import TagGovernance.Proofs.Resource.Catalog
import TagGovernance.Proofs.Tag.Payload
import TagGovernance.Resource.Aws

/-!
# Providers that differ in the shapes of tags

Two catalogs may write the tags of their kinds in different shapes. If their flights record the same
tag sets, each in its own shape, then no sequence of client calls tells the two providers apart:
answers, errors and the log of calls are the same. The relation that every call keeps is `Mirrors`;
it holds between the stored payloads and says nothing about how they look.
-/

namespace TagGovernance

open Fallible (Agree)

/-- Payloads of one tag set in the shapes of two kinds, or no payload on either side. A payload
recorded for a kind without tags is never read. -/
inductive SameTags : Option TagShape → Option TagShape → Option Json → Option Json → Prop
  | untaggable (raw raw' : Option Json) : SameTags none none raw raw'
  | absent (s s' : TagShape) : SameTags (some s) (some s') none none
  | encoded (s s' : TagShape) (tags : TagSet) :
    SameTags (some s) (some s') (some (s.encode tags)) (some (s'.encode tags))

/-- A kind that differs at most in the shape of its tags. Both kinds have tags or neither does. -/
structure ResourceKind.SameButShape (k l : ResourceKind) : Prop where
  rest : l = { k with tagShape := l.tagShape }
  taggable : l.tagShape.isSome = k.tagShape.isSome

structure Recording.SameButTags (s s' : Option TagShape) (r r' : Recording) : Prop where
  rest : r' = { r with tags := r'.tags }
  tags : SameTags s s' r.tags r'.tags

namespace Catalog

def SameButShapes (c d : Catalog) : Prop :=
  List.Forall₂ ResourceKind.SameButShape c.kinds d.kinds

end Catalog

/-- Kinds of two catalogs that differ at most in the shape of their tags, each the one that its
catalog has under its name. -/
structure Catalog.SameKind (c d : Catalog) (k l : ResourceKind) : Prop where
  kind : k.SameButShape l
  left : c.shapeOf k.typeName = k.tagShape
  right : d.shapeOf k.typeName = l.tagShape

structure Flight.SameButPayloads (c d : Catalog) (f g : Flight) : Prop where
  source : g.source = f.source
  missing : g.missing = f.missing
  errors : g.errors = f.errors
  resources : List.Forall₂ (fun a b => b.1 = a.1 ∧
    List.Forall₂ (Recording.SameButTags (c.shapeOf (Catalog.bareName a.1))
      (d.shapeOf (Catalog.bareName a.1))) a.2 b.2) f.resources g.resources

structure Entry.SameButTags (c d : Catalog) (e f : Entry) : Prop where
  target : f.target = e.target
  overlay : f.overlay = e.overlay
  recording : Recording.SameButTags (c.shapeOf e.target.kind) (d.shapeOf e.target.kind)
    e.recording f.recording

structure Provider.Mirrors (p q : Provider) : Prop where
  catalog : p.catalog.SameButShapes q.catalog
  entries : List.Forall₂ (Entry.SameButTags p.catalog q.catalog) p.entries q.entries
  source : q.source = p.source
  ingest : q.ingest = p.ingest
  missing : q.missing = p.missing
  errors : q.errors = p.errors
  calls : q.calls = p.calls
  sessions : q.sessions = p.sessions

theorem SameTags.shapes {s s' : Option TagShape} {raw raw' : Option Json}
    (h : SameTags s s' raw raw') : (s = none ∧ s' = none) ∨ ∃ t t', s = some t ∧ s' = some t' := by
  cases h with
  | untaggable => exact .inl ⟨rfl, rfl⟩
  | absent t t' => exact .inr ⟨t, t', rfl, rfl⟩
  | encoded t t' => exact .inr ⟨t, t', rfl, rfl⟩

theorem SameTags.decode {s s' : TagShape} {raw raw' : Option Json}
    (h : SameTags (some s) (some s') raw raw') (ingest : Ingest) :
    s'.decode (raw'.getD .null) ingest = s.decode (raw.getD .null) ingest := by
  cases h with
  | absent => rfl
  | encoded _ _ tags =>
    rw [Option.getD_some, Option.getD_some, TagShape.decode_encode, TagShape.decode_encode]

namespace ResourceKind.SameButShape

variable {k l : ResourceKind} {r r' : Recording}

theorem typeName (h : k.SameButShape l) : l.typeName = k.typeName := by rw [h.rest]

theorem loadSnapshot (h : k.SameButShape l) : l.loadSnapshot = k.loadSnapshot := by
  rw [h.rest]; rfl

theorem refOf (h : k.SameButShape l) : l.refOf = k.refOf := by rw [h.rest]; rfl

theorem checkRecording (h : k.SameButShape l) (hr : r.SameButTags k.tagShape l.tagShape r') :
    l.checkRecording r' = k.checkRecording r := by rw [h.rest, hr.rest]; rfl

theorem attachTags (h : k.SameButShape l) (hr : r.SameButTags k.tagShape l.tagShape r')
    (ingest : Ingest) (record : Json) :
    l.attachTags ingest r' record = k.attachTags ingest r record := by
  have hname := h.typeName
  have htags := hr.tags
  unfold ResourceKind.attachTags ResourceKind.attach
  rw [hname]
  generalize k.tagShape = s at htags ⊢
  generalize l.tagShape = s' at htags ⊢
  generalize r.tags = raw at htags ⊢
  generalize r'.tags = raw' at htags ⊢
  cases htags with
  | untaggable => rfl
  | absent => rfl
  | encoded s s' tags => simp only [TagShape.decode_encode]

/-- The record of a resource does not show in which shape its tags are written. -/
theorem describe (h : k.SameButShape l) (hr : r.SameButTags k.tagShape l.tagShape r')
    (ingest : Ingest) : l.describe r' ingest = k.describe r ingest := by
  have hbase : l.baseRecord r' = k.baseRecord r := by rw [h.rest, hr.rest]; rfl
  have hnotes : l.attachAnnotation r' = k.attachAnnotation r := by rw [h.rest, hr.rest]; rfl
  have hannotations : l.annotations = k.annotations := by rw [h.rest]
  unfold ResourceKind.describe
  simp only [hbase, hnotes, hannotations, h.attachTags hr]

end ResourceKind.SameButShape

theorem Provider.describe_sameButShape {k l : ResourceKind} {r r' : Recording}
    (hk : k.SameButShape l) (hr : r.SameButTags k.tagShape l.tagShape r') (source : Source)
    (ingest : Ingest) : describe source ingest l r' = describe source ingest k r := by
  cases source with
  | describe => exact hk.describe hr ingest
  | config =>
    have hlisted : r'.listed = r.listed := by rw [hr.rest]
    simp only [Provider.describe, hk.loadSnapshot, hlisted]
    cases k.loadSnapshot r.listed with
    | error e => rfl
    | ok listed =>
      have hsame : Recording.SameButTags k.tagShape l.tagShape
          { r with listed, detail := none } { r' with listed, detail := none } :=
        ⟨by rw [hr.rest], hr.tags⟩
      exact hk.describe hsame ingest

private theorem find?_related {α β : Type} {R : α → β → Prop} {s : α → Bool} {t : β → Bool}
    {xs : List α} {ys : List β} (h : List.Forall₂ R xs ys) (test : ∀ a b, R a b → t b = s a) :
    Option.Rel R (xs.find? s) (ys.find? t) := by
  induction h with
  | nil => exact .none
  | @cons a b xs ys hab _ ih =>
    rw [List.find?_cons, List.find?_cons, test a b hab]
    cases s a with
    | true => exact .some hab
    | false => exact ih

private theorem modifyFirst_related {R : Entry → Entry → Prop} {s t : Entry → Bool}
    {f g : Entry → Entry} {es fs : List Entry} (h : List.Forall₂ R es fs)
    (test : ∀ e e', R e e' → t e' = s e) (change : ∀ e e', R e e' → s e = true → R (f e) (g e')) :
    List.Forall₂ R (Provider.modifyFirst s f es) (Provider.modifyFirst t g fs) := by
  induction h with
  | nil => exact .nil
  | @cons e e' es fs hee hrest ih =>
    rw [Provider.modifyFirst, Provider.modifyFirst, test e e' hee]
    cases hs : s e with
    | true => exact .cons (change e e' hee hs) hrest
    | false => exact .cons hee ih

namespace Catalog.SameButShapes

variable {c d : Catalog}

theorem get (h : c.SameButShapes d) (name : String) :
    Agree (fun k l => c.SameKind d k l ∧ k.typeName = bareName name) (c.get name) (d.get name) := by
  have hfind := find?_related (s := fun k => decide (k.typeName = bareName name))
    (t := fun k => decide (k.typeName = bareName name)) h fun k l hkl => by rw [hkl.typeName]
  unfold Catalog.get
  cases hk : c.kinds.find? fun k => k.typeName = bareName name with
  | none => cases hl : d.kinds.find? fun k => k.typeName = bareName name with
    | none => rfl
    | some l => rw [hk, hl] at hfind; cases hfind
  | some k => cases hl : d.kinds.find? fun k => k.typeName = bareName name with
    | none => rw [hk, hl] at hfind; cases hfind
    | some l =>
      have hname : k.typeName = bareName name := by simpa using List.find?_some hk
      rw [hk, hl] at hfind
      cases hfind with
      | some hkl =>
        refine ⟨⟨hkl, ?_, ?_⟩, hname⟩
        · rw [shapeOf, hname, hk]; rfl
        · rw [shapeOf, hname, hl]; rfl

end Catalog.SameButShapes

namespace Entry.SameButTags

variable {c d : Catalog} {e f : Entry}

theorem isFor (h : Entry.SameButTags c d e f) (kind id : String) :
    f.isFor kind id = e.isFor kind id := Entry.isFor_congr h.target kind id

theorem ofKind (h : Entry.SameButTags c d e f) {k l : ResourceKind} (hk : c.SameKind d k l)
    (hkind : e.target.kind = k.typeName) :
    Recording.SameButTags k.tagShape l.tagShape e.recording f.recording := by
  have hr := h.recording
  rwa [hkind, hk.left, hk.right] at hr

end Entry.SameButTags

namespace Provider.Mirrors

variable {p q : Provider} {k l : ResourceKind}

theorem kindOf (h : p.Mirrors q) (name : String) :
    Agree (p.catalog.SameKind q.catalog) (p.kindOf name) (q.kindOf name) :=
  ((h.catalog.get name).mono fun _ _ hk => hk.1).mapError _

theorem log (h : p.Mirrors q) (verb : Verb) (target : ResourceRef) :
    (p.log verb target).Mirrors (q.log verb target) :=
  { h with calls := by rw [Provider.log, Provider.log, h.calls, h.sessions] }

theorem remove (h : p.Mirrors q) (kind id : String) :
    (p.remove kind id).Mirrors (q.remove kind id) :=
  { h with
    entries := List.rel_filter (fun _ _ hef => by simp [hef.isFor]) h.entries }

theorem modify (h : p.Mirrors q) (kind id : String) {f g : Entry → Entry}
    (change : ∀ e e', Entry.SameButTags p.catalog q.catalog e e' → e.target.kind = kind →
      Entry.SameButTags p.catalog q.catalog (f e) (g e')) :
    (p.modify kind id f).Mirrors (q.modify kind id g) :=
  { h with
    entries := modifyFirst_related h.entries (fun _ _ he => he.isFor kind id) fun e e' he hfor =>
      change e e' he ((Entry.isFor_iff.1 hfor).1) }

/-- The gate lets both providers through to entries of the same resource, or fails in the same way
on both. -/
theorem gate (h : p.Mirrors q) (hk : p.catalog.SameKind q.catalog k l) (id : String) :
    (∃ e p' q', p.gate k id = (.error e, p') ∧ q.gate l id = (.error e, q') ∧ p'.Mirrors q') ∨
    (∃ e e', p.gate k id = (.ok e, p) ∧ q.gate l id = (.ok e', q) ∧
      Recording.SameButTags k.tagShape l.tagShape e.recording e'.recording) := by
  have hname := hk.kind.typeName
  have hfind : Option.Rel _ (p.find? k.typeName id) (q.find? k.typeName id) :=
    find?_related h.entries fun _ _ he => he.isFor k.typeName id
  unfold Provider.gate
  rw [h.errors, h.missing, hname, notFoundText, notFoundText, hname]
  cases Keyed.find? id p.errors with
  | some e => exact .inl ⟨_, p, q, rfl, rfl, h⟩
  | none =>
    by_cases hid : id ∈ p.missing
    · simp only [hid, if_true]
      exact .inl ⟨_, _, _, rfl, rfl, { h.remove k.typeName id with missing := rfl }⟩
    · simp only [hid, if_false]
      cases hp : p.find? k.typeName id with
      | none => cases hq : q.find? k.typeName id with
        | none => exact .inl ⟨_, p, q, rfl, rfl, h⟩
        | some e' => rw [hp, hq] at hfind; cases hfind
      | some e => cases hq : q.find? k.typeName id with
        | none => rw [hp, hq] at hfind; cases hfind
        | some e' =>
          rw [hp, hq] at hfind
          cases hfind with
          | some he =>
            have hkind := (Entry.isFor_iff.1 (List.find?_some hp)).1
            exact .inr ⟨e, e', rfl, rfl, he.ofKind hk hkind⟩

theorem getTags (h : p.Mirrors q) (target : ResourceRef) :
    (q.getTags target).1 = (p.getTags target).1 ∧
      (p.getTags target).2.Mirrors (q.getTags target).2 := by
  unfold Provider.getTags
  rcases (h.kindOf target.kind).cases with ⟨e, hp, hq⟩ | ⟨k, l, hp, hq, hk⟩
  · rw [hp, hq]
    exact ⟨rfl, h⟩
  have hlog := h.log .getTags target
  rw [hp, hq]
  rcases hlog.gate hk target.id with ⟨e, p', q', hp, hq, h'⟩ | ⟨e, e', hp, hq, he⟩
  · simp only [hp, hq]
    exact ⟨trivial, h'⟩
  · simp only [hp, hq]
    refine ⟨?_, hlog⟩
    rcases he.tags.shapes with ⟨hs, hs'⟩ | ⟨s, s', hs, hs'⟩
    · simp only [shapeOf, hs, hs']
      rfl
    · have htags := he.tags
      rw [hs, hs'] at htags
      simp only [shapeOf, hs, hs', Fallible.ok_bind, tagsOf, hlog.ingest, htags.decode]

theorem putTags (h : p.Mirrors q) (target : ResourceRef) (tags : TagSet) :
    (q.putTags target tags).1 = (p.putTags target tags).1 ∧
      (p.putTags target tags).2.Mirrors (q.putTags target tags).2 := by
  unfold Provider.putTags
  rcases (h.kindOf target.kind).cases with ⟨e, hp, hq⟩ | ⟨k, l, hp, hq, hk⟩
  · rw [hp, hq]
    exact ⟨rfl, h⟩
  have hlog := h.log .putTags target
  rw [hp, hq]
  rcases hlog.gate hk target.id with ⟨e, p', q', hp, hq, h'⟩ | ⟨e, e', hp, hq, he⟩
  · simp only [hp, hq]
    exact ⟨trivial, h'⟩
  · simp only [hp, hq]
    rcases he.tags.shapes with ⟨hs, hs'⟩ | ⟨s, s', hs, hs'⟩
    · simp only [shapeOf, hs, hs']
      exact ⟨trivial, hlog⟩
    · simp only [shapeOf, hs, hs', hk.kind.typeName]
      refine ⟨trivial, hlog.modify _ _ fun e e' he hkind => ⟨he.target, he.overlay, ?_, ?_⟩⟩
      · rw [he.recording.rest]
      · have hleft := hk.left
        have hright := hk.right
        rw [hs] at hleft
        rw [hs'] at hright
        change SameTags (p.catalog.shapeOf e.target.kind) (q.catalog.shapeOf e.target.kind) _ _
        rw [hkind, hleft, hright]
        exact .encoded s s' tags

theorem delete (h : p.Mirrors q) (target : ResourceRef) :
    (q.delete target).1 = (p.delete target).1 ∧
      (p.delete target).2.Mirrors (q.delete target).2 := by
  have hlog := h.log .delete target
  unfold Provider.delete
  rcases (hlog.kindOf target.kind).cases with ⟨e, hp, hq⟩ | ⟨k, l, hp, hq, hk⟩
  · simp only [hp, hq]
    exact ⟨trivial, hlog⟩
  simp only [hp, hq]
  rcases hlog.gate hk target.id with ⟨e, p', q', hp, hq, h'⟩ | ⟨e, e', hp, hq, -⟩
  · simp only [hp, hq]
    exact ⟨trivial, h'⟩
  · simp only [hp, hq, hk.kind.typeName]
    exact ⟨trivial, hlog.remove k.typeName target.id⟩

theorem update (h : p.Mirrors q) (target : ResourceRef) (change : Json) :
    (q.update target change).1 = (p.update target change).1 ∧
      (p.update target change).2.Mirrors (q.update target change).2 := by
  unfold Provider.update
  cases change.asObject? with
  | none => exact ⟨rfl, h⟩
  | some fields =>
    have hlog := h.log .update target
    rcases (hlog.kindOf target.kind).cases with ⟨e, hp, hq⟩ | ⟨k, l, hp, hq, hk⟩
    · simp only [hp, hq]
      exact ⟨trivial, hlog⟩
    simp only [hp, hq]
    rcases hlog.gate hk target.id with ⟨e, p', q', hp, hq, h'⟩ | ⟨e, e', hp, hq, -⟩
    · simp only [hp, hq]
      exact ⟨trivial, h'⟩
    · simp only [hp, hq, hk.kind.typeName]
      refine ⟨trivial, hlog.modify _ _ fun e e' he _ => ⟨he.target, ?_, he.recording⟩⟩
      rw [he.overlay]

theorem recordOf (h : p.Mirrors q) {e e' : Entry} (hk : p.catalog.SameKind q.catalog k l)
    (he : Entry.SameButTags p.catalog q.catalog e e') (hkind : e.target.kind = k.typeName) :
    q.recordOf l e' = p.recordOf k e := by
  unfold Provider.recordOf
  rw [h.source, h.ingest, describe_sameButShape hk.kind (he.ofKind hk hkind), he.overlay]

theorem list (h : p.Mirrors q) (name : String) : q.list name = p.list name := by
  refine (Agree.eq (Agree.bind (h.kindOf name) fun k l hk => Agree.mapError _ ?_)).symm
  have hentries : List.Forall₂
      (fun e e' => e.target.kind = k.typeName ∧ Entry.SameButTags p.catalog q.catalog e e')
      (p.entries.filter fun e => e.target.kind = k.typeName)
      (q.entries.filter fun e => e.target.kind = l.typeName) := by
    rw [hk.kind.typeName, List.forall₂_and_left]
    refine ⟨fun e he => by simpa using (List.mem_filter.1 he).2, ?_⟩
    exact List.rel_filter (fun _ _ he => by simp [he.target]) h.entries
  have hrecords := Agree.mapM (S := Eq) (f := p.recordOf k) (g := q.recordOf l) hentries
    fun e e' he => by rw [h.recordOf hk he.2 he.1]; exact Agree.refl _
  exact hrecords.mono fun _ _ hsame => by rwa [List.forall₂_eq_eq_eq] at hsame

theorem make (h : p.Mirrors q) (call : ClientCall) :
    (call.make q).1 = (call.make p).1 ∧ (call.make p).2.Mirrors (call.make q).2 := by
  cases call with
  | list kind => exact ⟨congrArg Answer.records (h.list kind), h⟩
  | getTags target => exact ⟨congrArg Answer.tags (h.getTags target).1, (h.getTags target).2⟩
  | putTags target tags =>
    exact ⟨congrArg Answer.done (h.putTags target tags).1, (h.putTags target tags).2⟩
  | delete target => exact ⟨congrArg Answer.done (h.delete target).1, (h.delete target).2⟩
  | update target change =>
    exact ⟨congrArg Answer.done (h.update target change).1, (h.update target change).2⟩

/-- What one call keeps, every sequence of calls keeps. -/
theorem makeAll (h : p.Mirrors q) (calls : List ClientCall) :
    (ClientCall.makeAll q calls).1 = (ClientCall.makeAll p calls).1 ∧
      (ClientCall.makeAll p calls).2.Mirrors (ClientCall.makeAll q calls).2 := by
  induction calls generalizing p q with
  | nil => exact ⟨rfl, h⟩
  | cons call rest ih =>
    obtain ⟨hanswer, hnext⟩ := h.make call
    obtain ⟨hanswers, hlast⟩ := ih hnext
    exact ⟨congrArg₂ List.cons hanswer hanswers, hlast⟩

end Provider.Mirrors

namespace Provider

variable {c d : Catalog}

theorem entryOf_sameButShape {k l : ResourceKind} {r r' : Recording} (hk : c.SameKind d k l)
    (hr : r.SameButTags k.tagShape l.tagShape r') (source : Source) (ingest : Ingest)
    (name : String) :
    Agree (Entry.SameButTags c d) (entryOf source ingest name k r)
      (entryOf source ingest name l r') := by
  unfold entryOf
  rw [hk.kind.checkRecording hr, describe_sameButShape hk.kind hr, hk.kind.refOf]
  refine (Agree.refl _).bind fun _ _ _ => (Agree.refl _).bind fun record _ hrecord => ?_
  subst hrecord
  cases htarget : k.refOf record with
  | error e => rfl
  | ok target =>
    refine ⟨rfl, rfl, ?_⟩
    change Recording.SameButTags (c.shapeOf target.kind) (d.shapeOf target.kind) r r'
    rwa [ResourceKind.refOf_kind htarget, hk.left, hk.right]

theorem entriesOf_sameButShape (hc : c.SameButShapes d) {a b : String × List Recording}
    (hname : b.1 = a.1) (hr : List.Forall₂ (Recording.SameButTags
      (c.shapeOf (Catalog.bareName a.1)) (d.shapeOf (Catalog.bareName a.1))) a.2 b.2)
    (source : Source) (ingest : Ingest) :
    Agree (List.Forall₂ (Entry.SameButTags c d)) (entriesOf c source ingest a)
      (entriesOf d source ingest b) := by
  unfold entriesOf
  rw [hname]
  refine ((hc.get a.1).mapError _).bind fun k l hk => Agree.mapM hr fun r r' hr => ?_
  rw [← hk.2, hk.1.left, hk.1.right] at hr
  exact entryOf_sameButShape hk.1 hr source ingest a.1

/-- Flights with the same tag sets give related providers, or fail with the same error. -/
theorem ofFlight_mirrors {f g : Flight} (hc : c.SameButShapes d)
    (hf : Flight.SameButPayloads c d f g) (ingest : Ingest) :
    Agree Mirrors (ofFlight c f ingest) (ofFlight d g ingest) := by
  unfold ofFlight
  rw [hf.source, hf.missing, hf.errors]
  refine (Agree.mapM hf.resources fun a b hab =>
    entriesOf_sameButShape hc hab.1 hab.2 f.source ingest).bind fun es fs hes => ?_
  exact ⟨hc, List.rel_flatten hes, rfl, rfl, rfl, rfl, rfl, rfl⟩

/-- No sequence of calls shows in which shapes a provider's tags are written. Take two catalogs that
differ only in the shapes of their kinds' tags, and two flights that record the same tag sets in
these shapes. Both or neither give a provider, with the same error if not, and the providers answer
every sequence of calls in the same way and log the same calls. -/
theorem shape_transparency {f g : Flight} (hc : c.SameButShapes d)
    (hf : Flight.SameButPayloads c d f g) (ingest : Ingest) :
    Agree (fun p q => ∀ calls : List ClientCall,
      (ClientCall.makeAll p calls).1 = (ClientCall.makeAll q calls).1 ∧
      (ClientCall.makeAll p calls).2.calls = (ClientCall.makeAll q calls).2.calls)
      (ofFlight c f ingest) (ofFlight d g ingest) := by
  refine (ofFlight_mirrors hc hf ingest).mono fun p q h calls => ?_
  obtain ⟨hanswers, hlast⟩ := h.makeAll calls
  exact ⟨hanswers.symm, hlast.calls.symm⟩

def clusterCatalog (shape : TagShape) : Catalog :=
  ⟨[{ Aws.memorydb with tagShape := some shape }], ["memorydb"]⟩

def clusterFlight (shape : TagShape) : Flight where
  resources := [("memorydb", [{
    listed := .obj [("Name", .str "a")]
    tags := some (shape.encode (TagSet.ofList [("owner", "policy"), ("env", "dev")])) }])]

theorem shape_transparency_pascal_map :
    (clusterCatalog .pascal).SameButShapes (clusterCatalog .map) ∧
    Flight.SameButPayloads (clusterCatalog .pascal) (clusterCatalog .map) (clusterFlight .pascal)
      (clusterFlight .map) ∧
    (ofFlight (clusterCatalog .pascal) (clusterFlight .pascal) .strict).isOk = true ∧
    Agree (fun p q => ∀ calls : List ClientCall,
      (ClientCall.makeAll p calls).1 = (ClientCall.makeAll q calls).1 ∧
      (ClientCall.makeAll p calls).2.calls = (ClientCall.makeAll q calls).2.calls)
      (ofFlight (clusterCatalog .pascal) (clusterFlight .pascal) .strict)
      (ofFlight (clusterCatalog .map) (clusterFlight .map) .strict) := by
  have hcatalog : (clusterCatalog .pascal).SameButShapes (clusterCatalog .map) :=
    .cons ⟨rfl, rfl⟩ .nil
  have hflight : Flight.SameButPayloads (clusterCatalog .pascal) (clusterCatalog .map)
      (clusterFlight .pascal) (clusterFlight .map) :=
    ⟨rfl, rfl, rfl, .cons ⟨rfl, .cons ⟨rfl, .encoded .pascal .map _⟩ .nil⟩ .nil⟩
  exact ⟨hcatalog, hflight, by decide +kernel, shape_transparency hcatalog hflight .strict⟩

end Provider

end TagGovernance
