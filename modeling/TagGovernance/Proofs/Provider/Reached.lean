import TagGovernance.Proofs.Provider.ClientCall
import TagGovernance.Proofs.Provider.Readable

/-!
# Providers that calls lead to

Calls are made on a provider of a flight, with sessions opened and closed between them. The tags of
every resource can be read at the beginning, in any catalog, and no call spoils them unless it writes
a tag set with the empty key.
-/

namespace TagGovernance

namespace ClientCall

/-- A call that writes no tag set with the empty key. -/
def Clean : ClientCall → Prop
  | putTags _ tags => tags.has "" = false
  | _ => True

end ClientCall

namespace Provider

def Readable (p : Provider) : Prop := ∀ e ∈ p.entries, p.Reads e

inductive Reaches (start : Provider) : Provider → Prop
  | refl : Reaches start start
  | call {p : Provider} (h : Reaches start p) (call : ClientCall) (clean : call.Clean) :
    Reaches start (call.make p).2
  | openSession {p : Provider} (h : Reaches start p) (service : String) :
    Reaches start (p.openSession service).2
  | closeSession {p : Provider} (h : Reaches start p) : Reaches start p.closeSession

variable {p q : Provider} {kind : ResourceKind}

theorem ofFlight_readable {catalog : Catalog} {flight : Flight} {ingest : Ingest}
    (h : ofFlight catalog flight ingest = .ok p) : p.Readable := by
  intro e he
  obtain ⟨name, kind, record, hk, hrecord, href, -⟩ := mem_ofFlight h he
  have hshape : p.catalog.shapeOf e.target.kind = kind.tagShape := by
    rw [ResourceKind.refOf_kind href, Catalog.shapeOf_typeName hk]
  obtain ⟨fields, hbase⟩ := base_of_describe hrecord href
  rw [describe_of_base hbase] at hrecord
  obtain ⟨tags, htags, -⟩ := Fallible.map_eq_ok.1 hrecord
  exact (reads_iff_readTags hshape).2 ⟨tags, htags⟩

theorem readable_iff : p.Readable ↔ ∀ name id, ¬p.Spoiled name id := by
  constructor
  · rintro h name id ⟨e, he, -, hspoiled⟩
    exact hspoiled (h e he)
  · intro h e he
    by_contra hspoiled
    exact h e.target.kind e.target.id ⟨e, he, Entry.isFor_iff.2 ⟨rfl, rfl⟩, hspoiled⟩

theorem Confined.readable {name id : String} {fields : List String}
    (h : Confined name [id] fields p q) (hp : p.Readable)
    (hresource : q.Spoiled name id → p.Spoiled name id) : q.Readable := by
  rw [readable_iff] at hp ⊢
  intro other i hspoiled
  by_cases hsame : other = name ∧ i = id
  · obtain ⟨rfl, rfl⟩ := hsame
    exact hp _ _ (hresource hspoiled)
  · have hapart : other ≠ name ∨ i ∉ [id] := by
      rw [List.mem_singleton]
      exact not_and_or.1 hsame
    exact hp _ _ ((h.spoiled_iff hapart).1 hspoiled)

section Calls

variable {target : ResourceRef} (hk : p.kindOf target.kind = .ok kind)

include hk

theorem getTags_spoiled (h : (p.getTags target).2.Spoiled kind.typeName target.id) :
    p.Spoiled kind.typeName target.id := by
  by_cases hlive : p.Live kind.typeName target.id
  · obtain ⟨e, -, hget⟩ := getTags_of_live hk hlive
    rw [hget] at h
    exact h
  · obtain ⟨error, q, hget, hshut⟩ := getTags_of_not_live hk hlive
    rw [hget] at h
    exact hshut.2 h

theorem putTags_spoiled {tags : TagSet} (clean : tags.has "" = false) (hp : p.Readable)
    (h : (p.putTags target tags).2.Spoiled kind.typeName target.id) :
    p.Spoiled kind.typeName target.id := by
  by_cases hlive : p.Live kind.typeName target.id
  · cases hshape : kind.tagShape with
    | none =>
      rw [putTags_of_untaggable hk hshape hlive] at h
      exact h
    | some shape =>
      obtain ⟨e, he, -⟩ := gate_of_live hlive
      have hreads := hp e (List.mem_of_find?_eq_some he)
      have hdone := (putTags_spoiled_iff hk hshape hlive he hreads tags).2
      rw [clean] at hdone
      exact (hdone.1 h).resolve_left Bool.false_ne_true
  · obtain ⟨error, q, hput, hshut⟩ := putTags_of_not_live hk hlive tags
    rw [hput] at h
    exact hshut.2 h

theorem delete_spoiled (h : (p.delete target).2.Spoiled kind.typeName target.id) :
    p.Spoiled kind.typeName target.id := by
  by_cases hlive : p.Live kind.typeName target.id
  · rw [delete_of_live hk hlive] at h
    exact absurd h (remove_gone ..).2
  · obtain ⟨error, q, hdelete, hshut⟩ := delete_of_not_live hk hlive
    rw [hdelete] at h
    exact hshut.2 h

theorem update_spoiled {change : Json} {fields : List (String × Json)}
    (hfields : change.asObject? = some fields)
    (h : (p.update target change).2.Spoiled kind.typeName target.id) :
    p.Spoiled kind.typeName target.id := by
  by_cases hlive : p.Live kind.typeName target.id
  · obtain ⟨e, he, -⟩ := gate_of_live hlive
    rw [update_of_live hk hfields hlive] at h
    exact (spoiled_modify_iff (p := p.log .update target) he rfl Iff.rfl).1 h
  · obtain ⟨error, q, hupdate, hshut⟩ := update_of_not_live hk hfields hlive
    rw [hupdate] at h
    exact hshut.2 h

end Calls

namespace Readable

theorem getTags (hp : p.Readable) (target : ResourceRef) : (p.getTags target).2.Readable := by
  cases hk : p.kindOf target.kind with
  | error e =>
    rw [Provider.getTags, hk]
    exact hp
  | ok kind =>
    refine (p.getTags_confined target []).readable hp ?_
    rw [← typeName_of_kindOf hk]
    exact getTags_spoiled hk

theorem putTags (hp : p.Readable) (target : ResourceRef) {tags : TagSet}
    (clean : tags.has "" = false) : (p.putTags target tags).2.Readable := by
  cases hk : p.kindOf target.kind with
  | error e =>
    rw [Provider.putTags, hk]
    exact hp
  | ok kind =>
    refine (p.putTags_confined target tags []).readable hp ?_
    rw [← typeName_of_kindOf hk]
    exact putTags_spoiled hk clean hp

theorem delete (hp : p.Readable) (target : ResourceRef) : (p.delete target).2.Readable := by
  cases hk : p.kindOf target.kind with
  | error e =>
    have hlog : (p.log .delete target).kindOf target.kind = .error e := hk
    simp only [Provider.delete, hlog]
    exact hp
  | ok kind =>
    refine (p.delete_confined target []).readable hp ?_
    rw [← typeName_of_kindOf hk]
    exact delete_spoiled hk

theorem update (hp : p.Readable) (target : ResourceRef) (change : Json) :
    (p.update target change).2.Readable := by
  cases hfields : change.asObject? with
  | none =>
    rw [Provider.update, hfields]
    exact hp
  | some fields =>
    cases hk : p.kindOf target.kind with
    | error e =>
      have hlog : (p.log .update target).kindOf target.kind = .error e := hk
      simp only [Provider.update, hfields, hlog]
      exact hp
    | ok kind =>
      refine (p.update_confined target hfields).readable hp ?_
      rw [← typeName_of_kindOf hk]
      exact update_spoiled hk hfields

theorem make (hp : p.Readable) {call : ClientCall} (clean : call.Clean) :
    (call.make p).2.Readable := by
  cases call with
  | list kind => exact hp
  | getTags target => exact hp.getTags target
  | putTags target tags => exact hp.putTags target clean
  | delete target => exact hp.delete target
  | update target change => exact hp.update target change

theorem openSession (hp : p.Readable) (service : String) : (p.openSession service).2.Readable := by
  unfold Provider.openSession
  split <;> exact hp

end Readable

/-- Calls that write no empty key keep every resource readable. -/
theorem Reaches.readable (h : p.Reaches q) (hp : p.Readable) : q.Readable := by
  induction h with
  | refl => exact hp
  | call _ call clean ih => exact ih.make clean
  | openSession _ service ih => exact ih.openSession service
  | closeSession _ ih => exact ih

end Provider

end TagGovernance
