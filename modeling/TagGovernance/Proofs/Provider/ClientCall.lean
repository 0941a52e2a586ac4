import TagGovernance.Provider.Calls

/-!
# Sequences of client calls

The calls that a client can make on a provider as data, so that statements can be made about every
sequence of them.
-/

namespace TagGovernance

inductive ClientCall
  | list (kind : String)
  | getTags (target : ResourceRef)
  | putTags (target : ResourceRef) (tags : TagSet)
  | delete (target : ResourceRef)
  | update (target : ResourceRef) (change : Json)

inductive Answer
  | records (answer : Except ProviderError (List Json))
  | tags (answer : Except ProviderError TagSet)
  | done (answer : Except ProviderError Unit)

namespace ClientCall

/-- The resource that a call names, whether or not it comes to look for it. -/
def about? : ClientCall → Option ResourceRef
  | list _ => none
  | getTags target | putTags target _ | delete target | update target _ => some target

def make (p : Provider) : ClientCall → Answer × Provider
  | list kind => (.records (p.list kind), p)
  | getTags target => (.tags (p.getTags target).1, (p.getTags target).2)
  | putTags target tags => (.done (p.putTags target tags).1, (p.putTags target tags).2)
  | delete target => (.done (p.delete target).1, (p.delete target).2)
  | update target change => (.done (p.update target change).1, (p.update target change).2)

def makeAll (p : Provider) : List ClientCall → List Answer × Provider
  | [] => ([], p)
  | call :: rest =>
    ((call.make p).1 :: (makeAll (call.make p).2 rest).1, (makeAll (call.make p).2 rest).2)

end ClientCall

end TagGovernance
