import TagGovernance.Batch.Report
import TagGovernance.Policy.Error
import TagGovernance.Resource.Error
import TagGovernance.Tag.Shape

/-!
# Failures and their causes

A failure is an error of one part of the library, wrapped in what was being done when it came up.
Its message is that of the outermost layer; the layers below are its causes.
-/

namespace TagGovernance

/-- What was being done. -/
inductive Context
  | decodingTags (kind : String)
  | describing (kind : String)
  | readingTagsOf (kind id : String)
  | readingPattern (key : String)
  | addingTags
  | existingTags
  | existingTagsText
  | readingFile (path : String)
  | readingSettings (path : String)
  | parsingSettings (path : String)
  | readingFlight (path : String)
  | parsingFlight (path : String)
  deriving DecidableEq, Repr

def Context.message : Context → String
  | decodingTags kind => s!"decode {kind} tags"
  | describing kind => s!"describe recorded {kind}"
  | readingTagsOf kind id => s!"tags of {kind} {id}"
  | readingPattern key => s!"bad regex for '{key}'"
  | addingTags => "--add tags"
  | existingTags => "existing tags"
  | existingTagsText => "existing tags are not JSON"
  | readingFile path => s!"read {path}"
  | readingSettings path => s!"read settings {path}"
  | parsingSettings path => s!"parse settings {path}"
  | readingFlight path => s!"read flight data {path}"
  | parsingFlight path => s!"parse flight data {path}"

inductive Failure
  | ingest (error : IngestError)
  | provider (error : ProviderError)
  | catalog (error : CatalogError)
  | batch (error : BatchError)
  | record (error : RecordError)
  | filter (error : FilterError)
  | mark (error : MarkError)
  /-- A settings file that allows no resource at a time. -/
  | noConcurrency
  /-- A text that is no pattern. -/
  | pattern
  /-- A text that is no settings file. -/
  | settings
  /-- A text that is not JSON, or not the JSON that is wanted. -/
  | json
  /-- A file that cannot be read. -/
  | file
  /-- Octets that are no text. -/
  | notText
  | during (context : Context) (cause : Failure)

namespace Failure

/-- The text of the outermost layer. -/
def message : Failure → String
  | ingest e => e.message
  | provider e => e.message
  | catalog e => e.message
  | batch e => e.message
  | record e => e.message
  | filter e => e.message
  | mark e => e.message
  | noConcurrency => "concurrency must be at least 1"
  | pattern => "not a pattern"
  | settings => "not a settings file"
  | json => "not the JSON that is wanted"
  | file => "the file cannot be read"
  | notText => "stream did not contain valid UTF-8"
  | during context _ => context.message

/-- The texts of the layers below the outermost one. -/
def causes : Failure → List String
  | during _ cause => cause.message :: cause.causes
  | _ => []

/-- All layers in one line. -/
def line (e : Failure) : String := String.intercalate ": " (e.message :: e.causes)

/-- The error that all layers are wrapped around. -/
def root : Failure → Failure
  | during _ cause => cause.root
  | e => e

end Failure

/-- Puts a layer around the failure of a computation. -/
def during {α : Type} (context : Context) (result : Except Failure α) : Except Failure α :=
  result.mapError (.during context)

end TagGovernance
