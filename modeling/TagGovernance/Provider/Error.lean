import TagGovernance.Text.Split

/-!
# Errors of a provider's calls

A call that fails is classified by the code that the cloud service reports. A resource that is gone
is the one failure that a batch passes over.
-/

namespace TagGovernance

inductive ProviderError
  | notFound (text : String)
  | accessDenied (text : String)
  | throttled (text : String)
  | validation (text : String)
  | other (text : String)
  deriving DecidableEq, Repr

namespace ProviderError

def isNotFound : ProviderError → Bool
  | notFound _ => true
  | _ => false

/-- The class of an error. -/
def code : ProviderError → String
  | notFound _ => "not-found"
  | accessDenied _ => "access-denied"
  | throttled _ => "throttled"
  | validation _ => "validation"
  | other _ => "other"

def text : ProviderError → String
  | notFound t | accessDenied t | throttled t | validation t | other t => t

def message : ProviderError → String
  | notFound t => s!"resource not found: {t}"
  | accessDenied t => s!"access denied: {t}"
  | throttled t => s!"throttled: {t}"
  | validation t => s!"validation failed: {t}"
  | other t => s!"provider error: {t}"

def notFoundCodes : List String :=
  ["ResourceNotFoundException", "NotFoundException", "NoSuchAccessPoint", "NoSuchConfiguration",
   "AcceleratorNotFoundException"]

def accessDeniedCodes : List String :=
  ["AccessDenied", "AccessDeniedException", "UnauthorizedOperation"]

def throttledCodes : List String :=
  ["Throttling", "ThrottlingException", "TooManyRequestsException"]

def validationCodes : List String := ["ValidationException", "InvalidRequestException"]

/-- Classifies the code of a cloud service. -/
def ofCode (code text : String) : ProviderError :=
  if notFoundCodes.contains code || Text.endsWith code "NotFoundFault" then notFound text
  else if accessDeniedCodes.contains code then accessDenied text
  else if throttledCodes.contains code then throttled text
  else if validationCodes.contains code || (Text.afterStart? "InvalidParameter" code).isSome then
    validation text
  else other s!"{code}: {text}"

end ProviderError

end TagGovernance
