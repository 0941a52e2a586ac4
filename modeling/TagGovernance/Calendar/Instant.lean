import TagGovernance.Calendar.Date

/-!
# Instants

Points in time in whole seconds of UTC, and spans of time. Both are bounded: a span by the
milliseconds that fit 64 bits, an instant by the years of the calendar.
-/

namespace TagGovernance

/-- Seconds since the beginning of 1970. -/
structure Instant where
  seconds : Int
  deriving DecidableEq, Repr

/-- A span of time that can be represented, in seconds. -/
structure Span where
  seconds : Int
  deriving DecidableEq, Repr

namespace Span

/-- A span has at most this many seconds in either direction. -/
def maxSeconds : Int := 9223372036854775

def ofSeconds? (n : Int) : Option Span :=
  if -maxSeconds ≤ n ∧ n ≤ maxSeconds then some ⟨n⟩ else none

def ofDays? (n : Int) : Option Span := ofSeconds? (n * 86400)

def ofHours? (n : Int) : Option Span := ofSeconds? (n * 3600)

def add? (a b : Span) : Option Span := ofSeconds? (a.seconds + b.seconds)

end Span

namespace Instant

instance : LE Instant := ⟨fun a b => a.seconds ≤ b.seconds⟩

instance (a b : Instant) : Decidable (a ≤ b) := inferInstanceAs (Decidable (a.seconds ≤ b.seconds))

/-- The day that an instant lies in. -/
def day (t : Instant) : Int := t.seconds / 86400

def date (t : Instant) : Date := Date.ofDays t.day

/-- Whether the instant's date is represented. -/
def Representable (t : Instant) : Prop :=
  Date.first.toDays ≤ t.day ∧ t.day ≤ Date.last.toDays

instance (t : Instant) : Decidable t.Representable :=
  inferInstanceAs (Decidable (_ ∧ _))

def ofSeconds? (n : Int) : Option Instant :=
  if Representable ⟨n⟩ then some ⟨n⟩ else none

def add? (t : Instant) (s : Span) : Option Instant := ofSeconds? (t.seconds + s.seconds)

def sub? (t : Instant) (s : Span) : Option Instant := ofSeconds? (t.seconds - s.seconds)

/-- A time of a date. -/
def atTime (d : Date) (hour minute : Nat) : Instant :=
  ⟨d.toDays * 86400 + hour * 3600 + minute * 60⟩

/-- The instant as date, time and zone. -/
def render (t : Instant) : String :=
  let time := (t.seconds % 86400).toNat
  String.ofList (t.date.render '-' ++ ' ' :: Text.padded 2 (time / 3600) ++
    ':' :: Text.padded 2 (time / 60 % 60) ++ ':' :: Text.padded 2 (time % 60)) ++ " UTC"

end Instant

end TagGovernance
