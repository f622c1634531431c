import ExtractionPrompt.Text.Numeral

/-!
Moments in whole seconds, and their text: date and time of day in Coordinated Universal Time.
-/

namespace ExtractionPrompt

/-- Seconds since the start of 1970. -/
structure Instant where
  seconds : Nat
  deriving DecidableEq, Repr

namespace Instant

/-- The start of 2024. -/
def origin : Instant := ⟨1704067200⟩

/-- Year, month and day of a day counted from the start of 1970.  Years are taken from March on, so
that a leap day is the last of its year, in eras of four hundred. -/
def date (days : Nat) : Nat × Nat × Nat :=
  let shifted := days + 719468
  let era := shifted / 146097
  let dayOfEra := shifted % 146097
  let yearOfEra := (dayOfEra - dayOfEra / 1460 + dayOfEra / 36524 - dayOfEra / 146096) / 365
  let dayOfYear := dayOfEra - (365 * yearOfEra + yearOfEra / 4 - yearOfEra / 100)
  let monthFromMarch := (5 * dayOfYear + 2) / 153
  let day := dayOfYear - (153 * monthFromMarch + 2) / 5 + 1
  let month := if monthFromMarch < 10 then monthFromMarch + 3 else monthFromMarch - 9
  let year := yearOfEra + 400 * era
  (if month ≤ 2 then year + 1 else year, month, day)

def text (t : Instant) : String :=
  let (year, month, day) := date (t.seconds / 86400)
  let inDay := t.seconds % 86400
  let two := Text.padded 2
  String.ofList (Text.padded 4 year ++ '-' :: two month ++ '-' :: two day ++
    'T' :: two (inDay / 3600) ++ ':' :: two (inDay / 60 % 60) ++ ':' :: two (inDay % 60) ++ ['Z'])

end Instant

end ExtractionPrompt
