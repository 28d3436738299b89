import NodeAdmin.Time.Instant

/-!
# Written instants

Instants are written in UTC. Fractions take no digits or three, six or nine, as
many as they need; years outside four digits carry a sign.
-/

namespace NodeAdmin.Time

/-- A number with zeros in front up to a width. -/
def padded (width value : Nat) : List Char :=
  let digits := Nat.toDigits 10 value
  List.replicate (width - digits.length) '0' ++ digits

def yearText (year : Int) : List Char :=
  if 0 ≤ year ∧ year ≤ 9999 then padded 4 year.toNat
  else (if year < 0 then '-' else '+') :: padded 4 year.natAbs

def dateText (date : CivilDate) : List Char :=
  yearText date.year ++ '-' :: (padded 2 date.month ++ '-' :: padded 2 date.day)

def clockText (time : ClockTime) : List Char :=
  padded 2 time.hour ++ ':' :: (padded 2 time.minute ++ ':' :: padded 2 time.second)

def fractionText (nanos : Nat) : List Char :=
  if nanos = 0 then []
  else if nanos % 1000000 = 0 then '.' :: padded 3 (nanos / 1000000)
  else if nanos % 1000 = 0 then '.' :: padded 6 (nanos / 1000)
  else '.' :: padded 9 nanos

/-- An instant in the form of RFC 3339 with the given mark for UTC. -/
def Instant.withMark (mark : String) (instant : Instant) : String :=
  String.ofList
    (dateText instant.date ++ 'T' :: (clockText instant.clock ++
      fractionText instant.clock.nanos ++ mark.toList))

/-- The form with an offset of zero. -/
def Instant.toRfc3339 : Instant → String := Instant.withMark "+00:00"

/-- The form used in JSON documents. -/
def Instant.toJsonText : Instant → String := Instant.withMark "Z"

/-- The form shown to an operator, to the second, where the local time is UTC. -/
def Instant.shown (instant : Instant) : String :=
  String.ofList (dateText instant.date ++ ' ' :: clockText instant.clock)

end NodeAdmin.Time
