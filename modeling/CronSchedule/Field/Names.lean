/-!
# Names of months, weekdays and presets

Months and weekdays have a full name and a three letter abbreviation, both in
capitals when they are read. A preset is a word that stands for a whole
schedule of seven fields.
-/

set_option autoImplicit false

namespace CronSchedule

/-! ## Months and weekdays -/

/-- English names of the months, January first. -/
def monthNames : List String :=
  ["January", "February", "March", "April", "May", "June",
   "July", "August", "September", "October", "November", "December"]

/-- English names of the weekdays, Monday first. -/
def dayNames : List String :=
  ["Monday", "Tuesday", "Wednesday", "Thursday", "Friday", "Saturday", "Sunday"]

/-- Abbreviation and full name of each month as they are read, January first. -/
def monthWords : List (String × String) :=
  [("JAN", "JANUARY"), ("FEB", "FEBRUARY"), ("MAR", "MARCH"), ("APR", "APRIL"),
   ("MAY", "MAY"), ("JUN", "JUNE"), ("JUL", "JULY"), ("AUG", "AUGUST"),
   ("SEP", "SEPTEMBER"), ("OCT", "OCTOBER"), ("NOV", "NOVEMBER"), ("DEC", "DECEMBER")]

/-- Abbreviation and full name of each weekday as they are read, Monday first. -/
def dayWords : List (String × String) :=
  [("MON", "MONDAY"), ("TUE", "TUESDAY"), ("WED", "WEDNESDAY"), ("THU", "THURSDAY"),
   ("FRI", "FRIDAY"), ("SAT", "SATURDAY"), ("SUN", "SUNDAY")]

/-- Position, counted from one, of the entry that holds `word` as either of its two spellings. -/
def wordPosition? (words : List (String × String)) (word : String) : Option Nat :=
  (words.findIdx? fun entry => entry.1 == word || entry.2 == word).map (· + 1)

/-- Number of the month that a capital word names. -/
def monthNumber? (word : String) : Option Nat := wordPosition? monthWords word

/-- Number of the weekday, Monday being 1, that a capital word names. -/
def weekdayNumber? (word : String) : Option Nat := wordPosition? dayWords word

/-- The entry at a position counted from one. -/
def nameAt? (names : List String) : Nat → Option String
  | 0 => none
  | position + 1 => names[position]?

/-- English name of a month. -/
def monthName? (month : Nat) : Option String := nameAt? monthNames month

/-- English name of a weekday, Monday being 1. -/
def dayName? (weekday : Nat) : Option String := nameAt? dayNames weekday

/-! ## Presets -/

/-- The seven fields that a preset stands for. -/
def presetFields? : String → Option (List String)
  | "@YEARLY" | "@ANNUALLY" => some ["0", "0", "0", "1", "1", "?", "*"]
  | "@MONTHLY" => some ["0", "0", "0", "L", "*", "?", "*"]
  | "@WEEKLY" => some ["0", "0", "0", "?", "*", "1", "*"]
  | "@DAILY" | "@MIDNIGHT" => some ["0", "0", "0", "*", "*", "?", "*"]
  | "@HOURLY" => some ["0", "0", "*", "*", "*", "?", "*"]
  | _ => none

end CronSchedule
