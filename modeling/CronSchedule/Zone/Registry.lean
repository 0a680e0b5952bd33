import CronSchedule.Zone.Africa
import CronSchedule.Zone.America
import CronSchedule.Zone.Asia
import CronSchedule.Zone.Europe
import CronSchedule.Zone.Oceania

/-!
# The named zones

The registry of the zones that a schedule can be set to by name. It is a selection
from the time zone database, which has some six hundred names; any other name of
the database is refused here as an unknown one is. Each table starts in 1965 and
has no changes after 2099. Names are compared as they stand, letter case included.
-/

set_option autoImplicit false

namespace CronSchedule.ZoneTable

/-- UTC as a named zone. -/
def utc : ZoneTable := ofRecord "UTC" 0 [] []

/-- The zone five hours behind UTC; its name counts the hours westwards. -/
def fiveHoursWest : ZoneTable := ofRecord "Etc/GMT+5" (-18000) [] []

/-- The selection of named zones: those of the time zone database that are listed here. -/
def registry : List ZoneTable :=
  [casablanca, monrovia, caracas, newYork, saoPaulo, stJohns, troll, kathmandu, kolkata, tokyo,
   lordHowe, sydney, fiveHoursWest, london, stockholm, apia, kwajalein, usEastern, utc]

/-- The zone of the given name, if the registry has it. -/
def find? (name : String) : Option ZoneTable := registry.find? (·.name == name)

end CronSchedule.ZoneTable
