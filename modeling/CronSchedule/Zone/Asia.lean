import CronSchedule.Zone.Yearly

/-!
# The zones of Asia

Offsets in seconds from 1965 on. None of these zones has a summer time.
-/

set_option autoImplicit false

namespace CronSchedule.ZoneTable

/-- The zone of Kathmandu. -/
def kathmandu : ZoneTable :=
  ofRecord "Asia/Kathmandu" 19800
    [(504901800, 20700)]
    []

/-- The zone of Kolkata. -/
def kolkata : ZoneTable :=
  ofRecord "Asia/Kolkata" 19800
    []
    []

/-- The zone of Tokyo. -/
def tokyo : ZoneTable :=
  ofRecord "Asia/Tokyo" 32400
    []
    []

end CronSchedule.ZoneTable
