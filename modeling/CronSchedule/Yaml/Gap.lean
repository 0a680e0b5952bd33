/-!
# Gaps within a YAML scalar

A scalar may go on for several lines. Where it does, the blanks around the line
ends are left out, one line end stands for a space, and of several line ends all
but the first are kept.
-/

set_option autoImplicit false

namespace CronSchedule.Yaml

/-- What stands between two pieces of a scalar. -/
structure Gap where
  /-- The blanks before the first line end, the last one first. -/
  blanks : List Char
  /-- Number of line ends. -/
  breaks : Nat
  /-- Was the end of the line before the gap escaped? -/
  escaped : Bool

namespace Gap

/-- No gap. -/
def empty : Gap := ⟨[], 0, false⟩

/-- The gap after an escaped line end. -/
def afterEscape : Gap := ⟨[], 0, true⟩

/-- Does the gap reach over a line end? -/
def isBroken (gap : Gap) : Bool := gap.escaped || 0 < gap.breaks

/-- The gap with another blank, which counts only before the first line end. -/
def blank (gap : Gap) (c : Char) : Gap :=
  if gap.isBroken then gap else { gap with blanks := c :: gap.blanks }

/-- The gap with another line end. -/
def lineEnd (gap : Gap) : Gap := { gap with breaks := gap.breaks + 1 }

/-- The text that the gap stands for. -/
def text (gap : Gap) : List Char :=
  if gap.escaped then List.replicate gap.breaks '\n'
  else
    match gap.breaks with
    | 0 => gap.blanks.reverse
    | 1 => [' ']
    | n + 2 => List.replicate (n + 1) '\n'

end Gap

end CronSchedule.Yaml
