/-!
# Texts with separators

`splitAt` cuts a text at every separator and `joinWith` puts the parts together
again; `splitFirst?` cuts it at the first separator only.
-/

set_option autoImplicit false

namespace CronSchedule.Text

/-- The parts of a text between its separators; a text without one is its only part. -/
def splitAt (separator : Char) : List Char → List (List Char)
  | [] => [[]]
  | c :: rest =>
    if c = separator then [] :: splitAt separator rest
    else
      match splitAt separator rest with
      | [] => [[c]]
      | part :: others => (c :: part) :: others

/-- The parts with a separator between each two. -/
def joinWith (separator : Char) : List (List Char) → List Char
  | [] => []
  | [part] => part
  | part :: others => part ++ separator :: joinWith separator others

/-- What stands before and after the first separator, if there is one. -/
def splitFirst? (separator : Char) : List Char → Option (List Char × List Char)
  | [] => none
  | c :: rest =>
    if c = separator then some ([], rest)
    else (splitFirst? separator rest).map fun (before, after) => (c :: before, after)

end CronSchedule.Text
