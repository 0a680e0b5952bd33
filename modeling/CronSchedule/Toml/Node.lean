import CronSchedule.Binary64.Basic

/-!
# Tables of a TOML document

A document is a table of named nodes. `Node.assign` and `Node.openTable` add to
such a table what a line of a document states, and refuse to define anything
twice.
-/

set_option autoImplicit false

namespace CronSchedule.Toml

/-- How a table came about. -/
inductive Origin where
  /-- By the header of a table inside it. -/
  | implied
  /-- By a key with dots. -/
  | dotted
  /-- By a header of its own. -/
  | stated
  deriving DecidableEq

/-- What stands under a key of a document. Dates and times are kept as their text. -/
inductive Node where
  | text (text : String)
  | integer (value : Int)
  | float (value : Binary64)
  | boolean (value : Bool)
  | array (items : List Node)
  /-- A table written as one value, to which nothing can be added. -/
  | inlineTable (entries : List (String × Node))
  | table (origin : Origin) (entries : List (String × Node))
  /-- The tables that headers in double brackets define one after the other. -/
  | tables (rows : List (List (String × Node)))

/-- The entries of a table in the order in which they are defined. -/
abbrev Entries : Type := List (String × Node)

namespace Entries

/-- Replaces the node under a key, or adds it at the end. -/
def set (key : String) (node : Node) : Entries → Entries
  | [] => [(key, node)]
  | entry :: others =>
    if entry.1 = key then (key, node) :: others else entry :: set key node others

/-- Adds a value under a key with dots: `parents` are its parts before the last. Tables that
do not exist yet are created. A table that a header has only implied becomes one that dotted
keys define, and a table with a header of its own takes no dotted keys; nor do the tables of
headers in double brackets, but tables inside the last of them do. -/
def assign (value : Node) (parents : List String) (key : String) (entries : Entries) :
    Option Entries :=
  match parents with
  | [] => if (entries.lookup key).isSome then none else some (entries.set key value)
  | parent :: path =>
    match entries.lookup parent with
    | none =>
      (assign value path key []).map fun inner => entries.set parent (.table .dotted inner)
    | some (.table origin inner) =>
      if origin = .stated then none
      else (assign value path key inner).map fun inner => entries.set parent (.table .dotted inner)
    | some (.tables rows) =>
      if path.isEmpty then none
      else
        (assign value path key (rows.getLastD [])).map fun row =>
          entries.set parent (.tables (rows.dropLast ++ [row]))
    | some _ => none

/-- Changes the table to which a path of headers leads. Tables on the way that do not exist yet
are created; of several tables under one key it is the last. -/
def within (path : List String) (change : Entries → Option Entries) (entries : Entries) :
    Option Entries :=
  match path with
  | [] => change entries
  | key :: path =>
    match entries.lookup key with
    | none => (within path change []).map fun inner => entries.set key (.table .implied inner)
    | some (.table origin inner) =>
      (within path change inner).map fun inner => entries.set key (.table origin inner)
    | some (.tables rows) =>
      (within path change (rows.getLastD [])).map fun row =>
        entries.set key (.tables (rows.dropLast ++ [row]))
    | some _ => none

/-- Defines the table of a header, which may have been implied before. -/
def openTable (key : String) (entries : Entries) : Option Entries :=
  match entries.lookup key with
  | none => some (entries.set key (.table .stated []))
  | some (.table .implied inner) => some (entries.set key (.table .stated inner))
  | some _ => none

/-- Adds a table to the tables of a header in double brackets. -/
def addTable (key : String) (entries : Entries) : Option Entries :=
  match entries.lookup key with
  | none => some (entries.set key (.tables [[]]))
  | some (.tables rows) => some (entries.set key (.tables (rows ++ [[]])))
  | some _ => none

end Entries

end CronSchedule.Toml
