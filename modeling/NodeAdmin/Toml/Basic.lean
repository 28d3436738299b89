import NodeAdmin.Double.Basic

/-!
# TOML values

A document is a table of entries in the order in which they were written. How a
table came about decides who may still add to it.
-/

namespace NodeAdmin

/-- How a table came about: by a header of its own, on the way to the table of
another header, by a dotted key, or in braces. -/
inductive TableForm where
  | headed
  | passed
  | dotted
  | braced
  deriving DecidableEq, Repr

/-- A TOML value. Dates and times keep their text. -/
inductive Toml where
  | string (value : String)
  | integer (value : Int)
  | float (value : Double)
  | bool (value : Bool)
  | moment (text : String)
  | array (items : List Toml)
  | table (form : TableForm) (entries : List (String × Toml))
  | tables (items : List Toml)
  deriving Inhabited

namespace Toml

/-- The named values of a table. -/
abbrev Entries := List (String × Toml)

/-- The value of a key. -/
def lookup (key : String) (entries : Entries) : Option Toml :=
  (entries.find? (·.1 == key)).map (·.2)

/-- Puts a value in the place of the value that a key has, or behind all others. -/
def put (key : String) (value : Toml) : Entries → Entries
  | [] => [(key, value)]
  | entry :: rest =>
      if entry.1 = key then (key, value) :: rest else entry :: put key value rest

end Toml

end NodeAdmin
