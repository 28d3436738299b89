import NodeAdmin.Toml.Basic

/-!
# Building tables

Headers and keys lead along paths into a document. Missing tables on the way are
made, the last table of a list stands for the list, and what was given as a value
cannot be entered. Tables may be added to only in the way in which they came
about.
-/

namespace NodeAdmin.Toml

/-- The text of a path, part by part. -/
abbrev Path := List String

/-- A table together with how it came about. -/
structure Table where
  form : TableForm
  entries : Entries

namespace Table

def empty (form : TableForm) : Table := ⟨form, []⟩

def toToml (target : Table) : Toml := .table target.form target.entries

def put (key : String) (value : Toml) (target : Table) : Table :=
  { target with entries := Toml.put key value target.entries }

end Table

/-- Whether a path of the given kind may enter a table: dotted keys enter only
tables without a header, and nothing enters braces. -/
def mayEnter (made form : TableForm) : Bool :=
  match made, form with
  | _, .braced => false
  | .dotted, .headed => false
  | _, _ => true

/-- Changes the last of a list of tables. -/
def alterLast? (change : Table → Option Table) : List Toml → Option (List Toml)
  | [] => none
  | [.table form entries] => (change ⟨form, entries⟩).map fun inner => [inner.toToml]
  | [_] => none
  | item :: next :: rest => (alterLast? change (next :: rest)).map (item :: ·)

/-- Changes the table behind a key; a missing table is made. -/
def enter? (made : TableForm) (key : String) (change : Table → Option Table)
    (target : Table) : Option Table :=
  match lookup key target.entries with
  | none =>
      (change (.empty made)).map fun inner => target.put key inner.toToml
  | some (.table form entries) =>
      if mayEnter made form then
        (change ⟨form, entries⟩).map fun inner => target.put key inner.toToml
      else none
  | some (.tables items) =>
      (alterLast? change items).map fun items => target.put key (Toml.tables items)
  | some _ => none

/-- Changes the table at the end of a path. -/
def alter? (made : TableForm) (change : Table → Option Table) :
    Path → Table → Option Table
  | [], target => change target
  | key :: path, target => enter? made key (alter? made change path) target

/-- Adds an entry under a key that is still free. Tables made by dotted keys take
entries with dotted keys only, and other tables take none of those. -/
def add? (isDotted : Bool) (key : String) (value : Toml) (target : Table) :
    Option Table :=
  if (target.form == .dotted) != isDotted then none
  else if (lookup key target.entries).isSome then none
  else some (target.put key value)

/-- Adds an entry under a path. -/
def addAt? (path : Path) (key : String) (value : Toml) (target : Table) :
    Option Table :=
  alter? .dotted (add? (!path.isEmpty) key value) path target

/-- Starts the table of a header. Only a table that was merely passed on the way
to another header may still get a header of its own. -/
def startTable? (key : String) (target : Table) : Option Table :=
  match lookup key target.entries with
  | none => some (target.put key (Table.empty .headed).toToml)
  | some (.table .passed entries) => some (target.put key (.table .headed entries))
  | some _ => none

/-- Starts the next table of a list. -/
def startListed? (key : String) (target : Table) : Option Table :=
  let fresh := (Table.empty .headed).toToml
  match lookup key target.entries with
  | none => some (target.put key (.tables [fresh]))
  | some (.tables items) => some (target.put key (.tables (items ++ [fresh])))
  | some _ => none

end NodeAdmin.Toml
