import NodeAdmin.Double.Basic

/-!
# JSON values

Documents are written from these values, and members that a record does not
know are kept as such values. Objects list their members in order. A value that
was read has its members sorted by key, each key once.
-/

namespace NodeAdmin

/-- A JSON value. Whole numbers and doubles are told apart. -/
inductive Json where
  | null
  | bool (value : Bool)
  | integer (value : Int)
  | float (value : Double)
  | string (value : String)
  | array (items : List Json)
  | object (members : List (String × Json))
  deriving Inhabited

namespace Json

/-- Puts a member into a list sorted by key; an earlier member of that key is
replaced. -/
def putMember {α : Type} (key : String) (value : α) :
    List (String × α) → List (String × α)
  | [] => [(key, value)]
  | member :: rest =>
      if key = member.1 then (key, value) :: rest
      else if key < member.1 then (key, value) :: member :: rest
      else member :: putMember key value rest

/-- The members sorted by key, the last of each key. -/
def sortMembers {α : Type} (members : List (String × α)) : List (String × α) :=
  members.foldl (fun sorted member => putMember member.1 member.2 sorted) []

/-- A member that is left out when it has no value. -/
def optional (key : String) (value : Option Json) : List (String × Json) :=
  match value with
  | some value => [(key, value)]
  | none => []

/-- The first member of a key. -/
def member? (key : String) : Json → Option Json
  | object members => (members.find? (·.1 == key)).map (·.2)
  | _ => none

end Json

end NodeAdmin
