import NodeAdmin.Model.Basic
import NodeAdmin.Text.Case
import NodeAdmin.Text.Pieces

/-!
# The catalog

Models are listed by provider. Providers come in the order of their names, with
the models of no known provider last; inside a group enabled models come first,
then names decide in lower case, then ids.
-/

namespace NodeAdmin

/-- The heading of models whose provider is not known. -/
def otherProvider : String := "other"

/-- The provider a model is listed under: the one it names, else what its id has
in front of the first slash. -/
def Model.providerKey (model : Model) : String :=
  match model.provider.map Text.trim with
  | some provider => if provider.isEmpty then ofId model.id else Text.toLower provider
  | none => ofId model.id
where
  ofId (id : String) : String :=
    let front := id.toList.takeWhile (· != '/')
    if front.isEmpty ∨ front.length = id.toList.length then otherProvider
    else Text.toLower (String.ofList front)

/-- Models under one heading. -/
structure ProviderGroup where
  provider : String
  models : List Model
  deriving DecidableEq, Repr

namespace Catalog

/-- Adds a model to the group of its provider, which is new at the end if there
is none yet. -/
def insert (key : String) (model : Model) : List ProviderGroup → List ProviderGroup
  | [] => [⟨key, [model]⟩]
  | group :: rest =>
      if group.provider = key then ⟨group.provider, group.models ++ [model]⟩ :: rest
      else group :: insert key model rest

/-- The groups in the order in which their first models come. -/
def collect (models : List Model) : List ProviderGroup :=
  models.foldl (fun groups model => insert model.providerKey model groups) []

/-- Whether one heading may come before another. -/
def headingLe (left right : String) : Bool :=
  if left = otherProvider then right = otherProvider
  else right = otherProvider || !(decide (right < left))

/-- Whether one model may come before another in a group. -/
def modelLe (left right : Model) : Bool :=
  if left.enabled != right.enabled then left.enabled
  else
    let leftName := Text.toLower left.displayName
    let rightName := Text.toLower right.displayName
    if leftName = rightName then !(decide (right.id < left.id))
    else leftName < rightName

/-- The groups of models in listing order. -/
def group (models : List Model) : List ProviderGroup :=
  ((collect models).mergeSort fun left right => headingLe left.provider right.provider).map
    fun group => { group with models := group.models.mergeSort modelLe }

/-- The models to list: enabled ones unless all are wanted, and those of one
provider if one is given. -/
def select (provider : Option String) (all : Bool) (models : List Model) : List Model :=
  let wanted := provider.map Text.toLower
  models.filter fun model =>
    (all || model.enabled) && match wanted with
      | some key => model.providerKey = key
      | none => true

end Catalog

end NodeAdmin
