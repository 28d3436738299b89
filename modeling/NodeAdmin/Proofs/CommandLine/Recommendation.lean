import NodeAdmin.Proofs.CommandLine.Conversation
import NodeAdmin.Proofs.Cost.Recommendation

/-!
# Updates to the recommended floor

An update to the recommended floor asks for the model first.  The floor that is stored is the
one that suits the model as the other changes of the update leave it.
-/

namespace NodeAdmin

namespace Api.Client

variable {client : Client}

/-- Whoever got a model can send something to the models. -/
theorem exists_reaches_of_getModel {id : String} {reply : Reply} {model : Model}
    (found : (client.getModel id reply).result = .ok model) :
    ∃ token base, client.Reaches modelsPath token base := by
  -- A client that reaches nothing sends nothing, and then no model is found.
  by_contra unreached
  simp only [not_exists] at unreached
  obtain ⟨error, unsent⟩ := getModel_unsent unreached id reply
  rw [unsent] at found
  cases found

theorem Reaches.exists_getModel_dispatch {token : String} {base : Url}
    (reaches : client.Reaches modelsPath token base) (id : String) (reply : Reply) :
    ∃ request, (client.getModel id reply).dispatch = some ⟨request, reply⟩ ∧
      request.method = .get := by
  simp [getModel, listModels, fetch, send, Exchange.refine, reaches.held, reaches.located,
    reaches.sendable, Except.map, Draft.withToken]

theorem Reaches.exists_updateModel_dispatch {token : String} {base : Url}
    (reaches : client.Reaches modelsPath token base) (id : String) (change : ModelOverride)
    (reply : Reply) :
    ∃ request, (client.updateModel id change reply).dispatch = some ⟨request, reply⟩ ∧
      request.method = .patch ∧ request.body = some change.toJson.compact := by
  simp [updateModel, modelUrl, send, reaches.held, reaches.located, reaches.sendable,
    Draft.withToken]

end Api.Client

namespace CommandLine

variable {surroundings : Surroundings} {invocation : Invocation} {file : StoredFile}
  {update : ModelUpdate} {client : Api.Client} {model : Model}

/-- An update to the recommended floor stores it for the model that the node returned. -/
theorem run_dispatches_of_recommended (asked : invocation.command = .update update)
    (recommended : update.recommendedMinimum = true)
    (connected : connect surroundings.environment file = .ok client)
    (found : (client.getModel update.model (surroundings.replies 0)).result = .ok model) :
    ∃ question change, (run surroundings invocation file).dispatches = [question, change] ∧
      question.request.method = .get ∧ change.request.method = .patch ∧
      change.request.body = some (recommendMinimum update.toOverride model).toJson.compact := by
  obtain ⟨token, base, reaches⟩ := Api.Client.exists_reaches_of_getModel found
  obtain ⟨question, getModel, isGet⟩ :=
    reaches.exists_getModel_dispatch update.model (surroundings.replies 0)
  obtain ⟨change, updateModel, isPatch, body⟩ := reaches.exists_updateModel_dispatch update.model
    (recommendMinimum update.toOverride model) (surroundings.replies 1)
  refine ⟨⟨question, surroundings.replies 0⟩, ⟨change, surroundings.replies 1⟩, ?_, isGet,
    isPatch, body⟩
  have something := recommendMinimum_isEmpty update.toOverride model
  simp only [run, asked, Surroundings.setting, runUpdate, withClient, connected, recommended,
    if_true]
  rw [proceed_dispatches_of_ok found, getModel, storeOverride, something,
    if_neg Bool.false_ne_true, proceed_dispatches_of_silent, updateModel]
  · rfl
  · intro model
    rfl

/-- The floor that an update stores suits the model with all changes of the update. -/
theorem run_recommends (asked : invocation.command = .update update)
    (recommended : update.recommendedMinimum = true)
    (connected : connect surroundings.environment file = .ok client)
    (found : (client.getModel update.model (surroundings.replies 0)).result = .ok model)
    (inputPrice : (model.apply (recommendMinimum update.toOverride model)).inputPrice.IsPrice)
    (outputPrice : (model.apply (recommendMinimum update.toOverride model)).outputPrice.IsPrice) :
    (∃ question change, (run surroundings invocation file).dispatches = [question, change] ∧
      question.request.method = .get ∧ change.request.method = .patch ∧
      change.request.body = some (recommendMinimum update.toOverride model).toJson.compact) ∧
      (model.apply (recommendMinimum update.toOverride model)).FloorFits := by
  constructor
  · exact run_dispatches_of_recommended asked recommended connected found
  · exact Model.floorFits inputPrice outputPrice rfl

/-- A model with a window of 50 tokens. -/
def narrowModel : Model :=
  { Model.ofPrices "gpt" (Double.ofDecimal false 15 (-1)) (.ofNat 3) with contextLength := some 50 }

/-- An update of its input price and of its floor. -/
def narrowUpdate : ModelUpdate :=
  ⟨"gpt", none, some false, ⟨some (Double.ofDecimal false 1 (-1)), none, none, .perMillion⟩, true⟩

def narrowInvocation : Invocation := ⟨.update narrowUpdate, none, false, false, false, false⟩

/-- A node that offers the model and takes the update. -/
def narrowSurroundings : Surroundings :=
  { raiseRun.surroundings with
    replies := fun _ => .answered 200
      ((Json.array [narrowModel.toJson]).compact.toList.flatMap Text.encodeCharacter) }

theorem run_recommends_narrowModel :
    (∃ question change, (run narrowSurroundings narrowInvocation .absent).dispatches =
        [question, change] ∧
      question.request.method = .get ∧ change.request.method = .patch ∧
      change.request.body =
        some (recommendMinimum narrowUpdate.toOverride narrowModel).toJson.compact) ∧
      (narrowModel.apply (recommendMinimum narrowUpdate.toOverride narrowModel)).FloorFits ∧
      (narrowModel.apply (recommendMinimum narrowUpdate.toOverride narrowModel)).floorTokens =
        100 := by
  have connected : connect narrowSurroundings.environment .absent = .ok ⟨raiseSession⟩ := by
    decide +kernel
  have found : (Api.Client.getModel ⟨raiseSession⟩ narrowUpdate.model
      (narrowSurroundings.replies 0)).result = .ok narrowModel := by
    decide +kernel
  have inputPrice : (narrowModel.apply
      (recommendMinimum narrowUpdate.toOverride narrowModel)).inputPrice.IsPrice :=
    ⟨by decide +kernel, by decide +kernel⟩
  have outputPrice : (narrowModel.apply
      (recommendMinimum narrowUpdate.toOverride narrowModel)).outputPrice.IsPrice :=
    ⟨by decide +kernel, by decide +kernel⟩
  have asked : narrowInvocation.command = .update narrowUpdate := rfl
  obtain ⟨sent, fits⟩ := run_recommends asked rfl connected found inputPrice outputPrice
  exact ⟨sent, fits, by decide⟩

end CommandLine

end NodeAdmin
