import NodeAdmin.Api.Client
import NodeAdmin.Proofs.Url.Joining
import NodeAdmin.Proofs.Url.Segments

/-!
# Addresses of models

The address of a model is the address of its node, the path of all models, and one segment for
each part of the id between slashes. It names the id just when every part is kept as it is: a
part of one or two points is left out, and tabs and line ends are dropped. Two ids of kept
parts never share an address, and only a part that is two points behind dropped characters
leads out of the path of all models.
-/

namespace NodeAdmin

/-- Whether an address goes on behind `folder` with one segment for each part of an id between
slashes, in order, each of which is read back to the part. -/
def Url.Names (url : Url) (folder : List String) (id : String) : Prop :=
  ∃ segments, url.path = folder ++ segments ∧
    segments.map (Url.percentDecode ·.toList) = (Text.pieces '/' id.toList).map Text.utf8

/-- Whether every part of an id is kept as it is. -/
def Url.KeepsId (id : String) : Prop := ∀ part ∈ Text.pieces '/' id.toList, Url.IsKept part

instance (id : String) : Decidable (Url.KeepsId id) :=
  inferInstanceAs (Decidable (∀ part ∈ Text.pieces '/' id.toList, Url.IsKept part))

namespace Api.Client

/-- Whether the address of a node, ended with a slash, is read to `root`, and nothing stands
behind its path. -/
structure IsRootedAt (client : Client) (root : Url) : Prop where
  located : Url.parse (client.session.endpoint "") = .ok root
  noQuery : root.query = none
  noFragment : root.fragment = none

/-- The path of all models of a node. -/
def modelsFolder (root : Url) : List String := root.path.dropLast ++ ["admin", "api", "models"]

variable {client : Client} {root : Url}

theorem endpoint_empty (session : Session) :
    (session.endpoint "").toList = session.baseUrl.toList ++ ['/'] := by
  simp [Session.endpoint]

/-- The node of a readable address without marks behind its path has a root, and the path of
the root is that of the address with a slash at its end. -/
theorem exists_isRootedAt {base : Url} (located : Url.parse client.session.baseUrl = .ok base)
    (noQuery : base.query = none) (noFragment : base.fragment = none)
    (visible : ∀ last ∈ client.session.baseUrl.toList.getLast?, Url.isOuter last = false) :
    ∃ root, client.IsRootedAt root ∧ root = { base with path := root.path } ∧
      (root.path = base.path ++ [""] ∨ root.path = base.path) := by
  obtain ⟨path, rooted, ends⟩ := Url.parse_with_slash (endpoint_empty client.session) visible
    located noQuery noFragment
  exact ⟨_, ⟨rooted, noQuery, noFragment⟩, rfl, ends⟩

theorem modelUrl_eq (rooted : client.IsRootedAt root) (id : String) :
    client.modelUrl id = .ok { root with
      path := Url.addSegments (modelsFolder root) (Text.pieces '/' id.toList) } := by
  have written : (client.session.endpoint modelsPath).toList =
      client.session.baseUrl.toList ++ '/' :: "admin/api/models".toList := by
    simp [Session.endpoint, modelsPath]
  have isTail : Url.IsPathTail "admin/api/models".toList :=
    ⟨by decide, by decide, by decide⟩
  obtain ⟨folder, rootPath, parsed⟩ := Url.parse_joined (endpoint_empty client.session) written
    isTail rooted.located rooted.noQuery rooted.noFragment
  have segments : Url.pathSegments "admin/api/models".toList = ["admin", "api", "models"] := by
    decide
  have models : Url.resolve folder ["admin", "api", "models"] = modelsFolder root := by
    simp [modelsFolder, rootPath, Url.resolve, Url.closeSegment, Url.endSegment,
      Url.isDoublePoint, Url.isSinglePoint]
  rw [segments, models] at parsed
  rw [modelUrl, parsed]
  rfl

theorem modelsFolder_eq (root : Url) :
    modelsFolder root = (root.path.dropLast ++ ["admin", "api"]) ++ ["models"] := by
  simp [modelsFolder]

theorem two_le_modelsFolder (root : Url) : 2 ≤ (modelsFolder root).length := by
  simp [modelsFolder]

/-- The address of an id that is kept, as it is sent. -/
theorem target_of_keepsId {id : String} {url : Url} (rooted : client.IsRootedAt root)
    (located : client.modelUrl id = .ok url) (keeps : Url.KeepsId id) :
    url.target = "/" ++ Text.join "/"
      (modelsFolder root ++ (Text.pieces '/' id.toList).map Url.encodedSegment) := by
  rw [modelUrl_eq rooted, Url.addSegments_of_kept (two_le_modelsFolder root) keeps] at located
  cases located
  simp [Url.target, Url.pathText, rooted.noQuery]

/-- Addresses of ids that are kept are sent alike only if the ids are the same. -/
theorem eq_of_target {id other : String} {url otherUrl : Url} (rooted : client.IsRootedAt root)
    (located : client.modelUrl id = .ok url)
    (otherLocated : client.modelUrl other = .ok otherUrl) (keeps : Url.KeepsId id)
    (otherKeeps : Url.KeepsId other) (same : url.target = otherUrl.target) : id = other := by
  have inFolder : modelsFolder root ≠ [] := by simp [modelsFolder]
  rw [target_of_keepsId rooted located keeps, target_of_keepsId rooted otherLocated otherKeeps,
    String.append_right_inj] at same
  have parts := Url.intercalate_eq_of_join inFolder (Text.pieces_ne_nil '/' id.toList)
    (Text.pieces_ne_nil '/' other.toList) same
  rwa [Text.intercalate_pieces, Text.intercalate_pieces, String.toList_inj] at parts

/-- The request that changes a model goes to the address of the model. -/
theorem updateModel_request {id token : String} {url : Url}
    (held : client.session.token = some token) (sendable : isHeaderText token = true)
    (located : client.modelUrl id = .ok url) (change : ModelOverride) (reply : Reply) :
    ∃ request, (client.updateModel id change reply).dispatch = some ⟨request, reply⟩ ∧
      request.method = .patch ∧ request.url = url.withoutCredentials := by
  refine ⟨Draft.withToken ⟨.patch, url, some change.toJson.compact⟩ token, ?_, rfl, rfl⟩
  simp [updateModel, located, send, held, sendable]

/-- What the address of a model has to do with its id. -/
structure Locates (client : Client) (root : Url) (id : String) (url : Url) : Prop where
  /-- Only the path is not that of the node. -/
  rooted : url = { root with path := url.path }
  names_iff : url.Names (modelsFolder root) id ↔ Url.KeepsId id
  within_iff : modelsFolder root <+: url.path ↔ ¬ Url.Climbs (Text.pieces '/' id.toList)
  separate : ∀ other otherUrl, client.modelUrl other = .ok otherUrl → Url.KeepsId id →
    Url.KeepsId other → url.target = otherUrl.target → id = other
  requested : ∀ token change reply, client.session.token = some token →
    isHeaderText token = true →
    ∃ request, (client.updateModel id change reply).dispatch = some ⟨request, reply⟩ ∧
      request.method = .patch ∧ request.url = url.withoutCredentials

/-- A node whose address ends in its path has a root, which has the path of the address, and
every id has its address under the root. -/
theorem modelUrl_locates (client : Client) :
    (∀ base, Url.parse client.session.baseUrl = .ok base → base.query = none →
      base.fragment = none →
      (∀ last ∈ client.session.baseUrl.toList.getLast?, Url.isOuter last = false) →
      ∃ root, client.IsRootedAt root ∧ root = { base with path := root.path } ∧
        (root.path = base.path ++ [""] ∨ root.path = base.path)) ∧
    ∀ root id, client.IsRootedAt root →
      ∃ url, client.modelUrl id = .ok url ∧ client.Locates root id url := by
  refine ⟨fun base => exists_isRootedAt, ?_⟩
  intro root id rooted
  have located := modelUrl_eq rooted id
  refine ⟨_, located, rfl, ?_, ?_, ?_, ?_⟩
  · exact Url.addSegments_read_iff (two_le_modelsFolder root)
  · rw [modelsFolder_eq]
    exact Url.prefix_addSegments_iff (by simp) (by decide) (by decide) _
  · intro other otherUrl otherLocated keeps otherKeeps same
    exact eq_of_target rooted located otherLocated keeps otherKeeps same
  · intro token change reply held sendable
    exact updateModel_request held sendable located change reply

def folderClient : Client := ⟨⟨"https://node.example/folder", some "secret", .config⟩⟩

def folderRoot : Url :=
  ⟨.https, none, .domain "node.example", none, ["folder", ""], none, none⟩

theorem folderClient_isRootedAt : folderClient.IsRootedAt folderRoot :=
  ⟨by decide +kernel, rfl, rfl⟩

theorem modelUrl_locates_folderClient :
    (∃ base root, Url.parse folderClient.session.baseUrl = .ok base ∧
      folderClient.IsRootedAt root ∧
      (root.path = base.path ++ [""] ∨ root.path = base.path)) ∧
    ∃ url, folderClient.modelUrl "open ai/100%" = .ok url ∧
      url.Names ["folder", "admin", "api", "models"] "open ai/100%" ∧
      ["folder", "admin", "api", "models"] <+: url.path ∧
      ∃ request, (folderClient.updateModel "open ai/100%" .empty (.failed [])).dispatch =
        some ⟨request, .failed []⟩ ∧ request.method = .patch ∧
          request.url = url.withoutCredentials := by
  have read : Url.parse folderClient.session.baseUrl =
      .ok { folderRoot with path := ["folder"] } := by
    decide +kernel
  have visible : ∀ last ∈ folderClient.session.baseUrl.toList.getLast?,
      Url.isOuter last = false := by
    intro last isLast
    cases isLast
    decide
  obtain ⟨root, rooted, -, ends⟩ := (modelUrl_locates folderClient).1 _ read rfl rfl visible
  obtain ⟨url, located, locates⟩ :=
    (modelUrl_locates folderClient).2 folderRoot "open ai/100%" folderClient_isRootedAt
  have keeps : Url.KeepsId "open ai/100%" := by decide
  have inside : ¬ Url.Climbs (Text.pieces '/' "open ai/100%".toList) := by decide
  exact ⟨⟨_, root, read, rooted, ends⟩, url, located, locates.names_iff.mpr keeps,
    locates.within_iff.mpr inside,
    locates.requested "secret" .empty (.failed []) rfl (by decide)⟩

/-- A tab makes an id share the address of another one, and so do two points between slashes.
Two points with a tab between them lead out of the models. -/
theorem awkward_ids_are_not_located :
    folderClient.modelUrl "a\tb" = folderClient.modelUrl "ab" ∧
      folderClient.modelUrl "a/../b" = folderClient.modelUrl "a/b" ∧
      (folderClient.modelUrl "a\tb").toOption.map Url.path =
        some ["folder", "admin", "api", "models", "ab"] ∧
      (folderClient.modelUrl ".\t.").toOption.map Url.path =
        some ["folder", "admin", "api", ""] ∧
      ∀ id ∈ ["a\tb", "a/../b", ".\t."], ∃ url, folderClient.modelUrl id = .ok url ∧
        ¬ url.Names (modelsFolder folderRoot) id := by
  refine ⟨by decide +kernel, by decide +kernel, by decide +kernel, by decide +kernel, ?_⟩
  intro id awkward
  refine ⟨_, modelUrl_eq folderClient_isRootedAt id, ?_⟩
  rw [Url.Names, Url.addSegments_read_iff (two_le_modelsFolder folderRoot)]
  revert id
  decide

end Api.Client

end NodeAdmin
