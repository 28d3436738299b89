import NodeAdmin.Api.Client
import NodeAdmin.Proofs.Json.Reading
import NodeAdmin.Proofs.Json.Wrapping
import NodeAdmin.Proofs.Text.Utf8

/-!
# Lists of a node in either shape

A node may answer with a list or with an object that has the list under a known key.  Every list
that a client asks for is the same in both shapes, and so is the model that is looked up in it.
-/

namespace NodeAdmin

namespace Json

/-- Whether a list is read from an object as it is read standing alone: item by item and in order,
or not at all. -/
structure ReadsShapes {α : Type} (key : String) (element : Decoder α)
    (list : Decoder (List α)) : Prop where
  alike : ∀ (wrapping : Wrapping key) (items : List Tree) (site : Site),
    (wrapping.tree items).HasValue site.level →
      list site (wrapping.tree items) = list site (.array items none)
  each : ∀ (items : List Tree) (site : Site), (Tree.array items none).HasValue site.level →
    list site (.array items none) = .error .mismatched ∨
      ∃ values, list site (.array items none) = .ok values ∧
        List.Forall₂ (fun item value => element ⟨site.level + 1, .mismatched⟩ item = .ok value)
          items values
  /-- A list is refused just when one of its items cannot be read. -/
  failing : ∀ (items : List Tree) (site : Site), (Tree.array items none).HasValue site.level →
    (list site (.array items none) = .error .mismatched ↔
      ∃ item ∈ items, ∀ value, element ⟨site.level + 1, .mismatched⟩ item ≠ .ok value)

theorem listOrWrapped_readsShapes {α : Type} (key : String) (decoder : Decoder α) :
    ReadsShapes key decoder (listOrWrapped key decoder) := by
  have alone {items : List Tree} {site : Site}
      (held : (Tree.array items none).HasValue site.level) :
      listOrWrapped key decoder site (.array items none) =
        (Decode.items decoder ⟨site.level + 1, .mismatched⟩ items).mapError
          fun _ => .mismatched :=
    (Wrapping.bare : Wrapping key).listOrWrapped_tree held
  constructor
  · intro wrapping items site held
    rw [wrapping.listOrWrapped_tree held, alone (Wrapping.hasValue_bare held)]
  · intro items site held
    rw [alone held]
    cases read : Decode.items decoder ⟨site.level + 1, .mismatched⟩ items with
    | error fault => exact .inl rfl
    | ok values => exact .inr ⟨values, rfl, items_eq_ok_iff.mp read⟩
  · intro items site held
    rw [alone held, ← items_eq_error_iff]
    cases Decode.items decoder ⟨site.level + 1, .mismatched⟩ items with
    | error fault => simp [Except.mapError]
    | ok values => simp [Except.mapError]

/-! ## Documents -/

/-- Whether a text is a document with this tree and nothing wrong in it. -/
structure IsDocument (tree : Tree) (text : String) : Prop where
  shape : (Tree.ofText text.toList).1 = tree
  sound : ∃ value, parse text = .ok value

/-- What follows a value does not depend on how the value was read. -/
theorem finishText_eq {α β : Type} {read : Except Fault α} {rest : Option (List Char)} {value : α}
    (finished : finishText read rest = .ok value) (other : Except Fault β) :
    finishText other rest = other := by
  obtain ⟨found, -, ended⟩ := bind_eq_ok_iff.mp finished
  cases other with
  | error fault => rfl
  | ok value =>
      unfold finishText
      simp only [bind, Except.bind]
      split at ended
      · cases ended
      · rfl

namespace IsDocument

variable {tree : Tree} {text : String}

theorem hasValue (document : IsDocument tree text) : tree.HasValue 0 := by
  obtain ⟨value, parsed⟩ := document.sound
  obtain ⟨found, read, -⟩ := bind_eq_ok_iff.mp parsed
  rw [document.shape] at read
  exact ⟨found, read⟩

theorem decodeText_eq {α : Type} (document : IsDocument tree text) (decoder : Decoder α) :
    decodeText decoder text = decoder ⟨0, .malformed⟩ tree := by
  obtain ⟨value, parsed⟩ := document.sound
  have finished := finishText_eq parsed (decoder ⟨0, .malformed⟩ (Tree.ofText text.toList).1)
  rw [decodeText]
  exact finished.trans (by rw [document.shape])

/-- The text of a value that can be read is a document. -/
theorem of_compact {value : Json} (held : value.document.tree.HasValue 0) :
    IsDocument value.document.tree value.compact := by
  constructor
  · obtain ⟨tree, same, finished⟩ :=
      bind_eq_ok_iff.mp (decodeText_compact (fun _ tree => .ok tree) value)
    obtain rfl := Except.ok.inj same
    split at finished
    · cases finished
    · exact Except.ok.inj finished
  · obtain ⟨found, read⟩ := held
    exact ⟨found, (decodeText_compact Decode.json value).trans read⟩

end IsDocument

end Json

open Json

namespace Api

/-! ## Replies -/

/-- Whether a node answered, all being well, with a document that has a list in a place. -/
def Reply.Lists {key : String} (wrapping : Wrapping key) (items : List Tree)
    (reply : Reply) : Prop :=
  ∃ status body, reply = .answered status body ∧ 200 ≤ status ∧ status < 300 ∧
    IsDocument (wrapping.tree items) (String.ofList (Text.decodeLossy body))

/-- A reply that has the text of a value for its body. -/
def Reply.ofValue (value : Json) : Reply := .answered 200 (Text.utf8 value.compact.toList)

theorem Reply.ofValue_lists {value : Json} {key : String} {wrapping : Wrapping key}
    {items : List Tree} (tree : value.document.tree = wrapping.tree items)
    (held : (wrapping.tree items).HasValue 0) : (ofValue value).Lists wrapping items := by
  refine ⟨200, _, rfl, by decide, by decide, ?_⟩
  rw [Text.decodeLossy_utf8, String.ofList_toList, ← tree]
  exact .of_compact (tree ▸ held)

theorem Reply.Lists.readReply_eq {α : Type} {key : String} {wrapping : Wrapping key}
    {items : List Tree} {reply : Reply} (lists : reply.Lists wrapping items)
    {element : Decoder α} {list : Decoder (List α)} (shapes : ReadsShapes key element list)
    (address : String) (request : Request) :
    readReply list address request reply =
      (list ⟨0, .malformed⟩ (.array items none)).mapError (.decode address) := by
  obtain ⟨status, body, rfl, low, high, document⟩ := lists
  unfold readReply
  dsimp only
  rw [if_neg (by omega), if_pos ⟨low, high⟩, document.decodeText_eq,
    shapes.alike wrapping items _ document.hasValue]

namespace Client

variable {client : Client}

/-- Replies that are read alike have the same result, also where nothing is sent. -/
theorem fetch_result_eq {α : Type} {decoder : Decoder α} {reply other : Reply}
    (alike : ∀ address request,
      readReply decoder address request reply = readReply decoder address request other)
    (path : String) (query : List (String × String)) :
    (client.fetch decoder path query reply).result =
      (client.fetch decoder path query other).result := by
  unfold fetch send
  dsimp only
  split
  · rfl
  · rfl
  · split
    · exact alike _ _
    · rfl

/-- Where a document can be asked for, the result is what the reply means. -/
theorem fetch_result_of_sendable {α : Type} {token path : String}
    (held : client.session.token = some token) (sendable : isHeaderText token = true)
    (located : (Url.parse (client.session.endpoint path)).isOk = true)
    (decoder : Decoder α) (query : List (String × String)) (reply : Reply) :
    ∃ request, (client.fetch decoder path query reply).result =
      readReply decoder (client.session.endpoint path) request reply := by
  unfold fetch send
  dsimp only
  cases parsed : Url.parse (client.session.endpoint path) with
  | error problem =>
      rw [parsed] at located
      cases located
  | ok url =>
      simp only [held, Except.map, sendable, if_true]
      exact ⟨_, rfl⟩

theorem fetch_lists_eq {α : Type} {key : String} {element : Decoder α}
    {list : Decoder (List α)} (shapes : ReadsShapes key element list)
    {wrapping : Wrapping key} {items : List Tree} {wrapped bare : Reply}
    (lists : wrapped.Lists wrapping items)
    (alone : bare.Lists (.bare : Wrapping key) items)
    (path : String) (query : List (String × String)) :
    (client.fetch list path query wrapped).result =
      (client.fetch list path query bare).result := by
  apply fetch_result_eq
  intro address request
  rw [lists.readReply_eq shapes, alone.readReply_eq shapes]

/-! ## Looking up a model -/

/-- Whether a model is found as the first of its id in a list. -/
structure FindsFirst (id : String) (listed : Except ApiError (List Model))
    (found : Except ApiError Model) : Prop where
  failed : ∀ error, listed = .error error → found = .error error
  first : ∀ models, listed = .ok models → ∀ model, found = .ok model ↔
    ∃ front back, models = front ++ model :: back ∧ model.id = id ∧
      ∀ earlier ∈ front, earlier.id ≠ id
  missing : ∀ models, listed = .ok models →
    (found = .error (.modelNotFound id) ↔ ∀ model ∈ models, model.id ≠ id)

theorem getModel_findsFirst (client : Client) (id : String) (reply : Reply) :
    FindsFirst id (client.listModels reply).result (client.getModel id reply).result := by
  rw [getModel, Exchange.refine]
  constructor
  · intro error listed
    rw [listed]
    rfl
  · intro models listed model
    rw [listed]
    change findModel id models = .ok model ↔ _
    unfold findModel
    cases found : models.find? (·.id == id) with
    | none =>
        simp only [reduceCtorEq, false_iff]
        rintro ⟨front, back, rfl, same, -⟩
        have absent := List.find?_eq_none.mp found model (by simp)
        exact absent (beq_iff_eq.mpr same)
    | some other =>
        simp only [Except.ok.injEq]
        obtain ⟨same, before, after, split, passed⟩ := List.find?_eq_some_iff_append.mp found
        constructor
        · rintro rfl
          refine ⟨before, after, split, beq_iff_eq.mp same, ?_⟩
          intro earlier inside
          simpa using passed earlier inside
        · rintro ⟨front, back, split, isId, unlike⟩
          have again : models.find? (·.id == id) = some model := by
            apply List.find?_eq_some_iff_append.mpr
            refine ⟨beq_iff_eq.mpr isId, front, back, split, ?_⟩
            intro earlier inside
            simpa using unlike earlier inside
          exact Option.some.inj (found.symm.trans again)
  · intro models listed
    rw [listed]
    change findModel id models = .error (.modelNotFound id) ↔ _
    unfold findModel
    cases found : models.find? (·.id == id) with
    | none =>
        simp only [true_iff]
        intro model inside same
        exact List.find?_eq_none.mp found model inside (beq_iff_eq.mpr same)
    | some other =>
        simp only [reduceCtorEq, false_iff, not_forall, not_not]
        refine ⟨other, List.mem_of_find?_eq_some found, ?_⟩
        simpa using List.find?_some found

/-! ## Both shapes -/

/-- The three lists of a node are the same in both shapes, for the decoders and for the calls that
ask for them, and a model is looked up in the list whatever its shape. -/
theorem lists_ignore_shape (client : Client) :
    ReadsShapes "models" Model.decode Model.decodeList ∧
    ReadsShapes "providers" Provider.decode Provider.decodeList ∧
    ReadsShapes "logs" LogEntry.decode LogEntry.decodeList ∧
    (∀ (wrapping : Wrapping "models") (items : List Tree) (wrapped bare : Reply),
      wrapped.Lists wrapping items → bare.Lists (.bare : Wrapping "models") items →
        (client.listModels wrapped).result = (client.listModels bare).result ∧
          ∀ id, (client.getModel id wrapped).result = (client.getModel id bare).result) ∧
    (∀ (wrapping : Wrapping "providers") (items : List Tree) (wrapped bare : Reply),
      wrapped.Lists wrapping items → bare.Lists (.bare : Wrapping "providers") items →
        (client.listProviders wrapped).result = (client.listProviders bare).result) ∧
    (∀ (wrapping : Wrapping "logs") (items : List Tree) (wrapped bare : Reply),
      wrapped.Lists wrapping items → bare.Lists (.bare : Wrapping "logs") items →
        ∀ limit level,
          (client.listLogs limit level wrapped).result =
            (client.listLogs limit level bare).result) ∧
    ∀ id reply,
      FindsFirst id (client.listModels reply).result (client.getModel id reply).result := by
  have models : ReadsShapes "models" Model.decode Model.decodeList :=
    listOrWrapped_readsShapes "models" Model.decode
  have providers : ReadsShapes "providers" Provider.decode Provider.decodeList :=
    listOrWrapped_readsShapes "providers" Provider.decode
  have logs : ReadsShapes "logs" LogEntry.decode LogEntry.decodeList :=
    listOrWrapped_readsShapes "logs" LogEntry.decode
  refine ⟨models, providers, logs, ?_, ?_, ?_, getModel_findsFirst client⟩
  · intro wrapping items wrapped bare lists alone
    have same : (client.listModels wrapped).result = (client.listModels bare).result :=
      fetch_lists_eq models lists alone modelsPath []
    refine ⟨same, ?_⟩
    intro id
    rw [getModel, getModel, Exchange.refine, Exchange.refine, same]
  · intro wrapping items wrapped bare lists alone
    exact fetch_lists_eq providers lists alone providersPath []
  · intro wrapping items wrapped bare lists alone limit level
    exact fetch_lists_eq logs lists alone logsPath (logsQuery limit level)

/-- One entry in a list alone, and in an object with another member behind the list. -/
def bareEntry : Json := .array [.object [("message", .string "started")]]

def wrappedEntry : Json := .object [("logs", bareEntry), ("next", .null)]

/-- The entry in the tree of its document. -/
def startedItem : Tree :=
  .object [(.string (.ok "message"), .string (.ok "started"))] none

def startedEntry : LogEntry := ⟨none, none, "started", none, none, []⟩

theorem decode_startedItem :
    LogEntry.decode ⟨1, .mismatched⟩ startedItem = .ok startedEntry := rfl

theorem lists_ignore_shape_oneEntry :
    ∃ (wrapping : Wrapping "logs") (items : List Tree), items.length = 1 ∧
      (Reply.ofValue wrappedEntry).Lists wrapping items ∧
      (Reply.ofValue bareEntry).Lists (.bare : Wrapping "logs") items ∧
      LogEntry.decodeList ⟨0, .malformed⟩ (.array items none) = .ok [startedEntry] ∧
      ∀ limit level,
        (listLogs ⟨⟨"https://node.example", some "secret", .config⟩⟩ limit level
            (.ofValue wrappedEntry)).result = .ok [startedEntry] ∧
          (listLogs ⟨⟨"https://node.example", some "secret", .config⟩⟩ limit level
            (.ofValue bareEntry)).result = .ok [startedEntry] := by
  have others : ∀ member ∈ [] ++ [(Tree.string (.ok "next"), Tree.null)],
      member.1.keyText ≠ .ok "logs" := by
    simp [Tree.keyText]
  have wrapped : (Reply.ofValue wrappedEntry).Lists (.member [] _ others) [startedItem] := by
    apply Reply.ofValue_lists
    · simp [wrappedEntry, bareEntry, startedItem, document, Document.tree, Wrapping.tree]
    · exact ⟨_, rfl⟩
  have bare : (Reply.ofValue bareEntry).Lists (.bare : Wrapping "logs") [startedItem] := by
    apply Reply.ofValue_lists
    · simp [bareEntry, startedItem, document, Document.tree, Wrapping.tree]
    · exact ⟨_, rfl⟩
  obtain ⟨-, -, shapes, -, -, logs, -⟩ :=
    lists_ignore_shape ⟨⟨"https://node.example", some "secret", .config⟩⟩
  have list : LogEntry.decodeList ⟨0, .malformed⟩ (.array [startedItem] none) =
      .ok [startedEntry] := by
    have held : (Tree.array [startedItem] none).HasValue 0 := ⟨_, rfl⟩
    rcases shapes.each _ ⟨0, .malformed⟩ held with refused | ⟨values, read, each⟩
    · obtain ⟨item, inside, unread⟩ := (shapes.failing _ ⟨0, .malformed⟩ held).mp refused
      rw [List.mem_singleton.mp inside] at unread
      exact absurd decode_startedItem (unread _)
    · obtain ⟨value, rest, readItem, readRest, rfl⟩ := List.forall₂_cons_left_iff.mp each
      cases readRest
      cases decode_startedItem.symm.trans readItem
      exact read
  have told (limit : Nat) (level : Option String) :
      (listLogs ⟨⟨"https://node.example", some "secret", .config⟩⟩ limit level
        (.ofValue bareEntry)).result = .ok [startedEntry] := by
    obtain ⟨request, same⟩ := fetch_result_of_sendable
      (rfl : Session.token ⟨"https://node.example", some "secret", .config⟩ = some "secret")
      (by decide) (show (Url.parse (Session.endpoint _ logsPath)).isOk = true by decide +kernel)
      LogEntry.decodeList (logsQuery limit level) (.ofValue bareEntry)
    rw [listLogs, same, bare.readReply_eq shapes, list]
    rfl
  refine ⟨_, _, rfl, wrapped, bare, list, ?_⟩
  intro limit level
  exact ⟨(logs _ _ _ _ wrapped bare limit level).trans (told limit level), told limit level⟩

end Client

end Api

end NodeAdmin
