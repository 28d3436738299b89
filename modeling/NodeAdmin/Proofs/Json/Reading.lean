import NodeAdmin.Proofs.Json.Document

/-!
# Reading documents

Every text of the tokens of a document is read to the tree of that document, whatever white
space stands between the tokens.  The compact and the indented text of a value therefore mean
the same to every decoder.
-/

namespace NodeAdmin.Json

namespace Document

def tree : Document → Tree
  | null => .null
  | bool value => .bool value
  | number text => .number (numeralOf text)
  | string value => .string (.ok value)
  | array items => .array (items.map tree) none
  | object members =>
      .object (members.map fun member => (.string (.ok member.1), tree member.2)) none
termination_by document => document
decreasing_by
  · decreasing_tactic
  · have smaller := sizeOf_snd_lt ‹_›
    decreasing_tactic

/-- Whether the tree of a document is found at the front of all its texts.  Of two nested calls
at least one reads a character, which bounds the fuel. -/
def IsRead (document : Document) : Prop :=
  ∀ ⦃rest text : List Char⦄ ⦃fuel : Nat⦄, Spaced rest document.tokens text → Ends rest →
    2 * text.length ≤ fuel + 2 * rest.length + 1 →
      treeStep fuel text = (document.tree, some rest)

end Document

/-! ## The front of a text -/

/-- A number ends in front of white space. -/
theorem ends_of_isSpace {first : Char} (space : isSpace first = true) (rest : List Char) :
    Ends (first :: rest) := by
  simp only [isSpace, Bool.or_eq_true, beq_iff_eq] at space
  rcases space with ((rfl | rfl) | rfl) | rfl <;> exact ⟨by simp, by simp, by simp⟩

namespace Spaced

variable {rest text others : List Char} {first : Char} {tokens : List Token}

/-- White space is skipped up to the first token. -/
theorem skip (spaced : Spaced rest ((first :: others) :: tokens) text)
    (shown : isSpace first = false) :
    ∃ behind, skipSpace text = first :: (others ++ behind) ∧ Spaced rest tokens behind ∧
      others.length + behind.length < text.length := by
  cases spaced with
  | @token blanks _ behind _ blank spaced =>
      refine ⟨behind, ?_, spaced, ?_⟩
      · rw [skipSpace, List.dropWhile_append_of_pos blank, List.cons_append,
          List.dropWhile_cons_of_neg (by simp [shown])]
      · simp only [List.length_append, List.length_cons]
        omega

theorem length_le (spaced : Spaced rest tokens text) :
    tokens.flatten.length + rest.length ≤ text.length := by
  induction spaced with
  | done => simp
  | token _ _ induction =>
      simp only [List.flatten_cons, List.length_append]
      omega

/-- A number ends in front of punctuation, with or without white space before it. -/
theorem ends {mark : Char} (spaced : Spaced rest ([mark] :: tokens) text)
    (marked : mark = ',' ∨ mark = ']' ∨ mark = '\x7d') : Ends text := by
  cases spaced with
  | @token blanks _ behind _ blank spaced =>
      cases blanks with
      | nil =>
          rcases marked with rfl | rfl | rfl <;> exact ⟨by simp, by simp, by simp⟩
      | cons first blanks => exact ends_of_isSpace (blank first List.mem_cons_self) _

/-! ## What follows in a container -/

theorem next_finished {closing : Char} (spaced : Spaced rest [[closing]] text)
    (shown : isSpace closing = false) (isFirst : Bool) :
    next closing isFirst text = .finished rest := by
  obtain ⟨behind, skipped, nothing, -⟩ := spaced.skip shown
  cases nothing
  simp [next, skipped]

theorem next_item {closing : Char} {isFirst : Bool}
    (spaced : Spaced rest ((if isFirst then [] else [[',']]) ++ (first :: others) :: tokens) text)
    (shown : isSpace first = false) (opens : first ≠ closing) (noComma : ',' ≠ closing) :
    ∃ behind, next closing isFirst text = .item (first :: (others ++ behind)) ∧
      Spaced rest tokens behind ∧ others.length + behind.length < text.length := by
  cases isFirst with
  | true =>
      obtain ⟨behind, skipped, spaced, shorter⟩ := spaced.skip shown
      refine ⟨behind, ?_, spaced, shorter⟩
      simp [next, skipped, opens]
  | false =>
      obtain ⟨middle, comma, spaced, longer⟩ := spaced.skip (by decide)
      obtain ⟨behind, skipped, spaced, shorter⟩ := spaced.skip shown
      rw [List.nil_append] at comma
      rw [List.length_nil] at longer
      refine ⟨behind, ?_, spaced, by omega⟩
      simp [next, comma, noComma, skipped, opens]

end Spaced

/-! ## Leaves -/

theorem wordStep_append (value : Tree) (letters rest : List Char) :
    wordStep value letters (letters ++ rest) = (value, some rest) := by
  induction letters with
  | nil => rfl
  | cons letter letters induction => simp [wordStep, induction]

/-- The front of a document is no white space and closes nothing. -/
theorem Document.IsWritten.front {document : Document} (written : document.IsWritten) :
    ∃ first others tokens, document.tokens = (first :: others) :: tokens ∧
      isSpace first = false ∧ first ≠ ']' ∧ first ≠ '\x7d' := by
  cases written with
  | null => exact ⟨'n', _, _, by rw [tokens]; rfl, by decide, by decide, by decide⟩
  | bool value =>
      cases value with
      | false => exact ⟨'f', _, _, by rw [tokens]; rfl, by decide, by decide, by decide⟩
      | true => exact ⟨'t', _, _, by rw [tokens]; rfl, by decide, by decide, by decide⟩
  | @number text isNumber =>
      obtain ⟨first, others, rfl, mark⟩ := isNumber.head
      refine ⟨first, others, [], by rw [tokens], ?_⟩
      rcases mark with rfl | digit
      · exact ⟨by decide, by decide, by decide⟩
      · refine ⟨?_, ?_, ?_⟩
        · simp only [isSpace, Bool.or_eq_false_iff, beq_eq_false_iff_ne, ne_eq]
          refine ⟨⟨⟨?_, ?_⟩, ?_⟩, ?_⟩ <;> (rintro rfl; cases digit)
        · rintro rfl
          cases digit
        · rintro rfl
          cases digit
  | string value => exact ⟨'"', _, _, by rw [tokens, quoted], by decide, by decide, by decide⟩
  | array => exact ⟨'[', _, _, by rw [tokens], by decide, by decide, by decide⟩
  | object => exact ⟨'\x7b', _, _, by rw [tokens], by decide, by decide, by decide⟩

/-! ## One step at the front of a text -/

section Steps

variable {text rest : List Char} {fuel : Nat}

theorem treeStep_null (front : skipSpace text = 'n' :: ("ull".toList ++ rest)) :
    treeStep (fuel + 1) text = (.null, some rest) := by
  rw [treeStep, front]
  exact wordStep_append _ _ _

theorem treeStep_bool {value : Bool} (front : skipSpace text = boolText value ++ rest) :
    treeStep (fuel + 1) text = (.bool value, some rest) := by
  rw [treeStep, front]
  cases value with
  | false => exact wordStep_append _ "alse".toList _
  | true => exact wordStep_append _ "rue".toList _

theorem treeStep_number {first : Char} (front : skipSpace text = first :: rest)
    (mark : first = '-' ∨ first.isDigit = true) :
    treeStep (fuel + 1) text = numberStep (first :: rest) := by
  rw [treeStep, front]
  rcases mark with rfl | digit
  · rfl
  · split <;> (rename_i same; cases same)
    all_goals first
      | cases digit
      | exact if_pos (.inr digit)

theorem treeStep_string (front : skipSpace text = '"' :: rest) :
    treeStep (fuel + 1) text = stringStep rest := by
  simp [treeStep, front]

theorem treeStep_array (front : skipSpace text = '[' :: rest) {items : List Tree}
    {others : List Char} (read : itemSteps fuel true rest = (items, none, some others)) :
    treeStep (fuel + 1) text = (.array items none, some others) := by
  simp [treeStep, front, read]

theorem treeStep_object (front : skipSpace text = '\x7b' :: rest)
    {members : List (Tree × Tree)} {others : List Char}
    (read : memberSteps fuel true rest = (members, none, some others)) :
    treeStep (fuel + 1) text = (.object members none, some others) := by
  simp [treeStep, front, read]

variable {isFirst : Bool}

theorem itemSteps_finished (follows : next ']' isFirst text = .finished rest) :
    itemSteps (fuel + 1) isFirst text = ([], none, some rest) := by
  rw [itemSteps, follows]

theorem itemSteps_item {item : List Char} {tree : Tree} {middle : List Char}
    {trees : List Tree} (follows : next ']' isFirst text = .item item)
    (read : treeStep fuel item = (tree, some middle))
    (further : itemSteps fuel false middle = (trees, none, some rest)) :
    itemSteps (fuel + 1) isFirst text = (tree :: trees, none, some rest) := by
  simp only [itemSteps, follows, read, further]

theorem memberSteps_finished (follows : next '\x7d' isFirst text = .finished rest) :
    memberSteps (fuel + 1) isFirst text = ([], none, some rest) := by
  rw [memberSteps, follows]

theorem memberSteps_member {member colon value middle : List Char} {key : String} {tree : Tree}
    {trees : List (Tree × Tree)} (follows : next '\x7d' isFirst text = .item member)
    (named : keyStep member = (.string (.ok key), some colon))
    (parted : skipSpace colon = ':' :: value)
    (read : treeStep fuel value = (tree, some middle))
    (further : memberSteps fuel false middle = (trees, none, some rest)) :
    memberSteps (fuel + 1) isFirst text =
      ((.string (.ok key), tree) :: trees, none, some rest) := by
  simp only [memberSteps, follows, named, parted, read, further]

end Steps

/-! ## Containers -/

/-- Behind an item stands white space or punctuation. -/
theorem Spaced.ends_item {rest text : List Char} {closing : Char} {groups : List (List Token)}
    (spaced : Spaced rest (separated false groups ++ [[closing]]) text)
    (closes : closing = ']' ∨ closing = '\x7d') : Ends text := by
  cases groups with
  | nil => exact spaced.ends (.inr closes)
  | cons group groups => exact spaced.ends (.inl rfl)

/-- A text that is longer than its rest leaves fuel for a step. -/
theorem Spaced.fuel {rest text : List Char} {closing : Char} {tokens : List Token} {fuel : Nat}
    (spaced : Spaced rest (tokens ++ [[closing]]) text)
    (bound : 2 * text.length ≤ fuel + 2 * rest.length) : ∃ less, fuel = less + 1 := by
  have longer := spaced.length_le
  simp only [List.flatten_append, List.length_append, List.flatten_cons, List.length_cons]
    at longer
  exact ⟨fuel - 1, by omega⟩

/-- An item is read up to what stands behind it in its container. -/
theorem Document.IsRead.treeStep_append {document : Document} (isRead : document.IsRead)
    (written : document.IsWritten) {rest text : List Char} {closing : Char}
    {groups : List (List Token)} (fuel : Nat) (closes : closing = ']' ∨ closing = '\x7d')
    (spaced : Spaced rest (document.tokens ++ (separated false groups ++ [[closing]])) text)
    (bound : 2 * text.length ≤ fuel + 2 * rest.length + 3) :
    ∃ middle, treeStep fuel text = (document.tree, some middle) ∧
      Spaced rest (separated false groups ++ [[closing]]) middle ∧
      middle.length < text.length := by
  obtain ⟨middle, inside, spaced⟩ := spaced.split
  have longer := inside.length_le
  have ending := spaced.length_le
  obtain ⟨first, others, tokens, front, -⟩ := written.front
  rw [front] at longer
  simp only [List.flatten_append, List.length_append, List.flatten_cons, List.length_cons]
    at longer ending
  exact ⟨middle, isRead inside (spaced.ends_item closes) (by omega), spaced, by omega⟩

theorem itemSteps_items {items : List Document}
    (written : ∀ item ∈ items, item.IsWritten) (isRead : ∀ item ∈ items, item.IsRead)
    {rest text : List Char} (fuel : Nat) {isFirst : Bool}
    (spaced : Spaced rest (separated isFirst (items.map Document.tokens) ++ [[']']]) text)
    (bound : 2 * text.length ≤ fuel + 2 * rest.length) :
    itemSteps fuel isFirst text = (items.map Document.tree, none, some rest) := by
  -- Every item takes at least one character, and every call one unit of fuel.
  induction items generalizing text fuel isFirst with
  | nil =>
      obtain ⟨fuel, rfl⟩ := spaced.fuel bound
      exact itemSteps_finished (spaced.next_finished (by decide) isFirst)
  | cons item items induction =>
      obtain ⟨fuel, rfl⟩ := spaced.fuel bound
      obtain ⟨first, others, tokens, front, shown, opens, -⟩ :=
        (written item List.mem_cons_self).front
      rw [List.map_cons, separated, List.append_assoc, List.append_assoc, front,
        List.cons_append] at spaced
      obtain ⟨behind, follows, spaced, shorter⟩ := spaced.next_item shown opens (by decide)
      -- `next` has skipped the white space in front of the item, which is read again from there.
      have whole : Spaced rest
          (item.tokens ++ (separated false (items.map Document.tokens) ++ [[']']]))
          (first :: (others ++ behind)) := by
        rw [front]
        exact spaced.adjacent (first :: others)
      obtain ⟨middle, read, spaced, less⟩ :=
        (isRead item List.mem_cons_self).treeStep_append (written item List.mem_cons_self)
          fuel (.inl rfl) whole
          (by simp only [List.length_cons, List.length_append]; omega)
      simp only [List.length_cons, List.length_append] at less
      have further := induction (fun other member => written other (List.mem_cons_of_mem _ member))
        (fun other member => isRead other (List.mem_cons_of_mem _ member)) fuel
        spaced (by omega)
      exact itemSteps_item follows read further

theorem memberSteps_members {members : List (String × Document)}
    (written : ∀ member ∈ members, member.2.IsWritten)
    (isRead : ∀ member ∈ members, member.2.IsRead)
    {rest text : List Char} (fuel : Nat) {isFirst : Bool}
    (spaced : Spaced rest (separated isFirst (members.map fun member =>
      quoted member.1 :: [':'] :: member.2.tokens) ++ [['\x7d']]) text)
    (bound : 2 * text.length ≤ fuel + 2 * rest.length) :
    memberSteps fuel isFirst text = (members.map fun member =>
      (.string (.ok member.1), member.2.tree), none, some rest) := by
  induction members generalizing text fuel isFirst with
  | nil =>
      obtain ⟨fuel, rfl⟩ := spaced.fuel bound
      exact memberSteps_finished (spaced.next_finished (by decide) isFirst)
  | cons member members induction =>
      obtain ⟨fuel, rfl⟩ := spaced.fuel bound
      obtain ⟨key, value⟩ := member
      obtain ⟨behind, front, named⟩ := (quotes_quoted key).stringStep_append
      rw [List.map_cons, separated, List.append_assoc, List.append_assoc, front,
        List.cons_append] at spaced
      obtain ⟨afterKey, follows, spaced, shorter⟩ :=
        spaced.next_item (by decide) (by decide : '"' ≠ '\x7d') (by decide)
      obtain ⟨afterColon, parted, spaced, colon⟩ := spaced.skip (by decide)
      rw [List.nil_append] at parted
      rw [List.length_nil] at colon
      obtain ⟨middle, read, spaced, less⟩ :=
        (isRead _ List.mem_cons_self).treeStep_append (written _ List.mem_cons_self)
          fuel (.inr rfl) spaced (by omega)
      have further := induction
        (fun other inside => written other (List.mem_cons_of_mem _ inside))
        (fun other inside => isRead other (List.mem_cons_of_mem _ inside)) fuel
        spaced (by omega)
      have spelled := named afterKey
      rw [String.ofList_toList] at spelled
      exact memberSteps_member follows spelled parted read further

/-! ## Documents -/

/-- A document is longer than nothing, so that there is fuel for a step. -/
theorem Document.IsWritten.isRead_of_step {document : Document} (written : document.IsWritten)
    (step : ∀ ⦃rest text : List Char⦄ ⦃fuel : Nat⦄, Spaced rest document.tokens text →
      Ends rest → 2 * text.length ≤ fuel + 2 * rest.length + 2 →
        treeStep (fuel + 1) text = (document.tree, some rest)) : document.IsRead := by
  intro rest text fuel spaced ends bound
  obtain ⟨first, others, tokens, front, -⟩ := written.front
  have longer := spaced.length_le
  rw [front] at longer
  simp only [List.flatten_cons, List.length_append, List.length_cons] at longer
  obtain ⟨fuel, rfl⟩ : ∃ less, fuel = less + 1 := ⟨fuel - 1, by omega⟩
  exact step spaced ends (by omega)

theorem Document.IsWritten.isRead {document : Document} (written : document.IsWritten) :
    document.IsRead := by
  induction written with
  | null =>
      apply IsWritten.null.isRead_of_step
      intro rest text fuel spaced ends bound
      rw [tokens] at spaced
      obtain ⟨behind, skipped, spaced, -⟩ := spaced.skip (by decide : isSpace 'n' = false)
      cases spaced
      rw [tree]
      exact treeStep_null skipped
  | bool value =>
      apply (IsWritten.bool value).isRead_of_step
      intro rest text fuel spaced ends bound
      rw [tokens] at spaced
      rw [tree]
      cases value with
      | false =>
          obtain ⟨behind, skipped, spaced, -⟩ := spaced.skip (by decide : isSpace 'f' = false)
          cases spaced
          exact treeStep_bool skipped
      | true =>
          obtain ⟨behind, skipped, spaced, -⟩ := spaced.skip (by decide : isSpace 't' = false)
          cases spaced
          exact treeStep_bool skipped
  | @number spelling isNumber =>
      apply (IsWritten.number isNumber).isRead_of_step
      intro rest text fuel spaced ends bound
      obtain ⟨first, others, tokens, front, shown, -⟩ := (IsWritten.number isNumber).front
      rw [Document.tokens] at spaced front
      cases front
      obtain ⟨behind, skipped, spaced, -⟩ := spaced.skip shown
      cases spaced
      obtain ⟨_, _, same, mark⟩ := isNumber.head
      cases same
      rw [tree, treeStep_number skipped mark]
      exact isNumber.numberStep_eq ends
  | string value =>
      apply (IsWritten.string value).isRead_of_step
      intro rest text fuel spaced ends bound
      obtain ⟨behind, front, named⟩ := (quotes_quoted value).stringStep_append
      rw [tokens, front] at spaced
      obtain ⟨_, skipped, spaced, -⟩ := spaced.skip (by decide)
      cases spaced
      rw [tree, treeStep_string skipped, named, String.ofList_toList]
  | @array items written isRead =>
      apply (IsWritten.array written).isRead_of_step
      intro rest text fuel spaced ends bound
      rw [tokens] at spaced
      obtain ⟨behind, skipped, spaced, shorter⟩ := spaced.skip (by decide)
      rw [List.nil_append] at skipped
      rw [List.length_nil] at shorter
      rw [tree]
      exact treeStep_array skipped (itemSteps_items written isRead fuel spaced (by omega))
  | @object members written isRead =>
      apply (IsWritten.object written).isRead_of_step
      intro rest text fuel spaced ends bound
      rw [tokens] at spaced
      obtain ⟨behind, skipped, spaced, shorter⟩ := spaced.skip (by decide)
      rw [List.nil_append] at skipped
      rw [List.length_nil] at shorter
      rw [tree]
      exact treeStep_object skipped (memberSteps_members written isRead fuel spaced (by omega))

/-- Every text of the tokens of a document is read to its tree, up to white space behind it. -/
theorem Document.IsWritten.decodeText_eq {document : Document} (written : document.IsWritten)
    {text : String} {rest : List Char} (spaced : Spaced rest document.tokens text.toList)
    (blank : ∀ character ∈ rest, isSpace character = true) {α : Type} (decoder : Decoder α) :
    decodeText decoder text = decoder ⟨0, .malformed⟩ document.tree := by
  have ends : Ends rest := by
    cases rest with
    | nil => exact ends_nil
    | cons first rest => exact ends_of_isSpace (blank first List.mem_cons_self) rest
  have read : Tree.ofText text.toList = (document.tree, some rest) :=
    written.isRead spaced ends (by omega)
  have finished : skipSpace rest = [] := by
    have skipped : (rest ++ []).dropWhile isSpace = [] := List.dropWhile_append_of_pos blank
    rwa [List.append_nil] at skipped
  rw [decodeText, read, finishText]
  cases decoder ⟨0, .malformed⟩ document.tree with
  | error => rfl
  | ok => simp only [bind, Except.bind, Option.map_some, finished]

/-! ## Passing over documents -/

theorem passItems_ok {items : List Document} (each : ∀ item ∈ items, item.tree.pass = .ok ()) :
    Tree.passItems (items.map Document.tree) = .ok () := by
  induction items with
  | nil => rfl
  | cons item items induction =>
      have others := induction fun other member => each other (List.mem_cons_of_mem _ member)
      rw [List.map_cons, Tree.passItems, each item List.mem_cons_self, others]
      rfl

theorem passMembers_ok {members : List (String × Document)}
    (each : ∀ member ∈ members, member.2.tree.pass = .ok ()) :
    Tree.passMembers (members.map fun member => (.string (.ok member.1), member.2.tree)) =
      .ok () := by
  induction members with
  | nil => rfl
  | cons member members induction =>
      have others := induction fun other inside => each other (List.mem_cons_of_mem _ inside)
      rw [List.map_cons, Tree.passMembers, each member List.mem_cons_self, others]
      rfl

/-- Nothing is wrong with the tree of a document. -/
theorem Document.IsWritten.pass_tree {document : Document} (written : document.IsWritten) :
    document.tree.pass = .ok () := by
  induction written with
  | null | bool | number | string =>
      rw [tree]
      rfl
  | array written passes =>
      rw [tree, Tree.pass, passItems_ok passes]
      rfl
  | object written passes =>
      rw [tree, Tree.pass, passMembers_ok passes]
      rfl

/-! ## Written values -/

theorem compact_spaced (value : Json) (rest : List Char) :
    Spaced rest value.document.tokens (value.compact.toList ++ rest) := by
  rw [compact, String.toList_ofList, compactText_eq]
  exact Spaced.flatten value.document.tokens

theorem pretty_spaced (value : Json) (rest : List Char) :
    Spaced rest value.document.tokens (value.pretty.toList ++ rest) := by
  rw [pretty, String.toList_ofList]
  exact prettyText_spaced value 0 rest

/-- A line with a value on it, compact or indented. -/
theorem line_spaced (pretty : Bool) (value : Json) :
    Spaced ['\n'] value.document.tokens
      ((if pretty then value.pretty else value.compact) ++ "\n").toList := by
  rw [String.toList_append]
  cases pretty with
  | false => exact compact_spaced value _
  | true => exact pretty_spaced value _

/-- Equal lines hold values with equal documents, as far as a decoder can tell. -/
theorem tree_eq_of_line {pretty : Bool} {value other : Json}
    (lines : (if pretty then value.pretty else value.compact) ++ "\n" =
      (if pretty then other.pretty else other.compact) ++ "\n") :
    value.document.tree = other.document.tree := by
  have blank : ∀ character ∈ ['\n'], isSpace character = true :=
    List.forall_mem_singleton.mpr rfl
  have tree (value : Json) := (isWritten_document value).decodeText_eq
    (line_spaced pretty value) blank fun _ tree => .ok tree
  have found := tree value
  rw [lines, tree other] at found
  exact (Except.ok.inj found).symm

/-- A decoder finds in the compact text of a value what it finds in its document. -/
theorem decodeText_compact {α : Type} (decoder : Decoder α) (value : Json) :
    decodeText decoder value.compact = decoder ⟨0, .malformed⟩ value.document.tree := by
  have spaced := compact_spaced value []
  rw [List.append_nil] at spaced
  exact (isWritten_document value).decodeText_eq spaced (List.forall_mem_nil _) decoder

/-- A decoder finds in the indented text of a value what it finds in its document. -/
theorem decodeText_pretty {α : Type} (decoder : Decoder α) (value : Json) :
    decodeText decoder value.pretty = decoder ⟨0, .malformed⟩ value.document.tree := by
  have spaced := pretty_spaced value []
  rw [List.append_nil] at spaced
  exact (isWritten_document value).decodeText_eq spaced (List.forall_mem_nil _) decoder

end NodeAdmin.Json
