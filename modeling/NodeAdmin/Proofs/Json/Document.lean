import NodeAdmin.Proofs.Json.DoubleText
import NodeAdmin.Proofs.Json.QuotedText

/-!
# Documents and their texts

The grammar of JSON in two layers.  A document is a tree of tokens in which numbers keep the
text that they are spelled with, and a text is a sequence of tokens with white space between
them.  The compact and the indented text of a value are two such texts of one document.
-/

namespace NodeAdmin.Json

inductive Document where
  | null
  | bool (value : Bool)
  | number (text : List Char)
  | string (value : String)
  | array (items : List Document)
  | object (members : List (String × Document))

abbrev Token := List Char

/-- Groups of tokens with a comma in front of each one, the first of all excepted. -/
def separated (isFirst : Bool) : List (List Token) → List Token
  | [] => []
  | group :: groups => (if isFirst then [] else [[',']]) ++ (group ++ separated false groups)

/-- The value of a member is smaller than the members. -/
theorem sizeOf_snd_lt {α : Type} [SizeOf α] {member : String × α} {members : List (String × α)}
    (inside : member ∈ members) : sizeOf member.2 < sizeOf members := by
  have smaller := List.sizeOf_lt_of_mem inside
  obtain ⟨key, value⟩ := member
  simp only [Prod.mk.sizeOf_spec] at smaller
  dsimp only
  omega

namespace Document

def tokens : Document → List Token
  | null => ["null".toList]
  | bool value => [boolText value]
  | number text => [text]
  | string value => [quoted value]
  | array items => ['['] :: (separated true (items.map tokens) ++ [[']']])
  | object members =>
      ['\x7b'] :: (separated true (members.map fun member =>
        quoted member.1 :: [':'] :: tokens member.2) ++ [['\x7d']])
termination_by document => document
decreasing_by
  · decreasing_tactic
  · have smaller := sizeOf_snd_lt ‹_›
    decreasing_tactic

/-- Whether every number of a document is spelled like one. -/
inductive IsWritten : Document → Prop where
  | null : IsWritten null
  | bool (value : Bool) : IsWritten (bool value)
  | number {text : List Char} (isNumber : IsNumber text) : IsWritten (number text)
  | string (value : String) : IsWritten (string value)
  | array {items : List Document} (written : ∀ item ∈ items, IsWritten item) :
      IsWritten (array items)
  | object {members : List (String × Document)}
      (written : ∀ member ∈ members, IsWritten member.2) : IsWritten (object members)

end Document

/-- Texts of tokens in front of `rest`, with white space before each of them. -/
inductive Spaced (rest : List Char) : List Token → List Char → Prop where
  | done : Spaced rest [] rest
  | token {blanks token text : List Char} {tokens : List Token}
      (blank : ∀ character ∈ blanks, isSpace character = true)
      (spaced : Spaced rest tokens text) :
      Spaced rest (token :: tokens) (blanks ++ (token ++ text))

namespace Spaced

variable {rest text : List Char} {tokens others : List Token}

/-- A token without white space before it. -/
theorem adjacent (token : Token) (spaced : Spaced rest tokens text) :
    Spaced rest (token :: tokens) (token ++ text) :=
  .token (List.forall_mem_nil _) spaced

theorem append {middle : List Char} (spaced : Spaced middle tokens text)
    (further : Spaced rest others middle) : Spaced rest (tokens ++ others) text := by
  induction spaced with
  | done => exact further
  | token blank _ induction => exact .token blank induction

theorem split (spaced : Spaced rest (tokens ++ others) text) :
    ∃ middle, Spaced middle tokens text ∧ Spaced rest others middle := by
  induction tokens generalizing text with
  | nil => exact ⟨text, .done, spaced⟩
  | cons token tokens induction =>
      cases spaced with
      | token blank spaced =>
          obtain ⟨middle, front, behind⟩ := induction spaced
          exact ⟨middle, .token blank front, behind⟩

theorem flatten (tokens : List Token) : Spaced rest tokens (tokens.flatten ++ rest) := by
  induction tokens with
  | nil => exact .done
  | cons token tokens induction =>
      rw [List.flatten_cons, List.append_assoc]
      exact induction.adjacent token

end Spaced

/-! ## Documents of values -/

def document : Json → Document
  | null => .null
  | bool value => .bool value
  | integer value => .number (integerText value)
  | float value =>
      match value.jsonText? with
      | some text => .number text.toList
      | none => .null
  | string value => .string value
  | array items => .array (items.map document)
  | object members => .object (members.map fun member => (member.1, document member.2))
termination_by value => value
decreasing_by
  · decreasing_tactic
  · have smaller := sizeOf_snd_lt ‹_›
    decreasing_tactic

/-- What holds of a value when it holds of all values inside it holds of every value. -/
theorem induction {motive : Json → Prop} (null : motive null)
    (bool : ∀ value, motive (bool value)) (integer : ∀ value, motive (integer value))
    (float : ∀ value, motive (float value)) (string : ∀ value, motive (string value))
    (array : ∀ items, (∀ item ∈ items, motive item) → motive (array items))
    (object : ∀ members, (∀ member ∈ members, motive member.2) → motive (object members))
    (value : Json) : motive value := by
  match value with
  | .null => exact null
  | .bool value => exact bool value
  | .integer value => exact integer value
  | .float value => exact float value
  | .string value => exact string value
  | .array items =>
      exact array items fun item inside =>
        induction null bool integer float string array object item
  | .object members =>
      exact object members fun member inside =>
        induction null bool integer float string array object member.2
termination_by value
decreasing_by
  · decreasing_tactic
  · have smaller := sizeOf_snd_lt inside
    decreasing_tactic

theorem isWritten_document (value : Json) : value.document.IsWritten := by
  induction value using Json.induction with
  | null =>
      rw [document]
      exact .null
  | bool value =>
      rw [document]
      exact .bool value
  | integer value =>
      rw [document]
      exact .number (isNumber_integerText value)
  | float value =>
      rw [document]
      split
      · rename_i written
        exact .number (isNumber_jsonText written)
      · exact .null
  | string value =>
      rw [document]
      exact .string value
  | array items induction =>
      rw [document]
      apply Document.IsWritten.array
      intro item inside
      obtain ⟨value, member, rfl⟩ := List.mem_map.mp inside
      exact induction value member
  | object members induction =>
      rw [document]
      apply Document.IsWritten.object
      intro member inside
      obtain ⟨value, member, rfl⟩ := List.mem_map.mp inside
      exact induction value member

/-! ## Compact texts -/

theorem separated_cons_cons (first second : List Token) (others : List (List Token)) :
    separated true (first :: second :: others) =
      first ++ [','] :: separated true (second :: others) := by
  simp [separated]

theorem compactItems_eq {items : List Json}
    (each : ∀ item ∈ items, compactText item = item.document.tokens.flatten) :
    compactItems items = (separated true (items.map fun item => item.document.tokens)).flatten := by
  induction items with
  | nil => rfl
  | cons item items induction =>
      have front := each item List.mem_cons_self
      have behind := induction fun other inside => each other (List.mem_cons_of_mem _ inside)
      cases items with
      | nil => simp [compactItems, separated, front]
      | cons next items =>
          rw [compactItems, front, behind]
          simp only [List.map_cons, separated_cons_cons, List.flatten_append, List.flatten_cons]
          rfl

theorem compactMembers_eq {members : List (String × Json)}
    (each : ∀ member ∈ members, compactText member.2 = member.2.document.tokens.flatten) :
    compactMembers members = (separated true (members.map fun member =>
      quoted member.1 :: [':'] :: member.2.document.tokens)).flatten := by
  induction members with
  | nil => rfl
  | cons member members induction =>
      obtain ⟨key, value⟩ := member
      have front : compactText value = value.document.tokens.flatten :=
        each (key, value) List.mem_cons_self
      have behind := induction fun other inside => each other (List.mem_cons_of_mem _ inside)
      cases members with
      | nil => simp [compactMembers, separated, front]
      | cons next members =>
          rw [compactMembers, front, behind]
          simp only [List.map_cons, separated_cons_cons, List.flatten_append, List.flatten_cons]
          simp

/-- The compact text of a value has nothing between its tokens. -/
theorem compactText_eq (value : Json) : compactText value = value.document.tokens.flatten := by
  induction value using Json.induction with
  | null => simp [compactText, document, Document.tokens]
  | bool value => simp [compactText, document, Document.tokens]
  | integer value => simp [compactText, document, Document.tokens]
  | float value =>
      rw [compactText, document, floatText]
      cases value.jsonText? <;> simp [Document.tokens]
  | string value => simp [compactText, document, Document.tokens]
  | array items induction =>
      rw [compactText, compactItems_eq induction, document, Document.tokens]
      simp [Function.comp_def]
  | object members induction =>
      rw [compactText, compactMembers_eq induction, document, Document.tokens]
      simp [Function.comp_def]

/-! ## Indented texts -/

theorem Document.tokens_ne_nil (document : Document) : document.tokens ≠ [] := by
  cases document <;> simp [tokens]

/-- More white space in front of the first token. -/
theorem Spaced.blanks {rest text : List Char} {tokens : List Token}
    (spaced : Spaced rest tokens text) (front : List Char) (some : tokens ≠ [])
    (blank : ∀ character ∈ front, isSpace character = true) :
    Spaced rest tokens (front ++ text) := by
  cases spaced with
  | done => exact absurd rfl some
  | @token inner token text tokens innerBlank spaced =>
      rw [← List.append_assoc]
      apply Spaced.token _ spaced
      intro character member
      rcases List.mem_append.mp member with outer | inside
      · exact blank character outer
      · exact innerBlank character inside

theorem newLine_isSpace (level : Nat) :
    ∀ character ∈ newLine level, isSpace character = true := by
  intro character member
  rcases List.mem_cons.mp member with rfl | indent
  · rfl
  · rw [List.eq_of_mem_replicate indent]
    rfl

theorem prettyItems_spaced {level : Nat} {items : List Json}
    (each : ∀ item ∈ items, ∀ rest,
      Spaced rest item.document.tokens (prettyText level item ++ rest)) (rest : List Char) :
    Spaced rest (separated true (items.map fun item => item.document.tokens))
      (prettyItems level items ++ rest) := by
  induction items with
  | nil => exact .done
  | cons item items induction =>
      have front (rest : List Char) : Spaced rest item.document.tokens
          (newLine level ++ (prettyText level item ++ rest)) :=
        (each item List.mem_cons_self rest).blanks (newLine level) item.document.tokens_ne_nil
          (newLine_isSpace level)
      have behind := induction fun other inside => each other (List.mem_cons_of_mem _ inside)
      cases items with
      | nil => simpa [prettyItems, separated] using front rest
      | cons next items =>
          rw [List.map_cons, List.map_cons, separated_cons_cons]
          have comma : Spaced rest ([','] :: separated true ((next :: items).map fun item =>
              item.document.tokens)) (',' :: (prettyItems level (next :: items) ++ rest)) :=
            behind.adjacent [',']
          simpa [prettyItems] using (front _).append comma

theorem prettyMembers_spaced {level : Nat} {members : List (String × Json)}
    (each : ∀ member ∈ members, ∀ rest,
      Spaced rest member.2.document.tokens (prettyText level member.2 ++ rest))
    (rest : List Char) :
    Spaced rest (separated true (members.map fun member =>
        quoted member.1 :: [':'] :: member.2.document.tokens))
      (prettyMembers level members ++ rest) := by
  induction members with
  | nil => exact .done
  | cons member members induction =>
      obtain ⟨key, value⟩ := member
      have front (rest : List Char) : Spaced rest (quoted key :: [':'] :: value.document.tokens)
          (newLine level ++ (quoted key ++ (':' :: ' ' :: (prettyText level value ++ rest)))) := by
        apply Spaced.token (newLine_isSpace level)
        have colon := (each (key, value) List.mem_cons_self rest).blanks [' ']
          value.document.tokens_ne_nil (by simp [isSpace])
        exact colon.adjacent [':']
      have behind := induction fun other inside => each other (List.mem_cons_of_mem _ inside)
      cases members with
      | nil => simpa [prettyMembers, separated] using front rest
      | cons next members =>
          rw [List.map_cons, List.map_cons, separated_cons_cons]
          have comma : Spaced rest ([','] :: separated true ((next :: members).map fun member =>
              quoted member.1 :: [':'] :: member.2.document.tokens))
              (',' :: (prettyMembers level (next :: members) ++ rest)) :=
            behind.adjacent [',']
          simpa [prettyMembers] using (front _).append comma

/-- Tokens between an opening and a closing one. -/
theorem Spaced.enclosed {rest blanks text : List Char} {closing : Token} {tokens : List Token}
    (spaced : Spaced (blanks ++ (closing ++ rest)) tokens text) (opening : Token)
    (blank : ∀ character ∈ blanks, isSpace character = true) :
    Spaced rest (opening :: (tokens ++ [closing])) (opening ++ text) :=
  (spaced.append (.token blank .done)).adjacent opening

/-- The indented text of a value has the tokens of the compact one. -/
theorem prettyText_spaced (value : Json) (level : Nat) (rest : List Char) :
    Spaced rest value.document.tokens (prettyText level value ++ rest) := by
  have leaf {rest token : List Char} : Spaced rest [token] (token ++ rest) :=
    Spaced.done.adjacent token
  induction value using Json.induction generalizing level rest with
  | null | bool | integer | string =>
      rw [document, Document.tokens, prettyText]
      exact leaf
  | float value =>
      rw [document, prettyText, floatText]
      cases value.jsonText? with
      | none =>
          rw [Document.tokens]
          exact leaf
      | some text =>
          rw [Document.tokens]
          exact leaf
  | array items induction =>
      rw [document, Document.tokens, List.map_map]
      cases items with
      | nil =>
          rw [prettyText]
          exact Spaced.done.enclosed ['['] (List.forall_mem_nil _)
      | cons item items =>
          have inside := prettyItems_spaced
            (fun other member => induction other member (level + 1))
            (newLine level ++ ([']'] ++ rest))
          have enclosed := inside.enclosed ['['] (newLine_isSpace level)
          simpa [prettyText, Function.comp_def] using enclosed
  | object members induction =>
      rw [document, Document.tokens, List.map_map]
      cases members with
      | nil =>
          rw [prettyText]
          exact Spaced.done.enclosed ['\x7b'] (List.forall_mem_nil _)
      | cons member members =>
          have inside := prettyMembers_spaced
            (fun other member => induction other member (level + 1))
            (newLine level ++ (['\x7d'] ++ rest))
          have enclosed := inside.enclosed ['\x7b'] (newLine_isSpace level)
          simpa [prettyText, Function.comp_def] using enclosed

end NodeAdmin.Json
