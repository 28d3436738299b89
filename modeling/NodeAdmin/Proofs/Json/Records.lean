import NodeAdmin.Proofs.Json.Reading

/-!
# Reading written records

The value of a field is found in the document that was written for it.  A record is read by
filling its draft member by member, and a member that was left out fills nothing.
-/

namespace NodeAdmin

/-- Whether the JSON text of a double is read back to the same double.  Infinities and
not-a-number have no text. -/
def Double.ReadsBack (value : Double) : Prop :=
  value.jsonText?.map (Json.decodeText Json.Decode.double) = some (.ok value)

instance (value : Double) : Decidable value.ReadsBack := inferInstanceAs (Decidable (_ = _))

theorem Double.jsonText?_eq_none_iff {value : Double} :
    value.jsonText? = none ↔ value.isFinite = false := by
  cases value with
  | nan => simp [jsonText?, isFinite]
  | number negative magnitude =>
      have bounded : magnitude.val ≤ infiniteOrdinal := Nat.le_of_lt_succ magnitude.isLt
      by_cases infinite : magnitude.val = infiniteOrdinal
      · simp [jsonText?, isFinite, isInfiniteMagnitude, infinite]
      · have finite : magnitude.val < infiniteOrdinal := Nat.lt_of_le_of_ne bounded infinite
        simp [jsonText?, isFinite, isInfiniteMagnitude, infinite, finite]

theorem Double.ReadsBack.isFinite {value : Double} (readsBack : value.ReadsBack) :
    value.isFinite = true := by
  rw [← Bool.not_eq_false, ← jsonText?_eq_none_iff]
  intro unwritten
  rw [ReadsBack, unwritten] at readsBack
  cases readsBack

namespace Json

variable {site : Site}

/-! ## Values of fields -/

theorem decode_string (value : String) :
    Decode.string site (string value).document.tree = .ok value := by
  rw [document, Document.tree]
  rfl

theorem decode_bool (value : Bool) :
    Decode.bool site (bool value).document.tree = .ok value := by
  rw [document, Document.tree]
  rfl

theorem tree_integer {value : Int} (isWord : IsWord value) :
    (integer value).document.tree = .number (.ok (.whole value)) := by
  rw [document, Document.tree, numeralOf_integerText isWord]

theorem isSigned64_toInt (value : Int64) : Word.isSigned64 value.toInt = true := by
  rw [isSigned64_iff]
  exact ⟨value.minValue_le_toInt, value.toInt_lt⟩

theorem decode_int64 (value : Int64) :
    Decode.int64 site (integer value.toInt).document.tree = .ok value := by
  have signed := isSigned64_toInt value
  rw [tree_integer (.inl signed), Decode.int64, if_pos signed, Int64.ofInt_toInt]

theorem double_site (other : Site) (tree : Tree) :
    Decode.double site tree = Decode.double other tree := by
  unfold Decode.double
  split <;> rfl

theorem decode_double {value : Double} (readsBack : value.ReadsBack) :
    Decode.double site (float value).document.tree = .ok value := by
  obtain ⟨text, written, read⟩ := Option.map_eq_some_iff.mp readsBack
  have same : text = (float value).compact := by
    rw [compact, compactText, floatText, written, String.ofList_toList]
  rw [same, decodeText_compact] at read
  rw [double_site, read]

/-- A decoder that does not take null finds the value also where it is optional. -/
theorem decode_optional {α : Type} {decoder : Decoder α} {value : α} {tree : Tree}
    (strict : decoder site .null ≠ .ok value) (read : decoder site tree = .ok value) :
    Decode.optional decoder site tree = .ok (some value) := by
  have mapped : (decoder site tree).map some = .ok (some value) := by
    rw [read]
    rfl
  cases tree with
  | null => exact absurd read strict
  | bool | number | string | array | object | broken => exact mapped

/-- A number that may be left out is found where it is finite; any other one is written as null,
which stands for none. -/
theorem decode_optional_double {value : Double}
    (readsBack : value.isFinite = true → value.ReadsBack) :
    Decode.optional Decode.double site (float value).document.tree =
      .ok (if value.isFinite then some value else none) := by
  by_cases finite : value.isFinite = true
  · rw [if_pos finite]
    exact decode_optional nofun (decode_double (readsBack finite))
  · rw [Bool.not_eq_true] at finite
    rw [finite, if_neg Bool.false_ne_true, document, Double.jsonText?_eq_none_iff.mpr finite,
      Document.tree]
    rfl

theorem decode_items {α : Type} {decoder : Decoder α} {write : α → Json} {values : List α}
    (read : ∀ value ∈ values, decoder site (write value).document.tree = .ok value) :
    Decode.items decoder site (values.map fun value => (write value).document.tree) =
      .ok values := by
  induction values with
  | nil => rfl
  | cons value values induction =>
      have first := read value List.mem_cons_self
      have others := induction fun other member => read other (List.mem_cons_of_mem _ member)
      rw [List.map_cons, Decode.items, first, others]
      rfl

theorem decode_list {α : Type} {decoder : Decoder α} {write : α → Json} {values : List α}
    (shallow : site.level + 1 < depthLimit)
    (read : ∀ value ∈ values, decoder site.inner (write value).document.tree = .ok value) :
    Decode.list decoder site (array (values.map write)).document.tree = .ok values := by
  have items := decode_items read
  rw [document, Document.tree, List.map_map, List.map_map, Decode.list,
    if_neg (Nat.not_le.mpr shallow)]
  simp only [Function.comp_def, items]
  rfl

/-! ## Drafts -/

/-- Whether members fill a draft up to another one, whatever members follow. -/
def Fills {δ α : Type} (shape : RecordShape δ α) (site : Site) (members : List (String × Json))
    (draft filled : δ) : Prop :=
  ∀ rest, shape.fillMembers site
      (members.map (fun member => (.string (.ok member.1), member.2.document.tree)) ++ rest) draft =
    shape.fillMembers site rest filled

namespace Fills

variable {δ α β : Type}

theorem append {shape : RecordShape δ α} {members others : List (String × Json)}
    {draft between filled : δ} (front : Fills shape site members draft between)
    (behind : Fills shape site others between filled) :
    Fills shape site (members ++ others) draft filled := by
  intro rest
  rw [List.map_append, List.append_assoc, front, behind]

/-- A member fills the slot of its key, the rest of the draft being kept. -/
theorem slot (site : Site) (shape : RecordShape δ α) (key : String) (set : Option β → δ)
    {keys : List String} {get : δ → Option β} {put : β → δ → δ} {decoder : Decoder β}
    {value : β} {written : Json}
    (known : shape.fields.find? (·.keys.contains key) = some (.slot keys get put decoder))
    (free : get (set none) = none) (puts : ∀ value, put value (set none) = set (some value))
    (read : decoder site written.document.tree = .ok value) :
    Fills shape site [(key, written)] (set none) (set (some value)) := by
  intro rest
  have unfilled : (RecordField.slot keys get put decoder).filled (set none) = false := by
    simp [RecordField.slot, free]
  have fill : (RecordField.slot keys get put decoder).fill site written.document.tree (set none) =
      .ok (set (some value)) := by
    simp [RecordField.slot, read, Except.map, puts]
  simp only [List.map_cons, List.map_nil, List.singleton_append, RecordShape.fillMembers,
    Tree.keyText, known, unfilled, fill, bind, Except.bind]
  rfl

/-- A member that may be left out fills its slot or leaves it free. -/
theorem optional (site : Site) (shape : RecordShape δ α) (key : String)
    (set : Option (Option β) → δ) (value : Option β) {keys : List String}
    {get : δ → Option (Option β)} {put : Option β → δ → δ} {decoder : Decoder (Option β)}
    {write : β → Json}
    (known : shape.fields.find? (·.keys.contains key) = some (.slot keys get put decoder))
    (free : get (set none) = none) (puts : ∀ value, put value (set none) = set (some value))
    (read : ∀ inner ∈ value, decoder site (write inner).document.tree = .ok (some inner)) :
    Fills shape site (Json.optional key (value.map write)) (set none) (set (value.map some)) := by
  cases value with
  | none =>
      intro rest
      rfl
  | some inner => exact slot site shape key set known free puts (read inner rfl)

/-- A member with a number fills its slot with the number where it is finite, and with nothing
otherwise. -/
theorem optionalDouble (site : Site) (shape : RecordShape δ α) (key : String)
    (set : Option (Option Double) → δ) (value : Option Double) {keys : List String}
    {get : δ → Option (Option Double)} {put : Option Double → δ → δ}
    (known : shape.fields.find? (·.keys.contains key) =
      some (.slot keys get put (Decode.optional Decode.double)))
    (free : get (set none) = none) (puts : ∀ value, put value (set none) = set (some value))
    (readsBack : ∀ number ∈ value.filter Double.isFinite, number.ReadsBack) :
    Fills shape site (Json.optional key (value.map .float)) (set none)
      (set (value.map fun number => if number.isFinite then some number else none)) := by
  cases value with
  | none =>
      intro rest
      rfl
  | some number =>
      apply slot site shape key set known free puts
      apply decode_optional_double
      intro finite
      exact readsBack number (Option.mem_filter_iff.mpr ⟨rfl, finite⟩)

end Fills

/-- A slot that is filled with an optional value, or left free, holds that value. -/
theorem join_map_some {α : Type} (value : Option α) : (value.map some).join = value := by
  cases value <;> rfl

theorem join_map_finite (value : Option Double) :
    (value.map fun number => if number.isFinite then some number else none).join =
      value.filter Double.isFinite := by
  cases value with
  | none => rfl
  | some number => cases finite : number.isFinite <;> simp [Option.filter, finite]

theorem decode_record {δ α : Type} {shape : RecordShape δ α} {members : List (String × Json)}
    {filled : δ} {value : α} (shallow : site.level + 1 < depthLimit)
    (fills : Fills shape site.inner members shape.empty filled)
    (finish : shape.finish filled = some value) :
    shape.decode site (object members).document.tree = .ok value := by
  have whole := fills []
  rw [List.append_nil, RecordShape.fillMembers] at whole
  rw [document, Document.tree, List.map_map, RecordShape.decode,
    if_neg (Nat.not_le.mpr shallow)]
  simp only [Function.comp_def, whole, Tree.closed, RecordShape.finished, finish, bind,
    Except.bind]

end Json

end NodeAdmin
