import Mathlib.Data.List.TakeWhile
import NodeAdmin.Proofs.Json.Members
import NodeAdmin.Proofs.Json.Records

/-!
# Values and their texts

Every value that is read from a text is read back from the text that is written for it, as long
as its doubles are.  Its whole numbers are words of 64 bits, its objects are sorted, and its
containers are not too deep; a text without fraction and exponent is never written for a double.
-/

namespace NodeAdmin.Json

/-! ## Steps that can fail -/

section Steps

variable {ε α β : Type} {first : Except ε α} {next : α → Except ε β} {fault : ε} {result : β}

theorem bind_eq_ok_iff :
    (first >>= next) = .ok result ↔ ∃ value, first = .ok value ∧ next value = .ok result := by
  cases first <;> simp [bind, Except.bind]

theorem bind_eq_error_iff :
    (first >>= next) = .error fault ↔
      first = .error fault ∨ ∃ value, first = .ok value ∧ next value = .error fault := by
  cases first <;> simp [bind, Except.bind]

end Steps

/-! ## Whole numbers in texts -/

/-- Whether the whole numbers in a tree are words. -/
inductive Tree.HasWords : Tree → Prop where
  | null : HasWords null
  | bool (value : Bool) : HasWords (bool value)
  | number {value : Except Fault Numeral}
      (word : ∀ number, value = .ok (.whole number) → IsWord number) : HasWords (number value)
  | string (value : Except Fault String) : HasWords (string value)
  | array {items : List Tree} (each : ∀ item ∈ items, HasWords item) (close : Option Fault) :
      HasWords (array items close)
  | object {members : List (Tree × Tree)} (each : ∀ member ∈ members, HasWords member.2)
      (close : Option Fault) : HasWords (object members close)
  | broken (wanted passed : Fault) : HasWords (broken wanted passed)

theorem NumeralParts.value?_whole {parts : NumeralParts} {number : Int}
    (read : parts.value? = some (.whole number)) :
    IsWord number ∧ parts.hasFraction = false ∧ parts.hasExponent = false := by
  unfold value? at read
  dsimp only at read
  split at read
  · obtain ⟨_, -, double⟩ := Option.map_eq_some_iff.mp read
    cases double
  · rename_i plain
    simp only [not_or, Bool.not_eq_true, Bool.not_eq_false] at plain
    obtain ⟨noFraction, noExponent, word⟩ := plain
    refine ⟨?_, noFraction, noExponent⟩
    split at read
    · cases read
      exact .inr word
    · split at read
      · rename_i fits
        cases read
        exact .inl fits.2
      · cases read

section Digits

variable {text rest : List Char} {step : TreeStep}

theorem requiredDigits_error (failed : requiredDigits text = .error step) :
    step.1.HasWords := by
  unfold requiredDigits at failed
  split at failed
  · cases failed
    exact .broken _ _
  · split at failed
    · cases failed
    · cases failed
      exact .broken _ _

theorem requiredDigits_ok {digits : List Char × List Char}
    (read : requiredDigits text = .ok digits) : digits = takeDigits text := by
  unfold requiredDigits at read
  split at read
  · cases read
  · split at read
    · cases read
      rfl
    · cases read

theorem wholeDigits_error (failed : wholeDigits text = .error step) : step.1.HasWords := by
  rcases bind_eq_error_iff.mp failed with required | ⟨digits, -, surplus⟩
  · exact requiredDigits_error required
  · split at surplus
    · cases surplus
      exact .broken _ _
    · cases surplus

theorem wholeDigits_ok {digits : List Char × List Char}
    (read : wholeDigits text = .ok digits) : digits = takeDigits text := by
  obtain ⟨found, required, same⟩ := bind_eq_ok_iff.mp read
  split at same
  · cases same
  · cases same
    exact requiredDigits_ok required

theorem fractionDigits_error (failed : fractionDigits text = .error step) :
    step.1.HasWords := by
  unfold fractionDigits at failed
  split at failed
  · rcases bind_eq_error_iff.mp failed with required | ⟨_, -, found⟩
    · exact requiredDigits_error required
    · cases found
  · cases failed

theorem fractionDigits_absent {digits : List Char}
    (read : fractionDigits text = .ok (false, digits, rest)) : rest = text := by
  unfold fractionDigits at read
  split at read
  · obtain ⟨_, -, found⟩ := bind_eq_ok_iff.mp read
    cases found
  · cases read
    rfl

theorem exponentDigits_error (failed : exponentDigits text = .error step) :
    step.1.HasWords := by
  unfold exponentDigits at failed
  split at failed
  · split at failed
    · rcases bind_eq_error_iff.mp failed with required | ⟨_, -, found⟩
      · exact requiredDigits_error required
      · cases found
    · cases failed
  · cases failed

theorem exponentDigits_absent {negative : Bool} {digits : List Char}
    (read : exponentDigits text = .ok (false, negative, digits, rest)) : rest = text := by
  unfold exponentDigits at read
  split at read
  · split at read
    · obtain ⟨_, -, found⟩ := bind_eq_ok_iff.mp read
      cases found
    · cases read
      rfl
  · cases read
    rfl

end Digits

theorem NumeralParts.hasWords_leaf (parts : NumeralParts) {rest : Option (List Char)}
    {step : TreeStep}
    (leaf : (match parts.value? with
      | some value => (.ok (.number (.ok value), rest) : Except TreeStep TreeStep)
      | none => .ok (.number (.error .malformed), rest)) = .ok step) : step.1.HasWords := by
  cases read : parts.value? with
  | none =>
      rw [read] at leaf
      cases leaf
      exact .number nofun
  | some value =>
      rw [read] at leaf
      cases leaf
      apply Tree.HasWords.number
      rintro number ⟨⟩
      exact (value?_whole read).1

/-- Both outcomes of reading a number have words only. -/
theorem unsignedStep_hasWords {negative : Bool} {text : List Char} {step : TreeStep}
    (read : unsignedStep negative text = .ok step ∨ unsignedStep negative text = .error step) :
    step.1.HasWords := by
  rcases read with read | failed
  · obtain ⟨whole, -, others⟩ := bind_eq_ok_iff.mp read
    obtain ⟨⟨hasFraction, fraction, afterFraction⟩, -, others⟩ := bind_eq_ok_iff.mp others
    obtain ⟨⟨hasExponent, negative, exponent, rest⟩, -, leaf⟩ := bind_eq_ok_iff.mp others
    exact NumeralParts.hasWords_leaf _ leaf
  · rcases bind_eq_error_iff.mp failed with whole | ⟨_, -, others⟩
    · exact wholeDigits_error whole
    · rcases bind_eq_error_iff.mp others with fraction | ⟨_, -, others⟩
      · exact fractionDigits_error fraction
      · rcases bind_eq_error_iff.mp others with exponent | ⟨_, -, leaf⟩
        · exact exponentDigits_error exponent
        · dsimp only at leaf
          split at leaf <;> cases leaf

theorem numberStep_hasWords (text : List Char) : (numberStep text).1.HasWords := by
  unfold numberStep
  dsimp only
  split
  · rename_i read
    split at read <;> exact unsignedStep_hasWords (.inl read)
  · rename_i failed
    split at failed <;> exact unsignedStep_hasWords (.inr failed)

/-! ## Trees of texts -/

theorem stringStep_hasWords (text : List Char) : (stringStep text).1.HasWords := by
  unfold stringStep
  split
  · exact .string _
  · exact .string _
  · exact .broken _ _
  · exact .broken _ _

theorem keyStep_hasWords (text : List Char) : (keyStep text).1.HasWords := by
  unfold keyStep
  split
  · exact .broken _ _
  · exact stringStep_hasWords _
  · exact .broken _ _

theorem wordStep_hasWords {value : Tree} (words : value.HasWords) (letters text : List Char) :
    (wordStep value letters text).1.HasWords := by
  induction letters generalizing text with
  | nil => exact words
  | cons letter letters induction =>
      cases text with
      | nil => exact .broken _ _
      | cons character text =>
          rw [wordStep]
          split
          · exact induction text
          · exact .broken _ _

/-- Every whole number in the tree of a text is a word. -/
theorem steps_haveWords (fuel : Nat) :
    (∀ text, (treeStep fuel text).1.HasWords) ∧
      (∀ isFirst text, ∀ item ∈ (itemSteps fuel isFirst text).1, item.HasWords) ∧
      ∀ isFirst text, ∀ member ∈ (memberSteps fuel isFirst text).1, member.2.HasWords := by
  induction fuel with
  | zero =>
      refine ⟨?_, ?_, ?_⟩
      · intro text
        rw [treeStep]
        exact .broken _ _
      · intro isFirst text item member
        rw [itemSteps] at member
        cases member
      · intro isFirst text item member
        rw [memberSteps] at member
        cases member
  | succ fuel induction =>
      obtain ⟨trees, items, members⟩ := induction
      refine ⟨?_, ?_, ?_⟩
      · intro text
        rw [treeStep]
        split
        · exact .broken _ _
        · exact stringStep_hasWords _
        · exact .array (items true _) _
        · exact .object (members true _) _
        · exact wordStep_hasWords .null _ _
        · exact wordStep_hasWords (.bool true) _ _
        · exact wordStep_hasWords (.bool false) _ _
        · split
          · exact numberStep_hasWords _
          · exact .broken _ _
      · intro isFirst text item member
        rw [itemSteps] at member
        split at member
        · cases member
        · cases member
        · rename_i front _
          dsimp only at member
          split at member
          · obtain rfl := List.mem_singleton.mp member
            exact trees front
          · rcases List.mem_cons.mp member with rfl | others
            · exact trees front
            · exact items false _ item others
      · intro isFirst text member inside
        rw [memberSteps] at inside
        split at inside
        · cases inside
        · cases inside
        · rename_i front _
          dsimp only at inside
          split at inside
          · obtain rfl := List.mem_singleton.mp inside
            exact keyStep_hasWords front
          · split at inside
            · split at inside
              · obtain rfl := List.mem_singleton.mp inside
                exact trees _
              · rcases List.mem_cons.mp inside with rfl | others
                · exact trees _
                · exact members false _ member others
            · obtain rfl := List.mem_singleton.mp inside
              exact .broken _ _
            · obtain rfl := List.mem_singleton.mp inside
              exact .broken _ _

theorem Tree.ofText_hasWords (text : List Char) : (Tree.ofText text).1.HasWords :=
  (steps_haveWords _).1 text

/-! ## Texts of doubles -/

/-- A whole number is read from digits alone. -/
theorem unsignedStep_whole {negative : Bool} {text rest : List Char} {number : Int}
    (read : unsignedStep negative text = .ok (.number (.ok (.whole number)), some rest)) :
    ∃ digits, text = digits ++ rest ∧ ∀ character ∈ digits, character.isDigit = true := by
  obtain ⟨whole, digits, others⟩ := bind_eq_ok_iff.mp read
  obtain ⟨⟨hasFraction, fraction, afterFraction⟩, readFraction, others⟩ :=
    bind_eq_ok_iff.mp others
  obtain ⟨⟨hasExponent, exponentNegative, exponent, afterExponent⟩, readExponent, leaf⟩ :=
    bind_eq_ok_iff.mp others
  dsimp only at readExponent leaf
  split at leaf
  · rename_i readValue
    cases leaf
    obtain ⟨-, noFraction, noExponent⟩ := NumeralParts.value?_whole readValue
    dsimp only at noFraction noExponent
    subst noFraction noExponent
    rw [exponentDigits_absent readExponent, fractionDigits_absent readFraction,
      wholeDigits_ok digits]
    refine ⟨text.takeWhile Char.isDigit, List.takeWhile_append_dropWhile.symm, ?_⟩
    intro character member
    exact List.mem_takeWhile_imp member
  · cases leaf

/-- A text that is read as a whole number has digits behind its sign, and nothing else. -/
theorem IsNumber.digits_of_whole {text : List Char} (isNumber : IsNumber text) {number : Int}
    (read : numeralOf text = .ok (.whole number)) :
    ∀ character ∈ text, character = '-' ∨ character.isDigit = true := by
  have digits (negative : Bool) {text : List Char} (isUnsigned : IsUnsigned text)
      (found : ∀ value, unsignedStep negative text = .ok (.number value, some []) →
        value = .ok (.whole number)) :
      ∀ character ∈ text, character.isDigit = true := by
    obtain ⟨value, step⟩ := isUnsigned.unsignedStep_append negative
    have alone := step [] ends_nil
    rw [List.append_nil] at alone
    rw [found value alone] at alone
    obtain ⟨digits, same, areDigits⟩ := unsignedStep_whole alone
    rw [List.append_nil] at same
    rwa [same]
  cases isNumber with
  | unsigned isUnsigned =>
      intro character member
      right
      apply digits false isUnsigned _ character member
      intro value step
      obtain ⟨first, rest, rfl, digit⟩ := isUnsigned.head
      rwa [numeralOf, numberStep_of_digit digit step] at read
  | negative isUnsigned =>
      intro character member
      rcases List.mem_cons.mp member with rfl | inside
      · exact .inl rfl
      · right
        apply digits true isUnsigned _ character inside
        intro value step
        rwa [numeralOf, numberStep, step] at read

/-- The text of a double has a point or an exponent. -/
theorem mark_mem_jsonText {value : Double} {text : String}
    (written : value.jsonText? = some text) : '.' ∈ text.toList ∨ 'e' ∈ text.toList := by
  cases value with
  | nan => cases written
  | number negative magnitude =>
      unfold Double.jsonText? at written
      dsimp only at written
      split at written
      · cases written
      · cases written
        rw [String.toList_append, String.toList_ofList]
        generalize magnitude.shortest .toEven = decimal
        simp only [List.mem_append]
        split
        · left
          right
          split
          · simp
          · rename_i below
            rw [Double.positional, if_neg below]
            dsimp only
            split <;> simp
        · right
          right
          simp [Double.scientific]

theorem tree_float {value : Double} (readsBack : value.ReadsBack) :
    (float value).document.tree = .number (.ok (.double value)) := by
  have read : Decode.double ⟨0, .malformed⟩ (float value).document.tree = .ok value :=
    decode_double readsBack
  obtain ⟨text, written, -⟩ := Option.map_eq_some_iff.mp readsBack
  have isNumber := isNumber_jsonText written
  rw [document, written, Document.tree] at read ⊢
  cases numeral : numeralOf text.toList with
  | error fault =>
      rw [numeral] at read
      cases read
  | ok found =>
      rw [numeral] at read
      cases found with
      | double other =>
          cases read
          rfl
      | whole number =>
          have digits := isNumber.digits_of_whole numeral
          rcases mark_mem_jsonText written with point | mark
          · rcases digits _ point with same | digit
            · cases same
            · cases digit
          · rcases digits _ mark with same | digit
            · cases same
            · cases digit

/-! ## Values of trees -/

/-- Whether a value can be read below so many open containers. -/
inductive Fits : Nat → Json → Prop where
  | null (level : Nat) : Fits level null
  | bool (level : Nat) (value : Bool) : Fits level (bool value)
  | integer (level : Nat) {value : Int} (isWord : IsWord value) : Fits level (integer value)
  | float (level : Nat) (value : Double) : Fits level (float value)
  | string (level : Nat) (value : String) : Fits level (string value)
  | array {level : Nat} {items : List Json} (shallow : level + 1 < depthLimit)
      (each : ∀ item ∈ items, Fits (level + 1) item) : Fits level (array items)
  | object {level : Nat} {members : List (String × Json)} (shallow : level + 1 < depthLimit)
      (sorted : SortedByKey members) (each : ∀ member ∈ members, Fits (level + 1) member.2) :
      Fits level (object members)

/-- What fits below many containers fits below fewer. -/
theorem Fits.of_le {level less : Nat} {value : Json} (fits : Fits level value)
    (fewer : less ≤ level) : Fits less value := by
  induction fits generalizing less with
  | null => exact .null less
  | bool _ value => exact .bool less value
  | integer _ isWord => exact .integer less isWord
  | float _ value => exact .float less value
  | string _ value => exact .string less value
  | array shallow _ induction =>
      apply Fits.array (Nat.lt_of_le_of_lt (Nat.add_le_add_right fewer 1) shallow)
      intro item inside
      exact induction item inside (Nat.add_le_add_right fewer 1)
  | object shallow sorted _ induction =>
      apply Fits.object (Nat.lt_of_le_of_lt (Nat.add_le_add_right fewer 1) shallow) sorted
      intro member inside
      exact induction member inside (Nat.add_le_add_right fewer 1)

mutual

/-- The doubles in a value. -/
def floats : Json → List Double
  | float value => [value]
  | array items => itemFloats items
  | object members => memberFloats members
  | null | bool _ | integer _ | string _ => []

def itemFloats : List Json → List Double
  | [] => []
  | item :: rest => floats item ++ itemFloats rest

def memberFloats : List (String × Json) → List Double
  | [] => []
  | (_, value) :: rest => floats value ++ memberFloats rest

end

theorem mem_itemFloats {items : List Json} {item : Json} {value : Double} (inside : item ∈ items)
    (member : value ∈ item.floats) : value ∈ itemFloats items := by
  induction items with
  | nil => cases inside
  | cons first rest induction =>
      rw [itemFloats, List.mem_append]
      rcases List.mem_cons.mp inside with rfl | later
      · exact .inl member
      · exact .inr (induction later)

theorem mem_memberFloats {members : List (String × Json)} {entry : String × Json}
    {value : Double} (inside : entry ∈ members) (member : value ∈ entry.2.floats) :
    value ∈ memberFloats members := by
  induction members with
  | nil => cases inside
  | cons first rest induction =>
      rw [memberFloats, List.mem_append]
      rcases List.mem_cons.mp inside with rfl | later
      · exact .inl member
      · exact .inr (induction later)

theorem itemsToJson_fits {items : List Tree} {level : Nat} {values : List Json}
    (each : ∀ item ∈ items, ∀ value, item.toJson level = .ok value → Fits level value)
    (read : Tree.itemsToJson level items = .ok values) : ∀ value ∈ values, Fits level value := by
  induction items generalizing values with
  | nil =>
      cases read
      exact List.forall_mem_nil _
  | cons item items induction =>
      obtain ⟨first, readFirst, others⟩ := bind_eq_ok_iff.mp read
      obtain ⟨rest, readRest, same⟩ := bind_eq_ok_iff.mp others
      cases same
      rw [List.forall_mem_cons]
      refine ⟨each item List.mem_cons_self first readFirst, ?_⟩
      exact induction (fun other inside => each other (List.mem_cons_of_mem _ inside)) readRest

theorem membersToJson_fits {members : List (Tree × Tree)} {level : Nat}
    {values : List (String × Json)}
    (each : ∀ member ∈ members, ∀ value, member.2.toJson level = .ok value → Fits level value)
    (read : Tree.membersToJson level members = .ok values) :
    ∀ value ∈ values, Fits level value.2 := by
  induction members generalizing values with
  | nil =>
      cases read
      exact List.forall_mem_nil _
  | cons member members induction =>
      obtain ⟨key, -, others⟩ := bind_eq_ok_iff.mp read
      obtain ⟨first, readFirst, others⟩ := bind_eq_ok_iff.mp others
      obtain ⟨rest, readRest, same⟩ := bind_eq_ok_iff.mp others
      cases same
      rw [List.forall_mem_cons]
      refine ⟨each member List.mem_cons_self first readFirst, ?_⟩
      exact induction (fun other inside => each other (List.mem_cons_of_mem _ inside)) readRest

/-- Every value of a tree with words fits where it was read. -/
theorem Tree.HasWords.fits {tree : Tree} (words : tree.HasWords) {level : Nat} {value : Json}
    (read : tree.toJson level = .ok value) : Fits level value := by
  induction words generalizing level value with
  | null =>
      cases read
      exact .null level
  | bool =>
      cases read
      exact .bool level _
  | @number numeral word =>
      cases numeral with
      | error fault => cases read
      | ok numeral =>
          cases numeral with
          | whole number =>
              cases read
              exact .integer level (word number rfl)
          | double number =>
              cases read
              exact .float level number
  | string text =>
      cases text with
      | error fault => cases read
      | ok text =>
          cases read
          exact .string level text
  | array each close induction =>
      rw [toJson] at read
      split at read
      · cases read
      · rename_i shallow
        obtain ⟨values, items, others⟩ := bind_eq_ok_iff.mp read
        obtain ⟨_, -, same⟩ := bind_eq_ok_iff.mp others
        cases same
        apply Fits.array (Nat.not_le.mp shallow)
        exact itemsToJson_fits (fun item inside value => induction item inside) items
  | object each close induction =>
      rw [toJson] at read
      split at read
      · cases read
      · rename_i shallow
        obtain ⟨values, members, others⟩ := bind_eq_ok_iff.mp read
        obtain ⟨_, -, same⟩ := bind_eq_ok_iff.mp others
        cases same
        obtain ⟨sorted, among⟩ := sortMembers_spec values
        apply Fits.object (Nat.not_le.mp shallow) sorted
        intro member inside
        exact membersToJson_fits (fun member inside value => induction member inside) members
          member (among member inside)
  | broken => cases read

/-! ## The round trip -/

theorem itemsToJson_document {items : List Json} {level : Nat}
    (each : ∀ item ∈ items, item.document.tree.toJson level = .ok item) :
    Tree.itemsToJson level (items.map fun item => item.document.tree) = .ok items := by
  induction items with
  | nil => rfl
  | cons item items induction =>
      have first := each item List.mem_cons_self
      have others := induction fun other inside => each other (List.mem_cons_of_mem _ inside)
      rw [List.map_cons, Tree.itemsToJson, first, others]
      rfl

theorem membersToJson_document {members : List (String × Json)} {level : Nat}
    (each : ∀ member ∈ members, member.2.document.tree.toJson level = .ok member.2) :
    Tree.membersToJson level (members.map fun member =>
      (.string (.ok member.1), member.2.document.tree)) = .ok members := by
  induction members with
  | nil => rfl
  | cons member members induction =>
      have first := each member List.mem_cons_self
      have others := induction fun other inside => each other (List.mem_cons_of_mem _ inside)
      rw [List.map_cons, Tree.membersToJson, first, others]
      rfl

/-- A value that fits is read back from its document. -/
theorem Fits.toJson_document {level : Nat} {value : Json} (fits : Fits level value)
    (readBack : ∀ double ∈ value.floats, double.ReadsBack) :
    value.document.tree.toJson level = .ok value := by
  induction fits with
  | null | bool | string =>
      rw [document, Document.tree]
      rfl
  | integer level isWord =>
      rw [tree_integer isWord]
      rfl
  | float level value =>
      rw [tree_float (readBack value List.mem_cons_self)]
      rfl
  | array shallow each induction =>
      have items := itemsToJson_document fun item inside =>
        induction item inside fun double member => readBack double (mem_itemFloats inside member)
      rw [document, Document.tree, List.map_map, Tree.toJson, if_neg (Nat.not_le.mpr shallow)]
      simp only [Function.comp_def, items]
      rfl
  | object shallow sorted each induction =>
      have members := membersToJson_document fun member inside =>
        induction member inside fun double held =>
          readBack double (mem_memberFloats inside held)
      rw [document, Document.tree, List.map_map, Tree.toJson, if_neg (Nat.not_le.mpr shallow)]
      simp only [Function.comp_def, members, bind, Except.bind, Tree.closed,
        sortMembers_of_sorted sorted]

end NodeAdmin.Json
