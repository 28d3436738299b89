import NodeAdmin.Proofs.Text.Ends
import NodeAdmin.Proofs.Text.Hex
import NodeAdmin.Proofs.Text.Utf8
import NodeAdmin.Url.Path

/-!
# Pieces of data in a path

A piece of data that becomes a segment of a path is read back from it, slashes and percent
signs included. Two kinds of pieces are not kept as they are: single and double points, which
are left out, and pieces with tabs or line ends, which lose them. What is left of the latter
may be two points, and only those take back a segment.
-/

namespace NodeAdmin.Url

/-! ## Reading encoded pieces back -/

theorem percentDecode_percentByte (byte : UInt8) (rest : List Char) :
    percentDecode (percentByte byte ++ rest) = byte :: percentDecode rest := by
  have digits : Text.upperHex 2 byte.toNat =
      [Text.upperHexDigit (byte.toNat / 16 % 16), Text.upperHexDigit (byte.toNat % 16)] := by
    simp [Text.upperHex]
  have means := Text.hexNumber?_upperHex 2 byte.toNat
  have whole : byte.toNat % 16 ^ 2 = byte.toNat := Nat.mod_eq_of_lt byte.toNat_lt
  rw [digits, whole] at means
  rw [percentByte, digits]
  simp only [List.cons_append, List.nil_append, percentDecode, means, UInt8.ofNat_toNat]

theorem percentDecode_percentCharacter (character : Char) (rest : List Char) :
    percentDecode (percentCharacter character ++ rest) =
      Text.encodeCharacter character ++ percentDecode rest := by
  unfold percentCharacter
  induction Text.encodeCharacter character with
  | nil => rfl
  | cons byte bytes induction =>
      rw [List.flatMap_cons, List.append_assoc, percentDecode_percentByte, induction]
      rfl

/-- A set with the percent sign in it encodes every text so that it is read back. -/
theorem percentDecode_percentEncode {marks : String} (marked : '%' ∈ marks.toList)
    (text rest : List Char) :
    percentDecode (percentEncode marks text ++ rest) =
      Text.utf8 text ++ percentDecode rest := by
  unfold percentEncode
  induction text with
  | nil => rfl
  | cons character text induction =>
      rw [List.flatMap_cons, List.append_assoc, Text.utf8_cons, List.append_assoc, ← induction]
      split
      · exact percentDecode_percentCharacter character _
      · rename_i unset
        have noPercent : character ≠ '%' := by
          rintro rfl
          exact unset (by simp [inSet, marked])
        exact percentDecode_cons noPercent _

theorem percent_mem_segmentMarks : '%' ∈ segmentMarks.toList := by decide

/-- Pieces between slashes are read back together with the slashes. -/
theorem percentDecode_intercalate (pieces : List (List Char)) :
    percentDecode (['/'].intercalate (pieces.map (percentEncode segmentMarks))) =
      Text.utf8 (['/'].intercalate pieces) := by
  have marked := percent_mem_segmentMarks
  have read (piece : List Char) : percentDecode (percentEncode segmentMarks piece) =
      Text.utf8 piece := by
    simpa [percentDecode] using percentDecode_percentEncode marked piece []
  induction pieces with
  | nil => rfl
  | cons piece pieces induction =>
      cases pieces with
      | nil => simpa using read piece
      | cons next pieces =>
          have slash : ('/' : Char) ≠ '%' := by decide
          simp only [List.map_cons, List.intercalate_cons_cons, List.append_assoc,
            List.singleton_append] at induction ⊢
          rw [percentDecode_percentEncode marked, percentDecode_cons slash, induction]
          simp

/-! ## The segment of a piece -/

/-- What is left of a piece. -/
def keptText (piece : List Char) : List Char := piece.filter fun character => !isDropped character

/-- A piece that is kept as it is. -/
structure IsKept (piece : List Char) : Prop where
  notPoint : piece ≠ ['.']
  notPoints : piece ≠ ['.', '.']
  undropped : ∀ character ∈ piece, isDropped character = false

instance (piece : List Char) : Decidable (IsKept piece) :=
  decidable_of_iff
    (piece ≠ ['.'] ∧ piece ≠ ['.', '.'] ∧ (piece.all fun character => !isDropped character) = true)
    ⟨fun ⟨notPoint, notPoints, undropped⟩ => ⟨notPoint, notPoints, fun character member => by
        simpa using List.all_eq_true.mp undropped character member⟩,
      fun isKept => ⟨isKept.notPoint, isKept.notPoints, by simpa using isKept.undropped⟩⟩

def encodedSegment (text : List Char) : String := String.ofList (percentEncode segmentMarks text)

/-- The segment that a piece adds if it adds one; points add an empty segment. -/
def addedSegment (piece : List Char) : String :=
  if keptText piece = ['.'] ∨ keptText piece = ['.', '.'] then ""
  else encodedSegment (keptText piece)

@[simp]
theorem percentDecode_encodedSegment (text : List Char) :
    percentDecode (encodedSegment text).toList = Text.utf8 text := by
  simpa [encodedSegment, percentDecode] using
    percentDecode_percentEncode percent_mem_segmentMarks text []

theorem isDoublePoint_encodedSegment_iff {text : List Char} :
    isDoublePoint (encodedSegment text) = true ↔ text = ['.', '.'] := by
  constructor
  · intro points
    have read : ∀ segment ∈ ["..", "%2e%2e", "%2e%2E", "%2E%2e", "%2E%2E", "%2e.", "%2E.",
        ".%2e", ".%2E"], percentDecode segment.toList = Text.utf8 ['.', '.'] := by decide
    have same := read _ (List.contains_iff_mem.mp points)
    rwa [percentDecode_encodedSegment, Text.utf8_inj] at same
  · rintro rfl
    decide

theorem isSinglePoint_encodedSegment_iff {text : List Char} :
    isSinglePoint (encodedSegment text) = true ↔ text = ['.'] := by
  constructor
  · intro point
    have read : ∀ segment ∈ [".", "%2e", "%2E"],
        percentDecode segment.toList = Text.utf8 ['.'] := by decide
    have same := read _ (List.contains_iff_mem.mp point)
    rwa [percentDecode_encodedSegment, Text.utf8_inj] at same
  · rintro rfl
    decide

theorem IsKept.keptText_eq {piece : List Char} (isKept : IsKept piece) :
    keptText piece = piece := by
  rw [keptText, List.filter_eq_self]
  intro character member
  simp [isKept.undropped character member]

theorem IsKept.addedSegment_eq {piece : List Char} (isKept : IsKept piece) :
    addedSegment piece = encodedSegment piece := by
  rw [addedSegment, isKept.keptText_eq, if_neg]
  rintro (point | points)
  · exact isKept.notPoint point
  · exact isKept.notPoints points

/-- A piece that is more than points is kept if the segment that it adds is read back to it. -/
theorem isKept_of_read {piece : List Char} (notPoint : piece ≠ ['.'])
    (notPoints : piece ≠ ['.', '.'])
    (read : percentDecode (addedSegment piece).toList = Text.utf8 piece) : IsKept piece := by
  refine ⟨notPoint, notPoints, ?_⟩
  unfold addedSegment at read
  split at read
  · -- An empty segment is read back to an empty piece, of which no points are left.
    rename_i points
    have empty : Text.utf8 [] = Text.utf8 piece := read
    rw [Text.utf8_inj] at empty
    rw [← empty] at points
    rcases points with point | points
    · cases point
    · cases points
  · rw [percentDecode_encodedSegment, Text.utf8_inj] at read
    intro character member
    rw [← read] at member
    simpa using (List.mem_filter.mp member).2

/-! ## One more piece -/

theorem two_le_length {front : List String} (inFront : front ≠ []) (first : String)
    (more : List String) : 2 ≤ (front ++ first :: more).length := by
  have some := List.length_pos_iff.mpr inFront
  simp only [List.length_append, List.length_cons]
  omega

theorem addSegment_eq {path : List String} (long : 2 ≤ path.length) (piece : List Char) :
    addSegment path piece = endSegment path (encodedSegment (keptText piece)) := by
  have notEmpty : path ≠ [""] := by
    rintro rfl
    simp at long
  rw [addSegment, if_neg notEmpty]
  rfl

/-- A piece adds its segment, or takes back the last one because two points are left of it. -/
theorem addSegment_cases {path : List String} (long : 2 ≤ path.length) (piece : List Char) :
    addSegment path piece = path ++ [addedSegment piece] ∨
      keptText piece = ['.', '.'] ∧ addSegment path piece = path.dropLast ++ [""] := by
  rw [addSegment_eq long, endSegment, addedSegment]
  split
  · rename_i points
    rw [isDoublePoint_encodedSegment_iff] at points
    obtain ⟨last, isLast⟩ : ∃ last, path.getLast? = some last := by
      cases path with
      | nil => simp at long
      | cons first path => exact ⟨_, List.getLast?_eq_some_getLast (by simp)⟩
    by_cases drive : isDrive last = true
    · exact .inl (by simp [takeBack, isLast, drive, points])
    · exact .inr ⟨points, by simp [takeBack, isLast, drive]⟩
  · rename_i notPoints
    rw [isDoublePoint_encodedSegment_iff] at notPoints
    split
    · rename_i point
      rw [isSinglePoint_encodedSegment_iff] at point
      exact .inl (by rw [if_pos (.inl point)])
    · rename_i notPoint
      rw [isSinglePoint_encodedSegment_iff] at notPoint
      exact .inl (by rw [if_neg (by simp [notPoint, notPoints])])

/-- Two points take back a segment that does not look like a drive. -/
theorem addSegment_points {front : List String} {last : String} {piece : List Char}
    (inFront : front ≠ []) (noDrive : isDrive last = false)
    (points : keptText piece = ['.', '.']) :
    addSegment (front ++ [last]) piece = front ++ [""] := by
  have long := two_le_length inFront last []
  rw [addSegment_eq long, endSegment,
    if_pos (isDoublePoint_encodedSegment_iff.mpr points)]
  simp [takeBack, noDrive]

theorem addSegment_length {path : List String} (long : 2 ≤ path.length) (piece : List Char) :
    path.length ≤ (addSegment path piece).length ∧
      (addSegment path piece).length ≤ path.length + 1 := by
  rcases addSegment_cases long piece with added | ⟨-, taken⟩
  · simp [added]
  · simp only [taken, List.length_append, List.length_dropLast, List.length_singleton]
    omega

/-! ## All pieces -/

/-- Pieces that are more than points. -/
def counted (pieces : List (List Char)) : List (List Char) :=
  pieces.filter fun piece => piece != ['.'] && piece != ['.', '.']

theorem addSegments_eq (path : List String) (pieces : List (List Char)) :
    addSegments path pieces = (counted pieces).foldl addSegment path := rfl

theorem counted_cons_of_ne {piece : List Char} (notPoint : piece ≠ ['.'])
    (notPoints : piece ≠ ['.', '.']) (pieces : List (List Char)) :
    counted (piece :: pieces) = piece :: counted pieces := by
  simp [counted, notPoint, notPoints]

theorem addSegments_length {path : List String} (long : 2 ≤ path.length)
    (pieces : List (List Char)) :
    (addSegments path pieces).length ≤ path.length + pieces.length := by
  have fewer : (counted pieces).length ≤ pieces.length := List.length_filter_le _ _
  suffices (addSegments path pieces).length ≤ path.length + (counted pieces).length by omega
  rw [addSegments_eq]
  generalize counted pieces = pieces
  induction pieces generalizing path with
  | nil => simp
  | cons piece pieces induction =>
      have one := addSegment_length long piece
      have stillLong : 2 ≤ (addSegment path piece).length := by omega
      have further := induction stillLong
      simp only [List.foldl_cons, List.length_cons]
      omega

/-- Kept pieces add their segments in order. -/
theorem addSegments_of_kept {path : List String} (long : 2 ≤ path.length)
    {pieces : List (List Char)} (kept : ∀ piece ∈ pieces, IsKept piece) :
    addSegments path pieces = path ++ pieces.map encodedSegment := by
  induction pieces generalizing path with
  | nil => simp [addSegments]
  | cons piece pieces induction =>
      have isKept := kept piece List.mem_cons_self
      have restKept := fun other member => kept other (List.mem_cons_of_mem piece member)
      have added : addSegment path piece = path ++ [encodedSegment piece] := by
        rcases addSegment_cases long piece with added | ⟨points, -⟩
        · rw [added, isKept.addedSegment_eq]
        · exact absurd (isKept.keptText_eq ▸ points) isKept.notPoints
      rw [addSegments_eq, counted_cons_of_ne isKept.notPoint isKept.notPoints, List.foldl_cons,
        ← addSegments_eq, added, induction (by simp; omega) restKept]
      simp

/-- A path that grew by as many segments as there are pieces grew by the segments of the
pieces, and no piece was nothing but points. -/
theorem addSegments_of_length {path : List String} (long : 2 ≤ path.length)
    {pieces : List (List Char)}
    (grown : (addSegments path pieces).length = path.length + pieces.length) :
    addSegments path pieces = path ++ pieces.map addedSegment ∧
      ∀ piece ∈ pieces, piece ≠ ['.'] ∧ piece ≠ ['.', '.'] := by
  induction pieces generalizing path with
  | nil => simp [addSegments]
  | cons piece pieces induction =>
      rw [List.length_cons] at grown
      by_cases points : piece = ['.'] ∨ piece = ['.', '.']
      · -- A piece that is left out leaves too few for the others.
        have left : addSegments path (piece :: pieces) = addSegments path pieces := by
          rcases points with rfl | rfl <;> rfl
        have bound := addSegments_length long pieces
        rw [left] at grown
        omega
      · obtain ⟨notPoint, notPoints⟩ := not_or.mp points
        have first : addSegments path (piece :: pieces) =
            addSegments (addSegment path piece) pieces := by
          rw [addSegments_eq, counted_cons_of_ne notPoint notPoints]
          rfl
        have stillLong : 2 ≤ (addSegment path piece).length :=
          long.trans (addSegment_length long piece).1
        have bound := addSegments_length stillLong pieces
        rw [first] at grown ⊢
        rcases addSegment_cases long piece with added | ⟨-, taken⟩
        · have oneMore : (addSegment path piece).length = path.length + 1 := by simp [added]
          obtain ⟨others, noPoints⟩ := induction stillLong (by omega)
          refine ⟨by rw [others, added]; simp, ?_⟩
          intro other member
          rcases List.mem_cons.mp member with rfl | member
          · exact ⟨notPoint, notPoints⟩
          · exact noPoints other member
        · have same : (addSegment path piece).length = path.length := by
            rw [taken, List.length_append, List.length_dropLast, List.length_singleton]
            omega
          omega

/-- A path goes on with one segment for each piece, read back to it, just when every piece
is kept. -/
theorem addSegments_read_iff {path : List String} (long : 2 ≤ path.length)
    {pieces : List (List Char)} :
    (∃ segments, addSegments path pieces = path ++ segments ∧
      segments.map (percentDecode ·.toList) = pieces.map Text.utf8) ↔
      ∀ piece ∈ pieces, IsKept piece := by
  constructor
  · rintro ⟨segments, goesOn, read⟩
    have many : segments.length = pieces.length := by
      simpa using congrArg List.length read
    obtain ⟨others, noPoints⟩ := addSegments_of_length long
      (by rw [goesOn, List.length_append, many])
    rw [others, List.append_cancel_left_eq] at goesOn
    rw [← goesOn, List.map_map, List.map_inj_left] at read
    intro piece member
    obtain ⟨notPoint, notPoints⟩ := noPoints piece member
    exact isKept_of_read notPoint notPoints (read piece member)
  · intro kept
    refine ⟨_, addSegments_of_kept long kept, ?_⟩
    rw [List.map_map]
    exact List.map_congr_left fun piece _ => percentDecode_encodedSegment piece

/-- Paths that go on with the segments of pieces are written alike only if the pieces are the
same between slashes. -/
theorem intercalate_eq_of_join {folder : List String} (inFolder : folder ≠ [])
    {pieces others : List (List Char)} (some : pieces ≠ []) (someOthers : others ≠ [])
    (same : Text.join "/" (folder ++ pieces.map encodedSegment) =
      Text.join "/" (folder ++ others.map encodedSegment)) :
    ['/'].intercalate pieces = ['/'].intercalate others := by
  have written (pieces : List (List Char)) : (Text.join "/" (pieces.map encodedSegment)).toList =
      ['/'].intercalate (pieces.map (percentEncode segmentMarks)) := by
    rw [Text.join_toList, List.map_map]
    exact congrArg _ (List.map_congr_left fun piece _ => String.toList_ofList)
  rw [Text.join_append inFolder (by simpa using some),
    Text.join_append inFolder (by simpa using someOthers)] at same
  have behind := congrArg String.toList same
  simp only [String.toList_append, List.append_cancel_left_eq, written] at behind
  have read := congrArg percentDecode behind
  rwa [percentDecode_intercalate, percentDecode_intercalate, Text.utf8_inj] at read

/-! ## Leaving a path -/

/-- Pieces that lead out of a path: of the first one that counts two points are left. -/
def Climbs (pieces : List (List Char)) : Prop :=
  (counted pieces).head?.map keptText = some ['.', '.']

instance (pieces : List (List Char)) : Decidable (Climbs pieces) :=
  inferInstanceAs (Decidable ((counted pieces).head?.map keptText = some ['.', '.']))

/-- Pieces never reach further back than the last segment, and an empty one stays empty. -/
theorem foldl_addSegment_behind {front : List String} (inFront : front ≠ []) (first : String)
    (more : List String) (pieces : List (List Char)) :
    ∃ next others, pieces.foldl addSegment (front ++ first :: more) = front ++ next :: others ∧
      (first = "" → next = "") := by
  induction pieces generalizing first more with
  | nil => exact ⟨first, more, rfl, id⟩
  | cons piece pieces induction =>
      have long := two_le_length inFront first more
      rw [List.foldl_cons]
      rcases addSegment_cases long piece with added | ⟨-, taken⟩
      · rw [added, List.append_assoc]
        exact induction first (more ++ [addedSegment piece])
      · cases more with
        | nil =>
            rw [taken, List.dropLast_concat]
            obtain ⟨next, others, same, empty⟩ := induction "" []
            exact ⟨next, others, same, fun _ => empty rfl⟩
        | cons second more =>
            have shorter : (front ++ first :: second :: more).dropLast ++ [""] =
                front ++ first :: ((second :: more).dropLast ++ [""]) := by simp
            rw [taken, shorter]
            exact induction first _

/-- A path with further segments starts with the path just when no piece leads out of it. -/
theorem prefix_addSegments_iff {front : List String} {last : String} (inFront : front ≠ [])
    (noDrive : isDrive last = false) (noEmpty : last ≠ "") (pieces : List (List Char)) :
    front ++ [last] <+: addSegments (front ++ [last]) pieces ↔ ¬ Climbs pieces := by
  have long := two_le_length inFront last []
  rw [addSegments_eq, Climbs]
  cases counted pieces with
  | nil => simp
  | cons piece pieces =>
      simp only [List.head?_cons, Option.map_some, Option.some.injEq, List.foldl_cons]
      by_cases points : keptText piece = ['.', '.']
      · obtain ⟨next, others, same, empty⟩ := foldl_addSegment_behind inFront "" [] pieces
        rw [addSegment_points inFront noDrive points, same, empty rfl]
        simp [points, noEmpty]
      · rcases addSegment_cases long piece with added | ⟨taken, -⟩
        · have someFront : front ++ [last] ≠ [] := by simp
          obtain ⟨next, others, same, -⟩ :=
            foldl_addSegment_behind someFront (addedSegment piece) [] pieces
          rw [added, same]
          simp [points]
        · exact absurd taken points

end NodeAdmin.Url
