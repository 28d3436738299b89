import NodeAdmin.Proofs.Url.Plain

/-!
# Paths behind addresses

An address without a query and a fragment that ends in a slash keeps its parts when a path is
written behind it: the segments of the path follow those of the address.
-/

namespace NodeAdmin.Url

/-! ## Paths in parts -/

theorem resolve_cons {rest : List String} (further : rest ≠ []) (closed : List String)
    (segment : String) :
    resolve closed (segment :: rest) = resolve (closeSegment closed segment) rest := by
  cases rest with
  | nil => exact absurd rfl further
  | cons next rest => rfl

/-- All segments but the last ones are closed when the last ones are reached. -/
theorem resolve_append {last : List String} (further : last ≠ []) (closed front : List String) :
    resolve closed (front ++ last) = resolve (front.foldl closeSegment closed) last := by
  induction front generalizing closed with
  | nil => rfl
  | cons segment front induction =>
      rw [List.cons_append, resolve_cons (by simp [further]), induction]
      rfl

/-- A path ends in its last segment, or behind it if the segment was a point or two. -/
theorem endSegment_cases (closed : List String) (segment : String) :
    endSegment closed segment = closeSegment closed segment ∨
      endSegment closed segment = closeSegment closed segment ++ [""] := by
  unfold endSegment closeSegment
  split
  · exact .inr rfl
  · split
    · exact .inr rfl
    · exact .inl rfl

theorem pathPieces_append (front behind : List Char) :
    pathPieces (front ++ '/' :: behind) = pathPieces front ++ pathPieces behind := by
  rw [pathPieces, List.map_append, List.map_cons]
  exact Text.pieces_append '/' _ _

/-- The segments of a text, encoded. -/
def pathSegments (text : List Char) : List String :=
  (pathPieces text).map fun piece => String.ofList (percentEncode pathMarks piece)

theorem pathSegments_ne_nil (text : List Char) : pathSegments text ≠ [] := by
  simp [pathSegments, pathPieces, Text.pieces_ne_nil]

theorem pathSegments_append (front behind : List Char) :
    pathSegments (front ++ '/' :: behind) = pathSegments front ++ pathSegments behind := by
  rw [pathSegments, pathPieces_append, List.map_append]
  rfl

/-- A text that is empty or starts with a slash. -/
def OpensPath (text : List Char) : Prop := ∀ first ∈ text.head?, isSlash first = true

/-- The segments behind the first slash. -/
def laterSegments (text : List Char) : List String := (pathSegments text).drop 1

/-- The closed segments of a text behind which a slash stands. -/
def folderOf (text : List Char) : List String := (laterSegments text).foldl closeSegment []

namespace OpensPath

variable {text : List Char}

theorem pathSegments_eq (opens : OpensPath text) :
    pathSegments text = "" :: laterSegments text := by
  cases text with
  | nil => rfl
  | cons first rest =>
      have slash := opens first rfl
      have turned : (if first = '\\' then '/' else first) = '/' := by
        simp only [isSlash, Bool.or_eq_true, beq_iff_eq] at slash
        rcases slash with rfl | rfl <;> rfl
      have cut : pathPieces (first :: rest) = [] :: pathPieces rest := by
        rw [pathPieces, List.map_cons, turned]
        rfl
      rw [laterSegments, pathSegments, cut]
      rfl

theorem pathOfText_of_nil (opens : OpensPath text) (none : laterSegments text = []) :
    pathOfText text = [""] := by
  have segments := opens.pathSegments_eq
  rw [none, pathSegments] at segments
  simp [pathOfText, segments, resolve, endSegment, isDoublePoint, isSinglePoint]

theorem pathOfText_of_ne_nil (opens : OpensPath text) (some : laterSegments text ≠ []) :
    pathOfText text = resolve [] (laterSegments text) := by
  have segments := opens.pathSegments_eq
  cases later : laterSegments text with
  | nil => exact absurd later some
  | cons segment rest =>
      rw [later, pathSegments] at segments
      simp [pathOfText, segments]

theorem pathOfText_append (opens : OpensPath text) (tail : List Char) :
    pathOfText (text ++ '/' :: tail) = resolve (folderOf text) (pathSegments tail) := by
  have stillOpens : OpensPath (text ++ '/' :: tail) := by
    cases text with
    | nil => simp [OpensPath, isSlash]
    | cons first rest => exact opens
  have later : laterSegments (text ++ '/' :: tail) =
      laterSegments text ++ pathSegments tail := by
    rw [laterSegments, pathSegments_append, opens.pathSegments_eq]
    rfl
  rw [stillOpens.pathOfText_of_ne_nil (by simp [later, pathSegments_ne_nil]), later,
    resolve_append (pathSegments_ne_nil tail)]
  rfl

/-- A slash closes the last segment of a path, or leaves the path as it is. -/
theorem pathOfText_slash (opens : OpensPath text) :
    pathOfText (text ++ ['/']) = pathOfText text ++ [""] ∨
      pathOfText (text ++ ['/']) = pathOfText text := by
  have closed : pathOfText (text ++ ['/']) = folderOf text ++ [""] := opens.pathOfText_append []
  rcases List.eq_nil_or_concat (laterSegments text) with none | ⟨front, last, some⟩
  · right
    rw [closed, opens.pathOfText_of_nil none, folderOf, none]
    rfl
  · have further : [last] ≠ [] := by simp
    rw [closed, opens.pathOfText_of_ne_nil (by simp [some]), folderOf, some,
      List.concat_eq_append, resolve_append further, List.foldl_append]
    rcases endSegment_cases (front.foldl closeSegment []) last with same | more
    · exact .inl (congrArg (· ++ [""]) same.symm)
    · exact .inr more.symm

end OpensPath

/-! ## Addresses in parts -/

/-- The authority behind a scheme. -/
def authorityOf (rest : List Char) : List Char :=
  (rest.dropWhile isSlash).takeWhile (!endsAuthority ·)

/-- What follows the authority behind a scheme. -/
def behindAuthority (rest : List Char) : List Char :=
  (rest.dropWhile isSlash).dropWhile (!endsAuthority ·)

/-- Whether an address is read of characters that end with its path, `rest` of which follow
the scheme. -/
structure EndsInPath (counting rest : List Char) (url : Url) : Prop where
  scheme : scheme? counting = .ok (url.scheme, rest)
  authority : authority? url.scheme (authorityOf rest) =
    .ok (url.credentials, url.host, url.port)
  noQueryMark : '?' ∉ behindAuthority rest
  noFragmentMark : '#' ∉ behindAuthority rest
  path : url.path = pathOfText (behindAuthority rest)
  noQuery : url.query = none
  noFragment : url.fragment = none

theorem cutAt_snd_eq_none_iff {mark : Char} {text : List Char} :
    (cutAt mark text).2 = none ↔ mark ∉ text := by
  refine ⟨?_, fun absent => by rw [cutAt_of_not_mem absent]⟩
  intro uncut member
  unfold cutAt at uncut
  split at uncut
  · rename_i nothing
    rw [List.dropWhile_eq_nil_iff] at nothing
    simpa using nothing mark member
  · cases uncut

theorem parse_endsInPath_iff {text : String} {url : Url} :
    (parse text = .ok url ∧ url.query = none ∧ url.fragment = none) ↔
      ∃ rest, EndsInPath (relevant text.toList) rest url := by
  constructor
  · rintro ⟨parsed, noQuery, noFragment⟩
    simp only [parse, bind, Except.bind] at parsed
    split at parsed
    · cases parsed
    · rename_i parts schemeRead
      split at parsed
      · cases parsed
      · rename_i authority authorityRead
        cases parsed
        simp only [Option.map_eq_none_iff, cutAt_snd_eq_none_iff] at noQuery noFragment
        rw [cutAt_of_not_mem noFragment] at noQuery
        refine ⟨parts.2, schemeRead, authorityRead, noQuery, noFragment, ?_, ?_, ?_⟩
        · simp only [cutAt_of_not_mem noFragment, cutAt_of_not_mem noQuery]
          rfl
        · simp only [cutAt_of_not_mem noFragment, cutAt_of_not_mem noQuery, Option.map_none]
        · simp only [cutAt_of_not_mem noFragment, Option.map_none]
  · rintro ⟨rest, ends⟩
    refine ⟨?_, ends.noQuery, ends.noFragment⟩
    have authorityRead := ends.authority
    unfold authorityOf at authorityRead
    have noQueryMark := cutAt_of_not_mem ends.noQueryMark
    have noFragmentMark := cutAt_of_not_mem ends.noFragmentMark
    unfold behindAuthority at noQueryMark noFragmentMark
    simp only [parse, bind, Except.bind, ends.scheme, authorityRead, noFragmentMark, noQueryMark,
      Option.map_none]
    obtain ⟨scheme, credentials, host, port, path, query, fragment⟩ := url
    cases ends.noQuery
    cases ends.noFragment
    cases ends.path
    rfl

/-! ### Schemes -/

theorem scheme?_of_no_colon {text : List Char} (noColon : ':' ∉ text) :
    scheme? text = .error .relative := by
  have nothing : text.dropWhile (· != ':') = [] := by
    rw [List.dropWhile_eq_nil_iff]
    intro character member
    simpa using fun same : character = ':' => noColon (same ▸ member)
  simp [scheme?, nothing]

theorem scheme?_colon {name : List Char} (noColon : ':' ∉ name) (behind : List Char) :
    scheme? (name ++ ':' :: behind) =
      if name.map Char.toLower = "http".toList then .ok (.http, behind)
      else if name.map Char.toLower = "https".toList then .ok (.https, behind)
      else .error .relative := by
  have inName : ∀ character ∈ name, (character != ':') = true := by
    intro character member
    simpa using fun same : character = ':' => noColon (same ▸ member)
  simp [scheme?, List.takeWhile_append_of_pos inName, List.dropWhile_append_of_pos inName]

theorem scheme?_append {text rest : List Char} {scheme : Scheme}
    (read : scheme? text = .ok (scheme, rest)) (more : List Char) :
    scheme? (text ++ more) = .ok (scheme, rest ++ more) := by
  by_cases colon : ':' ∈ text
  · obtain ⟨name, behind, rfl, noColon⟩ := List.eq_append_cons_of_mem colon
    rw [scheme?_colon noColon] at read
    rw [List.append_assoc, List.cons_append, scheme?_colon noColon]
    split_ifs at read ⊢ <;> simp_all
  · simp [scheme?_of_no_colon colon] at read

/-- A scheme is read of what stands in front of a text without a colon. -/
theorem scheme?_front {text more rest : List Char} {scheme : Scheme} (noColon : ':' ∉ more)
    (read : scheme? (text ++ more) = .ok (scheme, rest)) :
    ∃ shorter, rest = shorter ++ more ∧ scheme? text = .ok (scheme, shorter) := by
  by_cases colon : ':' ∈ text
  · obtain ⟨name, behind, rfl, noColon⟩ := List.eq_append_cons_of_mem colon
    rw [List.append_assoc, List.cons_append, scheme?_colon noColon] at read
    refine ⟨behind, ?_⟩
    rw [scheme?_colon noColon]
    split_ifs at read ⊢ <;> simp_all
  · rw [scheme?_of_no_colon (by simp [colon, noColon])] at read
    cases read

/-! ### Slashes behind addresses -/

theorem authority?_nil (scheme : Scheme) : authority? scheme [] = .error .emptyHost := rfl

/-- The authority does not change when a slash is written behind it. -/
theorem authorityOf_append {rest : List Char} (some : rest.dropWhile isSlash ≠ [])
    (tail : List Char) :
    authorityOf (rest ++ '/' :: tail) = authorityOf rest ∧
      behindAuthority (rest ++ '/' :: tail) = behindAuthority rest ++ '/' :: tail := by
  have shown : (rest ++ '/' :: tail).dropWhile isSlash =
      rest.dropWhile isSlash ++ '/' :: tail := by
    rw [List.dropWhile_append, if_neg (by simpa using some)]
  have stops : (!endsAuthority '/') = false := rfl
  refine ⟨?_, ?_⟩
  · rw [authorityOf, authorityOf, shown, takeWhile_append_stop stops]
  · rw [behindAuthority, behindAuthority, shown, List.dropWhile_append]
    split
    · rename_i nothing
      rw [List.isEmpty_iff.mp nothing]
      simp [stops]
    · rfl

theorem EndsInPath.some_authority {counting rest : List Char} {url : Url}
    (ends : EndsInPath counting rest url) : rest.dropWhile isSlash ≠ [] := by
  intro none
  have read := ends.authority
  rw [authorityOf, none, List.takeWhile_nil, authority?_nil] at read
  cases read

theorem EndsInPath.opensPath {counting rest : List Char} {url : Url}
    (ends : EndsInPath counting rest url) : OpensPath (behindAuthority rest) := by
  intro first isFirst
  have noQueryMark : first ≠ '?' := by
    rintro rfl
    exact ends.noQueryMark (List.mem_of_mem_head? isFirst)
  have noFragmentMark : first ≠ '#' := by
    rintro rfl
    exact ends.noFragmentMark (List.mem_of_mem_head? isFirst)
  have stops := List.head?_dropWhile_not (!endsAuthority ·) (rest.dropWhile isSlash)
  rw [behindAuthority] at isFirst
  rw [isFirst] at stops
  simpa [endsAuthority, noQueryMark, noFragmentMark] using stops

/-- An address keeps its parts when a slash and more are written behind it. -/
theorem EndsInPath.append {counting rest : List Char} {url : Url}
    (ends : EndsInPath counting rest url) {tail : List Char} (noQuery : '?' ∉ tail)
    (noFragment : '#' ∉ tail) :
    EndsInPath (counting ++ '/' :: tail) (rest ++ '/' :: tail)
      { url with path := pathOfText (behindAuthority rest ++ '/' :: tail) } := by
  obtain ⟨sameAuthority, behind⟩ := authorityOf_append ends.some_authority tail
  constructor
  · exact scheme?_append ends.scheme _
  · rw [sameAuthority]
    exact ends.authority
  · simp [behind, ends.noQueryMark, noQuery]
  · simp [behind, ends.noFragmentMark, noFragment]
  · rw [behind]
  · exact ends.noQuery
  · exact ends.noFragment

/-- An address that a slash ends is one without the slash. -/
theorem EndsInPath.front {counting rest : List Char} {url : Url}
    (ends : EndsInPath (counting ++ ['/']) rest url) :
    ∃ shorter, rest = shorter ++ ['/'] ∧
      EndsInPath counting shorter { url with path := pathOfText (behindAuthority shorter) } := by
  obtain ⟨shorter, rfl, schemeRead⟩ := scheme?_front (by decide) ends.scheme
  have some : shorter.dropWhile isSlash ≠ [] := by
    intro none
    apply ends.some_authority
    rw [List.dropWhile_append, none]
    rfl
  obtain ⟨sameAuthority, behind⟩ := authorityOf_append some []
  have noQueryMark := ends.noQueryMark
  have noFragmentMark := ends.noFragmentMark
  have authorityRead := ends.authority
  rw [behind] at noQueryMark noFragmentMark
  rw [sameAuthority] at authorityRead
  refine ⟨shorter, rfl, schemeRead, authorityRead, ?_, ?_, rfl, ends.noQuery, ends.noFragment⟩
  · exact fun member => noQueryMark (List.mem_append_left _ member)
  · exact fun member => noFragmentMark (List.mem_append_left _ member)

/-! ### Texts behind addresses -/

/-- What counts of an address behind which a slash stands. -/
def relevantFront (address : List Char) : List Char :=
  (address.dropWhile isOuter).filter (!isDropped ·)

/-- A text that can stand behind an address and is all path there. -/
structure IsPathTail (tail : List Char) : Prop where
  counts : (Text.dropEnd isOuter tail).filter (!isDropped ·) = tail
  noQueryMark : '?' ∉ tail
  noFragmentMark : '#' ∉ tail

theorem relevant_append_tail {tail : List Char} (isTail : IsPathTail tail)
    (address : List Char) :
    relevant (address ++ '/' :: tail) = relevantFront address ++ '/' :: tail := by
  have shown : (address ++ '/' :: tail).dropWhile isOuter =
      address.dropWhile isOuter ++ '/' :: tail := by
    rw [List.dropWhile_append]
    split
    · rename_i nothing
      rw [List.isEmpty_iff.mp nothing]
      rfl
    · rfl
  rw [relevant, shown, Text.dropEnd_append_cons rfl, List.filter_append, List.filter_cons,
    isTail.counts]
  rfl

/-- Nothing at the end of an address is left out if its last character is visible. -/
theorem relevant_of_visible {address : List Char}
    (visible : ∀ last ∈ address.getLast?, isOuter last = false) :
    relevant address = relevantFront address := by
  rcases List.eq_nil_or_concat address with rfl | ⟨front, last, rfl⟩
  · rfl
  · have lastVisible : isOuter last = false := visible last (by simp)
    have shown : (front ++ [last]).dropWhile isOuter = front.dropWhile isOuter ++ [last] := by
      rw [List.dropWhile_append]
      split
      · rename_i nothing
        rw [List.isEmpty_iff.mp nothing, List.dropWhile_cons, lastVisible]
        rfl
      · rfl
    rw [List.concat_eq_append, relevant, relevantFront, shown,
      Text.dropEnd_append_cons lastVisible]
    rfl

section

variable {address rooted joined : String} {root url : Url} {tail : List Char}

/-- A path behind an address that a slash ends follows the path of the address. -/
theorem parse_joined (rootWritten : rooted.toList = address.toList ++ ['/'])
    (written : joined.toList = address.toList ++ '/' :: tail) (isTail : IsPathTail tail)
    (located : parse rooted = .ok root) (noQuery : root.query = none)
    (noFragment : root.fragment = none) :
    ∃ folder, root.path = folder ++ [""] ∧
      parse joined = .ok { root with path := resolve folder (pathSegments tail) } := by
  obtain ⟨rest, rootEnds⟩ := parse_endsInPath_iff.mp ⟨located, noQuery, noFragment⟩
  rw [rootWritten, relevant_append_tail ⟨rfl, by simp, by simp⟩] at rootEnds
  obtain ⟨shorter, rfl, ends⟩ := rootEnds.front
  have sameFolder : root.path = folderOf (behindAuthority shorter) ++ [""] := by
    rw [rootEnds.path, (authorityOf_append ends.some_authority []).2]
    exact ends.opensPath.pathOfText_append []
  have joinedEnds := ends.append isTail.noQueryMark isTail.noFragmentMark
  rw [← relevant_append_tail isTail, ← written, ends.opensPath.pathOfText_append] at joinedEnds
  exact ⟨_, sameFolder, (parse_endsInPath_iff.mpr ⟨_, joinedEnds⟩).1⟩

/-- An address without marks behind its path keeps its parts when a slash ends it, and the
slash ends its path. -/
theorem parse_with_slash (rootWritten : rooted.toList = address.toList ++ ['/'])
    (visible : ∀ last ∈ address.toList.getLast?, isOuter last = false)
    (located : parse address = .ok url) (noQuery : url.query = none)
    (noFragment : url.fragment = none) :
    ∃ path, parse rooted = .ok { url with path := path } ∧
      (path = url.path ++ [""] ∨ path = url.path) := by
  obtain ⟨rest, ends⟩ := parse_endsInPath_iff.mp ⟨located, noQuery, noFragment⟩
  rw [relevant_of_visible visible] at ends
  have rootEnds := ends.append List.not_mem_nil List.not_mem_nil
  rw [← relevant_append_tail ⟨rfl, by simp, by simp⟩, ← rootWritten] at rootEnds
  refine ⟨_, (parse_endsInPath_iff.mpr ⟨_, rootEnds⟩).1, ?_⟩
  rw [ends.path]
  exact ends.opensPath.pathOfText_slash

end

end NodeAdmin.Url
