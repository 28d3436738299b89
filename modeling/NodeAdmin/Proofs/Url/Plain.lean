import NodeAdmin.Proofs.Url.LocalHost

/-!
# Plain addresses

A plain address names no user and has neither a query nor a fragment.  A path behind
a plain address is read to the path of an address, so that nothing but the call
decides the headers and the query of its request.
-/

namespace NodeAdmin.Url

/-- What stands in front of the host in an authority. -/
def userText (authority : List Char) : List Char :=
  ((cutAtLast '@' authority).getD ([], authority)).1

/-- The authority of a text that follows a scheme and two slashes, and perhaps further
slashes. -/
def authorityBehindSlashes (text : List Char) : List Char :=
  ((text.filter (!isDropped ·)).dropWhile isSlash).takeWhile (!endsAuthority ·)

/-- An address without a name, a password, a query and a fragment. -/
structure IsPlain (address : String) : Prop where
  noUser : ∀ start ∈ ["https://", "http://"], ∀ rest,
    address.toList = start.toList ++ rest →
      credentialsOf (userText (authorityBehindSlashes rest)) = none
  noQuery : '?' ∉ address.toList
  noFragment : '#' ∉ address.toList

/-- Whether an address that was read has neither a user nor anything behind its path. -/
structure IsBare (url : Url) : Prop where
  noCredentials : url.credentials = none
  noQuery : url.query = none
  noFragment : url.fragment = none

/-! ## Queries -/

/-- Letters and digits stand for themselves in a form value. -/
theorem formEncode_of_alphanumeric {text : List Char}
    (plain : ∀ character ∈ text, character.isAlphanum = true) : formEncode text = text := by
  induction text with
  | nil => rfl
  | cons character rest induction =>
      have here := plain character List.mem_cons_self
      have further := induction fun other member => plain other (List.mem_cons_of_mem _ member)
      rw [formEncode] at further ⊢
      rw [List.flatMap_cons, further, here]
      rfl

theorem IsBare.without_query {url : Url} (bare : url.IsBare) :
    { url with query := none } = url := by
  obtain ⟨scheme, credentials, host, port, path, query, fragment⟩ := url
  cases bare.noQuery
  rfl

theorem IsBare.addQuery_nil {url : Url} (bare : url.IsBare) :
    url.addQuery [] = { url with query := none } := by
  simp [Url.addQuery, bare.noQuery]

/-- Form values behind a bare address are its query. -/
theorem IsBare.addQuery_cons {url : Url} (bare : url.IsBare) (value : String × String)
    (values : List (String × String)) :
    url.addQuery (value :: values) =
      { url with query := some (Text.join "&" ((value :: values).map fun pair =>
        String.ofList (formEncode pair.1.toList ++ '=' :: formEncode pair.2.toList))) } := by
  simp [Url.addQuery, bare.noQuery]

/-! ## Reading a plain address -/

theorem userText_of_no_at {authority : List Char} (noAt : '@' ∉ authority) :
    userText authority = [] := by
  simp [userText, cutAtLast, noAt]

theorem authority?_credentials {scheme : Scheme} {text : List Char}
    {credentials : Option Credentials} {host : Host} {port : Option Nat}
    (read : authority? scheme text = .ok (credentials, host, port)) :
    credentials = credentialsOf (userText text) := by
  simp only [authority?, bind, Except.bind] at read
  split at read
  · cases read
  · split at read
    · cases read
    · simp only [Except.ok.injEq, Prod.mk.injEq] at read
      exact read.1.symm

theorem cutAt_of_not_mem {mark : Char} {text : List Char} (absent : mark ∉ text) :
    cutAt mark text = (text, none) := by
  have nothing : text.dropWhile (· != mark) = [] := by
    rw [List.dropWhile_eq_nil_iff]
    intro character member
    have other : character ≠ mark := by
      rintro rfl
      exact absent member
    simpa using other
  simp [cutAt, nothing]

/-- What is read of a text without a user and without marks behind the path is bare. -/
theorem parse_bare {text : String} {url : Url} {scheme : Scheme} {rest : List Char}
    (schemeRead : scheme? (relevant text.toList) = .ok (scheme, rest))
    (noUser : credentialsOf
      (userText ((rest.dropWhile isSlash).takeWhile (!endsAuthority ·))) = none)
    (noQuery : '?' ∉ rest) (noFragment : '#' ∉ rest) (parsed : parse text = .ok url) :
    url.IsBare := by
  have suffix : (rest.dropWhile isSlash).dropWhile (!endsAuthority ·) <:+ rest :=
    (List.dropWhile_suffix _).trans (List.dropWhile_suffix _)
  have uncutFragment := cutAt_of_not_mem fun member => noFragment (suffix.mem member)
  have uncutQuery := cutAt_of_not_mem fun member => noQuery (suffix.mem member)
  simp only [parse, bind, Except.bind, schemeRead] at parsed
  split at parsed
  · cases parsed
  · rename_i parts authorityRead
    cases parsed
    refine ⟨?_, ?_, ?_⟩
    · exact (authority?_credentials authorityRead).trans noUser
    · simp only [uncutFragment, uncutQuery, Option.map_none]
    · simp only [uncutFragment, Option.map_none]

/-- The authority in front of a path is that of the address, or stands in the path if
the address has none. -/
theorem userText_authority_append {rest path : List Char} (noAt : '@' ∉ path)
    (noUser : credentialsOf (userText
      ((rest.dropWhile isSlash).takeWhile (!endsAuthority ·))) = none) :
    credentialsOf (userText (((rest ++ '/' :: path).dropWhile isSlash).takeWhile
      (!endsAuthority ·))) = none := by
  rw [List.dropWhile_append]
  split
  · -- Nothing but slashes: the authority is the start of the path.
    have prefixed : (('/' :: path).dropWhile isSlash).takeWhile (!endsAuthority ·) ⊆
        '/' :: path := fun character member =>
      (List.dropWhile_suffix _).mem ((List.takeWhile_prefix _).mem member)
    rw [userText_of_no_at]
    · rfl
    · intro member
      rcases List.mem_cons.mp (prefixed member) with slash | inPath
      · cases slash
      · exact noAt inPath
  · rw [takeWhile_append_stop rfl]
    exact noUser

/-- What counts of an address with a path behind it, after a scheme and one slash. -/
theorem relevant_append_path {start : List Char}
    (visible : ∀ character ∈ start, isOuter character = false) (rest path : List Char) :
    relevant (start ++ '/' :: rest ++ '/' :: path) =
      start ++ '/' :: (rest.filter (!isDropped ·) ++
        '/' :: (Text.dropEnd isOuter path).filter (!isDropped ·)) := by
  rw [List.append_assoc, List.cons_append, relevant_append_slash visible,
    Text.dropEnd_append_cons rfl, List.filter_append]
  rfl

section

variable {address text : String} {path : List Char} {url : Url}

/-- A plain address of one scheme with a path behind it. -/
theorem IsPlain.isBare_behind (plain : IsPlain address) (start : String) {scheme : Scheme}
    {rest : List Char} (known : start ++ "/" ∈ ["https://", "http://"])
    (visible : ∀ character ∈ start.toList, isOuter character = false)
    (schemeOf : ∀ behind, scheme? (start.toList ++ behind) = .ok (scheme, '/' :: behind))
    (split : address.toList = (start ++ "/").toList ++ rest)
    (written : text.toList = address.toList ++ '/' :: path)
    (plainPath : ∀ mark ∈ ['@', '?', '#'], mark ∉ path)
    (parsed : parse text = .ok url) : url.IsBare := by
  let kept := rest.filter (!isDropped ·)
  let tail := (Text.dropEnd isOuter path).filter (!isDropped ·)
  have shown : text.toList = start.toList ++ '/' :: rest ++ '/' :: path := by
    rw [written, split]
    simp
  have schemeRead : scheme? (relevant text.toList) =
      .ok (scheme, '/' :: '/' :: (kept ++ '/' :: tail)) := by
    rw [shown, relevant_append_path visible, schemeOf]
  have inPath {character : Char} (member : character ∈ tail) : character ∈ path :=
    Text.mem_of_mem_dropEnd (List.mem_filter.mp member).1
  have inAddress {character : Char} (member : character ∈ kept) :
      character ∈ address.toList := by
    rw [split]
    exact List.mem_append_right _ (List.mem_filter.mp member).1
  have absent {mark : Char} (notSlash : mark ≠ '/') (among : mark ∈ ['@', '?', '#'])
      (notInAddress : mark ∉ address.toList) :
      mark ∉ '/' :: '/' :: (kept ++ '/' :: tail) := by
    have notInKept : mark ∉ kept := fun member => notInAddress (inAddress member)
    have notInTail : mark ∉ tail := fun member => plainPath mark among (inPath member)
    simp [notSlash, notInKept, notInTail]
  have noUser := userText_authority_append
    (fun member => plainPath '@' (by simp) (inPath member))
    (plain.noUser (start ++ "/") known rest split)
  exact parse_bare schemeRead noUser
    (absent (by decide) (by simp) plain.noQuery)
    (absent (by decide) (by simp) plain.noFragment) parsed

/-- A plain address with a path behind it is read to an address without a user, a query
and a fragment. -/
theorem IsPlain.isBare_of_parse (plain : IsPlain address)
    (safe : Endpoint.isSafe address = true)
    (written : text.toList = address.toList ++ '/' :: path)
    (plainPath : ∀ mark ∈ ['@', '?', '#'], mark ∉ path)
    (parsed : parse text = .ok url) : url.IsBare := by
  rcases Endpoint.isSafe_cases safe with ⟨rest, secure⟩ | ⟨rest, unencrypted, -⟩
  · exact plain.isBare_behind "https:/" (by simp) (Text.forall_mem_of_all (by decide))
      scheme?_https secure written plainPath parsed
  · exact plain.isBare_behind "http:/" (by simp) (Text.forall_mem_of_all (by decide))
      scheme?_http unencrypted written plainPath parsed

end

end NodeAdmin.Url
