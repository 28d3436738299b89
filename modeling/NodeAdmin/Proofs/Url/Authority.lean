import NodeAdmin.Proofs.Text.Ascii
import NodeAdmin.Proofs.Text.Ends
import NodeAdmin.Url.Reading

/-!
# The host that an address names

The host of an address is decided by the text between the slashes in front of it
and the first mark that ends the authority.  What stands before the last at sign
of that text is a name and a password and has no say in it.
-/

namespace NodeAdmin.Url

/-- The authority at the front of a text that follows `http://`. -/
def authorityText (text : List Char) : List Char :=
  (text.filter (!isDropped ·)).takeWhile (!endsAuthority ·)

/-- What an authority names its host with. -/
def hostText (authority : List Char) : List Char :=
  (cutAfterHost false ((cutAtLast '@' authority).getD ([], authority)).2).1

theorem hostText_of_no_at {authority : List Char} (noAt : '@' ∉ authority) :
    hostText authority = (cutAfterHost false authority).1 := by
  simp [hostText, cutAtLast, noAt]

theorem authority?_host {scheme : Scheme} {text : List Char}
    {credentials : Option Credentials} {host : Host} {port : Option Nat}
    (read : authority? scheme text = .ok (credentials, host, port)) :
    host? (hostText text) = .ok host := by
  simp only [authority?, bind, Except.bind] at read
  split at read
  · cases read
  · rename_i found hostRead
    split at read
    · cases read
    · simp only [Except.ok.injEq, Prod.mk.injEq] at read
      obtain ⟨_, rfl, _⟩ := read
      exact hostRead

/-- The parts of an address that decide where a request goes. -/
theorem parse_scheme_host {text : String} {url : Url}
    (parsed : parse text = .ok url) :
    ∃ rest, scheme? (relevant text.toList) = .ok (url.scheme, rest) ∧
      host? (hostText ((rest.dropWhile isSlash).takeWhile (!endsAuthority ·))) =
        .ok url.host := by
  simp only [parse, bind, Except.bind] at parsed
  split at parsed
  · cases parsed
  · rename_i schemeAndRest schemeRead
    split at parsed
    · cases parsed
    · rename_i parts authorityRead
      cases parsed
      exact ⟨schemeAndRest.2, schemeRead, authority?_host authorityRead⟩

/-! ## Addresses that start with a scheme -/

private theorem not_isDropped_of_not_isOuter {character : Char}
    (visible : isOuter character = false) : isDropped character = false := by
  simp only [isOuter, decide_eq_false_iff_not, Nat.not_le] at visible
  simp only [isDropped, Bool.or_eq_false_iff, beq_eq_false_iff_ne]
  refine ⟨⟨?_, ?_⟩, ?_⟩ <;> rintro rfl <;> simp at visible

/-- Nothing is lost of a visible start with a slash behind it. -/
theorem relevant_append_slash {start : List Char}
    (visible : ∀ character ∈ start, isOuter character = false) (rest : List Char) :
    relevant (start ++ '/' :: rest) =
      start ++ '/' :: (Text.dropEnd isOuter rest).filter (!isDropped ·) := by
  have startKept : start.filter (!isDropped ·) = start := by
    rw [List.filter_eq_self]
    intro character member
    simp [not_isDropped_of_not_isOuter (visible character member)]
  have nothingInFront :
      (start ++ '/' :: rest).dropWhile isOuter = start ++ '/' :: rest := by
    cases start with
    | nil => rfl
    | cons first start =>
        have firstVisible := visible first List.mem_cons_self
        simp [firstVisible]
  rw [relevant, nothingInFront, Text.dropEnd_append_cons rfl, List.filter_append,
    startKept]
  rfl

theorem scheme?_http (rest : List Char) :
    scheme? ("http:/".toList ++ rest) = .ok (.http, '/' :: rest) := rfl

theorem scheme?_https (rest : List Char) :
    scheme? ("https:/".toList ++ rest) = .ok (.https, '/' :: rest) := rfl

theorem parse_https_scheme {text : String} {url : Url} {rest : List Char}
    (secure : text.toList = "https://".toList ++ rest)
    (parsed : parse text = .ok url) : url.scheme = .https := by
  obtain ⟨remaining, schemeRead, _⟩ := parse_scheme_host parsed
  have split : "https://".toList ++ rest = "https:/".toList ++ '/' :: rest := rfl
  rw [secure, split, relevant_append_slash (Text.forall_mem_of_all (by decide)),
    scheme?_https] at schemeRead
  simp only [Except.ok.injEq, Prod.mk.injEq] at schemeRead
  exact schemeRead.1.symm

theorem takeWhile_append_stop {keep : Char → Bool} {stop : Char}
    (stops : keep stop = false) (text rest : List Char) :
    (text ++ stop :: rest).takeWhile keep = text.takeWhile keep := by
  induction text with
  | nil => simp [stops]
  | cons character text induction =>
      cases kept : keep character <;> simp [kept, induction]

/-- Behind `http://` the authority decides the host, if a slash closes it. -/
theorem parse_http_host {text : String} {url : Url} {first : Char}
    {rest path : List Char} (firstVisible : isOuter first = false)
    (firstNoSlash : isSlash first = false)
    (written : text.toList = "http://".toList ++ (first :: rest ++ '/' :: path))
    (parsed : parse text = .ok url) :
    url.scheme = .http ∧
      host? (hostText (authorityText (first :: rest))) = .ok url.host := by
  obtain ⟨remaining, schemeRead, hostRead⟩ := parse_scheme_host parsed
  have split : "http://".toList ++ (first :: rest ++ '/' :: path) =
      "http:/".toList ++ '/' :: (first :: rest ++ '/' :: path) := rfl
  rw [written, split, relevant_append_slash (Text.forall_mem_of_all (by decide)),
    Text.dropEnd_append_cons rfl, scheme?_http] at schemeRead
  simp only [Except.ok.injEq, Prod.mk.injEq] at schemeRead
  obtain ⟨isHttp, rfl⟩ := schemeRead
  refine ⟨isHttp.symm, ?_⟩
  have firstKept : isDropped first = false :=
    not_isDropped_of_not_isOuter firstVisible
  have slash : isSlash '/' = true ∧ isDropped '/' = false := ⟨rfl, rfl⟩
  have stops : (!endsAuthority '/') = false := rfl
  have counted :
      (('/' :: (first :: rest ++ '/' :: Text.dropEnd isOuter path).filter
        (!isDropped ·)).dropWhile isSlash).takeWhile (!endsAuthority ·) =
        authorityText (first :: rest) := by
    simp only [List.cons_append, List.filter_append, List.filter_cons, firstKept,
      slash.1, slash.2, Bool.not_false, if_true, List.dropWhile_cons, firstNoSlash,
      Bool.false_eq_true, if_false, authorityText]
    exact takeWhile_append_stop stops (first :: rest.filter (!isDropped ·)) _
  rw [← counted]
  exact hostRead

end NodeAdmin.Url
