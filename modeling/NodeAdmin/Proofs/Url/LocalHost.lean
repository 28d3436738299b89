import NodeAdmin.Proofs.Url.Authority
import NodeAdmin.Session.Endpoint

/-!
# Local hosts

The names of the local machine are read as themselves, and an authority that
starts with one of them and has no at sign names no other host.
-/

namespace NodeAdmin.Url

/-- Whether a host is the local machine. -/
def Host.IsLocal (host : Host) : Prop := host.text ∈ Endpoint.localHosts

/-! ## Reading the local names -/

private theorem domain?_of_written {name domain : List Char}
    (plain : ∀ character ∈ name, character.toNat < 128 ∧ character ≠ '%')
    (written : Domain.written? name = some domain) :
    domain? name = .ok domain := by
  rw [domain?, decodeLossy_percentDecode plain, written]

theorem host?_localhost :
    host? "localhost".toList = .ok (.domain "localhost") := by
  have read : domain? "localhost".toList = .ok "localhost".toList :=
    domain?_of_written (Text.forall_mem_of_all (by decide)) rfl
  rw [host?, read]
  · rfl
  · simp
  · simp

theorem host?_loopback :
    host? "127.0.0.1".toList = .ok (.ipv4 2130706433) := by
  have read : domain? "127.0.0.1".toList = .ok "127.0.0.1".toList :=
    domain?_of_written (Text.forall_mem_of_all (by decide)) rfl
  rw [host?, read]
  · rfl
  · simp
  · simp

theorem host?_bracketed :
    host? "[::1]".toList = .ok (.ipv6 [0, 0, 0, 0, 0, 0, 0, 1]) := rfl

private theorem byteNumber?_bracket (rest : List Char) :
    byteNumber? ('1' :: ']' :: rest) = none := by
  simp [byteNumber?]

private theorem embedded?_bracket (rest : List Char) :
    embedded? ('1' :: ']' :: rest) = none := by
  have firstDiffers : '1' ≠ '.' := by decide
  have secondDiffers : ']' ≠ '.' := by decide
  obtain ⟨piece, others, split⟩ :=
    Text.pieces_cons_cons firstDiffers secondDiffers rest
  simp [embedded?, split, byteNumber?_bracket]

private theorem ipv6Piece?_bracket (rest : List Char) :
    ipv6Piece? ('1' :: ']' :: rest) = none := by
  have noNumber : Text.hexNumber? ('1' :: ']' :: rest) = none := rfl
  simp [ipv6Piece?, noNumber]

/-- No group of an IPv6 address holds a bracket. -/
theorem ipv6?_bracket (rest : List Char) : ipv6? ("::1]".toList ++ rest) = none := by
  have cut : cutAtGap ("::1]".toList ++ rest) = some ([], '1' :: ']' :: rest) := rfl
  have firstDiffers : '1' ≠ ':' := by decide
  have secondDiffers : ']' ≠ ':' := by decide
  obtain ⟨piece, others, split⟩ :=
    Text.pieces_cons_cons firstDiffers secondDiffers rest
  have noPieces : ipv6Pieces? (('1' :: ']' :: piece) :: others) = none := by
    cases others with
    | nil => simp [ipv6Pieces?, ipv6Piece?_bracket, embedded?_bracket]
    | cons next others => simp [ipv6Pieces?, ipv6Piece?_bracket]
  rw [ipv6?, cut]
  simp [colonGroups, split, noPieces]

/-! ## Authorities that start with a local name -/

theorem authorityText_append {start : List Char}
    (counted : ∀ character ∈ start,
      isDropped character = false ∧ endsAuthority character = false)
    (rest : List Char) :
    authorityText (start ++ rest) = start ++ authorityText rest := by
  have startKept : start.filter (!isDropped ·) = start := by
    rw [List.filter_eq_self]
    intro character member
    simp [counted character member]
  have startOpen : ∀ character ∈ start, (!endsAuthority character) = true := by
    intro character member
    simp [counted character member]
  rw [authorityText, List.filter_append, startKept,
    List.takeWhile_append_of_pos startOpen, authorityText]

/-- What closes the text of a host closes it in the authority too. -/
theorem authorityText_closed {mark : Char} {tail : List Char}
    (counted : isDropped mark = false ∧ endsAuthority mark = false)
    (closed : ∀ character ∈ tail.head?, character = mark ∨ character = '/') :
    authorityText tail = [] ∨
      ∃ rest, authorityText tail = mark :: rest := by
  cases tail with
  | nil => exact .inl rfl
  | cons character tail =>
      rcases closed character rfl with rfl | rfl
      · refine .inr ⟨authorityText tail, ?_⟩
        simp [authorityText, counted.1, counted.2]
      · exact .inl rfl

theorem cutAfterHost_append {name : List Char}
    (plain : ∀ character ∈ name, character ∉ [':', '[', ']'])
    (inBrackets : Bool) (rest : List Char) :
    (cutAfterHost inBrackets (name ++ rest)).1 =
      name ++ (cutAfterHost inBrackets rest).1 := by
  induction name with
  | nil => rfl
  | cons character name induction =>
      have characterPlain := plain character List.mem_cons_self
      have namePlain := induction fun other member =>
        plain other (List.mem_cons_of_mem _ member)
      simp only [List.mem_cons, List.not_mem_nil, or_false, not_or] at characterPlain
      simp [cutAfterHost, characterPlain, namePlain]

theorem hostText_of_plain_start {name tail : List Char}
    (counted : ∀ character ∈ name,
      isDropped character = false ∧ endsAuthority character = false)
    (plain : ∀ character ∈ name, character ∉ [':', '[', ']'])
    (closed : ∀ character ∈ tail.head?, character = ':' ∨ character = '/')
    (noAt : '@' ∉ authorityText (name ++ tail)) :
    hostText (authorityText (name ++ tail)) = name := by
  rw [hostText_of_no_at noAt, authorityText_append counted, cutAfterHost_append plain]
  rcases authorityText_closed ⟨rfl, rfl⟩ closed with ended | ⟨rest, ended⟩
  · simp [ended, cutAfterHost]
  · simp [ended, cutAfterHost]

/-- Whatever follows the loopback address in brackets, no other host is named. -/
theorem host?_of_bracketed_start {tail : List Char} {host : Host}
    (closed : ∀ character ∈ tail.head?, character = ']' ∨ character = '/')
    (noAt : '@' ∉ authorityText ("[::1".toList ++ tail))
    (read : host? (hostText (authorityText ("[::1".toList ++ tail))) = .ok host) :
    host = .ipv6 [0, 0, 0, 0, 0, 0, 0, 1] := by
  rw [hostText_of_no_at noAt,
    authorityText_append (Text.forall_mem_of_all (by decide))] at read
  rcases authorityText_closed ⟨rfl, rfl⟩ closed with ended | ⟨rest, ended⟩
  · rw [ended] at read
    cases read
  · have cut : (cutAfterHost false ("[::1".toList ++ ']' :: rest)).1 =
        '[' :: ("::1]".toList ++ (cutAfterHost false rest).1) := rfl
    rw [ended, cut] at read
    generalize (cutAfterHost false rest).1 = further at read
    rcases List.eq_nil_or_concat further with rfl | ⟨inner, last, rfl⟩
    · have closedRead : host? ('[' :: ("::1]".toList ++ [])) = _ := host?_bracketed
      rw [closedRead] at read
      cases read
      rfl
    · have refused : bracketed? ("::1]".toList ++ (inner ++ [last])) =
          .error .invalidIpv6 := by
        rw [bracketed?, ← List.append_assoc, List.getLast?_concat,
          List.dropLast_concat, ipv6?_bracket]
        split <;> rfl
      rw [host?, List.concat_eq_append, refused] at read
      cases read

/-! ## What the check of the text finds -/

private theorem takeWhile_takeWhile_split (within counted : Char → Bool)
    (text : List Char) :
    ∃ tail, text = (text.takeWhile within).takeWhile counted ++ tail ∧
      ∀ character ∈ tail.head?,
        counted character = false ∨ within character = false := by
  rw [List.takeWhile_takeWhile]
  refine ⟨_, List.takeWhile_append_dropWhile.symm, ?_⟩
  intro character first
  have stopped := List.head?_dropWhile_not
    (fun character => decide (counted character ∧ within character)) text
  rw [Option.mem_def.mp first] at stopped
  simpa [imp_iff_not_or] using stopped

/-- The check takes a host up to a colon or a slash, or a bracketed one up to its
bracket or a slash. -/
theorem hostOf_split (rest : List Char) :
    (∃ tail, rest = Endpoint.hostOf rest ++ tail ∧
      (Endpoint.hostOf rest).head? ≠ some '[' ∧
      ∀ character ∈ tail.head?, character = ':' ∨ character = '/') ∨
    (∃ inner tail, Endpoint.hostOf rest = inner ++ [']'] ∧
      rest = inner ++ tail ∧ inner.head? = some '[' ∧
      ∀ character ∈ tail.head?, character = ']' ∨ character = '/') := by
  unfold Endpoint.hostOf
  cases authority : rest.takeWhile (· != '/') with
  | nil =>
      obtain ⟨tail, split, closed⟩ :=
        takeWhile_takeWhile_split (· != '/') (· != ':') rest
      refine .inl ⟨tail, ?_, by simp, by simpa using closed⟩
      simpa [authority] using split
  | cons first others =>
      by_cases bracket : first = '['
      · subst first
        obtain ⟨tail, split, closed⟩ :=
          takeWhile_takeWhile_split (· != '/') (· != ']') rest
        rw [authority] at split
        exact .inr ⟨_, tail, rfl, split, by simp, by simpa using closed⟩
      · obtain ⟨tail, split, closed⟩ :=
          takeWhile_takeWhile_split (· != '/') (· != ':') rest
        rw [authority] at split
        refine .inl ⟨tail, ?_, ?_, by simpa using closed⟩
        · simpa [bracket] using split
        · by_cases colon : first = ':'
          · simp [colon]
          · simp [colon, bracket]

/-- A text passes the check when it starts with a local name; the check itself
puts the closing bracket behind the bracketed one. -/
theorem local_start_of_hostOf {rest : List Char}
    (found : String.ofList (Endpoint.hostOf rest) ∈ Endpoint.localHosts) :
    (∃ name tail, (name = "localhost".toList ∨ name = "127.0.0.1".toList) ∧
      rest = name ++ tail ∧
      ∀ character ∈ tail.head?, character = ':' ∨ character = '/') ∨
    (∃ tail, rest = "[::1".toList ++ tail ∧
      ∀ character ∈ tail.head?, character = ']' ∨ character = '/') := by
  have named : Endpoint.hostOf rest = "localhost".toList ∨
      Endpoint.hostOf rest = "127.0.0.1".toList ∨
      Endpoint.hostOf rest = "[::1]".toList := by
    simp only [Endpoint.localHosts, List.mem_cons, List.not_mem_nil, or_false] at found
    rcases found with found | found | found
    · exact .inl (by rw [← found, String.toList_ofList])
    · exact .inr (.inl (by rw [← found, String.toList_ofList]))
    · exact .inr (.inr (by rw [← found, String.toList_ofList]))
  rcases hostOf_split rest with
    ⟨tail, split, noBracket, closed⟩ | ⟨inner, tail, hostSplit, split, bracket, closed⟩
  · rcases named with name | name | name
    · exact .inl ⟨_, tail, .inl name, split, closed⟩
    · exact .inl ⟨_, tail, .inr name, split, closed⟩
    · rw [name] at noBracket
      exact absurd rfl noBracket
  · have start : (Endpoint.hostOf rest).head? = some '[' := by
      rw [hostSplit, List.head?_append, bracket]
      rfl
    rcases named with name | name | name
    · rw [name] at start
      exact absurd start (by decide)
    · rw [name] at start
      exact absurd start (by decide)
    · have closedName : "[::1]".toList = "[::1".toList ++ [']'] := by decide
      rw [name, closedName] at hostSplit
      have innerName := List.append_cancel_right hostSplit
      subst innerName
      exact .inr ⟨tail, split, closed⟩

/-- No text that passes the check starts with a slash or with characters that do
not count. -/
theorem first_of_hostOf {rest : List Char}
    (found : String.ofList (Endpoint.hostOf rest) ∈ Endpoint.localHosts) :
    ∃ first others, rest = first :: others ∧ isOuter first = false ∧
      isSlash first = false := by
  rcases local_start_of_hostOf found with
    ⟨name, tail, rfl | rfl, rfl, _⟩ | ⟨tail, rfl, _⟩
  · exact ⟨'l', _, rfl, rfl, rfl⟩
  · exact ⟨'1', _, rfl, rfl, rfl⟩
  · exact ⟨'[', _, rfl, rfl, rfl⟩

/-- The check is right about every address without an at sign in its authority. -/
theorem isLocal_of_hostOf {rest : List Char} {host : Host}
    (found : String.ofList (Endpoint.hostOf rest) ∈ Endpoint.localHosts)
    (noAt : '@' ∉ authorityText rest)
    (read : host? (hostText (authorityText rest)) = .ok host) :
    host.IsLocal := by
  rcases local_start_of_hostOf found with
    ⟨name, tail, rfl | rfl, rfl, closed⟩ | ⟨tail, rfl, closed⟩
  · rw [hostText_of_plain_start (Text.forall_mem_of_all (by decide))
      (Text.forall_mem_of_all (by decide)) closed noAt,
      host?_localhost] at read
    cases read
    simp [Host.IsLocal, Host.text, Endpoint.localHosts]
  · rw [hostText_of_plain_start (Text.forall_mem_of_all (by decide))
      (Text.forall_mem_of_all (by decide)) closed noAt,
      host?_loopback] at read
    cases read
    have written : Host.text (.ipv4 2130706433) = "127.0.0.1" := by decide
    simp [Host.IsLocal, written, Endpoint.localHosts]
  · have loopback := host?_of_bracketed_start closed noAt read
    have written : Host.text (.ipv6 [0, 0, 0, 0, 0, 0, 0, 1]) = "[::1]" := by decide
    simp [loopback, Host.IsLocal, written, Endpoint.localHosts]

end NodeAdmin.Url

namespace NodeAdmin.Endpoint

/-- The two ways in which an address is accepted. -/
theorem isSafe_cases {address : String} (safe : isSafe address = true) :
    (∃ rest, address.toList = "https://".toList ++ rest) ∨
      ∃ rest, address.toList = "http://".toList ++ rest ∧
        String.ofList (hostOf rest) ∈ localHosts := by
  unfold isSafe at safe
  split at safe
  · rename_i rest secure
    exact .inl ⟨rest, Text.afterStart?_eq_some_iff.mp secure⟩
  · split at safe
    · rename_i rest plain
      exact .inr ⟨rest, Text.afterStart?_eq_some_iff.mp plain, by simpa using safe⟩
    · cases safe

end NodeAdmin.Endpoint
