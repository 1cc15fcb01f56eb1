import BuildNotices.Proofs.Url.Authority
/-!
Texts that name the scheme and the host of a URL.

The scheme of a URL that was read is the text in front of the first colon, in lower case, and its
host is the one that stands in the text at the place where its scheme has it. Main statement:
`parse_isWrittenIn`.
-/

namespace BuildNotices
namespace Url

open Text

/-! ### Hosts of files -/

def isAnySlash (c : Char) : Bool :=
  c = '/' || c = '\\'

def fileHostName (chars : List Char) : List Char :=
  chars.takeWhile fun c => !(isAnySlash c || endsPath c)

/-- A path begins with the name of a drive. -/
def StartsWithDrive (path : Path) : Prop :=
  ∃ drive rest, path = .segments (drive :: rest) ∧ isDriveName drive.toList = true

/-- The host of a file URL is the one whose name stands between two slashes and the path. A file
without these slashes or on a drive has none. -/
inductive IsFileHost (path : Path) : (chars : List Char) → Host → Prop where
  | named {first second : Char} {chars : List Char} {host : Host}
      (slashes : (isAnySlash first && isAnySlash second) = true)
      (read : readFileHost (fileHostName chars) = .ok host) :
      IsFileHost path (first :: second :: chars) host
  | driveName {first second : Char} {chars : List Char}
      (slashes : (isAnySlash first && isAnySlash second) = true)
      (name : isDriveName (fileHostName chars) = true) :
      IsFileHost path (first :: second :: chars) (.name "")
  | onDrive {chars : List Char} (drive : StartsWithDrive path) :
      IsFileHost path chars (.name "")
  | slashless {chars : List Char}
      (slashless : ∀ first second rest, chars = first :: second :: rest →
        (isAnySlash first && isAnySlash second) = false) :
      IsFileHost path chars (.name "")

/-! ### Schemes and hosts -/

/-- The host of a URL is the one that the text behind the colon of its scheme names, if it names
one. In an address of the web any number of slashes and backslashes stands in front of it, and the
name means a domain. -/
inductive HasWrittenHost (url : Url) : (chars : List Char) → Prop where
  | web {slashes chars name : List Char} {authority : Authority}
      (special : isSpecialScheme url.scheme = true) (noFile : isFileScheme url.scheme = false)
      (leading : ∀ c ∈ slashes, isAnySlash c = true)
      (first : ∀ c, chars.head? = some c → isAnySlash c = false)
      (given : url.authority = some authority) (named : NamesHost true chars name)
      (read : readDomainHost name = .ok authority.host) : HasWrittenHost url (slashes ++ chars)
  | file {chars : List Char} {host : Host} (isFile : isFileScheme url.scheme = true)
      (given : url.authority = some { host }) (written : IsFileHost url.path chars host) :
      HasWrittenHost url chars
  | plain {chars name : List Char} {authority : Authority}
      (unknown : isSpecialScheme url.scheme = false)
      (given : url.authority = some authority) (named : NamesHost false chars name)
      (read : readPlainHost name = .ok authority.host) : HasWrittenHost url ('/' :: '/' :: chars)
  | hostless {chars : List Char} (unknown : isSpecialScheme url.scheme = false)
      (slashless : ¬ ['/', '/'] <+: chars) (given : url.authority = none) :
      HasWrittenHost url chars

/-- The scheme of a URL is the text in front of the first colon, in lower case, and its host is the
one named behind it. -/
def IsWrittenIn (url : Url) (chars : List Char) : Prop :=
  ∃ written rest, chars = written ++ ':' :: rest ∧ ':' ∉ written ∧
    url.scheme = String.ofList (written.map Char.toLower) ∧ url.HasWrittenHost rest

theorem IsWrittenIn.scheme_eq {url : Url} {written rest : List Char}
    (inText : url.IsWrittenIn (written ++ ':' :: rest)) (colonless : ':' ∉ written) :
    url.scheme = String.ofList (written.map Char.toLower) := by
  obtain ⟨found, behind, parts, absent, same, _⟩ := inText
  have sameRun := (span_ne behind absent).1
  rw [← parts, (span_ne rest colonless).1] at sameRun
  rw [same, sameRun]

theorem readFile_hasWrittenHost (chars : List Char) :
    Gives (fun url => url.scheme = "file" ∧ url.HasWrittenHost chars) (readFile chars) := by
  unfold readFile
  extract_lets isSlash ofPath
  -- On a drive the host that was read is dropped.
  have kept {host : Host} (rest : List Char) (written : ∀ path, IsFileHost path chars host) :
      (ofPath host rest).scheme = "file" ∧ (ofPath host rest).HasWrittenHost chars := by
    unfold ofPath
    extract_lets path segments shown url
    refine ⟨rfl, .file rfl rfl ?_⟩
    change IsFileHost (.segments segments) chars shown
    unfold shown
    split
    next drive =>
      refine .onDrive ?_
      cases listed : segments with
      | nil =>
          rw [listed] at drive
          cases drive
      | cons first others =>
          rw [listed] at drive
          exact ⟨first, others, rfl, drive⟩
    next => exact written _
  split
  next first second rest =>
    split
    next slashes =>
      extract_lets hostChars
      split
      next name => exact Gives.pure (kept _ fun _ => .driveName slashes name)
      next => exact Gives.bind fun host read => Gives.pure (kept _ fun _ => .named slashes read)
    next other =>
      refine Gives.pure (kept _ fun _ => .slashless fun first' second' rest' same => ?_)
      cases same
      exact Bool.eq_false_iff.mpr other
  next other =>
    exact Gives.pure (kept _ fun _ => .slashless fun first second rest same =>
      absurd same (other first second rest))

theorem readPlain_hasWrittenHost {scheme : String} (unknown : isSpecialScheme scheme = false)
    (chars : List Char) :
    Gives (fun url => url.scheme = scheme ∧ url.HasWrittenHost chars) (readPlain scheme chars) := by
  unfold readPlain
  split
  next rest =>
    intro url read
    obtain ⟨sameScheme, ⟨authority, name, given, named, host⟩, _⟩ :=
      readAuthority_isReadFrom scheme rest url read
    rw [unknown] at named host
    exact ⟨sameScheme, .plain (sameScheme ▸ unknown) given named host⟩
  next other =>
    extract_lets path kept url
    refine Gives.pure ⟨rfl, .hostless unknown ?_ rfl⟩
    rintro ⟨rest, same⟩
    exact other rest same.symm

theorem readWeb_hasWrittenHost {scheme : String} (special : isSpecialScheme scheme = true)
    (noFile : isFileScheme scheme = false) (chars : List Char) :
    Gives (fun url => url.scheme = scheme ∧ url.HasWrittenHost chars)
      (readAuthority scheme (chars.dropWhile isAnySlash)) := by
  intro url read
  obtain ⟨sameScheme, ⟨authority, name, given, named, host⟩, _⟩ :=
    readAuthority_isReadFrom scheme _ url read
  rw [special] at named host
  refine ⟨sameScheme, ?_⟩
  rw [← List.takeWhile_append_dropWhile (p := isAnySlash) (l := chars)]
  refine .web (sameScheme ▸ special) (sameScheme ▸ noFile) ?_ ?_ given named host
  · exact fun c member => List.mem_takeWhile_imp member
  · intro c first
    have refused := List.head?_dropWhile_not isAnySlash chars
    rw [first] at refused
    exact refused

/-- Scheme and host of a URL that was read are those that its text names. -/
theorem parse_isWrittenIn (text : String) :
    Gives (fun url => url.IsWrittenIn (significant text)) (parse text) := by
  unfold parse
  split
  next => exact fun url impossible => nomatch impossible
  next scheme rest cut =>
    obtain ⟨written, parts, colonless, lower⟩ := splitScheme?_eq_some cut
    have placed {computation : Except Fault Url}
        (behind : Gives (fun url => url.scheme = scheme ∧ url.HasWrittenHost rest) computation) :
        Gives (fun url => url.IsWrittenIn (significant text)) computation := by
      intro url read
      obtain ⟨sameScheme, host⟩ := behind url read
      exact ⟨written, rest, parts, colonless, sameScheme.trans lower, host⟩
    split
    next isFile =>
      have same : scheme = "file" := of_decide_eq_true isFile
      exact placed (same ▸ readFile_hasWrittenHost rest)
    next noFile =>
      split
      next special =>
        exact placed (readWeb_hasWrittenHost special (Bool.eq_false_iff.mpr noFile) rest)
      next unknown =>
        exact placed (readPlain_hasWrittenHost (Bool.eq_false_iff.mpr unknown) rest)

end Url
end BuildNotices
