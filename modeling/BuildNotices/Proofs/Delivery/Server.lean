import BuildNotices.Delivery.Endpoint
import BuildNotices.Proofs.Text.Blank
import BuildNotices.Proofs.Url.Written
import Mathlib.Data.List.Infix
/-!
Texts that configure a server.

A text with a scheme is read as it is, and a bare name is reached over `https`. Slashes at the end
of a text do not count, and they are dropped before the mark behind a scheme is looked for. So a
text that ends in its only mark loses it, and its scheme is taken for a bare name.
-/

namespace BuildNotices

open Text

/-! ### Slashes at the end of a text -/

/-- A text ends in its only mark: behind it stand nothing but slashes. -/
structure MarkEnds (front text : String) : Prop where
  markless : hasSchemeMark front = false
  slashes : ∃ count, text.toList = front.toList ++ ':' :: List.replicate (count + 2) '/'

variable {front text : String}

theorem toList_withoutFinalSlashes (text : String) :
    (withoutFinalSlashes text).toList = dropTailWhile (· == '/') text.toList :=
  String.toList_ofList

theorem exists_final_slashes (text : String) : ∃ count,
    text.toList = (withoutFinalSlashes text).toList ++ List.replicate count '/' := by
  have slashes : ∀ c ∈ List.rtakeWhile (· == '/') text.toList, c = '/' := fun c member =>
    beq_iff_eq.mp (List.mem_rtakeWhile_imp (p := (· == '/')) member)
  refine ⟨(List.rtakeWhile (· == '/') text.toList).length, ?_⟩
  rw [← List.eq_replicate_of_mem slashes, toList_withoutFinalSlashes]
  exact List.rdropWhile_append_rtakeWhile.symm

theorem getLast?_withoutFinalSlashes (text : String) :
    (withoutFinalSlashes text).toList.getLast? ≠ some '/' := by
  intro last
  rw [toList_withoutFinalSlashes] at last
  exact absurd (refused_of_getLast?_dropTailWhile last) (by decide)

theorem withoutFinalSlashes_of_markEnds (ends : MarkEnds front text) :
    withoutFinalSlashes text = front ++ ":" := by
  obtain ⟨count, parts⟩ := ends.slashes
  have slashes : ∀ c ∈ List.replicate (count + 2) '/', (c == '/') = true := by
    intro c member
    rw [List.eq_of_mem_replicate member]
    rfl
  apply String.toList_inj.mp
  rw [toList_withoutFinalSlashes, parts, dropTailWhile, List.reverse_append, List.reverse_cons,
    List.reverse_replicate, List.append_assoc, List.dropWhile_append_of_pos slashes,
    List.singleton_append, List.dropWhile_cons_of_neg (by decide), List.reverse_cons,
    List.reverse_reverse, String.toList_append]
  rfl

theorem hasSchemeMark_of_markEnds (ends : MarkEnds front text) : hasSchemeMark text = true := by
  obtain ⟨count, parts⟩ := ends.slashes
  refine contains_eq_true_iff.mpr ⟨front.toList, List.replicate count '/', ?_⟩
  rw [parts, List.append_assoc]
  rfl

theorem hasSchemeMark_append_colon (front : String) :
    hasSchemeMark (front ++ ":") = hasSchemeMark front := by
  rw [Bool.eq_iff_iff, hasSchemeMark, contains_eq_true_iff, hasSchemeMark, contains_eq_true_iff,
    String.toList_append]
  refine List.infix_concat_iff.trans (or_iff_right ?_)
  rintro ⟨before, parts⟩
  have last := congrArg List.getLast? parts
  rw [List.getLast?_concat, List.getLast?_append] at last
  exact absurd (Option.some.inj last) (by decide)

/-- Where a mark is cut in two, its first part is empty, is the colon or ends in a slash. -/
theorem cut_mark {first second : List Char} (mark : "://".toList = first ++ second) :
    first = [] ∨ first = [':'] ∧ second = ['/', '/'] ∨ first.getLast? = some '/' := by
  change [':', '/', '/'] = first ++ second at mark
  rcases List.cons_eq_append_iff.mp mark with ⟨empty, _⟩ | ⟨slashes, rfl, later⟩
  · exact Or.inl empty
  · rcases List.cons_eq_append_iff.mp later with ⟨empty, whole⟩ | ⟨slash, rfl, last⟩
    · exact Or.inr (Or.inl ⟨by rw [empty], whole⟩)
    · rcases List.cons_eq_append_iff.mp last with ⟨empty, _⟩ | ⟨none, rfl, rest⟩
      · rw [empty]
        exact Or.inr (Or.inr rfl)
      · rw [(List.append_eq_nil_iff.mp rest.symm).1]
        exact Or.inr (Or.inr rfl)

/-- A text that loses its mark with the slashes at its end has no other mark. -/
theorem exists_markEnds {text : String} (found : hasSchemeMark text = true)
    (lost : hasSchemeMark (withoutFinalSlashes text) = false) : ∃ front, MarkEnds front text := by
  obtain ⟨count, parts⟩ := exists_final_slashes text
  have outside : ¬ "://".toList <:+: (withoutFinalSlashes text).toList := fun inside =>
    Bool.eq_false_iff.mp lost (contains_eq_true_iff.mpr inside)
  have colonless : ':' ∉ List.replicate count '/' := fun member =>
    absurd (List.eq_of_mem_replicate member) (by decide)
  have mark : "://".toList <:+: text.toList := contains_eq_true_iff.mp found
  rw [parts, List.infix_append_iff] at mark
  rcases mark with inside | behind | ⟨first, second, cut, ⟨before, whole⟩, start⟩
  · exact absurd inside outside
  · exact absurd (behind.subset List.mem_cons_self) colonless
  · rcases cut_mark cut with empty | ⟨colon, rest⟩ | last
    · rw [empty, List.nil_append] at cut
      exact absurd ((cut ▸ start).subset List.mem_cons_self) colonless
    · have same : withoutFinalSlashes text = String.ofList before ++ ":" := by
        apply String.toList_inj.mp
        rw [String.toList_append, String.toList_ofList, ← whole, colon]
        rfl
      have long : 2 ≤ count := by
        have shorter := start.length_le
        rwa [rest, List.length_replicate] at shorter
      refine ⟨String.ofList before, ?_, ⟨count - 2, ?_⟩⟩
      · rw [← hasSchemeMark_append_colon, ← same]
        exact lost
      · rw [parts, ← whole, colon, String.toList_ofList, Nat.sub_add_cancel long,
          List.append_assoc, List.singleton_append]
    · refine absurd ?_ (getLast?_withoutFinalSlashes text)
      rw [← whole, List.getLast?_append, last, Option.some_or]

/-- A text keeps a mark when the slashes at its end are dropped, unless its only mark ends it. -/
theorem hasSchemeMark_withoutFinalSlashes (text : String) :
    hasSchemeMark (withoutFinalSlashes text) = true ↔
      hasSchemeMark text = true ∧ ∀ front, ¬ MarkEnds front text := by
  constructor
  · intro kept
    refine ⟨contains_eq_true_iff.mpr ?_, fun front ends => ?_⟩
    · refine (contains_eq_true_iff.mp kept).trans (List.IsPrefix.isInfix ?_)
      rw [toList_withoutFinalSlashes]
      exact List.rdropWhile_prefix (· == '/') text.toList
    · rw [withoutFinalSlashes_of_markEnds ends, hasSchemeMark_append_colon, ends.markless] at kept
      cases kept
  · rintro ⟨found, otherwise⟩
    by_contra lost
    obtain ⟨front, ends⟩ := exists_markEnds found (Bool.eq_false_iff.mpr lost)
    exact otherwise front ends

/-! ### What is read -/

/-- A server text gives what another text gives that is read as a URL: the URL, if others can be
built upon it, and otherwise an error that names the server. -/
structure IsReadAs (server text : String) : Prop where
  base : ∀ url, Url.parse text = .ok url → url.isBase = true → serverUrl server = .ok url
  rootless : ∀ url, Url.parse text = .ok url → url.isBase = false →
    serverUrl server = .error (.invalidEndpoint (serverName server) "not a base URL")
  refused : ∀ fault, Url.parse text = .error fault →
    serverUrl server = .error (.invalidEndpoint (serverName server) fault.message)

variable {server : String}

theorem isReadAs_serverText (filled : serverName server ≠ "") :
    IsReadAs server (serverText server) := by
  constructor
  · intro url read base
    rw [serverUrl, if_neg filled, read]
    exact if_pos base
  · intro url read rootless
    rw [serverUrl, if_neg filled, read]
    exact if_neg (Bool.eq_false_iff.mp rootless)
  · intro fault read
    rw [serverUrl, if_neg filled, read]

theorem serverUrl_eq_ok {url : Url} (accepted : serverUrl server = .ok url) :
    Url.parse (serverText server) = .ok url ∧ url.isBase = true := by
  unfold serverUrl at accepted
  extract_lets name at accepted
  split at accepted
  next => cases accepted
  next =>
    split at accepted
    next => cases accepted
    next found read =>
      split at accepted
      next base =>
        cases accepted
        exact ⟨read, base⟩
      next => cases accepted

theorem serverText_of_mark (found : hasSchemeMark (serverName server) = true) :
    serverText server = serverName server := by
  rw [serverText, found, if_pos rfl]

theorem serverText_of_markless (markless : hasSchemeMark (serverName server) = false) :
    serverText server = "https://" ++ serverName server := by
  rw [serverText, markless, if_neg Bool.false_ne_true]

/-- What a server text gives has the scheme and the host of the text that is read. -/
theorem serverUrl_isWrittenIn (server : String) :
    Url.Gives (fun url => url.IsWrittenIn (Url.significant (serverText server)))
      (serverUrl server) :=
  fun url accepted => Url.parse_isWrittenIn (serverText server) url (serverUrl_eq_ok accepted).1

theorem exists_significant_https (name : String) :
    ∃ rest, Url.significant ("https://" ++ name) = "https".toList ++ ':' :: rest := by
  let drop : Char → Bool := fun c => decide (c.toNat ≤ 0x20)
  let keep : Char → Bool := fun c => !Url.isIgnored c
  have kept : ∀ c, "https://".toList.getLast? = some c → drop c = false := by
    intro c last
    cases Option.some.inj last
    decide
  have start : ("https://".toList ++ name.toList).dropWhile drop =
      "https://".toList ++ name.toList := List.dropWhile_cons_of_neg (by decide)
  have written : Url.significant ("https://" ++ name) =
      ("https://".toList ++ dropTailWhile drop name.toList).filter keep := by
    rw [← dropTailWhile_append kept, ← start, ← String.toList_append]
    rfl
  refine ⟨"//".toList ++ (dropTailWhile drop name.toList).filter keep, ?_⟩
  rw [written, List.filter_append]
  rfl

theorem scheme_of_markless (markless : hasSchemeMark (serverName server) = false) :
    Url.Gives (fun url => url.scheme = "https") (serverUrl server) := by
  intro url accepted
  obtain ⟨rest, start⟩ := exists_significant_https (serverName server)
  have inText := serverUrl_isWrittenIn server url accepted
  rw [serverText_of_markless markless, start] at inText
  rw [inText.scheme_eq (by decide)]
  decide

/-- A text with a mark is read as it stands, less the slashes at its end, and what it gives has the
scheme and the host that it names. A text without mark is a bare name, to be reached over `https`.
A text that ends in its only mark is read like a bare name all the same: its scheme, with the colon,
stands in the place of the host. -/
theorem server_texts_are_read_as_written (server : String) :
    (hasSchemeMark (trimmed server) = true → (∀ front, ¬ MarkEnds front (trimmed server)) →
      IsReadAs server (serverName server) ∧
        Url.Gives (fun url => url.IsWrittenIn (Url.significant (serverName server)))
          (serverUrl server)) ∧
    (hasSchemeMark (trimmed server) = false →
      (serverName server = "" →
        serverUrl server = .error (.invalidEndpoint "" "server is empty")) ∧
      (serverName server ≠ "" → IsReadAs server ("https://" ++ serverName server) ∧
        Url.Gives (fun url => url.scheme = "https") (serverUrl server))) ∧
    ∀ front, MarkEnds front (trimmed server) →
      hasSchemeMark (trimmed server) = true ∧ serverName server = front ++ ":" ∧
        IsReadAs server ("https://" ++ (front ++ ":")) ∧
        Url.Gives (fun url => url.scheme = "https") (serverUrl server) := by
  have kept := hasSchemeMark_withoutFinalSlashes (trimmed server)
  refine ⟨fun found otherwise => ?_, fun markless => ⟨fun empty => ?_, fun filled => ?_⟩,
    fun front ends => ?_⟩
  · have marked : hasSchemeMark (serverName server) = true := kept.mpr ⟨found, otherwise⟩
    have filled : serverName server ≠ "" := by
      intro empty
      rw [empty] at marked
      exact absurd marked (by decide)
    rw [← serverText_of_mark marked]
    exact ⟨isReadAs_serverText filled, serverUrl_isWrittenIn server⟩
  · rw [serverUrl, if_pos empty, empty]
  · have lost : hasSchemeMark (serverName server) = false := by
      refine Bool.eq_false_iff.mpr fun marked => ?_
      rw [(kept.mp marked).1] at markless
      cases markless
    rw [← serverText_of_markless lost]
    exact ⟨isReadAs_serverText filled, scheme_of_markless lost⟩
  · have name : serverName server = front ++ ":" := withoutFinalSlashes_of_markEnds ends
    have lost : hasSchemeMark (serverName server) = false :=
      Bool.eq_false_iff.mpr fun marked => (kept.mp marked).2 front ends
    have filled : serverName server ≠ "" := by
      rw [name]
      exact fun empty => absurd (String.append_eq_empty_iff.mp empty).2 (by decide)
    rw [← name, ← serverText_of_markless lost]
    exact ⟨hasSchemeMark_of_markEnds ends, rfl, isReadAs_serverText filled,
      scheme_of_markless lost⟩

theorem server_of_local_relay :
    (∀ front, ¬ MarkEnds front (trimmed " http://127.0.0.1:8080/ ")) ∧
      ∃ url, serverUrl " http://127.0.0.1:8080/ " = .ok url ∧
        url.text = "http://127.0.0.1:8080/" ∧
        IsReadAs " http://127.0.0.1:8080/ " "http://127.0.0.1:8080" ∧
        url.IsWrittenIn (Url.significant "http://127.0.0.1:8080") := by
  have name : serverName " http://127.0.0.1:8080/ " = "http://127.0.0.1:8080" := by
    decide +kernel
  have kept : hasSchemeMark (serverName " http://127.0.0.1:8080/ ") = true := by
    rw [name]
    decide
  obtain ⟨found, otherwise⟩ := (hasSchemeMark_withoutFinalSlashes _).mp kept
  obtain ⟨reading, inText⟩ := (server_texts_are_read_as_written _).1 found otherwise
  have shown : (serverUrl " http://127.0.0.1:8080/ ").toOption.map Url.text =
      some "http://127.0.0.1:8080/" := by decide +kernel
  rw [name] at reading inText
  cases accepted : serverUrl " http://127.0.0.1:8080/ " with
  | error error =>
      rw [accepted] at shown
      cases shown
  | ok url =>
      rw [accepted] at shown
      exact ⟨otherwise, url, rfl, Option.some.inj shown, reading, inText url accepted⟩

/-- A scheme with nothing behind its mark is no URL, with slashes or without, but it is taken for
the name of a host. -/
theorem server_of_bare_scheme :
    hasSchemeMark (trimmed "http://") = true ∧
      Url.parse (trimmed "http://") = .error .emptyHost ∧
      Url.parse (serverName "http://") = .error .emptyHost ∧
      (serverUrl "http://").toOption.map Url.text = some "https://http/" := by
  decide +kernel

end BuildNotices
