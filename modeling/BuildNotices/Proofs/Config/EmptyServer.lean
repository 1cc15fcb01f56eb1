import BuildNotices.Config.Basic
import BuildNotices.Proofs.Delivery.Server
/-!
Servers that are empty.

A configuration is refused when its server is blank. What a request is addressed to drops the
slashes at the end of the text as well, so it finds no server in a text of slashes either. Such a
text is the only one that is accepted although nothing can be addressed to it.
-/

namespace BuildNotices

open Text

namespace Config

def withServer (config : Config) (server : String) : Config :=
  { config with chat := { config.chat with server } }

variable {config : Config} {server other : String}

theorem validate_of_blank (blank : allBlank server = true) :
    (config.withServer server).validate =
      .error (.configuration "hipchat.server must not be empty") := by
  unfold validate withServer
  rw [if_pos blank]
  rfl

/-- Behind the check of the server nothing depends on it. -/
theorem validate_of_visible (visible : allBlank server = false)
    (otherVisible : allBlank other = false) :
    (config.withServer server).validate = (config.withServer other).validate := by
  unfold validate withServer
  dsimp only
  rw [visible, otherVisible]

/-- A configuration is valid up to its server when some server makes it valid. -/
def IsValidElsewhere (config : Config) : Prop :=
  ∃ server, (config.withServer server).validate = .ok ()

theorem validate_eq_ok_iff (valid : config.IsValidElsewhere) :
    (config.withServer server).validate = .ok () ↔ allBlank server = false := by
  constructor
  · intro accepted
    refine Bool.eq_false_iff.mpr fun blank => ?_
    rw [validate_of_blank blank] at accepted
    cases accepted
  · intro visible
    obtain ⟨other, accepted⟩ := valid
    have otherVisible : allBlank other = false := by
      refine Bool.eq_false_iff.mpr fun blank => ?_
      rw [validate_of_blank blank] at accepted
      cases accepted
    rw [validate_of_visible visible otherVisible, accepted]

end Config

/-! ### Texts without a server -/

/-- No request can be addressed, because a text names no server at all. -/
def LacksServer (server : String) : Prop :=
  ∃ name, serverUrl server = .error (.invalidEndpoint name "server is empty")

/-- Between the blanks around it a text has slashes and nothing else. -/
structure IsSlashes (server : String) : Prop where
  visible : allBlank server = false
  slashes : ∀ c ∈ trim server.toList, c = '/'

variable {server : String}

theorem serverName_eq_empty_iff :
    serverName server = "" ↔ ∀ c ∈ trim server.toList, c = '/' := by
  rw [serverName, ← String.toList_eq_nil_iff, toList_withoutFinalSlashes, trimmed,
    String.toList_ofList, dropTailWhile, List.reverse_eq_nil_iff, List.dropWhile_eq_nil_iff]
  simp only [List.mem_reverse, beq_iff_eq]

/-- Every fault of a URL is reported in other words. -/
theorem lacksServer_iff : LacksServer server ↔ ∀ c ∈ trim server.toList, c = '/' := by
  rw [← serverName_eq_empty_iff]
  constructor
  · rintro ⟨name, refused⟩
    by_contra named
    rw [serverUrl, if_neg named] at refused
    split at refused
    next fault _ =>
      obtain ⟨_, reason⟩ := NoticeError.invalidEndpoint.inj (Except.error.inj refused)
      cases fault <;> exact absurd reason (by decide)
    next url _ =>
      split at refused
      · cases refused
      · obtain ⟨_, reason⟩ := NoticeError.invalidEndpoint.inj (Except.error.inj refused)
        exact absurd reason (by decide)
  · intro empty
    exact ⟨"", by rw [serverUrl, if_pos empty, empty]⟩

theorem lacksServer_iff_blank_or_slashes :
    LacksServer server ↔ allBlank server = true ∨ IsSlashes server := by
  rw [lacksServer_iff]
  constructor
  · intro slashes
    cases blank : allBlank server with
    | true => exact Or.inl rfl
    | false => exact Or.inr ⟨blank, slashes⟩
  · rintro (blank | only)
    · rw [trim_eq_nil_iff.mpr blank]
      exact fun c member => absurd member List.not_mem_nil
    · exact only.slashes

/-- Validation and delivery both know an empty server, but not the same one: a blank text is
refused by both, and a text of slashes only when something is to be delivered. On every other
text they agree. -/
theorem validation_overlooks_slashes {config : Config} (valid : config.IsValidElsewhere)
    (server : String) :
    ((config.withServer server).validate = .ok () ↔ allBlank server = false) ∧
      (LacksServer server ↔ allBlank server = true ∨ IsSlashes server) ∧
      (((config.withServer server).validate = .ok () ↔ ¬ LacksServer server) ↔
        ¬ IsSlashes server) := by
  have accepts : (config.withServer server).validate = .ok () ↔ allBlank server = false :=
    Config.validate_eq_ok_iff valid
  refine ⟨accepts, lacksServer_iff_blank_or_slashes, ?_⟩
  rw [accepts, lacksServer_iff_blank_or_slashes, not_or, Bool.not_eq_true]
  constructor
  · intro agree only
    exact (agree.mp only.visible).2 only
  · intro otherwise
    exact ⟨fun visible => ⟨visible, otherwise⟩, fun both => both.1⟩

theorem validation_of_spaced_host :
    Config.IsValidElsewhere {} ∧
      (({} : Config).withServer " chat.local/ ").validate = .ok () ∧
      ¬ LacksServer " chat.local/ " := by
  have valid : Config.IsValidElsewhere {} := ⟨"api.hipchat.com", rfl⟩
  obtain ⟨accepts, _, agrees⟩ := validation_overlooks_slashes valid " chat.local/ "
  have accepted := accepts.mpr (by decide)
  have other : ¬ IsSlashes " chat.local/ " := by
    intro only
    exact absurd (only.slashes 'c' (by decide)) (by decide)
  exact ⟨valid, accepted, (agrees.mpr other).mp accepted⟩

/-- A single slash is accepted as a server, and then it is found to be empty. -/
theorem validation_accepts_a_slash :
    (({} : Config).withServer "/").validate = .ok () ∧
      serverUrl "/" = .error (.invalidEndpoint "" "server is empty") := by
  exact ⟨rfl, rfl⟩

end BuildNotices
