import BuildNotices.Config.Document
import BuildNotices.Proofs.Text.Dictionary
/-!
What a configuration shows of its secrets.

A secret has a value and a presence. Masking keeps the presence of every secret, the identifiers
of the credentials and all other settings, so two configurations look alike exactly when they
differ in nothing but values of secrets.
-/

namespace BuildNotices

open Text

/-! ### Settings that differ in secrets -/

/-- The second proxy is the first one with another password in place of the password, if any. -/
structure ManualProxy.Resembles (first second : ManualProxy) : Prop where
  otherwise : { first with password := second.password } = second
  password : first.password.isSome = second.password.isSome

/-- Two ways out of the network that differ at most in the password of a proxy. -/
inductive ProxySettings.Resembles : (first second : ProxySettings) → Prop where
  | same (settings : ProxySettings) : Resembles settings settings
  | manual {first second : ManualProxy} (proxy : first.Resembles second) :
      Resembles (.manual first) (.manual second)

/-- The second settings are the first ones with another token in place of the token, if any. -/
structure ChatSettings.Resembles (first second : ChatSettings) : Prop where
  otherwise : { first with token := second.token } = second
  token : first.token.isSome = second.token.isSome

/-- Two configurations that differ at most in the values of their secrets. -/
structure Config.Resembles (first second : Config) : Prop where
  chat : first.chat.Resembles second.chat
  proxy : first.proxy.Resembles second.proxy
  credentials : first.credentials.entries.map Prod.fst = second.credentials.entries.map Prod.fst
  otherwise : { first with
    chat := second.chat, proxy := second.proxy, credentials := second.credentials } = second

/-! ### Masked secrets -/

theorem map_mask_eq_iff {first second : Option String} :
    (first.map fun _ => secretMask) = (second.map fun _ => secretMask) ↔
      first.isSome = second.isSome := by
  cases first <;> cases second <;> simp

theorem ManualProxy.masked_eq_iff {first second : ManualProxy} :
    ProxySettings.redacted (.manual first) = ProxySettings.redacted (.manual second) ↔
      first.Resembles second := by
  obtain ⟨host, port, username, password, bypass⟩ := first
  obtain ⟨host', port', username', password', bypass'⟩ := second
  constructor
  · intro same
    injection same with same
    injection same with host port username password bypass
    subst host port username bypass
    exact ⟨rfl, map_mask_eq_iff.mp password⟩
  · rintro ⟨otherwise, present⟩
    cases otherwise
    rw [ProxySettings.redacted, map_mask_eq_iff.mpr present]
    rfl

theorem ProxySettings.redacted_eq_iff {first second : ProxySettings} :
    first.redacted = second.redacted ↔ first.Resembles second := by
  constructor
  · intro same
    cases first with
    | environment =>
        cases second with
        | environment => exact .same _
        | direct => cases same
        | manual proxy => cases same
    | direct =>
        cases second with
        | environment => cases same
        | direct => exact .same _
        | manual proxy => cases same
    | manual proxy =>
        cases second with
        | environment => cases same
        | direct => cases same
        | manual other => exact .manual (ManualProxy.masked_eq_iff.mp same)
  · intro resembling
    cases resembling with
    | same => rfl
    | manual proxy => exact ManualProxy.masked_eq_iff.mpr proxy

theorem ChatSettings.masked_eq_iff {first second : ChatSettings} :
    { first with token := first.token.map fun _ => secretMask } =
        { second with token := second.token.map fun _ => secretMask } ↔
      first.Resembles second := by
  constructor
  · intro same
    have token := congrArg ChatSettings.token same
    refine ⟨?_, map_mask_eq_iff.mp token⟩
    have restored := congrArg (fun chat => { chat with token := second.token }) same
    exact restored
  · rintro ⟨otherwise, present⟩
    rw [← otherwise, map_mask_eq_iff.mpr present]

/-! ### Configurations as they are shown -/

theorem Config.redacted_eq_iff {first second : Config} :
    first.redacted = second.redacted ↔ first.Resembles second := by
  constructor
  · intro same
    refine ⟨?_, ?_, ?_, ?_⟩
    · exact ChatSettings.masked_eq_iff.mp (congrArg Config.chat same)
    · exact ProxySettings.redacted_eq_iff.mp (congrArg Config.proxy same)
    · exact (Dictionary.mapValues_const_inj secretMask).mp (congrArg Config.credentials same)
    · exact congrArg (fun config => { config with
        chat := second.chat, proxy := second.proxy, credentials := second.credentials }) same
  · rintro ⟨chat, proxy, credentials, otherwise⟩
    have masked := (Dictionary.mapValues_const_inj secretMask).mpr credentials
    unfold redacted
    rw [ChatSettings.masked_eq_iff.mpr chat, ProxySettings.redacted_eq_iff.mpr proxy, masked,
      ← otherwise]

theorem Config.redacted_redacted (config : Config) : config.redacted.redacted = config.redacted := by
  have mask (secret : Option String) :
      ((secret.map fun _ => secretMask).map fun _ => secretMask) =
        secret.map fun _ => secretMask := by
    cases secret with
    | none => rfl
    | some value => rfl
  have proxy : config.proxy.redacted.redacted = config.proxy.redacted := by
    cases config.proxy with
    | environment => rfl
    | direct => rfl
    | manual settings => exact congrArg (fun password =>
        ProxySettings.manual { settings with password }) (mask settings.password)
  have credentials : ((config.credentials.mapValues fun _ => secretMask).mapValues
      fun _ => secretMask) = config.credentials.mapValues fun _ => secretMask := by
    apply (Dictionary.mapValues_const_inj secretMask).mpr
    exact List.map_map
  unfold redacted
  dsimp only
  rw [mask, proxy, credentials]

/-- Redaction masks the values of the secrets and nothing else: a configuration differs from its
redacted form in nothing but these values, and two configurations have one redacted form exactly
when they differ in nothing else. Then they are also shown alike. -/
theorem Config.redacted_eq_iff_resembles (first second : Config) :
    (first.redacted = second.redacted ↔ first.Resembles second) ∧
      (first.Resembles second → first.shown = second.shown) ∧
      first.Resembles first.redacted := by
  refine ⟨redacted_eq_iff, fun resembling => ?_, redacted_eq_iff.mp (redacted_redacted first).symm⟩
  unfold shown
  rw [redacted_eq_iff.mpr resembling]

end BuildNotices
