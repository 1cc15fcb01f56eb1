import BuildNotices.Config.Document
import BuildNotices.Proofs.Json.Record
import BuildNotices.Proofs.Toml.Reader
/-!
Configurations that are read.

Not every configuration is one that a document describes: a document has integers of 64 bits and
ports of 16, and it cannot take the card builder away. The defaults respect these limits, and so
does every field that is read.
-/

namespace BuildNotices

open Toml

/-! ### Limits of configurations -/

structure ChatSettings.IsWritable (chat : ChatSettings) : Prop where
  timeout : chat.timeoutSeconds < 0x8000000000000000
  cardBuilder : chat.cardBuilder.isSome = true

def ManualProxy.IsWritable (proxy : ManualProxy) : Prop :=
  proxy.port < 65536

def ProxySettings.IsWritable : ProxySettings → Prop
  | .manual proxy => proxy.IsWritable
  | _ => True

structure Config.IsWritable (config : Config) : Prop where
  chat : config.chat.IsWritable
  proxy : config.proxy.IsWritable

theorem ChatSettings.ofToml_writable {value : Value} (bounded : value.Bounded) :
    Ensures (ofToml value) IsWritable := by
  have ignored {β : Type} {name : String} {read : Toml.Reader β}
      {put : β → ChatSettings → ChatSettings}
      (timeout : ∀ found chat, (put found chat).timeoutSeconds = chat.timeoutSeconds)
      (cardBuilder : ∀ found chat, (put found chat).cardBuilder = chat.cardBuilder) :
      (Toml.RecordField.withDefault name read put).Keeps IsWritable := by
    apply Toml.RecordField.withDefault_ignored
    rintro found chat ⟨fits, present⟩
    constructor
    · rwa [timeout]
    · rwa [cardBuilder]
  refine Toml.readRecord_keeps ?_ bounded ⟨by decide, rfl⟩
  unfold tomlFields
  simp only [List.forall_mem_cons]
  refine ⟨?_, ?_, ?_, ?_, ?_, ?_, ?_, ?_, ?_, ?_, List.forall_mem_nil _⟩
  · exact ignored (fun _ _ => rfl) (fun _ _ => rfl)
  · exact ignored (fun _ _ => rfl) (fun _ _ => rfl)
  · exact ignored (fun _ _ => rfl) (fun _ _ => rfl)
  · exact ignored (fun _ _ => rfl) (fun _ _ => rfl)
  · exact ignored (fun _ _ => rfl) (fun _ _ => rfl)
  · exact ignored (fun _ _ => rfl) (fun _ _ => rfl)
  · exact Toml.RecordField.withDefault_keeps (fun _ => readNatural_fits)
      fun found chat small good => ⟨small, good.cardBuilder⟩
  · exact Toml.RecordField.withDefault_ignored fun found chat good => ⟨good.timeout, rfl⟩
  · exact ignored (fun _ _ => rfl) (fun _ _ => rfl)
  · exact ignored (fun _ _ => rfl) (fun _ _ => rfl)

theorem ManualProxy.read_writable {depth : Nat} {node : Json.Node} {proxy : ManualProxy}
    (found : read depth node = .ok proxy) : proxy.IsWritable := by
  have ignored {β : Type} {presence : Json.Presence} {name : String} {read : Json.Reader β}
      {put : β → ManualProxy → ManualProxy}
      (port : ∀ found proxy, (put found proxy).port = proxy.port) :
      (Json.RecordField.of presence name read put).Keeps IsWritable := by
    have reads (depth : Nat) (node : Json.Node) (found : β) (_ : read depth node = .ok found) :
        (fun _ => True) found := True.intro
    refine Json.RecordField.of_keeps reads ?_
    intro found proxy _ small
    unfold IsWritable at small ⊢
    rwa [port]
  refine Json.readRecord_keeps ?_ (by decide : (default : ManualProxy).port < 65536) found
  unfold fields
  simp only [List.forall_mem_cons]
  refine ⟨?_, ?_, ?_, ?_, ?_, List.forall_mem_nil _⟩
  · exact ignored fun _ _ => rfl
  · exact Json.RecordField.of_keeps (fun _ _ _ => Json.readBelow_lt) fun found proxy small _ => small
  · exact ignored fun _ _ => rfl
  · exact ignored fun _ _ => rfl
  · exact ignored fun _ _ => rfl

theorem ManualProxy.decode?_writable (document : Json) :
    Ensures (Json.decode? read document) IsWritable := by
  intro proxy decoded
  unfold Json.decode? at decoded
  cases result : read Json.nestingLimit (Json.Node.ofJson document) with
  | error fault =>
      rw [result] at decoded
      cases decoded
  | ok found =>
      rw [result] at decoded
      cases decoded
      exact read_writable result

theorem ProxySettings.ofMode?_writable (mode : String) (rest : Json) (isEmpty : Bool) :
    Ensures (ofMode? mode rest isEmpty) IsWritable := by
  unfold ofMode?
  split
  · split
    · exact Ensures.some True.intro
    · exact Ensures.none
  · split
    · exact Ensures.some True.intro
    · exact Ensures.none
  · exact Ensures.map (ManualProxy.decode?_writable rest) fun proxy small => small
  · exact Ensures.none

theorem ProxySettings.ofToml_writable (value : Value) : Ensures (ofToml value) IsWritable := by
  unfold ofToml ofJson?
  split
  · exact Ensures.bind Ensures.trivial fun mode _ => ofMode?_writable mode _ _
  · exact ofMode?_writable _ _ _
  · exact Ensures.none

namespace Config

theorem tomlFields_keep_writable : ∀ field ∈ tomlFields, field.Keeps IsWritable := by
  unfold tomlFields
  simp only [List.forall_mem_cons]
  refine ⟨?_, ?_, ?_, ?_, ?_, List.forall_mem_nil _⟩
  · exact Toml.RecordField.withDefault_keeps (fun _ => ChatSettings.ofToml_writable)
      fun chat config writable good => ⟨writable, good.proxy⟩
  · exact Toml.RecordField.withDefault_keeps (fun value _ => ProxySettings.ofToml_writable value)
      fun proxy config writable good => ⟨good.chat, writable⟩
  · exact Toml.RecordField.withDefault_ignored fun level config good => ⟨good.chat, good.proxy⟩
  · exact Toml.RecordField.withDefault_ignored fun entries config good => ⟨good.chat, good.proxy⟩
  · exact Toml.RecordField.withDefault_ignored fun tokens config good => ⟨good.chat, good.proxy⟩

/-- An accepted configuration is valid and can be written into a document. -/
theorem writable_of_ofToml {text : String} {config : Config} (accepted : ofToml text = .ok config) :
    config.IsWritable ∧ config.validate = .ok () := by
  unfold ofToml at accepted
  cases read : (parse? text).bind fun entries => readNamed entries tomlFields {} with
  | none =>
      rw [read] at accepted
      cases accepted
  | some found =>
      rw [read] at accepted
      obtain ⟨valid, validated, rest⟩ := exists_of_bind_eq_ok accepted
      cases rest
      refine ⟨?_, validated⟩
      have blank : IsWritable {} := ⟨⟨by decide, rfl⟩, True.intro⟩
      have all : Ensures ((parse? text).bind fun entries => readNamed entries tomlFields {})
          IsWritable :=
        Ensures.bind (parse?_bounded text) fun entries bounded =>
          Toml.readNamed_keeps tomlFields_keep_writable bounded blank
      exact all config read

end Config
end BuildNotices
