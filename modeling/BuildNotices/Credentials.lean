import BuildNotices.Error
import BuildNotices.Text.Blank
import BuildNotices.Text.Dictionary
/-!
Tokens for the chat server.

A store is asked for the token under the configured identifier. When there is none,
an explicitly given token is used. Without a usable token nothing is sent. Stored
tokens are used as they are, given ones are trimmed.
-/

namespace BuildNotices

open Text

/-- A store answers with the token under an identifier for a server, if it has one. -/
structure CredentialStore where
  lookup : (id server : String) → Option String

namespace CredentialStore

def nothing : CredentialStore where
  lookup := fun _ _ => none

def ofTable (table : Dictionary String) : CredentialStore where
  lookup := fun id _ => table.get? id

end CredentialStore

def nonBlank? (text : String) : Option String :=
  if allBlank text then none else some (trimmed text)

def storedToken? (store : CredentialStore) (credentialId : Option String)
    (server : String) : Option String :=
  (credentialId.bind nonBlank?).bind fun id =>
    (store.lookup id server).filter fun token => !allBlank token

def resolveToken (store : CredentialStore) (credentialId explicit : Option String)
    (server : String) : Except NoticeError String :=
  match storedToken? store credentialId server <|> explicit.bind nonBlank? with
  | some token => .ok token
  | none => .error (.credentialMissing server)

end BuildNotices
