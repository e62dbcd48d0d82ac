import SecretSync.ListFilter
import SecretSync.Program.Basic
import SecretSync.Resource.Secret
import SecretSync.Store.Error

/-!
# `SecretSync.Store.Basic`: the store of secrets

A store answers four requests: reading a secret, creating one, replacing one,
and listing the secrets of a namespace that pass a filter. Each request
carries a complete object. A create without a name leaves the choice of the
name to the store; a replacement is refused as a conflict when the secret
changed since the version it carries.
-/

set_option autoImplicit false

namespace SecretSync

/-- A request to a store of secrets. -/
inductive StoreRequest where
  | get (ns name : String)
  | create (ns : String) (secret : Secret)
  | update (ns : String) (secret : Secret)
  | list (ns : String) (filter : ListFilter)

/-- What a store replies. -/
abbrev StoreRequest.Reply : StoreRequest → Type
  | .list _ _ => Except StoreError (List Secret)
  | _ => Except StoreError Secret

/-- The interface of a store of secrets. -/
abbrev storeInterface : Interface := ⟨StoreRequest, StoreRequest.Reply⟩

/-- A program that talks to a store of secrets. -/
abbrev StoreProgram (α : Type) := Program storeInterface α

namespace Store

/-- Reads a secret. -/
def get (ns name : String) : StoreProgram (Except StoreError Secret) :=
  Program.ask (I := storeInterface) (.get ns name)

/-- Creates a secret and gives it as it was stored. -/
def create (ns : String) (secret : Secret) : StoreProgram (Except StoreError Secret) :=
  Program.ask (I := storeInterface) (.create ns secret)

/-- Replaces a secret and gives it as it was stored. -/
def update (ns : String) (secret : Secret) : StoreProgram (Except StoreError Secret) :=
  Program.ask (I := storeInterface) (.update ns secret)

/-- Lists the secrets of a namespace that pass a filter. -/
def list (ns : String) (filter : ListFilter) : StoreProgram (Except StoreError (List Secret)) :=
  Program.ask (I := storeInterface) (.list ns filter)

end Store

end SecretSync
