import HttpDigest.Credential
import HttpDigest.Log

namespace HttpDigest

-- What a store says to a lookup. Nothing at all, and a failure of another kind, are against
-- the contract of stores.
inductive Reply where
  | found (credential : Credential)
  | nothing
  | unknownUser (report : Report)
  | misconfigured (report : Report)
  | failed (report : Report)
  | broken (failure : Failure)
deriving BEq, Repr

structure Store (σ : Type) where
  reply : σ → String → Reply
  log : σ → String → List Log.Line := fun _ _ => []
  next : σ → String → σ := fun state _ => state

namespace Store

abbrev Directory := OrderedMap String Credential

def ofDirectory : Store Directory where
  reply directory username := match directory.get? username with
    | some credential => .found credential
    | none => .unknownUser (.unknownUsername (.text username))

-- A credential takes the place of the one with its username. Lookups are by text, so that one
-- under a name of another kind is never found; a list or an object cannot be a name.
def Directory.add (directory : Directory) (credential : Credential) :
    Except Fault Directory :=
  match credential.username with
  | .text name => .ok (directory.insert name credential)
  | .list _ | .object _ => .error .wrongType
  | _ => .ok directory

def Directory.addAll : Directory → List Credential → Except Fault Directory
  | directory, [] => .ok directory
  | directory, c :: rest => match directory.add c with
    | .ok directory => addAll directory rest
    | .error f => .error f

end Store

end HttpDigest
