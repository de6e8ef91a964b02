import BareUrl.Config.Basic
import BareUrl.Toml.Reader

/-!
# `BareUrl.Config.File`: configurations in files

A settings file has a key for each setting, and a list of further providers. A setting that is not
there is as usual; a key that is no setting makes the file invalid, and so does a value of the wrong
kind, so that slips are noticed.
-/

set_option autoImplicit false

namespace BareUrl

namespace Toml.Value

/-- The text that a value is. -/
def text? : Value → Option Text
  | .text t => some t
  | _ => none

/-- The answer to a yes-or-no question that a value is. -/
def bool? : Value → Option Bool
  | .bool b => some b
  | _ => none

/-- The number without sign that a value is. -/
def natural? : Value → Option Nat
  | .integer n => if 0 ≤ n ∧ n ≤ Text.Decimal.limit then some n.toNat else none
  | _ => none

/-- The list that a value is. -/
def list? {α : Type} (item : Value → Option α) : Value → Option (List α)
  | .array _ items => items.mapM item
  | _ => none

/-- The texts by keys that a value is. -/
def texts? : Value → Option (List (Text × Text))
  | .table _ members => members.mapM fun m => m.2.text?.map (m.1, ·)
  | _ => none

end Toml.Value

namespace ProviderEntry

/-- The keys of a provider. -/
def keys : List Text := ["name", "endpoint", "schemes"].map String.toList

/-- The provider of three values. -/
def ofValues? (name endpoint schemes : Toml.Value) : Option ProviderEntry :=
  match name.text?, endpoint.text?, schemes.list? Toml.Value.text? with
  | some name, some endpoint, some schemes => some ⟨name, endpoint, schemes⟩
  | _, _, _ => none

/-- The provider that a value is: a table with its three keys, or their values in order. -/
def ofToml? : Toml.Value → Option ProviderEntry
  | .table _ members =>
    if members.all fun m => keys.elem m.1 then
      match keys.map fun key => members.lookup key with
      | [some name, some endpoint, some schemes] => ofValues? name endpoint schemes
      | _ => none
    else none
  | .array _ (name :: endpoint :: schemes :: _) => ofValues? name endpoint schemes
  | _ => none

end ProviderEntry

namespace Config

/-- The keys of a configuration. -/
def keys : List Text :=
  ["verbose", "output", "url_prefix", "protocols", "exclude_tag", "offline", "timeout",
    "user_agent", "header", "dump", "providers"].map String.toList

/-- The setting at a key, or the usual one if there is none. -/
def setting {α : Type} (t : Toml.Table) (key : String) (read : Toml.Value → Option α) (usual : α) :
    Option α :=
  match t.lookup key.toList with
  | none => some usual
  | some v => read v

/-- The configuration that a table is. -/
def ofToml? (t : Toml.Table) : Option Config :=
  if t.all fun m => keys.elem m.1 then do
    let verbosity ← setting t "verbose" (fun v => v.text?.bind Verbosity.ofName?) usual.verbosity
    let output ← setting t "output" (fun v => v.text?.map some) usual.output
    let leader ← setting t "url_prefix" Toml.Value.text? usual.leader
    let protocols ← setting t "protocols" (Toml.Value.list? Toml.Value.text?) usual.protocols
    let excluded ← setting t "exclude_tag" (Toml.Value.list? Toml.Value.text?) usual.excluded
    let offline ← setting t "offline" Toml.Value.bool? usual.offline
    let timeout ← setting t "timeout" Toml.Value.natural? usual.timeout
    let agent ← setting t "user_agent" Toml.Value.text? usual.agent
    let headers ← setting t "header" Toml.Value.texts? usual.headers
    let dump ← setting t "dump" Toml.Value.bool? usual.dump
    let providers ← setting t "providers" (Toml.Value.list? ProviderEntry.ofToml?) usual.providers
    return ⟨verbosity, output, leader, protocols, excluded, offline, timeout, agent, headers, dump,
      providers⟩
  else none

/-- Why a file is no configuration. -/
inductive FileFault where
  /-- There is no such file. -/
  | missing
  /-- It is a directory. -/
  | directory
  /-- Its bytes are not UTF-8. -/
  | notUtf8
  /-- Its text is not a configuration. -/
  | malformed
deriving DecidableEq, Repr

/-- The wording of why a file is no configuration. -/
def FileFault.message : FileFault → Text
  | .missing => "No such file or directory (os error 2)".toList
  | .directory => "Is a directory (os error 21)".toList
  | .notUtf8 => "stream did not contain valid UTF-8".toList
  | .malformed => "Failed to parse configuration file".toList

/-- The configuration that the bytes of a file are. -/
def ofBytes (bytes : List UInt8) : Except FileFault Config :=
  match Text.Utf8.decode? bytes with
  | none => .error .notUtf8
  | some t =>
    match (Toml.read? t).bind ofToml? with
    | none => .error .malformed
    | some config => .ok config

end Config

end BareUrl
