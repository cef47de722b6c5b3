import FleetAgent.Settings.Identity
import FleetAgent.Settings.Reading
import FleetAgent.Settings.Writing

/-!
# The settings store

A store holds settings together with the path of the file that they were read from. Reading either
gives a store with all of what the files hold or an error, and then the store stays as it was. Writing
goes through the identity files first and through the settings file last.
-/

namespace FleetAgent

inductive StoreError where
  /-- Nothing has been read yet, so there is no file to read again or to write. -/
  | noFile
  | missing (path : Path)
  | unread (path : Path) (fault : FileError)
  | unparsed (path : Path) (fault : SettingsFault)
  /-- A section has a certificate without a private key, or the other way round. -/
  | halfPair (part : Section)
  | identityUnread (error : IdentityError)
  | identityUnwritten (error : IdentityError)
  | unwritten (path : Path) (fault : FileError)

namespace StoreError

/-- The text of an error. Of a settings text that is unreadable the reason is left empty: the words of the
document reader for it are not part of the agent. -/
def message : StoreError → String
  | noFile => "config file not defined"
  | missing path => "config file not found: " ++ path.toString
  | unread path fault => "failed to read config file " ++ path.toString ++ ": " ++ fault.message
  | unparsed path fault =>
    let reason := match fault with
      | .unreadable => ""
      | .rejected rejection => rejection.message
    "failed to parse config file " ++ path.toString ++ ": " ++ reason
  | halfPair part => "invalid TLS config: " ++ part.name ++ ": cert and priv_key must be set together"
  | identityUnread error => "secret read failed: " ++ error.message
  | identityUnwritten error => "secret write failed: " ++ error.message
  | unwritten path fault => "failed to write config file " ++ path.toString ++ ": " ++ fault.message

end StoreError

structure Store where
  /-- The directory of the identity files. -/
  identityDir : Path
  settings : Settings := {}
  /-- Where the settings were read from. -/
  file : Option Path := none
  deriving Inhabited

namespace Store

/-- What a settings text says; one of nothing but blanks says nothing. -/
def parse (text : String) : Except SettingsFault Settings :=
  if Text.isBlankText text then .ok {} else Settings.ofText text

/-- The settings unless a section has half a key pair. -/
def checked (settings : Settings) : Except StoreError Settings :=
  match settings.halfPair? with
  | some part => .error (.halfPair part)
  | none => .ok settings

def readError (path : Path) : FileError → StoreError
  | .notFound => .missing path
  | fault => .unread path fault

/-- The settings in a file, with the identity from its directory. -/
def readSettings (path identityDir : Path) : HostM StoreError Settings := do
  let text ← Host.mapError (readError path) (Host.readText path)
  let settings ← MonadExcept.ofExcept ((parse text).mapError (.unparsed path) >>= checked)
  let systemId ← Host.mapError .identityUnread (IdentityFile.systemId.read identityDir)
  let secret ← Host.mapError .identityUnread (IdentityFile.secret.read identityDir)
  return { settings with base := identityDir, systemId, secret }

def loaded (path : Path) (settings : Settings) : Log.Event :=
  ⟨.info, "fleetd_config::store", "Configuration loaded",
    [("path", .shown path.toString), ("controllers", .shown (toString settings.controllers.length))]⟩

def saved (path : Path) : Log.Event :=
  ⟨.debug, "fleetd_config::store", "Configuration saved", [("path", .shown path.toString)]⟩

def load (store : Store) (path : Path) : HostM StoreError Store := do
  let settings ← readSettings path store.identityDir
  Host.report (loaded path settings)
  return { store with settings, file := some path }

def openFile (path identityDir : Path) : HostM StoreError Store := ({ identityDir : Store }).load path

def getFile (store : Store) : HostM StoreError Path :=
  match store.file with
  | some path => pure path
  | none => throw .noFile

def reload (store : Store) : HostM StoreError Store := do store.load (← store.getFile)

/-- Writes the identity, and when that is done the settings. -/
def save (store : Store) : HostM StoreError Unit := do
  let path ← store.getFile
  Host.mapError .identityUnwritten (IdentityFile.systemId.write store.identityDir store.settings.systemId)
  Host.mapError .identityUnwritten (IdentityFile.secret.write store.identityDir store.settings.secret)
  Host.mapError (.unwritten path) (Host.replaceFile path store.settings.toText.toUTF8)
  Host.report (saved path)

end Store

end FleetAgent
