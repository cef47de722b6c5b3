import FleetAgent.Path

/-!
# Settings

The settings of an agent are what its settings file says together with its identity, which comes from
files of its own and never from the settings file. A section that names a certificate has to name the
private key as well, and the other way round.
-/

namespace FleetAgent

/-- Where metrics are served, and the certificate for it. -/
structure Metrics where
  bind : String := ""
  port : UInt16 := 0
  caCert : String := ""
  cert : String := ""
  key : String := ""
  deriving DecidableEq, Repr, Inhabited

/-- The certificate for the connection to the control plane. -/
structure Tls where
  caCert : String := ""
  cert : String := ""
  key : String := ""
  /-- The control plane's own certificate is not checked. -/
  skipCaCheck : Bool := false
  deriving DecidableEq, Repr, Inhabited

structure Settings where
  /-- The directory that relative paths start from. -/
  base : Path := ⟨[]⟩
  systemId : String := ""
  secret : String := ""
  /-- The endpoints of the control plane, the primary one first. -/
  controllers : List String := []
  tftpRoot : String := ""
  tftpPort : UInt16 := 0
  clusterId : String := ""
  debug : Bool := false
  metrics : Metrics := {}
  tls : Tls := {}
  supervisor : Option String := none
  proxy : Bool := false
  ntpBindAddr : String := ""
  ntpRefreshRate : UInt64 := 0
  deriving DecidableEq, Repr, Inhabited

inductive Section where
  | rpc
  | metrics
  deriving DecidableEq, Repr

def Section.name : Section → String
  | .rpc => "rpc"
  | .metrics => "metrics"

/-- Exactly one of certificate and key is given. -/
def halfPair (cert key : String) : Bool := cert.isEmpty != key.isEmpty

namespace Settings

/-- The first section that has half a key pair. -/
def halfPair? (settings : Settings) : Option Section :=
  if halfPair settings.tls.cert settings.tls.key then some .rpc
  else if halfPair settings.metrics.cert settings.metrics.key then some .metrics
  else none

/-- The endpoint that is dialed. -/
def primary? (settings : Settings) : Option String := settings.controllers.head?

def resolve (settings : Settings) (path : Path) : Path := settings.base.resolve path

/-- The path of a file that is served for booting; it never leaves the served directory. -/
def bootPath (settings : Settings) (path : Path) : Path :=
  (settings.resolve (.ofString settings.tftpRoot)).below path

end Settings

end FleetAgent
