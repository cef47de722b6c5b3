import FleetAgent.Settings.Basic
import FleetAgent.Yaml.Sheet

/-!
# Writing settings

The settings file lists what differs from the defaults, and some entries always. The identity of the
agent, which has files of its own, is never among them.
-/

namespace FleetAgent.Settings

open Yaml (Scalar Sheet SheetEntry)

/-- An entry unless its value is the default one. -/
def unlessDefault [DecidableEq α] (name : String) (default : α) (write : α → β) (value : α) :
    List (String × β) :=
  if value = default then [] else [(name, write value)]

def textUnlessEmpty (name value : String) : List (String × Scalar) :=
  unlessDefault name "" .text value

def metricsBlock (metrics : Metrics) : List (String × Scalar) :=
  textUnlessEmpty "bind" metrics.bind ++
  unlessDefault "port" 0 (fun port ↦ .number port.toNat) metrics.port ++
  textUnlessEmpty "ca_cert" metrics.caCert ++
  textUnlessEmpty "cert" metrics.cert ++
  textUnlessEmpty "priv_key" metrics.key

def tlsBlock (tls : Tls) : List (String × Scalar) :=
  textUnlessEmpty "ca_cert" tls.caCert ++
  textUnlessEmpty "cert" tls.cert ++
  textUnlessEmpty "priv_key" tls.key ++
  unlessDefault "insecure_ca" false .bool tls.skipCaCheck

def toSheet (settings : Settings) : Sheet :=
  [("controllers", .list settings.controllers)] ++
  unlessDefault "tftp_root" "" (.scalar ∘ .text) settings.tftpRoot ++
  unlessDefault "tftp_port" 0 (fun port ↦ .scalar (.number port.toNat)) settings.tftpPort ++
  unlessDefault "cluster_id" "" (.scalar ∘ .text) settings.clusterId ++
  unlessDefault "debug" false (.scalar ∘ .bool) settings.debug ++
  unlessDefault "metrics" {} (.block ∘ metricsBlock) settings.metrics ++
  unlessDefault "rpc" {} (.block ∘ tlsBlock) settings.tls ++
  (settings.supervisor.toList.map fun address ↦ ("supervisord", .scalar (.text address))) ++
  [("proxy", .scalar (.bool settings.proxy)),
   ("ntp_bind_addr", .scalar (.text settings.ntpBindAddr)),
   ("ntp_refresh_rate", .scalar (.number settings.ntpRefreshRate.toNat))]

def toText (settings : Settings) : String := settings.toSheet.text

end FleetAgent.Settings
