import GuestStorage.Config.Document
import GuestStorage.Host.File
import GuestStorage.Text.Utf8

namespace GuestStorage

inductive ConfigError
  | host (cause : HostError)
  | notText
  | malformed
  deriving DecidableEq, Repr

def ConfigError.message : ConfigError → String
  | host cause => cause.message
  | notText => "stream did not contain valid UTF-8"
  | malformed => "not a valid configuration"

namespace Config

def directory (configDirectory : HostPath) : HostPath := configDirectory.child directoryName

def location (configDirectory : HostPath) : HostPath :=
  (directory configDirectory).child "config.toml"

def save (config : Config) (host : Host) (configDirectory : HostPath) :
    Host × Except HostError Unit :=
  match host.createDirectories (directory configDirectory) with
  | (host, .error cause) => (host, .error cause)
  | (host, .ok ()) =>
    match host.writeFile (location configDirectory) (Utf8.encode config.toDocument) with
    | .error cause => (host, .error cause)
    | .ok written => (written, .ok ())

def ofFile (dataDirectory : String) (data : Bytes) : Except ConfigError Config :=
  match Utf8.decode? data with
  | none => .error .notText
  | some document =>
    match ofDocument? dataDirectory document with
    | none => .error .malformed
    | some config => .ok config

def load (host : Host) (configDirectory : HostPath) (dataDirectory : String) :
    Host × Except ConfigError Config :=
  if host.hasEntry (location configDirectory) then
    match host.readFile (location configDirectory) with
    | .error cause => (host, .error (.host cause))
    | .ok data => (host, ofFile dataDirectory data)
  else
    match (standard dataDirectory).save host configDirectory with
    | (host, .error cause) => (host, .error (.host cause))
    | (host, .ok ()) => (host, .ok (standard dataDirectory))

end Config

end GuestStorage
