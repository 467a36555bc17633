import FleetWatch.Fleet.Registry
import FleetWatch.Toml.Decode

/-!
# The configuration

What can be configured, with its defaults, and how it is decoded: a document overlays the defaults
with the keys it has.
-/

namespace FleetWatch

structure Dashboard where
  /-- Milliseconds between the starts of two refresh cycles. -/
  refreshIntervalMs : UInt64 := 1000
  /-- Milliseconds that one status request may take. -/
  requestTimeoutMs : UInt64 := 5000
  statusPath : String := "/api/status"
  userAgent : String := "FleetBoard/1.0"
deriving DecidableEq, Repr, Inhabited

structure Webserver where
  enabled : Bool := true
  host : String := "127.0.0.1"
  port : UInt16 := 8090
deriving DecidableEq, Repr, Inhabited

structure Config where
  dashboard : Dashboard := {}
  webserver : Webserver := {}
  endpoints : List EndpointEntry := [⟨"VPS-01", "http://127.0.0.1:7777"⟩]
deriving DecidableEq, Repr, Inhabited

open Toml

namespace Dashboard

def fields : List (Setting Dashboard) :=
  [.of "refresh_interval_ms" decodeUInt64 fun n d => { d with refreshIntervalMs := n },
    .of "request_timeout_ms" decodeUInt64 fun n d => { d with requestTimeoutMs := n },
    .of "status_path" decodeString fun s d => { d with statusPath := s },
    .of "user_agent" decodeString fun s d => { d with userAgent := s }]

def decode : Decoder Dashboard := decodeRecord "DashboardConfig" fields {}

end Dashboard

namespace Webserver

def fields : List (Setting Webserver) :=
  [.of "enabled" decodeBool fun b w => { w with enabled := b },
    .of "host" decodeString fun s w => { w with host := s },
    .of "port" decodeUInt16 fun n w => { w with port := n }]

def decode : Decoder Webserver := decodeRecord "WebserverConfig" fields {}

end Webserver

namespace EndpointEntry

def fields : List (Setting EndpointEntry) :=
  [.of "name" decodeString fun s e => { e with name := s },
    .of "base_url" decodeString fun s e => { e with baseUrl := s }]

def decode : Decoder EndpointEntry := decodeRecord "EndpointConfig" fields ⟨"", ""⟩

end EndpointEntry

namespace Config

def fields : List (Setting Config) :=
  [.of "dashboard" Dashboard.decode fun d c => { c with dashboard := d },
    .of "webserver" Webserver.decode fun w c => { c with webserver := w },
    .of "endpoints" (decodeList EndpointEntry.decode) fun es c => { c with endpoints := es }]

def ofMembers (members : Members) : Except TypeFault Config := overlay fields members {}

end Config
end FleetWatch
