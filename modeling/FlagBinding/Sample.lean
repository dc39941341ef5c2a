import FlagBinding.Schema.Basic

/-!
# A sample schema

A service and the configuration around it, with a flag of nearly every kind.
-/

namespace FlagBinding.Sample

open Number Schema

def options (kind : FlagKind) (usage : String) : FieldFlags :=
  ⟨{ usage }, kind⟩

def scalarField (name : String) (number : Int32) (kind : ScalarKind) (usage : String) : Field :=
  { name, number, type := .scalar kind, flags := some (options (.scalar kind none) usage) }

/-- The service. -/
def service : Message where
  name := "Service"
  fullName := "app.Service"
  path := ["Service"]
  disabled := false
  fields :=
    [scalarField "host" 1 .string "Host to bind",
      { scalarField "port" 2 .int32 "" with
        flags := some ⟨{ usage := "Port to listen on", short := some "p" },
          .scalar .int32 (some (.int32 8080))⟩ },
      scalarField "tls_enabled" 3 .bool "Serve TLS"]

def logLevel : EnumType where
  name := "LogLevel"
  fullName := "app.LogLevel"
  values := [⟨"LOG_LEVEL_UNSPECIFIED", 0⟩, ⟨"LOG_LEVEL_INFO", 1⟩, ⟨"LOG_LEVEL_ERROR", 2⟩]

def mapField (name : String) (number : Int32) (value : ScalarKind) (format : MapFormat)
    (usage : String) : Field :=
  { name, number, type := .message (.ofFullName ("app.Config." ++ name)), repeated := false,
    map := some ⟨.scalar .string, .scalar value⟩, flags := some (options (.map format) usage) }

/-- The configuration. -/
def config : Message where
  name := "Config"
  fullName := "app.Config"
  path := ["Config"]
  disabled := false
  fields :=
    [{ name := "service", number := 1, type := .message (.ofFullName "app.Service")
       flags := some ⟨{ name := some "api" }, .message true⟩ },
      { name := "servers", number := 2, type := .scalar .string, repeated := true
        flags := some (options (.repeated (.scalar .string)) "Upstream servers") },
      { name := "log_level", number := 3, type := .enumeration logLevel
        flags := some (options (.enumeration none) "Log level") },
      { name := "key", number := 4, type := .bytes
        flags := some (options (.bytes .hex) "Signing key") },
      mapField "limits" 5 .int64 .textToInteger "Resource limits",
      { name := "created_at", number := 6
        type := .message (.ofFullName "google.protobuf.Timestamp")
        flags := some (options (.timestamp ["RFC3339", "RFC1123"]) "Creation time") },
      { name := "timeout", number := 7, type := .message (.ofFullName "google.protobuf.Duration")
        flags := some ⟨{ usage := "Request timeout", hidden := true }, .duration⟩ },
      { name := "ratio", number := 8, type := .scalar .double, optional := true
        flags := some ⟨{ usage := "Sampling ratio", deprecated := true,
                         deprecatedUsage := "use --sampling instead" },
          .scalar .double (some (.double (.ofRatio false 1 4)))⟩ },
      mapField "labels" 9 .string .json "Labels as JSON",
      { scalarField "debug" 10 .bool "" with
        flags := some ⟨{ usage := "Debug mode", short := some "d" }, .scalar .bool none⟩ },
      { name := "parent", number := 11, type := .message (.ofFullName "app.Config")
        flags := some ⟨{}, .message false⟩ }]

def schema : FlagBinding.Schema :=
  ⟨[{ name := "app/app.proto", package := "app", generate := true, messages := [service, config] }]⟩

end FlagBinding.Sample
