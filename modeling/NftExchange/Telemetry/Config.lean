import NftExchange.Json.Record
import NftExchange.Telemetry.Filter

/-!
# Telemetry configuration

Which events a program that uses the library logs, and how. Logging is installed once for a whole
program; a second installation fails.
-/

namespace NftExchange

/-- The configuration of logging. -/
structure TelemetryConfig where
  serviceName : String := "erb-exchange-client"
  /-- A level or any other filter. -/
  logLevel : String := "info"
  consoleOutput : Bool := true
  jsonLogs : Bool := false
deriving DecidableEq

/-- Why logging was not installed. -/
inductive TelemetryError where
  | invalidFilter
  /-- Logging is installed already. -/
  | subscriberInit
deriving DecidableEq

namespace TelemetryConfig

/-- The fields in the order in which they are written. -/
def fields :=
  let unset : TelemetryConfig := {}
  Fields.cons (.defaulted "service_name" .string unset.serviceName) <|
  .cons (.defaulted "log_level" .string unset.logLevel) <|
  .cons (.defaulted "console_output" .bool unset.consoleOutput) <|
  .cons (.defaulted "json_logs" .bool unset.jsonLogs) <|
  .nil

def codec : Codec TelemetryConfig :=
  .record fields (fun c => (c.serviceName, c.logLevel, c.consoleOutput, c.jsonLogs, ()))
    (fun (a, b, c, d, ()) => ⟨a, b, c, d⟩)

/-- Reads named variables; missing ones have their defaults. -/
def ofLookup (lookup : String → Option String) : TelemetryConfig :=
  let unset : TelemetryConfig := {}
  { serviceName := (lookup "EX_SERVICE_NAME").getD unset.serviceName
    logLevel := (lookup "EX_LOG_LEVEL" <|> lookup "RUST_LOG").getD unset.logLevel
    consoleOutput := match lookup "EX_CONSOLE_OUTPUT" with
      | some text => LogFilter.lowered text != "false" && text != "0"
      | none => unset.consoleOutput
    jsonLogs := match lookup "EX_JSON_LOGS" with
      | some text => LogFilter.lowered text == "true" || text == "1"
      | none => unset.jsonLogs }

/-- The filter to use: a valid one from the environment wins over the configured level. -/
def filter (c : TelemetryConfig) (fromEnvironment : Option String) :
    Except TelemetryError String :=
  match fromEnvironment.filter LogFilter.isValid with
  | some filter => .ok filter
  | none => if LogFilter.isValid c.logLevel then .ok c.logLevel else .error .invalidFilter

/-- Installs logging, where it may be `installed` already. -/
def install (c : TelemetryConfig) (fromEnvironment : Option String) (installed : Bool) :
    Except TelemetryError Unit := do
  let _ ← c.filter fromEnvironment
  if installed then .error .subscriberInit else return ()

end TelemetryConfig

end NftExchange
