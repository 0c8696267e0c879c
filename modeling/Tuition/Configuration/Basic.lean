/-
# The configuration

What can be set about an installation, with what holds when it is not set. Switches count any
value as on or off; all other values are kept as they are given.
-/

import Tuition.Configuration.Reader

namespace Tuition

/-- The configuration of an installation. -/
structure Configuration where
  databaseAddress : Json
  apiRoot : Json
  apiPort : Json
  apiHost : Json
  reloads : Bool
  allowedOrigins : Json
  allowsCredentials : Json
  logLevel : Json
  logsRequests : Bool
  createsTables : Bool
  outputDirectory : Json
  billsAllWhenNoneActive : Bool
  monthlyBilling : Bool
  checkInterval : Json
  deriving Repr

namespace Configuration

/-- A value as it is given, or else the usual one. -/
def given (members : List (String × Json)) (name : String) (usual : Json) : Json :=
  (members.lookup name).getD usual

/-- Whether a switch is on. -/
def switch (members : List (String × Json)) (name : String) (usual : Bool) : Bool :=
  (given members name (.bool usual)).isTruthy

/-- The configuration that its members stand for. Other members are ignored. -/
def ofMembers (members : List (String × Json)) : Configuration where
  databaseAddress := given members "DB_URI" (.str "sqlite+aiosqlite:///./billing.db")
  apiRoot := given members "API_PREFIX" (.str "/api")
  apiPort := given members "API_PORT" (.int 8000)
  apiHost := given members "API_HOST" (.str "0.0.0.0")
  reloads := switch members "API_RELOAD" false
  allowedOrigins := given members "CORS_ORIGINS" (.arr [])
  allowsCredentials := given members "CORS_ALLOW_CREDENTIALS" (.bool true)
  logLevel := given members "LOG_LEVEL" (.str "INFO")
  logsRequests := switch members "ENABLE_LOGGING_MIDDLEWARE" true
  createsTables := switch members "CREATE_SCHEMA_ON_STARTUP" true
  outputDirectory := given members "INVOICE_OUTPUT_DIR" (.str "./invoices")
  billsAllWhenNoneActive := switch members "BILL_ALL_STUDENTS_WHEN_NONE_ACTIVE" true
  monthlyBilling := switch members "MONTHLY_BILLING_ENABLED" true
  checkInterval := given members "MONTHLY_BILLING_CHECK_INTERVAL_SECONDS" (.int 86400)

/-- The configuration without any settings. -/
def usual : Configuration :=
  ofMembers []

/-- Read a configuration; a missing one sets nothing. -/
def read (text : Option String) : Except ReadFault Configuration :=
  match text with
  | none => .ok usual
  | some text => (readText text).map ofMembers

/-- A configuration as a value. -/
def toJson (configuration : Configuration) : Json :=
  .obj
    [("DB_URI", configuration.databaseAddress), ("API_PREFIX", configuration.apiRoot),
     ("API_PORT", configuration.apiPort), ("API_HOST", configuration.apiHost),
     ("API_RELOAD", .bool configuration.reloads), ("CORS_ORIGINS", configuration.allowedOrigins),
     ("CORS_ALLOW_CREDENTIALS", configuration.allowsCredentials),
     ("LOG_LEVEL", configuration.logLevel),
     ("ENABLE_LOGGING_MIDDLEWARE", .bool configuration.logsRequests),
     ("CREATE_SCHEMA_ON_STARTUP", .bool configuration.createsTables),
     ("INVOICE_OUTPUT_DIR", configuration.outputDirectory),
     ("BILL_ALL_STUDENTS_WHEN_NONE_ACTIVE", .bool configuration.billsAllWhenNoneActive),
     ("MONTHLY_BILLING_ENABLED", .bool configuration.monthlyBilling),
     ("MONTHLY_BILLING_CHECK_INTERVAL_SECONDS", configuration.checkInterval)]

end Configuration
end Tuition
