import CertRegistry.Settings.Basic

/-!
# Deployment

The settings of a deployment, read from its environment variables. Outside debugging the hosts
and origins are taken from the environment and connections are secured.
-/

namespace CertRegistry

/-- Environment variables by name. -/
abbrev Environment := List (Text × Text)

/-- The value of a variable, or the one that stands for it. -/
def Environment.value (env : Environment) (name fallback : Text) : Text :=
  (env.lookup name).getD fallback

/-- A variable that says true in letters of either case. -/
def Environment.isTrue (env : Environment) (name fallback : Text) : Bool :=
  (env.value name fallback).map Text.asciiLower = "true"

/-- The whole number that a variable writes. -/
def Environment.integer (env : Environment) (name fallback : Text) :
    Except Json.IntegerFailure Int :=
  Json.toInteger (.text (env.value name fallback))

/-- The parts of a variable between commas. -/
def Environment.items (env : Environment) (name fallback : Text) : List Text :=
  (env.value name fallback).splitOn 44

/-- How the database is reached. -/
structure Database where
  engine : Text
  name? : Option Text
  user : Text
  password : Text
  host : Text
  port : Text

/-- The settings that secure connections. -/
structure Security where
  redirect : Bool
  transportSeconds : Nat := 31536000
  includeSubdomains : Bool := true
  preload : Bool := true
  proxyHeader : Text × Text := ("HTTP_X_FORWARDED_PROTO", "https")

/-- The settings of a deployment. -/
structure Deployment where
  secretKey : Text
  debug : Bool
  validityDays : Int
  expiringDays : Int
  defaultPageSize : Int
  maxPageSize : Int
  hosts : List Text
  origins : List Text
  database : Database
  logLevel : Text
  /-- The level of the registry's own log. -/
  registryLevel : Text
  security? : Option Security
  /-- Whether content types are taken as declared. -/
  noSniff : Bool := true
  frames : Text := "DENY"

namespace Deployment

/-- The settings that the registry's rules read. -/
def settings (d : Deployment) : Settings where
  debug := some d.debug
  validityDays := .int d.validityDays
  expiringDays := .int d.expiringDays
  defaultPageSize := .int d.defaultPageSize
  maxPageSize := .int d.maxPageSize

/-- The origins that are trusted while debugging. -/
def debugOrigins : List Text :=
  ["http://localhost", "http://127.0.0.1", "https://localhost", "https://127.0.0.1"]

/-- The settings that an environment gives. -/
def ofEnvironment (env : Environment) : Except Json.IntegerFailure Deployment := do
  let debug := env.isTrue "DEBUG" "True"
  let validityDays ← env.integer "CERTIFICATE_VALIDITY_DAYS" "365"
  let expiringDays ← env.integer "CERTIFICATE_EXPIRING_DAYS" "30"
  let defaultPageSize ← env.integer "CERTIFICATE_DEFAULT_PAGE_SIZE" "20"
  let maxPageSize ← env.integer "CERTIFICATE_MAX_PAGE_SIZE" "100"
  return {
    secretKey := env.value "DJANGO_SECRET_KEY" "django-insecure-change-this-in-production"
    debug, validityDays, expiringDays, defaultPageSize, maxPageSize
    hosts := if debug then ["*"] else env.items "ALLOWED_HOSTS" "localhost,127.0.0.1"
    origins :=
      if debug then debugOrigins
      else env.items "CSRF_TRUSTED_ORIGINS" "https://localhost,https://127.0.0.1"
    database := {
      engine := env.value "DB_ENGINE" "django.db.backends.sqlite3"
      name? := env.lookup ("DB_NAME" : Text)
      user := env.value "DB_USER" ""
      password := env.value "DB_PASSWORD" ""
      host := env.value "DB_HOST" ""
      port := env.value "DB_PORT" "" }
    logLevel := env.value "LOG_LEVEL" "INFO"
    registryLevel := if debug then "DEBUG" else "INFO"
    security? :=
      if debug then none else some { redirect := env.isTrue "SECURE_SSL_REDIRECT" "True" } }

end Deployment

end CertRegistry
