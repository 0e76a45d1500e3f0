import CertRegistry.Failure
import CertRegistry.Settings.Basic
import CertRegistry.Settings.Languages

/-!
# Named settings

All settings that can be asked for by name, with the values that they have where nothing is
changed: those of the registry and those of the framework that serves it. Two of them are paths,
which are given below the root and count as missing where they are no texts, and one must not be
empty.
-/

namespace CertRegistry.Settings

/-- A list of texts as a value. -/
def texts (ts : List String) : Json := .list (ts.map fun t => .text (Text.ofString t))

/-- What is installed. -/
def installed : List (Text × Json) :=
  [("INSTALLED_APPS", texts ["django.contrib.admin", "django.contrib.auth",
      "django.contrib.contenttypes", "django.contrib.sessions", "django.contrib.messages",
      "django.contrib.staticfiles", "rest_framework", "corsheaders", "apps.certificates"]),
    ("MIDDLEWARE", texts ["django.middleware.security.SecurityMiddleware",
      "django.contrib.sessions.middleware.SessionMiddleware",
      "corsheaders.middleware.CorsMiddleware", "django.middleware.common.CommonMiddleware",
      "django.middleware.csrf.CsrfViewMiddleware",
      "django.contrib.auth.middleware.AuthenticationMiddleware",
      "django.contrib.messages.middleware.MessageMiddleware",
      "django.middleware.clickjacking.XFrameOptionsMiddleware"]),
    ("ROOT_URLCONF", .text "config.urls"),
    ("WSGI_APPLICATION", .text "config.wsgi.application"),
    ("TEMPLATES", .list [.object [
      ("BACKEND", .text "django.template.backends.django.DjangoTemplates"),
      ("DIRS", .list []), ("APP_DIRS", .bool true),
      ("OPTIONS", .object [("context_processors", texts [
        "django.template.context_processors.debug",
        "django.template.context_processors.request",
        "django.contrib.auth.context_processors.auth",
        "django.contrib.messages.context_processors.messages"])])]]),
    ("REST_FRAMEWORK", .object [
      ("DEFAULT_AUTHENTICATION_CLASSES", texts [
        "rest_framework.authentication.SessionAuthentication",
        "rest_framework.authentication.BasicAuthentication"]),
      ("DEFAULT_PERMISSION_CLASSES", texts ["rest_framework.permissions.IsAuthenticated"]),
      ("DATETIME_FORMAT", .text "iso-8601")]),
    ("DEFAULT_AUTO_FIELD", .text "django.db.models.BigAutoField"),
    ("SETTINGS_MODULE", .null), ("DATABASE_ROUTERS", .list []), ("MIGRATION_MODULES", .object []),
    ("DEFAULT_TABLESPACE", .text ""), ("DEFAULT_INDEX_TABLESPACE", .text ""),
    ("DEFAULT_CHARSET", .text "utf-8"), ("APPEND_SLASH", .bool true),
    ("PREPEND_WWW", .bool false), ("FORCE_SCRIPT_NAME", .null),
    ("ABSOLUTE_URL_OVERRIDES", .object []), ("IGNORABLE_404_URLS", .list []),
    ("DISALLOWED_USER_AGENTS", .list []),
    ("FORM_RENDERER", .text "django.forms.renderers.DjangoTemplates"),
    ("FORMS_URLFIELD_ASSUME_HTTPS", .bool false),
    ("MESSAGE_STORAGE", .text "django.contrib.messages.storage.fallback.FallbackStorage"),
    ("SIGNING_BACKEND", .text "django.core.signing.TimestampSigner"),
    ("DEFAULT_EXCEPTION_REPORTER", .text "django.views.debug.ExceptionReporter"),
    ("DEFAULT_EXCEPTION_REPORTER_FILTER",
      .text "django.views.debug.SafeExceptionReporterFilter"),
    ("TEST_RUNNER", .text "django.test.runner.DiscoverRunner"),
    ("TEST_NON_SERIALIZED_APPS", .list []), ("SILENCED_SYSTEM_CHECKS", .list [])]

/-- Who may do what. -/
def access : List (Text × Json) :=
  [("SECRET_KEY", .text "django-insecure-change-this-in-production"),
    ("SECRET_KEY_FALLBACKS", .list []), ("ALLOWED_HOSTS", texts ["*"]),
    ("CSRF_TRUSTED_ORIGINS", texts ["http://localhost", "http://127.0.0.1",
      "https://localhost", "https://127.0.0.1"]),
    ("CORS_ALLOW_ALL_ORIGINS", .bool true),
    ("AUTH_USER_MODEL", .text "auth.User"),
    ("AUTHENTICATION_BACKENDS", texts ["django.contrib.auth.backends.ModelBackend"]),
    ("AUTH_PASSWORD_VALIDATORS",
      .list (["UserAttributeSimilarityValidator", "MinimumLengthValidator",
        "CommonPasswordValidator", "NumericPasswordValidator"].map fun name : String =>
        .object [("NAME", .text ("django.contrib.auth.password_validation." ++ name : String))])),
    ("PASSWORD_HASHERS",
      .list (["PBKDF2PasswordHasher", "PBKDF2SHA1PasswordHasher", "Argon2PasswordHasher",
        "BCryptSHA256PasswordHasher", "ScryptPasswordHasher"].map fun name : String =>
        .text ("django.contrib.auth.hashers." ++ name : String))),
    ("PASSWORD_RESET_TIMEOUT", .int 259200), ("LOGIN_URL", .text "/accounts/login/"),
    ("LOGIN_REDIRECT_URL", .text "/accounts/profile/"), ("LOGOUT_REDIRECT_URL", .null)]

/-- How sessions are kept. -/
def sessions : List (Text × Json) :=
  [("SESSION_COOKIE_NAME", .text "sessionid"), ("SESSION_COOKIE_AGE", .int 1209600),
    ("SESSION_COOKIE_DOMAIN", .null), ("SESSION_COOKIE_PATH", .text "/"),
    ("SESSION_COOKIE_SECURE", .bool false), ("SESSION_COOKIE_HTTPONLY", .bool true),
    ("SESSION_COOKIE_SAMESITE", .text "Lax"), ("SESSION_CACHE_ALIAS", .text "default"),
    ("SESSION_SAVE_EVERY_REQUEST", .bool false), ("SESSION_EXPIRE_AT_BROWSER_CLOSE", .bool false),
    ("SESSION_ENGINE", .text "django.contrib.sessions.backends.db"),
    ("SESSION_FILE_PATH", .null),
    ("SESSION_SERIALIZER", .text "django.contrib.sessions.serializers.JSONSerializer")]

/-- The cookies that are no sessions, and the cache. -/
def cookies : List (Text × Json) :=
  [("CSRF_COOKIE_NAME", .text "csrftoken"), ("CSRF_COOKIE_AGE", .int 31449600),
    ("CSRF_COOKIE_DOMAIN", .null), ("CSRF_COOKIE_PATH", .text "/"),
    ("CSRF_COOKIE_SECURE", .bool false), ("CSRF_COOKIE_HTTPONLY", .bool false),
    ("CSRF_COOKIE_SAMESITE", .text "Lax"), ("CSRF_HEADER_NAME", .text "HTTP_X_CSRFTOKEN"),
    ("CSRF_FAILURE_VIEW", .text "django.views.csrf.csrf_failure"),
    ("CSRF_USE_SESSIONS", .bool false), ("LANGUAGE_COOKIE_NAME", .text "django_language"),
    ("LANGUAGE_COOKIE_AGE", .null), ("LANGUAGE_COOKIE_DOMAIN", .null),
    ("LANGUAGE_COOKIE_PATH", .text "/"), ("LANGUAGE_COOKIE_SECURE", .bool false),
    ("LANGUAGE_COOKIE_HTTPONLY", .bool false), ("LANGUAGE_COOKIE_SAMESITE", .null),
    ("CACHES", .object [("default",
      .object [("BACKEND", .text "django.core.cache.backends.locmem.LocMemCache")])]),
    ("CACHE_MIDDLEWARE_ALIAS", .text "default"), ("CACHE_MIDDLEWARE_KEY_PREFIX", .text ""),
    ("CACHE_MIDDLEWARE_SECONDS", .int 600)]

/-- How connections are secured. -/
def security : List (Text × Json) :=
  [("SECURE_CONTENT_TYPE_NOSNIFF", .bool true), ("X_FRAME_OPTIONS", .text "DENY"),
    ("SECURE_SSL_REDIRECT", .bool false), ("SECURE_SSL_HOST", .null),
    ("SECURE_REDIRECT_EXEMPT", .list []), ("SECURE_HSTS_SECONDS", .int 0),
    ("SECURE_HSTS_INCLUDE_SUBDOMAINS", .bool false), ("SECURE_HSTS_PRELOAD", .bool false),
    ("SECURE_PROXY_SSL_HEADER", .null), ("SECURE_REFERRER_POLICY", .text "same-origin"),
    ("SECURE_CROSS_ORIGIN_OPENER_POLICY", .text "same-origin"),
    ("USE_X_FORWARDED_HOST", .bool false), ("USE_X_FORWARDED_PORT", .bool false)]

/-- Logs, files and sizes. -/
def files : List (Text × Json) :=
  [("LOG_LEVEL", .text "INFO"), ("LOGGING_CONFIG", .text "logging.config.dictConfig"),
    ("DEBUG_PROPAGATE_EXCEPTIONS", .bool false), ("FIXTURE_DIRS", .list []),
    ("STATIC_URL", .text "static/"), ("MEDIA_URL", .text ""), ("MEDIA_ROOT", .text ""),
    ("STATICFILES_DIRS", .list []),
    ("STATICFILES_FINDERS", texts ["django.contrib.staticfiles.finders.FileSystemFinder",
      "django.contrib.staticfiles.finders.AppDirectoriesFinder"]),
    ("STORAGES", .object [
      ("default", .object [("BACKEND", .text "django.core.files.storage.FileSystemStorage")]),
      ("staticfiles", .object [
        ("BACKEND", .text "django.contrib.staticfiles.storage.StaticFilesStorage")])]),
    ("FILE_UPLOAD_HANDLERS", texts ["django.core.files.uploadhandler.MemoryFileUploadHandler",
      "django.core.files.uploadhandler.TemporaryFileUploadHandler"]),
    ("FILE_UPLOAD_MAX_MEMORY_SIZE", .int 2621440), ("FILE_UPLOAD_TEMP_DIR", .null),
    ("FILE_UPLOAD_PERMISSIONS", .int 420), ("FILE_UPLOAD_DIRECTORY_PERMISSIONS", .null),
    ("DATA_UPLOAD_MAX_NUMBER_FILES", .int 100)]

/-- Who gets mail, and how it is sent. -/
def mail : List (Text × Json) :=
  [("ADMINS", .list []), ("MANAGERS", .list []), ("INTERNAL_IPS", .list []),
    ("DEFAULT_FROM_EMAIL", .text "webmaster@localhost"),
    ("SERVER_EMAIL", .text "root@localhost"), ("EMAIL_SUBJECT_PREFIX", .text "[Django] "),
    ("EMAIL_BACKEND", .text "django.core.mail.backends.smtp.EmailBackend"),
    ("EMAIL_HOST", .text "localhost"), ("EMAIL_PORT", .int 25),
    ("EMAIL_HOST_USER", .text ""), ("EMAIL_HOST_PASSWORD", .text ""),
    ("EMAIL_USE_LOCALTIME", .bool false), ("EMAIL_USE_TLS", .bool false),
    ("EMAIL_USE_SSL", .bool false), ("EMAIL_SSL_CERTFILE", .null), ("EMAIL_SSL_KEYFILE", .null),
    ("EMAIL_TIMEOUT", .null)]

/-- Languages, and how dates and numbers are written and read. -/
def formats : List (Text × Json) :=
  [("LANGUAGE_CODE", .text "zh-hans"), ("TIME_ZONE", .text "Asia/Shanghai"),
    ("LANGUAGES", languagesJson), ("LANGUAGES_BIDI", texts rightToLeft),
    ("USE_I18N", .bool true), ("USE_TZ", .bool true), ("LOCALE_PATHS", .list []),
    ("FORMAT_MODULE_PATH", .null), ("DATE_FORMAT", .text "N j, Y"),
    ("DATETIME_FORMAT", .text "N j, Y, P"), ("TIME_FORMAT", .text "P"),
    ("YEAR_MONTH_FORMAT", .text "F Y"), ("MONTH_DAY_FORMAT", .text "F j"),
    ("SHORT_DATE_FORMAT", .text "m/d/Y"), ("SHORT_DATETIME_FORMAT", .text "m/d/Y P"),
    ("DATE_INPUT_FORMATS", texts ["%Y-%m-%d", "%m/%d/%Y", "%m/%d/%y", "%b %d %Y", "%b %d, %Y",
      "%d %b %Y", "%d %b, %Y", "%B %d %Y", "%B %d, %Y", "%d %B %Y", "%d %B, %Y"]),
    ("TIME_INPUT_FORMATS", texts ["%H:%M:%S", "%H:%M:%S.%f", "%H:%M"]),
    ("DATETIME_INPUT_FORMATS", texts (["%Y-%m-%d ", "%m/%d/%Y ", "%m/%d/%y "].flatMap fun date =>
      ["%H:%M:%S", "%H:%M:%S.%f", "%H:%M"].map fun time => date ++ time)),
    ("FIRST_DAY_OF_WEEK", .int 0), ("DECIMAL_SEPARATOR", .text "."),
    ("USE_THOUSAND_SEPARATOR", .bool false), ("NUMBER_GROUPING", .int 0),
    ("THOUSAND_SEPARATOR", .text ",")]

/-- All settings by name. -/
def standard : List (Text × Json) :=
  table ++ installed ++ access ++ sessions ++ cookies ++ security ++ files ++ mail ++ formats

/-- The settings that are paths. -/
def pathNames : List Text := ["STATIC_URL", "MEDIA_URL"]

/-- A path below the root, unless it begins there or at another host. -/
def belowRoot (t : Text) : Text :=
  let starts (front : Text) : Bool := front.isPrefixOf t
  if starts "/" || starts "http://" || starts "https://" then t else "/" ++ t

/-- The value of a path: null stays, and what is no text is none. -/
def pathValue? : Json → Option Json
  | .null => some .null
  | .text t => some (.text (belowRoot t))
  | _ => none

/-- The value of a named setting under some changes, if it has one. That there are settings at all
is settled whatever the changes are. -/
def named? (o : Overrides) (name : Text) : Except Failure (Option Json) :=
  if name = "configured" then .ok (some (.bool true))
  else if name ∈ pathNames then .ok ((o.lookup standard name).bind pathValue?)
  else
    match o.lookup standard name with
    | some v => if name = "SECRET_KEY" ∧ !v.isTrue then .error .noSecret else .ok (some v)
    | none => .ok none

end CertRegistry.Settings
