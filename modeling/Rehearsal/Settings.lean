import Rehearsal.Files.Path
import Rehearsal.Value
/-!
The settings of a run. Each setting has a key, and the key has a kind that says what its values are;
settings give every key a value of its kind. Delays and windows are in seconds, timeouts in
milliseconds, where zero means no timeout.
-/
namespace Rehearsal

inductive Key where
  | browserTimeout
  | settleDelay
  | postGotoDelay
  | postClickDelay
  | clickAttempts
  | clickVisibleTimeout
  | clickTimeout
  | clickRetryDelay
  | reloadSettleDelay
  | fillTimeout
  | popupTimeout
  | popupPollInterval
  | popupInitialDelay
  | popupLoadTimeout
  | popupSettleDelay
  | popupDomains
  | loopMaxAttempts
  | loopSettleDelay
  | loopActionTimeout
  | captureLoopIterations
  | screenshotsDir
  | screenshotType
  | screenshotQuality
  | screenshotFullPage
  | headless
  | cdpUrl
  | launchArgs
  | userAgent
  | viewportWidth
  | viewportHeight
  | locale
  | ignoreHttpsErrors
  | accountChooserHost
  | accountChooserAccount
  | host
  | serverPort
  | corsOrigin
  | dashboardRefresh
deriving Repr, DecidableEq

/-- What the values of a setting are. -/
inductive Kind where
  | flag
  | count
  | seconds
  | folder
  | names
  | text
deriving Repr, DecidableEq

/-- The values of a kind. -/
abbrev Kind.Carrier : Kind → Type
  | flag => Bool
  | count => Int
  | seconds => Float
  | folder => Path
  | names => List String
  | text => String

namespace Key

/-- The name under which the setting is given. -/
def name : Key → String
  | browserTimeout => "browser_timeout_ms"
  | settleDelay => "settle_delay"
  | postGotoDelay => "post_goto_delay"
  | postClickDelay => "post_click_delay"
  | clickAttempts => "click_attempts"
  | clickVisibleTimeout => "click_visible_timeout_ms"
  | clickTimeout => "click_timeout_ms"
  | clickRetryDelay => "click_retry_delay"
  | reloadSettleDelay => "reload_settle_delay"
  | fillTimeout => "fill_timeout_ms"
  | popupTimeout => "popup_timeout"
  | popupPollInterval => "popup_poll_interval"
  | popupInitialDelay => "popup_initial_delay"
  | popupLoadTimeout => "popup_load_timeout_ms"
  | popupSettleDelay => "popup_settle_delay"
  | popupDomains => "popup_domains"
  | loopMaxAttempts => "loop_max_attempts"
  | loopSettleDelay => "loop_settle_delay"
  | loopActionTimeout => "loop_action_timeout_ms"
  | captureLoopIterations => "capture_loop_iterations"
  | screenshotsDir => "screenshots_dir"
  | screenshotType => "screenshot_type"
  | screenshotQuality => "screenshot_quality"
  | screenshotFullPage => "screenshot_full_page"
  | headless => "headless"
  | cdpUrl => "cdp_url"
  | launchArgs => "launch_args"
  | userAgent => "user_agent"
  | viewportWidth => "viewport_width"
  | viewportHeight => "viewport_height"
  | locale => "locale"
  | ignoreHttpsErrors => "ignore_https_errors"
  | accountChooserHost => "account_chooser_host"
  | accountChooserAccount => "account_chooser_account"
  | host => "host"
  | serverPort => "port"
  | corsOrigin => "cors_origin"
  | dashboardRefresh => "dashboard_refresh_ms"

@[reducible] def kind : Key → Kind
  | captureLoopIterations | screenshotFullPage | headless | ignoreHttpsErrors => .flag
  | browserTimeout | clickAttempts | clickVisibleTimeout | clickTimeout | fillTimeout
  | popupLoadTimeout | loopMaxAttempts | loopActionTimeout | screenshotQuality
  | viewportWidth | viewportHeight | serverPort | dashboardRefresh => .count
  | settleDelay | postGotoDelay | postClickDelay | clickRetryDelay | reloadSettleDelay
  | popupTimeout | popupPollInterval | popupInitialDelay | popupSettleDelay
  | loopSettleDelay => .seconds
  | screenshotsDir => .folder
  | popupDomains | launchArgs => .names
  | screenshotType | cdpUrl | userAgent | locale | accountChooserHost | accountChooserAccount
  | host | corsOrigin => .text

def every : List Key :=
  [browserTimeout, settleDelay, postGotoDelay, postClickDelay, clickAttempts, clickVisibleTimeout,
    clickTimeout, clickRetryDelay, reloadSettleDelay, fillTimeout, popupTimeout, popupPollInterval,
    popupInitialDelay, popupLoadTimeout, popupSettleDelay, popupDomains, loopMaxAttempts,
    loopSettleDelay, loopActionTimeout, captureLoopIterations, screenshotsDir, screenshotType,
    screenshotQuality, screenshotFullPage, headless, cdpUrl, launchArgs, userAgent, viewportWidth,
    viewportHeight, locale, ignoreHttpsErrors, accountChooserHost, accountChooserAccount, host,
    serverPort, corsOrigin, dashboardRefresh]

theorem mem_every (k : Key) : k ∈ every := by cases k <;> decide

def ofName (s : String) : Option Key := every.find? (·.name = s)

/-- How the browser names itself to sites. -/
def standardAgent : String :=
  "Mozilla/5.0 (Windows NT 10.0; Win64; x64) AppleWebKit/537.36 " ++
    "(KHTML, like Gecko) Chrome/120.0.0.0 Safari/537.36"

def standardArgs : List String :=
  ["--no-sandbox", "--disable-setuid-sandbox", "--disable-dev-shm-usage", "--disable-gpu",
    "--no-first-run", "--no-zygote", "--disable-web-security", "--disable-popup-blocking",
    "--disable-features=VizDisplayCompositor", "--allow-running-insecure-content",
    "--disable-extensions-file-access-check", "--disable-ipc-flooding-protection"]

/-- The value of a setting that nobody gives. -/
def standard : (k : Key) → k.kind.Carrier
  | browserTimeout => (0 : Int)
  | settleDelay => (0.5 : Float)
  | postGotoDelay => (2 : Float)
  | postClickDelay => (1 : Float)
  | clickAttempts => (3 : Int)
  | clickVisibleTimeout => (30000 : Int)
  | clickTimeout => (10000 : Int)
  | clickRetryDelay => (3 : Float)
  | reloadSettleDelay => (2 : Float)
  | fillTimeout => (10000 : Int)
  | popupTimeout => (60 : Float)
  | popupPollInterval => (1 : Float)
  | popupInitialDelay => (3 : Float)
  | popupLoadTimeout => (15000 : Int)
  | popupSettleDelay => (3 : Float)
  | popupDomains => ([] : List String)
  | loopMaxAttempts => (10 : Int)
  | loopSettleDelay => (3 : Float)
  | loopActionTimeout => (10000 : Int)
  | captureLoopIterations => false
  | screenshotsDir => ({ names := ["screenshots"] } : Path)
  | screenshotType => "jpeg"
  | screenshotQuality => (80 : Int)
  | screenshotFullPage => true
  | headless => true
  | cdpUrl => ""
  | launchArgs => standardArgs
  | userAgent => standardAgent
  | viewportWidth => (1920 : Int)
  | viewportHeight => (1080 : Int)
  | locale => "pt-BR"
  | ignoreHttpsErrors => true
  | accountChooserHost => "accounts.google.com"
  | accountChooserAccount => ""
  | host => "0.0.0.0"
  | serverPort => (3000 : Int)
  | corsOrigin => "*"
  | dashboardRefresh => (30000 : Int)

end Key

/-- A value of its kind for every key. -/
def Settings := (k : Key) → k.kind.Carrier

namespace Settings

/-- The settings when nothing is given. -/
def standard : Settings := Key.standard

/-- Changes one setting. -/
def assign (s : Settings) (k : Key) (v : k.kind.Carrier) : Settings := fun j =>
  if h : j = k then h ▸ v else s j

@[simp] theorem assign_same (s : Settings) (k : Key) (v : k.kind.Carrier) : s.assign k v k = v := by
  simp [assign]

theorem assign_other (s : Settings) {j k : Key} (v : k.kind.Carrier) (h : j ≠ k) :
    s.assign k v j = s j := by
  simp [assign, h]

/-- A value of a kind as untyped data. -/
def untyped : (kind : Kind) → kind.Carrier → Value
  | .flag, b => .flag b
  | .count, n => .int n
  | .seconds, x => .float x
  | .folder, p => .text (Path.text p)
  | .names, l => .list (l.map .text)
  | .text, s => .text s

def valueOf (s : Settings) (k : Key) : Value := untyped k.kind (s k)

/-- Not-a-number differs from itself. -/
def same : (kind : Kind) → kind.Carrier → kind.Carrier → Bool
  | .flag, a, b => a == b
  | .count, a, b => a == b
  | .seconds, a, b => a == b
  | .folder, a, b => a == b
  | .names, a, b => a == b
  | .text, a, b => a == b

/-- The settings that differ from the standard ones. -/
def changes (s : Settings) : List (Key × Value) :=
  (Key.every.filter fun k => !same k.kind (s k) (standard k)).map fun k => (k, s.valueOf k)

/-- All settings by name. -/
def toFields (s : Settings) : List (String × Value) := Key.every.map fun k => (k.name, s.valueOf k)

end Settings
end Rehearsal
