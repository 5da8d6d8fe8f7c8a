import GridFilter.Settings
import GridFilter.Text.Affix
import GridFilter.Text.Blank

/-!
# Configuration

Files and the command line set some of the settings and leave the others open.  Files are merged
section by section, the command line goes over what they set, and what is left open has a default.
The web service is configured when its address is set.
-/

namespace GridFilter

/-- How looked-up records are cached. -/
structure LookupSettings where
  cacheEnabled : Bool := true
  /-- How long an answer is kept, in seconds. -/
  cacheSeconds : Nat := 300
  cacheEntries : Nat := 10000
  deriving DecidableEq, Repr

/-- The longest time, in seconds, that an answer can be kept: a thousand years of 365 days. -/
def LookupSettings.longestSeconds : Nat :=
  1000 * 365 * 24 * 60 * 60

/-- Do the settings ask for a cache that keeps answers longer than it can? -/
def LookupSettings.outlastsCache (settings : LookupSettings) : Bool :=
  settings.cacheEnabled && longestSeconds < settings.cacheSeconds

/-- How the web service is reached. -/
structure WebSettings where
  url : String
  token : Option String
  deriving DecidableEq, Repr

/-- Everything that can be configured. -/
structure Config where
  filter : FilterSettings := {}
  lookup : LookupSettings := {}
  web : Option WebSettings := none
  deriving DecidableEq, Repr

/-! ## Files -/

/-- The section of the query layer's conventions. -/
structure FilterSection where
  nameSuffix : Option String := none
  wildcard : Option String := none
  deriving DecidableEq, Repr

/-- The section of the lookup cache. -/
structure LookupSection where
  cacheEnabled : Option Bool := none
  cacheSeconds : Option Nat := none
  cacheEntries : Option Nat := none
  deriving DecidableEq, Repr

/-- The section of the web service. -/
structure WebSection where
  url : Option String := none
  token : Option String := none
  deriving DecidableEq, Repr

/-- A configuration file, whose sections may be missing. -/
structure ConfigFile where
  filter : Option FilterSection := none
  lookup : Option LookupSection := none
  web : Option WebSection := none
  deriving DecidableEq, Repr

/-- The section with what another one sets in place of its own. -/
def FilterSection.merge (current other : FilterSection) : FilterSection where
  nameSuffix := other.nameSuffix.or current.nameSuffix
  wildcard := other.wildcard.or current.wildcard

/-- The section with what another one sets in place of its own. -/
def LookupSection.merge (current other : LookupSection) : LookupSection where
  cacheEnabled := other.cacheEnabled.or current.cacheEnabled
  cacheSeconds := other.cacheSeconds.or current.cacheSeconds
  cacheEntries := other.cacheEntries.or current.cacheEntries

/-- The section with what another one sets in place of its own. -/
def WebSection.merge (current other : WebSection) : WebSection where
  url := other.url.or current.url
  token := other.token.or current.token

namespace ConfigFile

/-- Merges a section that is there into one that may be missing. -/
def mergeSection {σ : Type} (merge : σ → σ → σ) (empty : σ) (current other : Option σ) :
    Option σ :=
  match other with
  | some found => some (merge (current.getD empty) found)
  | none => current

/-- The file with what another one sets in place of its own. -/
def merge (current other : ConfigFile) : ConfigFile where
  filter := mergeSection .merge {} current.filter other.filter
  lookup := mergeSection .merge {} current.lookup other.lookup
  web := mergeSection .merge {} current.web other.web

end ConfigFile

/-! ## Layers -/

/-- Settings from one place, each of which may be left open. -/
structure ConfigLayer where
  nameSuffix : Option String := none
  wildcard : Option String := none
  cacheEnabled : Option Bool := none
  cacheSeconds : Option Nat := none
  cacheEntries : Option Nat := none
  webUrl : Option String := none
  webToken : Option String := none
  deriving DecidableEq, Repr

namespace Config

/-- The configuration of what the command line sets and else a file, with defaults for what both
leave open. -/
def resolve (commandLine : ConfigLayer) (file : ConfigFile) : Config :=
  let plain : Config := {}
  let filter := file.filter.getD {}
  let lookup := file.lookup.getD {}
  let web := file.web.getD {}
  { filter :=
      { nameSuffix := (commandLine.nameSuffix.or filter.nameSuffix).getD plain.filter.nameSuffix
        wildcard := (commandLine.wildcard.or filter.wildcard).getD plain.filter.wildcard }
    lookup :=
      { cacheEnabled :=
          (commandLine.cacheEnabled.or lookup.cacheEnabled).getD plain.lookup.cacheEnabled
        cacheSeconds :=
          (commandLine.cacheSeconds.or lookup.cacheSeconds).getD plain.lookup.cacheSeconds
        cacheEntries :=
          (commandLine.cacheEntries.or lookup.cacheEntries).getD plain.lookup.cacheEntries }
    web := (commandLine.webUrl.or web.url).map fun url =>
      { url := url, token := commandLine.webToken.or web.token } }

/-! ## Checks -/

/-- Why there is no configuration. -/
inductive Failure where
  | notFound (path : String)
  | unreadable (path : String)
  | malformed (path : String)
  | blankNameSuffix
  | emptyWildcard
  | noCacheEntries
  | badUrl (url : String)
  deriving DecidableEq, Repr

/-- The text of a failure. -/
def Failure.message : Failure → String
  | notFound path => "Config file not found: " ++ path
  | unreadable path => "Failed to read config file: " ++ path
  | malformed path => "Failed to parse config file: " ++ path
  | blankNameSuffix => "filter.name_suffix must not be empty"
  | emptyWildcard => "filter.wildcard must not be empty"
  | noCacheEntries =>
    "lookup.cache_max_entries must be greater than 0 when caching is enabled"
  | badUrl url => "webapi.url must start with http:// or https:// (got '" ++ url ++ "')"

/-- Does an address start with one of the two schemes of the web? -/
def isWebUrl (url : String) : Bool :=
  (Text.withoutLead? "http://" url).isSome || (Text.withoutLead? "https://" url).isSome

/-- What is wrong with the address of the web service. -/
def urlFailure? (web : Option WebSettings) : Option Failure :=
  match web with
  | some settings => if isWebUrl settings.url then none else some (.badUrl settings.url)
  | none => none

/-- What is wrong with a configuration, the first of several. -/
def failure? (config : Config) : Option Failure :=
  if Text.isAllBlank config.filter.nameSuffix then some .blankNameSuffix
  else if config.filter.wildcard == "" then some .emptyWildcard
  else if config.lookup.cacheEnabled && config.lookup.cacheEntries == 0 then some .noCacheEntries
  else urlFailure? config.web

/-- The configuration, if nothing is wrong with it. -/
def checked (config : Config) : Except Failure Config :=
  match config.failure? with
  | some failure => .error failure
  | none => .ok config

end Config

end GridFilter
