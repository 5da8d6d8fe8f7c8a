import GridFilter.Association
import GridFilter.Command.Environment
import GridFilter.Config.Basic
import GridFilter.Text.Numeral

/-!
# Command lines

A command line names one of two actions.  Settings may stand before the action and after it, as
`--name value` or `--name=value`; the inputs of the action stand after it.  A value does not begin
with a hyphen unless it follows an equals sign, and no option is given twice in one place.  A
setting that the command line leaves open may come from a variable of the environment.
-/

namespace GridFilter.Command

/-! ## Options -/

/-- The options of the command line. -/
inductive Choice where
  | config
  | nameSuffix
  | wildcard
  | lookupCache
  | lookupCacheTtl
  | lookupCacheMaxEntries
  | webapiUrl
  | webapiToken
  | columns
  | expression
  | records
  | disjunction
  | help
  | version
  deriving DecidableEq, Repr

/-- What the value of an option has to be. -/
inductive ValueKind where
  /-- The option takes no value. -/
  | none
  | text
  /-- A text that is not empty. -/
  | path
  | truth
  | number
  deriving DecidableEq, Repr

namespace Choice

/-- The name of an option after two hyphens. -/
def name : Choice → String
  | config => "config"
  | nameSuffix => "name-suffix"
  | wildcard => "wildcard"
  | lookupCache => "lookup-cache"
  | lookupCacheTtl => "lookup-cache-ttl"
  | lookupCacheMaxEntries => "lookup-cache-max-entries"
  | webapiUrl => "webapi-url"
  | webapiToken => "webapi-token"
  | columns => "columns"
  | expression => "expression"
  | records => "records"
  | disjunction => "or"
  | help => "help"
  | version => "version"

/-- The letter of an option after one hyphen. -/
def letter? : Choice → Option Char
  | config => some 'c'
  | help => some 'h'
  | version => some 'V'
  | _ => Option.none

/-- The variable that gives a setting where the command line does not. -/
def environmentName? : Choice → Option String
  | config => some "TABULA_CONFIG"
  | nameSuffix => some "TABULA_NAME_SUFFIX"
  | wildcard => some "TABULA_WILDCARD"
  | lookupCache => some "TABULA_LOOKUP_CACHE"
  | lookupCacheTtl => some "TABULA_LOOKUP_CACHE_TTL_SECS"
  | lookupCacheMaxEntries => some "TABULA_LOOKUP_CACHE_MAX_ENTRIES"
  | webapiUrl => some "TABULA_WEBAPI_URL"
  | webapiToken => some "TABULA_WEBAPI_TOKEN"
  | _ => Option.none

/-- What the value of an option has to be. -/
def valueKind : Choice → ValueKind
  | config | columns | expression | records => .path
  | nameSuffix | wildcard | webapiUrl | webapiToken => .text
  | lookupCache => .truth
  | lookupCacheTtl | lookupCacheMaxEntries => .number
  | disjunction | help | version => .none

/-- The settings, which may stand before the action and after it. -/
def settings : List Choice :=
  [config, nameSuffix, wildcard, lookupCache, lookupCacheTtl, lookupCacheMaxEntries, webapiUrl,
   webapiToken]

end Choice

/-- Reads a truth value. -/
def readTruth? (text : String) : Option Bool :=
  if text == "true" then some true else if text == "false" then some false else none

/-- Reads a number of sixty-four bits. -/
def readNumber? (text : String) : Option Nat :=
  Text.readUInt64? text.toList

/-- Is a text a value of that kind? -/
def ValueKind.accepts : ValueKind → String → Bool
  | .none => fun _ => false
  | .text => fun _ => true
  | .path => fun text => text != ""
  | .truth => fun text => (readTruth? text).isSome
  | .number => fun text => (readNumber? text).isSome

/-! ## Words of the line -/

/-- The actions. -/
inductive Verb where
  | inspect
  | normalize
  | help
  deriving DecidableEq, Repr

/-- The action of a word. -/
def Verb.ofWord? (word : String) : Option Verb :=
  if word == "inspect" then some inspect
  else if word == "normalize" then some normalize
  else if word == "help" then some help
  else none

/-- Why a command line ends before its action is run. -/
inductive Stop where
  | help
  | version
  | usage
  deriving DecidableEq, Repr

/-- The values given to options; an option without a value has the empty text. -/
abbrev Given := Association Choice String

/-- Gives an option its value, unless it has one already or the value is not of its kind. -/
def give (given : Given) (choice : Choice) (value : String) : Except Stop Given :=
  if given.has choice || !choice.valueKind.accepts value then .error .usage
  else .ok (given.put choice value)

/-- Notes an option that takes no value. -/
def note (given : Given) (choice : Choice) : Except Stop Given :=
  match choice with
  | .help => .error .help
  | .version => .error .version
  | choice => if given.has choice then .error .usage else .ok (given.put choice "")

/-- What a word of the line is. -/
inductive Token where
  /-- Two hyphens, after which there are no options. -/
  | escape
  /-- An option with the value attached to it, if any. -/
  | choice (choice : Choice) (attached : Option String)
  /-- A word that looks like an option and is none. -/
  | unknown
  | word (text : String)

/-- Splits a long option from the value behind its equals sign. -/
def splitLong (body : List Char) : String × Option String :=
  match Text.splitAtFirst? '=' body with
  | some (name, value) => (String.ofList name, some (String.ofList value))
  | none => (String.ofList body, none)

/-- The value attached to a short option, with or without an equals sign. -/
def attachedShort : List Char → Option String
  | [] => none
  | '=' :: rest => some (String.ofList rest)
  | rest => some (String.ofList rest)

/-- Reads a word where the given options may stand. -/
def Token.read (known : List Choice) (text : String) : Token :=
  match text.toList with
  | ['-', '-'] => .escape
  | '-' :: '-' :: body =>
    let (name, attached) := splitLong body
    match known.find? fun choice => choice.name == name with
    | some found => .choice found attached
    | none => .unknown
  | '-' :: first :: rest =>
    match known.find? fun choice => choice.letter? == some first with
    | some found =>
      .choice found (if found.valueKind = .none then none else attachedShort rest)
    | none => .unknown
  | _ => .word text

/-- May a word be the value of the option before it? -/
def isValueWord (text : String) : Bool :=
  match text.toList with
  | '-' :: _ :: _ => false
  | _ => true

/-! ## Reading a line -/

/-- Reads options up to the first word that is none: what was given, and that word with the rest. -/
def readOptions (known : List Choice) (given : Given) :
    List String → Except Stop (Given × List String)
  | [] => .ok (given, [])
  | [text] =>
    match Token.read known text with
    | .escape => .ok (given, [])
    | .choice choice attached =>
      match choice.valueKind, attached with
      | .none, none => (note given choice).map fun given => (given, [])
      | .none, some _ => .error .usage
      | _, some value => (give given choice value).map fun given => (given, [])
      | _, none => .error .usage
    | .unknown => .error .usage
    | .word text => .ok (given, [text])
  | text :: next :: rest =>
    match Token.read known text with
    | .escape => .error .usage
    | .choice choice attached =>
      match choice.valueKind, attached with
      | .none, none =>
        match note given choice with
        | .ok given => readOptions known given (next :: rest)
        | .error stop => .error stop
      | .none, some _ => .error .usage
      | _, some value =>
        match give given choice value with
        | .ok given => readOptions known given (next :: rest)
        | .error stop => .error stop
      | _, none =>
        if isValueWord next then
          match give given choice next with
          | .ok given => readOptions known given rest
          | .error stop => .error stop
        else .error .usage
    | .unknown => .error .usage
    | .word text => .ok (given, text :: next :: rest)

/-- Are the variables of settings that were not given values of the right kind? -/
def variablesFit (environment : Environment) (given : Given) : Bool :=
  Choice.settings.all fun choice =>
    given.has choice ||
      match choice.environmentName?.bind environment.get? with
      | some value => choice.valueKind.accepts value
      | none => true

/-! ## Invocations -/

/-- What the program is asked to do. -/
inductive Action where
  /-- Show the conditions that an expression holds for columns. -/
  | inspect (columns expression : String) (records : Option String)
  /-- Write an expression anew, joined by "and" or by "or". -/
  | normalize (columns expression : String) (disjunction : Bool)
  deriving DecidableEq, Repr

/-- An action with the settings for it. -/
structure Invocation where
  action : Action
  /-- The configuration file that was asked for. -/
  config : Option String
  layer : ConfigLayer
  deriving DecidableEq, Repr

/-- The options that may stand after an action. -/
def Verb.known : Verb → List Choice
  | inspect => Choice.settings ++ [.columns, .expression, .records, .help]
  | normalize => Choice.settings ++ [.columns, .expression, .disjunction, .help]
  | help => []

/-- The action of what was given after it. -/
def Verb.action? (verb : Verb) (given : Given) : Option Action :=
  match verb, given.get? .columns, given.get? .expression with
  | inspect, some columns, some expression =>
    some (.inspect columns expression (given.get? .records))
  | normalize, some columns, some expression =>
    some (.normalize columns expression (given.has .disjunction))
  | _, _, _ => none

/-- The value of a setting: given after the action, else before it, else in the environment. -/
def settingOf (environment : Environment) (before after : Given) (choice : Choice) :
    Option String :=
  (after.get? choice).or ((before.get? choice).or (choice.environmentName?.bind environment.get?))

/-- The layer of settings that a command line makes. -/
def layerOf (setting : Choice → Option String) : ConfigLayer where
  nameSuffix := setting .nameSuffix
  wildcard := setting .wildcard
  cacheEnabled := (setting .lookupCache).bind readTruth?
  cacheSeconds := (setting .lookupCacheTtl).bind readNumber?
  cacheEntries := (setting .lookupCacheMaxEntries).bind readNumber?
  webUrl := setting .webapiUrl
  webToken := setting .webapiToken

/-- Help on the program, or on one action. -/
def readHelp : List String → Stop
  | [] => .help
  | [word] => if (Verb.ofWord? word).isSome then .help else .usage
  | _ => .usage

/-- Reads what follows an action. -/
def readAction (environment : Environment) (before : Given) (verb : Verb)
    (line : List String) : Except Stop Invocation :=
  match readOptions verb.known [] line with
  | .error stop => .error stop
  | .ok (_, _ :: _) => .error .usage
  | .ok (after, []) =>
    match verb.action? after with
    | none => .error .usage
    | some action =>
      if variablesFit environment after && variablesFit environment before then
        let setting := settingOf environment before after
        .ok { action := action, config := setting .config, layer := layerOf setting }
      else .error .usage

/-- Reads a command line. -/
def Invocation.read (environment : Environment) (line : List String) :
    Except Stop Invocation :=
  match readOptions (Choice.settings ++ [.help, .version]) [] line with
  | .error stop => .error stop
  | .ok (_, []) => .error .usage
  | .ok (before, word :: rest) =>
    match Verb.ofWord? word with
    | none => .error .usage
    | some .help => .error (readHelp rest)
    | some verb => readAction environment before verb rest

end GridFilter.Command
