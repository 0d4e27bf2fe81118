import FederatedCatalog.Settings

/-!
# The command line

The flags of the program, the environment variables behind them, and how they become settings. A
flag takes its value from the same word, after an equals sign, or from the next word, which must not
look like a flag. Values are checked when the next flag comes or the words end, so an unknown word
is reported before a bad value right in front of it. A flag on the command line beats its variable,
and a variable beats the usual value.
-/

namespace FederatedCatalog

/-- A setting that has a value on the command line. -/
inductive Setting where
  | listenAddress
  | port
  | secret
  | advertisedHostname
  | connectionInterval
  | exchangeInterval
  | socketTimeout
  | maxWorkers
  deriving Repr, DecidableEq, Inhabited

namespace Setting

/-- Every setting, in the order in which variables are looked at. -/
def all : List Setting :=
  [listenAddress, port, secret, advertisedHostname, connectionInterval, exchangeInterval,
    socketTimeout, maxWorkers]

/-- The flag of a setting, without its dashes. -/
def flag : Setting → String
  | listenAddress => "listen-address"
  | port => "port"
  | secret => "secret"
  | advertisedHostname => "advertisedhostname"
  | connectionInterval => "connectionintervallimit"
  | exchangeInterval => "exchangeinterval"
  | socketTimeout => "timeout"
  | maxWorkers => "max-workers"

/-- The environment variable of a setting. -/
def environmentVariable : Setting → String
  | listenAddress => "MAGPIE_LISTEN_ADDRESS"
  | port => "MAGPIE_PORT"
  | secret => "MAGPIE_SECRET"
  | advertisedHostname => "MAGPIE_ADVERTISED_HOSTNAME"
  | connectionInterval => "MAGPIE_CONNECTION_INTERVAL_LIMIT"
  | exchangeInterval => "MAGPIE_EXCHANGE_INTERVAL"
  | socketTimeout => "MAGPIE_SOCKET_TIMEOUT"
  | maxWorkers => "MAGPIE_MAX_WORKERS"

/-- What a setting is for. -/
def purpose : Setting → String
  | listenAddress => "IP Address to listen on"
  | port => "Server port, an integer"
  | secret => "Secret required to share files; generated when omitted"
  | advertisedHostname => "Advertised hostname"
  | connectionInterval => "Connection interval limit in seconds"
  | exchangeInterval => "Exchange interval in seconds"
  | socketTimeout => "Socket timeout in seconds"
  | maxWorkers => "Maximum concurrently handled connections"

/-- The digits of a number, at least one. -/
def digits? (cs : List Char) : Option Nat :=
  if cs.isEmpty ∨ ¬ cs.all Char.isDigit then none
  else some (cs.foldl (fun n c => 10 * n + (c.toNat - '0'.toNat)) 0)

/-- A number without a minus sign that fits 64 bits. -/
def number? (value : String) : Option UInt64 :=
  let digits := match value.toList with
    | '+' :: cs => cs
    | cs => cs
  ((digits? digits).filter (· < UInt64.size)).map UInt64.ofNat

/-- A port. Zero may carry a minus sign. -/
def port? (value : String) : Option UInt16 :=
  let digits := match value.toList with
    | '-' :: cs => (digits? cs).filter (· == 0)
    | '+' :: cs => digits? cs
    | cs => digits? cs
  (digits.filter (· < 65536)).map UInt16.ofNat

/-- Whether a value can be used for a setting. -/
def accepts (s : Setting) (value : String) : Bool :=
  match s with
  | listenAddress | secret | advertisedHostname => true
  | port => (port? value).isSome
  | connectionInterval | exchangeInterval | socketTimeout | maxWorkers => (number? value).isSome

end Setting

/-- Why a command line yields no settings. -/
inductive CommandLine.Stop where
  /-- The help text is asked for. -/
  | help
  /-- The version is asked for. -/
  | version
  /-- A word is no flag of the program and no value of one. -/
  | unknownArgument
  /-- A flag lacks its value. -/
  | missingValue
  /-- A value cannot be used. -/
  | badValue
  /-- A flag is given twice. -/
  | repeated
  /-- A flag without a value is given one. -/
  | unexpectedValue
  deriving Repr, DecidableEq, Inhabited

/-- The sentence that reports why there are no settings. -/
def CommandLine.Stop.reason : Stop → String
  | help => "the help text was asked for"
  | version => "the version was asked for"
  | unknownArgument => "unexpected argument"
  | missingValue => "a flag lacks its value"
  | badValue => "invalid value"
  | repeated => "a flag cannot be given twice"
  | unexpectedValue => "a flag takes no value but was given one"

/-- What has been read of a command line. -/
structure CommandLine where
  /-- The values of the flags. -/
  values : List (Setting × String) := []
  /-- Whether the debug flag was given. -/
  debug : Bool := false
  /-- The last flag, if its value has not been checked yet, with the value if it has come. -/
  pending : Option (Setting × Option String) := none
  deriving Repr, DecidableEq

namespace CommandLine

/-- The name of the program. -/
def program : String := "magpie"

/-- The version of the program. -/
def version : String := "0.1.0"

/-- The text that answers the question for the version. -/
def versionText : String := program ++ " " ++ version ++ "\n"

/-- The text that answers the question for help. -/
def helpText : String :=
  let line (s : Setting) : String :=
    "      --" ++ s.flag ++ " <VALUE>  " ++ s.purpose ++ " [env: " ++ s.environmentVariable ++ "]\n"
  "Usage: " ++ program ++ " [OPTIONS]\n\nOptions:\n" ++ String.join (Setting.all.map line) ++
    "      --debug  Print debug information\n  -h, --help  Print help\n" ++
    "  -V, --version  Print version\n"

/-- Give a flag its value. -/
def assign (c : CommandLine) (s : Setting) (value : String) : Except Stop CommandLine :=
  if (c.values.lookup s).isSome then .error .repeated
  else if s.accepts value then .ok { c with values := (s, value) :: c.values }
  else .error .badValue

/-- Check the pending flag. -/
def settle (c : CommandLine) : Except Stop CommandLine :=
  match c.pending with
  | none => .ok c
  | some (_, none) => .error .missingValue
  | some (s, some value) => { c with pending := none }.assign s value

/-- Take a flag that stands alone. -/
def takeSwitch (c : CommandLine) (name : String) : Except Stop CommandLine := do
  let c ← c.settle
  if name = "help" then .error .help
  else if name = "version" then .error .version
  else if c.debug then .error .repeated
  else .ok { c with debug := true }

/-- The flags that stand alone. -/
def switches : List String := ["debug", "help", "version"]

/-- Take a word that begins with two dashes, which are left off. -/
def takeLong (c : CommandLine) (word : List Char) : Except Stop CommandLine := do
  let (name, value) := word.span (· != '=')
  let name := String.ofList name
  match Setting.all.find? (·.flag == name), value with
  | some s, _ :: value => (← c.settle).assign s (String.ofList value)
  | some s, [] => .ok { ← c.settle with pending := some (s, none) }
  | none, [] => if switches.contains name then c.takeSwitch name else .error .unknownArgument
  | none, _ => .error (if switches.contains name then .unexpectedValue else .unknownArgument)

/-- Take a word that begins with a single dash, which is left off. -/
def takeShort (c : CommandLine) : List Char → Except Stop CommandLine
  | 'h' :: _ => c.takeSwitch "help"
  | 'V' :: _ => c.takeSwitch "version"
  | _ => .error .unknownArgument

/-- Take a word that is no flag: it is the value of the flag right in front of it. -/
def takeWord (c : CommandLine) (word : String) : Except Stop CommandLine :=
  match c.pending with
  | some (s, none) => .ok { c with pending := some (s, some word) }
  | _ => .error .unknownArgument

/-- Take words one after the other. Two dashes alone end the flags, and nothing may follow them. -/
def takeAll (c : CommandLine) : List String → Except Stop CommandLine
  | [] => c.settle
  | word :: words =>
    match word.toList with
    | ['-', '-'] => if words.isEmpty then c.settle else .error .unknownArgument
    | '-' :: '-' :: name => do takeAll (← c.takeLong name) words
    | '-' :: c' :: cs => do takeAll (← c.takeShort (c' :: cs)) words
    | _ => do takeAll (← c.takeWord word) words

/-- Fill in the variables of the flags that were not given. -/
def takeVariables (c : CommandLine) (environment : String → Option String) :
    Except Stop CommandLine :=
  Setting.all.foldlM (fun c s =>
    match environment s.environmentVariable with
    | some value => if (c.values.lookup s).isSome then .ok c else c.assign s value
    | none => .ok c) c

/-- Read a command line. -/
def read (words : List String) (environment : String → Option String) :
    Except Stop CommandLine := do
  (← ({} : CommandLine).takeAll words).takeVariables environment

/-- The value of a setting, if it was given. -/
def value? (c : CommandLine) (s : Setting) : Option String := c.values.lookup s

/-- A number that was given, or the usual one. -/
def number (c : CommandLine) (s : Setting) (usual : UInt64) : UInt64 :=
  ((c.value? s).bind Setting.number?).getD usual

/-- The settings of a command line; a secret that was not given is the one that was drawn. There is
always at least one worker. -/
def toSettings (c : CommandLine) (drawn : String) : Settings :=
  let usual : Settings := { secret := (c.value? .secret).getD drawn }
  { usual with
    listenAddress := (c.value? .listenAddress).getD usual.listenAddress
    port := ((c.value? .port).bind Setting.port?).getD usual.port
    advertisedHostname := (c.value? .advertisedHostname).getD usual.advertisedHostname
    connectionInterval := c.number .connectionInterval usual.connectionInterval
    exchangeInterval := c.number .exchangeInterval usual.exchangeInterval
    socketTimeout := c.number .socketTimeout usual.socketTimeout
    maxWorkers := max 1 (c.number .maxWorkers usual.maxWorkers)
    debug := c.debug }

end CommandLine

end FederatedCatalog
