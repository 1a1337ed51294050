/-
  NodeClient.Probe.Arguments
  ──────────────────────────
  The arguments of the probe.

  Each option is named on the command line or in the environment; the command line comes first.
  Of several problems the one met first counts: the arguments are read from the left to the
  right, then the environment in the order of the options, and at last what is missing is found.
  An option keeps its value back until the next option, or the end, is met.
-/
import NodeClient.Address.Socket
import NodeClient.Client.Config

namespace NodeClient.Probe

/-! ## §1. Options. -/

/-- An option of the probe. -/
inductive Flag where
  | address
  | timeoutSecs
  | allowDelayedStart
  | pollSecs
  | listenAt
  deriving Repr, DecidableEq

namespace Flag

/-- Every option, in its order. -/
def all : List Flag := [address, timeoutSecs, allowDelayedStart, pollSecs, listenAt]

/-- The name of an option on the command line. -/
def name : Flag → String
  | address => "address"
  | timeoutSecs => "timeout-secs"
  | allowDelayedStart => "allow-delayed-start"
  | pollSecs => "poll-secs"
  | listenAt => "listen-at"

/-- The name of an option in the environment. -/
def variableName : Flag → String
  | address => "STARKNET_RPC_ADDRESS"
  | timeoutSecs => "STARKNET_RPC_TIMEOUT_SECS"
  | allowDelayedStart => "STARKNET_RPC_ALLOW_DELAYED_START"
  | pollSecs => "STARKNET_PROBE_POLL_SECS"
  | listenAt => "STARKNET_PROBE_LISTEN_AT"

/-- The option with a name on the command line. -/
def ofName? (s : String) : Option Flag := all.find? fun f => f.name == s

end Flag

/-- Why the arguments cannot be used. -/
inductive ArgumentError where
  /-- An option that must be there is not. -/
  | missing
  /-- An argument is neither an option nor the value of one. -/
  | unknown
  /-- An option has no value, or one that is not among the possible ones. -/
  | invalid
  /-- A value cannot be read or is out of range. -/
  | refused
  /-- An option is there twice. -/
  | repeated
  /-- Something that has no value has one. -/
  | excess
  /-- Help is asked for. -/
  | help
  deriving Repr, DecidableEq

/-- The wording of each cause. -/
def ArgumentError.message : ArgumentError → String
  | .missing => "the following required arguments were not provided: --address <URL>"
  | .unknown => "unexpected argument found"
  | .invalid => "an option has no value, or an invalid one"
  | .refused => "the value of an option is invalid"
  | .repeated => "an option cannot be used multiple times"
  | .excess => "an unexpected value was found"
  | .help => "Polls a Starknet JSON-RPC node and reports how far it lags behind the chain"

/-! ## §2. Values. -/

/-- A number of seconds, at least one. -/
def seconds? (s : String) : Option UInt64 := (Decimal.u64? s.toList).filter (1 ≤ ·)

/-- The options that have a value so far. -/
structure Given where
  address : Option String := none
  timeoutSecs : Option UInt64 := none
  allowDelayedStart : Option Bool := none
  pollSecs : Option UInt64 := none
  listenAt : Option SocketAddress := none
  deriving Repr, DecidableEq

namespace Given

/-- Whether an option has a value. -/
def has (g : Given) : Flag → Bool
  | .address => g.address.isSome
  | .timeoutSecs => g.timeoutSecs.isSome
  | .allowDelayedStart => g.allowDelayedStart.isSome
  | .pollSecs => g.pollSecs.isSome
  | .listenAt => g.listenAt.isSome

/-- Gives an option the value that a text stands for. -/
def set (g : Given) (f : Flag) (text : String) : Except ArgumentError Given :=
  match f with
  | .address => .ok { g with address := some text }
  | .timeoutSecs =>
      match seconds? text with
      | some n => .ok { g with timeoutSecs := some n }
      | none => .error .refused
  | .allowDelayedStart =>
      match text with
      | "true" => .ok { g with allowDelayedStart := some true }
      | "false" => .ok { g with allowDelayedStart := some false }
      | _ => .error .invalid
  | .pollSecs =>
      match seconds? text with
      | some n => .ok { g with pollSecs := some n }
      | none => .error .refused
  | .listenAt =>
      match SocketAddress.parse? text.toList with
      | some a => .ok { g with listenAt := some a }
      | none => .error .refused

/-- Gives an option of the command line its value. -/
def supply (g : Given) (f : Flag) (value : Option String) : Except ArgumentError Given :=
  match value with
  | none => .error .invalid
  | some text => if g.has f then .error .repeated else g.set f text

/-- Gives an option the value it has in the environment, unless it has one. -/
def fall (env : String → Option String) (g : Given) (f : Flag) : Except ArgumentError Given :=
  if g.has f then .ok g
  else
    match env f.variableName with
    | some text => g.set f text
    | none => .ok g

end Given

/-! ## §3. The command line. -/

/-- An argument by its form. -/
inductive Token where
  /-- Two dashes alone: what follows are no options. -/
  | stop
  /-- A name behind two dashes, and what follows an equals sign. -/
  | long (name : String) (value : Option String)
  /-- The first letter behind one dash. -/
  | short (letter : Char)
  | plain

/-- The form of an argument. -/
def Token.ofArgument (s : String) : Token :=
  match s.toList with
  | ['-', '-'] => stop
  | '-' :: '-' :: rest =>
      match Text.cut? '=' rest with
      | some (name, value) => long (String.ofList name) (some (String.ofList value))
      | none => long (String.ofList rest) none
  | '-' :: letter :: _ => short letter
  | _ => plain

/-- An option whose value is kept back, with the value if it has been met. -/
abbrev Kept := Option (Flag × Option String)

/-- Gives the option that was kept back its value. -/
def flush (g : Given) : Kept → Except ArgumentError Given
  | none => .ok g
  | some (f, value) => g.supply f value

/-- Reads the arguments. -/
def readArguments (g : Given) (kept : Kept) : List String → Except ArgumentError Given
  | [] => flush g kept
  | arg :: rest =>
      match Token.ofArgument arg with
      | .stop => if rest.isEmpty then flush g kept else .error .unknown
      | .long "help" none | .short 'h' => do
          let _ ← flush g kept
          .error .help
      | .long "help" (some _) => .error .excess
      | .long name value =>
          match Flag.ofName? name with
          | none => .error .unknown
          | some f => do
              let g ← flush g kept
              match value with
              | none => readArguments g (some (f, none)) rest
              | some _ => readArguments (← g.supply f value) none rest
      | .short _ => .error .unknown
      | .plain =>
          match kept with
          | some (f, none) => readArguments g (some (f, some arg)) rest
          | _ => .error .unknown

/-! ## §4. The arguments as a whole. -/

/-- What the probe is told. -/
structure Arguments where
  address : String
  timeoutSecs : UInt64
  allowDelayedStart : Bool
  pollSecs : UInt64
  listenAt : Option SocketAddress
  deriving Repr, DecidableEq

namespace Arguments

/-- The arguments on a command line, in an environment. -/
def parse (args : List String) (env : String → Option String) :
    Except ArgumentError Arguments := do
  let g ← readArguments {} none args
  let g ← Flag.all.foldlM (Given.fall env) g
  let some address := g.address | .error .missing
  return {
    address
    timeoutSecs := g.timeoutSecs.getD 2
    allowDelayedStart := g.allowDelayedStart.getD false
    pollSecs := g.pollSecs.getD 10
    listenAt := g.listenAt }

/-- The settings of the client that the probe uses. -/
def settings (a : Arguments) : Settings where
  address := some a.address
  timeout := a.timeoutSecs.toNat * 1000000000
  allowDelayedStart := a.allowDelayedStart

end Arguments

end NodeClient.Probe
