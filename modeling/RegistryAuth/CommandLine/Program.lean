import RegistryAuth.CommandLine.Arguments
import RegistryAuth.Configuration.Components
import RegistryAuth.Configuration.Load

/-! # The program

The program hashes a password from its input, or loads its configuration, builds
its components and serves. A failure is reported by its causes, the outermost
first.
-/

namespace RegistryAuth.CommandLine

/-- What the program is run with. -/
structure Surroundings where
  arguments : List String
  environment : List (String × String)
  input : Bytes
  files : Files
  /-- The working directory, for messages. -/
  directory : String
  /-- Fresh random bytes. -/
  salt : Bytes

/-- How a run goes: it prints a text, misuses the command line, fails, or goes on to serve. -/
inductive Ending where
  | printed (text : String)
  | misused (fault : ArgumentFault)
  | failed (causes : List String)
  | serving (server : Http.Server) (address : SocketAddress) (log : List LogEvent)

def programName : String := "registry-auth"

def programVersion : String := "0.1.0"

def versionText : String := s!"{programName} {programVersion}\n"

def helpText : String :=
  "Token authentication server for Docker/OCI registries\n\n" ++
  s!"Usage: {programName} [OPTIONS] [COMMAND]\n\n" ++
  "Commands:\n" ++
  "  hash-password  Read a password from stdin and print its Argon2id hash for a user entry\n" ++
  "  help           Print this message or the help of the given subcommand(s)\n\n" ++
  "Options:\n" ++
  "  -c, --config <PATH>  Path to the configuration file [env: REGISTRY_AUTH_CONFIG=] " ++
  "[default: config.yaml]\n" ++
  "      --addr <ADDR>    Address to listen on, overrides \x60server.listen_addr\x60\n" ++
  "      --realm <REALM>  Authentication realm, overrides \x60server.realm\x60\n" ++
  "      --debug          Log at debug level regardless of RUST_LOG\n" ++
  "  -h, --help           Print help\n" ++
  "  -V, --version        Print version\n"

/-- Names the configuration file if the arguments do not. -/
def configVariable : String := "REGISTRY_AUTH_CONFIG"

def defaultConfig : String := "config.yaml"

/-- The path of the configuration file, which is not empty. -/
def configPath (arguments : Arguments) (environment : List (String × String)) :
    Except ArgumentFault String :=
  match arguments.config, environment.lookup configVariable with
  | some path, _ => .ok path
  | none, some path => if path.isEmpty then .error (.missingValue .config) else .ok path
  | none, none => .ok defaultConfig

/-- The files that a run may read its configuration from. -/
def configFiles (surroundings : Surroundings) : List String :=
  match Arguments.parse surroundings.arguments with
  | .error _ => []
  | .ok arguments =>
    match configPath arguments surroundings.environment with
    | .error _ => []
    | .ok path => path :: Layer.extensions.map fun (extension, _) => Layer.withExtension path extension

/-- What lies above the configuration: settings given as arguments. -/
def overrides (arguments : Arguments) : List (String × String) :=
  (arguments.address.map fun address => ("server.listen_addr", address)).toList ++
    (arguments.realm.map fun realm => ("server.realm", realm)).toList

def isLineEnd (c : Char) : Bool := c = '\r' || c = '\n'

/-- Hashes the password that the input holds, without the line ends after it. -/
def hashInput (input salt : Bytes) : Ending :=
  match Bytes.toText? input with
  | none => .failed ["reading password from stdin", "stream did not contain valid UTF-8"]
  | some text =>
    let password := String.ofList (text.toList.reverse.dropWhile isLineEnd).reverse
    if password.isEmpty then .failed ["empty password"]
    else .printed ((Password.hash salt password).render ++ "\n")

/-- An error by its causes: a failed build of the configuration has a cause of its own. -/
def causes : ConfigError → List String
  | .build cause => [(ConfigError.build cause).message, cause.message]
  | e => [e.message]

def failure (action : String) (e : ConfigError) : Ending :=
  .failed (action :: causes e)

/-- The event that reports the configuration in use. -/
def loadedEvent (configuration : Configuration) : LogEvent :=
  ⟨.info, "configuration loaded",
    [("realm", .text configuration.server.realm),
      ("request_timeout", .text (toString configuration.server.requestTimeout)),
      ("rotate_refresh_tokens", .flag configuration.server.rotateRefreshTokens),
      ("password_authenticator", .text configuration.passwordAuthenticator.type),
      ("authorizer", .text configuration.authorizer.type)]⟩

def serve (surroundings : Surroundings) (arguments : Arguments) (path : String) : Ending :=
  match Configuration.load surroundings.files surroundings.directory path
      surroundings.environment (overrides arguments) with
  | .error e => failure ("loading configuration from " ++ path) e
  | .ok configuration =>
    match configuration.server.socketAddress with
    | .error e => .failed (causes e)
    | .ok address =>
      let registries := Registries.builtin surroundings.files surroundings.salt
      let ready := do
        let components ← configuration.buildComponents registries
        return (← components.component.tokenService, components.log)
      match ready with
      | .error e => failure "building components" e
      | .ok (service, log) =>
        .serving (.ofSettings configuration.server service) address
          (log ++ [loadedEvent configuration])

/-- The key files that a configuration refers to. -/
def keyFiles (configuration : Configuration) : List String :=
  [configuration.accessTokenIssuer, configuration.refreshTokenIssuer].flatMap fun component =>
    match component.config.member? "signing_key" with
    | none => []
    | some key =>
      ["private_key_file", "public_key_file"].filterMap fun name =>
        match key.member? name with
        | some (.string path) => some path
        | _ => none

/-- The key files that a run may read, once its configuration is among the files. -/
def Surroundings.keyFiles (surroundings : Surroundings) : List String :=
  let configuration := do
    let arguments ← (Arguments.parse surroundings.arguments).toOption
    let path ← (configPath arguments surroundings.environment).toOption
    (Configuration.load surroundings.files surroundings.directory path surroundings.environment
      (overrides arguments)).toOption
  (configuration.map CommandLine.keyFiles).getD []

def run (surroundings : Surroundings) : Ending :=
  match Arguments.parse surroundings.arguments with
  | .error .help => .printed helpText
  | .error .version => .printed versionText
  | .error (.fault fault) => .misused fault
  | .ok arguments =>
    match configPath arguments surroundings.environment with
    | .error fault => .misused fault
    | .ok path =>
      if arguments.hashPassword then hashInput surroundings.input surroundings.salt
      else serve surroundings arguments path

/-- What a run that may not listen reports. -/
def listenRefusal : String := "Permission denied (os error 13)"

namespace Ending

def exitCode : Ending → Nat
  | printed _ => 0
  | misused _ => 2
  | failed _ => 1
  | serving _ _ _ => 1

/-- The text on the standard output. -/
def output : Ending → Option String
  | printed text => some text
  | _ => none

/-- The messages of the error report. Without a network to listen on, serving is refused. -/
def report : Ending → List String
  | printed _ => []
  | misused fault => ["error: " ++ fault.message]
  | failed causes => causes
  | serving _ _ _ => [listenRefusal]

end Ending

end RegistryAuth.CommandLine
