import Telemetry.Numeral

/-! The command line. Options have long names, some of them a letter, and most of them a value, which is
    attached or stands in the argument behind; that one is looked at only when the next option comes or
    the arguments end. An option that is not given is looked for in the environment. -/

namespace Telemetry

/-- The options. -/
inductive Flag where
  | config
  | collectors
  | address
  | collectInterval
  | kubernetes
  | idType
  | useOldNamespace
  | devices
  | noHostname
  | fakeGpus
  | simulation
  | podResourcesSocket
  | logLevel
  | help
  | version
  deriving DecidableEq, Repr, Inhabited

/-- What an option takes. -/
inductive FlagKind where
  | switch
  | path
  | text
  | number
  | help
  | version
  deriving DecidableEq, Repr

namespace Flag

/-- The options that can also be given by the environment, in the order in which it is asked. -/
def settable : List Flag :=
  [ config, collectors, address, collectInterval, kubernetes, idType, useOldNamespace, devices, noHostname,
    fakeGpus, simulation, podResourcesSocket, logLevel ]

def all : List Flag := settable ++ [help, version]

def long : Flag → String
  | config => "config"
  | collectors => "collectors"
  | address => "address"
  | collectInterval => "collect-interval"
  | kubernetes => "kubernetes"
  | idType => "kubernetes-gpu-id-type"
  | useOldNamespace => "use-old-namespace"
  | devices => "devices"
  | noHostname => "no-hostname"
  | fakeGpus => "fake-gpus"
  | simulation => "simulation"
  | podResourcesSocket => "pod-resources-socket"
  | logLevel => "log-level"
  | help => "help"
  | version => "version"

def letter? : Flag → Option Char
  | collectors => some 'f'
  | address => some 'a'
  | collectInterval => some 'c'
  | kubernetes => some 'k'
  | useOldNamespace => some 'o'
  | devices => some 'd'
  | noHostname => some 'n'
  | help => some 'h'
  | version => some 'V'
  | _ => none

def kind : Flag → FlagKind
  | config | collectors | simulation | podResourcesSocket => .path
  | address | idType | devices | logLevel => .text
  | collectInterval => .number
  | kubernetes | useOldNamespace | noHostname | fakeGpus => .switch
  | help => .help
  | version => .version

/-- The variable of the environment. -/
def environmentName? : Flag → Option String
  | config => some "GPU_EXPORTER_CONFIG"
  | collectors => some "GPU_EXPORTER_COLLECTORS"
  | address => some "GPU_EXPORTER_LISTEN"
  | collectInterval => some "GPU_EXPORTER_INTERVAL"
  | kubernetes => some "GPU_EXPORTER_KUBERNETES"
  | idType => some "GPU_EXPORTER_KUBERNETES_GPU_ID_TYPE"
  | useOldNamespace => some "GPU_EXPORTER_USE_OLD_NAMESPACE"
  | devices => some "GPU_EXPORTER_DEVICES_STR"
  | noHostname => some "GPU_EXPORTER_NO_HOSTNAME"
  | fakeGpus => some "GPU_EXPORTER_FAKE_GPUS"
  | simulation => some "GPU_EXPORTER_SIMULATION"
  | podResourcesSocket => some "GPU_EXPORTER_POD_RESOURCES_SOCKET"
  | logLevel => some "GPU_EXPORTER_LOG_LEVEL"
  | help | version => none

def takesValue (f : Flag) : Bool :=
  match f.kind with
  | .path | .text | .number => true
  | _ => false

def byLong? (name : String) : Option Flag := all.find? fun f => f.long == name

def byLetter? (c : Char) : Option Flag := all.find? fun f => f.letter? == some c

end Flag

/-- Why there are no arguments to go on with. -/
inductive ArgumentsError where
  | displayHelp
  | displayVersion
  | unknownArgument
  | invalidValue
  | valueValidation
  | tooManyValues
  | argumentConflict
  deriving DecidableEq, Repr

/-- What the command line says. -/
structure Arguments where
  config : Option String := none
  collectors : Option String := none
  address : Option String := none
  collectIntervalMs : Option UInt64 := none
  kubernetes : Bool := false
  idType : Option String := none
  useOldNamespace : Bool := false
  devices : Option String := none
  noHostname : Bool := false
  fakeGpus : Bool := false
  simulation : Option String := none
  podResourcesSocket : Option String := none
  logLevel : Option String := none
  deriving DecidableEq, Repr, Inhabited

namespace Arguments

/-- What was read so far. -/
structure Reading where
  /-- The options and their values, in the order in which they were completed. -/
  given : List (Flag × String) := []
  /-- The option whose value has not been looked at, with the value if it is there. -/
  pending : Option (Flag × Option String) := none
  /-- Whether only arguments without options may follow. -/
  escaped : Bool := false

/-- Whether a value will do for an option. -/
def checkValue (f : Flag) (v : String) : Except ArgumentsError Unit :=
  match f.kind with
  | .path => if v.isEmpty then .error .invalidValue else .ok ()
  | .number => if (Numeral.word64? v.toList).isNone then .error .valueValidation else .ok ()
  | .switch => if v = "true" ∨ v = "false" then .ok () else .error .invalidValue
  | _ => .ok ()

/-- Completes an option. -/
def complete (f : Flag) (value : Option String) (r : Reading) : Except ArgumentsError Reading :=
  match f.kind, value with
  | .help, _ => .error .displayHelp
  | .version, _ => .error .displayVersion
  | .path, none | .text, none | .number, none => .error .invalidValue
  | _, value => do
    let v := value.getD "true"
    if r.given.any fun g => g.1 == f then .error .argumentConflict
    else do
      checkValue f v
      pure { r with given := r.given ++ [(f, v)] }

/-- Completes the option whose value has not been looked at. -/
def resolve (r : Reading) : Except ArgumentsError Reading :=
  match r.pending with
  | none => .ok r
  | some (f, value) => complete f value { r with pending := none }

/-- An option that takes no value, or whose value is attached. -/
def react (f : Flag) (value : Option String) (r : Reading) : Except ArgumentsError Reading := do
  let r ← resolve r
  complete f value r

/-- An option that takes a value: an attached one, or what stands in the argument behind. -/
def await (f : Flag) (attached : Option String) (r : Reading) : Except ArgumentsError Reading :=
  match attached with
  | some v => react f (some v) r
  | none => do
    let r ← resolve r
    pure { r with pending := some (f, none) }

/-- An option by its long name, with the value behind the first equals sign. -/
def readLong (body : List Char) (r : Reading) : Except ArgumentsError Reading :=
  let name := body.takeWhile (· != '=')
  let value :=
    match body.drop name.length with
    | [] => none
    | _ :: v => some (String.ofList v)
  match Flag.byLong? (String.ofList name) with
  | none => .error .unknownArgument
  | some f =>
    if f.takesValue then await f value r
    else if value.isSome then .error .tooManyValues
    else react f none r

/-- Options by their letters; the value of one that takes a value is what follows its letter. -/
def readLetters : List Char → Reading → Except ArgumentsError Reading
  | [], r => .ok r
  | c :: cs, r =>
    match Flag.byLetter? c with
    | none => .error .unknownArgument
    | some f =>
      if f.takesValue then
        match cs with
        | [] => await f none r
        | '=' :: v => await f (some (String.ofList v)) r
        | v => await f (some (String.ofList v)) r
      else do
        let r ← react f none r
        readLetters cs r

/-- An argument that is no option: the value of the option before it, if that one waits for a value. -/
def readPlain (arg : String) (r : Reading) : Except ArgumentsError Reading :=
  match r.pending with
  | some (f, none) => .ok { r with pending := some (f, some arg) }
  | _ => .error .unknownArgument

/-- One more argument. -/
def readArgument (arg : String) (r : Reading) : Except ArgumentsError Reading :=
  if r.escaped then .error .unknownArgument
  else
    match arg.toList with
    | ['-', '-'] => .ok { r with escaped := true }
    | '-' :: '-' :: body => readLong body r
    | ['-'] => readPlain arg r
    | '-' :: letters => readLetters letters r
    | _ => readPlain arg r

/-- What the environment says of an option that was not given. -/
def readVariable (env : String → Option String) (r : Reading) (f : Flag) : Except ArgumentsError Reading :=
  if r.given.any fun g => g.1 == f then .ok r
  else
    match f.environmentName?.bind env with
    | none => .ok r
    | some v => complete f (some v) r

/-- The options and values that arguments and environment give. -/
def readAll (args : List String) (env : String → Option String) : Except ArgumentsError (List (Flag × String)) := do
  let r ← args.foldlM (fun r a => readArgument a r) {}
  let r ← resolve r
  let r ← Flag.settable.foldlM (readVariable env) r
  pure r.given

/-- What some options with values say. -/
def ofGiven (given : List (Flag × String)) : Arguments :=
  let value (f : Flag) : Option String := given.lookup f
  let switch (f : Flag) : Bool := value f == some "true"
  { config := value .config
    collectors := value .collectors
    address := value .address
    collectIntervalMs := (value .collectInterval).bind fun v => Numeral.word64? v.toList
    kubernetes := switch .kubernetes
    idType := value .idType
    useOldNamespace := switch .useOldNamespace
    devices := value .devices
    noHostname := switch .noHostname
    fakeGpus := switch .fakeGpus
    simulation := value .simulation
    podResourcesSocket := value .podResourcesSocket
    logLevel := value .logLevel }

/-- What arguments and environment say. -/
def parse (args : List String) (env : String → Option String) : Except ArgumentsError Arguments :=
  (readAll args env).map ofGiven

/-- The text that the option for the version shows. -/
def versionText (configDir : String) : String :=
  s!"gpu-telemetry-config 0.1.0\n\nAuthors: gpu-telemetry-exporter contributors\n\nConfig directory: {configDir}\n"

end Arguments
end Telemetry
