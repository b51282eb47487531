import Reactor.EffectiveView
import Reactor.Log
import Reactor.Text.Natural

namespace Reactor

abbrev Environment := Properties

structure Config where
  renderEffective : Bool
  mavenCommand : String
  /-- In seconds. -/
  renderTimeout : Nat
  localRepository : Option Path
  logLevel : String
  maxImportDepth : Nat
  deriving DecidableEq, Repr

inductive ConfigFault
  | timeoutTooShort
  | timeoutTooLong
  | importDepth (depth : Nat)
  | noCommand
  | logLevel (name : String)
  | timeoutText (fault : Text.NaturalFault)
  deriving DecidableEq, Repr

namespace ConfigFault

def reason : ConfigFault → String
  | timeoutTooShort => "Render timeout must be at least 1 second"
  | timeoutTooLong => "Render timeout cannot exceed 10 minutes"
  | importDepth depth => s!"Max import depth must be between 1 and 64, got {depth}"
  | noCommand => "Maven command cannot be empty"
  | logLevel name => s!"Invalid log level: {name}. Valid options: {Level.nameList}"
  | timeoutText fault => fault.message

def isParseFault : ConfigFault → Bool
  | timeoutText _ => true
  | _ => false

def message (f : ConfigFault) : String :=
  if f.isParseFault then s!"Failed to parse render timeout: {f.reason}"
  else s!"Configuration validation failed: {f.reason}"

end ConfigFault

namespace Config

def standardCommand : String := "mvn"

def standardTimeout : Nat := 60

def standardLogLevel : String := "info"

def readBool? (text : String) : Option Bool :=
  [("true", true), ("false", false)].lookup (Text.lowercase text)

def readNatural? (text : String) : Option Nat := (Text.readNatural text.toList).toOption

def homeRepository? (env : Environment) : Option Path :=
  (env["HOME"]?.filter (!·.isEmpty)).map fun home ↦
    ((⟨home⟩ : Path).join ⟨".m2"⟩).join ⟨"repository"⟩

def ofEnvironment (env : Environment) : Config where
  renderEffective := (env["POMDETECT_RENDER_EFFECTIVE"]?.bind readBool?).getD false
  mavenCommand := (env["POMDETECT_MAVEN_COMMAND"]?.filter fun v ↦ (Text.trimmed? v).isSome).getD
    standardCommand
  renderTimeout := (env["POMDETECT_RENDER_TIMEOUT"]?.bind readNatural?).getD standardTimeout
  localRepository := (env["POMDETECT_LOCAL_REPOSITORY"]?.map Path.mk).or (homeRepository? env)
  logLevel := Text.lowercase (env["POMDETECT_LOG_LEVEL"]?.getD standardLogLevel)
  maxImportDepth := (env["POMDETECT_MAX_IMPORT_DEPTH"]?.bind readNatural?).getD
    Synthesizer.standardDepth

variable (c : Config)

def fault? : Option ConfigFault :=
  if c.renderTimeout = 0 then some .timeoutTooShort
  else if c.renderTimeout > 600 then some .timeoutTooLong
  else if c.maxImportDepth < 1 ∨ c.maxImportDepth > 64 then some (.importDepth c.maxImportDepth)
  else if (Text.trimmed? c.mavenCommand).isNone then some .noCommand
  else if (Level.ofName? c.logLevel).isNone then some (.logLevel c.logLevel)
  else none

def readTimeout (text : String) : Except ConfigFault Nat :=
  (Text.readNatural (Text.trimList text.toList)).mapError .timeoutText

def text : String :=
  let repository := match c.localRepository with
    | some path => path.text
    | none => "(none)"
  "\n".intercalate
    ["Pomdetect Configuration:", s!"  Render Effective: {c.renderEffective}",
      s!"  Maven Command: {c.mavenCommand}", s!"  Render Timeout: {c.renderTimeout}s",
      s!"  Local Repository: {repository}", s!"  Max Import Depth: {c.maxImportDepth}",
      s!"  Log Level: {c.logLevel}", ""]

end Config

end Reactor
