/-
This file defines what the program is told on its command line: which configuration
to load, and how much of the log to show.
-/

import Ipv4Router.Notice

namespace Ipv4Router

/-- Which notices are shown. -/
inductive LogFilter
  | all
  | fromInfo
  | fromWarn
  | nothing
deriving DecidableEq

namespace LogFilter

/-- The filter of a name. -/
def ofText? : String → Option LogFilter
  | "trace" | "debug" => some all
  | "info" => some fromInfo
  | "warn" => some fromWarn
  | "error" | "off" => some nothing
  | _ => none

/-- The filter shows notices of a level. -/
def shows : LogFilter → Level → Bool
  | all, _ => true
  | fromInfo, level => level != .debug
  | fromWarn, level => level == .warn
  | nothing, _ => false

end LogFilter

/-- What the command line says. -/
structure CommandLine where
  configPath : String
  filter : LogFilter := .fromInfo
deriving DecidableEq

/-- Why a command line is refused. -/
inductive UsageFault
  | missingConfig
  | missingValue (option : String)
  | unknownArgument (argument : String)
  | unknownLevel (level : String)
deriving DecidableEq

namespace UsageFault

/-- The reason in words. -/
def message : UsageFault → String
  | missingConfig => "error: the option --config <CONFIG> is required"
  | missingValue option => s!"error: a value is required for {option}"
  | unknownArgument argument => s!"error: unexpected argument {argument}"
  | unknownLevel level => s!"error: unknown log level {level}"

end UsageFault

namespace CommandLine

/-- What the arguments read so far say. -/
structure Draft where
  configPath : Option String := none
  filter : LogFilter := .fromInfo

/-- The option and the value of an argument that joins them with an equals sign. -/
def joined? (argument : String) : Option (String × String) :=
  match argument.splitOn "=" with
  | option :: first :: rest => some (option, "=".intercalate (first :: rest))
  | _ => none

/-- The draft with one more option. -/
def withOption (draft : Draft) (option value : String) : Except UsageFault Draft :=
  if option = "--config" ∨ option = "-c" then .ok { draft with configPath := some value }
  else if option = "--log-level" then
    match LogFilter.ofText? value with
    | some filter => .ok { draft with filter }
    | none => .error (.unknownLevel value)
  else .error (.unknownArgument option)

/-- Reads the arguments one after the other. -/
def readArguments (draft : Draft) : List String → Except UsageFault Draft
  | [] => .ok draft
  | argument :: rest =>
    match joined? argument with
    | some (option, value) => do readArguments (← withOption draft option value) rest
    | none =>
      match rest with
      | [] => .error (.missingValue argument)
      | value :: rest => do readArguments (← withOption draft argument value) rest

/-- Reads a command line. -/
def ofArguments (arguments : List String) : Except UsageFault CommandLine := do
  let draft ← readArguments {} arguments
  match draft.configPath with
  | some configPath => return ⟨configPath, draft.filter⟩
  | none => throw .missingConfig

end CommandLine

end Ipv4Router
