/-
This file is the program. It loads a configuration, runs the router on the clock of
the host, and exchanges frames as lines of text: the name of an interface, a blank
and the octets in hexadecimal. Received frames come on standard input, sent ones go
to standard output, and the log goes to standard error.
-/

import Ipv4Router.CommandLine
import Ipv4Router.Configuration.Document
import Ipv4Router.Configuration.Setup
import Ipv4Router.FrameLine
import Ipv4Router.LinkPorts
import Ipv4Router.Timeline

namespace Ipv4Router.Program

/-- The contents of a file, if there is one. -/
def contentsOf? (path : String) : IO (Option ByteArray) := do
  try return some (← IO.FS.readBinFile path) catch _ => return none

/-- The link address of a port of the host. -/
def hostMacOf? (name : String) : IO (Option MacAddress) := do
  try
    let written ← IO.FS.readFile s!"/sys/class/net/{name}/address"
    return MacAddress.ofText? (String.ofList (written.toList.filter fun letter => letter != '\n'))
  catch _ => return none

/-- The named ports that the host has, each with its link address. -/
def hostPortsOf (names : List String) : IO (List (String × MacAddress)) := do
  return (← names.mapM fun name => do
    return (← hostMacOf? name).map fun mac => (name, mac)).filterMap id

/-- Writes an effect to the outside. -/
def emit (filter : LogFilter) (effect : Effect) : IO Unit := do
  match effect with
  | .transmit interface frame =>
    let output ← IO.getStdout
    output.putStrLn (FrameLine.text interface frame)
    output.flush
  | .note notice => if filter.shows notice.level then IO.eprintln notice.text

/-- Lets the router's clock catch up with the host's. -/
def catchUp (filter : LogFilter) (startedAt : Nat) (timeline : Timeline) : IO Timeline := do
  let elapsed := (← IO.monoMsNow) - startedAt
  let (timeline, effects) := timeline.advance (elapsed - timeline.now)
  for timed in effects do emit filter timed.effect
  return timeline

/-- Handles a line that names an interface and a frame received on it. -/
def handleLine (filter : LogFilter) (timeline : Timeline) (line : String) : IO Timeline := do
  match FrameLine.read? line with
  | some (interface, frame) =>
    let (timeline, effects) := timeline.receive frame interface
    for effect in effects do emit filter effect
    return timeline
  | none => return timeline

/-- Handles lines as they come, and beats in between, until the input ends. -/
partial def serve (filter : LogFilter) (startedAt : Nat) (timeline : Timeline)
    (pending : Task (Except IO.Error String)) : IO Timeline := do
  let timeline ← catchUp filter startedAt timeline
  if ← IO.hasFinished pending then
    match pending.get with
    | .ok "" => return timeline
    | .ok line =>
      let timeline ← handleLine filter timeline line
      let input ← IO.getStdin
      serve filter startedAt timeline (← IO.asTask input.getLine)
    | .error _ => return timeline
  else
    IO.sleep 10
    serve filter startedAt timeline pending

/-- Runs a router until the input ends. -/
def runRouter (filter : LogFilter) (router : Router) : IO Unit := do
  for interface in router.registry.interfaces do emit filter (.note (.hasInterface interface))
  let startedAt ← IO.monoMsNow
  let (timeline, effects) := (Timeline.ofRouter router).prepare
  for effect in effects do emit filter effect
  let (timeline, started) := timeline.start
  for timed in started do emit filter timed.effect
  let input ← IO.getStdin
  let timeline ← serve filter startedAt timeline (← IO.asTask input.getLine)
  for timed in timeline.shutdown.2 do emit filter timed.effect

/-- Loads the configuration and runs its router. -/
def runConfigured (commandLine : CommandLine) : IO UInt32 := do
  let path := commandLine.configPath
  match Configuration.load (← contentsOf? path) with
  | .error fault =>
    IO.eprintln s!"Error: failed to load {path}\n\nCaused by:\n    {fault.message}"
    return 1
  | .ok configuration =>
    let hostPorts ← hostPortsOf configuration.names
    match LinkPorts.openAll (hostPorts.map Prod.fst) configuration.names with
    | .error missing =>
      IO.eprintln s!"Error: {missing.message}"
      return 1
    | .ok _ =>
      match Router.ofConfiguration configuration (fun name => hostPorts.lookup name) 0 with
      | .error fault =>
        IO.eprintln s!"Error: {fault.message}"
        return 1
      | .ok router =>
        runRouter commandLine.filter router
        return 0

end Ipv4Router.Program

def main (arguments : List String) : IO UInt32 := do
  match Ipv4Router.CommandLine.ofArguments arguments with
  | .ok commandLine => Ipv4Router.Program.runConfigured commandLine
  | .error fault =>
    IO.eprintln fault.message
    return 2
