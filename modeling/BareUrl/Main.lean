import BareUrl.Program.Run

/-!
# `BareUrl.Main`: the program

The outer layer: it collects the surroundings of a run, which are the files that the command line
and the configuration name and standard input if it is read, has `Program.run` do the work, and
writes what has changed. It has no network, so whoever is asked stays silent.
-/

set_option autoImplicit false

open BareUrl

/-- The bytes of a file that can be read. -/
def readBytes? (path : Text) : IO (Option (List UInt8)) := do
  try
    let bytes ← IO.FS.readBinFile (String.ofList path)
    return some bytes.toList
  catch _ => return none

/-- The bytes of a stream up to its end, behind those that have been read. -/
partial def readToEnd (stream : IO.FS.Stream) (before : List UInt8) : IO (List UInt8) := do
  let bytes ← stream.read 65536
  if bytes.isEmpty then return before else readToEnd stream (before ++ bytes.toList)

/-- `true` if there is a directory at the path. -/
def isFolder (path : Text) : IO Bool := do
  try
    let _ ← IO.FS.realPath (String.ofList (path ++ "/.".toList))
    return true
  catch _ => return false

/-- The surroundings with what can be read at a path and with the directories on the way to it. -/
def lookAt (w : Program.Surroundings) (path : Text) : IO Program.Surroundings := do
  let path := Program.Surroundings.plainPath path
  let folders ← (path :: Program.Surroundings.directories path).filterM isFolder
  let w := { w with folders := w.folders ++ folders }
  match ← readBytes? path with
  | some bytes => return w.withFile path bytes
  | none => return w

/-- The surroundings of a run with what a command line says. -/
def lookAround (c : CommandLine) : IO Program.Surroundings := do
  let paths := c.inputs.filterMap fun i =>
    match i with
    | .file path => some path
    | .standardInput => none
  let bytes ←
    if c.inputs.contains .standardInput then readToEnd (← IO.getStdin) [] else pure []
  let paths := paths ++ c.configFile.toList ++ [Program.usualConfigFile]
  let w ← paths.foldlM lookAt ⟨[], bytes, [], []⟩
  match Program.configure c w with
  | .ok config => config.output.toList.foldlM lookAt w
  | .error _ => return w

/-- Writes the files whose content has changed. -/
def writeChanges (before after : Program.Surroundings) : IO Unit :=
  after.files.forM fun f => do
    if before.contents? f.1 != some f.2 then
      IO.FS.writeBinFile (String.ofList f.1) ⟨f.2.toArray⟩

def main (arguments : List String) : IO UInt32 := do
  let arguments := arguments.map String.toList
  let w ← match CommandLine.read arguments with
    | .ok c => lookAround c
    | .error _ => pure ⟨[], [], [], []⟩
  let silent : Exchange.Network Unit := fun _ s => (.silence, s)
  let o := Program.run silent arguments w ()
  writeChanges w o.surroundings
  (← IO.getStdout).write ⟨o.surroundings.standardOutput.toArray⟩
  (← IO.getStdout).flush
  o.said.forM fun line => IO.eprintln (String.ofList line)
  return UInt32.ofNat o.exit.code
