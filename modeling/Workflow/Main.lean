import Workflow.CommandLine.Report

/-!
# The program

Gathers what a command reads (the environment, the clock, chance and the files that the
arguments name), performs it, and prints what it shows.
-/

namespace Workflow

namespace CommandLine

/-- The operand of a command that names a file or a folder. -/
def Command.operand? : Command -> Option String
  | .run r => some r.path
  | .validate path => some path
  | .list path => some path
  | _ => none

/-- The variables that are set; each is a name, an equals sign and a value. -/
def readEnvironment : IO Environment := do
  let data <- try IO.FS.readBinFile "/proc/self/environ" catch _ => pure ByteArray.empty
  let text := (String.fromUTF8? data).getD ""
  pure (((text.splitOn "\x00").filter (· != "")).map fun entry =>
    let (name, value) := wordParts entry
    (name, value.getD ""))

/-- The time: a file that was made just now carries it. -/
def readClock : IO DateTime := do
  let (_, place) <- IO.FS.createTempFile
  let stamp := (<- place.metadata).modified
  IO.FS.removeFile place
  let epoch : DateTime := ⟨⟨1970, 1, 1⟩, 0, 0, 0, 0, some .utc⟩
  let passed := stamp.sec * 1000000 + (stamp.nsec.toNat / 1000 : Nat)
  pure (.ofFaceMicroseconds (epoch.faceMicroseconds + passed) epoch.zone)

/-- The entry at a path, if it can be read. -/
def readEntry? (path : Path) : IO (Option (List String × Entry)) := do
  let place := (<- IO.currentDir) / path.text
  try
    if <- place.isDir then pure (some (path.parts, .folder))
    else pure (some (path.parts, .file (<- IO.FS.readBinFile place).toList))
  catch _ => pure none

/-- The files that a command may read: the one it names, or those in the folder it names. -/
def readFiles (command : Command) : IO Files := do
  let home := Path.ofText (<- IO.currentDir).toString
  match command.operand? with
  | none => pure ⟨home, []⟩
  | some operand =>
      let path := home.resolve (.ofText operand)
      match <- readEntry? path with
      | some (parts, .folder) =>
          let inner <- ((<- IO.currentDir) / path.text).readDir
          let entries <- inner.toList.filterMapM fun e => readEntry? (path.child e.fileName)
          pure ⟨home, (parts, .folder) :: entries⟩
      | entry => pure ⟨home, entry.toList⟩

/-- The world a command begins in. -/
def readWorld : IO (World Unit) := do
  let resolution := Nat.pow 2 53
  let chance := (<- IO.rand 0 (resolution - 1)).toFloat / resolution.toFloat
  pure (World.start ⟨<- readClock, <- IO.rand 0 899999999999⟩ chance ())

/-- Perform the command that arguments ask for, and print what it shows. -/
def program (args : List String) : IO UInt32 := do
  let (command, verbose) := Command.ofArguments args
  let files <- readFiles command
  let (report, world) := perform [] (<- readEnvironment) files command (<- readWorld)
  for line in world.log do
    if verbose || line.level != .info then
      let level := line.level.name
      IO.eprintln s!"{level} {line.message}"
  match report with
  | .ended exitCode shown notes => do
      notes.forM fun line => IO.eprintln line
      match shown with
      | .text s => IO.print s
      | .lines ls => ls.forM fun line => IO.println line
      pure (UInt32.ofNat exitCode)
  | .broken r => do
      IO.eprintln s!"{r.name}: {r.display}"
      pure 1

end CommandLine

end Workflow

/-- The program of the command line. -/
def main (args : List String) : IO UInt32 :=
  Workflow.CommandLine.program args
