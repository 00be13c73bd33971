import RightLinear.Demo
import RightLinear.LogLevel
import RightLinear.Session.Console

/-! The program: a terminal over standard input, or the demonstration. -/

namespace RightLinear.Program

/-- The number under which the system reports a directory read as a file. -/
def directoryCode : UInt32 := 21

def wrongKind (path : String) (code : UInt32) : FileError :=
  if code = directoryCode then .isDirectory path else .notDirectory path

def fileError (path : String) : IO.Error → FileError
  | .inappropriateType _ code _ => wrongKind path code
  | _ => .notFound path

def readBytes (path : String) : IO (Except FileError (List UInt8)) := do
  if path.contains (Char.ofNat 0) then return .error .nullCharacter
  try
    return .ok (← IO.FS.readBinFile path).toList
  catch error => return .error (fileError path error)

/-- What one line can ask of the system: a file, or that a diagram is drawn. -/
structure Answers where
  files : FileSystem := ⟨fun path => .error (.notFound path)⟩
  drawn : Except IO.Error Unit := .ok ()

instance : Surroundings Answers IO.Error where
  files := Answers.files
  draw answers _ := answers.drawn

/-- Leaves the sources of diagrams where a renderer takes them from. -/
def writeDiagrams (renderings : List Rendering) :
    IO (Except IO.Error Unit) := do
  try
    for rendering in renderings do
      IO.FS.writeFile (rendering.name ++ ".gv") rendering.source
    return .ok ()
  catch error => return .error error

/-- What is to be drawn is found by running the line as if drawing could not
fail. -/
def answersFor (line : String) (session : Session Congruential) :
    IO Answers := do
  match Command.read line with
  | .load path =>
      let found ← readBytes path
      return { files := ⟨fun _ => found⟩ }
  | .graph _ =>
      let (_, later) := session.execute ({} : Answers) line
      return { drawn := ← writeDiagrams later.transcript.renderings }
  | _ => return {}

def logWarnings (level : Nat) (warnings : List Warning) : IO Unit := do
  if level ≤ LogLevel.warning then
    for warning in warnings do
      IO.eprintln ("WARNING - " ++ warning.message)

/-- Shows what has been printed and logged and starts a fresh transcript; its
diagrams have been written before their lines were answered. -/
def showTranscript (level : Nat) (session : Session Congruential) :
    IO (Session Congruential) := do
  IO.print session.transcript.printed
  (← IO.getStdout).flush
  logWarnings level session.transcript.warnings
  return { session with transcript := {} }

partial def converse (level : Nat) (session : Session Congruential) :
    IO Unit := do
  let session ← showTranscript level (session.print Session.prompt)
  let line ← (← IO.getStdin).getLine
  if line.isEmpty then
    let _ ← showTranscript level (session.print "\n")
  else
    let answers ← answersFor line session
    let (goesOn, session) := Session.answer answers line session
    let session ← showTranscript level session
    if goesOn then converse level session

def seedFrom : List String → Option Int
  | ["--seed", text] => (Text.readInteger text).toOption
  | _ => none

def showDemo (arguments : List String) : IO UInt32 := do
  match Demo.report (Congruential.ofSeed ((seedFrom arguments).getD 0)) with
  | .ok lines =>
      lines.forM (IO.println ·)
      return 0
  | .error failure =>
      IO.eprintln failure.message
      return 1

def showTerminal : IO UInt32 := do
  let level := LogLevel.choose (← IO.getEnv "AUTOMATA_DEBUG")
    (← IO.getEnv "AUTOMATA_LOG_LEVEL")
  let session : Session Congruential := { source := Congruential.ofSeed 0 }
  converse level (session.print Session.greeting)
  return 0

end RightLinear.Program

open RightLinear in
def main (arguments : List String) : IO UInt32 := do
  match arguments with
  | "demo" :: rest => Program.showDemo rest
  | _ => Program.showTerminal
