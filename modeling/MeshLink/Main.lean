import MeshLink.Daemon.Run
import MeshLink.Machine.Decoder
import MeshLink.Machine.Report
set_option autoImplicit false

/-! # The program

Runs the daemon over its standard input on a simulated machine without interfaces, and prints what
the machine did. -/

open MeshLink

partial def readAll (stream : IO.FS.Stream) (sofar : ByteArray) : IO ByteArray := do
  let chunk ← stream.read 65536
  if chunk.isEmpty then return sofar else readAll stream (sofar ++ chunk)

def main (argv : List String) : IO UInt32 := do
  let input ← match Args.parse argv with
    | .ok _ => readAll (← IO.getStdin) ByteArray.empty
    | .error _ => pure ByteArray.empty
  let ending := Daemon.program argv (InputEvent.ofBytes input.toList) (.idle [])
  if let some machine := ending.machine then
    for event in machine.events.reverse do
      IO.println event.text
  if let some report := ending.report then
    IO.eprintln report
  return ending.exitCode.toUInt32
