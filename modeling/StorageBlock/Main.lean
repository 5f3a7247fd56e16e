/-
**The program.**

Runs a session on standard input with the files of the machine. Every decision is made by
`Command.script`, `Command.source?` and `Command.respond`; here files are opened, read and written.
-/

import StorageBlock.Session.Run
import Std.Time.DateTime.Timestamp

namespace StorageBlock.Session

/-- The name of a file, if the machine can express it. -/
def fileName? (path : Bytes) : Option String :=
  String.fromUTF8? (ByteArray.mk path.untilZero.toArray)

/-- What an open file holds; a directory can be opened but not read. -/
def contents (handle : IO.FS.Handle) : IO Found := do
  try return .content (← handle.readBinToEnd).toList
  catch _ => return .directory

/-- Looks at a file of the machine. -/
def look (path : Bytes) : IO Found := do
  let some name := fileName? path | return .missing
  let handle ← try some <$> IO.FS.Handle.mk name .read catch _ => pure none
  match handle with
  | some handle => contents handle
  | none => return .missing

/-- Writes a file of the machine, if it can be opened. -/
def save (store : Store) : IO Bool := do
  let some name := fileName? store.path | return false
  try
    IO.FS.writeBinFile name (ByteArray.mk store.content.toArray)
    return true
  catch _ => return false

/-- All bytes of a stream. -/
partial def readAll (stream : IO.FS.Stream) (before : ByteArray) : IO Bytes := do
  let part ← stream.read 65536
  if part.isEmpty then return before.toList
  readAll stream (before ++ part)

/-- Prints an output. -/
def print (output : Output) : IO Unit := do
  let answers ← IO.getStdout
  answers.write (ByteArray.mk output.answers.toArray)
  answers.flush
  let complaints ← IO.getStderr
  complaints.write (ByteArray.mk output.complaints.toArray)
  complaints.flush

/-- The time, in seconds. -/
def clock : IO Int64 :=
  return Int64.ofInt (← Std.Time.Timestamp.now).toSecondsSinceUnixEpoch.val

/-- Prints what a reply says and writes what it asks for, and tells what goes wrong. -/
def fulfil (reply : Reply) : IO (Option Fault) := do
  print reply.output
  match reply.store with
  | .error fault => return some fault
  | .ok none => return none
  | .ok (some store) =>
    if ← save store then
      print store.done
      return none
    else return some store.failed

/-- Performs a command on the files of the machine, and says whether the log is on then; there is no
answer if nobody handles what goes wrong. -/
def perform (directory : Bytes) (tracing : Bool) (command : Command) : IO (Option Bool) := do
  let found ← match command.source? directory with
    | some path => look path
    | none => pure .missing
  let now ← clock
  let logger := if tracing then some (Logger.new traceTag fun _ => now) else none
  match ← fulfil (command.respond directory logger found) with
  | none => return some (command.tracing tracing)
  | some fault =>
    let some complaint := fault.handled? | return none
    print complaint
    return some (command.tracing tracing)

/-- Performs commands one after another, and says whether none has aborted the program. -/
def performAll (directory : Bytes) (tracing : Bool) : List Command → IO Bool
  | [] => return true
  | command :: rest => do
    let some tracing ← perform directory tracing command | return false
    performAll directory tracing rest

/-- What is told of a program that has been aborted. -/
def abortCode : UInt32 := 134

end StorageBlock.Session

open StorageBlock StorageBlock.Session in
/-- Runs a session on standard input. -/
def main (arguments : List String) : IO UInt32 := do
  match directory? (arguments.map fun argument => argument.toUTF8.toList) with
  | none =>
    print (.complaint usage)
    return 1
  | some directory =>
    print (.answer (greeting directory))
    let input ← readAll (← IO.getStdin) .empty
    return if ← performAll directory false (Command.script input) then 0 else abortCode
