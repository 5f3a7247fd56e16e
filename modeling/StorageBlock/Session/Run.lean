/-
**A session.**

A session performs the commands of its input, and carries the files and the switch of the log from
one command to the next. A fault is handled where the command has ended, and the session goes on; if
nobody handles it, the program is aborted on the spot.

* `Session.carryOut` does what a reply asks for;
* `Session.step` performs one command and handles its fault;
* `Session.run` performs commands one after another, up to one that aborts the program;
* `Session.start` opens a session with the arguments of the program.
-/

import StorageBlock.Session.Reply

namespace StorageBlock.Session

/-- What a command may change. -/
structure State where
  /-- The files. -/
  files : FileTree
  /-- Is the log of checksums on? -/
  tracing : Bool
  /-- The number of commands performed so far. -/
  performed : Nat

/-- The logger of a command, where the log is on. -/
def logger? (setting : Setting) (state : State) : Option Logger :=
  if state.tracing then some (.new traceTag fun _ => setting.clock state.performed) else none

/-! ### One command -/

/-- What a command finds under the path that it looks at. -/
def finds (setting : Setting) (files : FileTree) (command : Command) : Found :=
  match command.source? setting.directory with
  | some path => files.read path
  | none => .missing

/-- Prints what a reply says and writes what it asks for. Gives the files afterwards, unless
something has gone wrong. -/
def carryOut (files : FileTree) (reply : Reply) : Output × Except Fault FileTree :=
  match reply.store with
  | .error fault => (reply.output, .error fault)
  | .ok none => (reply.output, .ok files)
  | .ok (some store) =>
    match files.write? store.path store.content with
    | some files => (reply.output ++ store.done, .ok files)
    | none => (reply.output, .error store.failed)

/-- What has become of a command. -/
structure Turn where
  /-- What has been printed. -/
  output : Output
  /-- What the command has left. -/
  state : State
  /-- Has the program been aborted? -/
  aborted : Bool

/-- Performs a command and handles what goes wrong. -/
def step (setting : Setting) (state : State) (command : Command) : Turn :=
  let reply := command.respond setting.directory (logger? setting state)
    (finds setting state.files command)
  let next (files : FileTree) : State :=
    ⟨files, command.tracing state.tracing, state.performed + 1⟩
  match carryOut state.files reply with
  | (output, .ok files) => ⟨output, next files, false⟩
  | (output, .error fault) =>
    match fault.handled? with
    | some complaint => ⟨output ++ complaint, next state.files, false⟩
    | none => ⟨output, next state.files, true⟩

/-! ### All commands -/

/-- What has become of commands that were performed one after another. -/
structure Run where
  /-- What each of them has printed. -/
  outputs : List Output
  /-- What they have left. -/
  state : State
  /-- Has the program been aborted? -/
  aborted : Bool

/-- Performs commands one after another, up to the first that aborts the program. -/
def run (setting : Setting) (state : State) : List Command → Run
  | [] => ⟨[], state, false⟩
  | command :: rest =>
    let turn := step setting state command
    if turn.aborted then ⟨[turn.output], turn.state, true⟩
    else
      let further := run setting turn.state rest
      ⟨turn.output :: further.outputs, further.state, further.aborted⟩

/-! ### The whole program -/

/-- What has become of a session. -/
structure Outcome where
  /-- The exit code, unless the program has been aborted. -/
  exitCode : Option UInt32
  output : Output
  files : FileTree

/-- How to start the program. -/
def usage : Bytes := ascii "usage: ./build/blocktool [storage_dir]"

/-- The directory of the block files if no other is given. -/
def defaultDirectory : Bytes := ascii "."

/-- What is printed when a session begins. -/
def greeting (directory : Bytes) : Bytes :=
  sender ++ ascii "Storage directory: " ++ directory ++ ascii "\n"

/-- The directory that the arguments of the program name, if they are not too many. An argument ends
at its first zero byte. -/
def directory? : List Bytes → Option Bytes
  | [] => some defaultDirectory
  | [directory] => some directory.untilZero
  | _ => none

/-- A session on an input, from the state that it begins with. -/
def conduct (setting : Setting) (state : State) (input : Bytes) : Outcome :=
  let performed := run setting state (Command.script input)
  ⟨if performed.aborted then none else some 0,
    .answer (greeting setting.directory) ++ .join performed.outputs, performed.state.files⟩

/-- Runs the program with its arguments on an input. -/
def start (arguments : List Bytes) (clock : Nat → Int64) (files : FileTree) (input : Bytes) :
    Outcome :=
  match directory? arguments with
  | none => ⟨some 1, .complaint usage, files⟩
  | some directory => conduct ⟨directory, clock⟩ ⟨files, false, 0⟩ input

end StorageBlock.Session
