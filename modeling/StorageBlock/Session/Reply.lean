/-
**What a command prints and stores.**

A command looks at one file at most (`Command.source?`), prints its answer (`Command.respond`) and
may ask for one file to be written (`Store`). None of this touches a file, so the same answers serve
a tree of files in memory and the files of a machine.

What goes wrong is a `Fault`, which ends the command. Two kinds of faults are handled, by a
complaint (`Fault.handled?`); of the third kind are sizes that are too great, which nobody expects.
-/

import StorageBlock.Checksum.File
import StorageBlock.Session.Command
import StorageBlock.Wire.Reader
import StorageBlock.Wire.Writer

namespace StorageBlock

/-- What is printed: the answers, and the complaints. -/
structure Output where
  answers : Bytes
  complaints : Bytes

namespace Output

/-- Nothing is printed. -/
def none : Output := ⟨[], []⟩

/-- An answer. -/
def answer (text : Bytes) : Output := ⟨text, []⟩

/-- A line among the complaints. -/
def complaint (text : Bytes) : Output := ⟨[], text ++ ascii "\n"⟩

/-- One output after another. -/
instance : Append Output := ⟨fun first second =>
  ⟨first.answers ++ second.answers, first.complaints ++ second.complaints⟩⟩

/-- Outputs one after another. -/
def join (outputs : List Output) : Output :=
  ⟨outputs.flatMap answers, outputs.flatMap complaints⟩

end Output

namespace Session

/-- How messages of the session begin. -/
def sender : Bytes := ascii "[BLOCKTOOL] "

/-- The tag of the log of checksums. -/
def traceTag : Bytes := ascii "CODEC"

/-- What a session takes place in. -/
structure Setting where
  /-- The directory of the block files. -/
  directory : Bytes
  /-- The time at which each command is performed. -/
  clock : Nat → Int64

/-- The lines that explain the commands. -/
def helpLines : List String := [
  "",
  "=== blocktool Commands ===",
  "",
  "Naming:",
  "  parse <filename>                 - Classify a block/meta file name",
  "  meta2block <metapath>            - Block file path for a meta file",
  "",
  "Checksums:",
  "  checksum <file>                  - SHA-256 of a file (base64url)",
  "  describe <blockfile> <len> <genstamp>",
  "                                   - Build a block from a block file",
  "",
  "Codec:",
  "  write <id> <len> <genstamp> <datafile> <outfile>",
  "                                   - Serialize a block description",
  "  read <file>                      - Decode a serialized block description",
  "  trace on|off                     - Log checksum fields on write/read",
  "",
  "Other:",
  "  help                             - Show this help message",
  "  quit                             - Exit",
  "",
  "Examples:",
  "  parse blk_1073741825_1001.meta",
  "  describe blk_1073741825 134217728 1001",
  "  write 7 100 2 blk_7 blk_7.desc",
  ""]

/-- The explanation of the commands. -/
def helpText : Bytes := helpLines.flatMap fun line => ascii line ++ ascii "\n"

/-- The answer to a question. -/
def yesNo (answer : Bool) : Bytes := if answer then ascii "yes" else ascii "no"

/-- What a file name means. -/
def classification (name : Bytes) : Bytes :=
  ascii "  block file: " ++ yesNo (FileName.isBlock name) ++ ascii "\n" ++
  ascii "  meta file:  " ++ yesNo (FileName.isMetadata name) ++ ascii "\n" ++
  ascii "  block id:   " ++ (match FileName.blockId? name with
    | some id => Decimal.ofInt id.toInt
    | none => ascii "(no match)") ++ ascii "\n" ++
  ascii "  genstamp:   " ++ Decimal.ofInt (FileName.generation name).toInt ++ ascii "\n"

/-- A block with the length of its data. -/
def withLength (text : Bytes) (block : Block) : Bytes :=
  text ++ ascii " (" ++ Decimal.ofInt block.length.toInt ++ ascii " bytes)\n"

end Session

open Session

/-- What goes wrong while a command is performed. -/
inductive Fault where
  /-- A description is of a block that cannot exist. -/
  | corrupt (message : Bytes)
  /-- Something else cannot be done. -/
  | runtime (message : Bytes)
  /-- A text or a byte string is too long. -/
  | size (error : SizeError)

namespace Fault

/-- The fault that a failure of the binary format is. -/
def ofFailure : Failure WireError → Fault
  | .cause error => if error.isCorrupt then corrupt error.message else runtime error.message
  | .size error => size error

/-- What is printed about a fault by whoever handles it; a message ends at its first zero byte. -/
def handled? : Fault → Option Output
  | corrupt message => some (.complaint (sender ++ ascii "Corrupt block: " ++ message.untilZero))
  | runtime message => some (.complaint (sender ++ message.untilZero))
  | size _ => none

end Fault

/-- A request to write a file. -/
structure Store where
  path : Bytes
  content : Bytes

namespace Store

/-- What is printed when the file has been written. -/
def done (store : Store) : Output :=
  .answer (sender ++ ascii "Wrote " ++ Decimal.ofNat store.content.length ++ ascii " bytes to " ++
    store.path ++ ascii "\n")

/-- What goes wrong when the file cannot be written. -/
def failed (store : Store) : Fault :=
  .runtime (ascii "Cannot open " ++ store.path ++ ascii " for writing")

end Store

/-- The answer to a command. -/
structure Reply where
  /-- What is printed at once. -/
  output : Output
  /-- What is to be written then, or what goes wrong. -/
  store : Except Fault (Option Store)

namespace Reply

/-- A reply that only prints. -/
def print (output : Output) : Reply := ⟨output, .ok none⟩

/-- A reply that prints and then goes wrong. -/
def raise (output : Output) (fault : Fault) : Reply := ⟨output, .error fault⟩

/-- A reply that prints something and then a text, when the text has been made. If it cannot be
made, the program is aborted, and the line that the text is on is lost from its beginning. -/
def tell (output : Output) : Except SizeError Bytes → Reply
  | .ok text => print (output ++ .answer text)
  | .error error => raise output (.size error)

/-- The answer to `write`, for what its data file holds. -/
def write (block : Block) (logger : Option Logger) (path : Bytes) : Reply :=
  let written := block.write (.whole (List.replicate block.wireLength 0)) logger
  let trace := Output.answer ((written.logger.map Logger.written).getD [])
  match written.result with
  | .ok count => ⟨trace, .ok (some ⟨path, written.buffer.take count⟩)⟩
  | .error failure => raise trace (.ofFailure failure)

/-- The answer to `read`, for what the path leads to. -/
def read (found : Found) (logger : Option Logger) (path : Bytes) : Reply :=
  match found with
  | .missing => raise .none (.runtime (ascii "Cannot open " ++ path))
  | .directory =>
    raise .none
      (.runtime (ascii "basic_filebuf::underflow error reading the file: Is a directory"))
  | .content bytes =>
    let (result, logger) := Block.ofBytes bytes logger
    let trace := Output.answer ((logger.map Logger.written).getD [])
    match result with
    | .ok block => tell trace (block.fullText.map fun text => withLength text block)
    | .error failure => raise trace (.ofFailure failure)

end Reply

namespace Command

/-- The file that a command looks at. -/
def source? (directory : Bytes) : Command → Option Bytes
  | checksum file | describe file _ _ | read file => some (Path.below directory file)
  | write _ _ _ data _ => some (Path.below directory data)
  | _ => none

/-- Is the log of checksums on after a command? -/
def tracing (before : Bool) : Command → Bool
  | trace on => on
  | _ => before

/-- The answer to a command, for what was found under its source. -/
def respond (directory : Bytes) (logger : Option Logger) (found : Found) : Command → Reply
  | help => .print (.answer helpText)
  | classify name => .print (.answer (classification name))
  | dataPath path => .print (.answer (FileName.dataPath path ++ ascii "\n"))
  | checksum _ =>
    .tell .none ((Checksum.text (Checksum.digest? found)).map fun text => text ++ ascii "\n")
  | describe file length generation =>
    let block := Block.ofFile (Path.below directory file) found length generation
    .tell .none (block.text.map fun text => withLength text block)
  | write id length generation _ out =>
    .write (Block.setChecksumFrom ⟨id, length, generation, none⟩ found) logger
      (Path.below directory out)
  | read file => .read found logger (Path.below directory file)
  | trace _ | quit => .print .none
  | invalid => .print (.complaint (ascii "INVALID COMMAND"))
  | unreadable usage => .print (.complaint (ascii "usage: " ++ usage))

end Command

end StorageBlock
