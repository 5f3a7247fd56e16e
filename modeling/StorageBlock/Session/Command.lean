/-
**The commands of a session.**

A command is a word and the operands it asks for. A word that no command has is invalid; a command
whose numbers cannot be read is unreadable, and then the rest of the line is passed over.

* `Command.next?` reads the next command (`next?_length`: it makes the input shorter);
* `Command.script` reads all commands up to `quit`. What is read does not depend on what the
  commands do.

An operand that is missing at the end of the input is empty.
-/

import StorageBlock.Session.Input

namespace StorageBlock

/-- A command with its operands. -/
inductive Command where
  /-- Print the list of commands. -/
  | help
  /-- Say what a file name means. -/
  | classify (name : Bytes)
  /-- Print the path of the data file beside a metadata file. -/
  | dataPath (path : Bytes)
  /-- Print the checksum of a file. -/
  | checksum (file : Bytes)
  /-- Print the block of a data file. -/
  | describe (file : Bytes) (length generation : Int64)
  /-- Store the description of a block with the checksum of a data file. -/
  | write (id length generation : Int64) (data out : Bytes)
  /-- Print the block that a stored description describes. -/
  | read (file : Bytes)
  /-- Turn the log of checksums on or off. -/
  | trace (on : Bool)
  /-- End the session. -/
  | quit
  /-- Complain about a word that is no command. -/
  | invalid
  /-- Complain about operands that cannot be read. -/
  | unreadable (usage : Bytes)

namespace Command

open Session

/-! ### Operands -/

/-- How to use `describe`. -/
def describeUsage : Bytes := ascii "describe <blockfile> <len> <genstamp>"

/-- How to use `write`. -/
def writeUsage : Bytes := ascii "write <id> <len> <genstamp> <datafile> <outfile>"

/-- Reads the operands of `describe`. -/
def readDescribe : Reading Command := do
  let file ← word
  let length ← number
  let generation ← number
  return describe file length generation

/-- Reads the operands of `write`. -/
def readWrite : Reading Command := do
  let id ← number
  let length ← number
  let generation ← number
  let data ← word
  let out ← word
  return write id length generation data out

/-- The command that a reading gives and the input after it; if it fails, the rest of the line is
passed over. -/
def orUsage (usage : Bytes) (reading : Reading Command) (input : Bytes) : Command × Bytes :=
  match reading.run input with
  | .ok command rest => (command, rest)
  | .error _ rest => (unreadable usage, skipLine rest)

/-- The next word, which is empty at the end of the input. -/
def operand (input : Bytes) : Bytes × Bytes := (word? input).getD ([], [])

/-- The command that starts with a word, and the input after it. -/
def ofWord (name input : Bytes) : Command × Bytes :=
  if name = ascii "help" then (help, input)
  else if name = ascii "parse" then (classify (operand input).1, (operand input).2)
  else if name = ascii "meta2block" then (dataPath (operand input).1, (operand input).2)
  else if name = ascii "checksum" then (checksum (operand input).1, (operand input).2)
  else if name = ascii "describe" then orUsage describeUsage readDescribe input
  else if name = ascii "write" then orUsage writeUsage readWrite input
  else if name = ascii "read" then (read (operand input).1, (operand input).2)
  else if name = ascii "trace" then
    (trace (decide ((operand input).1 = ascii "on")), (operand input).2)
  else if name = ascii "quit" then (quit, input)
  else (invalid, input)

/-- The next command and the input after it, or nothing at the end of the input. -/
def next? (input : Bytes) : Option (Command × Bytes) :=
  match word? input with
  | none => none
  | some (name, rest) => some (ofWord name rest)

/-! ### Every command makes the input shorter -/

theorem stop_bind_le {α β : Type} {reading : Reading α} {next : α → Reading β}
    (first : ∀ input, (stop (reading input)).length ≤ input.length)
    (second : ∀ value input, (stop (next value input)).length ≤ input.length) (input : Bytes) :
    (stop ((reading >>= next) input)).length ≤ input.length := by
  have start := first input
  show (stop (EStateM.bind reading next input)).length ≤ input.length
  rw [EStateM.bind]
  cases outcome : reading input with
  | ok value rest =>
    rw [outcome] at start
    exact Nat.le_trans (second value rest) start
  | error cause rest =>
    rw [outcome] at start
    exact start

theorem stop_pure_le {α : Type} (value : α) (input : Bytes) :
    (stop ((pure value : Reading α) input)).length ≤ input.length := Nat.le_refl _

theorem orUsage_length {usage : Bytes} {reading : Reading Command}
    (forward : ∀ input, (stop (reading input)).length ≤ input.length) (input : Bytes) :
    (orUsage usage reading input).2.length ≤ input.length := by
  have bound := forward input
  rw [orUsage]
  show (match reading input with
    | .ok command rest => (command, rest)
    | .error _ rest => (unreadable usage, skipLine rest)).2.length ≤ input.length
  cases outcome : reading input with
  | ok command rest =>
    rw [outcome] at bound
    exact bound
  | error cause rest =>
    rw [outcome] at bound
    exact Nat.le_trans (skipLine_length rest) bound

theorem operand_length (input : Bytes) : (operand input).2.length ≤ input.length := by
  rw [operand]
  cases found : word? input with
  | none => exact Nat.zero_le _
  | some taken => exact Nat.le_of_lt (word?_length found)

theorem readDescribe_length (input : Bytes) :
    (stop (readDescribe input)).length ≤ input.length :=
  stop_bind_le word_length (fun _ => stop_bind_le number_length
    (fun _ => stop_bind_le number_length fun _ => stop_pure_le _)) input

theorem readWrite_length (input : Bytes) : (stop (readWrite input)).length ≤ input.length :=
  stop_bind_le number_length (fun _ => stop_bind_le number_length (fun _ =>
    stop_bind_le number_length (fun _ => stop_bind_le word_length
      (fun _ => stop_bind_le word_length fun _ => stop_pure_le _)))) input

theorem ite_length {condition : Prop} [Decidable condition] {first second : Command × Bytes}
    {bound : Nat} (one : first.2.length ≤ bound) (other : second.2.length ≤ bound) :
    (if condition then first else second).2.length ≤ bound := by
  split
  · exact one
  · exact other

theorem ofWord_length (name input : Bytes) : (ofWord name input).2.length ≤ input.length := by
  have same : input.length ≤ input.length := Nat.le_refl _
  have one := operand_length input
  rw [ofWord]
  exact ite_length same <| ite_length one <| ite_length one <| ite_length one <|
    ite_length (orUsage_length readDescribe_length input) <|
    ite_length (orUsage_length readWrite_length input) <|
    ite_length one <| ite_length one <| ite_length same same

theorem next?_length {input rest : Bytes} {command : Command}
    (found : next? input = some (command, rest)) : rest.length < input.length := by
  rw [next?] at found
  split at found
  next => cases found
  next name tail first =>
    have shorter := ofWord_length name tail
    rw [Option.some.inj found] at shorter
    exact Nat.lt_of_le_of_lt shorter (word?_length first)

/-! ### All commands -/

/-- The commands of an input, up to the first `quit`. -/
def script (input : Bytes) : List Command :=
  match _ : next? input with
  | none => []
  | some (quit, _) => [quit]
  | some (command, rest) => command :: script rest
termination_by input.length
decreasing_by exact next?_length ‹_›

end Command

end StorageBlock
