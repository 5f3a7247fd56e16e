/-
**Log lines.**

A logger writes one line for each record, in front of it the time and, if it has one, its own tag.
It carries what it has written, so a record is a change of the logger and of nothing else
(`log_written`).

Who may be without a logger makes a record only for one (`Logger.note`): a record that cannot be
made is an error where it is asked for, and nowhere else.
-/

import StorageBlock.Decimal
import StorageBlock.Memory

namespace StorageBlock

/-- A writer of log lines. -/
structure Logger where
  /-- What the lines are about; may be empty. -/
  tag : Bytes
  /-- The time at which each line is written, in seconds. -/
  clock : Nat → Int64
  /-- The number of lines written so far. -/
  lines : Nat
  /-- What has been written so far. -/
  written : Bytes

namespace Logger

/-- A logger that has not written anything. -/
def new (tag : Bytes) (clock : Nat → Int64) : Logger := ⟨tag, clock, 0, []⟩

/-- A time as it is written: its low thirty-two bits, without a sign. -/
def timeText (time : Int64) : Bytes := Decimal.ofNat time.toUInt64.toUInt32.toNat

/-- The line of a record. -/
def line (logger : Logger) (record : Bytes) : Bytes :=
  ascii "[" ++ timeText (logger.clock logger.lines) ++ ascii "]" ++
    (if logger.tag = [] then [] else ascii " [" ++ logger.tag ++ ascii "]") ++
    ascii ": " ++ record ++ ascii "\n"

/-- The logger after one more record. -/
def log (logger : Logger) (record : Bytes) : Logger :=
  { logger with lines := logger.lines + 1, written := logger.written ++ logger.line record }

@[simp] theorem log_written (logger : Logger) (record : Bytes) :
    (logger.log record).written = logger.written ++ logger.line record := rfl

/-- What becomes of a logger, if there is one, by a record that may fail to be made. -/
def note (record : Except SizeError Bytes) : Option Logger → Except SizeError (Option Logger)
  | none => .ok none
  | some logger => record.map fun record => some (logger.log record)

end Logger

end StorageBlock
