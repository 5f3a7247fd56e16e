/-
**What has been written is read back.**

A description that a `write` has stored stands in its file until something else is stored there, and
`read` prints what was typed: the numbers, and the checksum that the data file had before the
`write`.

* `next?_write`, `next?_read`: the two commands, as they are typed;
* `step_read_of_nonneg`, `step_read_of_negative`: what `read` prints for a stored description;
* `read_back`: both together, in a session of any commands.
-/

import StorageBlock.Proofs.Session.Files
import StorageBlock.Proofs.Session.Words
import StorageBlock.Proofs.Wire.Stream

namespace StorageBlock.Session

open Command

variable {setting : Setting} {state : State} {location : Location}

/-! ### The commands as they are typed -/

theorem next?_of_words {input name rest : Bytes} {others : List Bytes}
    (words : Words input (name :: others) rest) :
    ∃ behind, next? input = some (ofWord name behind) ∧ Words behind others rest := by
  cases words with
  | cons blank word ended further =>
    refine ⟨_, ?_, further⟩
    rw [next?, word?_of_typed blank word ended]

theorem next?_write {input rest first second third data out : Bytes} {id length generation : Int64}
    (words : Words input [ascii "write", first, second, third, data, out] rest)
    (one : TypesInt first id.toInt) (two : TypesInt second length.toInt)
    (three : TypesInt third generation.toInt) :
    next? input = some (.write id length generation data out, rest) := by
  obtain ⟨operands, found, words⟩ := next?_of_words words
  obtain ⟨_, readId, words⟩ := words.number one
  obtain ⟨_, readLength, words⟩ := words.number two
  obtain ⟨_, readGeneration, words⟩ := words.number three
  obtain ⟨_, readData, words⟩ := words.word
  obtain ⟨_, readOut, words⟩ := words.word
  cases words
  have read : readWrite operands = .ok (.write id length generation data out) rest := by
    rw [readWrite, bind_of_ok readId, bind_of_ok readLength, bind_of_ok readGeneration,
      bind_of_ok readData, bind_of_ok readOut]
    rfl
  rw [found]
  show some (orUsage writeUsage readWrite operands) = _
  rw [orUsage, EStateM.run, read]

theorem next?_read {input rest file : Bytes} (words : Words input [ascii "read", file] rest) :
    next? input = some (.read file, rest) := by
  obtain ⟨operands, found, words⟩ := next?_of_words words
  cases words with
  | cons blank word ended further =>
    cases further
    rw [found]
    show some (Command.read (operand _).1, (operand _).2) = _
    rw [operand, word?_of_typed blank word ended]
    rfl

/-! ### Reading a stored description -/

theorem described_canonical (directory : Bytes) (files : FileTree)
    {id length generation : Int64} (data : Bytes) (nonneg : 0 ≤ length) :
    (described directory files id length generation data).Canonical where
  length_nonneg := nonneg
  checksum_short := by
    rw [described_checksumLength]
    split <;> decide
  checksum_ne_empty := by
    intro empty
    have long := Checksum.digest?_length empty
    cases long

theorem step_read_of_nonneg {file : Bytes} {block : Block} (canonical : block.Canonical)
    (fits : block.Fits)
    (found : state.files.read (Path.below setting.directory file) = .content block.encode) :
    step setting state (.read file) =
      ⟨.answer (logged (moment? setting state) block.readText) ++
          .answer (withLength (block.version ++ Block.fullEnding block.checksum) block),
        state.behind (.read file), false⟩ := by
  have taken : Wire.takeBlock block.encode = .ok (block, []) :=
    Wire.takeBlock_eq_ok.mpr ⟨(List.append_nil _).symm, canonical⟩
  refine step_of_print ?_
  rw [reply_eq_read, found]
  exact reply_read_of_ok _ taken fits _

theorem complaint_negativeLength (length : Int64) :
    complaint (.negativeLength length) =
      ascii "[BLOCKTOOL] Corrupt block: Unexpected block size: " ++
        Decimal.ofInt length.toInt := by
  have wording : ascii "[BLOCKTOOL] Corrupt block: Unexpected block size: " =
      sender ++ (ascii "Corrupt block: " ++ ascii "Unexpected block size: ") := by decide
  show sender ++ (ascii "Corrupt block: " ++ (ascii "Unexpected block size: " ++ _)) = _
  rw [wording, List.append_assoc, List.append_assoc]

theorem step_read_of_negative {file : Bytes} {block : Block} (negative : block.length < 0)
    (found : state.files.read (Path.below setting.directory file) = .content block.encode) :
    step setting state (.read file) =
      ⟨.complaint (ascii "[BLOCKTOOL] Corrupt block: Unexpected block size: " ++
          Decimal.ofInt block.length.toInt), state.behind (.read file), false⟩ := by
  have long : ¬block.encode.length < 24 := by
    rw [block.encode_length, Block.wireLength, Block.fixedLength]
    omega
  have failed : Wire.takeBlock block.encode = .error (.negativeLength block.length) := by
    rw [Wire.takeBlock_eq, if_neg long, Wire.longAt_encode, if_pos negative]
  have raises : reply setting state (.read file) =
      .raise .none (.ofFailure (.cause (.negativeLength block.length))) := by
    rw [reply_eq_read, found]
    exact reply_read_of_error _ failed _
  rw [← complaint_negativeLength]
  exact step_of_fault raises (handled_of_error _)

/-! ### Commands in between -/

/-- Where a `write` has stored a description, `read` finds it as long as nothing else is stored
there. -/
theorem finds_written {id length generation : Int64} {data out : Bytes} {block : Block}
    (stores : StoresAt setting state location (.write id length generation data out) block)
    {between : List Command}
    (untouched : Untouched setting (history setting
      (step setting state (.write id length generation data out)).state between) location) :
    (run setting (step setting state (.write id length generation data out)).state
      between).state.files.read (Path.below setting.directory out) = .content block.encode := by
  have stored := (run_lookup?_of_untouched between untouched).trans (step_lookup?_of_stores stores)
  have directories := (run_sameDirectories setting _ between).trans
    (step_sameDirectories setting state (.write id length generation data out))
  cases stores with
  | write leads _ => exact FileTree.read_of_lookup? ((directories.locate? _).trans leads) stored

/-- What `read` prints when the numbers and the text of the checksum are these, with a line of the
log in front: the block, or a complaint about its length. -/
def recalled (line : Bytes) (id length generation : Int64) (checksum : Bytes) : Output :=
  if 0 ≤ length then
    .answer (line ++ (ascii "blk_" ++ Decimal.ofInt id.toInt ++ ascii "_" ++
      Decimal.ofInt generation.toInt ++ ascii "--" ++ checksum ++ ascii " (" ++
      Decimal.ofInt length.toInt ++ ascii " bytes)\n"))
  else
    .complaint (ascii "[BLOCKTOOL] Corrupt block: Unexpected block size: " ++
      Decimal.ofInt length.toInt)

theorem withLength_fullText (block : Block) :
    withLength (block.version ++ Block.fullEnding block.checksum) block =
      ascii "blk_" ++ Decimal.ofInt block.id.toInt ++ ascii "_" ++
        Decimal.ofInt block.generation.toInt ++ ascii "--" ++ Checksum.wording block.checksum ++
        ascii " (" ++ Decimal.ofInt block.length.toInt ++ ascii " bytes)\n" := by
  simp only [withLength, Block.version, Block.name, Block.fullEnding, List.append_assoc]
  rfl

/-- **Reading what has been written**, commands in between. -/
theorem step_read_written {id length generation : Int64} {data out : Bytes} {block : Block}
    (stores : StoresAt setting state location (.write id length generation data out) block)
    {between : List Command}
    (untouched : Untouched setting (history setting
      (step setting state (.write id length generation data out)).state between) location) :
    ∃ checksum,
      (step setting state (.checksum data)).output = .answer (checksum ++ ascii "\n") ∧
      (Checksum.digest? (state.files.read (Path.below setting.directory data)) = none →
        checksum = ascii "nochecksum") ∧
      let after := (run setting (step setting state (.write id length generation data out)).state
        between).state
      (step setting after (.read out)).output =
        recalled (logged (moment? setting after) block.readText) id length generation
          checksum := by
  have found := finds_written stores untouched
  obtain rfl : block = described setting.directory state.files id length generation data := by
    cases stores with
    | write => rfl
  refine
    ⟨Checksum.wording (Checksum.digest? (state.files.read (Path.below setting.directory data))),
    congrArg Turn.output (step_of_print (reply_checksum setting state data)),
    fun absent => by rw [absent]; rfl, ?_⟩
  dsimp only
  unfold recalled
  by_cases nonneg : 0 ≤ length
  · rw [if_pos nonneg, step_read_of_nonneg (described_canonical _ _ _ nonneg)
      (described_fits _ _ _ _ _ _) found, withLength_fullText]
    rfl
  · have negative :
        (described setting.directory state.files id length generation data).length < 0 :=
      Int64.not_le.mp nonneg
    rw [if_neg nonneg, step_read_of_negative negative found]
    rfl

/-! ### Sessions -/

/-- **What has been written is read back.** In a session of any commands, a `write` succeeds, and
later on, when nothing else has been stored where its output path leads, the same path is read. If
the length that was typed is not negative, the `read` prints the numbers that were typed, and with
them the text that `checksum` would have printed for the data file immediately before the `write`;
otherwise it complains of the length, and prints nothing. The `read` is performed, which is to say
that no command before it aborts the program. -/
theorem read_back {input text rest later tail first second third data out : Bytes}
    {before between : List Command} {id length generation : Int64} {block : Block}
    (earlier : Reads input before text)
    (typed : Words text [ascii "write", first, second, third, data, out] rest)
    (one : TypesInt first id.toInt) (two : TypesInt second length.toInt)
    (three : TypesInt third generation.toInt)
    (stores : StoresAt setting (run setting state before).state location
      (.write id length generation data out) block)
    (meanwhile : Reads rest between later)
    (untouched : Untouched setting (history setting
      (step setting (run setting state before).state
        (.write id length generation data out)).state between) location)
    (again : Words later [ascii "read", out] tail)
    (survives :
      Survives setting state (before ++ .write id length generation data out :: between)) :
    let met := (run setting state before).state
    let after := (run setting (step setting met (.write id length generation data out)).state
      between).state
    ∃ checksum,
      (step setting met (.checksum data)).output = .answer (checksum ++ ascii "\n") ∧
      (Checksum.digest? (met.files.read (Path.below setting.directory data)) = none →
        checksum = ascii "nochecksum") ∧
      (run setting state (script input)).outputs[before.length + 1 + between.length]? =
        some (recalled (logged (moment? setting after) block.readText) id length generation
          checksum) := by
  have writes := next?_write typed one two three
  have reads := next?_read again
  have performed : script input = (before ++ .write id length generation data out :: between) ++
      .read out :: script tail := by
    rw [script_of_reads earlier, script_cons writes (fun same => nomatch same),
      script_of_reads meanwhile, script_cons reads (fun same => nomatch same), List.append_assoc,
      List.cons_append]
  have place : (before ++ .write id length generation data out :: between).length =
      before.length + 1 + between.length := by
    rw [List.length_append, List.length_cons]
    omega
  have printed := survives.getElem?_outputs (.read out) (script tail)
  obtain ⟨reached, further⟩ := survives_append.mp survives
  rw [← performed, place, reached.run_append, run_cons_of_goes (survives_cons.mp further).1]
    at printed
  obtain ⟨checksum, computed, absent, answered⟩ := step_read_written stores untouched
  exact ⟨checksum, computed, absent, printed.trans (congrArg some answered)⟩

/-- A description that is written over its own data file, with the log turned on before it is
read. -/
theorem read_back_own_file :
    let setting : Setting := ⟨ascii ".", fun _ => 0⟩
    let state : State := ⟨⟨[([ascii "d"], .file [1, 2, 3])], []⟩, false, 0⟩
    let block := described (ascii ".") state.files 7 5 (-1) (ascii "d")
    StoresAt setting state [ascii "d"] (.write 7 5 (-1) (ascii "d") (ascii "d")) block ∧
    Survives setting state [.write 7 5 (-1) (ascii "d") (ascii "d"), .trace true] ∧
    ∃ checksum : Bytes,
      (step setting state (.checksum (ascii "d"))).output = .answer (checksum ++ ascii "\n") ∧
      (run setting state (script (ascii "write +7 005 -1 d d\ntrace on\nread d\n"))).outputs[2]? =
        some (.answer (logged (some 0) block.readText ++
          (ascii "blk_" ++ Decimal.ofInt 7 ++ ascii "_" ++ Decimal.ofInt (-1) ++ ascii "--" ++
            checksum ++ ascii " (" ++ Decimal.ofInt 5 ++ ascii " bytes)\n"))) := by
  intro setting state block
  have typed : Words (ascii "write +7 005 -1 d d\ntrace on\nread d\n")
      [ascii "write", ascii "+7", ascii "005", ascii "-1", ascii "d", ascii "d"]
      (ascii "\ntrace on\nread d\n") :=
    .of_word? rfl (.of_word? rfl (.of_word? rfl (.of_word? rfl (.of_word? rfl (.of_word? rfl
      (.nil _))))))
  have again : Words (ascii "\nread d\n") [ascii "read", ascii "d"] (ascii "\n") :=
    .of_word? rfl (.of_word? rfl (.nil _))
  have seven : SpellsNat (ascii "7") 7 :=
    spellsNat_iff.mpr ⟨⟨ascii "7", by decide, by decide⟩, rfl, by decide⟩
  have five : SpellsNat (ascii "005") 5 :=
    spellsNat_iff.mpr ⟨⟨ascii "005", by decide, by decide⟩, rfl, by decide⟩
  have unit : SpellsNat (ascii "1") 1 :=
    spellsNat_iff.mpr ⟨⟨ascii "1", by decide, by decide⟩, rfl, by decide⟩
  have one : TypesInt (ascii "+7") (7 : Int64).toInt := .plus seven
  have two : TypesInt (ascii "005") (5 : Int64).toInt := .plain (.plain five)
  have three : TypesInt (ascii "-1") (-1 : Int64).toInt := .plain (.negated unit)
  have stores : StoresAt setting state [ascii "d"]
      (.write 7 5 (-1) (ascii "d") (ascii "d")) block :=
    storesAt_of_write 7 5 (-1) (ascii "d") (by decide) (by decide)
  have meanwhile : Reads (ascii "\ntrace on\nread d\n") [.trace true] (ascii "\nread d\n") :=
    .cons (by rfl) (fun same => nomatch same) (.nil _)
  obtain ⟨_, _, stored⟩ := stores.step_eq
  have untouched : Untouched setting (history setting
      (step setting state (.write 7 5 (-1) (ascii "d") (ascii "d"))).state [.trace true])
      [ascii "d"] := by
    intro moment member block stored
    obtain rfl := List.mem_singleton.mp member
    cases stored
  have survives : Survives setting state
      ([] ++ [.write 7 5 (-1) (ascii "d") (ascii "d"), .trace true]) :=
    survives_cons.mpr ⟨by rw [stored], rfl⟩
  obtain ⟨checksum, computed, _, printed⟩ :=
    read_back (.nil _) typed one two three stores meanwhile untouched again survives
  exact ⟨stores, survives, checksum, computed, printed⟩

end StorageBlock.Session
