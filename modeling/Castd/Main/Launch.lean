import Castd.Config.Lines
import Castd.Lib.Encode

/-!
# From the configuration file to the daemon

`main` of `castd/main.py`: which file is read, how its bytes become a text, and what is made of it.
`Path.read_text` decodes UTF-8 and raises on anything else, and it turns every line end into a line
feed, which `str.splitlines` does not see (`splitlines_universalNewlines`).

The file is edited on any computer. What it says is what castd runs with (`main_starts_iff`,
`main_starts_written`), whatever its line ends are, but not if it begins with a byte order mark.
-/

namespace Castd.Main

open Lib

/-- What a path leads to. -/
inductive BootFile
  | absent
  /-- `stat` raises. -/
  | hidden
  /-- It is there, and reading it raises. -/
  | unreadable
  | holds (bytes : Bytes)
  deriving DecidableEq

/-- The boot partition. -/
abbrev Boot := Str → BootFile

/-- `RECEIVER_CONF_CANDIDATES`. -/
def receiverConfCandidates : List Str :=
  ["/boot/firmware/receiver.conf".toList, "/boot/receiver.conf".toList]

/-- The loop of `find_receiver_conf`, `none` where `exists` raises. -/
def findIn (files : Boot) (otherwise : Str) : List Str → Option Str
  | [] => some otherwise
  | path :: paths =>
    match files path with
    | .absent => findIn files otherwise paths
    | .hidden => none
    | .unreadable | .holds _ => some path

/-- `find_receiver_conf`. -/
def findReceiverConf (files : Boot) : Option Str :=
  findIn files (receiverConfCandidates.headD []) receiverConfCandidates

/-- What the text layer of `open` makes of the line ends. -/
def universalNewlines : Str → Str
  | [] => []
  | '\r' :: '\n' :: text => '\n' :: universalNewlines text
  | '\r' :: text => '\n' :: universalNewlines text
  | c :: text => c :: universalNewlines text

/-- What `Path.read_text` raises. -/
inductive ReadError
  | os
  | unicodeDecode
  deriving DecidableEq

/-- `Path.read_text`. -/
def readText : BootFile → Except ReadError Str
  | .absent | .hidden | .unreadable => .error .os
  | .holds bytes =>
    if encode (decode bytes) = bytes then .ok (universalNewlines (decode bytes))
    else .error .unicodeDecode

/-- What `main` logs that it cannot start for. -/
inductive CannotStart
  | config (error : ConfigError)
  | os
  deriving DecidableEq

/-- How `main` goes on. -/
inductive Launch
  /-- `CastDaemon(config).start()`. -/
  | starts (config : RoomConfig)
  /-- It logs and returns 1. -/
  | returnsOne (reason : CannotStart)
  | raises
  deriving DecidableEq

/-- `main`. -/
def main (files : Boot) : Launch :=
  match findReceiverConf files with
  | none => .raises
  | some confPath =>
    match readText (files confPath) with
    | .error .os => .returnsOne .os
    | .error .unicodeDecode => .raises
    | .ok text =>
      match parseRoomConfig text with
      | .error e => .returnsOne (.config e)
      | .ok config => .starts config

/-! ## Line ends -/

private theorem splitlinesFrom_cons {line : Str} {c : Char} {text : Str} (notReturn : c ≠ '\r') :
    splitlinesFrom line (c :: text) =
      if isLineBreak c then line.reverse :: splitlinesFrom [] text
      else splitlinesFrom (c :: line) text := by
  rw [splitlinesFrom]
  exact fun _ same _ => notReturn same

private theorem splitlinesFrom_return (line text : Str) :
    splitlinesFrom line ('\r' :: '\n' :: text) = line.reverse :: splitlinesFrom [] text := by
  rw [splitlinesFrom]

private theorem splitlinesFrom_universalNewlines (text line : Str) :
    splitlinesFrom line (universalNewlines text) = splitlinesFrom line text := by
  have feed : ∀ line text, splitlinesFrom line ('\n' :: text) =
      line.reverse :: splitlinesFrom [] text := fun line text =>
    (splitlinesFrom_cons (by decide)).trans (if_pos (by decide))
  induction text using universalNewlines.induct generalizing line with
  | case1 => rfl
  | case2 text ih => rw [universalNewlines, feed, splitlinesFrom_return, ih]
  | case3 text alone ih =>
    rw [universalNewlines, feed, ih, splitlinesFrom, if_pos (by decide)]
    · exact fun text' _ same => alone text' same
    · exact alone
  | case4 c text notPair notReturn ih =>
    rw [universalNewlines, splitlinesFrom_cons notReturn, splitlinesFrom_cons notReturn, ih, ih]
    · exact notPair
    · exact notReturn

private theorem parseRoomConfig_universalNewlines (text : Str) :
    parseRoomConfig (universalNewlines text) = parseRoomConfig text := by
  have same : splitlines (universalNewlines text) = splitlines text :=
    splitlinesFrom_universalNewlines text []
  unfold parseRoomConfig
  rw [same]

/-! ## How `main` ends -/

/-- The configuration file that is found holds a text. -/
def Reads (files : Boot) (text : Str) : Prop :=
  ∃ path, findReceiverConf files = some path ∧ files path = .holds (encode text)

private theorem readText_encode (text : Str) :
    readText (.holds (encode text)) = .ok (universalNewlines text) := by
  rw [readText, decode_encode, if_pos rfl]

/-- `read_text` returns what the file holds, or raises because it cannot be read, or because it
holds no UTF-8. -/
private theorem readText_cases (file : BootFile) :
    (∃ text, file = .holds (encode text)) ∨ readText file = .error .os ∨
      readText file = .error .unicodeDecode ∧
        ∃ bytes, file = .holds bytes ∧ ∀ text, bytes ≠ encode text := by
  cases file with
  | absent | hidden | unreadable => exact .inr (.inl rfl)
  | holds bytes =>
    by_cases valid : encode (decode bytes) = bytes
    · exact .inl ⟨decode bytes, congrArg BootFile.holds valid.symm⟩
    · refine .inr (.inr ⟨if_neg valid, bytes, rfl, fun text same => valid ?_⟩)
      rw [same, decode_encode]

/-- A file cannot be looked for, or the one that is found holds no UTF-8. -/
def Undecodable (files : Boot) : Prop :=
  findReceiverConf files = none ∨ ∃ path bytes, findReceiverConf files = some path ∧
    files path = .holds bytes ∧ ∀ text, bytes ≠ encode text

/-- A file holds one text at most. -/
theorem Reads.unique {files : Boot} {text text' : Str} (h : Reads files text)
    (h' : Reads files text') : text' = text := by
  obtain ⟨path, found, holds⟩ := h
  obtain ⟨path', found', holds'⟩ := h'
  cases Option.some_inj.mp (found.symm.trans found')
  exact encode_injective (BootFile.holds.inj (holds'.symm.trans holds))

private theorem Reads.not_undecodable {files : Boot} {text : Str} (h : Reads files text) :
    ¬Undecodable files := by
  obtain ⟨path, found, holds⟩ := h
  rintro (none | ⟨path', bytes, found', holds', other⟩)
  · exact Option.some_ne_none _ (found.symm.trans none)
  · cases Option.some_inj.mp (found.symm.trans found')
    exact other text (BootFile.holds.inj (holds'.symm.trans holds))

private theorem main_of_reads {files : Boot} {text : Str} (reads : Reads files text) :
    main files =
      match parseRoomConfig text with
      | .error e => .returnsOne (.config e)
      | .ok config => .starts config := by
  obtain ⟨path, found, holds⟩ := reads
  unfold main
  rw [found]
  simp only [holds, readText_encode, parseRoomConfig_universalNewlines]

private theorem main_of_no_text {files : Boot} (noText : ∀ text, ¬Reads files text) :
    main files = .raises ∧ Undecodable files ∨
      main files = .returnsOne .os ∧ ¬Undecodable files := by
  unfold main
  cases found : findReceiverConf files with
  | none => exact .inl ⟨rfl, .inl found⟩
  | some path =>
    rcases readText_cases (files path) with
      ⟨text, holds⟩ | unread | ⟨undecoded, bytes, holds, other⟩
    · exact absurd ⟨path, found, holds⟩ (noText text)
    · refine .inr ⟨by simp only [unread], ?_⟩
      rintro (none | ⟨path', bytes, found', holds, other⟩)
      · exact Option.some_ne_none _ (found.symm.trans none)
      · cases Option.some_inj.mp (found.symm.trans found')
        have invalid : encode (decode bytes) ≠ bytes := fun same => other _ same.symm
        rw [holds, readText, if_neg invalid] at unread
        cases unread
    · exact .inl ⟨by simp only [undecoded], .inr ⟨path, bytes, found, holds, other⟩⟩

/-- castd runs with a configuration exactly if the file that is found holds a text that parses to
it, and returns 1 for what is wrong with that text. It raises exactly where a file cannot be looked
for, or holds no UTF-8. -/
theorem main_ends_iff (files : Boot) :
    (∀ config, main files = .starts config ↔
        ∃ text, Reads files text ∧ parseRoomConfig text = .ok config) ∧
      (∀ e, main files = .returnsOne (.config e) ↔
        ∃ text, Reads files text ∧ parseRoomConfig text = .error e) ∧
      (main files = .raises ↔ Undecodable files) := by
  by_cases readable : ∃ text, Reads files text
  · obtain ⟨text, reads⟩ := readable
    have only : ∀ {P : Str → Prop}, (∃ text', Reads files text' ∧ P text') ↔ P text :=
      ⟨fun ⟨text', reads', h⟩ => reads.unique reads' ▸ h, fun h => ⟨text, reads, h⟩⟩
    simp only [only, main_of_reads reads, reads.not_undecodable, iff_false]
    cases parseRoomConfig text with
    | error e => simp
    | ok config => simp
  · have noText : ∀ text, ¬Reads files text := not_exists.mp readable
    have none : ∀ {P : Str → Prop}, (∃ text, Reads files text ∧ P text) ↔ False :=
      iff_false_intro fun ⟨text, reads, _⟩ => noText text reads
    rcases main_of_no_text noText with ⟨raises, undecodable⟩ | ⟨returns, decodable⟩
    · simp [none, raises, undecodable]
    · simp [none, returns, decodable]

/-! ## What people write -/

/-- The mark that some editors put at the front of a file. -/
def byteOrderMark : Char := '\uFEFF'

private theorem splitlinesFrom_begun {line : Str} (begun : line ≠ []) (text : Str) :
    ∃ rest lines, splitlinesFrom line text = (line.reverse ++ rest) :: lines := by
  induction line, text using splitlinesFrom.induct with
  | case1 line empty => exact absurd (List.isEmpty_iff.mp empty) begun
  | case2 line nonempty =>
    rw [splitlinesFrom, if_neg nonempty]
    exact ⟨[], [], by rw [List.append_nil]⟩
  | case3 line text => exact ⟨[], _, by rw [splitlinesFrom, List.append_nil]⟩
  | case4 line c text notPair breaks =>
    rw [splitlinesFrom, if_pos breaks]
    · exact ⟨[], _, by rw [List.append_nil]⟩
    · exact notPair
  | case5 line c text notPair unbroken ih =>
    obtain ⟨rest, lines, more⟩ := ih (List.cons_ne_nil _ _)
    rw [splitlinesFrom, if_neg unbroken, more]
    · exact ⟨c :: rest, lines, by rw [List.reverse_cons, List.append_assoc]; rfl⟩
    · exact notPair

private theorem parseRoomConfig_byteOrderMark (text : Str) :
    ∃ rest, parseRoomConfig (byteOrderMark :: text) =
      .error (.cannotParse 1 (byteOrderMark :: rest)) := by
  obtain ⟨rest, lines, first⟩ := splitlinesFrom_begun (List.cons_ne_nil byteOrderMark []) text
  have split : splitlines (byteOrderMark :: text) = (byteOrderMark :: rest) :: lines := by
    rw [splitlines, splitlinesFrom_cons (by decide), if_neg (by decide), first]
    rfl
  have stripped : strip (byteOrderMark :: rest) = byteOrderMark :: rest.rdropWhile isSpace := by
    rw [strip, List.dropWhile_cons_of_neg (by decide)]
    exact rdropWhile_append_cons (l := []) (by decide)
  have fails : keyValueRe (byteOrderMark :: rest.rdropWhile isSpace) = none := by
    rw [keyValueRe, List.dropWhile_cons_of_neg (by decide), List.head?_cons]
    exact if_neg (by decide)
  refine ⟨rest, ?_⟩
  unfold parseRoomConfig
  rw [split, parseLines, stripped]
  have notSkipped : ((byteOrderMark :: rest.rdropWhile isSpace).isEmpty ||
      (byteOrderMark :: rest.rdropWhile isSpace).head? = some '#') = false := by
    rw [List.isEmpty_cons, List.head?_cons]
    decide
  simp only [notSkipped, Bool.false_eq_true, if_false, fails]
  rfl

private theorem parseRoomConfig_of_writes {config : RoomConfig} {lines : List Line} {text : Str}
    (checked : config.Checked) (means : Means lines config)
    (written : List.Forall₂ Writes lines (splitlines text)) :
    parseRoomConfig text = .ok config := by
  obtain ⟨parses, entries⟩ := reads_of_written written
  have last : ∀ key, lastValue text key = lastWritten lines key := fun key => by
    rw [lastValue, lastWritten, entries]
  refine parseRoomConfig_eq_ok_iff.mpr ⟨parses, checked, ?_⟩
  rw [last, last, last, last, means.channel]
  exact ⟨means.roomName, means.wpsPin, means.passphrase, int_allowed checked.channel⟩

/-- What the lines of the file say is what castd runs with, whatever the line ends are. The same
file with a byte order mark in front is turned down at its first line. -/
theorem main_starts_written (config : RoomConfig) (checked : config.Checked) (lines : List Line)
    (means : Means lines config) (text : Str)
    (written : List.Forall₂ Writes lines (splitlines text)) :
    (∀ files, Reads files text → main files = .starts config) ∧
      ∀ files, Reads files (byteOrderMark :: text) →
        ∃ rest, main files = .returnsOne (.config (.cannotParse 1 (byteOrderMark :: rest))) := by
  refine ⟨fun files reads => ?_, fun files reads => ?_⟩
  · rw [main_of_reads reads, parseRoomConfig_of_writes checked means written]
  · obtain ⟨rest, fails⟩ := parseRoomConfig_byteOrderMark text
    exact ⟨rest, by rw [main_of_reads reads, fails]⟩

/-- The text of a file that was edited on three computers. -/
def editedText : Str :=
  "# 3.OG\r\nroom_name = Übung\r\n\r\nwps_pin=12345670\rpassphrase=correct horse\nchannel=36".toList

/-- It is the file of an old image, and what it says is what castd runs with. -/
theorem main_starts_written_edited :
    main (fun path => if path = "/boot/receiver.conf".toList then .holds (encode editedText)
        else .absent) =
      .starts ⟨"Übung".toList, "12345670".toList, "correct horse".toList, 36⟩ := by
  have checked : RoomConfig.Checked ⟨"Übung".toList, "12345670".toList, "correct horse".toList,
      36⟩ := ⟨by decide +kernel, by decide +kernel, by decide +kernel, by decide⟩
  have split : splitlines editedText = ["# 3.OG".toList, "room_name = Übung".toList, [],
      "wps_pin=12345670".toList, "passphrase=correct horse".toList, "channel=36".toList] := by
    decide +kernel
  have entry : ∀ key afterKey beforeValue value rawLine : Str, IsKey key →
      Trimmed isSpace value → (afterKey ++ beforeValue).all isSpace = true →
      key ++ afterKey ++ '=' :: (beforeValue ++ value) = rawLine →
      Writes (.entry key value) rawLine := by
    rintro key afterKey beforeValue value _ isKey trimmed blanks rfl
    have := @Writes.entry [] key afterKey beforeValue value [] isKey trimmed
      (by simpa using List.all_eq_true.mp blanks)
    rwa [List.append_nil, List.nil_append] at this
  refine (main_starts_written _ checked
    [.comment, .entry "room_name".toList "Übung".toList, .blank,
      .entry "wps_pin".toList "12345670".toList, .entry "passphrase".toList "correct horse".toList,
      .entry "channel".toList "36".toList] ⟨rfl, rfl, rfl, rfl⟩ editedText ?_).1 _
    ⟨"/boot/receiver.conf".toList, by decide +kernel, if_pos rfl⟩
  rw [split]
  refine .cons (.comment (List.forall_mem_nil _)) (.cons (entry _ [' '] [' '] _ _ ?_ ?_ ?_ ?_)
    (.cons (.blank (List.forall_mem_nil _)) (.cons (entry _ [] [] _ _ ?_ ?_ ?_ ?_)
    (.cons (entry _ [] [] _ _ ?_ ?_ ?_ ?_) (.cons (entry _ [] [] _ _ ?_ ?_ ?_ ?_) .nil)))))
  all_goals decide +kernel

end Castd.Main
