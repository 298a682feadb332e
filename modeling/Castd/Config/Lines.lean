import Castd.Config
import Castd.Lib.Pieces

/-!
# The lines of a configuration file

What `parse_room_config` reads off the lines of a text: `parseLines_eq_ok_iff` is the loop and
`parseRoomConfig_eq_ok_iff` the function. `Writes` is the other side, the lines that a person
writes, and `parseRoomConfig_written` says that the configuration comes back from any of them.
-/

namespace Castd

open Lib

/-! ## The loop over the lines -/

/-- The key and the value that a line sets. -/
def entryOf (rawLine : Str) : Option (Str × Str) := keyValueRe (strip rawLine)

/-- A line that the loop passes over: blank, or a comment. -/
def Skipped (rawLine : Str) : Prop := strip rawLine = [] ∨ (strip rawLine).head? = some '#'

/-- A line that the loop does not fail at. -/
def Parses (rawLine : Str) : Prop := Skipped rawLine ∨ (entryOf rawLine).isSome = true

/-- What the lines of a text set a key to last. -/
def lastValue (text key : Str) : Option Str :=
  ((splitlines text).filterMap entryOf).reverse.lookup key

private theorem skipped_iff {rawLine : Str} :
    Skipped rawLine ↔
      ((strip rawLine).isEmpty || (strip rawLine).head? = some '#') = true := by
  rw [Skipped, Bool.or_eq_true, List.isEmpty_iff, decide_eq_true_iff]

private theorem entryOf_of_skipped {rawLine : Str} (skipped : Skipped rawLine) :
    entryOf rawLine = none := by
  unfold entryOf
  rcases skipped with empty | comment
  · rw [empty]
    rfl
  · obtain ⟨rest, line⟩ := List.head?_eq_some_iff.mp comment
    rw [line, keyValueRe, List.dropWhile_cons_of_neg (by decide)]
    exact if_neg Bool.false_ne_true

/-- The loop returns when every line parses, with the entries in the order they were set, the
latest first. -/
theorem parseLines_eq_ok_iff {lineno : Nat} {lines : List Str} {values result : List (Str × Str)} :
    parseLines lineno lines values = .ok result ↔
      (∀ line ∈ lines, Parses line) ∧ result = (lines.filterMap entryOf).reverse ++ values := by
  induction lines generalizing lineno values with
  | nil =>
    rw [parseLines, Except.ok.injEq]
    exact ⟨fun same => ⟨List.forall_mem_nil _, same.symm⟩, fun h => h.2.symm⟩
  | cons line lines ih =>
    rw [parseLines, List.forall_mem_cons]
    by_cases skipped : Skipped line
    · rw [if_pos (skipped_iff.mp skipped), ih,
        List.filterMap_cons_none (entryOf_of_skipped skipped)]
      exact ⟨fun h => ⟨⟨.inl skipped, h.1⟩, h.2⟩, fun h => ⟨h.1.2, h.2⟩⟩
    · rw [if_neg (skipped_iff.not.mp skipped)]
      cases entry : entryOf line with
      | none =>
        have fails : keyValueRe (strip line) = none := entry
        simp only [fails, reduceCtorEq, false_iff, not_and]
        rintro ⟨parses, -⟩
        rw [Parses, entry] at parses
        exact absurd parses (not_or.mpr ⟨skipped, Bool.false_ne_true⟩)
      | some pair =>
        have sets : keyValueRe (strip line) = some pair := entry
        simp only [sets, ih, List.filterMap_cons_some entry, List.reverse_cons,
          List.append_assoc, List.singleton_append]
        exact ⟨fun h => ⟨⟨.inr (entry ▸ rfl), h.1⟩, h.2⟩, fun h => ⟨h.1.2, h.2⟩⟩

/-! ## The function -/

/-- `parse_room_config` returns when every line parses, every key is set and the values pass the
checks. -/
theorem parseRoomConfig_eq_ok_iff {text : Str} {config : RoomConfig} :
    parseRoomConfig text = .ok config ↔
      (∀ line ∈ splitlines text, Parses line) ∧ config.Checked ∧
        lastValue text "room_name".toList = some config.roomName ∧
        lastValue text "wps_pin".toList = some config.wpsPin ∧
        lastValue text "passphrase".toList = some config.passphrase ∧
        (lastValue text "channel".toList).bind int = some config.channel := by
  have lines : ∀ values, parseLines 1 (splitlines text) [] = .ok values ↔
      (∀ line ∈ splitlines text, Parses line) ∧
        values = ((splitlines text).filterMap entryOf).reverse := by
    intro values
    rw [parseLines_eq_ok_iff, List.append_nil]
  unfold parseRoomConfig
  cases read : parseLines 1 (splitlines text) [] with
  | error e =>
    refine iff_of_false (fun h => by cases h) ?_
    rintro ⟨parses, -⟩
    rw [(lines _).mpr ⟨parses, rfl⟩] at read
    cases read
  | ok values =>
    obtain ⟨parses, rfl⟩ := (lines values).mp read
    rw [and_iff_right parses]
    unfold lastValue
    dsimp only [Bind.bind, Except.bind]
    constructor
    · intro h
      split at h
      next roomName wpsPin passphrase channel hname hpin hpass hchannel =>
        obtain ⟨checked, rfl, rfl, rfl, number⟩ := checkValues_eq_ok_iff.mp h
        exact ⟨checked, hname, hpin, hpass, hchannel ▸ number⟩
      next => cases h
    · rintro ⟨checked, hname, hpin, hpass, number⟩
      obtain ⟨channel, hchannel, number⟩ := Option.bind_eq_some_iff.mp number
      simp only [hname, hpin, hpass, hchannel]
      exact checkValues_eq_ok_iff.mpr ⟨checked, rfl, rfl, rfl, number⟩

/-! ## The lines of a text -/

private theorem splitlinesFrom_append {line : Str} (unbroken : ∀ c ∈ line, isLineBreak c = false)
    (before text : Str) :
    splitlinesFrom before (line ++ text) = splitlinesFrom (line.reverse ++ before) text := by
  induction line generalizing before with
  | nil => rfl
  | cons c line ih =>
    have here := unbroken c List.mem_cons_self
    have notReturn : c ≠ '\r' := by
      rintro rfl
      exact absurd here (by decide)
    rw [List.cons_append, splitlinesFrom, if_neg (Bool.not_eq_true _ ▸ here),
      ih fun d hd => unbroken d (List.mem_cons_of_mem c hd)]
    · rw [List.reverse_cons, List.append_assoc, List.singleton_append]
    · exact fun _ same _ => notReturn same

/-- A line without line breaks ends at the line feed after it. -/
theorem splitlinesFrom_line {line : Str} (unbroken : ∀ c ∈ line, isLineBreak c = false)
    (before text : Str) :
    splitlinesFrom before (line ++ '\n' :: text) =
      (before.reverse ++ line) :: splitlinesFrom [] text := by
  rw [splitlinesFrom_append unbroken, splitlinesFrom, if_pos (by decide), List.reverse_append,
    List.reverse_reverse]
  exact fun _ same => absurd same (by decide)

/-- A text without line breaks is one line, if there is anything in it. -/
theorem splitlines_unbroken {line : Str} (unbroken : ∀ c ∈ line, isLineBreak c = false) :
    splitlines line = if line = [] then [] else [line] := by
  have ended := splitlinesFrom_append unbroken [] []
  rw [List.append_nil, List.append_nil, splitlinesFrom, List.reverse_reverse,
    List.isEmpty_reverse] at ended
  rw [splitlines, ended]
  simp

private theorem splitlines_lines {lines : List Str}
    (unbroken : ∀ line ∈ lines, ∀ c ∈ line, isLineBreak c = false) :
    splitlines (lines.flatMap (· ++ ['\n'])) = lines := by
  unfold splitlines
  induction lines with
  | nil => rfl
  | cons line lines ih =>
    rw [List.forall_mem_cons] at unbroken
    rw [List.flatMap_cons, List.append_assoc, List.singleton_append,
      splitlinesFrom_line unbroken.1, ih unbroken.2]
    rfl

private theorem unbroken_of_mem_splitlinesFrom {line before text : Str}
    (unbroken : ∀ c ∈ before, isLineBreak c = false) (h : line ∈ splitlinesFrom before text) :
    ∀ c ∈ line, isLineBreak c = false := by
  have reversed : ∀ {l : Str}, (∀ c ∈ l, isLineBreak c = false) →
      ∀ c ∈ l.reverse, isLineBreak c = false := fun h c hc => h c (List.mem_reverse.mp hc)
  induction before, text using splitlinesFrom.induct with
  | case1 before empty =>
    rw [splitlinesFrom, if_pos empty] at h
    cases h
  | case2 before nonempty =>
    rw [splitlinesFrom, if_neg nonempty, List.mem_singleton] at h
    exact h ▸ reversed unbroken
  | case3 before text ih =>
    rw [splitlinesFrom, List.mem_cons] at h
    rcases h with rfl | later
    · exact reversed unbroken
    · exact ih (List.forall_mem_nil _) later
  | case4 before c text notPair breaks ih =>
    rw [splitlinesFrom, if_pos breaks, List.mem_cons] at h
    · rcases h with rfl | later
      · exact reversed unbroken
      · exact ih (List.forall_mem_nil _) later
    · exact notPair
  | case5 before c text notPair here ih =>
    rw [splitlinesFrom, if_neg here] at h
    · exact ih (List.forall_mem_cons.mpr ⟨(Bool.not_eq_true _).mp here, unbroken⟩) h
    · exact notPair

/-- No line break stands in a value that a text sets. -/
theorem unbroken_of_lastValue {text key value : Str} (h : lastValue text key = some value) :
    ∀ c ∈ value, isLineBreak c = false := by
  obtain ⟨before, after, entries, _⟩ := List.lookup_eq_some_iff.mp h
  have among : (key, value) ∈ ((splitlines text).filterMap entryOf).reverse := by
    rw [entries]
    exact List.mem_append_right _ List.mem_cons_self
  obtain ⟨rawLine, isLine, entry⟩ := List.mem_filterMap.mp (List.mem_reverse.mp among)
  have stripped : ∀ s : Str, (strip s).Sublist s := fun s =>
    (List.rdropWhile_prefix _ _).sublist.trans (List.dropWhile_sublist _)
  have inLine : value.Sublist rawLine := by
    unfold entryOf keyValueRe at entry
    dsimp only at entry
    split at entry
    · split at entry
      next rest follows =>
        cases entry
        have later : ('=' :: rest).Sublist rawLine := follows ▸
          (List.dropWhile_sublist _).trans ((List.dropWhile_sublist _).trans
            ((List.dropWhile_sublist _).trans (stripped rawLine)))
        exact (stripped rest).trans ((List.sublist_cons_self _ _).trans later)
      next => cases entry
    · cases entry
  intro c hc
  exact unbroken_of_mem_splitlinesFrom (List.forall_mem_nil _) isLine c (inLine.subset hc)

/-! ## Lines that are written -/

/-- A key: `[A-Za-z_][A-Za-z0-9_]*`. -/
structure IsKey (key : Str) : Prop where
  start : key.head?.any isKeyStart = true
  chars : ∀ c ∈ key, isKeyChar c = true

instance (key : Str) : Decidable (IsKey key) :=
  decidable_of_iff (key.head?.any isKeyStart = true ∧ key.all isKeyChar = true)
    ⟨fun h => ⟨h.1, List.all_eq_true.mp h.2⟩, fun h => ⟨h.start, List.all_eq_true.mpr h.chars⟩⟩

/-- What a line is meant to say. -/
inductive Line
  | blank
  | comment
  | entry (key value : Str)

/-- A line says what it is meant to say: blanks only, a comment from a `#` on, or a key, `=` and a
value with blanks around them. -/
inductive Writes : Line → Str → Prop
  | blank {rawLine : Str} (blanks : ∀ c ∈ rawLine, isSpace c = true) : Writes .blank rawLine
  | comment {before text : Str} (blanks : ∀ c ∈ before, isSpace c = true) :
    Writes .comment (before ++ '#' :: text)
  | entry {before key afterKey beforeValue value after : Str} (isKey : IsKey key)
    (trimmed : Trimmed isSpace value)
    (blanks : ∀ c ∈ before ++ afterKey ++ beforeValue ++ after, isSpace c = true) :
    Writes (.entry key value)
      (before ++ (key ++ afterKey ++ '=' :: (beforeValue ++ value ++ after)))

/-- What a line sets. -/
def Line.entry? : Line → Option (Str × Str)
  | .entry key value => some (key, value)
  | _ => none

private theorem isSpace_of_isKeyChar {c : Char} (h : isKeyChar c = true) : isSpace c = false := by
  have bounds : 48 ≤ c.toNat ∧ c.toNat < 128 := by
    rcases Bool.or_eq_true_iff.mp h with alphanum | underscore
    · have classes : (decide (c.val ≥ 65 ∧ c.val ≤ 90) || (c.val ≥ 97 && c.val ≤ 122) ||
          (c.val ≥ 48 && c.val ≤ 57)) = true := alphanum
      simp only [Bool.or_eq_true, Bool.and_eq_true, decide_eq_true_eq, ge_iff_le,
        UInt32.le_iff_toNat_le] at classes
      rw [Char.toNat]
      rcases classes with (⟨low, high⟩ | ⟨low, high⟩) | ⟨low, high⟩ <;>
        exact ⟨Nat.le_trans (by decide) low, Nat.lt_of_le_of_lt high (by decide)⟩
    · rw [beq_iff_eq.mp underscore]
      decide
  simp only [isSpace, Bool.or_eq_false_iff, Bool.and_eq_false_iff, decide_eq_false_iff_not]
  omega

private theorem IsKey.dropWhile_isSpace {key : Str} (h : IsKey key) (rest : Str) :
    (key ++ rest).dropWhile isSpace = key ++ rest := by
  refine (Trimmed.of_forall fun c hc => isSpace_of_isKeyChar (h.chars c hc)).dropWhile_eq rest ?_
  rintro rfl
  exact absurd h.start Bool.false_ne_true

private theorem keyValueRe_of_isKey {key blanks value : Str} (isKey : IsKey key)
    (spaces : ∀ c ∈ blanks, isSpace c = true) :
    keyValueRe (key ++ blanks ++ '=' :: value) = some (key, strip value) := by
  have start : ((key ++ (blanks ++ '=' :: value)).head?).any isKeyStart = true := by
    obtain ⟨c, key, rfl⟩ := List.exists_cons_of_ne_nil fun none : key = [] => by
      rw [none] at isKey
      exact absurd isKey.start Bool.false_ne_true
    exact isKey.start
  obtain ⟨c, rest, follows, stops⟩ :
      ∃ c rest, blanks ++ '=' :: value = c :: rest ∧ ¬isKeyChar c = true := by
    cases blanks with
    | nil => exact ⟨'=', value, rfl, by decide⟩
    | cons b blanks =>
      refine ⟨b, blanks ++ '=' :: value, rfl, fun keyChar => ?_⟩
      have blank := spaces b List.mem_cons_self
      rw [isSpace_of_isKeyChar keyChar] at blank
      cases blank
  have taken : (key ++ (blanks ++ '=' :: value)).takeWhile isKeyChar = key := by
    rw [List.takeWhile_append_of_pos isKey.chars, follows, List.takeWhile_cons_of_neg stops,
      List.append_nil]
  have dropped : (key ++ (blanks ++ '=' :: value)).dropWhile isKeyChar =
      blanks ++ '=' :: value := by
    rw [List.dropWhile_append_of_pos isKey.chars, follows, List.dropWhile_cons_of_neg stops]
  have equals : (blanks ++ '=' :: value).dropWhile isSpace = '=' :: value := by
    rw [List.dropWhile_append_of_pos spaces, List.dropWhile_cons_of_neg (by decide)]
  rw [List.append_assoc, keyValueRe, isKey.dropWhile_isSpace]
  simp only [start, dropped, equals, taken, if_true]

/-- What a written line sets, and that the loop does not fail at it. -/
theorem Writes.reads {line : Line} {rawLine : Str} (written : Writes line rawLine) :
    Parses rawLine ∧ entryOf rawLine = line.entry? := by
  cases written with
  | blank blanks =>
    have skipped : Skipped rawLine := by
      left
      rw [strip, List.dropWhile_eq_nil_iff.mpr blanks, List.rdropWhile_nil]
    exact ⟨.inl skipped, entryOf_of_skipped skipped⟩
  | @comment before text blanks =>
    have skipped : Skipped (before ++ '#' :: text) := by
      right
      rw [strip, List.dropWhile_append_of_pos blanks, List.dropWhile_cons_of_neg (by decide)]
      exact congrArg List.head? (rdropWhile_append_cons (l := []) rfl)
    exact ⟨.inl skipped, entryOf_of_skipped skipped⟩
  | @entry before key afterKey beforeValue value after isKey trimmed blanks =>
    simp only [List.forall_mem_append] at blanks
    obtain ⟨⟨⟨front, afterKeyBlanks⟩, beforeValueBlanks⟩, back⟩ := blanks
    have stripped : strip (before ++ (key ++ afterKey ++
        '=' :: (beforeValue ++ value ++ after))) =
        key ++ afterKey ++ '=' :: (beforeValue ++ value ++ after).rdropWhile isSpace := by
      rw [strip, List.dropWhile_append_of_pos front, List.append_assoc, isKey.dropWhile_isSpace,
        ← List.append_assoc, rdropWhile_append_cons rfl]
    have entry : entryOf (before ++ (key ++ afterKey ++
        '=' :: (beforeValue ++ value ++ after))) = some (key, value) := by
      rw [entryOf, stripped, keyValueRe_of_isKey isKey afterKeyBlanks, strip,
        trim_rdropWhile_padded trimmed beforeValueBlanks back]
    exact ⟨.inr (entry ▸ rfl), entry⟩

/-- What lines set a key to last. -/
def lastWritten (lines : List Line) (key : Str) : Option Str :=
  (lines.filterMap Line.entry?).reverse.lookup key

/-- Lines that are written parse, and set what they say. -/
theorem reads_of_written {lines : List Line} {rawLines : List Str}
    (written : List.Forall₂ Writes lines rawLines) :
    (∀ rawLine ∈ rawLines, Parses rawLine) ∧
      rawLines.filterMap entryOf = lines.filterMap Line.entry? := by
  induction written with
  | nil => exact ⟨List.forall_mem_nil _, rfl⟩
  | cons writes _ ih =>
    obtain ⟨parses, entry⟩ := writes.reads
    refine ⟨List.forall_mem_cons.mpr ⟨parses, ih.1⟩, ?_⟩
    rw [List.filterMap_cons, List.filterMap_cons, entry, ih.2]

/-- The text of an allowed channel is read as the channel. -/
theorem int_allowed {channel : Int} (allowed : (allowedChannels.lookup channel).isSome = true) :
    int (toString channel).toList = some channel := by
  have cases : channel = 36 ∨ channel = 40 ∨ channel = 44 ∨ channel = 48 := by
    by_contra other
    simp only [not_or] at other
    obtain ⟨not36, not40, not44, not48⟩ := other
    rw [allowedChannels, List.lookup_cons, List.lookup_cons, List.lookup_cons, List.lookup_cons,
      beq_false_of_ne not36, beq_false_of_ne not40, beq_false_of_ne not44,
      beq_false_of_ne not48] at allowed
    cases allowed
  rcases cases with rfl | rfl | rfl | rfl <;> decide +kernel

/-- What the lines set last is the configuration. A key may be set any number of times, and between
its settings there may be any other lines. -/
structure Means (lines : List Line) (config : RoomConfig) : Prop where
  roomName : lastWritten lines "room_name".toList = some config.roomName
  wpsPin : lastWritten lines "wps_pin".toList = some config.wpsPin
  passphrase : lastWritten lines "passphrase".toList = some config.passphrase
  channel : lastWritten lines "channel".toList = some (toString config.channel).toList

/-- The configuration comes back from every text whose lines say it, whatever the blanks, the
comments, the other keys and the order, and whatever the keys were set to before; so it does from
lines without line breaks that are ended by line feeds. -/
theorem parseRoomConfig_written (config : RoomConfig) (checked : config.Checked)
    (lines : List Line) (means : Means lines config) :
    (∀ text, List.Forall₂ Writes lines (splitlines text) → parseRoomConfig text = .ok config) ∧
      ∀ rawLines : List Str, List.Forall₂ Writes lines rawLines →
        (∀ rawLine ∈ rawLines, ∀ c ∈ rawLine, isLineBreak c = false) →
        parseRoomConfig (rawLines.flatMap (· ++ ['\n'])) = .ok config := by
  have reads : ∀ text, List.Forall₂ Writes lines (splitlines text) →
      parseRoomConfig text = .ok config := by
    intro text written
    obtain ⟨parses, entries⟩ := reads_of_written written
    have last : ∀ key, lastValue text key = lastWritten lines key := fun key => by
      rw [lastValue, lastWritten, entries]
    refine parseRoomConfig_eq_ok_iff.mpr ⟨parses, checked, ?_, ?_, ?_, ?_⟩
    · rw [last, means.roomName]
    · rw [last, means.wpsPin]
    · rw [last, means.passphrase]
    · rw [last, means.channel]
      exact int_allowed checked.channel
  refine ⟨reads, fun rawLines written unbroken => reads _ ?_⟩
  rwa [splitlines_lines unbroken]

/-- A file with a comment, a channel that is set twice, another key, and values with `=`, `#` and
blanks in them. -/
theorem parseRoomConfig_written_sample :
    parseRoomConfig (["# third floor".toList, [], "channel=44".toList,
      " room_name =\tMR #3 = A ".toList, "wps_pin=12345670".toList,
      "passphrase = correct horse=battery".toList, "ssid = x".toList,
      "channel = 36".toList].flatMap (· ++ ['\n'])) =
      .ok ⟨"MR #3 = A".toList, "12345670".toList, "correct horse=battery".toList, 36⟩ := by
  have checked : RoomConfig.Checked ⟨"MR #3 = A".toList, "12345670".toList,
      "correct horse=battery".toList, 36⟩ :=
    ⟨by decide, by decide +kernel, by decide, by decide⟩
  have entry : ∀ before key afterKey beforeValue value after rawLine : Str, IsKey key →
      Trimmed isSpace value → (before ++ afterKey ++ beforeValue ++ after).all isSpace = true →
      before ++ (key ++ afterKey ++ '=' :: (beforeValue ++ value ++ after)) = rawLine →
      Writes (.entry key value) rawLine := by
    rintro before key afterKey beforeValue value after _ isKey trimmed blanks rfl
    exact .entry isKey trimmed (List.all_eq_true.mp blanks)
  have unbroken : ∀ rawLines : List Str,
      (rawLines.all fun rawLine => rawLine.all fun c => !isLineBreak c) = true →
      ∀ rawLine ∈ rawLines, ∀ c ∈ rawLine, isLineBreak c = false := by
    intro rawLines all rawLine hline c hc
    have := List.all_eq_true.mp (List.all_eq_true.mp all rawLine hline) c hc
    rwa [Bool.not_eq_true'] at this
  refine (parseRoomConfig_written _ checked
    [.comment, .blank, .entry "channel".toList "44".toList,
      .entry "room_name".toList "MR #3 = A".toList, .entry "wps_pin".toList "12345670".toList,
      .entry "passphrase".toList "correct horse=battery".toList, .entry "ssid".toList "x".toList,
      .entry "channel".toList "36".toList] ⟨rfl, rfl, rfl, rfl⟩).2 _ ?_
    (unbroken _ (by decide +kernel))
  refine .cons (.comment (List.forall_mem_nil _)) (.cons (.blank (List.forall_mem_nil _))
    (.cons (entry [] _ [] [] _ [] _ ?_ ?_ ?_ ?_)
    (.cons (entry [' '] _ [' '] ['\t'] _ [' '] _ ?_ ?_ ?_ ?_)
    (.cons (entry [] _ [] [] _ [] _ ?_ ?_ ?_ ?_)
    (.cons (entry [] _ [' '] [' '] _ [] _ ?_ ?_ ?_ ?_)
    (.cons (entry [] _ [' '] [' '] _ [] _ ?_ ?_ ?_ ?_)
    (.cons (entry [] _ [' '] [' '] _ [] _ ?_ ?_ ?_ ?_) .nil)))))))
  all_goals decide +kernel

end Castd
