import Castd.Lib.Utf8
import Mathlib.Data.List.Induction
import Mathlib.Algebra.Ring.Nat

/-!
# Records with a length

A record is an id, the length of a payload and the payload, the two numbers big-endian in a fixed
number of bytes each. `walk` reads a row of records, and `walk_eq_some_iff` says that it reads
exactly the concatenations of records: the round trip in both directions.
-/

namespace Castd.Lib

/-! ## Big-endian numbers -/

/-- A number in so many bytes, the most significant first. Higher digits are dropped. -/
def toBigEndian : Nat → Nat → Bytes
  | 0, _ => []
  | width + 1, n => toBigEndian width (n / 256) ++ [UInt8.ofNat n]

/-- The number that bytes stand for, the most significant first. -/
def ofBigEndian (bytes : Bytes) : Nat := bytes.foldl (fun n b => 256 * n + b.toNat) 0

@[simp] theorem length_toBigEndian (width n : Nat) : (toBigEndian width n).length = width := by
  induction width generalizing n with
  | zero => rfl
  | succ width ih => rw [toBigEndian, List.length_append, ih, List.length_singleton]

private theorem ofBigEndian_concat (bytes : Bytes) (b : UInt8) :
    ofBigEndian (bytes ++ [b]) = 256 * ofBigEndian bytes + b.toNat :=
  List.foldl_concat _ _ b bytes

theorem ofBigEndian_toBigEndian {width n : Nat} (fits : n < 256 ^ width) :
    ofBigEndian (toBigEndian width n) = n := by
  induction width generalizing n with
  | zero =>
    rw [Nat.pow_zero, Nat.lt_one_iff] at fits
    exact fits.symm
  | succ width ih =>
    have high : n / 256 < 256 ^ width := Nat.div_lt_of_lt_mul (by rwa [← Nat.pow_succ'])
    have low : (UInt8.ofNat n).toNat = n % 256 := rfl
    rw [toBigEndian, ofBigEndian_concat, ih high, low]
    exact Nat.div_add_mod n 256

private theorem toBigEndian_ofBigEndian (bytes : Bytes) :
    toBigEndian bytes.length (ofBigEndian bytes) = bytes := by
  induction bytes using List.reverseRecOn with
  | nil => rfl
  | append_singleton bytes b ih =>
    have high : (256 * ofBigEndian bytes + b.toNat) / 256 = ofBigEndian bytes := by
      have := b.toNat_lt
      omega
    have low : UInt8.ofNat (256 * ofBigEndian bytes + b.toNat) = b := by
      apply UInt8.toNat_inj.mp
      have := b.toNat_lt
      rw [UInt8.toNat_ofNat']
      omega
    rw [List.length_append, List.length_singleton, ofBigEndian_concat, toBigEndian, high, low, ih]

private theorem ofBigEndian_lt (bytes : Bytes) : ofBigEndian bytes < 256 ^ bytes.length := by
  induction bytes using List.reverseRecOn with
  | nil => exact Nat.one_pos
  | append_singleton bytes b ih =>
    have := b.toNat_lt
    rw [ofBigEndian_concat, List.length_append, List.length_singleton, Nat.pow_succ]
    omega

/-! ## Records -/

/-- A format of records: how many bytes an id and a length take. -/
structure Tlv where
  idWidth : Nat
  lengthWidth : Nat
  header_pos : 0 < idWidth + lengthWidth

namespace Tlv

/-- A record of a format. -/
structure Record (T : Tlv) where
  id : Nat
  payload : Bytes
  id_lt : id < 256 ^ T.idWidth
  payload_lt : payload.length < 256 ^ T.lengthWidth
  deriving DecidableEq

variable {T : Tlv}

/-- The bytes of a record. -/
def Record.emit (record : T.Record) : Bytes :=
  toBigEndian T.idWidth record.id ++ toBigEndian T.lengthWidth record.payload.length ++
    record.payload

variable (T)

/-- The length that the first record announces. -/
def announced (bytes : Bytes) : Nat :=
  ofBigEndian ((bytes.drop T.idWidth).take T.lengthWidth)

private theorem announced_lt (bytes : Bytes) : T.announced bytes < 256 ^ T.lengthWidth := by
  refine Nat.lt_of_lt_of_le (ofBigEndian_lt _) (Nat.pow_le_pow_right (by decide) ?_)
  exact List.length_take_le _ _

/-- The first record is there as a whole. -/
def Whole (bytes : Bytes) : Prop :=
  T.idWidth + T.lengthWidth ≤ bytes.length ∧
    T.announced bytes ≤ (bytes.drop (T.idWidth + T.lengthWidth)).length

instance (bytes : Bytes) : Decidable (T.Whole bytes) :=
  inferInstanceAs (Decidable (_ ∧ _))

/-- The first record, and what follows it. -/
def next (bytes : Bytes) : Option (T.Record × Bytes) :=
  if whole : T.Whole bytes then
    let body := bytes.drop (T.idWidth + T.lengthWidth)
    some
      ({ id := ofBigEndian (bytes.take T.idWidth)
         payload := body.take (T.announced bytes)
         id_lt := by
          have := ofBigEndian_lt (bytes.take T.idWidth)
          rwa [List.length_take_of_le (by have := whole.1; omega)] at this
         payload_lt := by
          rw [List.length_take_of_le whole.2]
          exact T.announced_lt bytes },
       body.drop (T.announced bytes))
  else none

variable {T}

private theorem next_emit (record : T.Record) (rest : Bytes) :
    T.next (record.emit ++ rest) = some (record, rest) := by
  obtain ⟨id, payload, id_lt, payload_lt⟩ := record
  have parts : Record.emit ⟨id, payload, id_lt, payload_lt⟩ ++ rest =
      toBigEndian T.idWidth id ++ (toBigEndian T.lengthWidth payload.length ++
        (payload ++ rest)) := by
    simp only [Record.emit, List.append_assoc]
  rw [parts]
  generalize hbytes : toBigEndian T.idWidth id ++ (toBigEndian T.lengthWidth payload.length ++
    (payload ++ rest)) = bytes
  have taken : bytes.take T.idWidth = toBigEndian T.idWidth id := by
    rw [← hbytes, List.take_left' (length_toBigEndian _ _)]
  have afterId : bytes.drop T.idWidth =
      toBigEndian T.lengthWidth payload.length ++ (payload ++ rest) := by
    rw [← hbytes, List.drop_left' (length_toBigEndian _ _)]
  have body : bytes.drop (T.idWidth + T.lengthWidth) = payload ++ rest := by
    rw [← List.drop_drop, afterId, List.drop_left' (length_toBigEndian _ _)]
  have length : T.announced bytes = payload.length := by
    rw [announced, afterId, List.take_left' (length_toBigEndian _ _),
      ofBigEndian_toBigEndian payload_lt]
  have whole : T.Whole bytes := by
    refine ⟨?_, ?_⟩
    · rw [← hbytes, List.length_append, List.length_append, length_toBigEndian,
        length_toBigEndian]
      omega
    · rw [length, body, List.length_append]
      exact Nat.le_add_right _ _
  rw [next, dif_pos whole]
  simp only [taken, body, length, ofBigEndian_toBigEndian id_lt, List.take_left, List.drop_left]

private theorem eq_emit_of_next {bytes rest : Bytes} {record : T.Record}
    (read : T.next bytes = some (record, rest)) : bytes = record.emit ++ rest := by
  rw [next] at read
  split at read
  next whole =>
    cases read
    have idLength : (bytes.take T.idWidth).length = T.idWidth :=
      List.length_take_of_le (by have := whole.1; omega)
    have lengthLength : ((bytes.drop T.idWidth).take T.lengthWidth).length = T.lengthWidth :=
      List.length_take_of_le (by have := whole.1; rw [List.length_drop]; omega)
    have idBytes := toBigEndian_ofBigEndian (bytes.take T.idWidth)
    have lengthBytes := toBigEndian_ofBigEndian ((bytes.drop T.idWidth).take T.lengthWidth)
    rw [idLength] at idBytes
    rw [lengthLength] at lengthBytes
    simp only [Record.emit, List.length_take_of_le whole.2]
    rw [idBytes, announced, lengthBytes, List.append_assoc, List.append_assoc,
      List.take_append_drop, ← List.drop_drop, List.take_append_drop, List.take_append_drop]
  next => cases read

private theorem length_of_next {bytes rest : Bytes} {record : T.Record}
    (read : T.next bytes = some (record, rest)) : rest.length < bytes.length := by
  have := T.header_pos
  rw [eq_emit_of_next read]
  simp only [Record.emit, List.length_append, length_toBigEndian]
  omega

variable (T)

/-- Reads a row of records. -/
def walk (bytes : Bytes) : Option (List T.Record) :=
  if bytes = [] then some []
  else
    match read : T.next bytes with
    | none => none
    | some (record, rest) =>
      have := length_of_next read
      (walk rest).map (record :: ·)
termination_by bytes.length

variable {T}

@[simp] theorem walk_nil : T.walk [] = some [] := by
  rw [walk, if_pos rfl]

private theorem walk_of_next {bytes rest : Bytes} {record : T.Record}
    (read : T.next bytes = some (record, rest)) :
    T.walk bytes = (T.walk rest).map (record :: ·) := by
  have nonempty : bytes ≠ [] := by
    rintro rfl
    exact absurd (length_of_next read) (Nat.not_lt_zero _)
  rw [walk, if_neg nonempty]
  split
  next hread =>
    rw [read] at hread
    cases hread
  next hread =>
    rw [read] at hread
    cases hread
    rfl

/-- The walker reads exactly the concatenations of records. -/
theorem walk_eq_some_iff {bytes : Bytes} {records : List T.Record} :
    T.walk bytes = some records ↔ bytes = records.flatMap Record.emit := by
  constructor
  · induction bytes using walk.induct T generalizing records with
    | case1 => 
      intro walked
      rw [walk_nil] at walked
      cases walked
      rfl
    | case2 bytes nonempty read =>
      intro walked
      rw [walk, if_neg nonempty] at walked
      split at walked
      next => cases walked
      next hread =>
        rw [read] at hread
        cases hread
    | case3 bytes nonempty record rest read _ ih =>
      intro walked
      rw [walk_of_next read, Option.map_eq_some_iff] at walked
      obtain ⟨later, walkedRest, rfl⟩ := walked
      rw [List.flatMap_cons, ← ih walkedRest]
      exact eq_emit_of_next read
  · rintro rfl
    induction records with
    | nil => exact walk_nil
    | cons record records ih =>
      rw [List.flatMap_cons, walk_of_next (next_emit record _), ih, Option.map_some]

end Tlv

end Castd.Lib
