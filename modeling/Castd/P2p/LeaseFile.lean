import Castd.Config.Lines
import Castd.Lib.Pieces
import Mathlib.Data.List.TakeDrop

/-!
# The lease file

`find_lease_ip` of `castd/p2p/group_network.py`, and the loop of `_connect_to_authorized_source` in
`castd/main.py` that polls it. `dnsmasq` rewrites the file in place, so a poll can see the front of
a file only. A line is taken once it has three fields, the third complete or not, and
`findLeaseIp_torn_iff` says when that gives an address that was never leased.
-/

namespace Castd.P2p

open Lib

/-! ## The look-up -/

/-- `str.lower` on the characters of a MAC address. Other letters may lower otherwise in Python, but
none of them to a character of a MAC address. -/
def lower (text : Str) : Str := text.map Char.toLower

/-- The loop over the lines of `find_lease_ip`. -/
def leaseOf (wanted : Str) : List Str → Option Str
  | [] => none
  | line :: lines =>
    match words isSpace line with
    | _ :: mac :: ip :: _ => if lower mac = wanted then some ip else leaseOf wanted lines
    | _ => leaseOf wanted lines

/-- `find_lease_ip`. The text is missing where the file cannot be read. -/
def findLeaseIp (mac : Str) : Option Str → Option Str
  | none => none
  | some text => leaseOf (lower mac) (splitlines text)

/-- The loop of `_connect_to_authorized_source`: what it dials, by what the polls before the
deadline see. -/
def pollLease (mac : Str) : List (Option Str) → Option Str
  | [] => none
  | seen :: later =>
    match findLeaseIp mac seen with
    | some ip => if ip.isEmpty then pollLease mac later else some ip
    | none => pollLease mac later

/-! ## What is in the file -/

/-- A field has no blanks in it. -/
def IsField (field : Str) : Prop := field ≠ [] ∧ ∀ c ∈ field, isSpace c = false

instance (field : Str) : Decidable (IsField field) :=
  decidable_of_iff (field ≠ [] ∧ (field.all fun c => !isSpace c) = true) <| by
    simp [IsField]

/-- A line `<expiry> <mac> <ip> <hostname> <client-id>`. -/
structure LeaseLine where
  expiry : Str
  mac : Str
  ip : Str
  hostname : Str
  clientId : Str
  expiry_field : IsField expiry
  mac_field : IsField mac
  ip_field : IsField ip
  hostname_field : IsField hostname
  clientId_field : IsField clientId

namespace LeaseLine

/-- The fields from the address on. -/
def tail (line : LeaseLine) : Str :=
  line.ip ++ ' ' :: (line.hostname ++ ' ' :: line.clientId)

/-- The line without its end. -/
def text (line : LeaseLine) : Str := line.expiry ++ ' ' :: (line.mac ++ ' ' :: line.tail)

/-- Where the address begins. -/
def start (line : LeaseLine) : Nat := line.expiry.length + 1 + (line.mac.length + 1)

end LeaseLine

/-- The text of a file. -/
def leaseText (lines : List LeaseLine) : Str := lines.flatMap fun line => line.text ++ ['\n']

/-- Where the address of the first line for a MAC begins and ends in the text. -/
def addressSpan (mac : Str) : List LeaseLine → Option (Nat × Nat)
  | [] => none
  | line :: lines =>
    if lower line.mac = lower mac then some (line.start, line.start + line.ip.length)
    else (addressSpan mac lines).map fun span =>
      (line.text.length + 1 + span.1, line.text.length + 1 + span.2)

/-- A part of the text ends in the middle of that address: of the third field of the first line that
has the MAC, not before it and not after it. -/
def CutsAddress (mac : Str) (lines : List LeaseLine) (part : Str) : Prop :=
  ∃ span, addressSpan mac lines = some span ∧ span.1 < part.length ∧ part.length < span.2

instance (mac : Str) (lines : List LeaseLine) (part : Str) :
    Decidable (CutsAddress mac lines part) :=
  decidable_of_iff ((addressSpan mac lines).any fun span =>
      decide (span.1 < part.length ∧ part.length < span.2)) <| by
    simp [CutsAddress, Option.any_eq_true]

/-! ## One line -/

private theorem isLineBreak_of_isSpace {c : Char} (h : isSpace c = false) :
    isLineBreak c = false := by
  have all : ∀ n ∈ [0x0A, 0x0B, 0x0C, 0x0D, 0x1C, 0x1D, 0x1E, 0x85, 0x2028, 0x2029],
      ((9 ≤ n && n ≤ 13) || (28 ≤ n && n ≤ 32) || (128 ≤ n && spaces.contains n)) = true := by
    decide
  by_contra breaks
  rw [Bool.not_eq_false, isLineBreak, List.contains_iff_mem] at breaks
  rw [isSpace, all _ breaks] at h
  cases h

theorem IsField.unbroken {field : Str} (h : IsField field) : ∀ c ∈ field, isLineBreak c = false :=
  fun c hc => isLineBreak_of_isSpace (h.2 c hc)

/-- No line break stands in a line. -/
theorem LeaseLine.unbroken (line : LeaseLine) : ∀ c ∈ line.text, isLineBreak c = false := by
  have space : isLineBreak ' ' = false := by decide
  simp only [text, tail, List.forall_mem_append, List.forall_mem_cons]
  exact ⟨line.expiry_field.unbroken, space, line.mac_field.unbroken, space, line.ip_field.unbroken,
    space, line.hostname_field.unbroken, space, line.clientId_field.unbroken⟩

private theorem leaseOf_cons {wanted line expiry mac ip : Str} {rest : List Str}
    (fields : words isSpace line = expiry :: mac :: ip :: rest) (lines : List Str) :
    leaseOf wanted (line :: lines) =
      if lower mac = wanted then some ip else leaseOf wanted lines := by
  rw [leaseOf, fields]

private theorem leaseOf_cons_short {wanted line : Str} (short : (words isSpace line).length < 3)
    (lines : List Str) : leaseOf wanted (line :: lines) = leaseOf wanted lines := by
  rw [leaseOf]
  split
  next fields => simp only [fields, List.length_cons] at short; omega
  next => rfl

private theorem IsField.words_length_le {field part : Str} (h : IsField field)
    (cut : part <+: field) :
    (words isSpace part).length ≤ 1 := by
  rw [words_unbroken fun c hc => h.2 c (cut.subset hc)]
  split <;> simp

private theorem IsField.words_append {field : Str} (h : IsField field) (rest : Str) :
    words isSpace (field ++ ' ' :: rest) = field :: words isSpace rest :=
  words_append_cons h.2 h.1 (by decide) rest

private theorem leaseOf_text (wanted : Str) (line : LeaseLine) (lines : List Str) :
    leaseOf wanted (line.text :: lines) =
      if lower line.mac = wanted then some line.ip else leaseOf wanted lines := by
  apply leaseOf_cons
  rw [LeaseLine.text, line.expiry_field.words_append, line.mac_field.words_append, LeaseLine.tail,
    line.ip_field.words_append]

private theorem leaseOf_torn {line : LeaseLine} {part : Str} (cut : part <+: line.text)
    (wanted : Str) :
    leaseOf wanted [part] =
      if lower line.mac = wanted ∧ line.start < part.length then
        some (line.ip.take (part.length - line.start))
      else none := by
  rcases prefix_append_cons cut with inExpiry | ⟨fromMac, rfl, cutMac⟩
  · have one := line.expiry_field.words_length_le inExpiry
    have short := inExpiry.length_le
    rw [leaseOf_cons_short (by omega), if_neg]
    · rfl
    · rw [LeaseLine.start]
      omega
  rcases prefix_append_cons cutMac with inMac | ⟨part, rfl, cutIp⟩
  · have one := line.mac_field.words_length_le inMac
    have short := inMac.length_le
    rw [leaseOf_cons_short, if_neg]
    · rfl
    · simp only [LeaseLine.start, List.length_append, List.length_cons]
      omega
    · rw [line.expiry_field.words_append, List.length_cons]
      omega
  have length : (line.expiry ++ ' ' :: (line.mac ++ ' ' :: part)).length =
      line.start + part.length := by
    simp only [LeaseLine.start, List.length_append, List.length_cons]
    omega
  have fields : words isSpace (line.expiry ++ ' ' :: (line.mac ++ ' ' :: part)) =
      line.expiry :: line.mac :: words isSpace part := by
    rw [line.expiry_field.words_append, line.mac_field.words_append]
  rw [length, Nat.add_sub_cancel_left]
  rcases prefix_append_cons cutIp with inIp | ⟨rest, rfl, -⟩
  · have unbroken : ∀ c ∈ part, isSpace c = false := fun c hc => line.ip_field.2 c (inIp.subset hc)
    rw [words_unbroken unbroken] at fields
    by_cases empty : part = []
    · rw [if_pos empty] at fields
      rw [leaseOf_cons_short (by simp [fields]), if_neg (by simp [empty])]
      rfl
    · have nonempty := List.length_pos_iff.mpr empty
      rw [if_neg empty] at fields
      rw [leaseOf_cons fields, ← List.prefix_iff_eq_take.mp inIp]
      simp [nonempty, leaseOf]
  · rw [line.ip_field.words_append] at fields
    have more : 0 < line.ip.length + (rest.length + 1) := Nat.succ_pos _
    rw [leaseOf_cons fields, List.take_of_length_le (by simp)]
    simp [leaseOf, more]

/-! ## The file -/

private theorem findLeaseIp_line (mac : Str) (line : LeaseLine) (rest : Str) :
    findLeaseIp mac (some (line.text ++ '\n' :: rest)) =
      if lower line.mac = lower mac then some line.ip else findLeaseIp mac (some rest) := by
  rw [findLeaseIp, splitlines, splitlinesFrom_line line.unbroken, List.reverse_nil, List.nil_append,
    leaseOf_text]
  rfl

private theorem findLeaseIp_torn {line : LeaseLine} {part : Str} (cut : part <+: line.text)
    (mac : Str) :
    findLeaseIp mac (some part) =
      if lower line.mac = lower mac ∧ line.start < part.length then
        some (line.ip.take (part.length - line.start))
      else none := by
  rw [← leaseOf_torn cut, findLeaseIp,
    splitlines_unbroken fun c hc => line.unbroken c (cut.subset hc)]
  split
  next empty =>
    subst empty
    rfl
  next => rfl

private theorem leaseText_cons (line : LeaseLine) (lines : List LeaseLine) :
    leaseText (line :: lines) = line.text ++ '\n' :: leaseText lines := by
  simp [leaseText]

private theorem LeaseLine.length_text (line : LeaseLine) :
    line.start + line.ip.length < line.text.length := by
  simp only [start, text, tail, List.length_append, List.length_cons]
  omega

private theorem cutsAddress_cons {mac : Str} {line : LeaseLine} {lines : List LeaseLine}
    {part : Str}
    (other : lower line.mac ≠ lower mac) :
    CutsAddress mac (line :: lines) part ↔
      ∃ span, addressSpan mac lines = some span ∧ line.text.length + 1 + span.1 < part.length ∧
        part.length < line.text.length + 1 + span.2 := by
  simp only [CutsAddress, addressSpan, if_neg other, Option.map_eq_some_iff]
  constructor
  · rintro ⟨_, ⟨span, found, rfl⟩, inside⟩
    exact ⟨span, found, inside⟩
  · rintro ⟨span, found, inside⟩
    exact ⟨_, ⟨span, found, rfl⟩, inside⟩

private theorem cutsAddress_cons_self {mac : Str} {line : LeaseLine} {lines : List LeaseLine}
    {part : Str}
    (same : lower line.mac = lower mac) :
    CutsAddress mac (line :: lines) part ↔
      line.start < part.length ∧ part.length < line.start + line.ip.length := by
  simp only [CutsAddress, addressSpan, if_pos same, Option.some_inj]
  constructor
  · rintro ⟨_, rfl, inside⟩
    exact inside
  · exact fun inside => ⟨_, rfl, inside⟩

/-- What a poll sees of a file that is being written is no lease or the one in the file, exactly if
it does not end in the middle of the address of the first line for the MAC.

`mac` is a MAC address, in upper or lower case (`lower`). -/
theorem findLeaseIp_torn_iff (mac : Str) (lines : List LeaseLine) (part : Str)
    (torn : part <+: leaseText lines) :
    (findLeaseIp mac (some part) = none ∨
      findLeaseIp mac (some part) = findLeaseIp mac (some (leaseText lines))) ↔
        ¬CutsAddress mac lines part := by
  induction lines generalizing part with
  | nil =>
    obtain rfl := List.prefix_nil.mp torn
    refine iff_of_true (.inl rfl) ?_
    rintro ⟨_, h, -⟩
    cases h
  | cons line lines ih =>
    rw [leaseText_cons] at torn ⊢
    rw [findLeaseIp_line]
    have ends := line.length_text
    rcases prefix_append_cons torn with inLine | ⟨rest, rfl, inRest⟩
    · have short := inLine.length_le
      rw [findLeaseIp_torn inLine]
      by_cases same : lower line.mac = lower mac
      · rw [cutsAddress_cons_self same, if_pos same]
        by_cases begun : line.start < part.length
        · rw [if_pos ⟨same, begun⟩]
          have whole : line.ip.take (part.length - line.start) = line.ip ↔
              line.start + line.ip.length ≤ part.length := by
            rw [List.take_eq_self_iff]
            omega
          simp only [reduceCtorEq, Option.some_inj, false_or, whole]
          omega
        · rw [if_neg fun h => begun h.2]
          exact iff_of_true (.inl rfl) fun h => begun h.1
      · rw [cutsAddress_cons same, if_neg fun h => same h.1]
        refine iff_of_true (.inl rfl) ?_
        rintro ⟨span, -, past, -⟩
        omega
    · rw [findLeaseIp_line]
      by_cases same : lower line.mac = lower mac
      · rw [cutsAddress_cons_self same, if_pos same, if_pos same]
        refine iff_of_true (.inr rfl) fun h => ?_
        rw [List.length_append] at h
        omega
      · rw [cutsAddress_cons same, if_neg same, if_neg same, ih rest inRest, CutsAddress,
          List.length_append,
          List.length_cons]
        refine not_congr (exists_congr fun span => and_congr_right fun _ => ?_)
        omega

/-- What is dialled is the lease in one of the files, as long as no poll ends in the middle of its
address. -/
private theorem pollLease_leased {mac ip : Str} {polls : List (Option (List LeaseLine × Str))}
    (torn : ∀ poll ∈ polls, ∀ file ∈ poll, file.2 <+: leaseText file.1)
    (uncut : ∀ poll ∈ polls, ∀ file ∈ poll, ¬CutsAddress mac file.1 file.2)
    (dialled : pollLease mac (polls.map fun poll => poll.map Prod.snd) = some ip) :
    ∃ poll ∈ polls, ∃ file ∈ poll, findLeaseIp mac (some (leaseText file.1)) = some ip := by
  induction polls with
  | nil => cases dialled
  | cons poll polls ih =>
    rw [List.forall_mem_cons] at torn uncut
    rw [List.map_cons, pollLease] at dialled
    have later : pollLease mac (polls.map fun poll => poll.map Prod.snd) = some ip →
        ∃ poll' ∈ poll :: polls, ∃ file ∈ poll',
          findLeaseIp mac (some (leaseText file.1)) = some ip := by
      intro dialled
      obtain ⟨poll', among, leased⟩ := ih torn.2 uncut.2 dialled
      exact ⟨poll', List.mem_cons_of_mem poll among, leased⟩
    split at dialled
    next answer found =>
      split at dialled
      next => exact later dialled
      next =>
        cases dialled
        cases poll with
        | none => cases found
        | some file =>
          have right := (findLeaseIp_torn_iff mac file.1 file.2 (torn.1 file rfl)).mpr
            (uncut.1 file rfl)
          rw [Option.map_some] at found
          rw [found] at right
          exact ⟨_, List.mem_cons_self, file, rfl,
            (right.resolve_left (Option.some_ne_none _)).symm⟩
    next => exact later dialled

/-- A line of the file, with the address that `dnsmasq` gives out first. -/
def sampleLine : LeaseLine where
  expiry := "1752600000".toList
  mac := "aa:bb:cc:dd:ee:ff".toList
  ip := "192.168.173.50".toList
  hostname := "DESKTOP-1".toList
  clientId := "*".toList
  expiry_field := by decide +kernel
  mac_field := by decide +kernel
  ip_field := by decide +kernel
  hostname_field := by decide +kernel
  clientId_field := by decide +kernel

/-- The file as far as the last digit but one of the address. -/
def tornAddress : Str := "1752600000 aa:bb:cc:dd:ee:ff 192.168.173.5".toList

/-- The file ends before the last digit of the address, and the address without it is taken. -/
theorem torn_address_taken :
    ¬∀ (mac : Str) (lines : List LeaseLine) (part : Str), part <+: leaseText lines →
      findLeaseIp mac (some part) = none ∨
        findLeaseIp mac (some part) = findLeaseIp mac (some (leaseText lines)) := by
  intro survives
  have whole : findLeaseIp "AA:BB:CC:DD:EE:FF".toList (some (leaseText [sampleLine])) =
      some "192.168.173.50".toList := by
    decide +kernel
  have taken : findLeaseIp "AA:BB:CC:DD:EE:FF".toList (some tornAddress) =
      some "192.168.173.5".toList := by
    decide +kernel
  have torn := survives "AA:BB:CC:DD:EE:FF".toList [sampleLine] tornAddress (by decide +kernel)
  rw [whole, taken] at torn
  revert torn
  decide +kernel

/-- The file ends with the blank before the address, and no address is taken. -/
theorem findLeaseIp_torn_before :
    findLeaseIp "AA:BB:CC:DD:EE:FF".toList (some (tornAddress.take 29)) = none ∨
      findLeaseIp "AA:BB:CC:DD:EE:FF".toList (some (tornAddress.take 29)) =
        findLeaseIp "AA:BB:CC:DD:EE:FF".toList (some (leaseText [sampleLine])) :=
  (findLeaseIp_torn_iff _ [sampleLine] (tornAddress.take 29) (by decide +kernel)).mpr
    (by decide +kernel)

end Castd.P2p
