import Castd.Wfdsink.Rtsp
import Mathlib.Data.List.DropRight

/-!
# Messages as the protocol has them

A message for a peer that goes by RTSP and not by the patterns of `rtsp.py`: a first line, and
header fields up to the first blank line, found by name. The statements about the order of messages
and about what the response to M6 says are made in these terms.

What the handlers go by instead is text anywhere in the message, and the second half of the module
says where that text stands: at a place there is a name, then blanks, then as many characters of a
kind as there are (`FieldAt`). The names are written out here once more, apart from the patterns of
`rtsp.py`, so that a condition made of them can be read against a message.
-/

namespace Castd.Wfdsink

open Lib

/-- The lines before the first blank line. -/
def headLines (message : Str) : List Str :=
  match find crlf2 message with
  | some blank => split crlf (message.take blank)
  | none => split crlf message

/-- Whether two characters are one ASCII letter up to case, or the same. -/
def sameLetter (p c : Char) : Bool := p.toLower == c.toLower

/-- The value on a header line with a name: what stands behind the colon, without the blanks around
it. There may be blanks before the colon. -/
def fieldOfLine (name : String) (line : Str) : Option Str :=
  match (afterLiteral sameLetter name.toList line).map (List.dropWhile isSpace) with
  | some (':' :: value) => some ((value.dropWhile isSpace).rdropWhile isSpace)
  | _ => none

/-- The value of the first header field with a name. -/
def headerField (name : String) (message : Str) : Option Str :=
  (headLines message).tail.findSome? (fieldOfLine name)

/-- The number at the front of a text, with what follows it. -/
def leadingNumber (text : Str) : Option (Nat × Str) :=
  match text.takeWhile isDigit with
  | [] => none
  | digits => some (ofDigits digits, text.dropWhile isDigit)

/-- What kind of message a peer sends. -/
inductive Kind
  | request (method : String)
  /-- A 200 response to the request with a CSeq. -/
  | okResponse (cseq : Nat)
  deriving DecidableEq, Repr

/-- A message of a kind, as the protocol has it: a request by the method that its first line starts
with, and a response by its status and the number in its CSeq field, whatever blanks stand around
it. -/
def Kind.Fits : Kind → Str → Prop
  | .request method, message => method.toList ++ [' '] <+: message
  | .okResponse cseq, message => "RTSP/1.0 200 ".toList <+: message ∧
      (headerField "CSeq" message).bind leadingNumber = some (cseq, [])

/-- Messages of these kinds, one for one. -/
def Follow : List Kind → List Str → Prop
  | [], [] => True
  | kind :: kinds, message :: messages => kind.Fits message ∧ Follow kinds messages
  | _, _ => False

/-- What the source sends from M1 to the response to M7, when the sink has sent so many requests
before. -/
def handshakeKinds (ownCseq : Nat) : List Kind := [
  .request "OPTIONS", .okResponse (ownCseq + 1), .request "GET_PARAMETER",
  .request "SET_PARAMETER", .request "SET_PARAMETER", .okResponse (ownCseq + 2),
  .okResponse (ownCseq + 3)]

instance : ∀ (kind : Kind) (message : Str), Decidable (kind.Fits message)
  | .request _, _ => inferInstanceAs (Decidable (_ <+: _))
  | .okResponse _, _ => inferInstanceAs (Decidable (_ ∧ _))

instance decidableFollow : ∀ (kinds : List Kind) (messages : List Str),
    Decidable (Follow kinds messages)
  | [], [] => instDecidableTrue
  | _ :: kinds, _ :: messages =>
    have := decidableFollow kinds messages
    inferInstanceAs (Decidable (_ ∧ _))
  | [], _ :: _ => instDecidableFalse
  | _ :: _, [] => instDecidableFalse

/-! ## Places in a text -/

/-- At `i` a text has a name, then blanks if there are any, and then `value`: the longest run of
characters of a kind, of at least one. -/
def FieldAt (isName : Str → Prop) (blank kind : Char → Prop) (text : Str) (i : Nat)
    (value : Str) : Prop :=
  ∃ name blanks rest, text.drop i = name ++ (blanks ++ (value ++ rest)) ∧ isName name ∧
    (∀ c ∈ blanks, blank c) ∧ value ≠ [] ∧ (∀ c ∈ value, kind c) ∧ ∀ c ∈ rest.head?, ¬ kind c

/-- `CSeq:` in some letter case, blanks and digits. -/
def CseqAt : Str → Nat → Str → Prop :=
  FieldAt (fun name => afterLiteral sameIgnoringCase "CSeq:".toList name = some [])
    (isSpace · = true) (isDigit · = true)

/-- `server_port=` and digits. -/
def PortAt : Str → Nat → Str → Prop :=
  FieldAt (· = "server_port=".toList) (fun _ => False) (isDigit · = true)

/-- `Session:`, blanks, and word characters and dots. -/
def SessionAt : Str → Nat → Str → Prop :=
  FieldAt (· = "Session:".toList) (isSpace · = true) fun c => isWord c = true ∨ c = '.'

/-- The leftmost place, and the value there. -/
def First (At : Nat → Str → Prop) (i : Nat) (value : Str) : Prop :=
  At i value ∧ ∀ j < i, ∀ other, ¬ At j other

section

variable {p : FieldPattern Char} {At : Str → Nat → Str → Prop}

private theorem fieldAt_iff_starts {isName : Str → Prop} {blank kind : Char → Prop}
    (named : ∀ name, isName name ↔ afterLiteral p.same p.literal name = some [])
    (blanks : ∀ c, blank c ↔ p.blank c = true) (keeps : ∀ c, kind c ↔ p.keep c = true)
    {text : Str} {i : Nat} {value : Str} :
    FieldAt isName blank kind text i value ↔ p.Starts (text.drop i) value := by
  simp only [FieldAt, named, blanks, keeps, Bool.not_eq_true]
  constructor
  · rintro ⟨name, blanks, rest, place, isName, blank, nonempty, kept, stops⟩
    exact ⟨⟨name, blanks, rest, place, isName, blank, stops⟩, nonempty, kept⟩
  · rintro ⟨⟨name, blanks, rest, place, isName, blank, stops⟩, nonempty, kept⟩
    exact ⟨name, blanks, rest, place, isName, blank, nonempty, kept, stops⟩

private theorem cseqAt_iff {text : Str} {i : Nat} {digits : Str} :
    CseqAt text i digits ↔ cseqRe.Starts (text.drop i) digits := by
  unfold CseqAt
  exact fieldAt_iff_starts (p := cseqRe) (fun _ => Iff.rfl) (fun _ => Iff.rfl) (fun _ => Iff.rfl)

private theorem portAt_iff {text : Str} {i : Nat} {digits : Str} :
    PortAt text i digits ↔ serverPortRe.Starts (text.drop i) digits := by
  unfold PortAt
  exact fieldAt_iff_starts (p := serverPortRe) (fun _ => afterLiteral_eq_nil_iff.symm)
    (fun _ => ⟨False.elim, Bool.false_ne_true⟩) (fun _ => Iff.rfl)

private theorem sessionAt_iff {text : Str} {i : Nat} {token : Str} :
    SessionAt text i token ↔ sessionRe.Starts (text.drop i) token := by
  unfold SessionAt
  refine fieldAt_iff_starts (p := sessionRe) (fun _ => afterLiteral_eq_nil_iff.symm)
    (fun _ => Iff.rfl) fun c => ?_
  show _ ↔ (isWord c || c == '.') = true
  rw [Bool.or_eq_true, beq_iff_eq]

private theorem search_eq_some_iff_first
    (starts : ∀ text i value, At text i value ↔ p.Starts (text.drop i) value) {text value : Str} :
    p.search text = some value ↔ ∃ i, First (At text) i value := by
  simp only [FieldPattern.search_eq_some_iff, First, FieldPattern.Leftmost, starts]

private theorem search_eq_none_iff_nowhere
    (starts : ∀ text i value, At text i value ↔ p.Starts (text.drop i) value) {text : Str} :
    p.search text = none ↔ ∀ i value, ¬ At text i value := by
  simp only [FieldPattern.search_eq_none_iff, starts]

end

/-- `_CSEQ_RE` finds nothing where no place has a CSeq, and the others likewise. -/
theorem cseqRe_search_eq_none_iff {text : Str} :
    cseqRe.search text = none ↔ ∀ i digits, ¬ CseqAt text i digits :=
  search_eq_none_iff_nowhere fun _ _ _ => cseqAt_iff

theorem serverPortRe_search_eq_none_iff {text : Str} :
    serverPortRe.search text = none ↔ ∀ i digits, ¬ PortAt text i digits :=
  search_eq_none_iff_nowhere fun _ _ _ => portAt_iff

theorem sessionRe_search_eq_none_iff {text : Str} :
    sessionRe.search text = none ↔ ∀ i token, ¬ SessionAt text i token :=
  search_eq_none_iff_nowhere fun _ _ _ => sessionAt_iff

/-- `_SERVER_PORT_RE` finds what stands at the leftmost place, and `_SESSION_RE` likewise. -/
theorem serverPortRe_search_eq_some_iff {text digits : Str} :
    serverPortRe.search text = some digits ↔ ∃ i, First (PortAt text) i digits :=
  search_eq_some_iff_first fun _ _ _ => portAt_iff

theorem sessionRe_search_eq_some_iff {text token : Str} :
    sessionRe.search text = some token ↔ ∃ i, First (SessionAt text) i token :=
  search_eq_some_iff_first fun _ _ _ => sessionAt_iff

end Castd.Wfdsink
