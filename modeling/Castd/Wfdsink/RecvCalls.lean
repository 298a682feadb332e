import Castd.Wfdsink.SteadyState

/-!
# How long the handshake may take

A timeout of 15 seconds is set before `negotiate`, and it bounds one `recv`. How many calls of
`recv` there are depends on the source, which may answer for ever: a source is the answer to each
call, and `EndsWithin` says that so many are enough.

`Settled` is the condition on the first answers of a source, and `handshake_bounded_iff` the
statement for a class of sources. There is a bound for all that send no more than so many bytes, and
none for all sources (`drip_never_ends`).
-/

namespace Castd.Wfdsink

open Lib WfdNegotiator

/-! ## Counting calls -/

/-- The first answers of a source. -/
def firstAnswers (source : Nat → Recv) (n : Nat) : List Recv := (List.range n).map source

private theorem firstAnswers_length (source : Nat → Recv) (n : Nat) :
    (firstAnswers source n).length = n := by
  rw [firstAnswers, List.length_map, List.length_range]

/-- A session to which these answers come. -/
def ControlSession.facing (s : ControlSession) (inbound : List Recv) : ControlSession :=
  { s with reader := { s.reader with sock := { s.reader.sock with inbound := inbound } } }

/-- The answers that an action does not ask for. -/
def answersLeft {α : Type} (x : Running α) (s : ControlSession) : List Recv :=
  (stateAfter (x s)).reader.sock.inbound

/-- `negotiate` returns or raises after at most `n` calls of `recv`: of the first `n + 1` answers of
the source it leaves one. -/
def EndsWithin (sourceIp : Str) (s : ControlSession) (source : Nat → Recv) (n : Nat) : Prop :=
  answersLeft (negotiate sourceIp) (s.facing (firstAnswers source (n + 1))) ≠ []

/-! ## What has to arrive -/

/-- What has arrived ends every read that the stages come to: there is a whole message, or a header
that announces its body in too many digits; or the source has closed, or a call has raised. -/
def Settled : List Stage → Bytes → List Recv → List (Option SockFault) → Prop
  | [], _, _, _ => True
  | .send :: _, _, _, some _ :: _ => True
  | .send :: stages, stream, tail, none :: sends => Settled stages stream tail sends
  | .send :: stages, stream, tail, [] => Settled stages stream tail []
  | .read verdict :: stages, stream, tail, sends =>
    match scanMessage stream with
    | .frame m rest => verdict (decode m) = .passes → Settled stages rest tail sends
    | .fails _ => True
    | .more =>
      match tail with
      | [] => False
      | .raises _ :: _ => True
      -- at the close what there is is the message
      | .data _ :: later =>
        verdict (decode stream) = .passes → Settled stages (arriving later) (broken later) sends

instance decidableSettled : ∀ (stages : List Stage) (stream : Bytes) (tail : List Recv)
    (sends : List (Option SockFault)), Decidable (Settled stages stream tail sends)
  | [], _, _, _ => instDecidableTrue
  | .send :: _, _, _, some _ :: _ => instDecidableTrue
  | .send :: stages, stream, tail, none :: sends => decidableSettled stages stream tail sends
  | .send :: stages, stream, tail, [] => decidableSettled stages stream tail []
  | .read verdict :: stages, stream, tail, sends =>
    match hscan : scanMessage stream with
    | .frame m rest =>
      have := decidableSettled stages rest tail sends
      decidable_of_iff (verdict (decode m) = .passes → Settled stages rest tail sends)
        (by simp only [Settled, hscan])
    | .fails _ => .isTrue (by simp only [Settled, hscan])
    | .more =>
      match tail with
      | [] => .isFalse (by simp only [Settled, hscan, not_false_eq_true])
      | .raises _ :: _ => .isTrue (by simp only [Settled, hscan])
      | .data _ :: later =>
        have := decidableSettled stages (arriving later) (broken later) sends
        decidable_of_iff
          (verdict (decode stream) = .passes → Settled stages (arriving later) (broken later) sends)
          (by simp only [Settled, hscan])

/-- These answers settle the handshake of a session. -/
def SettledBy (s : ControlSession) (answers : List Recv) : Prop :=
  Settled handshake (s.reader.buf ++ arriving answers) (broken answers) s.reader.sock.sends

instance (s : ControlSession) (answers : List Recv) : Decidable (SettledBy s answers) :=
  decidableSettled _ _ _ _

/-- The answer brings no data. -/
def isQuiet : Recv → Bool
  | .data (_ :: _) => false
  | _ => true

/-! ## One read -/

private theorem scanMessage_of_noReturn {buf : Bytes} (noReturn : 13 ∉ buf) :
    scanMessage buf = .more := by
  unfold scanMessage
  cases found : find blankLine buf with
  | none => rfl
  | some headEnd =>
    obtain ⟨post, cut⟩ := eq_append_of_find found
    refine absurd ?_ noReturn
    rw [cut]
    simp [blankLine]

section

variable {buf : Bytes} (inbound : List Recv)

private theorem readMessage_fails {e : PyError} (fails : scanMessage buf = .fails e) :
    readMessage buf inbound = (.error e, buf, inbound) := by
  cases inbound <;> unfold readMessage <;> rw [fails]

private theorem readMessage_raises (more : scanMessage buf = .more) (fault : SockFault) :
    readMessage buf (.raises fault :: inbound) = (.error fault.error, buf, inbound) := by
  unfold readMessage
  rw [more]

private theorem readMessage_close (more : scanMessage buf = .more) :
    readMessage buf (.data [] :: inbound) = (.ok buf, [], inbound) := by
  unfold readMessage
  rw [more]

end

private theorem readMessage_append {inbound : List Recv} (t : List Recv) : ∀ {buf : Bytes},
    scanMessage (buf ++ arriving inbound) ≠ .more ∨ broken inbound ≠ [] →
      ∃ outcome buf' inbound', readMessage buf inbound = (outcome, buf', inbound') ∧
        readMessage buf (inbound ++ t) = (outcome, buf', inbound' ++ t) := by
  induction inbound with
  | nil =>
    intro buf ends
    cases scan : scanMessage buf with
    | frame m rest => exact ⟨_, _, _, readMessage_frame scan _, readMessage_frame scan _⟩
    | fails e => exact ⟨_, _, _, readMessage_fails _ scan, readMessage_fails _ scan⟩
    | more =>
      rw [show arriving [] = [] from rfl, List.append_nil, scan] at ends
      exact ends.elim (fun other => absurd rfl other) fun other => absurd rfl other
  | cons recv inbound ih =>
    intro buf ends
    cases scan : scanMessage buf with
    | frame m rest => exact ⟨_, _, _, readMessage_frame scan _, readMessage_frame scan _⟩
    | fails e => exact ⟨_, _, _, readMessage_fails _ scan, readMessage_fails _ scan⟩
    | more =>
      cases recv with
      | raises fault =>
        exact ⟨_, _, _, readMessage_raises _ scan fault, readMessage_raises _ scan fault⟩
      | data bytes =>
        cases bytes with
        | nil => exact ⟨_, _, _, readMessage_close _ scan, readMessage_close _ scan⟩
        | cons b bs =>
          rw [List.cons_append, readMessage_cons_of_more scan, readMessage_cons_of_more scan]
          refine ih (ends.imp_left fun other => ?_)
          rwa [List.append_assoc]

private theorem readMessage_nil (buf : Bytes) : (readMessage buf []).2.2 = [] := by
  unfold readMessage
  cases scanMessage buf <;> rfl

private theorem readMessage_starves {inbound : List Recv} (a : Recv) : ∀ {buf : Bytes},
    scanMessage (buf ++ arriving inbound) = .more → broken inbound = [] →
      (readMessage buf (inbound ++ [a])).2.2 = [] := by
  induction inbound with
  | nil =>
    intro buf more _
    rw [show arriving [] = [] from rfl, List.append_nil] at more
    rw [List.nil_append]
    cases a with
    | raises fault => rw [readMessage_raises _ more]
    | data bytes =>
      cases bytes with
      | nil => rw [readMessage_close _ more]
      | cons b bs =>
        rw [readMessage_cons_of_more more]
        exact readMessage_nil _
  | cons recv inbound ih =>
    intro buf more starved
    cases recv with
    | raises fault => cases starved
    | data bytes =>
      cases bytes with
      | nil => cases starved
      | cons b bs =>
        rw [List.cons_append, readMessage_cons_of_more (rtspFramer.scan_front_of_more more)]
        refine ih ?_ starved
        rwa [List.append_assoc]

/-! ## Stages -/

/-- From a negotiator with `I`, the action does not ask for one more answer when its stages are
settled, and otherwise it does. With no answer left it leaves none. -/
structure Settles {α : Type} (I : WfdNegotiator → Prop) (x : Running α) (stages : List Stage) :
    Prop where
  dry : ∀ s : ControlSession, s.reader.sock.inbound = [] → answersLeft x s = []
  settled : ∀ (s : ControlSession) (a : Recv), I s.negotiator →
    (answersLeft x (s.facing (s.reader.sock.inbound ++ [a])) ≠ [] ↔
      Settled stages (s.reader.buf ++ arriving s.reader.sock.inbound)
        (broken s.reader.sock.inbound) s.reader.sock.sends)

section

variable {α β : Type} {I J : WfdNegotiator → Prop} {stages : List Stage} {s s' : ControlSession}

private theorem answersLeft_of_ok {x : Running β} {k : β → Running α} {b : β} (h : x s = .ok b s') :
    answersLeft (x >>= k) s = answersLeft (k b) s' := by
  unfold answersLeft
  rw [bind_of_ok h]

private theorem answersLeft_of_error {x : Running β} {k : β → Running α} {e : PyError}
    (h : x s = .error e s') : answersLeft (x >>= k) s = s'.reader.sock.inbound := by
  unfold answersLeft
  rw [bind_of_error h]
  rfl

private theorem settles_return {a : α} : Settles I (pure a) [] where
  dry := fun _ none => none
  settled := fun _ _ _ => iff_of_true (List.append_ne_nil_of_right_ne_nil _ (List.cons_ne_nil _ _))
    trivial

/-- A session whose socket has gone on with its sends. -/
def ControlSession.sentOn (s : ControlSession) (sends : List (Option SockFault))
    (sent : List Bytes) : ControlSession :=
  { s with reader := { s.reader with sock := { s.reader.sock with sends := sends, sent := sent } } }

private theorem sendall_cases (text : Str) (s : ControlSession) :
    (∃ fault sends sent, s.reader.sock.sends = some fault :: sends ∧
        sendall text s = .error fault.error (s.sentOn sends sent)) ∨
      ∃ sends sent, (s.reader.sock.sends = none :: sends ∨ s.reader.sock.sends = [] ∧ sends = []) ∧
        sendall text s = .ok () (s.sentOn sends sent) := by
  cases hsends : s.reader.sock.sends with
  | nil =>
    have sent : sendall text s = .ok () (s.sentOn [] (s.reader.sock.sent ++ [encode text])) :=
      focus_of_ok (by simp only [Sock.sendall, hsends])
    exact .inr ⟨_, _, .inr ⟨rfl, rfl⟩, sent⟩
  | cons outcome sends =>
    cases outcome with
    | none =>
      have sent : sendall text s = .ok () (s.sentOn sends (s.reader.sock.sent ++ [encode text])) :=
        focus_of_ok (by simp only [Sock.sendall, hsends])
      exact .inr ⟨_, _, .inl rfl, sent⟩
    | some fault =>
      have raised : sendall text s = .error fault.error (s.sentOn sends s.reader.sock.sent) :=
        focus_of_error (by simp only [Sock.sendall, hsends])
      exact .inl ⟨_, _, _, rfl, raised⟩

private theorem settles_send {text : Str} {k : Unit → Running α} (rest : Settles I (k ()) stages) :
    Settles I (sendall text >>= k) (.send :: stages) where
  dry := by
    intro s none
    rcases sendall_cases text s with raised | sent
    · obtain ⟨fault, sends, sent, -, raised⟩ := raised
      rw [answersLeft_of_error raised]
      exact none
    · obtain ⟨sends, sent, -, returned⟩ := sent
      rw [answersLeft_of_ok returned]
      exact rest.dry _ none
  settled := by
    intro s a holds
    rcases sendall_cases text (s.facing (s.reader.sock.inbound ++ [a])) with raised | sent
    · obtain ⟨fault, sends, sent, outcome, raised⟩ := raised
      rw [answersLeft_of_error raised, show s.reader.sock.sends = _ from outcome]
      exact iff_of_true (List.append_ne_nil_of_right_ne_nil _ (List.cons_ne_nil a [])) trivial
    · obtain ⟨sends, sent, outcome, returned⟩ := sent
      rw [answersLeft_of_ok returned]
      have later := rest.settled (s.sentOn sends sent) a holds
      rcases outcome with outcome | ⟨outcome, rfl⟩
      · rw [show s.reader.sock.sends = _ from outcome]
        exact later
      · rw [show s.reader.sock.sends = _ from outcome]
        exact later

private theorem settles_build {build : Negotiating β} {k : β → Running α}
    (builds : ∀ n, I n → ∃ b n', build n = .ok b n' ∧ J n')
    (rest : ∀ b, Settles J (k b) stages) : Settles I (onNegotiator build >>= k) stages where
  dry := by
    intro s none
    cases built : build s.negotiator with
    | ok b n =>
      have returned : onNegotiator build s = .ok b { s with negotiator := n } := focus_of_ok built
      rw [answersLeft_of_ok returned]
      exact (rest b).dry _ none
    | error e n =>
      have raised : onNegotiator build s = .error e { s with negotiator := n } :=
        focus_of_error built
      rw [answersLeft_of_error raised]
      exact none
  settled := by
    intro s a holds
    obtain ⟨b, n, built, holds'⟩ := builds s.negotiator holds
    have returned : onNegotiator build (s.facing (s.reader.sock.inbound ++ [a])) =
        .ok b ({ s with negotiator := n }.facing (s.reader.sock.inbound ++ [a])) :=
      focus_of_ok built
    rw [answersLeft_of_ok returned]
    exact (rest b).settled { s with negotiator := n } a holds'

private theorem nextMessage_ok {m buf : Bytes} {inbound : List Recv}
    (read : readMessage s.reader.buf s.reader.sock.inbound = (.ok m, buf, inbound)) :
    nextMessage s = .ok (decode m) { s with reader := s.reader.leaving buf inbound } :=
  focus_of_ok (by rw [RtspReader.nextMessage, read])

private theorem nextMessage_error {e : PyError} {buf : Bytes} {inbound : List Recv}
    (read : readMessage s.reader.buf s.reader.sock.inbound = (.error e, buf, inbound)) :
    nextMessage s = .error e { s with reader := s.reader.leaving buf inbound } :=
  focus_of_error (by rw [RtspReader.nextMessage, read])

private theorem dry_of_left {k : Str → Running α}
    (dry : ∀ m (s : ControlSession), s.reader.sock.inbound = [] → answersLeft (k m) s = [])
    (left : (readMessage s.reader.buf s.reader.sock.inbound).2.2 = []) :
    answersLeft (nextMessage >>= k) s = [] := by
  cases read : readMessage s.reader.buf s.reader.sock.inbound with
  | mk outcome after =>
    obtain ⟨buf, inbound⟩ := after
    rw [read] at left
    cases outcome with
    | ok message =>
      rw [answersLeft_of_ok (nextMessage_ok read)]
      exact dry _ _ left
    | error e =>
      rw [answersLeft_of_error (nextMessage_error read)]
      exact left

private theorem settles_read {k : Str → Running α} {verdict : Str → Verdict}
    (dry : ∀ m (s : ControlSession), s.reader.sock.inbound = [] → answersLeft (k m) s = [])
    (rest : ∀ m (s : ControlSession) (a : Recv), I s.negotiator →
      (answersLeft (k m) (s.facing (s.reader.sock.inbound ++ [a])) ≠ [] ↔
        (verdict m = .passes → Settled stages (s.reader.buf ++ arriving s.reader.sock.inbound)
          (broken s.reader.sock.inbound) s.reader.sock.sends))) :
    Settles I (nextMessage >>= k) (.read verdict :: stages) where
  dry := by
    intro s none
    refine dry_of_left dry ?_
    rw [none]
    exact readMessage_nil s.reader.buf
  settled := by
    intro s a holds
    have others : ∀ inbound : List Recv, inbound ++ [a] ≠ [] := fun inbound =>
      List.append_ne_nil_of_right_ne_nil _ (List.cons_ne_nil a [])
    unfold Settled
    cases scan : scanMessage (s.reader.buf ++ arriving s.reader.sock.inbound) with
    | frame m stream =>
      obtain ⟨buf, inbound, read, front, same⟩ := readMessage_of_frame scan
      obtain ⟨_, _, _, read', longer⟩ := readMessage_append [a] (.inl (by rw [scan]; nofun))
      cases read.symm.trans read'
      rw [answersLeft_of_ok (nextMessage_ok (s := s.facing (s.reader.sock.inbound ++ [a])) longer)]
      have later := rest (decode m) { s with reader := s.reader.leaving buf inbound } a holds
      rw [← front, ← same]
      exact later
    | fails e =>
      obtain ⟨outcome, buf, inbound, read, longer⟩ :=
        readMessage_append [a] (.inl (by rw [scan]; nofun))
      have failed := readMessage_valueError_iff.mpr (scanMessage_fails_iff.mp scan).2
      rw [read] at failed
      cases failed
      rw [answersLeft_of_error
        (nextMessage_error (s := s.facing (s.reader.sock.inbound ++ [a])) longer)]
      exact iff_of_true (others inbound) trivial
    | more =>
      have read := readMessage_of_more scan
      rcases broken_cases s.reader.sock.inbound with starved | broke
      · rw [starved]
        refine iff_of_false (fun left => left ?_) id
        exact dry_of_left dry (readMessage_starves a scan starved)
      · have ends : scanMessage (s.reader.buf ++ arriving s.reader.sock.inbound) ≠ .more ∨
            broken s.reader.sock.inbound ≠ [] := by
          rcases broke with ⟨fault, later, broke⟩ | ⟨later, broke⟩ <;>
            (rw [broke]; exact .inr (List.cons_ne_nil _ _))
        obtain ⟨outcome, buf, inbound, read', longer⟩ := readMessage_append [a] ends
        rcases broke with raised | closed
        · obtain ⟨fault, later, broke⟩ := raised
          rw [broke, readMessage_raises later scan] at read
          rw [broke]
          cases read.symm.trans read'
          rw [answersLeft_of_error
            (nextMessage_error (s := s.facing (s.reader.sock.inbound ++ [a])) longer)]
          exact iff_of_true (others inbound) trivial
        · obtain ⟨later, broke⟩ := closed
          rw [broke, readMessage_close later scan] at read
          rw [broke]
          cases read.symm.trans read'
          rw [answersLeft_of_ok
            (nextMessage_ok (s := s.facing (s.reader.sock.inbound ++ [a])) longer)]
          exact rest _ { s with reader := s.reader.leaving [] inbound } a holds

private theorem settles_skip {k : Str → Running α} (rest : ∀ m, Settles I (k m) stages) :
    Settles I (nextMessage >>= k) (.read (fun _ => .passes) :: stages) :=
  settles_read (fun m => (rest m).dry) fun m s a holds => by
    rw [(rest m).settled s a holds]
    exact ⟨fun later _ => later, fun later => later rfl⟩

private theorem settles_judged {handle : Str → Negotiating β} {k : Str → β → Running α}
    {verdict : Str → Verdict} (judges : ∀ m, Judges I (handle m) (verdict m) J)
    (rest : ∀ m b, Settles J (k m b) stages) :
    Settles I (nextMessage >>= fun m => onNegotiator (handle m) >>= k m)
      (.read verdict :: stages) := by
  refine settles_read (fun m s none => ?_) fun m s a holds => ?_
  · cases handled : handle m s.negotiator with
    | ok b n =>
      have returned : onNegotiator (handle m) s = .ok b { s with negotiator := n } :=
        focus_of_ok handled
      rw [answersLeft_of_ok returned]
      exact (rest m b).dry _ none
    | error e n =>
      have raised : onNegotiator (handle m) s = .error e { s with negotiator := n } :=
        focus_of_error handled
      rw [answersLeft_of_error raised]
      exact none
  · have failed : ∀ e n, handle m s.negotiator = .error e n → verdict m ≠ .passes →
        (answersLeft (onNegotiator (handle m) >>= k m)
          (s.facing (s.reader.sock.inbound ++ [a])) ≠ [] ↔
        (verdict m = .passes → Settled stages (s.reader.buf ++ arriving s.reader.sock.inbound)
          (broken s.reader.sock.inbound) s.reader.sock.sends)) := by
      intro e n handled other
      have raised : onNegotiator (handle m) (s.facing (s.reader.sock.inbound ++ [a])) =
          .error e ({ s with negotiator := n }.facing (s.reader.sock.inbound ++ [a])) :=
        focus_of_error handled
      rw [answersLeft_of_error raised]
      exact iff_of_true (List.append_ne_nil_of_right_ne_nil _ (List.cons_ne_nil a []))
        fun passes => absurd passes other
    cases hverdict : verdict m with
    | passes =>
      obtain ⟨b, n, handled, holds'⟩ := (judges m).passes hverdict _ holds
      have returned : onNegotiator (handle m) (s.facing (s.reader.sock.inbound ++ [a])) =
          .ok b ({ s with negotiator := n }.facing (s.reader.sock.inbound ++ [a])) :=
        focus_of_ok handled
      rw [answersLeft_of_ok returned, (rest m b).settled { s with negotiator := n } a holds']
      exact ⟨fun later _ => later, fun later => later rfl⟩
    | fails =>
      obtain ⟨e, n, handled⟩ := (judges m).fails hverdict _ holds
      rw [← hverdict]
      exact failed _ n handled (by rw [hverdict]; nofun)
    | overlong =>
      obtain ⟨n, handled⟩ := (judges m).overlong hverdict _ holds
      rw [← hverdict]
      exact failed _ n handled (by rw [hverdict]; nofun)

end

private theorem settles_rules : StageRules fun _ => Settles where
  done := fun _ => settles_return
  send := fun _ => settles_send
  build := settles_build
  skip := fun _ => settles_skip
  judged := fun _ judges _ => settles_judged judges

private theorem negotiate_settles (sourceIp : Str) :
    Settles (·.state = .waitM1) (negotiate sourceIp) handshake :=
  settles_rules.negotiate sourceIp

/-! ## Enough calls -/

private theorem endsWithin_iff_settled (sourceIp : Str) {s : ControlSession}
    (stands : s.negotiator.state = .waitM1) (source : Nat → Recv) (n : Nat) :
    EndsWithin sourceIp s source n ↔ SettledBy s (firstAnswers source n) := by
  have asked : firstAnswers source (n + 1) = firstAnswers source n ++ [source n] := by
    rw [firstAnswers, List.range_succ, List.map_append]
    rfl
  unfold EndsWithin
  rw [asked]
  exact (negotiate_settles sourceIp).settled (s.facing (firstAnswers source n)) (source n) stands

/-- The seven messages of a source, in one piece. -/
example : SettledBy (.fresh {} 1028 []) [.data [sourceMessage 1, sourceMessage 2, sourceMessage 3,
    sourceMessage 4, sourceMessage 5, sourceMessage 6, sourceMessage 7].flatten] := by
  simp only [sourceMessage, String.toList_append]
  repeat rw [String.toList_ofList]
  decide +kernel

private theorem length_le_bytes_add_quiet (answers : List Recv) :
    answers.length ≤ (answers.flatMap Recv.bytes).length + answers.countP isQuiet := by
  induction answers with
  | nil => exact Nat.le_refl 0
  | cons recv answers ih =>
    rw [List.flatMap_cons, List.length_append, List.length_cons]
    cases recv with
    | raises fault =>
      rw [List.countP_cons_of_pos rfl]
      omega
    | data bytes =>
      cases bytes with
      | nil =>
        rw [List.countP_cons_of_pos rfl]
        omega
      | cons b bs =>
        rw [List.countP_cons_of_neg Bool.false_ne_true, Recv.bytes, List.length_cons]
        omega

private theorem countP_quiet_broken (answers : List Recv) :
    (broken answers).countP isQuiet = answers.countP isQuiet := by
  induction answers with
  | nil => rfl
  | cons recv answers ih =>
    cases recv with
    | raises fault => rfl
    | data bytes =>
      cases bytes with
      | nil => rfl
      | cons b bs =>
        rw [List.countP_cons_of_neg Bool.false_ne_true]
        exact ih

private theorem settled_of_quiet (stages : List Stage) : ∀ {stream : Bytes} {tail : List Recv}
    {sends : List (Option SockFault)}, readsOf stages ≤ tail.countP isQuiet →
      Settled stages stream tail sends := by
  induction stages with
  | nil => exact fun _ => trivial
  | cons stage stages ih =>
    intro stream tail sends enough
    cases stage with
    | send =>
      cases sends with
      | nil => exact ih enough
      | cons outcome sends =>
        cases outcome with
        | some fault => trivial
        | none => exact ih enough
    | read verdict =>
      rw [readsOf] at enough
      unfold Settled
      cases scanMessage stream with
      | frame m rest => exact fun _ => ih (Nat.le_of_succ_le enough)
      | fails e => trivial
      | more =>
        cases tail with
        | nil => cases enough
        | cons recv later =>
          cases recv with
          | raises fault => trivial
          | data bytes =>
            refine fun _ => ih ?_
            rw [countP_quiet_broken]
            have one : (Recv.data bytes :: later).countP isQuiet ≤ later.countP isQuiet + 1 := by
              rw [List.countP_cons]
              split <;> omega
            omega

private theorem settledBy_of_bytes {s : ControlSession} {answers : List Recv}
    (few : (answers.flatMap Recv.bytes).length + 7 ≤ answers.length) : SettledBy s answers := by
  refine settled_of_quiet handshake ?_
  rw [countP_quiet_broken]
  have counted := length_le_bytes_add_quiet answers
  show 7 ≤ _
  omega

/-- Sources that send at most so many bytes. -/
def briefSources (limit : Nat) : Set (Nat → Recv) :=
  {source | ∀ n, ((firstAnswers source n).flatMap Recv.bytes).length ≤ limit}

private theorem briefSources_settled (s : ControlSession) {limit : Nat} {source : Nat → Recv}
    (brief : source ∈ briefSources limit) : SettledBy s (firstAnswers source (limit + 7)) := by
  refine settledBy_of_bytes ?_
  rw [firstAnswers_length]
  exact Nat.add_le_add_right (brief (limit + 7)) 7

/-- A source that sends one byte at a time, and never a line end. -/
def drip : Nat → Recv := fun _ => .data [65]

private theorem firstAnswers_drip (n : Nat) : 13 ∉ arriving (firstAnswers drip n) ∧
    broken (firstAnswers drip n) = [] := by
  unfold firstAnswers drip
  rw [List.map_const', List.length_range]
  induction n with
  | zero => exact ⟨List.not_mem_nil, rfl⟩
  | succ n ih =>
    rw [List.replicate_succ]
    refine ⟨fun lineEnd => ?_, ih.2⟩
    rcases List.mem_cons.mp lineEnd with first | later
    · cases first
    · exact ih.1 later

private theorem not_settledBy_drip {s : ControlSession} (empty : s.reader.buf = []) (n : Nat) :
    ¬ SettledBy s (firstAnswers drip n) := by
  intro settled
  obtain ⟨noReturn, unbroken⟩ := firstAnswers_drip n
  have more : scanMessage ([] ++ arriving (firstAnswers drip n)) = .more :=
    scanMessage_of_noReturn noReturn
  unfold SettledBy handshake Settled at settled
  rw [unbroken, empty, more] at settled
  exact settled

/-- There is a bound on the calls of `recv` for a class of sources exactly if for some number the
first answers of each of them, so many, settle the handshake.

What settles it are bytes that make up messages, a close or an exception. So there is a bound for
the sources that send no more than so many bytes, whatever they are, and on a new connection there
is none for all sources: a source may keep a message unfinished for ever. -/
theorem handshake_bounded_iff (sourceIp : Str) {s : ControlSession}
    (stands : s.negotiator.state = .waitM1) :
    (∀ sources : Set (Nat → Recv), (∃ n, ∀ source ∈ sources, EndsWithin sourceIp s source n) ↔
        ∃ n, ∀ source ∈ sources, SettledBy s (firstAnswers source n)) ∧
      (∀ limit, ∀ source ∈ briefSources limit, EndsWithin sourceIp s source (limit + 7)) ∧
      (s.reader.buf = [] → ¬ ∃ n, ∀ source, EndsWithin sourceIp s source n) := by
  simp only [endsWithin_iff_settled sourceIp stands]
  refine ⟨fun _ => trivial, fun limit source brief => briefSources_settled s brief, ?_⟩
  rintro empty ⟨n, all⟩
  exact not_settledBy_drip empty n (all drip)

/-- The sources that send a thousand bytes at most have a bound. All of them have none. -/
theorem handshake_bounded_of_briefSources :
    (∃ n, ∀ source ∈ briefSources 1000,
        EndsWithin "192.168.173.80".toList (.fresh {} 1028 []) source n) ∧
      ¬ ∃ n, ∀ source, EndsWithin "192.168.173.80".toList (.fresh {} 1028 []) source n := by
  obtain ⟨-, brief, unbounded⟩ :=
    handshake_bounded_iff "192.168.173.80".toList (s := .fresh {} 1028 []) rfl
  exact ⟨⟨1007, brief 1000⟩, unbounded rfl⟩

/-- No number of calls is enough for a source that drips, and so there is none for every source. -/
theorem drip_never_ends :
    (∀ n, ¬ EndsWithin "192.168.173.80".toList (.fresh {} 1028 []) drip n) ∧
      ¬ ∃ n, ∀ source, EndsWithin "192.168.173.80".toList (.fresh {} 1028 []) source n := by
  have never : ∀ n, ¬ EndsWithin "192.168.173.80".toList (.fresh {} 1028 []) drip n :=
    fun n ends => not_settledBy_drip rfl n ((endsWithin_iff_settled _ rfl drip n).mp ends)
  exact ⟨never, fun ⟨n, all⟩ => never n (all drip)⟩

end Castd.Wfdsink
