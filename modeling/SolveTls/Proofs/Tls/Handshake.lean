import SolveTls.Tls.Handshake

/-! How a ClientHello is cut into records makes no difference to how its reading ends. -/

namespace SolveTls.TlsConnection

open Fallible Octets List

variable {self start : TlsConnection} {tail part message payload rest : Bytes}
  {record : HandshakeRecord} {taken left records : List HandshakeRecord} {verdict : Verdict}

/-! ### Records -/

theorem messageOf_append (older newer : List HandshakeRecord) :
    messageOf (older ++ newer) = messageOf older ++ messageOf newer := flatMap_append

theorem recordOctets_append (older newer : List HandshakeRecord) :
    recordOctets (older ++ newer) = recordOctets older ++ recordOctets newer :=
  flatMap_append

/-- One more record adds its payload to the message. -/
theorem messageOf_concat (taken : List HandshakeRecord) (record : HandshakeRecord) :
    messageOf (taken ++ [record]) = messageOf taken ++ record.payload := by
  rw [messageOf_append]
  exact congrArg (messageOf taken ++ ·) (append_nil _)

/-- One more record adds its header and its payload to the octets. -/
theorem recordOctets_concat (taken : List HandshakeRecord) (record : HandshakeRecord) :
    recordOctets (taken ++ [record]) = recordOctets taken ++ record.header ++ record.payload := by
  rw [recordOctets_append, append_assoc]
  exact congrArg (recordOctets taken ++ ·) (append_nil _)

/-- The header of a record has five octets. -/
theorem length_header (record : HandshakeRecord) : record.header.length = tlsRecordHeaderSize := by
  have versioned := record.versioned
  simp only [HandshakeRecord.header, length_cons, length_append, length_toBigEndian,
    tlsRecordHeaderSize]
  omega

/-- There are at least as many octets as records. -/
theorem length_recordOctets (records : List HandshakeRecord) :
    records.length ≤ (recordOctets records).length := by
  induction records with
  | nil => exact Nat.le_refl 0
  | cons record rest ih =>
    have whole : recordOctets (record :: rest) = record.wire ++ recordOctets rest := rfl
    have header := length_header record
    rw [whole, length_append, length_cons, HandshakeRecord.wire, length_append, header,
      tlsRecordHeaderSize]
    omega

/-- Octets that are there are read. -/
theorem readExactly_append {octets : Bytes} {n : Nat} (length : octets.length = n)
    (incoming : self.incoming = octets ++ tail) :
    readExactly n self = (.ok octets, { self with incoming := tail }) := by
  have enough : ¬ self.incoming.length < n := by
    rw [incoming, length_append]
    omega
  rw [readExactly, if_neg enough, incoming, ← length, take_left, drop_left]

/-- A stream without octets cannot satisfy a read. -/
theorem readExactly_empty (incoming : self.incoming = []) {n : Nat} (positive : 0 < n) :
    readExactly n self = (.error self.ending.raised, self) := by
  obtain ⟨octets, ending, written, drains, hello, sent⟩ := self
  obtain rfl : octets = [] := incoming
  have short : ([] : Bytes).length < n := positive
  simp only [readExactly, if_pos short]
  -- There is nothing to throw away either.
  cases ending with
  | closed => rfl
  | stalled => rfl

/-- A record that is there is read, whatever comes after it. -/
theorem readRecord_wire (incoming : self.incoming = record.wire ++ tail) :
    readRecord self = (.ok (record.header, record.payload), { self with incoming := tail }) := by
  have split : self.incoming = record.header ++ (record.payload ++ tail) := by
    rw [incoming, HandshakeRecord.wire, append_assoc]
  have kind : record.header.head? = some tlsHandshakeContentType := rfl
  -- The length field of a record says how long its payload is.
  have announced : bigEndian (record.header.drop 3) = record.payload.length := by
    have version : record.header.drop 3 = toBigEndian 2 record.payload.length := by
      have dropped : record.header.drop 3 =
          (record.version ++ toBigEndian 2 record.payload.length).drop 2 := rfl
      rw [dropped, ← record.versioned, drop_left]
    have small := record.sized.2
    rw [version, bigEndian_toBigEndian]
    apply Nat.mod_eq_of_lt
    exact Nat.lt_of_le_of_lt small (by decide)
  have fits : 0 < record.payload.length ∧ record.payload.length ≤ maxTlsRecordSize := record.sized
  simp only [readRecord, bind_apply, readExactly_append (length_header record) split]
  rw [runWhen_neg (by simp [kind]), pure_apply]
  dsimp only
  rw [announced, runWhen_neg (not_not.mpr fits), pure_apply]
  dsimp only
  rw [readExactly_append rfl rfl]
  rfl

/-! ### The header of the message -/

/-- The beginning of a message shows its type and its length. -/
theorem header_of_prefix (begins : part <+: message) (headed : tlsMessageHeaderSize ≤ part.length) :
    part.head? = message.head? ∧ helloLength part = helloLength message := by
  obtain ⟨tail, rfl⟩ := begins
  rw [tlsMessageHeaderSize] at headed
  match part, headed with
  | first :: second :: third :: fourth :: rest, _ => exact ⟨rfl, rfl⟩

/-- What is known of the length once this much of the message has come. -/
def lengthAfter (message part : Bytes) : Option Nat :=
  if tlsMessageHeaderSize ≤ part.length then some (helloLength message) else none

/-- The records that make the reading stop, and what is done then. -/
def conclude (message : Bytes) (taken : List HandshakeRecord) :
    TlsM (Bytes × Bytes × Option Nat) := do
  if message.head? ≠ some tlsClientHelloType then
    sendPlaintextAlert 10
    throw (.ssl "Not Client Hello")
  else if helloLength message > maxClientHelloSize then
    throw (.ssl "Client Hello too large")
  else if message.length < helloLength message + tlsMessageHeaderSize then
    throw (← get).ending.raised
  else
    return (recordOctets taken, messageOf taken, some (helloLength message))

/-- The header of the message is one that is read further. -/
structure Promising (message : Bytes) : Prop where
  kind : message.head? = some tlsClientHelloType
  small : helloLength message ≤ maxClientHelloSize

/-- A message whose header is not known yet, or promising, is read on. -/
theorem checkMessage_goes (begins : part ++ payload <+: message)
    (promising : tlsMessageHeaderSize ≤ (part ++ payload).length → Promising message)
    (self : TlsConnection) :
    checkMessage (part ++ payload) (lengthAfter message part) self =
      (.ok (lengthAfter message (part ++ payload)), self) := by
  unfold checkMessage
  by_cases known : tlsMessageHeaderSize ≤ part.length
  · -- The length was known before, and stays what it is.
    have still : tlsMessageHeaderSize ≤ (part ++ payload).length := by
      rw [length_append]
      omega
    rw [lengthAfter, lengthAfter, if_pos known, if_pos still, if_neg (by simp)]
    rfl
  · rw [lengthAfter, lengthAfter, if_neg known]
    by_cases complete : tlsMessageHeaderSize ≤ (part ++ payload).length
    · obtain ⟨kind, length⟩ := header_of_prefix begins complete
      have large : ¬ bigEndian (((part ++ payload).drop 1).take 3) > maxClientHelloSize := by
        show ¬ helloLength (part ++ payload) > maxClientHelloSize
        rw [length]
        exact not_lt.mpr (promising complete).small
      rw [if_pos ⟨rfl, complete⟩, if_pos complete,
        runWhen_neg (by rw [kind, (promising complete).kind]; simp), pure_bind_eq]
      rw [raiseIf_neg large, pure_bind_eq, pure_apply]
      exact congrArg (fun value => (Except.ok (some value), self)) length
    · rw [if_neg (fun both => complete both.2), if_neg complete]
      rfl

/-- A message of another type, or one that is too large, is turned down with its header. -/
theorem checkMessage_stops (begins : part ++ payload <+: message)
    (unknown : ¬ tlsMessageHeaderSize ≤ part.length)
    (complete : tlsMessageHeaderSize ≤ (part ++ payload).length) (unpromising : ¬ Promising message)
    (taken : List HandshakeRecord) (next : Option Nat → TlsM (Bytes × Bytes × Option Nat))
    (self : TlsConnection) :
    (checkMessage (part ++ payload) (lengthAfter message part) >>= next) self =
      conclude message taken self := by
  obtain ⟨kind, length⟩ := header_of_prefix begins complete
  rw [lengthAfter, if_neg unknown, checkMessage, if_pos ⟨rfl, complete⟩, conclude, kind]
  by_cases hello : message.head? = some tlsClientHelloType
  · have large : helloLength message > maxClientHelloSize := by
      apply Nat.lt_of_not_le
      intro small
      exact unpromising ⟨hello, small⟩
    have large' : bigEndian (((part ++ payload).drop 1).take 3) > maxClientHelloSize := by
      show helloLength (part ++ payload) > maxClientHelloSize
      rw [length]
      exact large
    rw [if_neg (not_not.mpr hello), if_pos large, runWhen_neg (not_not.mpr hello), pure_bind_eq]
    dsimp only
    rw [raiseIf_pos large', throw_bind_eq, throw_bind_eq]
  · rw [if_pos hello, runWhen_pos hello]
    simp only [bind_apply]
    -- The alert is sent or fails; either way nothing follows.
    rcases sendPlaintextAlert 10 self with ⟨raised | value, after⟩ <;> rfl

/-! ### The loop -/

/-- What is known while records are collected. -/
structure Collecting (message : Bytes) (taken left : List HandshakeRecord) : Prop where
  whole : messageOf (taken ++ left) = message
  headed : tlsMessageHeaderSize ≤ message.length
  promising : tlsMessageHeaderSize ≤ (messageOf taken).length → Promising message
  needed : ∀ older last, taken = older ++ [last] →
    (messageOf older).length < helloLength message + tlsMessageHeaderSize

/-- The records taken are as many as are needed for the message, and no more. -/
def Enough (message : Bytes) (taken : List HandshakeRecord) : Prop :=
  ∃ older last, taken = older ++ [last] ∧
    (messageOf older).length < helloLength message + tlsMessageHeaderSize ∧
    helloLength message + tlsMessageHeaderSize ≤ (messageOf taken).length

theorem Collecting.begins (collecting : Collecting message taken left) :
    messageOf taken <+: message := by
  rw [← collecting.whole, messageOf_append]
  exact prefix_append _ _

/-- The loop stops: the message is complete with the records taken. -/
theorem collectRecords_complete (collecting : Collecting message taken left)
    (complete : helloLength message + tlsMessageHeaderSize ≤ (messageOf taken).length) (turns : Nat)
    (self : TlsConnection) :
    collectRecords (turns + 1) (recordOctets taken) (messageOf taken)
      (lengthAfter message (messageOf taken)) self = conclude message taken self ∧
    Enough message taken := by
  have known : tlsMessageHeaderSize ≤ (messageOf taken).length := by omega
  obtain ⟨kind, small⟩ := collecting.promising known
  have reached := collecting.begins.length_le
  have long : ¬ message.length < helloLength message + tlsMessageHeaderSize := by omega
  constructor
  · rw [lengthAfter, if_pos known, collectRecords, conclude, if_neg (not_not.mpr kind),
      if_neg (not_lt.mpr small), if_neg long]
    have finished : unfinished (messageOf taken) (some (helloLength message)) = false := by
      simp only [unfinished, decide_eq_false_iff_not]
      omega
    rw [finished]
    rfl
  · -- Something was taken, because a header has come.
    rcases eq_nil_or_concat taken with rfl | ⟨older, last, rfl⟩
    · exact absurd known (by decide)
    · rw [concat_eq_append] at complete ⊢
      exact ⟨older, last, rfl, collecting.needed older last (concat_eq_append ..), complete⟩

theorem unfinished_of_short
    (short : (messageOf taken).length < helloLength message + tlsMessageHeaderSize) :
    unfinished (messageOf taken) (lengthAfter message (messageOf taken)) = true := by
  unfold lengthAfter
  split
  · simp only [unfinished, decide_eq_true_eq]
    exact short
  · rfl

/-- Taking one more record. -/
theorem Collecting.next (collecting : Collecting message taken (record :: left))
    (short : (messageOf taken).length < helloLength message + tlsMessageHeaderSize)
    (promising : tlsMessageHeaderSize ≤ (messageOf (taken ++ [record])).length → Promising message) :
    Collecting message (taken ++ [record]) left := by
  refine ⟨?_, collecting.headed, promising, ?_⟩
  · rw [append_assoc]
    exact collecting.whole
  · intro older last same
    obtain ⟨rfl, -⟩ := append_inj' same rfl
    exact short

/-- The loop, once some of the records have been taken. -/
def collectFrom (message : Bytes) (turns : Nat) (taken : List HandshakeRecord) :
    TlsM (Bytes × Bytes × Option Nat) :=
  collectRecords turns (recordOctets taken) (messageOf taken)
    (lengthAfter message (messageOf taken))

/-- The loop ends as the message deserves, after some of the records that were left. -/
def Ending (message rest : Bytes) (turns : Nat) (taken left : List HandshakeRecord)
    (self : TlsConnection) : Prop :=
  ∃ taken' left', taken ++ left = taken' ++ left' ∧
    collectFrom message turns taken self =
      conclude message taken' { self with incoming := recordOctets left' ++ rest } ∧
    (Promising message → helloLength message + tlsMessageHeaderSize ≤ message.length →
      Enough message taken')

/-- A complete message ends the loop, and what comes after it is left alone. -/
theorem collectFrom_complete (collecting : Collecting message taken left)
    (complete : helloLength message + tlsMessageHeaderSize ≤ (messageOf taken).length)
    (incoming : self.incoming = recordOctets left ++ rest) (turns : Nat) :
    Ending message rest (turns + 1) taken left self := by
  have unread : { self with incoming := recordOctets left ++ rest } = self := by
    rw [← incoming]
  obtain ⟨stopped, found⟩ := collectRecords_complete collecting complete turns self
  refine ⟨taken, left, rfl, ?_, fun _ _ => found⟩
  rw [unread]
  exact stopped

/-- A stream that ends before the message raises what its end raises. -/
theorem collectFrom_ended (promising : Promising message)
    (short : message.length < helloLength message + tlsMessageHeaderSize)
    (whole : messageOf taken = message) (nothing : self.incoming = []) (turns : Nat) :
    collectFrom message (turns + 1) taken self = conclude message taken self := by
  have waiting : unfinished (messageOf taken) (lengthAfter message (messageOf taken)) = true :=
    unfinished_of_short (by rwa [whole])
  rw [collectFrom, collectRecords, waiting, if_pos rfl, conclude,
    if_neg (not_not.mpr promising.kind), if_neg (not_lt.mpr promising.small), if_pos short]
  simp only [readRecord, bind_apply,
    readExactly_empty nothing (show 0 < tlsRecordHeaderSize by decide)]
  rfl

/-- While octets of the message are missing, one more record is read and looked at. -/
theorem collectFrom_reads
    (short : (messageOf taken).length < helloLength message + tlsMessageHeaderSize)
    (incoming : self.incoming = record.wire ++ tail) (turns : Nat) :
    collectFrom message (turns + 1) taken self =
      (checkMessage (messageOf taken ++ record.payload) (lengthAfter message (messageOf taken)) >>=
        collectRecords turns (recordOctets (taken ++ [record])) (messageOf (taken ++ [record])))
          { self with incoming := tail } := by
  rw [collectFrom, collectRecords, unfinished_of_short short, if_pos rfl, bind_apply,
    readRecord_wire incoming, recordOctets_concat, messageOf_concat]

/-- However the rest is cut into records, the loop ends as the message deserves. -/
theorem collectFrom_ends (left : List HandshakeRecord) {turns : Nat}
    (collecting : Collecting message taken left) (enough : left.length < turns)
    (incoming : self.incoming = recordOctets left ++ rest)
    (ended : message.length < helloLength message + tlsMessageHeaderSize →
      Promising message → rest = []) : Ending message rest turns taken left self := by
  obtain ⟨turns, rfl⟩ : ∃ more, turns = more + 1 := ⟨turns - 1, by omega⟩
  -- The induction is on the records that have not been read.
  induction left generalizing taken turns self with
  | nil =>
    by_cases complete : helloLength message + tlsMessageHeaderSize ≤ (messageOf taken).length
    · exact collectFrom_complete collecting complete incoming turns
    have whole : messageOf taken = message := by
      rw [← collecting.whole, append_nil]
    have short := Nat.lt_of_not_le complete
    rw [whole] at short
    have promising := collecting.promising (by rw [whole]; exact collecting.headed)
    obtain rfl := ended short promising
    have unread : { self with incoming := recordOctets [] ++ [] } = self := by
      rw [← incoming]
    refine ⟨taken, [], rfl, ?_, fun _ long => absurd long (by omega)⟩
    rw [unread]
    exact collectFrom_ended promising short whole incoming turns
  | cons record left ih =>
    by_cases complete : helloLength message + tlsMessageHeaderSize ≤ (messageOf taken).length
    · exact collectFrom_complete collecting complete incoming turns
    have short := Nat.lt_of_not_le complete
    have moved : taken ++ record :: left = taken ++ [record] ++ left := by
      rw [append_assoc]
      rfl
    have begins : messageOf taken ++ record.payload <+: message := by
      rw [← messageOf_concat, ← collecting.whole, moved, messageOf_append _ left]
      exact prefix_append _ _
    have front : self.incoming = record.wire ++ (recordOctets left ++ rest) := by
      rw [incoming, ← append_assoc]
      rfl
    rw [Ending, collectFrom_reads short front, moved]
    by_cases promising : tlsMessageHeaderSize ≤ (messageOf taken ++ record.payload).length →
        Promising message
    · -- The header is not known yet, or allows more: the loop goes on.
      have next := collecting.next short (by rw [messageOf_concat]; exact promising)
      obtain ⟨fewer, rfl⟩ : ∃ more, turns = more + 1 := ⟨turns - 1, by simp at enough; omega⟩
      rw [bind_apply, checkMessage_goes begins promising, ← messageOf_concat]
      exact ih next rfl fewer (Nat.lt_of_succ_lt_succ enough)
    · -- The header is complete with this record, and turns the message down.
      rw [Classical.not_imp] at promising
      have unknown : ¬ tlsMessageHeaderSize ≤ (messageOf taken).length := fun known =>
        promising.2 (collecting.promising known)
      exact ⟨taken ++ [record], left, rfl,
        checkMessage_stops begins unknown promising.1 promising.2 _ _ _,
        fun fine _ => absurd fine promising.2⟩

/-! ### The whole reading -/

/-- A first alert is sent, and then the writer is drained as its script says. -/
theorem sendPlaintextAlert_fresh (fresh : self.tlsFatalAlertSent = false) (description : UInt8)
    (reason : String) {α : Type} :
    ∃ after, (do sendPlaintextAlert description; throw (.ssl reason) : TlsM α) self =
        (.error ((self.drains.headD none).getD (.ssl reason)), after) ∧
      after.written = self.written ++ [alertRecord description] ∧
      after.clientHello = self.clientHello := by
  have unsent : ¬ self.tlsFatalAlertSent = true := by simp [fresh]
  simp only [sendPlaintextAlert, bind_apply, get_apply, runWhen_pos unsent, modify_apply, drain]
  -- An error of the drain takes the place of the one that was to follow.
  cases self.drains.headD none with
  | none => exact ⟨_, rfl, rfl, rfl⟩
  | some raised => exact ⟨_, rfl, rfl, rfl⟩

/-- What a complete message declares is found in the records taken for it. -/
theorem body_of_enough (begins : messageOf taken <+: message) (enough : Enough message taken) :
    ((messageOf taken).drop tlsMessageHeaderSize).take (helloLength message) =
      helloBody message := by
  obtain ⟨older, last, -, -, complete⟩ := enough
  obtain ⟨tail, rfl⟩ := begins
  have inside : helloLength (messageOf taken ++ tail) ≤
      ((messageOf taken).drop tlsMessageHeaderSize).length := by
    rw [length_drop]
    omega
  have header : tlsMessageHeaderSize ≤ (messageOf taken).length := by omega
  rw [helloBody, drop_append_of_le_length header, take_append_of_le_length inside]

/-- From the start, with a turn for every octet, the loop ends as the message deserves. -/
theorem collectFrom_start (headed : tlsMessageHeaderSize ≤ (messageOf records).length)
    (ended : helloVerdict (messageOf records) = .incomplete → rest = [])
    (incoming : self.incoming = recordOctets records ++ rest) :
    Ending (messageOf records) rest (self.incoming.length + 1) [] records self := by
  have collecting : Collecting (messageOf records) [] records := by
    refine ⟨rfl, headed, fun known => absurd known (by decide), fun older last same => ?_⟩
    simp at same
  have turns : records.length < self.incoming.length + 1 := by
    have octets := length_recordOctets records
    rw [incoming, length_append]
    omega
  refine collectFrom_ends records collecting turns incoming fun short promising => ended ?_
  rw [helloVerdict, if_neg (not_not.mpr promising.kind), if_neg (not_lt.mpr promising.small),
    if_pos short]

/-- For every cutting of a message, its reading ends as the message deserves. -/
theorem readClientHello_concludes (headed : tlsMessageHeaderSize ≤ (messageOf records).length)
    (ended : helloVerdict (messageOf records) = .incomplete → rest = []) (ending : StreamEnd)
    (drains : List (Option Exn)) :
    Concludes records rest (connected records rest ending drains)
      (helloVerdict (messageOf records)) (readClientHello (connected records rest ending drains)) := by
  have incoming : (connected records rest ending drains).incoming =
      recordOctets records ++ rest := rfl
  obtain ⟨taken, left, split, concluded, found⟩ := collectFrom_start headed ended incoming
  have collected : collectRecords ((connected records rest ending drains).incoming.length + 1)
      [] [] none (connected records rest ending drains) = conclude (messageOf records) taken
        { connected records rest ending drains with incoming := recordOctets left ++ rest } :=
    concluded
  rw [readClientHello, bind_apply, get_apply]
  dsimp only
  rw [bind_apply, collected]
  -- The cases are those of the verdict, in its order.
  unfold helloVerdict conclude
  by_cases kind : (messageOf records).head? = some tlsClientHelloType
  · rw [if_neg (not_not.mpr kind), if_neg (not_not.mpr kind)]
    by_cases small : helloLength (messageOf records) ≤ maxClientHelloSize
    · rw [if_neg (not_lt.mpr small), if_neg (not_lt.mpr small)]
      by_cases short :
          (messageOf records).length < helloLength (messageOf records) + tlsMessageHeaderSize
      · rw [if_pos short, if_pos short]
        exact ⟨rfl, rfl, rfl⟩
      · rw [if_neg short, if_neg short]
        have enough := found ⟨kind, small⟩ (not_lt.mp short)
        have begins : messageOf taken <+: messageOf records := by
          have all : messageOf records = messageOf (taken ++ left) := congrArg messageOf split
          rw [all, messageOf_append]
          exact prefix_append _ _
        simp only [pure_apply, Option.getD_some, body_of_enough begins enough]
        obtain ⟨older, last, rfl, needed, complete⟩ := enough
        cases parsed : ClientHelloReader.parse (helloBody (messageOf records)) with
        | ok hello =>
          refine ⟨older, last, left, ?_, needed, complete, rfl⟩
          rw [append_assoc] at split
          exact split
        | error reason =>
          obtain ⟨after, sent, written, kept⟩ := sendPlaintextAlert_fresh (α := Bytes)
            (show ({ connected records rest ending drains with
              incoming := recordOctets left ++ rest } : TlsConnection).tlsFatalAlertSent = false
              from rfl) 50 "Malformed ClientHello"
          dsimp only
          rw [sent]
          exact ⟨rfl, written, kept⟩
    · rw [if_pos (not_le.mp small), if_pos (not_le.mp small)]
      exact ⟨rfl, rfl, rfl⟩
  · rw [if_pos kind, if_pos kind]
    obtain ⟨after, sent, written, kept⟩ := sendPlaintextAlert_fresh (α := Bytes × Bytes × Option Nat)
      (show ({ connected records rest ending drains with
        incoming := recordOctets left ++ rest } : TlsConnection).tlsFatalAlertSent = false
        from rfl) 10 "Not Client Hello"
    rw [sent]
    exact ⟨rfl, written, kept⟩

/-- The same verdict on two connections that are alike shows in the same way. -/
theorem alike_of_concludes {records' : List HandshakeRecord} {rest' : Bytes}
    {start' : TlsConnection} {ran ran' : Except Exn Bytes × TlsConnection}
    (drains : start.drains = start'.drains) (ending : start.ending = start'.ending)
    (written : start.written = start'.written) (hello : start.clientHello = start'.clientHello)
    (concludes : Concludes records rest start verdict ran)
    (concludes' : Concludes records' rest' start' verdict ran') :
    (ran.1.map fun _ => ()) = (ran'.1.map fun _ => ()) ∧
      ran.2.clientHello = ran'.2.clientHello ∧ ran.2.written = ran'.2.written := by
  cases verdict with
  | accepted found =>
    obtain ⟨_, _, _, -, -, -, rfl⟩ := concludes
    obtain ⟨_, _, _, -, -, -, rfl⟩ := concludes'
    exact ⟨rfl, rfl, written⟩
  | rejected alert reason =>
    obtain ⟨outcome, sent, kept⟩ := concludes
    obtain ⟨outcome', sent', kept'⟩ := concludes'
    rw [outcome, outcome', sent, sent', kept, kept', drains, written, hello]
    exact ⟨rfl, rfl, rfl⟩
  | incomplete =>
    obtain ⟨outcome, sent, kept⟩ := concludes
    obtain ⟨outcome', sent', kept'⟩ := concludes'
    rw [outcome, outcome', sent, sent', kept, kept', ending, written, hello]
    exact ⟨rfl, rfl, rfl⟩

/-- At most one alert has been sent. -/
theorem written_of_concludes {ran : Except Exn Bytes × TlsConnection}
    (concludes : Concludes records rest start verdict ran) :
    ran.2.written.length ≤ start.written.length + 1 := by
  cases verdict with
  | accepted found =>
    obtain ⟨_, _, _, -, -, -, rfl⟩ := concludes
    exact Nat.le_succ _
  | rejected alert reason =>
    obtain ⟨-, sent, -⟩ := concludes
    rw [sent, length_append, length_map]
    cases alert with
    | none => exact Nat.le_succ _
    | some description => exact Nat.le_refl _
  | incomplete =>
    obtain ⟨-, sent, -⟩ := concludes
    rw [sent]
    exact Nat.le_succ _

/--
However a message is cut into records, its reading ends in the same way.

Each of two cuttings ends as the verdict on the message says. What follows the records is not
looked at, except that a stream has to end when the message is not complete.
-/
theorem readClientHello_fragmentation {message : Bytes}
    (headed : tlsMessageHeaderSize ≤ message.length) {first second : List HandshakeRecord}
    (cut₁ : messageOf first = message) (cut₂ : messageOf second = message) {rest₁ rest₂ : Bytes}
    (ended : helloVerdict message = .incomplete → rest₁ = [] ∧ rest₂ = []) (ending : StreamEnd)
    (drains : List (Option Exn)) :
    Concludes first rest₁ (connected first rest₁ ending drains) (helloVerdict message)
      (readClientHello (connected first rest₁ ending drains)) ∧
    Concludes second rest₂ (connected second rest₂ ending drains) (helloVerdict message)
      (readClientHello (connected second rest₂ ending drains)) ∧
    ((readClientHello (connected first rest₁ ending drains)).1.map fun _ => ()) =
      ((readClientHello (connected second rest₂ ending drains)).1.map fun _ => ()) ∧
    (readClientHello (connected first rest₁ ending drains)).2.clientHello =
      (readClientHello (connected second rest₂ ending drains)).2.clientHello ∧
    (readClientHello (connected first rest₁ ending drains)).2.written =
      (readClientHello (connected second rest₂ ending drains)).2.written ∧
    (readClientHello (connected first rest₁ ending drains)).2.written.length ≤ 1 := by
  subst cut₁
  have concludes₁ := readClientHello_concludes headed (fun open' => (ended open').1) ending drains
  have concludes₂ : Concludes second rest₂ (connected second rest₂ ending drains)
      (helloVerdict (messageOf first)) (readClientHello (connected second rest₂ ending drains)) := by
    rw [← cut₂]
    refine readClientHello_concludes (by rw [cut₂]; exact headed) (fun open' => ?_) ending drains
    rw [cut₂] at open'
    exact (ended open').2
  obtain ⟨outcome, hello, written⟩ := alike_of_concludes rfl rfl rfl rfl concludes₁ concludes₂
  exact ⟨concludes₁, concludes₂, outcome, hello, written, written_of_concludes concludes₁⟩

/-- A ClientHello with one cipher suite, and an octet behind it that does not belong to it. -/
def shortHello : Bytes :=
  [0x01, 0x00, 0x00, 0x29, 0x03, 0x03] ++ List.replicate 32 0x00 ++
    [0x00, 0x00, 0x02, 0x13, 0x01, 0x01, 0x00] ++ [0xFF]

/-- The message in one record. -/
def wholeHello : List HandshakeRecord := [⟨[0x03, 0x01], shortHello, rfl, by decide⟩]

/-- The message cut inside its header. -/
def cutHello : List HandshakeRecord := [
  ⟨[0x03, 0x01], shortHello.take 2, rfl, by decide⟩,
  ⟨[0x03, 0x03], shortHello.drop 2, rfl, by decide⟩]

/-- The same ClientHello is found in both cuttings. -/
theorem readClientHello_fragmentation_short :
    (readClientHello (connected wholeHello [0x17] .closed [])).2.clientHello ≠ none ∧
    (readClientHello (connected wholeHello [0x17] .closed [])).2.clientHello =
      (readClientHello (connected cutHello [] .closed [])).2.clientHello := by
  have complete : helloVerdict shortHello ≠ .incomplete := by decide +kernel
  obtain ⟨-, -, -, same, -, -⟩ := readClientHello_fragmentation
    (show tlsMessageHeaderSize ≤ shortHello.length by decide) (show messageOf wholeHello = _ from rfl)
    (show messageOf cutHello = _ from rfl) (fun open' => absurd open' complete) .closed []
  exact ⟨by decide +kernel, same⟩

end SolveTls.TlsConnection
