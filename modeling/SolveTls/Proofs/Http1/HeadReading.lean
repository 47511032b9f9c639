import SolveTls.Http1.HeadReading
import SolveTls.Http1.UriLaws

/-! Reading a request head gives the same outcome however its octets are cut into chunks. -/

namespace SolveTls

open Search List

variable {α : Type} {data chunk : Bytes} {position : Nat} {outcome : Except Exn Bytes}
  {chunks : List Bytes}

/-! ### Which error an oversized head deserves -/

private theorem takeWhile_take (keep : α → Bool) (items : List α) (count : Nat) :
    (items.take count).takeWhile keep = (items.takeWhile keep).take count := by
  -- Both stop at the first item that is not kept, or at the count.
  induction items generalizing count with
  | nil => simp
  | cons item rest ih =>
    cases count with
    | zero => simp
    | succ count => by_cases kept : keep item <;> simp [kept, ih]

/-- A separator is found behind the items that differ from it. -/
theorem cut_eq [DecidableEq α] (separator : α) (items : List α) :
    cut separator items = (items.takeWhile (· ≠ separator),
      if (items.takeWhile (· ≠ separator)).length < items.length then
        some (items.drop ((items.takeWhile (· ≠ separator)).length + 1)) else none) := by
  induction items with
  | nil => rfl
  | cons item rest ih =>
    rw [cut_cons, ih]
    by_cases here : item = separator <;> simp [here]

/-- Whether the target makes a request line too long, given what comes before the line. -/
def TargetTooLong (start : Nat) (line : Bytes) : Prop :=
  let method := line.takeWhile (· ≠ 0x20)
  method.length < line.length ∧ start + method.length + 14 < maxHeadSize ∧
    maxHeadSize - (start + method.length + 14) <
      ((line.drop (method.length + 1)).takeWhile (· ≠ 0x20)).length

instance (start : Nat) (line : Bytes) : Decidable (TargetTooLong start line) :=
  inferInstanceAs (Decidable (_ ∧ _ ∧ _))

/-- The question is settled by the octets that fit below the limit. -/
theorem targetTooLong_take {start count : Nat} {line : Bytes} (covered : count ≤ line.length)
    (enough : maxHeadSize ≤ start + count + 12) :
    TargetTooLong start (line.take count) ↔ TargetTooLong start line := by
  simp only [TargetTooLong, takeWhile_take, length_take, Nat.min_eq_left covered]
  generalize method : (line.takeWhile (· ≠ 0x20)).length = width
  by_cases near : width < count
  · -- The method ends below the limit, so the target begins at the same place.
    have clipped : ((line.take count).drop (min count width + 1)).takeWhile (· ≠ 0x20) =
        ((line.drop (width + 1)).takeWhile (· ≠ 0x20)).take (count - (width + 1)) := by
      rw [Nat.min_eq_right near.le, drop_take, takeWhile_take]
    rw [clipped, length_take, Nat.min_eq_right near.le]
    generalize ((line.drop (width + 1)).takeWhile (· ≠ 0x20)).length = targetWidth
    unfold maxHeadSize at enough ⊢
    omega
  · -- Otherwise the method alone fills the head.
    rw [Nat.min_eq_left (by omega)]
    unfold maxHeadSize at enough ⊢
    constructor
    · rintro ⟨impossible, -⟩
      omega
    · rintro ⟨-, room, -⟩
      omega

/-- An oversized head is refused for its target, or else as a whole. -/
theorem headSizeError_eq (data : Bytes) :
    headSizeError data =
      if LineTooLarge data ∧ TargetTooLong (lineStart data) (requestLine data) then
        .http1 "Request target too long" 414
      else .http1 "Request head too large" 431 := by
  rw [headSizeError, cut_eq]
  have framing : "  HTTP/1.1\r\n\r\n".length = 14 := by decide
  by_cases separated : ((requestLine data).takeWhile (· ≠ 0x20)).length < (requestLine data).length
  · rw [if_pos separated]
    simp only [cut_eq, framing, TargetTooLong, separated, true_and]
  · -- Without a space there is no target to be too long.
    rw [if_neg separated]
    have short : ¬ TargetTooLong (lineStart data) (requestLine data) := fun long => separated long.1
    rw [if_neg fun both => short both.2]

theorem lineStart_le (data : Bytes) : lineStart data ≤ 2 := by
  unfold lineStart
  split <;> decide

/-- In an oversized line, only the octets below the limit are looked at. -/
theorem targetTooLong_requestLine (large : LineTooLarge data) (long : maxHeadSize ≤ data.length) :
    TargetTooLong (lineStart data) (requestLine data) ↔ TargetTooLong (lineStart data)
      ((data.drop (lineStart data)).take (maxHeadSize - 3 - lineStart data)) := by
  have start := lineStart_le data
  -- Whether or not the line has ended, it reaches up to the limit.
  have reaches : maxHeadSize - 3 ≤ (lineEnd data).getD data.length := by
    cases ended : lineEnd data with
    | none => exact (Nat.sub_le _ _).trans long
    | some position =>
      have behind := large position ended
      have width : headEnd.length = 4 := rfl
      simp only [Option.getD_some]
      omega
  have covered : maxHeadSize - 3 - lineStart data ≤ ((data.drop (lineStart data)).take
      ((lineEnd data).getD data.length - lineStart data)).length := by
    rw [length_take, length_drop]
    omega
  have enough : maxHeadSize ≤ lineStart data + (maxHeadSize - 3 - lineStart data) + 12 := by
    unfold maxHeadSize
    omega
  rw [requestLine, drop_take, ← targetTooLong_take covered enough, take_take,
    Nat.min_eq_left (by omega)]

/-- Once the limit is reached, further octets do not change the error. -/
theorem headSizeError_append (long : maxHeadSize ≤ data.length) (more : Bytes) :
    headSizeError (data ++ more) = headSizeError data := by
  have limit : maxHeadSize = 65536 := rfl
  have start := lineStart_le data
  have sameStart : lineStart (data ++ more) = lineStart data := by
    have covered : 0 + crlf.length ≤ data.length := by
      rw [show crlf.length = 2 from rfl]
      omega
    have same := isPrefix_drop_append covered more
    rw [drop_zero, drop_zero] at same
    simp only [lineStart, same]
  have long' : maxHeadSize ≤ (data ++ more).length := by
    rw [length_append]
    omega
  have behind : (data ++ more).drop (lineStart data) = data.drop (lineStart data) ++ more :=
    drop_append_of_le_length (by omega)
  have sameLine : LineTooLarge (data ++ more) ↔ LineTooLarge data := by
    simp only [LineTooLarge, lineEnd, findFrom?, sameStart, behind]
    cases found : find? crlf (data.drop (lineStart data)) with
    | some position => rw [find?_append found]
    | none =>
      -- The line has not ended within the limit, so wherever it ends is behind it.
      refine ⟨fun _ => by intros; contradiction, fun _ position ended => ?_⟩
      obtain ⟨offset, found', rfl⟩ := Option.map_eq_some_iff.mp (Option.mem_def.mp ended)
      have late : ¬ offset + crlf.length ≤ (data.drop (lineStart data)).length := fun within => by
        rw [find?_of_append found' within] at found
        cases found
      rw [length_drop, show crlf.length = 2 from rfl] at late
      rw [show headEnd.length = 4 from rfl]
      omega
  rw [headSizeError_eq, headSizeError_eq]
  by_cases large : LineTooLarge data
  · have sameTarget : TargetTooLong (lineStart (data ++ more)) (requestLine (data ++ more)) ↔
        TargetTooLong (lineStart data) (requestLine data) := by
      rw [targetTooLong_requestLine (sameLine.mpr large) long', targetTooLong_requestLine large long,
        sameStart, behind, take_append_of_le_length]
      rw [length_drop]
      omega
    simp only [sameLine, sameTarget]
  · rw [if_neg fun both => large (sameLine.mp both.1), if_neg fun both => large both.1]

/-! ### What a loop does with the octets so far -/

/-- The outcome a reader settles on with these octets, if it does. -/
def judge (data : Bytes) : Option (Except Exn Bytes) :=
  match checkHeadSize data true with
  | .error raised => some (.error raised)
  | .ok () => (find? headEnd data).map fun position => .ok (data.take (position + headEnd.length))

/-- What reading a stream to the end of its head, or to the limit, must lead to. -/
def headOutcome (stream : Bytes) : Except Exn Bytes :=
  (judge stream).getD (.error (.connection "Connection closed"))

/-- A head that ends within the limit is taken. -/
theorem judge_of_fits (found : find? headEnd data = some position)
    (fits : position + headEnd.length ≤ maxHeadSize) :
    judge data = some (.ok (data.take (position + headEnd.length))) := by
  simp [judge, checkHeadSize, found, Nat.not_lt.mpr fits]

/-- A head beyond the limit is refused. -/
theorem judge_of_oversized
    (oversized : ∀ position, find? headEnd data = some position →
      maxHeadSize < position + headEnd.length) (long : maxHeadSize ≤ data.length) :
    judge data = some (.error (headSizeError data)) := by
  cases found : find? headEnd data with
  | some position => simp [judge, checkHeadSize, found, oversized position found]
  | none => simp [judge, checkHeadSize, found, long]

/-- A short head without an end waits for more. -/
theorem judge_of_short (missing : find? headEnd data = none) (short : data.length < maxHeadSize) :
    judge data = none := by
  simp [judge, checkHeadSize, missing, Nat.not_lt.mpr short.le, Nat.not_le.mpr short]

/-- A stream that holds a head or reaches the limit settles the outcome. -/
theorem judge_whole {stream : Bytes}
    (enough : (find? headEnd stream).isSome ∨ maxHeadSize ≤ stream.length) :
    judge stream = some (headOutcome stream) := by
  have settled : (judge stream).isSome := by
    cases found : find? headEnd stream with
    | some position => cases checked : checkHeadSize stream true <;> simp [judge, checked, found]
    | none =>
      have long := enough.resolve_left (by simp [found])
      rw [judge_of_oversized (by simp [found]) long]
      rfl
  obtain ⟨outcome, settled⟩ := Option.isSome_iff_exists.mp settled
  rw [headOutcome, settled]
  rfl

/-- The octets so far settle nothing, or they settle what the whole stream does. -/
theorem judge_front (data more : Bytes) :
    judge data = none ∨ judge data = judge (data ++ more) := by
  cases found : find? headEnd data with
  | some position =>
    -- The head is complete, and what follows is not part of it.
    have found' := find?_append found more
    by_cases fits : position + headEnd.length ≤ maxHeadSize
    · right
      rw [judge_of_fits found fits, judge_of_fits found' fits,
        take_append_of_le_length (find?_within found)]
    · have long : maxHeadSize ≤ data.length := by
        have within := find?_within found
        omega
      right
      rw [judge_of_oversized (by simpa [found] using fits) long, judge_of_oversized
        (by simpa [found'] using fits) (by rw [length_append]; omega),
        headSizeError_append long]
  | none =>
    by_cases long : maxHeadSize ≤ data.length
    · right
      have late : ∀ position, find? headEnd (data ++ more) = some position →
          maxHeadSize < position + headEnd.length := by
        intro position found'
        by_contra early
        rw [find?_of_append found' (by omega)] at found
        cases found
      rw [judge_of_oversized (by simp [found]) long, judge_of_oversized late
        (by rw [length_append]; omega), headSizeError_append long]
    · exact .inl (judge_of_short found (by omega))

/-- Nothing is settled while the size is in order and the end has not come. -/
theorem judge_eq_none :
    judge data = none ↔ checkHeadSize data true = .ok () ∧ find? headEnd data = none := by
  unfold judge
  cases checkHeadSize data true with
  | error raised => simp
  | ok value => simp

theorem judge_eq_some (settled : judge data = some outcome) :
    (∃ raised, checkHeadSize data true = .error raised ∧ outcome = .error raised) ∨
    checkHeadSize data true = .ok () ∧ ∃ position, find? headEnd data = some position ∧
      outcome = .ok (data.take (position + headEnd.length)) := by
  unfold judge at settled
  cases checked : checkHeadSize data true with
  | error raised =>
    rw [checked] at settled
    exact .inl ⟨raised, rfl, (Option.some.inj settled).symm⟩
  | ok value =>
    rw [checked] at settled
    obtain ⟨position, found, same⟩ := Option.map_eq_some_iff.mp settled
    exact .inr ⟨rfl, position, found, same.symm⟩

/-! ### The two loops -/

namespace ClientConnection

/-- What is settled needs no further read. -/
theorem readHttp1Head_settled (settled : judge data = some outcome)
    (reads : List (Except Exn Bytes)) :
    readHttp1Head data reads = outcome := by
  unfold readHttp1Head
  rcases judge_eq_some settled with ⟨raised, checked, rfl⟩ | ⟨checked, position, found, rfl⟩
  · rw [checked]
  · rw [checked, found]

/-- What is open takes another chunk. -/
theorem readHttp1Head_open (unsettled : judge data = none) (rest : List (Except Exn Bytes)) :
    readHttp1Head data (.ok chunk :: rest) = readHttp1Head (data ++ chunk) rest := by
  obtain ⟨checked, missing⟩ := judge_eq_none.mp unsettled
  rw [readHttp1Head, checked, missing]

/-- However it is cut, a head is judged as a whole. -/
theorem readHttp1Head_judged (judged : judge (data ++ chunks.flatten) = some outcome) :
    readHttp1Head data (chunks.map .ok) = outcome := by
  -- The induction is on the chunks; each turn judges what has come so far.
  induction chunks generalizing data with
  | nil =>
    rw [flatten_nil, append_nil] at judged
    exact readHttp1Head_settled judged []
  | cons chunk rest ih =>
    rcases judge_front data (chunk :: rest).flatten with unsettled | settled
    · rw [map_cons, readHttp1Head_open unsettled]
      rw [flatten_cons, ← append_assoc] at judged
      exact ih judged
    · exact readHttp1Head_settled (settled.trans judged) _

end ClientConnection

namespace Redirect

theorem readHead_settled (nonempty : chunk ≠ []) (settled : judge (data ++ chunk) = some outcome)
    (rest : List (Except Exn Bytes)) :
    readHead data (.ok chunk :: rest) = outcome := by
  rw [readHead, if_neg nonempty]
  rcases judge_eq_some settled with ⟨raised, checked, rfl⟩ | ⟨checked, position, found, rfl⟩
  · rw [checked]
  · rw [checked, found]

theorem readHead_open (nonempty : chunk ≠ []) (unsettled : judge (data ++ chunk) = none)
    (rest : List (Except Exn Bytes)) :
    readHead data (.ok chunk :: rest) = readHead (data ++ chunk) rest := by
  obtain ⟨checked, missing⟩ := judge_eq_none.mp unsettled
  rw [readHead, if_neg nonempty, checked, missing]

/-- So is one that is read from its start. -/
theorem readHead_judged (filled : [] ∉ chunks) (unsettled : judge data = none)
    (judged : judge (data ++ chunks.flatten) = some outcome) :
    readHead data (chunks.map .ok) = outcome := by
  -- The induction is on the chunks; the octets before each of them have settled nothing.
  induction chunks generalizing data with
  | nil =>
    rw [flatten_nil, append_nil, unsettled] at judged
    cases judged
  | cons chunk rest ih =>
    have nonempty : chunk ≠ [] := fun empty => filled (empty ▸ mem_cons_self ..)
    rw [flatten_cons, ← append_assoc] at judged
    rcases judge_front (data ++ chunk) rest.flatten with unsettled' | settled
    · rw [map_cons, readHead_open nonempty unsettled']
      exact ih (fun among => filled (mem_cons_of_mem _ among)) unsettled' judged
    · exact readHead_settled nonempty (settled.trans judged) _

end Redirect

/-- What a head is followed by makes no difference to its parsing. -/
theorem parseRequest_append (library : UriLibrary) {head : Bytes}
    (found : find? headEnd head = some position) (ends : position + headEnd.length = head.length)
    (more : Bytes) : parseRequest library (head ++ more) = parseRequest library head := by
  have found' := find?_append found more
  have sameHead : (head ++ more).take (position + headEnd.length) =
      head.take (position + headEnd.length) := take_append_of_le_length ends.le
  have sameLines : (head ++ more).take position = head.take position :=
    take_append_of_le_length (by omega)
  -- The size is that of the head, unless it is too large.
  by_cases fits : position + headEnd.length ≤ maxHeadSize
  · have checked : checkHeadSize head false = .ok () := by
      simp [checkHeadSize, found, Nat.not_lt.mpr fits]
    have checked' : checkHeadSize (head ++ more) false = .ok () := by
      simp [checkHeadSize, found', Nat.not_lt.mpr fits]
    simp only [parseRequest, checked, checked', found, found', sameHead, sameLines]
  · have large : maxHeadSize < position + headEnd.length := Nat.lt_of_not_le fits
    have checked : checkHeadSize head false = .error (headSizeError head) := by
      simp [checkHeadSize, found, large]
    have checked' : checkHeadSize (head ++ more) false = .error (headSizeError head) := by
      simp [checkHeadSize, found', large, headSizeError_append (ends ▸ large.le)]
    simp only [parseRequest, checked, checked']
    rfl

/-- The two errors of the size check. -/
theorem headSizeError_status (data : Bytes) :
    ∃ message status, headSizeError data = .http1 message status ∧ (status = 414 ∨ status = 431) := by
  rw [headSizeError_eq]
  split
  · exact ⟨_, 414, rfl, .inl rfl⟩
  · exact ⟨_, 431, rfl, .inr rfl⟩

/--
Reading a head does not depend on fragmentation.

Both readers return the octets through the first empty line if they fit the limit, and otherwise
raise the one error that the size check has for the whole stream, however the stream is cut.
A returned head parses to the same result whatever follows it.
-/
theorem readHead_fragmentation (library : UriLibrary) {stream : Bytes} {chunks : List Bytes}
    (cutting : chunks.flatten = stream) (filled : [] ∉ chunks)
    (enough : (find? headEnd stream).isSome ∨ maxHeadSize ≤ stream.length) :
    (∀ position, find? headEnd stream = some position → position + headEnd.length ≤ maxHeadSize →
      ClientConnection.readFirstHead (chunks.map .ok) =
        .ok (stream.take (position + headEnd.length)) ∧
      Redirect.readHead [] (chunks.map .ok) = .ok (stream.take (position + headEnd.length)) ∧
      ∀ more, parseRequest library (stream.take (position + headEnd.length) ++ more) =
        parseRequest library (stream.take (position + headEnd.length))) ∧
    ((∀ position, find? headEnd stream = some position →
        maxHeadSize < position + headEnd.length) →
      ∃ message status, (status = 414 ∨ status = 431) ∧
        checkHeadSize stream true = .error (.http1 message status) ∧
        ClientConnection.readFirstHead (chunks.map .ok) = .error (.http1 message status) ∧
        Redirect.readHead [] (chunks.map .ok) = .error (.http1 message status)) := by
  -- Both loops come to the outcome that the whole stream settles.
  have judged := judge_whole enough
  have redirected : Redirect.readHead [] (chunks.map .ok) = headOutcome stream :=
    Redirect.readHead_judged filled (judge_of_short rfl (by decide))
      (by rw [nil_append, cutting]; exact judged)
  have served : ClientConnection.readFirstHead (chunks.map .ok) = headOutcome stream := by
    cases chunks with
    | nil =>
      subst cutting
      rw [flatten_nil, judge_of_short rfl (by decide)] at judged
      cases judged
    | cons buffered rest =>
      rw [flatten_cons] at cutting
      exact ClientConnection.readHttp1Head_judged (by rw [cutting]; exact judged)
  rw [served, redirected]
  constructor
  · intro position found fits
    rw [judge_of_fits found fits, Option.some.injEq] at judged
    refine ⟨judged.symm, judged.symm, parseRequest_append library (find?_take found) ?_⟩
    rw [length_take, Nat.min_eq_left (find?_within found)]
  · intro oversized
    have long : maxHeadSize ≤ stream.length := by
      rcases enough with found | long
      · obtain ⟨position, found⟩ := Option.isSome_iff_exists.mp found
        exact (oversized position found).le.trans (find?_within found)
      · exact long
    obtain ⟨message, status, error, statuses⟩ := headSizeError_status stream
    rw [judge_of_oversized oversized long, error, Option.some.injEq] at judged
    refine ⟨message, status, statuses, ?_, judged.symm, judged.symm⟩
    -- The check on the whole stream raises the error that the readers settle on.
    have settled := judge_of_oversized oversized long
    rcases judge_eq_some settled with ⟨raised, checked, same⟩ | ⟨-, position, -, impossible⟩
    · rw [checked, ← error, Except.error.inj same]
    · cases impossible

/-- A head that is cut within its last line break, followed by a pipelined octet. -/
theorem readHead_fragmentation_pipelined :
    ClientConnection.readFirstHead
        ([ascii "GET / HTTP/1.1\r\nHost: a\r\n\r", ascii "\nG"].map .ok) =
      .ok (ascii "GET / HTTP/1.1\r\nHost: a\r\n\r\n") ∧
    Redirect.readHead [] ([ascii "GET / HTTP/1.1\r\nHost: a\r\n\r", ascii "\nG"].map .ok) =
      .ok (ascii "GET / HTTP/1.1\r\nHost: a\r\n\r\n") := by
  have cutting : [ascii "GET / HTTP/1.1\r\nHost: a\r\n\r", ascii "\nG"].flatten =
      ascii "GET / HTTP/1.1\r\nHost: a\r\n\r\nG" := by decide
  have outcome := (readHead_fragmentation referenceUris cutting (by decide)
    (.inl (by decide))).1 23 (by decide) (by decide)
  exact ⟨outcome.1.trans (by decide), outcome.2.1.trans (by decide)⟩

end SolveTls
