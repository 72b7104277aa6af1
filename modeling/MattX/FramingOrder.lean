import MattX.MessageFraming

set_option autoImplicit false

/-!
# Frames stay whole on a link

What the receiver holds of a frame and what is still on the wire are together
the frames of the messages to come and the written part of one more. This
survives everything but a byte that follows an unfinished frame.
-/
namespace MattX.FramingOrder
open GuardedRuns MessageFraming

/-- What the receiver loop has read of a frame it has yet to handle. -/
def pending : Receiver → Bytes
  | .header got => got
  | .payload h got => h.bytes ++ got
  | .halted => []

/-- Messages are handed over as they were passed, in the order of the mutex, and the bytes at hand
are the beginning of one message's frame. -/
structure Intact (s : State) : Prop where
  ordered : s.delivered <+: s.passed
  locked : s.passed.Sublist s.attempts
  own : pending s.receiver = [] ∨ ∃ m ∈ s.attempts, pending s.receiver <+: frame m

/-- Nothing is written after a frame that was left unfinished. -/
def Unbroken (s : State) : Event → Prop
  | .sendmsg _ => s.cut = none
  | _ => True

instance (s : State) : DecidablePred (Unbroken s)
  | .sendmsg _ => inferInstanceAs (Decidable (s.cut = none))
  | .lock _ | .sendFails | .recvmsg _ | .halt => isTrue trivial

/-- No error on either side, and no payload above the limit. -/
def Lossless (_ : State) : Event → Prop
  | .lock m => m.payload.length ≤ maxPayload
  | .sendFails | .halt => False
  | _ => True

instance (s : State) : DecidablePred (Lossless s)
  | .lock m => inferInstanceAs (Decidable (m.payload.length ≤ maxPayload))
  | .sendFails | .halt => isFalse id
  | .sendmsg _ | .recvmsg _ => isTrue trivial

/-- Reading whatever is there, byte by byte. -/
def drain (s : State) : List Event := List.replicate s.wire.length (.recvmsg 1)

/-- What is handed over is what was passed so far; with nobody sending and nothing on the wire it
is all of it; and the receiver can always read on until then. -/
structure RoundTrip (s : State) : Prop where
  ordered : s.delivered <+: s.attempts
  complete : s.sending = none → s.wire = [] → s.delivered = s.attempts
  drains : machine.Follows Lossless s (drain s)
  drained : s.sending = none → (machine.after s (drain s)).delivered = s.attempts

def Sending.bytes (x : Sending) : Bytes := (frame x.message).take x.sent

/-- The written part of the frame that is unfinished. -/
def leftover (s : State) : Bytes :=
  match s.cut, s.sending with
  | some x, _ => Sending.bytes x
  | none, some x => Sending.bytes x
  | none, none => []

/-- The receiver still asks for something. -/
def Fits : Receiver → Prop
  | .header got => got.length < headerSize
  | .payload h got => got.length < h.length.toNat
  | .halted => True

def Small (m : Message) : Prop := headerSize + m.payload.length < 2147483648

structure Aligned (s : State) : Prop where
  ordered : s.delivered <+: s.passed
  stream : s.receiver ≠ .halted → ∃ undelivered, s.passed = s.delivered ++ undelivered ∧
    pending s.receiver ++ s.wire = undelivered.flatMap frame ++ leftover s
  fits : Fits s.receiver
  small : ∀ m ∈ s.attempts, Small m
  locked : s.sending = none → s.passed.Sublist s.attempts
  holding : ∀ x ∈ s.sending, x.sent < (frame x.message).length ∧
    ∃ before, s.attempts = before ++ [x.message] ∧ s.passed.Sublist before
  unfinished : ∀ x ∈ s.cut, x.sent < (frame x.message).length ∧ x.message ∈ s.attempts
  idle : s.cut ≠ none → ∀ x ∈ s.sending, x.sent = 0

section Feeding
variable {r : Receiver} {m : Message} {chunk rest more : Bytes}

/-- A header that begins like a frame is the frame's. -/
theorem header_eq {h : Header} (same : h.bytes ++ rest = frame m ++ more) : h = m.header := by
  have parsed := congrArg parseHeader same
  rw [frame, List.append_assoc, parseHeader_bytes, parseHeader_bytes] at parsed
  exact parsed

theorem pending_want (small : Small m) (same : pending r ++ rest = frame m ++ more) (fits : Fits r) :
    (pending r).length + r.want ≤ (frame m).length := by
  cases r with
  | header got =>
    have short : got.length < headerSize := fits
    simp only [pending, Receiver.want, frame_length]
    omega
  | payload h got =>
    have short : got.length < h.length.toNat := fits
    simp only [pending, List.append_assoc] at same
    have own := header_eq same
    have length := header_length small
    rw [← own] at length
    simp only [pending, List.length_append, bytes_length, Receiver.want, frame_length, length] at *
    omega
  | halted =>
    simp only [pending, List.length_nil, Receiver.want]
    omega

/-- Bytes of one frame: it is finished and handed over, or goes on, or is above the limit. -/
theorem feed_frame (small : Small m) (fits : Fits r) (alive : r ≠ .halted)
    (short : chunk.length ≤ r.want) (part : pending r ++ chunk <+: frame m) :
    maxPayload < m.payload.length ∧ r.feed chunk = (.halted, none) ∨
      pending r ++ chunk = frame m ∧ r.feed chunk = (.header [], some m) ∨
        (pending r ++ chunk).length < (frame m).length ∧ ∃ r', r.feed chunk = (r', none) ∧
          pending r' = pending r ++ chunk ∧ Fits r' ∧ r' ≠ .halted := by
  obtain ⟨tail, whole⟩ := part
  have length := header_length small
  cases r with
  | halted => exact absurd rfl alive
  | header got =>
    have open' : got.length < headerSize := fits
    simp only [pending, Receiver.want] at short whole ⊢
    by_cases begun : (got ++ chunk).length < headerSize
    · have long := frame_length m
      refine .inr (.inr ⟨by omega, .header (got ++ chunk), ?_, rfl, begun, by simp⟩)
      simp only [Receiver.feed, if_pos begun]
    · have full : (got ++ chunk).length = headerSize := by
        rw [List.length_append] at begun ⊢
        omega
      have cut := List.append_inj (by rw [whole, frame]) (full.trans (bytes_length m.header).symm)
      have own : parseHeader (got ++ chunk) = m.header := by
        have parsed := parseHeader_bytes m.header []
        rw [List.append_nil] at parsed
        rw [cut.1, parsed]
      have fed : (Receiver.header got).feed chunk = takeHeader m.header := by
        simp only [Receiver.feed, if_neg begun, own]
      rw [fed, takeHeader, length]
      by_cases big : maxPayload < m.payload.length
      · exact .inl ⟨big, by simp [Message.header, big]⟩
      · by_cases empty : m.payload.length = 0
        · have none : m.payload = [] := List.length_eq_zero_iff.mp empty
          refine .inr (.inl ⟨?_, ?_⟩)
          · rw [cut.1, frame, none, List.append_nil]
          · have same : (⟨m.type, m.senderId, []⟩ : Message) = m := by rw [← none]
            simp [Message.header, none, maxPayload, same]
        · refine .inr (.inr ⟨?_, .payload m.header [], ?_, ?_, ?_, by simp⟩)
          · rw [full, frame_length]
            omega
          · simp [Message.header, big, empty]
          · change m.header.bytes ++ [] = got ++ chunk
            rw [List.append_nil, cut.1]
          · change 0 < m.header.length.toNat
            omega
  | payload h got =>
    have open' : got.length < h.length.toNat := fits
    simp only [pending, List.append_assoc, Receiver.want] at short whole ⊢
    have same : h.bytes ++ (got ++ (chunk ++ tail)) = frame m ++ [] := by
      rw [whole, List.append_nil]
    have own : h = m.header := header_eq same
    subst own
    have rest : got ++ (chunk ++ tail) = m.payload :=
      List.append_cancel_left (whole.trans rfl)
    by_cases part : (got ++ chunk).length < m.header.length.toNat
    · refine .inr (.inr ⟨?_, .payload m.header (got ++ chunk), ?_, rfl, part, by simp⟩)
      · simp only [List.length_append, bytes_length, frame_length] at part ⊢
        omega
      · simp only [Receiver.feed, if_pos part]
    · have ended : tail = [] := by
        have sizes := congrArg List.length rest
        simp only [List.length_append] at sizes part
        exact List.length_eq_zero_iff.mp (by omega)
      rw [ended, List.append_nil] at rest
      refine .inr (.inl ⟨by rw [frame, ← rest], ?_⟩)
      have fed : (Receiver.payload m.header got).feed chunk =
          (.header [], some ⟨m.type, m.senderId, got ++ chunk⟩) := if_neg part
      rw [fed, rest]

end Feeding

section Steps
variable {s : State}

theorem Aligned.passed_attempts (h : Aligned s) : s.passed.Sublist s.attempts := by
  cases sending : s.sending with
  | none => exact h.locked sending
  | some x =>
    obtain ⟨_, before, attempts, passed⟩ := h.holding x sending
    rw [attempts]
    exact passed.trans (List.sublist_append_left before _)

/-- The unfinished frame is a message's that got the mutex. -/
theorem Aligned.leftover (h : Aligned s) : leftover s = [] ∨ ∃ m ∈ s.attempts,
    leftover s <+: frame m ∧ (leftover s).length < (frame m).length := by
  cases cut : s.cut with
  | some x =>
    obtain ⟨short, mem⟩ := h.unfinished x cut
    simp only [FramingOrder.leftover, cut]
    refine .inr ⟨x.message, mem, List.take_prefix _ _, ?_⟩
    rw [Sending.bytes, List.length_take]
    omega
  | none =>
    cases sending : s.sending with
    | some x =>
      obtain ⟨short, before, attempts, _⟩ := h.holding x sending
      simp only [FramingOrder.leftover, cut, sending]
      refine .inr ⟨x.message, by simp [attempts], List.take_prefix _ _, ?_⟩
      rw [Sending.bytes, List.length_take]
      omega
    | none => exact .inl (by simp only [FramingOrder.leftover, cut, sending])

theorem Aligned.intact (h : Aligned s) : Intact s := by
  refine ⟨h.ordered, h.passed_attempts, ?_⟩
  by_cases alive : s.receiver = .halted
  · exact .inl (by rw [alive]; rfl)
  · obtain ⟨undelivered, passed, stream⟩ := h.stream alive
    cases undelivered with
    | nil =>
      have part : pending s.receiver <+: FramingOrder.leftover s :=
        ⟨s.wire, by simpa using stream⟩
      cases h.leftover with
      | inl none =>
        rw [none] at part
        exact .inl (List.prefix_nil.mp part)
      | inr some =>
        obtain ⟨m, mem, of, _⟩ := some
        exact .inr ⟨m, mem, part.trans of⟩
    | cons m rest =>
      have mem : m ∈ s.attempts := h.passed_attempts.subset (by simp [passed])
      rw [List.flatMap_cons, List.append_assoc] at stream
      have size := pending_want (h.small m mem) stream h.fits
      refine .inr ⟨m, mem, List.prefix_of_prefix_length_le ⟨s.wire, stream⟩ ⟨_, rfl⟩ (by omega)⟩

theorem aligned_lock (h : Aligned s) {m : Message} (en : enabled s (.lock m)) :
    Aligned (next s (.lock m)) := by
  obtain ⟨free, small⟩ := en
  have same : FramingOrder.leftover (next s (.lock m)) = FramingOrder.leftover s := by
    cases cut : s.cut <;> simp [FramingOrder.leftover, next, cut, free, Sending.bytes]
  exact
    { ordered := h.ordered
      stream := fun alive => by
        rw [same]
        exact h.stream alive
      fits := h.fits
      small := fun k mem => by
        cases List.mem_append.mp mem with
        | inl old => exact h.small k old
        | inr new =>
          rw [List.mem_singleton.mp new]
          exact small
      locked := by simp [next]
      holding := fun x is => by
        have own : ⟨m, 0⟩ = x := by simpa [next] using is
        rw [← own]
        refine ⟨?_, s.attempts, rfl, h.locked free⟩
        rw [frame_length, headerSize]
        exact Nat.add_pos_left (by decide) _
      unfinished := fun x is => by
        obtain ⟨short, mem⟩ := h.unfinished x is
        exact ⟨short, List.mem_append_left _ mem⟩
      idle := fun _ x is => by
        have own : ⟨m, 0⟩ = x := by simpa [next] using is
        rw [← own] }

theorem aligned_sendmsg (h : Aligned s) {n : ℕ} (en : enabled s (.sendmsg n)) (whole : s.cut = none) :
    Aligned (next s (.sendmsg n)) := by
  obtain ⟨x, sending, positive, room⟩ := en
  have sending : s.sending = some x := sending
  obtain ⟨short, before, attempts, passed⟩ := h.holding x sending
  have bytes : FramingOrder.leftover s = Sending.bytes x := by
    simp [FramingOrder.leftover, whole, sending]
  have grown : Sending.bytes x ++ ((frame x.message).drop x.sent).take n =
      (frame x.message).take (x.sent + n) := by
    rw [Sending.bytes, List.take_add]
  simp only [next, sending, write]
  split
  · rename_i part
    exact
      { ordered := h.ordered
        stream := fun alive => by
          obtain ⟨undelivered, order, stream⟩ := h.stream alive
          refine ⟨undelivered, order, ?_⟩
          simp only [FramingOrder.leftover, whole, Sending.bytes]
          rw [← List.append_assoc, stream, List.append_assoc, bytes, grown]
        fits := h.fits
        small := h.small
        locked := by simp
        holding := fun y is => by
          have own : ⟨x.message, x.sent + n⟩ = y := by simpa using is
          rw [← own]
          exact ⟨part, before, attempts, passed⟩
        unfinished := h.unfinished
        idle := fun broken => absurd whole broken }
  · rename_i full
    have all : (frame x.message).take (x.sent + n) = frame x.message :=
      List.take_of_length_le (by omega)
    exact
      { ordered := h.ordered.trans (List.prefix_append _ _)
        stream := fun alive => by
          obtain ⟨undelivered, order, stream⟩ := h.stream alive
          refine ⟨undelivered ++ [x.message], by rw [order, List.append_assoc], ?_⟩
          simp only [FramingOrder.leftover, whole, List.flatMap_append, List.flatMap_singleton,
            List.append_nil]
          rw [← List.append_assoc, stream, List.append_assoc, bytes, grown, all]
        fits := h.fits
        small := h.small
        locked := fun _ => by
          rw [attempts]
          exact passed.append (List.Sublist.refl _)
        holding := by simp
        unfinished := h.unfinished
        idle := by simp }

theorem aligned_sendFails (h : Aligned s) (en : enabled s .sendFails) :
    Aligned (next s .sendFails) := by
  obtain ⟨x, sending⟩ := Option.ne_none_iff_exists'.mp en
  obtain ⟨short, before, attempts, passed⟩ := h.holding x sending
  have mem : x.message ∈ s.attempts := by simp [attempts]
  simp only [next, sending, giveUp]
  have locked : s.passed.Sublist s.attempts := h.passed_attempts
  by_cases clean : x.sent = 0
  · simp only [if_pos clean]
    exact
      { ordered := h.ordered
        stream := fun alive => by
          obtain ⟨undelivered, order, stream⟩ := h.stream alive
          refine ⟨undelivered, order, ?_⟩
          rw [stream]
          cases cut : s.cut <;> simp [FramingOrder.leftover, cut, sending, Sending.bytes, clean]
        fits := h.fits
        small := h.small
        locked := fun _ => locked
        holding := by simp
        unfinished := h.unfinished
        idle := by simp }
  · have whole : s.cut = none := by
      by_contra broken
      exact clean (h.idle broken x sending)
    simp only [if_neg clean]
    exact
      { ordered := h.ordered
        stream := fun alive => by
          obtain ⟨undelivered, order, stream⟩ := h.stream alive
          refine ⟨undelivered, order, ?_⟩
          rw [stream]
          simp [FramingOrder.leftover, whole, sending]
        fits := h.fits
        small := h.small
        locked := fun _ => locked
        holding := by simp
        unfinished := fun y is => by
          have own : x = y := by simpa using is
          exact own ▸ ⟨short, mem⟩
        idle := by simp }

theorem aligned_halt (h : Aligned s) : Aligned (next s .halt) :=
  { h with stream := by simp [next], fits := trivial }

/-- The frame the bytes of a read belong to. -/
theorem Aligned.target (h : Aligned s) {n : ℕ} (en : enabled s (.recvmsg n)) :
    ∃ m ∈ s.attempts, pending s.receiver ++ s.wire.take n <+: frame m ∧
      ∀ undelivered, s.passed = s.delivered ++ undelivered →
        pending s.receiver ++ s.wire = undelivered.flatMap frame ++ FramingOrder.leftover s →
        pending s.receiver ++ s.wire.take n = frame m → ∃ rest, undelivered = m :: rest := by
  obtain ⟨positive, wanted, there⟩ := en
  have alive : s.receiver ≠ .halted := by
    intro halted
    simp only [halted, Receiver.want] at wanted
    omega
  obtain ⟨undelivered, order, stream⟩ := h.stream alive
  have same : ∀ other, s.passed = s.delivered ++ other → other = undelivered := by
    intro other is
    exact List.append_cancel_left (is.symm.trans order)
  have read : (s.wire.take n).length = n := by
    rw [List.length_take]
    omega
  have stream' : (pending s.receiver ++ s.wire.take n) ++ s.wire.drop n =
      undelivered.flatMap frame ++ FramingOrder.leftover s := by
    rw [List.append_assoc, List.take_append_drop, stream]
  cases undelivered with
  | nil =>
    have part : pending s.receiver ++ s.wire.take n <+: FramingOrder.leftover s :=
      ⟨s.wire.drop n, by simpa using stream'⟩
    have size := part.length_le
    rw [List.length_append] at size
    cases h.leftover with
    | inl none =>
      rw [none, List.length_nil] at size
      omega
    | inr some =>
      obtain ⟨m, mem, of, proper⟩ := some
      refine ⟨m, mem, part.trans of, fun _ _ _ whole => ?_⟩
      have sizes := congrArg List.length whole
      rw [List.length_append] at sizes
      omega
  | cons m rest =>
    have mem : m ∈ s.attempts := h.passed_attempts.subset (by simp [order])
    have first : pending s.receiver ++ s.wire.take n <+:
        frame m ++ (rest.flatMap frame ++ FramingOrder.leftover s) :=
      ⟨s.wire.drop n, by rw [stream', List.flatMap_cons, List.append_assoc]⟩
    rw [List.flatMap_cons, List.append_assoc] at stream
    have size := pending_want (h.small m mem) stream h.fits
    refine ⟨m, mem, ?_, fun other is _ _ => ⟨rest, same other is⟩⟩
    refine List.prefix_of_prefix_length_le first ⟨_, rfl⟩ ?_
    rw [List.length_append]
    omega

/-- One read ends a frame, goes on with it, or finds it too long. -/
theorem aligned_recvmsg (h : Aligned s) {n : ℕ} (en : enabled s (.recvmsg n)) :
    Aligned (next s (.recvmsg n)) := by
  obtain ⟨m, mem, part, whole⟩ := h.target en
  obtain ⟨positive, wanted, there⟩ := en
  have alive : s.receiver ≠ .halted := by
    intro halted
    simp only [halted, Receiver.want] at wanted
    omega
  obtain ⟨undelivered, order, stream⟩ := h.stream alive
  have chunk : (s.wire.take n).length ≤ s.receiver.want := by
    rw [List.length_take]
    omega
  have stream' : (pending s.receiver ++ s.wire.take n) ++ s.wire.drop n =
      undelivered.flatMap frame ++ FramingOrder.leftover s := by
    rw [List.append_assoc, List.take_append_drop, stream]
  cases feed_frame (h.small m mem) h.fits alive chunk part with
  | inl big =>
    have fed := big.2
    simp only [next, MessageFraming.read, fed, Option.toList_none, List.append_nil]
    exact { h with stream := by simp, fits := trivial }
  | inr goes =>
    cases goes with
    | inl done =>
      obtain ⟨full, fed⟩ := done
      obtain ⟨rest, first⟩ := whole undelivered order stream full
      have left : s.wire.drop n = rest.flatMap frame ++ FramingOrder.leftover s := by
        rw [full, first, List.flatMap_cons, List.append_assoc] at stream'
        exact List.append_cancel_left stream'
      simp only [next, MessageFraming.read, fed, Option.toList_some]
      exact
        { h with
          ordered := ⟨rest, by rw [order, first, List.append_assoc]; rfl⟩
          stream := fun _ => ⟨rest, by rw [order, first, List.append_assoc]; rfl, left⟩
          fits := Nat.zero_lt_succ 15 }
    | inr more =>
      obtain ⟨_, r, fed, held, fits, alive'⟩ := more
      simp only [next, MessageFraming.read, fed, Option.toList_none, List.append_nil]
      exact
        { h with
          stream := fun _ => ⟨undelivered, order, by rw [held]; exact stream'⟩
          fits }

theorem aligned_next (h : Aligned s) {e : Event} (en : machine.enabled s e) (ok : Unbroken s e) :
    Aligned (machine.next s e) := by
  cases e with
  | lock m => exact aligned_lock h en
  | sendmsg n => exact aligned_sendmsg h en ok
  | sendFails => exact aligned_sendFails h en
  | recvmsg n => exact aligned_recvmsg h en
  | halt => exact aligned_halt h

theorem aligned_start : Aligned start where
  ordered := List.prefix_rfl
  stream := fun _ => ⟨[], rfl, rfl⟩
  fits := Nat.zero_lt_succ 15
  small := by simp [start]
  locked := fun _ => List.Sublist.refl _
  holding := by simp [start]
  unfinished := by simp [start]
  idle := by simp [start]

end Steps

/-- Whatever is handed to a handler is what was passed, as long as nothing is written after a frame
that was left unfinished. -/
theorem frames_stay_intact {es : List Event} (run : machine.Follows Unbroken start es) :
    machine.Always Intact start es :=
  (run.always (fun _ _ h en ok => aligned_next h en ok) aligned_start).mono
    fun _ h => h.intact

def shortMessage : Message := ⟨7, 1, [0x61, 0x62]⟩

def emptyMessage : Message := ⟨2, 1, []⟩

/-- A send that fails before its first byte, frames in pieces, and a frame left unfinished at
last. -/
theorem frames_stay_intact_pieces :
    machine.Always Intact start
      [.lock emptyMessage, .sendFails, .lock shortMessage, .sendmsg 5, .recvmsg 3, .sendmsg 13,
        .recvmsg 13, .lock emptyMessage, .recvmsg 1, .sendmsg 16, .recvmsg 1, .recvmsg 16,
        .lock shortMessage, .sendmsg 17, .recvmsg 16, .sendFails, .recvmsg 1, .halt] :=
  frames_stay_intact (by decide +kernel)

/-- One byte of a payload is missing when the send fails, and the first byte of the next frame
takes its place. -/
theorem unfinished_frame_swallows_next :
    let es := [.lock shortMessage, .sendmsg 17, .sendFails, .lock emptyMessage, .sendmsg 16,
      .recvmsg 16, .recvmsg 2]
    machine.Runs start es ∧
      (machine.after start es).delivered = [⟨7, 1, [0x61, 0x54]⟩] ∧
      (machine.after start es).passed = [emptyMessage] ∧
      ¬ Intact (machine.after start es) := by
  intro es
  have delivered : (machine.after start es).delivered = [⟨7, 1, [0x61, 0x54]⟩] := by
    decide +kernel
  have passed : (machine.after start es).passed = [emptyMessage] := by decide +kernel
  refine ⟨by decide +kernel, delivered, passed, ?_⟩
  intro intact
  have ordered := intact.ordered
  rw [delivered, passed] at ordered
  exact absurd ordered (by decide)

/-! ### Without errors -/

/-- No error so far: nothing is lost, and no payload is above the limit. -/
structure Flowing (s : State) : Prop where
  aligned : Aligned s
  taken : s.attempts = s.passed ++ (s.sending.map Sending.message).toList
  alive : s.receiver ≠ .halted
  whole : s.cut = none
  bounded : ∀ m ∈ s.attempts, m.payload.length ≤ maxPayload

section Lossless
variable {s : State}

theorem want_pos {r : Receiver} (fits : Fits r) (alive : r ≠ .halted) : 0 < r.want := by
  cases r with
  | header got => exact Nat.sub_pos_of_lt fits
  | payload h got => exact Nat.sub_pos_of_lt fits
  | halted => exact absurd rfl alive

theorem Flowing.ordered (h : Flowing s) : s.delivered <+: s.attempts := by
  rw [h.taken]
  exact h.aligned.ordered.trans (List.prefix_append _ _)

theorem Flowing.complete (h : Flowing s) (idle : s.sending = none) (empty : s.wire = []) :
    s.delivered = s.attempts := by
  have passed : s.attempts = s.passed := by simp [h.taken, idle]
  have nothing : leftover s = [] := by simp [leftover, h.whole, idle]
  obtain ⟨undelivered, order, stream⟩ := h.aligned.stream h.alive
  rw [nothing, List.append_nil, empty, List.append_nil] at stream
  cases undelivered with
  | nil => rw [passed, order, List.append_nil]
  | cons m rest =>
    have mem : m ∈ s.attempts := by simp [passed, order]
    rw [List.flatMap_cons] at stream
    have same : pending s.receiver ++ [] = frame m ++ rest.flatMap frame := by
      rw [List.append_nil, stream]
    have size := pending_want (h.aligned.small m mem) same h.aligned.fits
    have more := want_pos h.aligned.fits h.alive
    rw [stream, List.length_append] at size
    omega

theorem flowing_recvmsg (h : Flowing s) {n : ℕ} (en : enabled s (.recvmsg n)) :
    (next s (.recvmsg n)).receiver ≠ .halted := by
  obtain ⟨m, mem, part, _⟩ := h.aligned.target en
  have chunk : (s.wire.take n).length ≤ s.receiver.want := by
    have wanted := en.2.1
    rw [List.length_take]
    omega
  have bounded := h.bounded m mem
  simp only [next, MessageFraming.read]
  cases feed_frame (h.aligned.small m mem) h.aligned.fits h.alive chunk part with
  | inl big =>
    have above := big.1
    omega
  | inr goes =>
    cases goes with
    | inl done => simp [done.2]
    | inr more =>
      obtain ⟨_, r, fed, _, _, alive⟩ := more
      simpa [fed] using alive

theorem flowing_next (h : Flowing s) {e : Event} (en : machine.enabled s e) (ok : Lossless s e) :
    Flowing (machine.next s e) := by
  have unbroken : Unbroken s e := by
    cases e with
    | sendmsg n => exact h.whole
    | lock m => trivial
    | sendFails => trivial
    | recvmsg n => trivial
    | halt => trivial
  have aligned := aligned_next h.aligned en unbroken
  cases e with
  | lock m =>
    have free : s.sending = none := en.1
    refine ⟨aligned, ?_, h.alive, h.whole, fun k mem => ?_⟩
    · have taken := h.taken
      rw [free, Option.map_none, Option.toList_none, List.append_nil] at taken
      simp [machine, next, taken]
    · cases List.mem_append.mp mem with
      | inl old => exact h.bounded k old
      | inr new =>
        rw [List.mem_singleton.mp new]
        exact ok
  | sendmsg n =>
    obtain ⟨x, sending, _⟩ := en
    have sending : s.sending = some x := sending
    have taken : s.attempts = s.passed ++ [x.message] := by simp [h.taken, sending]
    have effect : machine.next s (.sendmsg n) = write n x s := by
      simp only [machine, next, sending]
    rw [effect] at aligned ⊢
    unfold write at aligned ⊢
    split
    · rename_i part
      rw [if_pos part] at aligned
      exact ⟨aligned, by simpa using taken, h.alive, h.whole, h.bounded⟩
    · rename_i full
      rw [if_neg full] at aligned
      exact ⟨aligned, by simpa using taken, h.alive, h.whole, h.bounded⟩
  | sendFails => exact absurd ok id
  | recvmsg n => exact ⟨aligned, h.taken, flowing_recvmsg h en, h.whole, h.bounded⟩
  | halt => exact absurd ok id

theorem flowing_start : Flowing start where
  aligned := aligned_start
  taken := rfl
  alive := by simp [start]
  whole := rfl
  bounded := by simp [start]

/-- The receiver can take every byte that is there, and is left with an empty wire. -/
theorem Flowing.drain (h : Flowing s) :
    machine.Follows Lossless s (drain s) ∧ Flowing (machine.after s (drain s)) ∧
      (machine.after s (drain s)).wire = [] ∧
      (machine.after s (drain s)).sending = s.sending ∧
      (machine.after s (drain s)).attempts = s.attempts := by
  unfold FramingOrder.drain
  -- on the number of bytes that are there
  generalize size : s.wire.length = n
  induction n generalizing s with
  | zero => exact ⟨trivial, h, List.length_eq_zero_iff.mp size, rfl, rfl⟩
  | succ n ih =>
    have en : machine.enabled s (.recvmsg 1) :=
      ⟨Nat.one_pos, want_pos h.aligned.fits h.alive, by omega⟩
    have rest : (machine.next s (.recvmsg 1)).wire.length = n := by
      change (s.wire.drop 1).length = n
      rw [List.length_drop]
      omega
    obtain ⟨follows, flows, wire, sending, attempts⟩ := ih (flowing_next h en trivial) rest
    exact ⟨⟨en, trivial, follows⟩, flows, wire, sending, attempts⟩

theorem Flowing.roundTrip (h : Flowing s) : RoundTrip s := by
  obtain ⟨follows, flows, wire, sending, attempts⟩ := h.drain
  refine ⟨h.ordered, h.complete, follows, fun idle => ?_⟩
  rw [flows.complete (sending.trans idle) wire, attempts]

end Lossless

/-- Every way to split the writes and the reads hands over the messages that were sent. -/
theorem messages_round_trip {es : List Event} (run : machine.Follows Lossless start es) :
    machine.Always RoundTrip start es :=
  (run.always (fun _ _ h en ok => flowing_next h en ok) flowing_start).mono
    fun _ h => h.roundTrip

theorem messages_round_trip_pieces :
    machine.Always RoundTrip start
      [.lock shortMessage, .sendmsg 5, .recvmsg 3, .sendmsg 13, .lock emptyMessage, .recvmsg 13,
        .sendmsg 16, .recvmsg 1, .recvmsg 1, .recvmsg 16] :=
  messages_round_trip (by decide +kernel)

end MattX.FramingOrder
