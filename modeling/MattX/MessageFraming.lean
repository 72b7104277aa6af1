import MattX.GuardedRuns
import MattX.DsmTypes

set_option autoImplicit false

/-!
# Messages on one TCP link

A sender writes header and payload in as many pieces as the socket takes, and
the receiver loop reads them in as many as it gets. The senders take turns
through one mutex; nothing but the lengths tells one frame from the next.
-/
namespace MattX.MessageFraming
open GuardedRuns

/-- `MATTX_MAGIC`. -/
def magicWord : BitVec 32 := 0x4D415454

/-- `MATTX_MAX_PAYLOAD`. -/
def maxPayload : ℕ := 10 * 1024 * 1024

def headerSize : ℕ := 16

/-- `struct mattx_header`. -/
structure Header where
  magic : BitVec 32
  type : BitVec 32
  length : BitVec 32
  senderId : BitVec 32
  deriving DecidableEq

def wordBytes (w : BitVec 32) : Bytes :=
  [w.extractLsb' 0 8, w.extractLsb' 8 8, w.extractLsb' 16 8, w.extractLsb' 24 8]

def bytesWord : Bytes → BitVec 32
  | a :: b :: c :: d :: _ => d ++ c ++ b ++ a
  | _ => 0

def Header.bytes (h : Header) : Bytes :=
  wordBytes h.magic ++ wordBytes h.type ++ wordBytes h.length ++ wordBytes h.senderId

def parseHeader (bs : Bytes) : Header :=
  ⟨bytesWord bs, bytesWord (bs.drop 4), bytesWord (bs.drop 8), bytesWord (bs.drop 12)⟩

/-- What a sender passes with the id of its node, and what the receiver loop hands to
`mattx_handle_message`. -/
structure Message where
  type : BitVec 32
  senderId : BitVec 32
  payload : Bytes
  deriving DecidableEq

def Message.header (m : Message) : Header :=
  ⟨magicWord, m.type, BitVec.ofNat 32 m.payload.length, m.senderId⟩

/-- The packet both senders build. -/
def frame (m : Message) : Bytes := m.header.bytes ++ m.payload

/-- What the receiver loop has read of the frame it is at. It halts on an error, a wrong magic, a
length above the limit, or when it is stopped. -/
inductive Receiver where
  | header (got : Bytes)
  | payload (h : Header) (got : Bytes)
  | halted
  deriving DecidableEq

/-- The bytes the running `mattx_recv_exact` still asks for. -/
def Receiver.want : Receiver → ℕ
  | .header got => headerSize - got.length
  | .payload h got => h.length.toNat - got.length
  | .halted => 0

/-- A whole header is checked; one without payload is handled at once. -/
def takeHeader (h : Header) : Receiver × Option Message :=
  if h.magic ≠ magicWord then (.halted, none)
  else if maxPayload < h.length.toNat then (.halted, none)
  else if h.length.toNat = 0 then (.header [], some ⟨h.type, h.senderId, []⟩)
  else (.payload h [], none)

/-- The bytes of one `kernel_recvmsg`. -/
def Receiver.feed (chunk : Bytes) : Receiver → Receiver × Option Message
  | .header got =>
    if (got ++ chunk).length < headerSize then (.header (got ++ chunk), none)
    else takeHeader (parseHeader (got ++ chunk))
  | .payload h got =>
    if (got ++ chunk).length < h.length.toNat then (.payload h (got ++ chunk), none)
    else (.header [], some ⟨h.type, h.senderId, got ++ chunk⟩)
  | .halted => (.halted, none)

/-- A message in the hands of a sender, and how many bytes of its frame are written. -/
structure Sending where
  message : Message
  sent : ℕ
  deriving DecidableEq

/-- `sending`: who has the mutex. The last four record the messages that got the mutex, those whose
loop ended, those handed to `mattx_handle_message`, and the last frame that was left unfinished. -/
structure State where
  sending : Option Sending
  wire : Bytes
  receiver : Receiver
  attempts : List Message
  passed : List Message
  delivered : List Message
  cut : Option Sending

/-- `halt`: an error of `kernel_recvmsg`, no memory for a payload, or `kthread_stop`. A control
message that does not get the mutex is dropped before anything happens. -/
inductive Event where
  | lock (m : Message)
  | sendmsg (n : ℕ)
  | sendFails
  | recvmsg (n : ℕ)
  | halt
  deriving DecidableEq

/-- A packet that `total_len` cannot count cannot be allocated. -/
def enabled (s : State) : Event → Prop
  | .lock m => s.sending = none ∧ headerSize + m.payload.length < 2147483648
  | .sendmsg n => ∃ x ∈ s.sending, 0 < n ∧ x.sent + n ≤ (frame x.message).length
  | .sendFails => s.sending ≠ none
  | .recvmsg n => 0 < n ∧ n ≤ s.receiver.want ∧ n ≤ s.wire.length
  | .halt => True

/-- The loop of `mattx_comm_send` and `mattx_comm_send_ctrl` after a write of `n` bytes. -/
def write (n : ℕ) (x : Sending) (s : State) : State :=
  let s := { s with wire := s.wire ++ ((frame x.message).drop x.sent).take n }
  if x.sent + n < (frame x.message).length then { s with sending := some ⟨x.message, x.sent + n⟩ }
  else { s with sending := none, passed := s.passed ++ [x.message] }

/-- A failed write gives the mutex back and the rest of the frame up. -/
def giveUp (x : Sending) (s : State) : State :=
  { s with sending := none, cut := if x.sent = 0 then s.cut else some x }

def read (n : ℕ) (s : State) : State :=
  let out := s.receiver.feed (s.wire.take n)
  { s with
    wire := s.wire.drop n, receiver := out.1, delivered := s.delivered ++ out.2.toList }

def next (s : State) : Event → State
  | .lock m => { s with sending := some ⟨m, 0⟩, attempts := s.attempts ++ [m] }
  | .sendmsg n => match s.sending with
    | some x => write n x s
    | none => s
  | .sendFails => match s.sending with
    | some x => giveUp x s
    | none => s
  | .recvmsg n => read n s
  | .halt => { s with receiver := .halted }

def machine : Machine State Event := ⟨enabled, next⟩

instance (s : State) : DecidablePred (enabled s)
  | .lock m => inferInstanceAs
      (Decidable (s.sending = none ∧ headerSize + m.payload.length < 2147483648))
  | .sendmsg n => inferInstanceAs
      (Decidable (∃ x ∈ s.sending, 0 < n ∧ x.sent + n ≤ (frame x.message).length))
  | .sendFails => inferInstanceAs (Decidable (s.sending ≠ none))
  | .recvmsg n => inferInstanceAs
      (Decidable (0 < n ∧ n ≤ s.receiver.want ∧ n ≤ s.wire.length))
  | .halt => isTrue trivial

instance (s : State) : DecidablePred (machine.enabled s) :=
  inferInstanceAs (DecidablePred (enabled s))

def start : State := ⟨none, [], .header [], [], [], [], none⟩

/-! ### Headers and frames -/

theorem bytesWord_wordBytes (w : BitVec 32) (rest : Bytes) :
    bytesWord (wordBytes w ++ rest) = w := by
  apply BitVec.eq_of_getLsbD_eq
  intro i small
  simp only [wordBytes, List.cons_append, bytesWord, BitVec.getLsbD_append,
    BitVec.getLsbD_extractLsb']
  split_ifs with first second third
  · simp [first]
  · simp only [second, decide_true, Bool.true_and]
    exact congrArg _ (by omega)
  · simp only [third, decide_true, Bool.true_and]
    exact congrArg _ (by omega)
  · have last : i - 8 - 8 - 8 < 8 := by omega
    simp only [last, decide_true, Bool.true_and]
    exact congrArg _ (by omega)

@[simp] theorem wordBytes_length (w : BitVec 32) : (wordBytes w).length = 4 := rfl

@[simp] theorem bytes_length (h : Header) : h.bytes.length = headerSize := rfl

theorem parseHeader_bytes (h : Header) (rest : Bytes) : parseHeader (h.bytes ++ rest) = h := by
  have magic : bytesWord (h.bytes ++ rest) = h.magic := by
    simp only [Header.bytes, List.append_assoc, bytesWord_wordBytes]
  have type : bytesWord ((h.bytes ++ rest).drop 4) = h.type := by
    have tail : (h.bytes ++ rest).drop 4 =
        wordBytes h.type ++ (wordBytes h.length ++ wordBytes h.senderId ++ rest) := rfl
    rw [tail, bytesWord_wordBytes]
  have length : bytesWord ((h.bytes ++ rest).drop 8) = h.length := by
    have tail : (h.bytes ++ rest).drop 8 =
        wordBytes h.length ++ (wordBytes h.senderId ++ rest) := rfl
    rw [tail, bytesWord_wordBytes]
  have sender : bytesWord ((h.bytes ++ rest).drop 12) = h.senderId := by
    have tail : (h.bytes ++ rest).drop 12 = wordBytes h.senderId ++ rest := rfl
    rw [tail, bytesWord_wordBytes]
  rw [parseHeader, magic, type, length, sender]

theorem frame_length (m : Message) : (frame m).length = headerSize + m.payload.length := by
  simp [frame]

theorem header_length {m : Message} (small : headerSize + m.payload.length < 2147483648) :
    m.header.length.toNat = m.payload.length := by
  simp only [Message.header, BitVec.toNat_ofNat]
  omega

end MattX.MessageFraming
