import MattX.WormholeRequests

set_option autoImplicit false

/-!
# The vectors of a message

A sendmsg gathers the elements of the caller's array into one request, a recvmsg
scatters the reply over them. Either loop counts what it asks for, not what
`access_process_vm` has copied.
-/
namespace MattX.MessageVectors
open WormholeCalls WormholeRequests

/-! ### The array -/

/-- The header of the message and what could be read of its array. -/
def header (W : World) (msg : ℕ) : UserMsghdr := parseMsghdr (accessProcessVm W msg msghdrSize)

def arrayBytes (W : World) (msg : ℕ) : Bytes :=
  accessProcessVm W (header W msg).iov (iovecSize * (header W msg).iovlen)

/-- The kernel's copy of the array, with what the heap held behind the part that was read. -/
def iovsCopy (W : World) (msg : ℕ) : List (ℕ × ℕ) :=
  parseIovs W (arrayBytes W msg) (header W msg).iovlen

/-- The elements that could be read. -/
def elements (W : World) (msg : ℕ) : ℕ := (arrayBytes W msg).length / iovecSize

def userIovs (W : World) (msg : ℕ) : List (ℕ × ℕ) := (iovsCopy W msg).take (elements W msg)

/-! ### sendmsg -/

/-- The concatenation of the elements up to the first byte that cannot be read. -/
def gathered (W : World) : List (ℕ × ℕ) → Bytes
  | [] => []
  | (base, len) :: iovs =>
    if Readable W base len then accessProcessVm W base len ++ gathered W iovs
    else accessProcessVm W base len

/-- The bytes that the calls of `access_process_vm` have copied into the request. -/
def reallyCopied (W : World) : List (ℕ × ℕ) → ℕ → ℕ
  | [], _ => 0
  | (base, len) :: iovs, room =>
    (accessProcessVm W base (min len room)).length + reallyCopied W iovs (room - min len room)

/-- `datalen` is the length of the data. -/
def SendRight (W : World) (remoteFd flags : ℤ) (msg : ℕ) : Prop :=
  ∀ fd flags' addr data,
    build W (.sendmsg remoteFd flags msg) = some (.sendmsg fd flags' addr data) →
    data <+: gathered W (userIovs W msg) ∧
      data.length = reallyCopied W (iovsCopy W msg) (toSend (iovsCopy W msg))

/-- Each piece that is copied is one of the first `k` elements and can be read. -/
def CopiesWhole (W : World) : List (ℕ × ℕ) → ℕ → ℕ → Prop
  | [], _, _ => True
  | (base, len) :: iovs, room, k =>
    (min len room = 0 ∨ 0 < k ∧ Readable W base (min len room)) ∧
      CopiesWhole W iovs (room - min len room) (k - 1)

def SendMet (W : World) (msg : ℕ) : Prop :=
  (readMsg W msg).isSome = true → W.bufferAlloc = true →
    CopiesWhole W (iovsCopy W msg) (toSend (iovsCopy W msg)) (elements W msg)

/-! ### recvmsg -/

/-- `access_process_vm` for writing, byte by byte. -/
def writeVm (writable : ℕ → Bool) : ℕ → Bytes → List (ℕ × BitVec 8)
  | _, [] => []
  | addr, b :: bs => if writable addr then (addr, b) :: writeVm writable (addr + 1) bs else []

/-- The loop of the return handler: a chunk for each element while there is data left. -/
def scatter (writable : ℕ → Bool) : List (ℕ × ℕ) → Bytes → List (ℕ × BitVec 8)
  | [], _ => []
  | (base, len) :: iovs, data =>
    if data = [] then []
    else writeVm writable base (data.take len) ++ scatter writable iovs (data.drop len)

/-- What the recvmsg returns, and the bytes it has written. -/
def recvmsgAwakening (W : World) (writable : ℕ → Bool) (msg : ℕ) (g : Record) :
    ℤ × List (ℕ × BitVec 8) :=
  match g.readBuf with
  | some (.message data _) =>
    if 0 < g.fsyncRes ∧ (readMsg W msg).isSome = true then
      (g.fsyncRes, scatter writable (iovsCopy W msg) data)
    else (g.fsyncRes, [])
  | _ => (g.fsyncRes, [])

/-- The addresses of the elements, one element after the other. -/
def places (iovs : List (ℕ × ℕ)) : List ℕ := iovs.flatMap fun v => List.range' v.1 v.2

/-- A reply of `data.length` bytes. -/
def reply (addr data : Bytes) : Body := .message data.length 0 addr data

def received (W : World) (writable : ℕ → Bool) (msg : ℕ) (addr data : Bytes) (alloc : Bool)
    (g : Record) : ℤ × List (ℕ × BitVec 8) :=
  recvmsgAwakening W writable msg (handleSysRecvmsgReply (reply addr data) alloc g)

structure RecvRight (W : World) (writable : ℕ → Bool) (msg : ℕ) (addr data : Bytes) (alloc : Bool)
    (g : Record) : Prop where
  inOrder : (received W writable msg addr data alloc g).2 = (places (userIovs W msg)).zip data
  whole : (received W writable msg addr data alloc g).2.length = data.length
  counted : (received W writable msg addr data alloc g).1 =
    (received W writable msg addr data alloc g).2.length

/-- The elements have room for the data and can be written as far as it goes. -/
def FillsWhole (writable : ℕ → Bool) : List (ℕ × ℕ) → Bytes → Prop
  | [], data => data = []
  | (base, len) :: iovs, data =>
    (∀ i < min len data.length, writable (base + i) = true) ∧
      FillsWhole writable iovs (data.drop len)

def RecvMet (W : World) (writable : ℕ → Bool) (msg : ℕ) (data : Bytes) (alloc : Bool) : Prop :=
  data ≠ [] → (alloc = true ∧ (readMsg W msg).isSome = true) ∧
    FillsWhole writable (userIovs W msg) data

/-! ### Gathering -/

section
variable {W : World}

theorem accessProcessVm_le (W : World) (addr n : ℕ) : (accessProcessVm W addr n).length ≤ n := by
  induction n generalizing addr with
  | zero => exact Nat.le_refl 0
  | succ n ih =>
    rw [accessProcessVm]
    split
    · rw [List.length_cons]
      exact Nat.succ_le_succ (ih (addr + 1))
    · exact Nat.zero_le _

theorem accessProcessVm_prefix (W : World) (addr : ℕ) {n n' : ℕ} (le : n ≤ n') :
    accessProcessVm W addr n <+: accessProcessVm W addr n' := by
  induction n generalizing addr n' with
  | zero => exact List.nil_prefix
  | succ n ih =>
    obtain ⟨m, rfl⟩ : ∃ m, n' = m + 1 := ⟨n' - 1, by omega⟩
    rw [accessProcessVm, accessProcessVm]
    split
    · exact (List.prefix_cons_inj _).mpr (ih (addr + 1) (by omega))
    · exact List.prefix_rfl

theorem readInto_length (W : World) (addr n : ℕ) : (readInto W addr n).length = n := by
  have below := accessProcessVm_le W addr n
  rw [readInto, List.length_append, List.length_replicate]
  omega

theorem readInto_whole {addr n : ℕ} (whole : (accessProcessVm W addr n).length = n) :
    readInto W addr n = accessProcessVm W addr n := by
  rw [readInto, whole, Nat.sub_self, List.replicate_zero, List.append_nil]

theorem flatten_nothing (iovs : List (ℕ × ℕ)) : flatten W iovs 0 = [] := by
  induction iovs with
  | nil => rfl
  | cons v iovs ih =>
    obtain ⟨base, len⟩ := v
    rw [flatten, Nat.min_zero, ih]
    rfl

theorem reallyCopied_le (iovs : List (ℕ × ℕ)) (room : ℕ) :
    reallyCopied W iovs room ≤ (flatten W iovs room).length := by
  induction iovs generalizing room with
  | nil => exact Nat.le_refl 0
  | cons v iovs ih =>
    obtain ⟨base, len⟩ := v
    have below := accessProcessVm_le W base (min len room)
    have rest := ih (room - min len room)
    rw [reallyCopied, flatten, List.length_append, readInto_length]
    omega

/-- The loop copies what it counts, of the first `k` elements, just when each piece is there. -/
theorem flatten_iff (found : W.found = true) (iovs : List (ℕ × ℕ)) (room k : ℕ) :
    (flatten W iovs room <+: gathered W (iovs.take k) ∧
      (flatten W iovs room).length = reallyCopied W iovs room) ↔ CopiesWhole W iovs room k := by
  induction iovs generalizing room k with
  | nil =>
    refine iff_of_true ⟨?_, rfl⟩ trivial
    rw [List.take_nil]
    exact List.prefix_rfl
  | cons v iovs ih =>
    obtain ⟨base, len⟩ := v
    rw [CopiesWhole, ← ih (room - min len room) (k - 1), flatten, reallyCopied, List.length_append,
      readInto_length, ← accessProcessVm_whole found]
    have rest := reallyCopied_le (W := W) iovs (room - min len room)
    have full : min len room = room ∨ min len room = len := by omega
    have within : min len room ≤ len := Nat.min_le_left ..
    generalize min len room = n at rest full within ⊢
    have below := accessProcessVm_le W base n
    cases k with
    | zero =>
      simp only [List.take_zero, Nat.zero_sub, gathered, List.prefix_nil, List.append_eq_nil_iff,
        Nat.lt_irrefl, false_and, or_false]
      constructor
      · rintro ⟨⟨first, others⟩, same⟩
        have none_copied := congrArg List.length first
        rw [readInto_length, List.length_nil] at none_copied
        exact ⟨none_copied, others, by omega⟩
      · rintro ⟨rfl, others, same⟩
        exact ⟨⟨List.length_eq_zero_iff.mp (readInto_length W base 0), others⟩, by omega⟩
    | succ k =>
      have pieces : n + (flatten W iovs (room - n)).length =
          (accessProcessVm W base n).length + reallyCopied W iovs (room - n) ↔
            (accessProcessVm W base n).length = n ∧
              (flatten W iovs (room - n)).length = reallyCopied W iovs (room - n) := by
        omega
      have empty : n = 0 → (accessProcessVm W base n).length = n := by omega
      rw [pieces, List.take_succ_cons, Nat.add_sub_cancel, gathered]
      by_cases whole : (accessProcessVm W base n).length = n
      · simp only [whole, true_and, Nat.succ_pos, or_true]
        refine and_congr_left fun same => ?_
        rw [readInto_whole whole]
        rcases full with none_left | element
        · -- the cap ends the message inside this element or at its end
          have start := accessProcessVm_prefix W base within
          rw [none_left, Nat.sub_self, flatten_nothing, List.append_nil, ← none_left]
          refine iff_of_true ?_ List.nil_prefix
          split_ifs
          · exact start.trans (List.prefix_append ..)
          · exact start
        · rw [element] at whole ⊢
          rw [if_pos ((accessProcessVm_whole found base len).mp whole),
            List.prefix_append_right_inj]
      · refine iff_of_false (fun right => whole right.2.1) fun right => whole ?_
        exact right.1.elim empty fun copied => copied.2

theorem readMsg_copy {msg : ℕ} {m : UserMsghdr} {iovs : List (ℕ × ℕ)}
    (read : readMsg W msg = some (m, iovs)) : W.found = true ∧ iovs = iovsCopy W msg := by
  simp only [readMsg] at read
  split_ifs at read with there small some_bytes
  obtain ⟨rfl, rfl⟩ := Prod.mk.inj (Option.some_inj.mp read)
  exact ⟨there.1, rfl⟩

theorem sent_data (remoteFd flags : ℤ) {msg : ℕ} {m : UserMsghdr} {iovs : List (ℕ × ℕ)}
    (read : readMsg W msg = some (m, iovs)) (alloc : W.bufferAlloc = true) :
    ∃ addr, build W (.sendmsg remoteFd flags msg) =
      some (.sendmsg remoteFd flags addr (flatten W iovs (toSend iovs))) := by
  simp only [build, read, Option.bind_eq_bind, Option.bind_some, alloc, if_true]
  exact ⟨_, rfl⟩

theorem send_right_iff (W : World) (remoteFd flags : ℤ) (msg : ℕ) :
    SendRight W remoteFd flags msg ↔ SendMet W msg := by
  cases read : readMsg W msg with
  | none =>
    refine iff_of_true ?_ ?_
    · intro fd flags' addr data built
      simp [build, read] at built
    · intro some_message
      rw [read] at some_message
      cases some_message
  | some pair =>
    obtain ⟨m, iovs⟩ := pair
    obtain ⟨found, rfl⟩ := readMsg_copy read
    have copied := flatten_iff found (iovsCopy W msg) (toSend (iovsCopy W msg)) (elements W msg)
    cases alloc : W.bufferAlloc with
    | false =>
      refine iff_of_true ?_ ?_
      · intro fd flags' addr data built
        simp [build, read, alloc] at built
      · intro _ allocated
        rw [alloc] at allocated
        cases allocated
    | true =>
      obtain ⟨addr, sent⟩ := sent_data remoteFd flags read alloc
      constructor
      · intro right _ _
        exact copied.mp (right _ _ _ _ sent)
      · intro met fd flags' addr' data built
        obtain ⟨-, -, -, rfl⟩ := Request.sendmsg.inj (Option.some_inj.mp (sent.symm.trans built))
        exact copied.mpr (met (by rw [read]; rfl) alloc)

end

/-! ### Scattering -/

section
variable (writable : ℕ → Bool)

theorem writeVm_le (addr : ℕ) (bs : Bytes) : (writeVm writable addr bs).length ≤ bs.length := by
  induction bs generalizing addr with
  | nil => exact Nat.le_refl 0
  | cons b bs ih =>
    rw [writeVm]
    split_ifs
    · exact Nat.succ_le_succ (ih (addr + 1))
    · exact Nat.zero_le _

theorem writeVm_whole (addr : ℕ) (bs : Bytes) :
    (writeVm writable addr bs).length = bs.length ↔
      ∀ i < bs.length, writable (addr + i) = true := by
  induction bs generalizing addr with
  | nil => exact iff_of_true rfl fun i small => absurd small (Nat.not_lt_zero i)
  | cons b bs ih =>
    have first : (∀ i < (b :: bs).length, writable (addr + i) = true) ↔
        writable addr = true ∧ ∀ i < bs.length, writable (addr + 1 + i) = true := by
      rw [List.length_cons, Nat.forall_lt_succ_left]
      simp only [Nat.add_zero, Nat.add_assoc, Nat.add_comm 1]
    rw [first, ← ih, writeVm]
    by_cases here : writable addr = true
    · rw [if_pos here, List.length_cons, List.length_cons, Nat.succ_inj]
      exact (and_iff_right here).symm
    · rw [if_neg here]
      exact iff_of_false (Nat.succ_ne_zero _).symm fun both => here both.1

variable {writable} in
theorem writeVm_eq {addr : ℕ} {bs : Bytes}
    (whole : ∀ i < bs.length, writable (addr + i) = true) :
    writeVm writable addr bs = (List.range' addr bs.length).zip bs := by
  induction bs generalizing addr with
  | nil => rfl
  | cons b bs ih =>
    have rest : ∀ i < bs.length, writable (addr + 1 + i) = true := by
      intro i small
      have here := whole (i + 1) (Nat.succ_lt_succ small)
      rwa [Nat.add_assoc, Nat.add_comm 1]
    have here : writable addr = true := whole 0 (Nat.succ_pos _)
    rw [writeVm, if_pos here, ih rest, List.length_cons, List.range'_succ, List.zip_cons_cons]

theorem scatter_le (iovs : List (ℕ × ℕ)) (data : Bytes) :
    (scatter writable iovs data).length ≤ data.length := by
  induction iovs generalizing data with
  | nil => exact Nat.zero_le _
  | cons v iovs ih =>
    obtain ⟨base, len⟩ := v
    have here := writeVm_le writable base (data.take len)
    have rest := ih (data.drop len)
    rw [List.length_take] at here
    rw [List.length_drop] at rest
    rw [scatter]
    split_ifs
    · exact Nat.zero_le _
    · rw [List.length_append]
      omega

theorem scatter_nothing (iovs : List (ℕ × ℕ)) : scatter writable iovs [] = [] := by
  cases iovs with
  | nil => rfl
  | cons v iovs => rw [scatter, if_pos rfl]

theorem fillsWhole_nothing (iovs : List (ℕ × ℕ)) : FillsWhole writable iovs [] := by
  induction iovs with
  | nil => rfl
  | cons v iovs ih =>
    obtain ⟨base, len⟩ := v
    rw [FillsWhole, List.drop_nil, List.length_nil, Nat.min_zero]
    exact ⟨fun i small => absurd small (Nat.not_lt_zero i), ih⟩

/-- An element takes its part of the data, the others the rest. -/
theorem zip_element (base len : ℕ) (rest : List ℕ) (data : Bytes) :
    (List.range' base len ++ rest).zip data =
      (List.range' base (data.take len).length).zip (data.take len) ++
        rest.zip (data.drop len) := by
  rw [List.length_take]
  by_cases short : len ≤ data.length
  · rw [Nat.min_eq_left short]
    conv_lhs => rw [← List.take_append_drop len data]
    refine List.zip_append ?_
    rw [List.length_range', List.length_take, Nat.min_eq_left short]
  · have cut : len = data.length + (len - data.length) := by omega
    rw [Nat.min_eq_right (by omega), List.take_of_length_le (by omega),
      List.drop_of_length_le (by omega), List.zip_nil_right, List.append_nil, cut,
      ← List.range'_append_1, List.append_assoc]
    conv_lhs => rw [← List.append_nil data]
    rw [List.zip_append (by rw [List.length_range', List.append_nil]), List.append_nil,
      List.zip_nil_right, List.append_nil]

theorem scatter_iff (iovs : List (ℕ × ℕ)) (k : ℕ) (data : Bytes) :
    (scatter writable iovs data = (places (iovs.take k)).zip data ∧
      (scatter writable iovs data).length = data.length) ↔
      FillsWhole writable (iovs.take k) data := by
  induction iovs generalizing k data with
  | nil =>
    rw [List.take_nil]
    constructor
    · rintro ⟨-, whole⟩
      exact List.eq_nil_of_length_eq_zero whole.symm
    · rintro rfl
      exact ⟨rfl, rfl⟩
  | cons v iovs ih =>
    obtain ⟨base, len⟩ := v
    cases k with
    | zero =>
      rw [List.take_zero]
      constructor
      · rintro ⟨nothing, whole⟩
        rw [nothing] at whole
        exact List.eq_nil_of_length_eq_zero whole.symm
      · rintro rfl
        rw [scatter_nothing]
        exact ⟨rfl, rfl⟩
    | succ k =>
      rw [List.take_succ_cons]
      by_cases done : data = []
      · subst data
        rw [scatter_nothing, List.zip_nil_right]
        exact iff_of_true ⟨rfl, rfl⟩ (fillsWhole_nothing writable _)
      · have here := writeVm_le writable base (data.take len)
        have rest := scatter_le writable iovs (data.drop len)
        have whole := writeVm_whole writable base (data.take len)
        have split : data.length = (data.take len).length + (data.drop len).length := by
          rw [← List.length_append, List.take_append_drop]
        have parts : (writeVm writable base (data.take len)).length +
            (scatter writable iovs (data.drop len)).length = data.length ↔
              (writeVm writable base (data.take len)).length = (data.take len).length ∧
                (scatter writable iovs (data.drop len)).length = (data.drop len).length := by
          omega
        rw [scatter, if_neg done, FillsWhole, ← ih k (data.drop len), places, List.flatMap_cons,
          zip_element, List.length_append, parts, ← List.length_take, ← whole]
        constructor
        · rintro ⟨same, first, others⟩
          rw [writeVm_eq (whole.mp first), List.append_cancel_left_eq] at same
          exact ⟨first, same, others⟩
        · rintro ⟨first, same, others⟩
          refine ⟨?_, first, others⟩
          rw [writeVm_eq (whole.mp first), same, places]

theorem received_eq (W : World) (msg : ℕ) (addr : Bytes) {data : Bytes} (alloc : Bool) (g : Record)
    (some_data : data ≠ []) : received W writable msg addr data alloc g =
      ((data.length : ℤ), if alloc = true ∧ (readMsg W msg).isSome = true then
        scatter writable (iovsCopy W msg) data else []) := by
  have positive : 0 < (data.length : ℤ) := by
    have := List.length_pos_iff.mpr some_data
    omega
  simp only [received, recvmsgAwakening, handleSysRecvmsgReply, reply, positive, if_true,
    Int.le_of_lt positive, true_and]
  cases alloc with
  | false => rfl
  | true =>
    simp only [if_true, true_and]
    split_ifs <;> rfl

theorem recv_right_iff (W : World) (msg : ℕ) (addr data : Bytes) (alloc : Bool) (g : Record) :
    RecvRight W writable msg addr data alloc g ↔ RecvMet W writable msg data alloc := by
  by_cases nothing : data = []
  · subst data
    refine iff_of_true ?_ fun some_data => absurd rfl some_data
    have silent : received W writable msg addr [] alloc g = (0, []) := rfl
    refine ⟨?_, ?_, ?_⟩
    · rw [silent, List.zip_nil_right]
    · rw [silent]
      rfl
    · rw [silent]
      rfl
  · have result := received_eq writable W msg addr alloc g nothing
    have spread := scatter_iff writable (iovsCopy W msg) (elements W msg) data
    rw [RecvMet, userIovs, ← spread]
    constructor
    · rintro ⟨inOrder, whole, -⟩ -
      rw [result] at inOrder whole
      by_cases served : alloc = true ∧ (readMsg W msg).isSome = true
      · rw [if_pos served] at inOrder whole
        exact ⟨served, inOrder, whole⟩
      · rw [if_neg served] at whole
        exact absurd (List.eq_nil_of_length_eq_zero whole.symm) nothing
    · intro met
      obtain ⟨served, inOrder, whole⟩ := met nothing
      rw [if_pos served] at result
      refine ⟨?_, ?_, ?_⟩
      · rw [result]
        exact inOrder
      · rw [result]
        exact whole
      · rw [result]
        exact congrArg Nat.cast whole.symm

end

/-- Gathering and scattering together. -/
theorem vectors_right_iff (W : World) (remoteFd flags : ℤ) (msg : ℕ) (writable : ℕ → Bool)
    (addr data : Bytes) (alloc : Bool) (g : Record) :
    (SendRight W remoteFd flags msg ↔ SendMet W msg) ∧
      (RecvRight W writable msg addr data alloc g ↔ RecvMet W writable msg data alloc) :=
  ⟨send_right_iff W remoteFd flags msg, recv_right_iff writable W msg addr data alloc g⟩

/-- The only element lies where nothing can be read. -/
def badElement : World :=
  { readable with mem := fun a => if a = 88 then some 200 else readable.mem a }

/-- Three bytes are sent that nobody gave, and five are reported where three are written. -/
theorem uncopied_bytes_are_counted :
    (¬∀ W remoteFd flags msg, SendRight W remoteFd flags msg) ∧
      ¬∀ W writable msg addr data alloc g, RecvRight W writable msg addr data alloc g := by
  constructor
  · intro right
    have copied := (right badElement 4 0 32 4 0 [] [0, 0, 0] (by decide +kernel)).2
    exact absurd copied (by decide +kernel)
  · intro right
    have whole := (right readable (fun _ => true) 32 [] [1, 2, 3, 4, 5] true
      ⟨0, false, none, 0, 0, none, 0⟩).whole
    exact absurd whole (by decide +kernel)

end MattX.MessageVectors
