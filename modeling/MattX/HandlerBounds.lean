import MattX.MessageHandlers

set_option autoImplicit false

/-!
# When a handler stays inside its message

For every type of message the lengths, counts, descriptors and node ids with
which its handler reads no byte behind the payload, fills no array beyond its
end and looks at no place outside a table.
-/
namespace MattX.MessageHandlers
open BufferAccesses
open RequestHandlers (Home Task FdTable ExportInfo asInt maxFds)
open MessageFraming (Message)

/-! ### Parts of handlers -/

@[simp] theorem payload_length (h : Host) (m : Message) :
    (h.payload m).length = m.payload.length := rfl

theorem sender_lt (m : Message) : sender m < 4294967296 := m.senderId.isLt

theorem asInt_range (n : ℕ) (small : n < 4294967296) :
    0 ≤ asInt n ∧ asInt n = n ∨ asInt n < 0 ∧ 2147483648 ≤ n := by
  simp only [asInt]
  split_ifs with positive <;> omega

@[simp] theorem inside_senderLink (m : Message) :
    (senderLink m).Inside ↔ sender m < maxNodes := by
  simp only [senderLink, inside_index]
  omega

@[simp] theorem inside_targetLink (m : Message) :
    (targetLink m).Inside ↔ sender m < maxNodes := by
  have nodes : maxNodes = 1024 := rfl
  have range := asInt_range (sender m) (sender_lt m)
  simp only [targetLink, inside_index]
  omega

@[simp] theorem allInside_replyTo (m : Message) (ends : Bool) :
    AllInside (replyTo m ends) ↔ (ends = true → sender m < maxNodes) := by
  simp only [replyTo, allInside_ite, allInside_cons, inside_targetLink, allInside_nil, and_true,
    implies_true]

/-- What a message for the log prints ends at `n`. -/
def Printed (h : Host) (m : Message) (n : ℕ) : Prop := h.debug = true → n ≤ m.payload.length

theorem printed_inside (h : Host) (m : Message) (fields : Layout) (sized : ∀ f ∈ fields, 0 < f.2) :
    AllInside (printed h m fields) ↔ Printed h m (reach fields) := by
  simp only [printed, allInside_ite, allInside_read _ _ sized, allInside_nil, payload_length,
    implies_true, and_true, Printed]

@[simp] theorem allInside_guarded (m : Message) (as : List Access) :
    AllInside (guarded m as) ↔ (m.payload ≠ [] → AllInside as) := by
  simp only [guarded, allInside_ite, allInside_nil, implies_true, true_and, ne_eq]

@[simp] theorem allInside_dispatch (h : Host) (copies work : List Access) :
    AllInside (dispatch h copies work) ↔
      (h.kmalloc .ctx = true → AllInside copies ∧ AllInside work) := by
  simp only [dispatch, allInside_ite, allInside_append, allInside_nil, implies_true, and_true]

@[simp] theorem allInside_nativeFile (n : Home) (pid fd : ℕ) : AllInside (nativeFile n pid fd) := by
  simp only [nativeFile]
  split
  · simp only [allInside_ite, allInside_cons, inside_index, allInside_nil, implies_true, and_true]
    omega
  · exact allInside_nil

/-- The slot is compared with the end of the table only. -/
@[simp] theorem allInside_exportedFile (n : Home) (pid : ℕ) (slot : ℤ) :
    AllInside (exportedFile n pid slot) ↔ ((n.exportOf pid).isSome → 0 ≤ slot) := by
  simp only [exportedFile]
  split
  · rename_i found
    simp only [allInside_ite, allInside_cons, inside_index, allInside_nil, implies_true, and_true,
      found, Option.isSome_some, forall_const]
    omega
  · rename_i missing
    simp [missing]

@[simp] theorem allInside_getRemoteFile (n : Home) (pid : ℕ) (fd : ℤ) :
    AllInside (getRemoteFile n pid fd) := by
  simp only [getRemoteFile, allInside_ite, allInside_exportedFile, allInside_nativeFile,
    allInside_nil, implies_true, and_true]
  omega

@[simp] theorem allInside_onFile (h : Host) (m : Message) (off : ℕ) :
    AllInside (onFile h m off) := allInside_getRemoteFile _ _ _

@[simp] theorem allInside_asDeputy (h : Host) (m : Message) (off : ℕ) :
    AllInside (asDeputy h m off) := by
  simp only [asDeputy, allInside_ite, allInside_onFile, allInside_nil, implies_true, and_true]

/-- The payload has a NUL from `off` on. -/
def Terminated (m : Message) (off : ℕ) : Prop := 0 ∈ m.payload.drop off

theorem Terminated.length {m : Message} {off : ℕ} (h : Terminated m off) :
    off < m.payload.length :=
  string_ends (b := ⟨m.payload, fun _ => 0⟩) h

/-! ### Requests for a kworker -/

/-- `n` bytes go into the context. -/
def Dispatched (h : Host) (m : Message) (n : ℕ) (ends : Bool) : Prop :=
  h.kmalloc .ctx = true → n ≤ m.payload.length ∧ (ends = true → sender m < maxNodes)

theorem kworkerReq_inside (h : Host) (m : Message) (fields : Layout) (lookup : List Access)
    (ends : Bool) (sized : ∀ f ∈ fields, 0 < f.2) (inside : AllInside lookup) :
    AllInside (kworkerReq h m fields lookup ends) ↔ Dispatched h m (reach fields) ends := by
  simp only [kworkerReq, allInside_dispatch, allInside_read _ _ sized, allInside_append, inside,
    true_and, allInside_replyTo, Dispatched, payload_length]

theorem handleSysOpenReq_inside (h : Host) (m : Message) :
    AllInside (handleSysOpenReq h m) ↔ (m.payload ≠ [] → Dispatched h m 268 true ∧
      (h.kmalloc .ctx = true → h.debug = true → Terminated m 12)) := by
  simp only [handleSysOpenReq, allInside_guarded, allInside_dispatch, allInside_cons, inside_bytes,
    allInside_ite, inside_string, allInside_replyTo, allInside_nil, payload_length, and_true,
    implies_true, Dispatched]
  change (_ → _ → (_ ∧ (_ → Terminated m 12)) ∧ _) ↔ _
  grind

theorem handleSysRecvmsgReq_inside (h : Host) (m : Message) :
    AllInside (handleSysRecvmsgReq h m) ↔
      (m.payload ≠ [] → Dispatched h m 24 (h.kmalloc .reply)) := by
  have address : AllInside
      (onFile h m 4 ++ if h.kmalloc .reply then [.store 128 h.namelen] else []) := by
    have small := h.namelen.isLt
    simp only [allInside_append, allInside_onFile, true_and, allInside_ite, allInside_cons,
      inside_store, allInside_nil, implies_true, and_true]
    omega
  rw [handleSysRecvmsgReq, allInside_guarded, kworkerReq_inside h m _ _ _ (by decide) address]
  rfl

theorem handleSysSendReq_inside (h : Host) (m : Message) :
    AllInside (handleSysSendReq h m) ↔ (m.payload ≠ [] → 24 ≤ m.payload.length ∧
      Dispatched h m (24 + (h.payload m).u64 16) true) := by
  have header := allInside_read (h.payload m) [(0, 4), (4, 4), (8, 4), (16, 8)] (by decide)
  simp only [handleSysSendReq, allInside_guarded, allInside_cons, allInside_dispatch,
    allInside_append, header, allInside_onFile, allInside_replyTo, inside_bytes, allInside_nil,
    payload_length, true_and, and_true, Dispatched]
  have size : reach [(0, 4), (4, 4), (8, 4), (16, 8)] = 24 := rfl
  rw [size]
  grind

theorem handleSysSendmsgReq_inside (h : Host) (m : Message) :
    AllInside (handleSysSendmsgReq h m) ↔ (m.payload ≠ [] → 24 ≤ m.payload.length ∧
      Dispatched h m (152 + (h.payload m).u64 16) true) := by
  have header := allInside_read (h.payload m)
    [(0, 4), (4, 4), (8, 4), (12, 4), (16, 8), (24, 128)] (by decide)
  simp only [handleSysSendmsgReq, allInside_guarded, allInside_cons, allInside_dispatch,
    allInside_append, header, allInside_onFile, allInside_replyTo, inside_bytes, allInside_nil,
    payload_length, true_and, and_true, Dispatched]
  have size : reach [(0, 4), (4, 4), (8, 4), (12, 4), (16, 8), (24, 128)] = 152 := rfl
  rw [size]
  grind

/-! ### Polls -/

/-- A negative count is a huge size. -/
theorem pollBytes_le (n : ℕ) (small : n < 4294967296) :
    pollBytes (asInt n) ≤ 256 ↔ 0 ≤ asInt n ∧ asInt n ≤ 16 := by
  simp only [pollBytes, asSize, asInt]
  split_ifs with positive <;> omega

theorem pollBytes_eq (i : ℤ) (positive : 0 ≤ i) (small : i ≤ 16) : pollBytes i = 16 * i.toNat := by
  simp only [pollBytes, asSize]
  omega

theorem pollLoops_inside (h : Host) (m : Message)
    (few : asInt ((h.payload m).u32 4) ≤ 16) : AllInside (pollLoops h m) := by
  simp only [pollLoops]
  split
  · rw [allInside_each]
    intro j small
    simp only [allInside_cons, inside_index, allInside_getRemoteFile, and_true]
    omega
  · exact allInside_nil

/-- There are as many descriptors as the request says, and at most 16. -/
def PollFits (h : Host) (m : Message) : Prop :=
  let nfds := asInt ((h.payload m).u32 4)
  12 ≤ m.payload.length ∧ 0 ≤ nfds ∧ nfds ≤ 16 ∧
    (nfds = 0 ∨ 16 + 16 * nfds ≤ m.payload.length) ∧
    (h.kmalloc .reply = true → h.kmalloc .files = true → h.waitEnds = true → sender m < maxNodes)

theorem handleSysPollReq_inside (h : Host) (m : Message) :
    AllInside (handleSysPollReq h m) ↔
      (m.payload ≠ [] → h.kmalloc .ctx = true → PollFits h m) := by
  have header := allInside_read (h.payload m) [(0, 4), (4, 4), (8, 4)] (by decide)
  have size : reach [(0, 4), (4, 4), (8, 4)] = 12 := rfl
  have room := pollBytes_le ((h.payload m).u32 4) ((h.payload m).u32_lt 4)
  simp only [handleSysPollReq, allInside_guarded, allInside_dispatch, allInside_append, header,
    size, allInside_cons, inside_bytes, inside_store, allInside_nil, and_true, payload_length]
  refine imp_congr_right fun _ => imp_congr_right fun _ => ?_
  by_cases few : 0 ≤ asInt ((h.payload m).u32 4) ∧ asInt ((h.payload m).u32 4) ≤ 16
  · have bytes := pollBytes_eq _ few.1 few.2
    have loops := pollLoops_inside h m few.2
    have fill := room.mpr few
    simp only [pollWorker, allInside_ite, allInside_append, allInside_cons, inside_store, loops,
      allInside_replyTo, allInside_nil, implies_true, and_true, true_and, fill, few,
      Bool.and_eq_true, and_imp, PollFits]
    have array : (pollBytes (asInt ((h.payload m).u32 4)) = 0 ∨
        16 + pollBytes (asInt ((h.payload m).u32 4)) ≤ m.payload.length) ↔
        (asInt ((h.payload m).u32 4) = 0 ∨
          16 + 16 * asInt ((h.payload m).u32 4) ≤ m.payload.length) := by omega
    rw [array, and_assoc]
  · constructor
    · intro inside
      exact absurd (room.mp inside.1.2.2) few
    · intro fits
      exact absurd ⟨fits.2.1, fits.2.2.1⟩ few

/-! ### Requests for the deputy itself -/

theorem callback_inside (h : Host) (m : Message) (t : Task) (ends : Bool) :
    AllInside (callback h m t ends) ↔
      (h.taskWorkAdd = true → t.takesWork = true → ends = true → sender m < maxNodes) := by
  simp only [callback, allInside_ite, allInside_replyTo, allInside_nil, implies_true, and_true,
    Bool.and_eq_true, and_imp]

theorem hijackReq_inside (h : Host) (m : Message) (found : Task → List Access) :
    AllInside (hijackReq h m found) ↔ 4 ≤ m.payload.length ∧
      ∀ t ∈ (h.home 0).task ((h.payload m).u32 0), AllInside (found t) := by
  simp only [hijackReq, allInside_cons, inside_bytes, payload_length]
  cases (h.home 0).task ((h.payload m).u32 0) with
  | none => simp
  | some t => simp

/-- The deputy gets a callback that runs and comes to its reply. -/
def Injected (h : Host) (m : Message) (n : ℕ) (ends : Bool) : Prop :=
  4 ≤ m.payload.length ∧ ∀ t ∈ (h.home 0).task ((h.payload m).u32 0), h.kmalloc .ctx = true →
    n ≤ m.payload.length ∧
      (h.taskWorkAdd = true → t.takesWork = true → ends = true → sender m < maxNodes)

theorem injectReq_inside (h : Host) (m : Message) (fields : Layout) (ends : Bool)
    (sized : ∀ f ∈ fields, 0 < f.2) :
    AllInside (injectReq h m fields ends) ↔ Injected h m (reach fields) ends := by
  simp only [injectReq, hijackReq_inside, allInside_dispatch, allInside_read _ _ sized,
    callback_inside, payload_length, Injected]

theorem handleSysSetsockoptReq_inside (h : Host) (m : Message) :
    AllInside (handleSysSetsockoptReq h m) ↔ 4 ≤ m.payload.length ∧
      (((h.home 0).task ((h.payload m).u32 0)).isSome → 20 ≤ m.payload.length) ∧
      Injected h m (20 + asSize (asInt ((h.payload m).u32 16))) true := by
  have header := allInside_read (h.payload m) [(0, 4), (4, 4), (8, 4), (12, 4), (16, 4)] (by decide)
  have size : reach [(0, 4), (4, 4), (8, 4), (12, 4), (16, 4)] = 20 := rfl
  simp only [handleSysSetsockoptReq, hijackReq_inside, allInside_cons, allInside_dispatch,
    allInside_append, header, size, callback_inside, inside_bytes, allInside_nil, payload_length,
    and_true, Injected]
  cases (h.home 0).task ((h.payload m).u32 0) with
  | none => simp
  | some t =>
    simp only [Option.mem_def, Option.some.injEq, forall_eq', Option.isSome_some]
    grind

theorem handleSysEpollWaitReq_inside (h : Host) (m : Message) :
    AllInside (handleSysEpollWaitReq h m) ↔
      (m.payload ≠ [] → h.kmalloc .ctx = true → 16 ≤ m.payload.length ∧
        (h.waitEnds = true → h.kmalloc .reply = true →
          (∀ t ∈ (h.home 2).task ((h.payload m).u32 0), h.kmalloc .buffer = true ∧
            h.taskWorkAdd = true ∧ t.takesWork = true) → sender m < maxNodes)) := by
  have header := allInside_read (h.payload m) [(0, 4), (4, 4), (8, 4), (12, 4)] (by decide)
  have size : reach [(0, 4), (4, 4), (8, 4), (12, 4)] = 16 := rfl
  simp only [handleSysEpollWaitReq, allInside_guarded, allInside_dispatch, header, size,
    epollWaitKworker, allInside_append, allInside_onFile, true_and, payload_length, allInside_ite,
    allInside_nil, implies_true, and_true]
  cases (h.home 2).task ((h.payload m).u32 0) with
  | none => simp
  | some t =>
    simp only [allInside_ite, callback_inside, allInside_nil, implies_true, and_true,
      Option.mem_def, Option.some.injEq, forall_eq']
    grind

/-! ### Requests served at once -/

theorem slotOf_nonneg (fd : ℕ) (small : fd < 4294967296) :
    0 ≤ slotOf fd ↔ fd - 1000 < 2147483648 := by
  simp only [slotOf, asInt]
  split_ifs with positive <;> omega

/-- No exported process looks at a descriptor so large that its slot is negative. -/
def LookupFits (h : Host) (m : Message) : Prop :=
  8 ≤ m.payload.length ∧ (((h.home 0).exportOf ((h.payload m).u32 0)).isSome →
    (h.payload m).u32 4 < 1000 + 2147483648)

theorem fileLookup_inside (h : Host) (m : Message) :
    AllInside (fileLookup h m) ↔ LookupFits h m := by
  have sign := slotOf_nonneg ((h.payload m).u32 4) ((h.payload m).u32_lt 4)
  simp only [fileLookup, allInside_cons, inside_bytes, allInside_ite, allInside_exportedFile,
    allInside_nativeFile, allInside_nil, payload_length, and_true, sign, LookupFits]
  have empty : (h.home 0).exports.isEmpty = true →
      ((h.home 0).exportOf ((h.payload m).u32 0)).isSome = false := by
    intro empty
    simp [Home.exportOf, List.isEmpty_iff.mp empty]
  grind

theorem handleSyscallFwd_inside (h : Host) (m : Message) :
    AllInside (handleSyscallFwd h m) ↔ (m.payload ≠ [] → LookupFits h m ∧
      (fileFound h m = true →
        12 + min ((h.payload m).u32 8) h.taken ≤ m.payload.length)) := by
  simp only [handleSyscallFwd, allInside_guarded, allInside_append, fileLookup_inside,
    allInside_ite, allInside_cons, inside_bytes, allInside_nil, payload_length, and_true,
    implies_true]
  grind

theorem handleSysReadReq_inside (h : Host) (m : Message) :
    AllInside (handleSysReadReq h m) ↔ (m.payload ≠ [] → LookupFits h m ∧
      (fileFound h m = true → 16 ≤ m.payload.length) ∧
      ((fileFound h m = true → h.kmalloc .buffer = true ∧ h.kmalloc .reply = true) →
        sender m < maxNodes)) := by
  simp only [handleSysReadReq, allInside_guarded, allInside_append, fileLookup_inside,
    allInside_ite, allInside_cons, inside_bytes, inside_senderLink, allInside_nil, payload_length,
    and_true, implies_true, Bool.and_eq_true, LookupFits]
  grind

theorem handleSysUnameReq_inside (h : Host) (m : Message) :
    AllInside (handleSysUnameReq h m) ↔ 4 ≤ m.payload.length ∧ sender m < maxNodes := by
  simp [handleSysUnameReq]

theorem handleSysUnlinkReq_inside (h : Host) (m : Message) :
    AllInside (handleSysUnlinkReq h m) ↔
      (m.payload ≠ [] → Terminated m 20 ∧ sender m < maxNodes) := by
  have head := allInside_read (h.payload m) [(0, 8), (8, 4)] (by decide)
  have ids := allInside_read (h.payload m) [(12, 4), (16, 4)] (by decide)
  have headSize : reach [(0, 8), (8, 4)] = 12 := rfl
  have idsSize : reach [(12, 4), (16, 4)] = 20 := rfl
  have length := @Terminated.length m 20
  simp only [handleSysUnlinkReq, allInside_guarded, allInside_append, head, ids, headSize, idsSize,
    allInside_ite, allInside_cons, inside_string, inside_senderLink, allInside_nil, payload_length,
    and_true, implies_true]
  change (_ → _ ∧ Terminated m 20 ∧ _) ↔ _
  grind

/-! ### Requests of the file system -/

theorem handleVfsGetattrReq_inside (h : Host) (m : Message) :
    AllInside (handleVfsGetattrReq h m) ↔
      (m.payload ≠ [] → Terminated m 8 ∧ sender m < maxNodes) := by
  have length := @Terminated.length m 8
  simp only [handleVfsGetattrReq, allInside_guarded, allInside_cons, inside_bytes, inside_string,
    inside_senderLink, allInside_nil, payload_length, and_true]
  change (_ → _ ∧ Terminated m 8 ∧ _) ↔ _
  grind

theorem filldir_inside (names : List ℕ) (count : ℕ) : AllInside (filldir count names) := by
  induction names generalizing count with
  | nil => exact allInside_nil
  | cons namlen names ih =>
    have next := ih (count + 1)
    simp only [filldir, allInside_ite, allInside_cons, inside_index, inside_store, next,
      allInside_nil, implies_true, and_true, true_and]
    omega

theorem handleVfsReaddirReq_inside (h : Host) (m : Message) :
    AllInside (handleVfsReaddirReq h m) ↔
      (m.payload ≠ [] → h.kmalloc .reply = true → Terminated m 16 ∧ sender m < maxNodes) := by
  have length := @Terminated.length m 16
  simp only [handleVfsReaddirReq, allInside_guarded, allInside_ite, allInside_cons, inside_bytes,
    inside_string, allInside_append, inside_senderLink, allInside_nil, payload_length, and_true,
    implies_true]
  change (_ → _ → (_ ∧ Terminated m 16 ∧ _) ∧ _) ↔ _
  cases h.names with
  | none => simp only [allInside_nil]; grind
  | some names =>
    simp only [allInside_cons, inside_bytes, filldir_inside, payload_length]
    grind

theorem handleVfsOpenReq_inside (h : Host) (m : Message) :
    AllInside (handleVfsOpenReq h m) ↔
      (m.payload ≠ [] → Terminated m 24 ∧ sender m < maxNodes) := by
  have head := allInside_read (h.payload m) [(0, 8), (16, 4), (20, 4), (8, 4), (12, 4)] (by decide)
  have size : reach [(0, 8), (16, 4), (20, 4), (8, 4), (12, 4)] = 24 := rfl
  have length := @Terminated.length m 24
  simp only [handleVfsOpenReq, allInside_guarded, allInside_append, head, size, allInside_cons,
    inside_string, inside_senderLink, allInside_nil, payload_length, and_true]
  change (_ → _ ∧ Terminated m 24 ∧ _) ↔ _
  grind

/-- The descriptor at `off` is not negative. -/
def MfsFits (h : Host) (m : Message) (off : ℕ) : Prop :=
  off + 4 ≤ m.payload.length ∧ 0 ≤ asInt ((h.payload m).u32 off)

theorem mfsLookup_inside (h : Host) (m : Message) (off : ℕ) :
    AllInside (mfsLookup h m off) ↔ MfsFits h m off := by
  simp only [mfsLookup, allInside_cons, inside_bytes, allInside_ite, inside_index, allInside_nil,
    payload_length, and_true, implies_true, MfsFits]
  omega

theorem handleVfsReadReq_inside (h : Host) (m : Message) :
    AllInside (handleVfsReadReq h m) ↔ (m.payload ≠ [] → MfsFits h m 8 ∧
      (mfsFound h m 8 = true → 24 ≤ m.payload.length ∧ (h.kmalloc .buffer = true →
        32 ≤ m.payload.length ∧ (h.kmalloc .reply = true → sender m < maxNodes)))) := by
  simp only [handleVfsReadReq, allInside_guarded, allInside_append, mfsLookup_inside, allInside_ite,
    allInside_cons, inside_bytes, inside_senderLink, allInside_nil, payload_length, and_true,
    implies_true]
  grind

theorem handleVfsWriteReq_inside (h : Host) (m : Message) :
    AllInside (handleVfsWriteReq h m) ↔ (m.payload ≠ [] → MfsFits h m 8 ∧
      (mfsFound h m 8 = true → 32 + min ((h.payload m).u64 16) h.taken ≤ m.payload.length) ∧
      sender m < maxNodes) := by
  simp only [handleVfsWriteReq, allInside_guarded, allInside_append, mfsLookup_inside,
    allInside_ite, allInside_cons, inside_bytes, inside_senderLink, allInside_nil, payload_length,
    and_true, implies_true, MfsFits]
  grind

/-- A handler that reads `n` bytes if it has the file. -/
def MfsServed (h : Host) (m : Message) (n : ℕ) : Prop :=
  MfsFits h m 8 ∧ (mfsFound h m 8 = true → n ≤ m.payload.length) ∧ sender m < maxNodes

theorem handleVfsLseekReq_inside (h : Host) (m : Message) :
    AllInside (handleVfsLseekReq h m) ↔ (m.payload ≠ [] → MfsServed h m 28) := by
  have body := allInside_read (h.payload m) [(16, 8), (24, 4)] (by decide)
  have size : reach [(16, 8), (24, 4)] = 28 := rfl
  simp only [handleVfsLseekReq, allInside_guarded, allInside_append, mfsLookup_inside, body, size,
    allInside_ite, allInside_cons, inside_bytes, inside_senderLink, allInside_nil, payload_length,
    and_true, implies_true, MfsServed, MfsFits]
  grind

theorem handleVfsFsyncReq_inside (h : Host) (m : Message) :
    AllInside (handleVfsFsyncReq h m) ↔ (m.payload ≠ [] → MfsServed h m 36) := by
  have body := allInside_read (h.payload m) [(16, 8), (24, 8), (32, 4)] (by decide)
  have size : reach [(16, 8), (24, 8), (32, 4)] = 36 := rfl
  simp only [handleVfsFsyncReq, allInside_guarded, allInside_append, mfsLookup_inside, body, size,
    allInside_ite, allInside_cons, inside_bytes, inside_senderLink, allInside_nil, payload_length,
    and_true, implies_true, MfsServed, MfsFits]
  grind

/-! ### Replies to a guest -/

/-- The registry is searched with the pid, and what follows is read for a guest of the sender. -/
def ForGuest (h : Host) (m : Message) (P : Prop) : Prop :=
  h.guests ≠ [] → 4 ≤ m.payload.length ∧ (toGuest h m = true → P)

theorem guestReply_inside (h : Host) (m : Message) (found : List Access) :
    AllInside (guestReply h m found) ↔ ForGuest h m (AllInside found) := by
  simp only [guestReply, allInside_ite, allInside_cons, inside_bytes, allInside_nil,
    payload_length, List.isEmpty_iff, implies_true, and_true, true_and, ForGuest]
  grind

theorem guestRead_inside (h : Host) (m : Message) (fields : Layout)
    (sized : ∀ f ∈ fields, 0 < f.2) :
    AllInside (guestReply h m (read (h.payload m) fields)) ↔
      ForGuest h m (reach fields ≤ m.payload.length) := by
  rw [guestReply_inside, allInside_read _ _ sized, payload_length]

/-- A reply that is read further if its error code is 0. -/
def Succeeds (h : Host) (m : Message) (n : ℕ) : Prop :=
  ForGuest h m (8 ≤ m.payload.length ∧
    (asInt ((h.payload m).u32 4) = 0 → h.kmalloc .buffer = true → n ≤ m.payload.length))

theorem structReply_inside (h : Host) (m : Message) (fields : Layout)
    (sized : ∀ f ∈ fields, 0 < f.2) :
    AllInside (structReply h m fields) ↔ Succeeds h m (reach fields) := by
  simp only [structReply, guestReply_inside, allInside_cons, inside_bytes, allInside_ite,
    allInside_read _ _ sized, allInside_nil, payload_length, implies_true, and_true, and_imp,
    Succeeds, ForGuest]
  grind

/-- A reply with `n` bytes that end at `size + n`, if `n` is positive. -/
def Counted (h : Host) (m : Message) (head size : ℕ) (n : ℤ) : Prop :=
  ForGuest h m (head ≤ m.payload.length ∧
    (0 < n → h.kmalloc .buffer = true → size + n ≤ m.payload.length))

theorem asLong_pos (n : ℕ) (small : n < 18446744073709551616) (h : 0 < asLong n) :
    asLong n = n ∧ n ≠ 0 := by
  simp only [asLong] at h ⊢
  split_ifs at h ⊢ <;> omega

theorem dataReply_inside (h : Host) (m : Message) :
    AllInside (dataReply h m) ↔ Counted h m 16 20 (asLong ((h.payload m).u64 8)) := by
  have positive := asLong_pos _ ((h.payload m).u64_lt 8)
  simp only [dataReply, guestReply_inside, allInside_cons, inside_bytes, allInside_ite,
    allInside_nil, payload_length, implies_true, and_true, and_imp, Counted, ForGuest]
  grind

theorem asInt_pos (n : ℕ) (small : n < 4294967296) (h : 0 < asInt n) : asInt n = n ∧ n ≠ 0 := by
  have range := asInt_range n small
  omega

theorem linkReply_inside (h : Host) (m : Message) :
    AllInside (linkReply h m) ↔ Counted h m 8 8 (asInt ((h.payload m).u32 4)) := by
  have positive := asInt_pos _ ((h.payload m).u32_lt 4)
  simp only [linkReply, guestReply_inside, allInside_cons, inside_bytes, allInside_ite,
    allInside_nil, payload_length, implies_true, and_true, and_imp, Counted, ForGuest]
  grind

theorem handleSysEpollWaitReply_inside (h : Host) (m : Message) :
    AllInside (handleSysEpollWaitReply h m) ↔
      (m.payload ≠ [] → Counted h m 8 8 (12 * asInt ((h.payload m).u32 4))) := by
  have positive := asInt_pos _ ((h.payload m).u32_lt 4)
  simp only [handleSysEpollWaitReply, allInside_guarded, guestReply_inside, allInside_cons,
    inside_bytes, allInside_ite, allInside_nil, payload_length, implies_true, and_true, and_imp,
    Counted, ForGuest]
  grind

theorem handleSysGetsockoptReply_inside (h : Host) (m : Message) :
    AllInside (handleSysGetsockoptReply h m) ↔ ForGuest h m (12 ≤ m.payload.length ∧
      (asInt ((h.payload m).u32 4) = 0 → 0 < asInt ((h.payload m).u32 8) →
        h.kmalloc .buffer = true →
          12 + asInt ((h.payload m).u32 8) ≤ m.payload.length)) := by
  have positive := asInt_pos _ ((h.payload m).u32_lt 8)
  simp only [handleSysGetsockoptReply, guestReply_inside, allInside_cons, inside_bytes,
    allInside_ite, allInside_nil, payload_length, implies_true, and_true, and_imp, ForGuest]
  grind

theorem handleSysAcceptReply_inside (h : Host) (m : Message) :
    AllInside (handleSysAcceptReply h m) ↔ (m.payload ≠ [] → Printed h m 8 ∧ ForGuest h m
      (12 ≤ m.payload.length ∧
        (asInt ((h.payload m).u32 8) = 0 → 148 ≤ m.payload.length))) := by
  have log := printed_inside h m [(0, 4), (4, 4)] (by decide)
  have size : reach [(0, 4), (4, 4)] = 8 := rfl
  simp only [handleSysAcceptReply, allInside_guarded, allInside_append, log, size,
    guestReply_inside, allInside_cons, inside_bytes, allInside_ite, allInside_nil, payload_length,
    implies_true, and_true, and_imp, ForGuest]
  grind

theorem handleSysFioReply_inside (h : Host) (m : Message) :
    AllInside (handleSysFioReply h m) ↔ ForGuest h m (8 ≤ m.payload.length ∧
      (h.kmalloc .buffer = true → 264 ≤ m.payload.length)) := by
  have body := allInside_read (h.payload m) [(8, 256)] (by decide)
  have size : reach [(8, 256)] = 264 := rfl
  simp only [handleSysFioReply, guestReply_inside, allInside_cons, inside_bytes, allInside_ite,
    body, size, allInside_nil, payload_length, implies_true, and_true, ForGuest]
  grind

theorem handleSysPollReply_inside (h : Host) (m : Message) :
    AllInside (handleSysPollReply h m) ↔ (m.payload ≠ [] → Printed h m 16 ∧ ForGuest h m
      (16 ≤ m.payload.length ∧ (h.kmalloc .buffer = true → 272 ≤ m.payload.length))) := by
  have body := allInside_read (h.payload m) [(0, 272)] (by decide)
  have size : reach [(0, 272)] = 272 := rfl
  have log := printed_inside h m [(0, 4), (12, 4)] (by decide)
  have logSize : reach [(0, 4), (12, 4)] = 16 := rfl
  simp only [handleSysPollReply, allInside_guarded, allInside_append, log, logSize,
    guestReply_inside, allInside_cons, inside_bytes, allInside_ite, body, size, allInside_nil,
    payload_length, implies_true, and_true, ForGuest]
  grind

theorem handleSysShmgetReply_inside (h : Host) (m : Message) :
    AllInside (handleSysShmgetReply h m) ↔ ForGuest h m (12 ≤ m.payload.length) := by
  simp only [handleSysShmgetReply, guestReply_inside, allInside_cons, inside_bytes, allInside_ite,
    allInside_nil, payload_length, implies_true, and_true, ForGuest]
  grind

theorem handleSysShmatReply_inside (h : Host) (m : Message) :
    AllInside (handleSysShmatReply h m) ↔ ForGuest h m (28 ≤ m.payload.length) := by
  have head := allInside_read (h.payload m) [(24, 4), (16, 8)] (by decide)
  have headSize : reach [(24, 4), (16, 8)] = 28 := rfl
  have addr := allInside_read (h.payload m) [(8, 8)] (by decide)
  have addrSize : reach [(8, 8)] = 16 := rfl
  simp only [handleSysShmatReply, guestReply_inside, allInside_append, head, headSize,
    allInside_ite, addr, addrSize, allInside_nil, payload_length, implies_true, and_true, ForGuest]
  grind

theorem handleSysSendmsgReply_inside (h : Host) (m : Message) :
    AllInside (handleSysSendmsgReply h m) ↔ (m.payload ≠ [] → Printed h m 16 ∧ ForGuest h m
      (16 ≤ m.payload.length ∧
        (asLong ((h.payload m).u64 8) < 0 → 20 ≤ m.payload.length))) := by
  have log := printed_inside h m [(0, 4), (8, 8)] (by decide)
  have size : reach [(0, 4), (8, 8)] = 16 := rfl
  simp only [handleSysSendmsgReply, allInside_guarded, allInside_append, log, size,
    guestReply_inside, allInside_cons, inside_bytes, allInside_ite, allInside_nil, payload_length,
    implies_true, and_true, ForGuest]
  grind

theorem handleSysRecvmsgReply_inside (h : Host) (m : Message) :
    AllInside (handleSysRecvmsgReply h m) ↔ (m.payload ≠ [] → Printed h m 16 ∧ ForGuest h m
      (16 ≤ m.payload.length ∧
        (asLong ((h.payload m).u64 8) < 0 → 20 ≤ m.payload.length) ∧
        (0 < received h m → h.kmalloc .buffer = true →
          152 + received h m ≤ m.payload.length))) := by
  have log := printed_inside h m [(0, 4), (8, 8)] (by decide)
  have size : reach [(0, 4), (8, 8)] = 16 := rfl
  simp only [handleSysRecvmsgReply, allInside_guarded, allInside_append, log, size,
    guestReply_inside, allInside_cons, inside_bytes, allInside_ite, allInside_nil, payload_length,
    implies_true, and_true, and_imp, ForGuest]
  grind

/-! ### Replies to a pending slot -/

/-- The registry is searched with the id, and what follows is read for the slot that has it. -/
def ForSlot (h : Host) (m : Message) (P : Slot → Prop) : Prop :=
  h.slots ≠ [] → 8 ≤ m.payload.length ∧
    ∀ s ∈ h.slots.find? fun s => s.reqId == (h.payload m).u64 0, P s

theorem slotReply_inside (h : Host) (m : Message) (found : Slot → List Access) :
    AllInside (slotReply h m found) ↔ ForSlot h m fun s => AllInside (found s) := by
  simp only [slotReply, allInside_ite, allInside_cons, inside_bytes, allInside_nil,
    payload_length, List.isEmpty_iff, implies_true, true_and, ForSlot]
  cases h.slots.find? fun s => s.reqId == (h.payload m).u64 0 with
  | none => simp
  | some s => simp

theorem slotRead_inside (h : Host) (m : Message) (fields : Layout)
    (sized : ∀ f ∈ fields, 0 < f.2) :
    AllInside (slotReply h m fun _ => read (h.payload m) fields) ↔
      ForSlot h m fun _ => reach fields ≤ m.payload.length := by
  simp only [slotReply_inside, allInside_read _ _ sized, payload_length]

/-- The buffer of the slot, if it has one, takes `count` of its elements. -/
def Room (room : Option ℕ) (m : Message) (size count : ℕ) : Prop :=
  ∀ r ∈ room, count ≤ r ∧ size ≤ m.payload.length

theorem copyTo_inside (room : Option ℕ) (h : Host) (m : Message) (off len count : ℕ)
    (some : 0 < len) :
    AllInside (copyTo room (h.payload m) off len count) ↔ Room room m (off + len) count := by
  cases room with
  | none => simp [copyTo, Room]
  | some r =>
    have full : len ≠ 0 := by omega
    simp [copyTo, Room, full]

theorem handleVfsGetattrReply_inside (h : Host) (m : Message) :
    AllInside (handleVfsGetattrReply h m) ↔ (m.payload ≠ [] → ForSlot h m fun _ =>
      12 ≤ m.payload.length ∧ (asInt ((h.payload m).u32 8) = 0 → 48 ≤ m.payload.length)) := by
  have body := allInside_read (h.payload m)
    [(12, 4), (16, 8), (24, 8), (32, 4), (36, 4), (40, 4), (44, 4)] (by decide)
  have size : reach [(12, 4), (16, 8), (24, 8), (32, 4), (36, 4), (40, 4), (44, 4)] = 48 := rfl
  simp only [handleVfsGetattrReply, allInside_guarded, slotReply_inside, allInside_cons,
    inside_bytes, allInside_ite, body, size, allInside_nil, payload_length, implies_true, and_true,
    ForSlot]
  grind

theorem handleVfsReaddirReply_inside (h : Host) (m : Message) :
    AllInside (handleVfsReaddirReply h m) ↔ (m.payload ≠ [] → ForSlot h m fun s =>
      12 ≤ m.payload.length ∧ (asInt ((h.payload m).u32 8) = 0 →
        28 ≤ m.payload.length ∧ (0 < (h.payload m).u32 24 →
          Room s.dirents m (32 + 88 * (h.payload m).u32 24) ((h.payload m).u32 24)))) := by
  have head := allInside_read (h.payload m) [(16, 8), (24, 4)] (by decide)
  have size : reach [(16, 8), (24, 4)] = 28 := rfl
  have entries (s : Slot) (some : 0 < (h.payload m).u32 24) := copyTo_inside s.dirents h m 32
    (88 * (h.payload m).u32 24) ((h.payload m).u32 24) (by omega)
  simp only [handleVfsReaddirReply, allInside_guarded, slotReply_inside, allInside_cons,
    inside_bytes, allInside_append, allInside_ite, head, size, allInside_nil, payload_length,
    implies_true, and_true, ForSlot]
  grind

theorem handleVfsReadReply_inside (h : Host) (m : Message) :
    AllInside (handleVfsReadReply h m) ↔ (m.payload ≠ [] → ForSlot h m fun s =>
      16 ≤ m.payload.length ∧ (0 < asLong ((h.payload m).u64 8) →
        Room s.dataBuf m (20 + (h.payload m).u64 8) ((h.payload m).u64 8))) := by
  have data (s : Slot) (positive : 0 < asLong ((h.payload m).u64 8)) := copyTo_inside s.dataBuf h m
    20 ((h.payload m).u64 8) ((h.payload m).u64 8)
    (Nat.pos_of_ne_zero (asLong_pos _ ((h.payload m).u64_lt 8) positive).2)
  simp only [handleVfsReadReply, allInside_guarded, slotReply_inside, allInside_cons,
    inside_bytes, allInside_ite, allInside_nil, payload_length, implies_true, and_true, ForSlot]
  grind

theorem pageReply_inside (h : Host) (m : Message) :
    AllInside (pageReply h m) ↔ ForSlot h m fun s => 12 ≤ m.payload.length ∧
      (asInt ((h.payload m).u32 8) = 0 → Room s.dataBuf m 4108 4096) := by
  have page (s : Slot) := copyTo_inside s.dataBuf h m 12 pageSize pageSize (by decide)
  simp only [pageReply, slotReply_inside, allInside_cons, inside_bytes, allInside_ite, page,
    allInside_nil, payload_length, implies_true, and_true, ForSlot]
  grind

/-- The pid of the reply is that of a guest of the sender. -/
def UnlinksForGuest (h : Host) (m : Message) : Prop :=
  (h.payload m).u32 8 ≠ 0 ∧
    (h.guests.any fun g => g.origPid == (h.payload m).u32 8 && g.homeNode == sender m) = true

theorem handleSysUnlinkReply_inside (h : Host) (m : Message) :
    AllInside (handleSysUnlinkReply h m) ↔ (m.payload ≠ [] → Printed h m 16 ∧
      12 ≤ m.payload.length ∧
      ((h.payload m).u64 0 ≠ 0 → ForSlot h m fun _ => 16 ≤ m.payload.length) ∧
      (UnlinksForGuest h m → 16 ≤ m.payload.length)) := by
  have log := printed_inside h m [(12, 4)] (by decide)
  have size : reach [(12, 4)] = 16 := rfl
  simp only [handleSysUnlinkReply, allInside_guarded, allInside_cons, inside_bytes,
    allInside_append, log, size, allInside_ite, slotReply_inside, allInside_nil, payload_length,
    implies_true, and_true, true_and, UnlinksForGuest, ForSlot]
  grind

/-! ### Shared memory -/

@[simp] theorem pageAccess_inside (h : Host) (m : Message) (off : ℕ) :
    (pageAccess h m off).Inside ↔ (h.payload m).u64 off < 1048576 := by
  simp only [pageAccess, inside_index, pageIdx, pageSize, maxDsmPages]
  omega

/-- The mask has a word for every 64 nodes. -/
theorem maskWord_inside (m : Message) (near : sender m < maxNodes) :
    (Access.index (maxNodes / 64) ((asInt (sender m)).tdiv 64)).Inside := by
  have nodes : maxNodes = 1024 := rfl
  have range := asInt_range (sender m) (sender_lt m)
  have value : asInt (sender m) = sender m := by omega
  rw [inside_index, value, Int.tdiv_eq_ediv_of_nonneg (by omega)]
  omega

/-- Page numbers are only bounded by what the deputy has mapped. -/
def FaultFits (h : Host) (m : Message) : Prop :=
  let known (i : ℕ) := ((h.directory i).entry ((h.payload m).u32 12)).isSome = true
  (known 0 → (h.payload m).u64 16 < 1048576) ∧
    (∀ n ∈ ownerNode h m, 0 ≤ n ∧ n < maxNodes) ∧
    (pumpAnswers h m = true → sender m < maxNodes ∧
      (h.pumped = true → known 1 ∨ (h.directory 1).free = true →
        (h.payload m).u64 16 < 1048576))

/-- The offset lies in the segment, and the home node keeps a directory. -/
def Synced (h : Host) (m : Message) : Prop :=
  (∃ addr ∈ inSegment h ((h.payload m).u32 8) ((h.payload m).u32 12) ((h.payload m).u64 16),
    addr ≠ 0) ∧ h.dsmMode = 2

theorem flushFirst_inside (h : Host) (m : Message) :
    AllInside (flushFirst h m) ↔
      (((h.directory 0).entry ((h.payload m).u32 12)).isSome = true →
        (h.payload m).u64 16 < 1048576) ∧ ∀ n ∈ ownerNode h m, 0 ≤ n ∧ n < maxNodes := by
  simp only [flushFirst, allInside_ite, allInside_cons, pageAccess_inside, allInside_nil,
    implies_true, and_true]
  cases found : (h.directory 0).entry ((h.payload m).u32 12) with
  | none => simp [ownerNode, found]
  | some t =>
    cases ownerNode h m with
    | none => simp
    | some n => simp

theorem noteReader_inside (h : Host) (m : Message) (near : sender m < maxNodes) :
    AllInside (noteReader h m) ↔ (h.pumped = true →
      ((h.directory 1).entry ((h.payload m).u32 12)).isSome = true ∨ (h.directory 1).free = true →
        (h.payload m).u64 16 < 1048576) := by
  simp only [noteReader, allInside_ite, allInside_cons, pageAccess_inside, maskWord_inside m near,
    allInside_nil, implies_true, and_true, Bool.and_eq_true, Bool.or_eq_true, and_imp]

theorem faultKworker_inside (h : Host) (m : Message) :
    AllInside (faultKworker h m) ↔ (h.kmalloc .reply = true →
      (Synced h m → FaultFits h m) ∧ (¬Synced h m → sender m < maxNodes)) := by
  simp only [faultKworker, allInside_ite, allInside_nil, implies_true, and_true]
  refine imp_congr_right fun _ => ?_
  cases place : inSegment h ((h.payload m).u32 8) ((h.payload m).u32 12) ((h.payload m).u64 16) with
  | none => simp [Synced, place]
  | some addr =>
    have synced : Synced h m ↔ addr ≠ 0 ∧ h.dsmMode = 2 := by simp [Synced, place]
    have note := noteReader_inside h m
    simp only [synced, allInside_ite, allInside_append, flushFirst_inside, allInside_cons,
      inside_targetLink, allInside_nil, implies_true, and_true, FaultFits]
    grind

theorem handleDsmPageFaultReq_inside (h : Host) (m : Message) :
    AllInside (handleDsmPageFaultReq h m) ↔ Printed h m 24 ∧ (h.kmalloc .ctx = true →
      24 ≤ m.payload.length ∧ (h.kmalloc .reply = true →
        (Synced h m → FaultFits h m) ∧ (¬Synced h m → sender m < maxNodes))) := by
  rw [handleDsmPageFaultReq, allInside_append, printed_inside _ _ _ (by decide),
    allInside_dispatch, allInside_read _ _ (by decide), faultKworker_inside]
  exact Iff.rfl

theorem handleDsmWriteAcquireReq_inside (h : Host) (m : Message) :
    AllInside (handleDsmWriteAcquireReq h m) ↔ (h.kmalloc .ctx = true →
      24 ≤ m.payload.length ∧ sender m < maxNodes ∧
      (((h.directory 0).entry ((h.payload m).u32 12)).isSome = true →
        (h.payload m).u64 16 < 1048576)) := by
  have body := allInside_read (h.payload m) [(0, 24)] (by decide)
  have size : reach [(0, 24)] = 24 := rfl
  simp only [handleDsmWriteAcquireReq, allInside_dispatch, body, size, writeAcquireKworker,
    allInside_append, allInside_ite, allInside_cons, pageAccess_inside, inside_targetLink,
    allInside_nil, payload_length, implies_true, and_true]
  grind

/-- Some guest but the writer has the segment mapped. -/
def MappedByOther (h : Host) (m : Message) : Prop :=
  ∃ g ∈ h.guests, g.origPid ≠ (h.payload m).u32 8 ∧ (h.payload m).u32 12 ∈ g.shmids

theorem invalidateKworker_inside (h : Host) (m : Message) :
    AllInside (invalidateKworker h m) ↔
      (MappedByOther h m → (h.payload m).u64 16 < 1048576) := by
  rw [← pageAccess_inside]
  constructor
  · intro inside mapped
    obtain ⟨g, guest, other, has⟩ := mapped
    refine inside _ (List.mem_flatMap.mpr ⟨g, guest, ?_⟩)
    rw [if_neg other, List.mem_flatMap]
    exact ⟨_, has, by simp⟩
  · intro small a member
    obtain ⟨g, guest, found⟩ := List.mem_flatMap.mp member
    split_ifs at found with writer
    · simp at found
    · obtain ⟨shmid, has, here⟩ := List.mem_flatMap.mp found
      split_ifs at here with same
      · rw [List.mem_singleton.mp here]
        exact small ⟨g, guest, writer, same ▸ has⟩
      · simp at here

theorem handleDsmInvalidateReq_inside (h : Host) (m : Message) :
    AllInside (handleDsmInvalidateReq h m) ↔ (h.kmalloc .ctx = true →
      24 ≤ m.payload.length ∧ (MappedByOther h m → (h.payload m).u64 16 < 1048576)) := by
  rw [handleDsmInvalidateReq, allInside_dispatch, allInside_read _ _ (by decide),
    invalidateKworker_inside]
  exact Iff.rfl

/-- The first guest of the pid has the segment mapped. -/
def MappedByOwner (h : Host) (m : Message) : Prop :=
  ∃ g ∈ h.guests.find? fun g => g.origPid == (h.payload m).u32 8, (h.payload m).u32 12 ∈ g.shmids

theorem handleDsmFlushReq_inside (h : Host) (m : Message) :
    AllInside (handleDsmFlushReq h m) ↔ (h.kmalloc .ctx = true → 24 ≤ m.payload.length ∧
      (h.kmalloc .reply = true → sender m < maxNodes ∧
        (MappedByOwner h m → (h.payload m).u64 16 < 1048576))) := by
  have body := allInside_read (h.payload m) [(0, 24)] (by decide)
  have size : reach [(0, 24)] = 24 := rfl
  simp only [handleDsmFlushReq, allInside_dispatch, body, size, flushKworker, allInside_append,
    allInside_ite, allInside_cons, inside_targetLink, allInside_nil, payload_length, implies_true,
    and_true, MappedByOwner]
  cases h.guests.find? fun g => g.origPid == (h.payload m).u32 8 with
  | none => simp
  | some g =>
    simp only [allInside_ite, allInside_cons, pageAccess_inside, allInside_nil, implies_true,
      and_true, Option.mem_def, Option.some.injEq, exists_eq_left']
    grind

/-- The offset of the page lies in the segment, and the directory has it. -/
def Cleaned (h : Host) (m : Message) : Prop :=
  (inSegment h ((h.payload m).u32 0) ((h.payload m).u32 4) ((h.payload m).u64 8)).isSome = true ∧
    h.dsmMode = 2 ∧ ((h.directory 0).entry ((h.payload m).u32 4)).isSome = true

theorem handleDsmPageUpdate_inside (h : Host) (m : Message) :
    AllInside (handleDsmPageUpdate h m) ↔ (h.kmalloc .ctx = true → 4112 ≤ m.payload.length ∧
      (Cleaned h m → (h.payload m).u64 8 < 1048576)) := by
  have body := allInside_read (h.payload m) [(0, 4112)] (by decide)
  have size : reach [(0, 4112)] = 4112 := rfl
  simp only [handleDsmPageUpdate, allInside_dispatch, body, size, updateKworker, allInside_ite,
    allInside_cons, pageAccess_inside, allInside_nil, payload_length, implies_true, and_true,
    Cleaned]

/-! ### Nodes and processes -/

theorem handleHeartbeat_inside (h : Host) (m : Message) : AllInside (handleHeartbeat h m) := by
  simp only [handleHeartbeat, allInside_ite, allInside_cons, inside_senderLink, allInside_nil,
    implies_true, and_true, and_imp, imp_self]

theorem handleLoadUpdate_inside (h : Host) (m : Message) :
    AllInside (handleLoadUpdate h m) ↔
      (sender m < maxNodes → m.payload ≠ [] → 16 ≤ m.payload.length) := by
  simp only [handleLoadUpdate, allInside_ite, allInside_cons, inside_bytes, inside_senderLink,
    allInside_nil, payload_length, implies_true, and_true, and_imp]
  grind

theorem handleProcessExit_inside (h : Host) (m : Message) :
    AllInside (handleProcessExit h m) ↔ (m.payload ≠ [] → 4 ≤ m.payload.length) := by
  rw [handleProcessExit, allInside_guarded, allInside_read _ _ (by decide)]
  exact Iff.rfl

theorem handleKillSurrogate_inside (h : Host) (m : Message) :
    AllInside (handleKillSurrogate h m) ↔ (m.payload ≠ [] → ForGuest h m True) := by
  simp only [handleKillSurrogate, allInside_guarded, guestReply_inside, allInside_nil]

/-- A surrogate of the sender's guest is there and can be captured. -/
def Captured (h : Host) (m : Message) : Prop :=
  ∃ g ∈ h.guests.find? fun g => g.origPid == (h.payload m).u32 0 && g.homeNode == sender m,
    ((h.home 0).task g.localPid).isSome = true ∧ h.kmalloc .buffer = true

theorem handleRecallReq_inside (h : Host) (m : Message) :
    AllInside (handleRecallReq h m) ↔ (m.payload ≠ [] → 4 ≤ m.payload.length ∧
      (Captured h m → sender m < maxNodes)) := by
  simp only [handleRecallReq, allInside_guarded, allInside_append, guestReply_inside,
    allInside_nil, Captured, ForGuest]
  cases found : h.guests.find? fun g =>
      g.origPid == (h.payload m).u32 0 && g.homeNode == sender m with
  | none =>
    simp only [allInside_cons, inside_bytes, allInside_nil, payload_length, and_true]
    grind
  | some g =>
    have guests : h.guests ≠ [] := List.ne_nil_of_mem (List.mem_of_find?_eq_some found)
    simp only [allInside_ite, allInside_cons, inside_bytes, inside_targetLink, allInside_nil,
      payload_length, implies_true, and_true, Option.mem_def, Option.some.injEq, exists_eq_left']
    grind

theorem handleReadyForData_inside (h : Host) (m : Message) :
    AllInside (handleReadyForData h m) ↔
      ∀ n ∈ h.migrating, n ≠ -1 → 0 ≤ n ∧ n < maxNodes := by
  cases target : h.migrating with
  | none => simp [handleReadyForData, target]
  | some n => simp [handleReadyForData, target]

/-! ### Blueprints -/

theorem handleMigrateReq_inside (h : Host) (m : Message) :
    AllInside (handleMigrateReq h m) ↔ (m.payload ≠ [] → Printed h m 4) := by
  have log := printed_inside h m [(0, 4)] (by decide)
  have size : reach [(0, 4)] = 4 := rfl
  simp [handleMigrateReq, log, size]

/-- The page has the bytes that the stub's memory takes of those it claims. -/
def PageFits (h : Host) (m : Message) : Prop :=
  let count := min ((h.payload m).u32 8) (h.injectable ((h.payload m).u64 0))
  12 ≤ m.payload.length ∧ (count = 0 ∨ 16 + count ≤ m.payload.length)

theorem handlePageTransfer_inside (h : Host) (m : Message) :
    AllInside (handlePageTransfer h m) ↔
      (m.payload ≠ [] → h.pending.isSome = true → h.stub.isSome = true → PageFits h m) := by
  simp only [handlePageTransfer, allInside_ite, allInside_cons, inside_bytes, allInside_nil,
    payload_length, implies_true, and_true, and_imp, PageFits]
  grind

theorem handleReturnBlueprint_inside (h : Host) (m : Message) :
    AllInside (handleReturnBlueprint h m) ↔ (m.payload ≠ [] → Printed h m 4 ∧
      (h.kmalloc .buffer = true → 4 ≤ m.payload.length ∧
        ∀ t ∈ (h.home 0).task ((h.payload m).u32 0), 20 ≤ m.payload.length ∧ sender m < maxNodes ∧
          (t.mm = true → 21084 ≤ m.payload.length ∧ ((h.payload m).u32 21080 = 0 ∨
            21077 + 32 * (h.payload m).u32 21080 ≤ m.payload.length)))) := by
  have log := printed_inside h m [(0, 4)] (by decide)
  have logSize : reach [(0, 4)] = 4 := rfl
  have record (i : ℕ) := allInside_read (h.payload m)
    [(vmaAt i, 8), (vmaAt i + 8, 8), (vmaAt i + 16, 8)] (by simp)
  have size (i : ℕ) : reach [(vmaAt i, 8), (vmaAt i + 8, 8), (vmaAt i + 16, 8)] =
      21085 + 32 * i + 24 := by
    simp only [reach, List.map_cons, List.map_nil, List.foldr_cons, List.foldr_nil, vmaAt]
    omega
  have last := records_le 21085 32 24 ((h.payload m).u32 21080) m.payload.length
  simp only [handleReturnBlueprint, allInside_guarded, allInside_append, log, logSize,
    allInside_ite, allInside_cons, inside_bytes, allInside_nil, payload_length, implies_true,
    and_true]
  cases (h.home 0).task ((h.payload m).u32 0) with
  | none => simp
  | some t =>
    simp only [allInside_cons, allInside_append, allInside_ite, allInside_each, record, size,
      inside_bytes, inside_targetLink, allInside_nil, payload_length, implies_true, and_true, last,
      Option.mem_def, Option.some.injEq, forall_eq']
    grind

/-- All of a thread but its name lies in the first 19732 bytes. -/
theorem injectThread_inside (p : Buffer) (fpstate : Option ℕ) (i : ℕ) (long : 19732 ≤ p.length) :
    AllInside (injectThread p fpstate i) ↔
      i < maxGangThreads ∧ (Access.strscpy p 19780 16).Inside := by
  have gang : maxGangThreads = 16 := rfl
  have body := allInside_read p
    [(threadAt i + 4, 168), (threadAt i + 172, 8), (threadAt i + 180, 8), (threadAt i + 188, 8),
      (threadAt i + 196, 8)] (by simp)
  have size : reach [(threadAt i + 4, 168), (threadAt i + 172, 8), (threadAt i + 180, 8),
      (threadAt i + 188, 8), (threadAt i + 196, 8)] = 20 + 1232 * i + 204 := by
    simp only [reach, List.map_cons, List.map_nil, List.foldr_cons, List.foldr_nil, threadAt]
    omega
  have words (room : ℕ) (small : i < 16) : AllInside [Access.bytes p (threadAt i + 204) 4,
      .bytes p (threadAt i + 208) (min (min (p.u32 (threadAt i + 204)) room) 1024)] := by
    simp only [allInside_cons, inside_bytes, allInside_nil, and_true]
    simp only [threadAt]
    omega
  have plain (as : List Access) (fpu : i < 16 → AllInside as) :
      ((((i < maxGangThreads → 0 ≤ (i : ℤ) ∧ (i : ℤ) < maxGangThreads) ∧
        (0 ≤ (i : ℤ) ∧ (i : ℤ) < maxGangThreads) ∧ 20 + 1232 * i + 204 ≤ p.length) ∧
        AllInside as) ∧ (Access.strscpy p 19780 16).Inside) ↔
        i < maxGangThreads ∧ (Access.strscpy p 19780 16).Inside := by
    constructor
    · intro inside
      exact ⟨by omega, inside.2⟩
    · intro fits
      have small : i < 16 := fits.1
      exact ⟨⟨⟨by omega, by omega, by omega⟩, fpu small⟩, fits.2⟩
  cases fpstate with
  | none =>
    simp only [injectThread, allInside_append, allInside_ite, allInside_cons, inside_index, body,
      size, allInside_nil, implies_true, and_true]
    have whole := plain [] fun _ => allInside_nil
    simpa only [allInside_nil, and_true] using whole
  | some room =>
    simp only [injectThread, allInside_append, allInside_ite, allInside_cons, inside_index, body,
      size, allInside_nil, implies_true, and_true]
    have whole := plain _ (words room)
    simpa only [allInside_cons, allInside_nil, and_true] using whole

theorem threads_inside (p : Buffer) (fpstate : Option ℕ) (n : ℕ) (long : 19732 ≤ p.length) :
    AllInside (each n (injectThread p fpstate)) ↔
      n ≤ maxGangThreads ∧ (0 < n → (Access.strscpy p 19780 16).Inside) := by
  simp only [allInside_each, injectThread_inside p fpstate _ long]
  constructor
  · intro all
    refine ⟨?_, fun some => (all 0 some).2⟩
    by_contra many
    exact absurd (all maxGangThreads (by omega)).1 (lt_irrefl _)
  · intro few i small
    exact ⟨by omega, few.2 (by omega)⟩

theorem tidWords_inside (p : Buffer) (is : List ℕ) (count : ℕ) (long : 19732 ≤ p.length)
    (few : ∀ i ∈ is, i < 16) : AllInside (tidWords p count is) := by
  induction is generalizing count with
  | nil => exact allInside_nil
  | cons i is ih =>
    have rest (count : ℕ) := ih count fun j member => few j (List.mem_cons_of_mem _ member)
    have small := few i List.mem_cons_self
    have gang : maxGangThreads = 16 := rfl
    simp only [tidWords, allInside_ite, allInside_cons, inside_index, inside_bytes, rest, and_true,
      implies_true]
    simp only [threadAt]
    omega

theorem armTripwires_inside (p : Buffer) (vs : List ℕ) (count : ℕ) :
    AllInside (armTripwires p count vs) ↔ ∀ v ∈ vs, 21085 + 32 * v + 29 ≤ p.length := by
  induction vs generalizing count with
  | nil => simp [armTripwires]
  | cons v vs ih =>
    have body := allInside_read p [(vmaAt v, 8), (vmaAt v + 8, 8), (vmaAt v + 24, 4)] (by simp)
    have size :
        reach [(vmaAt v, 8), (vmaAt v + 8, 8), (vmaAt v + 24, 4)] = 21085 + 32 * v + 28 := by
      simp only [reach, List.map_cons, List.map_nil, List.foldr_cons, List.foldr_nil, vmaAt]
      omega
    simp only [armTripwires, allInside_cons, inside_bytes, allInside_ite, allInside_append,
      inside_index, body, size, ih, List.forall_mem_cons]
    simp only [vmaAt]
    grind

theorem injectFiles_inside (h : Host) (p : Buffer) (s : Stub) :
    AllInside (injectFiles h p s) ↔ 20056 ≤ p.length ∧ (h.kmalloc .files = true →
      p.u32 20052 ≤ maxFds ∧ 20056 + 4 * p.u32 20052 ≤ p.length) := by
  have fds : maxFds = 256 := rfl
  simp only [injectFiles, allInside_cons, inside_bytes, allInside_ite, allInside_append,
    allInside_each, inside_index, allInside_nil, implies_true, and_true]
  constructor
  · intro inside
    refine ⟨by omega, fun allocated => ?_⟩
    have all := (inside.2 allocated).1
    by_cases none : p.u32 20052 = 0
    · omega
    · have last := all (p.u32 20052 - 1) (by omega)
      simp only [fdAt] at last
      omega
  · intro fits
    refine ⟨by omega, fun allocated => ?_⟩
    have few := fits.2 allocated
    refine ⟨fun i small => by simp only [fdAt]; omega, ?_⟩
    split
    · rw [allInside_each]
      intro i small
      simp only [allInside_cons, inside_index, inside_bytes, allInside_ite, allInside_nil,
        implies_true, and_true]
      simp only [fdAt]
      omega
    · exact allInside_nil

theorem populateMaps_inside (h : Host) (p : Buffer) (s : Stub) (long : 20056 ≤ p.length) :
    AllInside (populateMaps h p s) ↔ (registers h s = true →
      min (p.u32 16) s.awake ≤ maxGangThreads ∧ (s.mm = true → 21084 ≤ p.length ∧
        (p.u32 21080 = 0 ∨ 21082 + 32 * p.u32 21080 ≤ p.length))) := by
  have last := records_le 21085 32 29 (p.u32 21080) p.length
  have gang : maxGangThreads = 16 := rfl
  have threads : AllInside (each (min (p.u32 16) s.awake) fun i =>
      [Access.index maxGangThreads i, .bytes p (threadAt i) 4]) ↔
        min (p.u32 16) s.awake ≤ maxGangThreads := by
    simp only [allInside_each, allInside_cons, inside_index, inside_bytes, allInside_nil, and_true,
      threadAt]
    constructor
    · intro all
      by_contra many
      have out := all maxGangThreads (by omega)
      omega
    · intro few i small
      omega
  simp only [populateMaps, allInside_append, allInside_ite, allInside_cons, inside_index,
    inside_bytes, threads, armTripwires_inside, List.mem_range, last, allInside_nil, implies_true,
    and_true]
  grind

/-- The blueprint has its fixed part, its counts are those of its arrays, and the gang is no larger
than the arrays of threads. -/
def AwakeningFits (h : Host) (s : Stub) (p : Buffer) : Prop :=
  20056 ≤ p.length ∧ min (p.u32 16) s.threads ≤ maxGangThreads ∧
    (h.kmalloc .files = true → p.u32 20052 ≤ maxFds ∧ 20056 + 4 * p.u32 20052 ≤ p.length) ∧
    (registers h s = true → min (p.u32 16) s.awake ≤ maxGangThreads ∧
      (s.mm = true → 21084 ≤ p.length ∧
        (p.u32 21080 = 0 ∨ 21082 + 32 * p.u32 21080 ≤ p.length)))

theorem handleMigrateDone_inside (h : Host) (m : Message) :
    AllInside (handleMigrateDone h m) ↔
      ∀ s ∈ h.stub, ∀ p ∈ h.pending, AwakeningFits h s p := by
  cases stub : h.stub with
  | none => simp [handleMigrateDone, stub]
  | some s =>
    cases saved : h.pending with
    | none => simp [handleMigrateDone, stub, saved]
    | some p =>
      have heap := allInside_read p [(19732, 8), (19740, 8), (19748, 8), (19756, 8)] (by decide)
      have heapSize : reach [(19732, 8), (19740, 8), (19748, 8), (19756, 8)] = 19764 := rfl
      have ids := allInside_read p [(4, 4), (8, 4)] (by decide)
      have idsSize : reach [(4, 4), (8, 4)] = 12 := rfl
      simp only [handleMigrateDone, stub, saved, allInside_cons, allInside_append, inside_bytes,
        allInside_ite, heap, heapSize, ids, idsSize, injectFiles_inside, allInside_nil,
        implies_true, and_true, Option.mem_def, Option.some.injEq, forall_eq', AwakeningFits]
      by_cases long : 20056 ≤ p.length
      · have name : (Access.strscpy p 19780 16).Inside := Or.inl (by omega)
        have first : threadAt 0 = 20 := rfl
        simp only [threads_inside p s.fpstate _ (by omega), populateMaps_inside h p s long, name,
          implies_true, and_true, long, true_and, first]
        grind
      · grind

/-- The name of the process ends with the blueprint or before. -/
def ReturnFits (s : Stub) (p : Buffer) : Prop :=
  19780 ≤ p.length ∧ min (p.u32 16) s.threads ≤ maxGangThreads ∧
    (0 < min (p.u32 16) s.threads → (Access.strscpy p 19780 16).Inside)

theorem handleReturnDone_inside (h : Host) (m : Message) :
    AllInside (handleReturnDone h m) ↔ ∀ s ∈ h.stub, ∀ p ∈ h.pending, ReturnFits s p := by
  cases stub : h.stub with
  | none => simp [handleReturnDone, stub]
  | some s =>
    cases saved : h.pending with
    | none => simp [handleReturnDone, stub, saved]
    | some p =>
      have heap := allInside_read p [(19748, 8), (19756, 8)] (by decide)
      have heapSize : reach [(19748, 8), (19756, 8)] = 19764 := rfl
      simp only [handleReturnDone, stub, saved, allInside_cons, allInside_append, inside_bytes,
        allInside_ite, heap, heapSize, allInside_nil, implies_true, and_true, Option.mem_def,
        Option.some.injEq, forall_eq', ReturnFits]
      by_cases long : 19780 ≤ p.length
      · have words (few : min (p.u32 16) s.threads ≤ maxGangThreads) :
            AllInside (tidWords p 0 (List.range (min (p.u32 16) s.threads))) :=
          tidWords_inside p _ 0 (by omega) fun i member =>
            (List.mem_range.mp member).trans_le few
        simp only [threads_inside p s.fpstate _ (by omega)]
        grind
      · grind

/-! ### All types -/

/-- What a message of a type must have for its handler; every number is the end of a structure. -/
def TypeFits (h : Host) (m : Message) : MsgType → Prop
  | .heartbeat | .dsmInvalidateReply => True
  | .migrateReq => m.payload ≠ [] → Printed h m 4
  | .loadUpdate => sender m < maxNodes → m.payload ≠ [] → 16 ≤ m.payload.length
  | .readyForData => ∀ n ∈ h.migrating, n ≠ -1 → 0 ≤ n ∧ n < maxNodes
  | .pageTransfer => m.payload ≠ [] → h.pending.isSome = true → h.stub.isSome = true → PageFits h m
  | .migrateDone => ∀ s ∈ h.stub, ∀ p ∈ h.pending, AwakeningFits h s p
  | .returnDone => ∀ s ∈ h.stub, ∀ p ∈ h.pending, ReturnFits s p
  | .processExit => m.payload ≠ [] → 4 ≤ m.payload.length
  | .killSurrogate => m.payload ≠ [] → ForGuest h m True
  | .recallReq => m.payload ≠ [] → 4 ≤ m.payload.length ∧ (Captured h m → sender m < maxNodes)
  | .returnBlueprint => m.payload ≠ [] → Printed h m 4 ∧
      (h.kmalloc .buffer = true → 4 ≤ m.payload.length ∧
        ∀ t ∈ (h.home 0).task ((h.payload m).u32 0), 20 ≤ m.payload.length ∧ sender m < maxNodes ∧
          (t.mm = true → 21084 ≤ m.payload.length ∧ ((h.payload m).u32 21080 = 0 ∨
            21077 + 32 * (h.payload m).u32 21080 ≤ m.payload.length)))
  | .syscallFwd => m.payload ≠ [] → LookupFits h m ∧ (fileFound h m = true →
      12 + min ((h.payload m).u32 8) h.taken ≤ m.payload.length)
  | .sysReadReq => m.payload ≠ [] → LookupFits h m ∧
      (fileFound h m = true → 16 ≤ m.payload.length) ∧
      ((fileFound h m = true → h.kmalloc .buffer = true ∧ h.kmalloc .reply = true) →
        sender m < maxNodes)
  | .sysCloseReq => m.payload ≠ [] → LookupFits h m
  | .sysUnameReq => 4 ≤ m.payload.length ∧ sender m < maxNodes
  | .sysUnlinkReq => m.payload ≠ [] → Terminated m 20 ∧ sender m < maxNodes
  | .vfsGetattrReq => m.payload ≠ [] → Terminated m 8 ∧ sender m < maxNodes
  | .vfsReaddirReq => m.payload ≠ [] → h.kmalloc .reply = true →
      Terminated m 16 ∧ sender m < maxNodes
  | .vfsOpenReq => m.payload ≠ [] → Terminated m 24 ∧ sender m < maxNodes
  | .vfsReadReq => m.payload ≠ [] → MfsFits h m 8 ∧ (mfsFound h m 8 = true →
      24 ≤ m.payload.length ∧ (h.kmalloc .buffer = true →
        32 ≤ m.payload.length ∧ (h.kmalloc .reply = true → sender m < maxNodes)))
  | .vfsWriteReq => m.payload ≠ [] → MfsFits h m 8 ∧
      (mfsFound h m 8 = true → 32 + min ((h.payload m).u64 16) h.taken ≤ m.payload.length) ∧
      sender m < maxNodes
  | .vfsCloseReq => m.payload ≠ [] → MfsFits h m 0
  | .vfsLseekReq => m.payload ≠ [] → MfsServed h m 28
  | .vfsFsyncReq => m.payload ≠ [] → MfsServed h m 36
  | .sysOpenReq => m.payload ≠ [] → Dispatched h m 268 true ∧
      (h.kmalloc .ctx = true → h.debug = true → Terminated m 12)
  | .sysSocketReq => m.payload ≠ [] → Dispatched h m 16 true
  | .sysBindReq => m.payload ≠ [] → Dispatched h m 144 true
  | .sysConnectReq => m.payload ≠ [] → Dispatched h m 144 h.waitEnds
  | .sysListenReq | .sysAcceptReq => m.payload ≠ [] → Dispatched h m 12 true
  | .sysRecvReq => m.payload ≠ [] → Dispatched h m 20 (h.kmalloc .reply)
  | .sysRecvmsgReq => m.payload ≠ [] → Dispatched h m 24 (h.kmalloc .reply)
  | .sysSendReq => m.payload ≠ [] → 24 ≤ m.payload.length ∧
      Dispatched h m (24 + (h.payload m).u64 16) true
  | .sysSendmsgReq => m.payload ≠ [] → 24 ≤ m.payload.length ∧
      Dispatched h m (152 + (h.payload m).u64 16) true
  | .sysPollReq => m.payload ≠ [] → h.kmalloc .ctx = true → PollFits h m
  | .sysFstatfsReq | .sysPipe2Req => Dispatched h m 8 true
  | .sysDupReq | .sysShmctlReq => Dispatched h m 12 true
  | .sysStatxReq | .sysShmdtReq => Dispatched h m 16 true
  | .sysLseekReq | .sysShmgetReq | .sysShmatReq => Dispatched h m 24 true
  | .sysFsyncReq => Dispatched h m 32 true
  | .sysStatfsReq => Dispatched h m 260 true
  | .sysNewfstatatReq => Dispatched h m 268 true
  | .sysFaccessat2Req => Dispatched h m 272 true
  | .sysGetdents64Req => Dispatched h m 12 (h.kmalloc .reply)
  | .sysPread64Req => Dispatched h m 24 (h.kmalloc .reply)
  | .sysReadlinkReq | .sysReadlinkatReq => Dispatched h m 272 (h.kmalloc .reply)
  | .sysEpollCreateReq => m.payload ≠ [] → Injected h m 8 true
  | .sysEpollCtlReq => m.payload ≠ [] → Injected h m 28 true
  | .sysGetsocknameReq | .sysGetpeernameReq => Injected h m 8 true
  | .sysGetsockoptReq => Injected h m 20 (h.kmalloc .reply)
  | .sysSetsockoptReq => 4 ≤ m.payload.length ∧
      (((h.home 0).task ((h.payload m).u32 0)).isSome → 20 ≤ m.payload.length) ∧
      Injected h m (20 + asSize (asInt ((h.payload m).u32 16))) true
  | .sysPrlimit64Req => Injected h m 32 true
  | .sysPrctlReq => Injected h m 40 true
  | .sysFcntlReq | .sysIoctlReq => Injected h m 281 true
  | .sysEpollWaitReq => m.payload ≠ [] → h.kmalloc .ctx = true → 16 ≤ m.payload.length ∧
      (h.waitEnds = true → h.kmalloc .reply = true →
        (∀ t ∈ (h.home 2).task ((h.payload m).u32 0), h.kmalloc .buffer = true ∧
          h.taskWorkAdd = true ∧ t.takesWork = true) → sender m < maxNodes)
  | .sysOpenReply | .sysDupReply | .sysFsyncReply | .sysSocketReply | .sysConnectReply
  | .sysBindReply | .sysListenReply | .sysSendReply | .sysEpollCtlReply | .sysSetsockoptReply
  | .sysPrctlReply | .sysFaccessat2Reply =>
      m.payload ≠ [] → Printed h m 8 ∧ ForGuest h m (8 ≤ m.payload.length)
  | .sysEpollCreateReply => m.payload ≠ [] → ForGuest h m (12 ≤ m.payload.length)
  | .sysLseekReply => m.payload ≠ [] → Printed h m 16 ∧ ForGuest h m (16 ≤ m.payload.length)
  | .sysShmdtReply => ForGuest h m (8 ≤ m.payload.length)
  | .sysShmgetReply => ForGuest h m (12 ≤ m.payload.length)
  | .sysShmatReply => ForGuest h m (28 ≤ m.payload.length)
  | .sysFcntlReply | .sysIoctlReply => ForGuest h m (8 ≤ m.payload.length ∧
      (h.kmalloc .buffer = true → 264 ≤ m.payload.length))
  | .sysPollReply => m.payload ≠ [] → Printed h m 16 ∧ ForGuest h m (16 ≤ m.payload.length ∧
      (h.kmalloc .buffer = true → 272 ≤ m.payload.length))
  | .sysStatxReply => m.payload ≠ [] → Printed h m 8 ∧ Succeeds h m 264
  | .sysPipe2Reply => Succeeds h m 16
  | .sysPrlimit64Reply => Succeeds h m 24
  | .sysStatfsReply | .sysFstatfsReply => Succeeds h m 128
  | .sysShmctlReply => Succeeds h m 136
  | .sysGetsocknameReply | .sysGetpeernameReply => Succeeds h m 140
  | .sysNewfstatatReply => Succeeds h m 152
  | .sysUnameReply => Succeeds h m 398
  | .sysReadReply | .sysPread64Reply | .sysRecvReply =>
      m.payload ≠ [] → Printed h m 16 ∧ Counted h m 16 20 (asLong ((h.payload m).u64 8))
  | .sysReadlinkReply | .sysReadlinkatReply | .sysGetdents64Reply =>
      Counted h m 8 8 (asInt ((h.payload m).u32 4))
  | .sysEpollWaitReply => m.payload ≠ [] → Counted h m 8 8 (12 * asInt ((h.payload m).u32 4))
  | .sysGetsockoptReply => ForGuest h m (12 ≤ m.payload.length ∧
      (asInt ((h.payload m).u32 4) = 0 → 0 < asInt ((h.payload m).u32 8) →
        h.kmalloc .buffer = true → 12 + asInt ((h.payload m).u32 8) ≤ m.payload.length))
  | .sysAcceptReply => m.payload ≠ [] → Printed h m 8 ∧ ForGuest h m (12 ≤ m.payload.length ∧
      (asInt ((h.payload m).u32 8) = 0 → 148 ≤ m.payload.length))
  | .sysSendmsgReply => m.payload ≠ [] → Printed h m 16 ∧ ForGuest h m (16 ≤ m.payload.length ∧
      (asLong ((h.payload m).u64 8) < 0 → 20 ≤ m.payload.length))
  | .sysRecvmsgReply => m.payload ≠ [] → Printed h m 16 ∧ ForGuest h m (16 ≤ m.payload.length ∧
      (asLong ((h.payload m).u64 8) < 0 → 20 ≤ m.payload.length) ∧
      (0 < received h m → h.kmalloc .buffer = true →
        152 + received h m ≤ m.payload.length))
  | .vfsGetattrReply => m.payload ≠ [] → ForSlot h m fun _ => 12 ≤ m.payload.length ∧
      (asInt ((h.payload m).u32 8) = 0 → 48 ≤ m.payload.length)
  | .vfsReaddirReply => m.payload ≠ [] → ForSlot h m fun s => 12 ≤ m.payload.length ∧
      (asInt ((h.payload m).u32 8) = 0 → 28 ≤ m.payload.length ∧
        (0 < (h.payload m).u32 24 →
          Room s.dirents m (32 + 88 * (h.payload m).u32 24) ((h.payload m).u32 24)))
  | .vfsReadReply => m.payload ≠ [] → ForSlot h m fun s => 16 ≤ m.payload.length ∧
      (0 < asLong ((h.payload m).u64 8) →
        Room s.dataBuf m (20 + (h.payload m).u64 8) ((h.payload m).u64 8))
  | .vfsOpenReply => m.payload ≠ [] → ForSlot h m fun _ => 16 ≤ m.payload.length
  | .vfsWriteReply | .vfsLseekReply => m.payload ≠ [] → ForSlot h m fun _ => 20 ≤ m.payload.length
  | .vfsFsyncReply => m.payload ≠ [] → ForSlot h m fun _ => 12 ≤ m.payload.length
  | .sysUnlinkReply => m.payload ≠ [] → Printed h m 16 ∧ 12 ≤ m.payload.length ∧
      ((h.payload m).u64 0 ≠ 0 → ForSlot h m fun _ => 16 ≤ m.payload.length) ∧
      (UnlinksForGuest h m → 16 ≤ m.payload.length)
  | .dsmPageFaultReq => Printed h m 24 ∧ (h.kmalloc .ctx = true → 24 ≤ m.payload.length ∧
      (h.kmalloc .reply = true →
        (Synced h m → FaultFits h m) ∧ (¬Synced h m → sender m < maxNodes)))
  | .dsmPageUpdate => h.kmalloc .ctx = true → 4112 ≤ m.payload.length ∧
      (Cleaned h m → (h.payload m).u64 8 < 1048576)
  | .dsmWriteAcquireReq => h.kmalloc .ctx = true → 24 ≤ m.payload.length ∧
      sender m < maxNodes ∧ (((h.directory 0).entry ((h.payload m).u32 12)).isSome = true →
        (h.payload m).u64 16 < 1048576)
  | .dsmInvalidateReq => h.kmalloc .ctx = true → 24 ≤ m.payload.length ∧
      (MappedByOther h m → (h.payload m).u64 16 < 1048576)
  | .dsmFlushReq => h.kmalloc .ctx = true → 24 ≤ m.payload.length ∧
      (h.kmalloc .reply = true → sender m < maxNodes ∧
        (MappedByOwner h m → (h.payload m).u64 16 < 1048576))
  | .dsmWriteAcquireReply => ForSlot h m fun _ => 12 ≤ m.payload.length
  | .dsmPageFaultReply | .dsmFlushReply => ForSlot h m fun s => 12 ≤ m.payload.length ∧
      (asInt ((h.payload m).u32 8) = 0 → Room s.dataBuf m 4108 4096)

theorem guarded_iff {m : Message} {as : List Access} {P : Prop} (inside : AllInside as ↔ P) :
    AllInside (guarded m as) ↔ (m.payload ≠ [] → P) :=
  (allInside_guarded m as).trans (imp_congr_right fun _ => inside)

theorem printing_iff {h : Host} {m : Message} {fields : Layout} {as : List Access} {P : Prop}
    (sized : ∀ f ∈ fields, 0 < f.2) (inside : AllInside as ↔ P) :
    AllInside (printed h m fields ++ as) ↔ Printed h m (reach fields) ∧ P := by
  rw [allInside_append, printed_inside h m fields sized, inside]

theorem handlerOf_inside (h : Host) (m : Message) (t : MsgType) :
    AllInside (handlerOf h m t) ↔ TypeFits h m t := by
  cases t with
  | heartbeat => exact iff_true_intro (handleHeartbeat_inside h m)
  | migrateReq => exact handleMigrateReq_inside h m
  | dsmInvalidateReply => exact iff_true_intro allInside_nil
  | loadUpdate => exact handleLoadUpdate_inside h m
  | readyForData => exact handleReadyForData_inside h m
  | pageTransfer => exact handlePageTransfer_inside h m
  | migrateDone => exact handleMigrateDone_inside h m
  | returnDone => exact handleReturnDone_inside h m
  | processExit => exact handleProcessExit_inside h m
  | killSurrogate => exact handleKillSurrogate_inside h m
  | recallReq => exact handleRecallReq_inside h m
  | returnBlueprint => exact handleReturnBlueprint_inside h m
  | syscallFwd => exact handleSyscallFwd_inside h m
  | sysReadReq => exact handleSysReadReq_inside h m
  | sysCloseReq => exact guarded_iff (fileLookup_inside h m)
  | sysUnameReq => exact handleSysUnameReq_inside h m
  | sysUnlinkReq => exact handleSysUnlinkReq_inside h m
  | vfsGetattrReq => exact handleVfsGetattrReq_inside h m
  | vfsReaddirReq => exact handleVfsReaddirReq_inside h m
  | vfsOpenReq => exact handleVfsOpenReq_inside h m
  | vfsReadReq => exact handleVfsReadReq_inside h m
  | vfsWriteReq => exact handleVfsWriteReq_inside h m
  | vfsCloseReq => exact guarded_iff (mfsLookup_inside h m 0)
  | vfsLseekReq => exact handleVfsLseekReq_inside h m
  | vfsFsyncReq => exact handleVfsFsyncReq_inside h m
  -- requests that only differ in the structure that goes into the context
  | sysOpenReq => exact handleSysOpenReq_inside h m
  | sysSocketReq =>
    exact guarded_iff (kworkerReq_inside h m _ _ _ (by decide) allInside_nil)
  | sysBindReq | sysConnectReq | sysListenReq | sysAcceptReq | sysRecvReq =>
    exact guarded_iff (kworkerReq_inside h m _ _ _ (by decide) (allInside_onFile h m 4))
  | sysLseekReq | sysFsyncReq | sysStatxReq | sysDupReq | sysPread64Req =>
    exact kworkerReq_inside h m _ _ _ (by decide) (allInside_onFile h m 4)
  | sysFstatfsReq | sysNewfstatatReq | sysFaccessat2Req | sysReadlinkatReq | sysGetdents64Req =>
    exact kworkerReq_inside h m _ _ _ (by decide) (allInside_asDeputy h m 4)
  | sysStatfsReq | sysReadlinkReq | sysPipe2Req | sysShmgetReq | sysShmatReq | sysShmdtReq
  | sysShmctlReq =>
    exact kworkerReq_inside h m _ _ _ (by decide) allInside_nil
  | sysRecvmsgReq => exact handleSysRecvmsgReq_inside h m
  | sysSendReq => exact handleSysSendReq_inside h m
  | sysSendmsgReq => exact handleSysSendmsgReq_inside h m
  | sysPollReq => exact handleSysPollReq_inside h m
  | sysEpollCreateReq | sysEpollCtlReq =>
    exact guarded_iff (injectReq_inside h m _ _ (by decide))
  | sysGetsocknameReq | sysGetpeernameReq | sysGetsockoptReq | sysPrlimit64Req | sysPrctlReq
  | sysFcntlReq | sysIoctlReq =>
    exact injectReq_inside h m _ _ (by decide)
  | sysSetsockoptReq => exact handleSysSetsockoptReq_inside h m
  | sysEpollWaitReq => exact handleSysEpollWaitReq_inside h m
  -- replies of which a fixed structure is read
  | sysOpenReply | sysLseekReply | sysDupReply | sysFsyncReply | sysSocketReply | sysConnectReply
  | sysBindReply | sysListenReply | sysSendReply | sysEpollCtlReply | sysSetsockoptReply
  | sysPrctlReply | sysFaccessat2Reply =>
    exact guarded_iff (printing_iff (by decide) (guestRead_inside h m _ (by decide)))
  | sysEpollCreateReply => exact guarded_iff (guestRead_inside h m _ (by decide))
  | sysShmdtReply => exact guestRead_inside h m _ (by decide)
  | sysShmgetReply => exact handleSysShmgetReply_inside h m
  | sysShmatReply => exact handleSysShmatReply_inside h m
  | sysFcntlReply | sysIoctlReply => exact handleSysFioReply_inside h m
  | sysPollReply => exact handleSysPollReply_inside h m
  | sysStatxReply =>
    exact guarded_iff (printing_iff (by decide) (structReply_inside h m _ (by decide)))
  | sysGetsocknameReply | sysGetpeernameReply | sysUnameReply | sysPrlimit64Reply | sysStatfsReply
  | sysFstatfsReply | sysNewfstatatReply | sysPipe2Reply | sysShmctlReply =>
    exact structReply_inside h m _ (by decide)
  -- replies with a count of their own
  | sysReadReply | sysPread64Reply | sysRecvReply =>
    exact guarded_iff (printing_iff (by decide) (dataReply_inside h m))
  | sysReadlinkReply | sysReadlinkatReply | sysGetdents64Reply => exact linkReply_inside h m
  | sysEpollWaitReply => exact handleSysEpollWaitReply_inside h m
  | sysGetsockoptReply => exact handleSysGetsockoptReply_inside h m
  | sysAcceptReply => exact handleSysAcceptReply_inside h m
  | sysSendmsgReply => exact handleSysSendmsgReply_inside h m
  | sysRecvmsgReply => exact handleSysRecvmsgReply_inside h m
  | vfsGetattrReply => exact handleVfsGetattrReply_inside h m
  | vfsReaddirReply => exact handleVfsReaddirReply_inside h m
  | vfsReadReply => exact handleVfsReadReply_inside h m
  | vfsOpenReply | vfsWriteReply | vfsLseekReply | vfsFsyncReply =>
    exact guarded_iff (slotRead_inside h m _ (by decide))
  | sysUnlinkReply => exact handleSysUnlinkReply_inside h m
  | dsmPageFaultReq => exact handleDsmPageFaultReq_inside h m
  | dsmPageUpdate => exact handleDsmPageUpdate_inside h m
  | dsmWriteAcquireReq => exact handleDsmWriteAcquireReq_inside h m
  | dsmInvalidateReq => exact handleDsmInvalidateReq_inside h m
  | dsmFlushReq => exact handleDsmFlushReq_inside h m
  | dsmWriteAcquireReply => exact slotRead_inside h m _ (by decide)
  | dsmPageFaultReply | dsmFlushReply => exact pageReply_inside h m

/-- Types that the table of handlers does not know fit whatever they have. -/
def Fits (h : Host) (m : Message) : Prop := ∀ t ∈ msgType m.type, TypeFits h m t

/-- A handler stays inside its message, its arrays and its tables for the messages that fit, and
for no others. -/
theorem inside_iff_fits (h : Host) (m : Message) : AllInside (handleMessage h m) ↔ Fits h m := by
  simp only [handleMessage, Fits]
  cases msgType m.type with
  | none => simp
  | some t =>
    simp only [handlerOf_inside, Option.mem_def, Option.some.injEq, forall_eq']

/-- What `mattx_receiver_loop` passes on for a type below 256. -/
def Accepted (m : Message) : Prop :=
  m.type.toNat < 256 ∧ m.payload.length ≤ MessageFraming.maxPayload

instance (m : Message) : Decidable (Accepted m) :=
  inferInstanceAs (Decidable (m.type.toNat < 256 ∧ m.payload.length ≤ MessageFraming.maxPayload))

/-- A node without guests or deputies, on which every allocation succeeds. -/
def idleHost : Host where
  beyond _ := 0
  debug := true
  kmalloc _ := true
  home _ := ⟨fun _ => none, [], fun _ => false⟩
  guests := []
  slots := []
  taskWorkAdd := true
  resolved := true
  waitEnds := true
  taken := 0
  injectable _ := 0
  names := none
  namelen := 0
  linkNode := 1
  migrating := none
  pending := none
  stub := none
  dsmMode := 2
  segment _ _ := none
  directory _ := ⟨fun _ => none, true⟩
  exportTarget _ := none
  flushSent := true
  pumped := true

/-- 17 descriptors, and as many entries as that takes. -/
def longPoll : Message :=
  ⟨40, 1, [7, 0, 0, 0, 17, 0, 0, 0, 0, 0, 0, 0, 0, 0, 0, 0] ++ List.replicate 272 0⟩

/-- Nothing is read behind the payload, but 272 bytes go into the 256 of the context. -/
theorem longPoll_overflows : Accepted longPoll ∧
    msgType longPoll.type = some .sysPollReq ∧
    ¬AllInside (handleMessage idleHost longPoll) := by
  decide +kernel

end MattX.MessageHandlers
