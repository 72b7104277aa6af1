import Mathlib.Data.Int.Notation
import Mathlib.Tactic.Common
import Mathlib.Algebra.Order.Group.Int

set_option autoImplicit false

/-!
# The data pump of a migration

After the other node has said READY, `mattx_send_vma_data` sends the pages of
every mapping of the blueprint that is not left out on purpose, then DONE.
Memory, the reads of the frozen process and the network are inputs, one answer
for each page.
-/
namespace MattX.MigrationPump

def pageSize : ℕ := 4096

def headerSize : ℕ := 16

def pageHeaderSize : ℕ := 16

structure VmFlags where
  read : Bool
  write : Bool
  exec : Bool
  growsDown : Bool
  deriving DecidableEq

structure VmaInfo where
  vmStart : ℕ
  vmEnd : ℕ
  vmFlags : VmFlags
  isShm : Bool
  deriving DecidableEq

structure MigrationReq where
  origPid : ℕ
  threads : List ℕ
  openFds : List ℕ
  vmas : List VmaInfo
  deriving DecidableEq

/-- The outgoing slot of a node. -/
structure Globals where
  localMigrationReq : Option MigrationReq
  migratingTask : Option ℕ
  migratingTargetNode : Option ℕ
  isReturning : Bool
  deriving DecidableEq

/-! ### One message -/

/-- Whether the packet can be allocated, and what each `kernel_sendmsg` answers. -/
structure Network where
  alloc : Bool
  sendmsg : ℕ → ℤ

/-- The loop of `mattx_comm_send`: the first answer that is not positive ends it. -/
def push (sendmsg : ℕ → ℤ) (total : ℕ) (i sent : ℕ) : ℤ :=
  if sent < total then
    if 0 < sendmsg i then push sendmsg total (i + 1) (sent + (sendmsg i).toNat) else sendmsg i
  else sent
termination_by total - sent
decreasing_by omega

def mattxCommSend (net : Network) (len : ℕ) : ℤ :=
  if net.alloc then push net.sendmsg (headerSize + len) 0 0 else -12

/-! ### The pages of a mapping -/

/-- What becomes of one page: the two buffers, the bytes `access_process_vm` reads, the network. -/
structure PageIo where
  pageBuf : Bool
  bytesRead : ℤ
  payloadBuf : Bool
  net : Network

/-- What the pump does to the world. A page names the mapping it was read in. -/
inductive Action where
  | page (vma addr : ℕ) (bytes : ℤ) (delivered : Bool)
  | returnDone (node : ℕ)
  | kill (pid : ℕ)
  | migrateDone (node : ℕ)
  | addExport (pid node : ℕ)
  deriving DecidableEq

/-- The counters of the loop and what it has sent. -/
structure Pump where
  totalPages : ℕ := 0
  sentPages : ℕ := 0
  skippedPages : ℕ := 0
  networkErrors : ℕ := 0
  log : List Action := []
  deriving DecidableEq

/-- An `int` compared with a `size_t`. -/
def asSize (res : ℤ) : ℕ := (res % 2 ^ 64).toNat

def sendPage (io : PageIo) (vma addr : ℕ) (p : Pump) : Pump :=
  let payloadSize := pageHeaderSize + io.bytesRead.toNat
  let sendRes := mattxCommSend io.net payloadSize
  let p := { p with log := p.log ++ [Action.page vma addr io.bytesRead (0 < sendRes)] }
  if asSize sendRes < payloadSize then { p with networkErrors := p.networkErrors + 1 }
  else { p with sentPages := p.sentPages + 1 }

def transferPage (io : PageIo) (vma addr : ℕ) (p : Pump) : Pump :=
  let p := { p with totalPages := p.totalPages + 1 }
  if io.pageBuf then
    if 0 < io.bytesRead then
      if io.payloadBuf then sendPage io vma addr p else p
    else { p with skippedPages := p.skippedPages + 1 }
  else p

/-- The extraction loop of one mapping; `io` answers for the page at an address. -/
def extract (io : ℕ → PageIo) (vma stop curr : ℕ) (p : Pump) : Pump :=
  if curr < stop then
    extract io vma stop (curr + min pageSize (stop - curr)) (transferPage (io curr) vma curr p)
  else p
termination_by stop - curr
decreasing_by simp only [pageSize]; omega

/-- On return a mapping that is neither writable nor executable is left out, on the way out a
segment that faults in through the DSM. -/
def skipped (isReturning : Bool) (v : VmaInfo) : Bool :=
  if isReturning then !(v.vmFlags.write || v.vmFlags.exec) else v.isShm

def pumpVma (io : ℕ → ℕ → PageIo) (isReturning : Bool) (p : Pump) (v : VmaInfo × ℕ) : Pump :=
  if skipped isReturning v.1 then p else extract (io v.2) v.2 v.1.vmEnd v.1.vmStart p

def pump (io : ℕ → ℕ → PageIo) (isReturning : Bool) (vmas : List VmaInfo) : Pump :=
  vmas.zipIdx.foldl (pumpVma io isReturning) {}

/-- `mattx_send_vma_data`: the new globals and what was done. `io` answers for the page at an
address of the mapping with a number. -/
def mattxSendVmaData (link : ℕ → Bool) (io : ℕ → ℕ → PageIo) (g : Globals) :
    Globals × List Action :=
  match g.localMigrationReq, g.migratingTask, g.migratingTargetNode with
  | some req, some task, some node =>
    if link node then
      let pages := (pump io g.isReturning req.vmas).log
      let done :=
        if g.isReturning then [.returnDone node, .kill task]
        else [.migrateDone node, .addExport task node]
      ({ g with migratingTask := none, localMigrationReq := none }, pages ++ done)
    else (g, [])
  | _, _, _ => (g, [])

/-! ### What a send and a page do -/

/-- A packet either goes out whole or the answer is not positive. -/
theorem push_whole (sendmsg : ℕ → ℤ) (total i sent : ℕ) :
    (total : ℤ) ≤ push sendmsg total i sent ∨ push sendmsg total i sent ≤ 0 := by
  fun_induction push sendmsg total i sent with
  | case1 i sent more pos ih => exact ih
  | case2 i sent more stuck => exact .inr (by omega)
  | case3 i sent full => exact .inl (by omega)

theorem mattxCommSend_whole {net : Network} {len : ℕ} (sent : 0 < mattxCommSend net len) :
    ((headerSize + len : ℕ) : ℤ) ≤ mattxCommSend net len := by
  have whole := push_whole net.sendmsg (headerSize + len) 0 0
  simp only [mattxCommSend] at sent ⊢
  split_ifs at sent ⊢ <;> omega

/-- A negative result is no small number to a `size_t`: the page counts as sent. -/
theorem failed_send_counts {io : PageIo} (vma addr : ℕ) (p : Pump) (small : io.bytesRead ≤ pageSize)
    (failed : mattxCommSend io.net (pageHeaderSize + io.bytesRead.toNat) < 0)
    (errno : -4096 ≤ mattxCommSend io.net (pageHeaderSize + io.bytesRead.toNat)) :
    (sendPage io vma addr p).sentPages = p.sentPages + 1 ∧
      (sendPage io vma addr p).networkErrors = p.networkErrors := by
  have large : ¬ asSize (mattxCommSend io.net (pageHeaderSize + io.bytesRead.toNat)) <
      pageHeaderSize + io.bytesRead.toNat := by
    simp only [asSize, pageHeaderSize, pageSize] at *
    omega
  simp only [sendPage, if_neg large, and_self]

/-- The page is read and handed to the network. -/
def Handed (io : PageIo) : Prop :=
  io.pageBuf = true ∧ 0 < io.bytesRead ∧ io.payloadBuf = true

def delivered (io : PageIo) : Bool :=
  0 < mattxCommSend io.net (pageHeaderSize + io.bytesRead.toNat)

theorem transferPage_log (io : PageIo) (vma addr : ℕ) (p : Pump) (a : Action) :
    a ∈ (transferPage io vma addr p).log ↔
      a ∈ p.log ∨ (Handed io ∧ a = .page vma addr io.bytesRead (delivered io)) := by
  simp only [transferPage, Handed]
  split_ifs with buf pos payload
  · have sent : (sendPage io vma addr { p with totalPages := p.totalPages + 1 }).log =
        p.log ++ [.page vma addr io.bytesRead (delivered io)] := by
      simp only [sendPage, delivered]
      split_ifs <;> rfl
    simp [sent, buf, pos, payload]
  · simp [payload]
  · simp [pos]
  · simp [buf]

/-- The first page and the pages from the next one on are all the pages. -/
theorem page_steps {curr stop : ℕ} (more : curr < stop) (F : ℕ → Prop) :
    (F curr ∨ ∃ k, curr + min pageSize (stop - curr) + pageSize * k < stop ∧
        F (curr + min pageSize (stop - curr) + pageSize * k)) ↔
      ∃ k, curr + pageSize * k < stop ∧ F (curr + pageSize * k) := by
  have next (k : ℕ) (inside : curr + pageSize * (k + 1) < stop) :
      curr + min pageSize (stop - curr) + pageSize * k = curr + pageSize * (k + 1) := by
    simp only [pageSize] at *
    omega
  constructor
  · rintro (first | ⟨k, inside, holds⟩)
    · exact ⟨0, by omega, first⟩
    · have within : curr + pageSize * (k + 1) < stop := by
        simp only [pageSize] at *
        omega
      rw [next k within] at holds
      exact ⟨k + 1, within, holds⟩
  · rintro ⟨k, inside, holds⟩
    cases k with
    | zero => exact .inl holds
    | succ k =>
      have same := next k inside
      rw [← same] at inside holds
      exact .inr ⟨k, inside, holds⟩

/-- The pages of a mapping start at every 4096 bytes. -/
theorem extract_log (io : ℕ → PageIo) (vma stop curr : ℕ) (p : Pump) (a : Action) :
    a ∈ (extract io vma stop curr p).log ↔
      a ∈ p.log ∨ ∃ k, curr + pageSize * k < stop ∧ Handed (io (curr + pageSize * k)) ∧
        a = .page vma (curr + pageSize * k) (io (curr + pageSize * k)).bytesRead
          (delivered (io (curr + pageSize * k))) := by
  fun_induction extract io vma stop curr p with
  | case1 curr p more ih =>
    rw [ih, transferPage_log, or_assoc]
    exact or_congr_right (page_steps more fun b =>
      Handed (io b) ∧ a = .page vma b (io b).bytesRead (delivered (io b)))
  | case2 curr p done =>
    constructor
    · exact .inl
    · rintro (old | ⟨k, inside, -⟩)
      · exact old
      · omega

theorem pumpVma_log (io : ℕ → ℕ → PageIo) (isReturning : Bool) (p : Pump) (v : VmaInfo × ℕ)
    (a : Action) :
    a ∈ (pumpVma io isReturning p v).log ↔
      a ∈ p.log ∨ (skipped isReturning v.1 = false ∧ ∃ k, v.1.vmStart + pageSize * k < v.1.vmEnd ∧
        Handed (io v.2 (v.1.vmStart + pageSize * k)) ∧
        a = .page v.2 (v.1.vmStart + pageSize * k) (io v.2 (v.1.vmStart + pageSize * k)).bytesRead
          (delivered (io v.2 (v.1.vmStart + pageSize * k)))) := by
  simp only [pumpVma]
  cases skip : skipped isReturning v.1 with
  | true => simp
  | false =>
    have pages := extract_log (io v.2) v.2 v.1.vmEnd v.1.vmStart p a
    simpa using pages

theorem pumpVmas_log (io : ℕ → ℕ → PageIo) (isReturning : Bool) (vmas : List (VmaInfo × ℕ))
    (p : Pump) (a : Action) :
    a ∈ (vmas.foldl (pumpVma io isReturning) p).log ↔
      a ∈ p.log ∨ ∃ v ∈ vmas, skipped isReturning v.1 = false ∧
        ∃ k, v.1.vmStart + pageSize * k < v.1.vmEnd ∧
          Handed (io v.2 (v.1.vmStart + pageSize * k)) ∧
          a = .page v.2 (v.1.vmStart + pageSize * k)
            (io v.2 (v.1.vmStart + pageSize * k)).bytesRead
            (delivered (io v.2 (v.1.vmStart + pageSize * k))) := by
  induction vmas generalizing p with
  | nil => simp
  | cons v vmas ih =>
    rw [List.foldl_cons, ih, pumpVma_log, or_assoc]
    simp only [List.mem_cons, exists_eq_or_imp]

/-! ### Commit -/

/-- A page that is not left out: its mapping's number and its address. -/
def Due (isReturning : Bool) (vmas : List VmaInfo) (i addr : ℕ) : Prop :=
  ∃ v, vmas[i]? = some v ∧ skipped isReturning v = false ∧
    ∃ k, addr = v.vmStart + pageSize * k ∧ addr < v.vmEnd

theorem pump_log (io : ℕ → ℕ → PageIo) (isReturning : Bool) (vmas : List VmaInfo) (a : Action) :
    a ∈ (pump io isReturning vmas).log ↔
      ∃ i addr, Due isReturning vmas i addr ∧ Handed (io i addr) ∧
        a = .page i addr (io i addr).bytesRead (delivered (io i addr)) := by
  rw [pump, pumpVmas_log]
  constructor
  · rintro (none | ⟨⟨v, i⟩, mem, kept, k, inside, handed, rfl⟩)
    · cases none
    · have found := List.mem_zipIdx_iff_getElem?.mp mem
      exact ⟨i, _, ⟨v, found, kept, k, rfl, inside⟩, handed, rfl⟩
  · rintro ⟨i, _, ⟨v, found, kept, k, rfl, inside⟩, handed, rfl⟩
    exact .inr ⟨(v, i), List.mem_zipIdx_iff_getElem?.mpr found, kept, k, inside, handed, rfl⟩

/-- DONE, the entry in the export registry, and the kill of the surrogate. -/
def isCommit : Action → Bool
  | .page .. => false
  | .returnDone _ | .kill _ | .migrateDone _ | .addExport .. => true

/-- Every readable page that is not left out has gone out. -/
def Transferred (io : ℕ → ℕ → PageIo) (g : Globals) (log : List Action) : Prop :=
  ∀ req, g.localMigrationReq = some req → ∀ i addr, Due g.isReturning req.vmas i addr →
    0 < (io i addr).bytesRead → .page i addr (io i addr).bytesRead true ∈ log

def CommitsComplete (link : ℕ → Bool) (io : ℕ → ℕ → PageIo) (g : Globals) : Prop :=
  (∃ a ∈ (mattxSendVmaData link io g).2, isCommit a = true) →
    Transferred io g (mattxSendVmaData link io g).2

/-- A migration is prepared and its node is linked. -/
def Starts (link : ℕ → Bool) (g : Globals) : Prop :=
  g.localMigrationReq ≠ none ∧ g.migratingTask ≠ none ∧
    ∃ node, g.migratingTargetNode = some node ∧ link node = true

/-- No allocation and no send fails for a readable page. -/
def Lossless (io : ℕ → ℕ → PageIo) (g : Globals) : Prop :=
  ∀ req, g.localMigrationReq = some req → ∀ i addr, Due g.isReturning req.vmas i addr →
    0 < (io i addr).bytesRead →
      (io i addr).pageBuf = true ∧ (io i addr).payloadBuf = true ∧ delivered (io i addr) = true

theorem sends_when_started {link : ℕ → Bool} {g : Globals} {req : MigrationReq} {task node : ℕ}
    (hreq : g.localMigrationReq = some req) (htask : g.migratingTask = some task)
    (hnode : g.migratingTargetNode = some node) (up : link node = true) (io : ℕ → ℕ → PageIo) :
    (mattxSendVmaData link io g).2 = (pump io g.isReturning req.vmas).log ++
      if g.isReturning then [.returnDone node, .kill task]
      else [.migrateDone node, .addExport task node] := by
  simp only [mattxSendVmaData, hreq, htask, hnode, up, if_true]

theorem idle_unless_started {link : ℕ → Bool} {g : Globals} (idle : ¬ Starts link g)
    (io : ℕ → ℕ → PageIo) : mattxSendVmaData link io g = (g, []) := by
  simp only [mattxSendVmaData]
  split
  · rename_i req task node hreq htask hnode
    have down : ¬ link node = true := fun up =>
      idle ⟨by simp [hreq], by simp [htask], node, hnode, up⟩
    rw [if_neg down]
  · rfl

/-- A page is in the log as delivered exactly when nothing failed for it. -/
theorem page_delivered_iff {io : ℕ → ℕ → PageIo} {isReturning : Bool} {vmas : List VmaInfo}
    {i addr : ℕ} (due : Due isReturning vmas i addr) (readable : 0 < (io i addr).bytesRead) :
    .page i addr (io i addr).bytesRead true ∈ (pump io isReturning vmas).log ↔
      (io i addr).pageBuf = true ∧ (io i addr).payloadBuf = true ∧ delivered (io i addr) = true := by
  rw [pump_log]
  constructor
  · rintro ⟨j, b, -, handed, same⟩
    injection same with sameVma sameAddr sameBytes sent
    subst sameVma sameAddr
    exact ⟨handed.1, handed.2.2, sent.symm⟩
  · rintro ⟨buf, payload, sent⟩
    exact ⟨i, addr, due, ⟨buf, readable, payload⟩, by rw [sent]⟩

theorem pages_then_done {pages done : List Action} (commits : ∀ a ∈ done, isCommit a = true)
    (vma addr : ℕ) (bytes : ℤ) :
    .page vma addr bytes true ∈ pages ++ done ↔ .page vma addr bytes true ∈ pages := by
  rw [List.mem_append]
  constructor
  · rintro (page | done)
    · exact page
    · cases commits _ done
  · exact .inl

/-- The pump commits whatever failed, so it commits a complete transfer only when nothing did. -/
theorem commits_complete_iff_lossless (link : ℕ → Bool) (io : ℕ → ℕ → PageIo) (g : Globals) :
    CommitsComplete link io g ↔ (Starts link g → Lossless io g) := by
  by_cases starts : Starts link g
  · obtain ⟨hasReq, hasTask, node, hnode, up⟩ := starts
    obtain ⟨req, hreq⟩ := Option.ne_none_iff_exists'.mp hasReq
    obtain ⟨task, htask⟩ := Option.ne_none_iff_exists'.mp hasTask
    have sends := sends_when_started hreq htask hnode up io
    have commits : ∀ a ∈ (if g.isReturning then [Action.returnDone node, .kill task]
        else [.migrateDone node, .addExport task node]), isCommit a = true := by
      cases g.isReturning <;> simp [isCommit]
    have committed : ∃ a ∈ (mattxSendVmaData link io g).2, isCommit a = true := by
      rw [sends]
      cases g.isReturning
      · exact ⟨.migrateDone node, by simp, rfl⟩
      · exact ⟨.returnDone node, by simp, rfl⟩
    have pages (i addr : ℕ) (bytes : ℤ) :
        .page i addr bytes true ∈ (mattxSendVmaData link io g).2 ↔
          .page i addr bytes true ∈ (pump io g.isReturning req.vmas).log := by
      rw [sends]
      exact pages_then_done commits i addr bytes
    simp only [CommitsComplete, committed, true_imp_iff, Transferred, Lossless, hreq,
      Option.some.injEq, forall_eq', pages]
    constructor
    · intro transferred _ i addr due readable
      exact (page_delivered_iff due readable).mp (transferred i addr due readable)
    · intro lossless i addr due readable
      exact (page_delivered_iff due readable).mpr
        (lossless ⟨hasReq, hasTask, node, hnode, up⟩ i addr due readable)
  · have idle := idle_unless_started starts io
    simp [CommitsComplete, idle, starts]

/-- One writable page of a surrogate on its way home. -/
def surrogate : Globals :=
  ⟨some ⟨9, [9], [], [⟨4096, 8192, ⟨true, true, false, false⟩, false⟩]⟩, some 7, some 1, true⟩

/-- The page is read, and the send answers `-EPIPE`. -/
def brokenPipe : ℕ → ℕ → PageIo := fun _ _ => ⟨true, 4096, true, ⟨true, fun _ => -32⟩⟩

theorem broken_pipe_still_kills :
    (mattxSendVmaData (fun _ => true) brokenPipe surrogate).2 =
        [.page 0 4096 4096 false, .returnDone 1, .kill 7] ∧
      ¬ CommitsComplete (fun _ => true) brokenPipe surrogate := by
  have log : (mattxSendVmaData (fun _ => true) brokenPipe surrogate).2 =
      [.page 0 4096 4096 false, .returnDone 1, .kill 7] := by decide +kernel
  have due : Due true [⟨4096, 8192, ⟨true, true, false, false⟩, false⟩] 0 4096 :=
    ⟨_, rfl, rfl, 0, rfl, by decide⟩
  refine ⟨log, ?_⟩
  intro complete
  have transferred := complete ⟨.kill 7, by simp [log], rfl⟩ _ rfl 0 4096 due (by decide)
  simp [log, brokenPipe] at transferred

end MattX.MigrationPump
