import MattX.VfsHandleTable

set_option autoImplicit false

/-!
# Which file an operation reaches

A request that names a file is handled before the request to close that file,
as both come from the node that has the handle. So the entry it leads to is
still the one the handle stands for.
-/
namespace MattX.VfsHandles
open GuardedRuns VfsRpc
open RequestHandlers (maxFds)

/-- The handle of a request to use a file. -/
def Packet.uses (p : Packet) : Option Handle :=
  match p.msg with
  | .useReq _ _ h => some h
  | _ => none

/-- Messages from one node to another are handled in the order in which they were sent, also where
they are on different connections. -/
def InOrder (s : State) : Event → Prop
  | .deliver i _ _ => ∀ p ∈ s.wire[i]?, ∀ q ∈ s.wire.take i, ¬(q.src = p.src ∧ q.dst = p.dst)
  | _ => True

instance (s : State) (e : Event) : Decidable (InOrder s e) :=
  match e with
  | .deliver i _ _ => inferInstanceAs (Decidable (∀ p ∈ s.wire[i]?, ∀ q ∈ s.wire.take i, _))
  | .setHpc .. | .relink .. | .open .. | .use .. | .other .. | .finish .. | .close .. | .lose _ =>
    isTrue trivial

/-- Every operation reached the file that the open of its handle opened. -/
def Exact (s : State) : Prop :=
  ∀ a ∈ s.log, a.handle.file ≠ none ∧ a.reached = a.handle.file

/-- The entry a request leads to, and whoever else stands for it is on the same node. -/
structure Using (s : State) (x : Handle) : Prop where
  away : x.node ≠ x.client
  room : x.fd < maxFds
  file : x.file ≠ none
  entry : s.table x.node x.fd = x.file
  owner : ∀ c, Claimed s c → c.node = x.node → c.fd = x.fd → c.client = x.client

structure Uses (s : State) : Prop where
  leads : ∀ p ∈ s.wire, ∀ x, p.uses = some x → p.src = x.client ∧ p.dst = x.node ∧ Using s x
  sorted : s.wire.Pairwise fun p q => ∀ x y, p.msg = .closeReq x → q.uses = some y →
    ¬(x.node = y.node ∧ x.fd = y.fd)

theorem Using.effect {s s' : State} {lost : Option Handle} {x : Handle} (h : Using s x)
    (e : Effect s s' lost) (stays : s'.table x.node x.fd ≠ none) : Using s' x := by
  cases e with
  | moves eq table =>
    refine ⟨h.away, h.room, h.file, by rw [table]; exact h.entry, fun c claimed => h.owner c ?_⟩
    have moved := eq (· == c)
    unfold Claimed at claimed ⊢
    omega
  | frees y all eq table =>
    have other : ¬(x.node = y.node ∧ x.fd = y.fd) := by
      intro same
      have room : y.fd < maxFds := same.2 ▸ h.room
      rw [table, same.1, same.2, clearFd_same s y.node room] at stays
      exact stays rfl
    refine ⟨h.away, h.room, h.file, ?_, fun c claimed => h.owner c ?_⟩
    · rw [table, clearFd_other s other]
      exact h.entry
    · have moved := eq (· == c)
      unfold Claimed at claimed ⊢
      omega
  | makes y room file free eq table =>
    have other : ¬(x.node = y.node ∧ x.fd = y.fd) := by
      intro same
      rw [← same.1, ← same.2] at free
      exact h.file (h.entry.symm.trans free)
    refine ⟨h.away, h.room, h.file, ?_, fun c claimed node fd => ?_⟩
    · rw [table, setFd_other s y.file other]
      exact h.entry
    · by_cases new : y = c
      · subst c
        exact absurd ⟨node.symm, fd.symm⟩ other
      · have moved := eq (· == c)
        rw [weigh_some _ y, if_neg (by simpa using new)] at moved
        refine h.owner c ?_ node fd
        unfold Claimed at claimed ⊢
        omega

/-- Messages may go, and new ones name no file. -/
def Extends (s s' : State) : Prop :=
  ∃ old new, s'.wire = old ++ new ∧ old.Sublist s.wire ∧ ∀ p ∈ new, p.uses = none

theorem extends_of {s s' : State} (wire : s'.wire.Sublist s.wire) : Extends s s' :=
  ⟨s'.wire, [], (List.append_nil _).symm, wire, by simp⟩

theorem Extends.keep {s s' s'' : State} (h : Extends s s') (wire : s''.wire = s'.wire) :
    Extends s s'' := by
  obtain ⟨old, new, is, sub, none⟩ := h
  exact ⟨old, new, wire.trans is, sub, none⟩

theorem Extends.post {s s' : State} (h : Extends s s') {src dst : ℕ} {m : Msg} (sent : Bool)
    (other : ∀ conn, (⟨src, dst, conn, m⟩ : Packet).uses = none) :
    Extends s (post s' src dst m sent) := by
  unfold VfsHandles.post
  cases s'.link src dst with
  | none => exact h
  | some conn =>
    split_ifs
    · obtain ⟨old, new, is, sub, none⟩ := h
      refine ⟨old, new ++ [⟨src, dst, conn, m⟩], ?_, sub, fun p mem => ?_⟩
      · simp only [is, List.append_assoc]
      · rcases List.mem_append.mp mem with mem | mem
        · exact none p mem
        · obtain rfl := List.mem_singleton.mp mem
          exact other conn
    · exact h

theorem Extends.request {s s' : State} (h : Extends s s') {n d : ℕ} {want : Want} {msg : ℕ → Msg}
    (sent : Bool) (other : ∀ r conn, (⟨n, d, conn, msg r⟩ : Packet).uses = none) :
    Extends s (request s' n d want msg sent) := by
  unfold VfsHandles.request
  cases s'.link n d with
  | none => exact h
  | some _ =>
    cases freeSlot s' n with
    | none => exact h
    | some i =>
      dsimp only
      apply Extends.post
      · exact h.keep rfl
      · exact other _

theorem Uses.extend {s s' : State} {lost : Option Handle} (h : Uses s) (ext : Extends s s')
    (e : Effect s s' lost)
    (stays : ∀ p ∈ s.wire, ∀ x, p ∈ s'.wire → p.uses = some x → Using s x →
      s'.table x.node x.fd ≠ none) : Uses s' := by
  obtain ⟨old, new, is, sub, none⟩ := ext
  constructor
  case leads =>
    intro p mem x uses
    have sent := mem
    rw [is] at mem
    rcases List.mem_append.mp mem with mem | mem
    · obtain ⟨src, dst, was⟩ := h.leads p (sub.subset mem) x uses
      exact ⟨src, dst, was.effect e (stays p (sub.subset mem) x sent uses was)⟩
    · exact absurd uses (by simp [none p mem])
  case sorted =>
    rw [is]
    refine List.pairwise_append.mpr ⟨h.sorted.sublist sub, ?_, ?_⟩
    · refine List.pairwise_of_forall_mem_list fun p _ q mem x y _ uses => ?_
      exact absurd uses (by simp [none q mem])
    · intro p _ q mem x y _ uses
      exact absurd uses (by simp [none q mem])

/-- What is in the tables stays there. -/
def Kept (s s' : State) : Prop := ∀ n fd, s.table n fd ≠ none → s'.table n fd = s.table n fd

theorem kept_of {s s' : State} (table : s'.table = s.table) : Kept s s' :=
  fun n fd _ => by rw [table]

theorem Uses.kept {s s' : State} {lost : Option Handle} (h : Uses s) (ext : Extends s s')
    (e : Effect s s' lost) (kept : Kept s s') : Uses s' := by
  refine h.extend ext e fun _ _ x _ _ is => ?_
  have used : s.table x.node x.fd ≠ none := is.entry ▸ is.file
  rw [kept _ _ used]
  exact used

theorem kept_install (s : State) (n : ℕ) : Kept s (install s n).1 := by
  intro m x used
  cases found : freeFd s n with
  | none => rw [install_none found]
  | some fd =>
    obtain ⟨is, -, free⟩ := install_some found
    rw [is]
    refine setFd_other _ _ fun place => used ?_
    rw [place.1, place.2]
    exact free

theorem kept_open_local (s : State) (n : ℕ) (path : Bytes) (err : ℤ) (alloc sent : Bool) :
    Kept s (remoteFileOpen s n n path err alloc sent) := by
  intro m x used
  unfold remoteFileOpen
  rw [if_pos (Or.inl rfl)]
  split_ifs
  · cases found : freeFd s n with
    | none => rw [install_none found]
    | some fd =>
      obtain ⟨is, -, free⟩ := install_some found
      rw [is]
      have other : ¬(m = n ∧ x = fd) := by
        intro place
        rw [place.1, place.2] at used
        exact used free
      cases alloc with
      | true => exact setFd_other _ _ other
      | false =>
        simp only [keep, Bool.false_eq_true, if_false, rpcVfsClose, if_true]
        rw [clearFd_other _ other]
        exact setFd_other _ _ other
  · rfl

/-! ### What is logged -/

/-- What a step logs has reached its file. -/
def LogsExact (s s' : State) : Prop :=
  s'.log = s.log ∨ ∃ a, s'.log = s.log ++ [a] ∧ a.handle.file ≠ none ∧ a.reached = a.handle.file

theorem Exact.step {s s' : State} (h : Exact s) (logs : LogsExact s s') : Exact s' := by
  intro a mem
  cases logs with
  | inl same => exact h a (same ▸ mem)
  | inr new =>
    obtain ⟨b, is, holds⟩ := new
    rw [is] at mem
    rcases List.mem_append.mp mem with mem | mem
    · exact h a mem
    · obtain rfl := List.mem_singleton.mp mem
      exact holds

theorem logs_access {s : State} {n : ℕ} {h : Handle} (room : h.fd < maxFds) (file : h.file ≠ none)
    (entry : s.table n h.fd = h.file) : LogsExact s (access s n h) := by
  refine Or.inr ⟨⟨h, lookup s n h.fd⟩, rfl, file, ?_⟩
  simp only [lookup, if_pos room, entry]

theorem log_post (s : State) (src dst : ℕ) (m : Msg) (sent : Bool) :
    (post s src dst m sent).log = s.log := by
  unfold post
  cases s.link src dst with
  | none => rfl
  | some conn => split_ifs <;> rfl

theorem log_request (s : State) (n d : ℕ) (want : Want) (msg : ℕ → Msg) (sent : Bool) :
    (request s n d want msg sent).log = s.log := by
  unfold request
  cases s.link n d with
  | none => rfl
  | some conn =>
    cases freeSlot s n with
    | none => rfl
    | some i => exact log_post _ _ _ _ _

theorem log_clearFd (s : State) (n fd : ℕ) : (clearFd s n fd).log = s.log := by
  unfold clearFd
  split_ifs <;> rfl

theorem log_install (s : State) (n : ℕ) : (install s n).1.log = s.log := by
  unfold install
  cases freeFd s n <;> rfl

/-! ### Each step -/

theorem live_claimed {s : State} {h : Handle} (live : h ∈ s.handles) : Claimed s h :=
  claimed_of_tally (List.mem_append.mpr (Or.inl live))

theorem wire_claimed {s : State} {p : Packet} {h : Handle} (mem : p ∈ s.wire)
    (claim : p.claim = some h) : Claimed s h := by
  have pos : 0 < s.wire.countP (fun p => p.claim.any (· == h)) :=
    List.countP_pos_iff.mpr ⟨p, mem, by simp [claim]⟩
  unfold Claimed tally
  omega

/-- A live handle and a request to close are never for one index. -/
theorem Held.open_not_closing {s : State} (held : Held s) {h x : Handle} (live : h ∈ s.handles)
    {p : Packet} (mem : p ∈ s.wire) (claim : p.claim = some x) :
    ¬(x.node = h.node ∧ x.fd = h.fd) := by
  intro same
  have one : 0 < s.handles.countP (isAt h.node h.fd) :=
    List.countP_pos_iff.mpr ⟨h, live, isAt_iff.mpr ⟨rfl, rfl⟩⟩
  have two : 0 < s.wire.countP (fun p => p.claim.any (isAt h.node h.fd)) :=
    List.countP_pos_iff.mpr ⟨p, mem, by rw [claim]; exact isAt_iff.mpr same⟩
  have le := held.single h.node h.fd
  unfold tally at le
  omega

theorem Uses.open {s : State} (h : Uses s) {n d : ℕ} {path : Bytes} {err : ℤ} {alloc sent : Bool}
    (ok : Truthful s (.open n d path err alloc sent)) {lost : Option Handle}
    (e : Effect s (remoteFileOpen s n d path err alloc sent) lost) :
    Uses (remoteFileOpen s n d path err alloc sent) := by
  by_cases home : d = n
  · subst d
    have untouched := open_local_untouched s n path err alloc sent
    exact h.kept (extends_of (by rw [untouched.2])) e (kept_open_local s n path err alloc sent)
  · have far := ok.resolve_left home
    have is : remoteFileOpen s n d path err alloc sent = request s n d .open .openReq sent := by
      unfold remoteFileOpen
      rw [if_neg fun is => is.elim home far.1]
    rw [is] at e ⊢
    exact h.kept ((extends_of (List.Sublist.refl _)).request sent fun _ _ => rfl) e
      (kept_of (table_request _ _ _ _ _ _))

theorem logs_open (s : State) {n d : ℕ} {path : Bytes} {err : ℤ} {alloc sent : Bool}
    (ok : Truthful s (.open n d path err alloc sent)) :
    LogsExact s (remoteFileOpen s n d path err alloc sent) := by
  by_cases home : d = n
  · subst d
    unfold remoteFileOpen
    rw [if_pos (Or.inl rfl)]
    split_ifs
    · cases found : freeFd s n with
      | none =>
        rw [install_none found]
        exact Or.inl rfl
      | some fd =>
        obtain ⟨is, room, -⟩ := install_some found
        rw [is]
        cases alloc with
        | true => exact Or.inl rfl
        | false =>
          simp only [keep, Bool.false_eq_true, if_false, rpcVfsClose, if_true]
          have reached := logs_access (h := ⟨n, n, fd, some s.nextFile⟩) room (by simp)
            (setFd_same { s with nextFile := s.nextFile + 1 } n fd (some s.nextFile))
          unfold LogsExact at reached ⊢
          rw [log_clearFd]
          exact reached
    · exact Or.inl rfl
  · have far := ok.resolve_left home
    unfold remoteFileOpen
    rw [if_neg fun is => is.elim home far.1]
    exact Or.inl (log_request _ _ _ _ _ _)

theorem wire_request (s : State) (n d : ℕ) (want : Want) (msg : ℕ → Msg) (sent : Bool) :
    (request s n d want msg sent).wire = s.wire ∨
      ∃ conn, (request s n d want msg sent).wire =
        s.wire ++ [⟨n, d, conn, msg (s.nextReqId n)⟩] := by
  unfold request
  cases link : s.link n d with
  | none => exact Or.inl rfl
  | some conn =>
    cases freeSlot s n with
    | none => exact Or.inl rfl
    | some i =>
      simp only [post, link]
      split_ifs
      · exact Or.inr ⟨conn, rfl⟩
      · exact Or.inl rfl

theorem Uses.use {s : State} (h : Uses s) (held : Held s) {op : Op} {x : Handle} {sent : Bool}
    (live : x ∈ s.handles) {lost : Option Handle} (e : Effect s (rpcVfsUse s op x sent) lost) :
    Uses (rpcVfsUse s op x sent) := by
  have owned := held.held x (live_claimed live)
  unfold rpcVfsUse at e ⊢
  split_ifs at e ⊢ with home
  · exact h.kept (extends_of (List.Sublist.refl _)) e (kept_of rfl)
  · have table := table_request s x.client x.node (.use op x) (.useReq · op x) sent
    cases wire_request s x.client x.node (.use op x) (.useReq · op x) sent with
    | inl same => exact h.kept (extends_of (by rw [same])) e (kept_of table)
    | inr grown =>
      obtain ⟨conn, is⟩ := grown
      have tallies : ∀ P, tally P (request s x.client x.node (.use op x) (.useReq · op x) sent) =
          tally P s := fun P => tally_request P fun _ => rfl
      have fresh : Using (request s x.client x.node (.use op x) (.useReq · op x) sent) x := by
        refine ⟨home, owned.1, owned.2.1, by rw [table]; exact owned.2.2,
          fun c claimed node fd => ?_⟩
        have was : Claimed s c := by
          unfold Claimed at claimed ⊢
          rw [tallies] at claimed
          exact claimed
        rw [held.unique was (live_claimed live) node fd]
      constructor
      case leads =>
        intro p mem y uses
        rw [is] at mem
        rcases List.mem_append.mp mem with mem | mem
        · obtain ⟨src, dst, was⟩ := h.leads p mem y uses
          refine ⟨src, dst, was.effect e ?_⟩
          rw [table, was.entry]
          exact was.file
        · obtain rfl := List.mem_singleton.mp mem
          obtain rfl : x = y := Option.some.inj uses
          exact ⟨rfl, rfl, fresh⟩
      case sorted =>
        rw [is]
        refine List.pairwise_append.mpr ⟨h.sorted, List.pairwise_singleton _ _, ?_⟩
        intro p mem q new y z closing uses
        obtain rfl := List.mem_singleton.mp new
        obtain rfl : x = z := Option.some.inj uses
        exact held.open_not_closing live mem (by rw [Packet.claim, closing]; rfl)

theorem logs_use {s : State} (held : Held s) {op : Op} {x : Handle} {sent : Bool}
    (live : x ∈ s.handles) : LogsExact s (rpcVfsUse s op x sent) := by
  have owned := held.held x (live_claimed live)
  unfold rpcVfsUse
  split_ifs with home
  · exact logs_access owned.1 owned.2.1 (home ▸ owned.2.2)
  · exact Or.inl (log_request _ _ _ _ _ _)

theorem Uses.finish {s : State} (h : Uses s) (away : ∀ c ∈ s.calls, c.server ≠ c.client) {c : Call}
    (mem : c ∈ s.calls) {alloc sent : Bool} {lost : Option Handle}
    (e : Effect s (finish s c alloc sent) lost) : Uses (finish s c alloc sent) := by
  have same : Extends s (release s c) := extends_of (List.Sublist.refl _)
  unfold VfsHandles.finish at e ⊢
  dsimp only at e ⊢
  split_ifs at e ⊢
  · cases alloc with
    | true => exact h.kept (same.keep rfl) e (kept_of rfl)
    | false =>
      simp only [keep, Bool.false_eq_true, if_false, rpcVfsClose, away c mem] at e ⊢
      exact h.kept (same.post sent fun _ => rfl) e (kept_of (table_post _ _ _ _ _))
  · exact h.kept same e (kept_of rfl)

theorem logs_finish {s : State} (away : ∀ c ∈ s.calls, c.server ≠ c.client) {c : Call}
    (mem : c ∈ s.calls) (alloc sent : Bool) : LogsExact s (finish s c alloc sent) := by
  unfold finish
  dsimp only
  split_ifs
  · cases alloc with
    | true => exact Or.inl rfl
    | false =>
      simp only [keep, Bool.false_eq_true, if_false, rpcVfsClose, away c mem]
      exact Or.inl (log_post _ _ _ _ _)
  · exact Or.inl rfl

/-- A file that is closed on the spot is named by no request under way: its handle's node would ask
itself. -/
theorem Uses.close {s : State} (h : Uses s) {x : Handle} (live : x ∈ s.handles)
    {sent : Bool} {lost : Option Handle} (e : Effect s (remoteFileRelease s x sent) lost) :
    Uses (remoteFileRelease s x sent) := by
  unfold remoteFileRelease rpcVfsClose at e ⊢
  split_ifs at e ⊢ with home
  · have wire : ∀ n fd, (clearFd (access { s with handles := s.handles.erase x } n x) n fd).wire =
        s.wire := by
      intro n fd
      unfold clearFd
      split_ifs <;> rfl
    refine h.extend (extends_of (by rw [wire])) e fun p _ y _ _ is => ?_
    have other : ¬(y.node = x.client ∧ y.fd = x.fd) := by
      intro place
      have own := is.owner x (live_claimed live) (home.trans place.1.symm) place.2.symm
      exact is.away (place.1.trans own)
    rw [clearFd_other _ other]
    exact fun gone => is.file (is.entry.symm.trans gone)
  · exact h.kept (Extends.post (extends_of (List.Sublist.refl _)) sent fun _ => rfl) e
      (kept_of (table_post _ _ _ _ _))

theorem logs_close {s : State} (held : Held s) {x : Handle} (live : x ∈ s.handles) (sent : Bool) :
    LogsExact s (remoteFileRelease s x sent) := by
  have owned := held.held x (live_claimed live)
  unfold remoteFileRelease rpcVfsClose
  split_ifs with home
  · have reached := logs_access (s := { s with handles := s.handles.erase x }) (n := x.client)
      owned.1 owned.2.1 (home ▸ owned.2.2)
    unfold LogsExact at reached ⊢
    rw [log_clearFd]
    exact reached
  · exact Or.inl (log_post _ _ _ _ _)

theorem extends_handleReply {s s' : State} (h : Extends s s') (n id : ℕ) (m : Msg) :
    Extends s (handleReply s' n id m) := by
  unfold handleReply
  cases pending s' n id <;> exact h.keep rfl

theorem extends_handle {s : State} (i : ℕ) (p : Packet) (err : ℤ) (sent : Bool) :
    Extends s (handle (drop s i) p err sent) := by
  have dropped : Extends s (drop s i) := extends_of (List.eraseIdx_sublist s.wire i)
  unfold handle
  cases p.msg with
  | openReq id =>
    dsimp only
    unfold handleVfsOpenReq
    split_ifs
    · have untouched := install_untouched (drop s i) p.dst
      cases found : install (drop s i) p.dst with
      | mk s' got =>
        rw [found] at untouched
        cases got <;> exact (dropped.keep untouched.2.1).post sent fun _ => rfl
    · exact dropped.post sent fun _ => rfl
  | useReq id op x =>
    dsimp only
    unfold handleVfsUseReq
    split_ifs
    · exact dropped.keep rfl
    · apply Extends.post
      · exact dropped.keep rfl
      · exact fun _ => rfl
  | otherReq id => exact dropped.post sent fun _ => rfl
  | closeReq x =>
    refine dropped.keep ?_
    simp only [handleVfsCloseReq, clearFd]
    split_ifs <;> rfl
  | openReply id error fd file => exact extends_handleReply dropped _ _ _
  | useReply id op error => exact extends_handleReply dropped _ _ _
  | otherReply id error => exact extends_handleReply dropped _ _ _

theorem table_handleReply (s : State) (n id : ℕ) (m : Msg) :
    (handleReply s n id m).table = s.table := by
  unfold handleReply
  cases pending s n id <;> rfl

/-- Only a request to close takes a file out of the table. -/
theorem kept_handle {s : State} (i : ℕ) (p : Packet) (err : ℤ) (sent : Bool)
    (other : ∀ x, p.msg ≠ .closeReq x) : Kept s (handle (drop s i) p err sent) := by
  unfold handle
  cases is : p.msg with
  | openReq id =>
    dsimp only
    unfold handleVfsOpenReq
    split_ifs
    · have kept := kept_install (drop s i) p.dst
      cases found : install (drop s i) p.dst with
      | mk s' got =>
        rw [found] at kept
        cases got <;>
          exact fun n fd used => (congrFun₂ (table_post _ _ _ _ _) n fd).trans (kept n fd used)
    · exact kept_of (table_post _ _ _ _ _)
  | useReq id op x =>
    dsimp only
    unfold handleVfsUseReq
    split_ifs
    · exact kept_of rfl
    · exact kept_of (table_post _ _ _ _ _)
  | otherReq id => exact kept_of (table_post _ _ _ _ _)
  | closeReq x => exact absurd is (other x)
  | openReply id error fd file => exact kept_of (table_handleReply _ _ _ _)
  | useReply id op error => exact kept_of (table_handleReply _ _ _ _)
  | otherReply id error => exact kept_of (table_handleReply _ _ _ _)

theorem wire_split {s : State} {i : ℕ} {p : Packet} (here : s.wire[i]? = some p) :
    s.wire = s.wire.take i ++ p :: s.wire.drop (i + 1) := by
  obtain ⟨lt, rfl⟩ := List.getElem?_eq_some_iff.mp here
  rw [← List.drop_eq_getElem_cons lt, List.take_append_drop]

/-- The requests that name the file were handled before the one that closes it. -/
theorem Uses.unnamed {s : State} (h : Uses s) (matching : Matching s) {i : ℕ} {p : Packet}
    (here : s.wire[i]? = some p)
    (first : ∀ q ∈ s.wire.take i, ¬(q.src = p.src ∧ q.dst = p.dst)) {x : Handle}
    (closing : p.msg = .closeReq x) {q : Packet} (mem : q ∈ (drop s i).wire) {y : Handle}
    (uses : q.uses = some y) : ¬(y.node = x.node ∧ y.fd = x.fd) := by
  intro place
  have sent := List.mem_of_getElem? here
  obtain ⟨src, dst, -⟩ := matching.closes p sent x closing
  obtain ⟨src', dst', is⟩ := h.leads q (List.mem_of_mem_eraseIdx mem) y uses
  have claim : p.claim = some x := by
    rw [Packet.claim, closing]
    rfl
  have own := is.owner x (wire_claimed sent claim) place.1.symm place.2.symm
  have split := wire_split here
  rw [drop, List.eraseIdx_eq_take_drop_succ] at mem
  rcases List.mem_append.mp mem with before | after
  · exact first q before ⟨src'.trans (own.symm.trans src.symm),
      dst'.trans (place.1.trans dst.symm)⟩
  · have sorted := h.sorted
    rw [split] at sorted
    have later := (List.pairwise_cons.mp (List.pairwise_append.mp sorted).2.1).1 q after
    exact later x y closing uses ⟨place.1.symm, place.2.symm⟩

theorem Uses.handle {s : State} (h : Uses s) (matching : Matching s) {i : ℕ} {p : Packet}
    (here : s.wire[i]? = some p)
    (first : ∀ q ∈ s.wire.take i, ¬(q.src = p.src ∧ q.dst = p.dst)) {err : ℤ} {sent : Bool}
    {lost : Option Handle} (e : Effect s (handle (VfsHandles.drop s i) p err sent) lost) :
    Uses (handle (VfsHandles.drop s i) p err sent) := by
  have ext := extends_handle (s := s) i p err sent
  by_cases closing : ∃ x, p.msg = .closeReq x
  · obtain ⟨x, is⟩ := closing
    have same : VfsHandles.handle (VfsHandles.drop s i) p err sent =
        handleVfsCloseReq (VfsHandles.drop s i) p.dst x := by
      simp only [VfsHandles.handle, is]
    rw [same] at e ext ⊢
    refine h.extend ext e fun q _ y left uses named => ?_
    have dst := (matching.closes p (List.mem_of_getElem? here) x is).2.1
    have mem : q ∈ (VfsHandles.drop s i).wire := by
      unfold handleVfsCloseReq clearFd at left
      split_ifs at left <;> exact left
    have other := h.unnamed matching here first is mem uses
    rw [handleVfsCloseReq, clearFd_other _ (by rw [dst]; exact other)]
    exact fun gone => named.file (named.entry.symm.trans gone)
  · exact h.kept ext e (kept_handle i p err sent fun x is => closing ⟨x, is⟩)

theorem log_handleReply (s : State) (n id : ℕ) (m : Msg) : (handleReply s n id m).log = s.log := by
  unfold handleReply
  cases pending s n id <;> rfl

theorem logs_handle {s : State} (h : Uses s) (sound : Sound s) {i : ℕ} {p : Packet}
    (here : s.wire[i]? = some p) (err : ℤ) (sent : Bool) :
    LogsExact s (handle (drop s i) p err sent) := by
  have mem := List.mem_of_getElem? here
  unfold handle
  cases is : p.msg with
  | openReq id =>
    dsimp only
    unfold handleVfsOpenReq
    split_ifs
    · have log := log_install (drop s i) p.dst
      cases found : install (drop s i) p.dst with
      | mk s' got =>
        rw [found] at log
        cases got <;> exact Or.inl ((log_post _ _ _ _ _).trans log)
    · exact Or.inl (log_post _ _ _ _ _)
  | useReq id op x =>
    obtain ⟨-, dst, named⟩ := h.leads p mem x (by rw [Packet.uses, is])
    have reached : LogsExact s (access (drop s i) p.dst x) :=
      logs_access (s := drop s i) named.room named.file (dst ▸ named.entry)
    dsimp only
    unfold handleVfsUseReq
    split_ifs
    · exact reached
    · unfold LogsExact at reached ⊢
      rw [log_post]
      exact reached
  | otherReq id => exact Or.inl (log_post _ _ _ _ _)
  | closeReq x =>
    have dst := (sound.matching.closes p mem x is).2.1
    have owned := sound.held.held x (wire_claimed mem (by rw [Packet.claim, is]; rfl))
    have reached : LogsExact s (access (drop s i) p.dst x) :=
      logs_access (s := drop s i) owned.1 owned.2.1 (dst ▸ owned.2.2)
    change LogsExact s (clearFd (access (drop s i) p.dst x) p.dst x.fd)
    unfold LogsExact at reached ⊢
    rw [log_clearFd]
    exact reached
  | openReply id error fd file => exact Or.inl (log_handleReply _ _ _ _)
  | useReply id op error => exact Or.inl (log_handleReply _ _ _ _)
  | otherReply id error => exact Or.inl (log_handleReply _ _ _ _)

/-! ### Runs -/

theorem uses_next {s : State} (h : Uses s) (sound : Sound s) (e : Event) (en : enabled s e)
    (ok : Truthful s e ∧ InOrder s e) : Uses (next s e) ∧ LogsExact s (next s e) := by
  obtain ⟨lost, effect, -⟩ := effect_next sound.matching e en ok.1
  cases e with
  | setHpc n on =>
    exact ⟨h.kept (extends_of (List.Sublist.refl _)) effect (kept_of rfl), Or.inl rfl⟩
  | relink n d conn =>
    exact ⟨h.kept (extends_of (List.Sublist.refl _)) effect (kept_of rfl), Or.inl rfl⟩
  | «open» n d path err alloc sent => exact ⟨h.open ok.1 effect, logs_open s ok.1⟩
  | use op x sent => exact ⟨h.use sound.held en effect, logs_use sound.held en⟩
  | other n d sent =>
    exact ⟨h.kept ((extends_of (List.Sublist.refl _)).request sent fun _ _ => rfl) effect
      (kept_of (table_request _ _ _ _ _ _)), Or.inl (log_request _ _ _ _ _ _)⟩
  | finish c interrupted alloc sent =>
    exact ⟨h.finish sound.matching.away en.1 effect,
      logs_finish sound.matching.away en.1 alloc sent⟩
  | close x sent => exact ⟨h.close en.1 effect, logs_close sound.held en.1 sent⟩
  | deliver i err sent =>
    have lt : i < s.wire.length := en.1
    have here : s.wire[i]? = some s.wire[i] := List.getElem?_eq_getElem lt
    simp only [next, here] at effect ⊢
    exact ⟨h.handle sound.matching here (ok.2 _ here) effect, logs_handle h sound here err sent⟩
  | lose i =>
    exact ⟨h.kept (extends_of (List.eraseIdx_sublist s.wire i)) effect (kept_of rfl), Or.inl rfl⟩

/-- In every run without a false success whose messages are handled in order, every operation
reaches the file that the open of its handle opened. -/
theorem operations_exact {es : List Event}
    (run : machine.Follows (fun s e => Truthful s e ∧ InOrder s e) boot es) :
    machine.Always Exact boot es := by
  have uses : Uses boot := ⟨by simp [boot], by simp [boot]⟩
  have holds : Exact boot := fun a mem => absurd mem (by simp [boot])
  have always := run.always (I := fun s => Sound s ∧ Uses s ∧ Exact s)
    (fun s e is en ok => by
      have stepped := uses_next is.2.1 is.1 e en ok
      exact ⟨sound_next is.1 e en ok.1, stepped.1, is.2.2.step stepped.2⟩)
    ⟨sound_boot, uses, holds⟩
  exact always.mono fun s is => is.2.2

/-- The handle is used and closed. -/
def openUseClose : List Event :=
  openThere ++ [.use .read ⟨1, 2, 0, some 0⟩ true, .deliver 0 2 true, .deliver 0 0 true,
    .finish ⟨1, firstSlot, 2, 2, .use .read ⟨1, 2, 0, some 0⟩, true, 0, 0, none⟩ false true true,
    .close ⟨1, 2, 0, some 0⟩ true, .deliver 0 0 true]

theorem operations_exact_openUseClose :
    machine.Always Exact boot openUseClose ∧
      (machine.after boot openUseClose).log =
        [⟨⟨1, 2, 0, some 0⟩, some 0⟩, ⟨⟨1, 2, 0, some 0⟩, some 0⟩] :=
  ⟨operations_exact (by decide +kernel), by decide +kernel⟩

/-- With the library path option a file under /lib/ of node 2 is opened on node 1 itself, and read
on node 2, where another file of node 2 has its index. -/
def libraryOpen : List Event :=
  [.relink 1 2 (some 0), .relink 2 1 (some 0), .setHpc 1 true, .open 2 2 [] 0 true true,
    .open 1 2 (InterceptionHandlers.ascii "/lib/a.so") 0 true true,
    .use .read ⟨1, 2, 0, some 1⟩ true, .deliver 0 0 true]

theorem library_reads_another_file :
    ¬∀ es, machine.Runs boot es → Exact (machine.after boot es) := by
  intro holds
  have last := holds libraryOpen (by decide +kernel) ⟨⟨1, 2, 0, some 1⟩, some 0⟩ (by decide +kernel)
  exact absurd last.2 (by decide)

end MattX.VfsHandles
