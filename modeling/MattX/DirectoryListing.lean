import MattX.MattxfsPaths
import Mathlib.Data.List.Induction
import Mathlib.Tactic.ByContra

set_option autoImplicit false

/-!
# Directories of other nodes

A listing is cut by the 20 entries of a reply and by the buffer of the caller,
and goes on from a position that came with an entry or from where the iterator
of the other node stopped.
-/
namespace MattX.DirectoryListing
open MattxfsPaths (Name)

/-- `loff_t` and `u64` alike. -/
abbrev Pos := BitVec 64

structure Entry where
  name : Name
  ino : BitVec 64
  type : BitVec 8

/-- `struct mattx_dirent`, with the name as `strlen` finds it. -/
structure Dirent where
  ino : BitVec 64
  offset : Pos
  type : BitVec 8
  name : Bytes
  deriving DecidableEq

/-- An open directory of the underlying file system. `walk p` is what its iterator goes through from
`p` on, each entry with the position that is reported with it, and where it stops. -/
structure Directory where
  listing : List (Entry × Pos)
  stop : Pos
  walk : Pos → List (Entry × Pos) × Pos
  starts : walk 0 = (listing, stop)
  resumes : ∀ before e p after, listing = before ++ (e, p) :: after →
    walk p = ((e, p) :: after, stop)
  stopped : walk stop = ([], stop)

/-! ### The node of the directory -/

/-- False, and so `none`, once the reply is full. -/
def mattxFilldir (reply : List Dirent) (e : Entry) (offset : Pos) : Option (List Dirent) :=
  if 20 ≤ reply.length then none
  else some (reply ++ [⟨e.ino, offset, e.type, e.name.bytes.take 63⟩])

/-- `iterate_dir`: the entries, and where it leaves the position. -/
def iterateDir : List (Entry × Pos) → Pos → List Dirent → List Dirent × Pos
  | [], stop, reply => (reply, stop)
  | (e, p) :: rest, stop, reply =>
    match mattxFilldir reply e p with
    | some reply' => iterateDir rest stop reply'
    | none => (reply, p)

def handleVfsReaddirReq (d : Directory) (offset : Pos) : List Dirent × Pos :=
  iterateDir (d.walk offset).1 (d.walk offset).2 []

/-! ### The node of the caller -/

/-- How `mattx_rpc_vfs_readdir` comes back. `fails`: no memory, no slot, no link, an error in the
reply, or one left in the slot when the wait is interrupted. `stale`: the wait is interrupted, the
slot holds no error, and its last use left a position and a count of entries in it, of which the
buffer has nothing. -/
inductive Wait where
  | reply
  | fails (err : ℤ) (nonzero : err ≠ 0)
  | stale (newOffset : Pos) (entries : List Dirent) (few : entries.length ≤ 20)

/-- `accepts`: whether the caller's buffer takes an entry after those that it took in this call. -/
structure Call where
  wait : Wait
  accepts : List Dirent → Dirent → Bool

def mattxRpcVfsReaddir (d : Directory) (w : Wait) (offset : Pos) :
    Except ℤ (List Dirent × Pos) :=
  match w with
  | .reply => .ok (handleVfsReaddirReq d offset)
  | .fails err _ => .error err
  | .stale newOffset entries _ => .ok (entries, newOffset)

/-- What a call hands over, whether its buffer was full, and the position it leaves. -/
structure Result where
  took : List Dirent
  full : Bool
  pos : Pos

def emit (accepts : List Dirent → Dirent → Bool) (offset : Pos) :
    List Dirent → List Dirent → Result
  | [], took => ⟨took, false, offset⟩
  | e :: es, took =>
    if accepts took e then emit accepts offset es (took ++ [e]) else ⟨took, true, e.offset⟩

/-- An error leaves the position. -/
def mattxfsRemoteIterate (d : Directory) (c : Call) (pos : Pos) : Except ℤ Result :=
  match mattxRpcVfsReaddir d c.wait pos with
  | .ok (entries, offset) => .ok (emit c.accepts offset entries [])
  | .error err => .error err

/-- `ended`: some call has returned no entry, with room for one. -/
structure State where
  pos : Pos
  took : List Dirent
  ended : Bool

def opened : State := ⟨0, [], false⟩

def step (d : Directory) (s : State) (c : Call) : State :=
  match mattxfsRemoteIterate d c s.pos with
  | .ok r => ⟨r.pos, s.took ++ r.took, s.ended || r.took.isEmpty && !r.full⟩
  | .error _ => s

def list (d : Directory) (calls : List Call) : State := calls.foldl (step d) opened

/-! ### What a listing is to be -/

/-- Full name, inode number and type. -/
def Entry.shown (e : Entry) : Bytes × BitVec 64 × BitVec 8 := (e.name.bytes, e.ino, e.type)

def Dirent.shown (e : Dirent) : Bytes × BitVec 64 × BitVec 8 := (e.name, e.ino, e.type)

def Directory.entries (d : Directory) : List (Bytes × BitVec 64 × BitVec 8) :=
  d.listing.map fun x => x.1.shown

def Wait.isReply : Wait → Bool
  | .reply => true
  | .fails .. | .stale .. => false

def Wait.isStale : Wait → Bool
  | .stale .. => true
  | .reply | .fails .. => false

structure Right (d : Directory) (calls : List Call) : Prop where
  inOrder : (list d calls).took.map Dirent.shown <+: d.entries
  ends : (list d calls).ended = true → (list d calls).took.map Dirent.shown = d.entries
  goesOn : ∀ c, c.wait.isReply = true → (∀ e, c.accepts [] e = true) →
    (list d calls).took.map Dirent.shown ≠ d.entries →
    (list d calls).took.length < (list d (calls ++ [c])).took.length

/-! ### One call -/

def posOf (stop : Pos) : List (Entry × Pos) → Pos
  | [] => stop
  | (_, p) :: _ => p

def wire (x : Entry × Pos) : Dirent := ⟨x.1.ino, x.2, x.1.type, x.1.name.bytes.take 63⟩

theorem iterateDir_eq (es : List (Entry × Pos)) (stop : Pos) (reply : List Dirent) (room : ℕ)
    (left : reply.length + room = 20) :
    iterateDir es stop reply = (reply ++ (es.take room).map wire, posOf stop (es.drop room)) := by
  induction es generalizing reply room with
  | nil => simp [iterateDir, posOf]
  | cons x es ih =>
    obtain ⟨e, p⟩ := x
    rw [iterateDir, mattxFilldir]
    cases room with
    | zero =>
      rw [if_pos (by omega)]
      simp [posOf]
    | succ room =>
      rw [if_neg (by omega)]
      simp only
      rw [ih _ room (by rw [List.length_append, List.length_singleton]; omega)]
      simp [wire]

theorem emit_eq (accepts : List Dirent → Dirent → Bool) (offset : Pos) (es took : List Dirent) :
    ∃ n ≤ es.length, (emit accepts offset es took).took = took ++ es.take n ∧
      (emit accepts offset es took).full = decide (n < es.length) ∧
      (emit accepts offset es took).pos = ((es.drop n).head?.map Dirent.offset).getD offset := by
  induction es generalizing took with
  | nil => exact ⟨0, Nat.le_refl 0, (List.append_nil took).symm, rfl, rfl⟩
  | cons e es ih =>
    rw [emit]
    split_ifs with room
    · obtain ⟨n, small, taken, full, pos⟩ := ih (took ++ [e])
      refine ⟨n + 1, Nat.succ_le_succ small, ?_, ?_, ?_⟩
      · rw [taken, List.append_assoc]
        rfl
      · rw [full, List.length_cons]
        exact decide_eq_decide.mpr Nat.succ_lt_succ_iff.symm
      · rw [pos]
        rfl
    · refine ⟨0, Nat.zero_le _, (List.append_nil took).symm, ?_, rfl⟩
      exact (decide_eq_true (Nat.succ_pos _)).symm

theorem emit_first {accepts : List Dirent → Dirent → Bool} (first : ∀ e, accepts [] e = true)
    (offset : Pos) {es : List Dirent} (some_entry : es ≠ []) :
    0 < (emit accepts offset es []).took.length := by
  cases es with
  | nil => exact absurd rfl some_entry
  | cons e es =>
    obtain ⟨n, _, taken, _⟩ := emit_eq accepts offset es ([] ++ [e])
    rw [emit, if_pos (first e), taken, List.length_append]
    exact Nat.add_pos_left (Nat.succ_pos _) _

/-- The position that a call leaves is that of the first entry it has not handed over. -/
theorem posOf_drop (stop : Pos) (l : List (Entry × Pos)) {n m : ℕ} (le : n ≤ (l.take m).length) :
    ((((l.take m).map wire).drop n).head?.map Dirent.offset).getD (posOf stop (l.drop m)) =
      posOf stop (l.drop n) := by
  have rest : l.drop n = (l.take m).drop n ++ l.drop m := by
    conv_lhs => rw [← List.take_append_drop m l]
    exact List.drop_append_of_le_length le
  rw [rest, ← List.map_drop]
  cases (l.take m).drop n <;> rfl

theorem walk_posOf {d : Directory} {before after : List (Entry × Pos)}
    (whole : d.listing = before ++ after) : d.walk (posOf d.stop after) = (after, d.stop) := by
  cases after with
  | nil => exact d.stopped
  | cons x after => exact d.resumes before x.1 x.2 after whole

/-! ### Runs of calls -/

/-- The entries before the place have been handed over, those behind it are still to come. -/
structure At (d : Directory) (s : State) (before after : List (Entry × Pos)) : Prop where
  whole : d.listing = before ++ after
  took : s.took = before.map wire
  walk : d.walk s.pos = (after, d.stop)
  ended : s.ended = true → after = []

section
variable {d : Directory} {s : State} {before after : List (Entry × Pos)}

theorem at_opened (d : Directory) : At d opened [] d.listing := by
  refine ⟨rfl, rfl, d.starts, ?_⟩
  intro ended
  cases ended

theorem At.request (h : At d s before after) : handleVfsReaddirReq d s.pos =
    ((after.take 20).map wire, posOf d.stop (after.drop 20)) := by
  rw [handleVfsReaddirReq, h.walk, iterateDir_eq after d.stop [] 20 rfl, List.nil_append]

theorem At.reply (h : At d s before after) {c : Call} (replied : c.wait.isReply = true) :
    ∃ n, At d (step d s c) (before ++ after.take n) (after.drop n) := by
  obtain ⟨wait, accepts⟩ := c
  cases wait with
  | fails err nonzero => cases replied
  | stale newOffset entries few => cases replied
  | reply =>
    obtain ⟨n, small, taken, full, pos⟩ := emit_eq accepts (posOf d.stop (after.drop 20))
      ((after.take 20).map wire) []
    rw [List.length_map] at small full
    rw [posOf_drop d.stop after small] at pos
    have within : n ≤ 20 := Nat.le_trans small (List.length_take_le ..)
    have split : d.listing = (before ++ after.take n) ++ after.drop n := by
      rw [List.append_assoc, List.take_append_drop]
      exact h.whole
    rw [List.nil_append, ← List.map_take, List.take_take, Nat.min_eq_left within] at taken
    simp only [step, mattxfsRemoteIterate, mattxRpcVfsReaddir, h.request]
    refine ⟨n, split, ?_, ?_, ?_⟩
    · simp only [taken]
      rw [h.took, List.map_append]
    · simp only [pos]
      exact walk_posOf split
    · intro ended
      rw [taken, full, Bool.or_eq_true, Bool.and_eq_true] at ended
      rcases ended with before_this | ⟨nothing, room⟩
      · rw [h.ended before_this, List.drop_nil]
      · have none_taken : (after.take n).length = 0 := by
          rw [List.isEmpty_iff, List.map_eq_nil_iff] at nothing
          rw [nothing, List.length_nil]
        rw [Bool.not_eq_true', decide_eq_false_iff_not] at room
        rw [List.length_take] at none_taken room
        rw [List.eq_nil_of_length_eq_zero (by omega : after.length = 0), List.drop_nil]

/-- A call that has room for what it is offered first moves on. -/
theorem At.moves (h : At d s before after) (some_left : after ≠ []) {c : Call}
    (replied : c.wait.isReply = true) (first : ∀ e, c.accepts [] e = true) :
    s.took.length < (step d s c).took.length := by
  obtain ⟨wait, accepts⟩ := c
  cases wait with
  | fails err nonzero => cases replied
  | stale newOffset entries few => cases replied
  | reply =>
    have offered : (after.take 20).map wire ≠ [] := by
      intro nothing
      rw [List.map_eq_nil_iff, List.take_eq_nil_iff] at nothing
      exact some_left (nothing.resolve_left (by decide))
    have some_taken : 0 < (emit accepts (posOf d.stop (after.drop 20))
        ((after.take 20).map wire) []).took.length := emit_first first _ offered
    simp only [step, mattxfsRemoteIterate, mattxRpcVfsReaddir, h.request, List.length_append]
    omega

theorem at_list (d : Directory) {calls : List Call}
    (fresh : ∀ c ∈ calls, c.wait.isStale = false) :
    ∃ before after, At d (list d calls) before after := by
  induction calls using List.reverseRecOn with
  | nil => exact ⟨[], d.listing, at_opened d⟩
  | append_singleton calls c ih =>
    obtain ⟨before, after, h⟩ := ih fun c' mem => fresh c' (List.mem_append_left _ mem)
    have last := fresh c (List.mem_append_right _ (List.mem_singleton_self c))
    have stepped : list d (calls ++ [c]) = step d (list d calls) c := List.foldl_concat ..
    rw [stepped]
    cases replied : c.wait.isReply with
    | true =>
      obtain ⟨n, next⟩ := h.reply replied
      exact ⟨_, _, next⟩
    | false =>
      obtain ⟨wait, accepts⟩ := c
      cases wait with
      | reply => cases replied
      | stale newOffset entries few => cases last
      | fails err nonzero => exact ⟨before, after, h⟩

end

/-! ### Complete listings -/

def Short (d : Directory) : Prop := ∀ x ∈ d.listing, x.1.name.bytes.length ≤ 63

theorem shown_wire {d : Directory} (short : Short d) {l : List (Entry × Pos)}
    (part : ∀ x ∈ l, x ∈ d.listing) :
    (l.map wire).map Dirent.shown = l.map fun x => x.1.shown := by
  rw [List.map_map]
  refine List.map_congr_left fun x mem => ?_
  change (x.1.name.bytes.take 63, x.1.ino, x.1.type) = (x.1.name.bytes, x.1.ino, x.1.type)
  rw [List.take_of_length_le (short x (part x mem))]

theorem right_of_short {d : Directory} (short : Short d) {calls : List Call}
    (fresh : ∀ c ∈ calls, c.wait.isStale = false) : Right d calls := by
  obtain ⟨before, after, h⟩ := at_list d fresh
  have shown : (list d calls).took.map Dirent.shown = before.map fun x => x.1.shown := by
    rw [h.took]
    refine shown_wire short fun x mem => ?_
    rw [h.whole]
    exact List.mem_append_left _ mem
  have entries : d.entries =
      (before.map fun x => x.1.shown) ++ after.map fun x => x.1.shown := by
    rw [Directory.entries, h.whole, List.map_append]
  refine ⟨?_, ?_, ?_⟩
  · rw [shown, entries]
    exact List.prefix_append ..
  · intro ended
    rw [shown, entries, h.ended ended]
    exact (List.append_nil _).symm
  · intro c replied first unfinished
    have some_left : after ≠ [] := by
      rintro rfl
      refine unfinished ?_
      rw [shown, entries]
      exact (List.append_nil _).symm
    have stepped : list d (calls ++ [c]) = step d (list d calls) c := List.foldl_concat ..
    rw [stepped]
    exact h.moves some_left replied first

def wholeCall : Call := ⟨.reply, fun _ _ => true⟩

/-- Calls with room for all they are offered come to the end. -/
theorem list_complete {d : Directory} (right : ∀ n, Right d (List.replicate n wholeCall)) :
    ∃ n, (list d (List.replicate n wholeCall)).took.map Dirent.shown = d.entries := by
  by_contra never
  have grows : ∀ n, n ≤ (list d (List.replicate n wholeCall)).took.length := by
    intro n
    induction n with
    | zero => exact Nat.zero_le _
    | succ n ih =>
      have more := (right n).goesOn wholeCall rfl (fun _ => rfl) fun same => never ⟨n, same⟩
      rw [List.replicate_succ']
      omega
  have long := grows (d.entries.length + 1)
  have bounded := (right (d.entries.length + 1)).inOrder.length_le
  rw [List.length_map] at bounded
  omega

theorem short_of_right {d : Directory} (right : ∀ n, Right d (List.replicate n wholeCall)) :
    Short d := by
  obtain ⟨n, complete⟩ := list_complete right
  have fresh : ∀ c ∈ List.replicate n wholeCall, c.wait.isStale = false := by
    intro c mem
    rw [List.eq_of_mem_replicate mem]
    rfl
  obtain ⟨before, after, h⟩ := at_list d fresh
  rw [h.took, List.map_map] at complete
  have length := congrArg List.length complete
  have split := congrArg List.length h.whole
  rw [List.length_map, Directory.entries, List.length_map] at length
  rw [List.length_append] at split
  have all : before = d.listing := by
    rw [h.whole, List.eq_nil_of_length_eq_zero (by omega : after.length = 0), List.append_nil]
  rw [all, Directory.entries, List.map_inj_left] at complete
  intro x mem
  have name : x.1.name.bytes.take 63 = x.1.name.bytes := congrArg Prod.fst (complete x mem)
  rw [← name]
  exact List.length_take_le ..

/-- `signals`: whether a wait may be interrupted while its slot holds no error. -/
theorem listing_complete_iff (d : Directory) (signals : Bool) :
    (∀ calls : List Call, (signals = false → ∀ c ∈ calls, c.wait.isStale = false) →
      Right d calls) ↔ Short d ∧ signals = false := by
  constructor
  · intro right
    refine ⟨short_of_right fun n => right _ fun _ c mem => ?_, ?_⟩
    · rw [List.eq_of_mem_replicate mem]
      rfl
    · cases signals with
      | false => rfl
      | true =>
        -- a slot that was left with one entry, of which the buffer knows nothing
        have shown := (right [⟨.stale 0 [⟨0, 0, 0, []⟩] (by decide), fun _ _ => true⟩]
          (fun never => absurd never (by decide))).inOrder
        obtain ⟨rest, entries⟩ := shown
        have first : ([], 0, 0) ∈ d.entries := by
          rw [← entries]
          exact List.mem_append_left _ (List.mem_singleton_self _)
        obtain ⟨x, _, same⟩ := List.mem_map.mp first
        have unnamed : x.1.name.bytes = [] := congrArg Prod.fst same
        have named := x.1.name.legal.1
        rw [unnamed] at named
        exact absurd named (by decide)
  · rintro ⟨short, rfl⟩ calls fresh
    exact right_of_short short (fresh rfl)

/-- A directory of one file, whose position is that of the listing's start. -/
def oneFile (name : Name) : Directory where
  listing := [(⟨name, 7, 8⟩, 0)]
  stop := 1
  walk p := if p = 0 then ([(⟨name, 7, 8⟩, 0)], 1) else ([], 1)
  starts := rfl
  resumes := by
    intro before e p after whole
    obtain ⟨rfl, rest⟩ : before = [] ∧ [(⟨name, 7, 8⟩, 0)] = (e, p) :: after := by
      cases before with
      | nil => exact ⟨rfl, whole⟩
      | cons x before => simp at whole
    obtain ⟨same, rfl⟩ := List.cons.inj rest
    obtain ⟨rfl, rfl⟩ := Prod.mk.inj same
    rfl
  stopped := rfl

theorem long_name_is_cut :
    ¬∀ d calls, (∀ c ∈ calls, c.wait.isReply = true) → Right d calls := by
  intro right
  have short : Short (oneFile MattxfsPaths.longName) := by
    refine short_of_right fun n => right _ _ fun c mem => ?_
    rw [List.eq_of_mem_replicate mem]
    rfl
  have length := short _ (List.mem_singleton_self _)
  have long : MattxfsPaths.longName.bytes.length = 255 := List.length_replicate ..
  change MattxfsPaths.longName.bytes.length ≤ 63 at length
  omega

end MattX.DirectoryListing
