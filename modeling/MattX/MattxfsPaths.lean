import MattX.DsmTypes
import Mathlib.Data.Int.Notation
import Mathlib.Data.List.Basic

set_option autoImplicit false

/-!
# Paths that MattXFS builds

`get_remote_path_from_dentry` fills a buffer of its caller from the end and
moves the result to the front. Memory is addressed by the distance from the
buffer, so what lies below it or behind it can be written too.
-/
namespace MattX.MattxfsPaths

def slash : BitVec 8 := 47

/-- A name as the VFS passes it on, of `NAME_MAX` bytes at most. -/
structure Name where
  bytes : Bytes
  legal : 0 < bytes.length ∧ bytes.length ≤ 255 ∧ 0 ∉ bytes ∧ slash ∉ bytes

/-- The root is its own parent. -/
inductive Dentry where
  | root
  | child (dName : Name) (dParent : Dentry)

def Dentry.isRoot : Dentry → Bool
  | .root => true
  | .child .. => false

abbrev Memory := ℤ → BitVec 8

def write (m : Memory) (start : ℤ) (b : Bytes) : Memory := fun a =>
  if start ≤ a then (b[(a - start).toNat]?).getD (m a) else m a

/-- `wrote`: where each write starts, and how many bytes it has. -/
structure Cursor where
  mem : Memory
  p : ℤ
  wrote : List (ℤ × ℤ)

/-- `p` goes back by as many bytes as are written there. -/
def Cursor.put (c : Cursor) (b : Bytes) : Cursor :=
  { mem := write c.mem (c.p - b.length) b
    p := c.p - b.length
    wrote := (c.p - b.length, (b.length : ℤ)) :: c.wrote }

/-- `while (!IS_ROOT(curr->d_parent))`. -/
def climb : Dentry → Cursor → Cursor
  | .root, c => c
  | .child dName dParent, c =>
    if dParent.isRoot then c else climb dParent ((c.put dName.bytes).put [slash])

def terminated (buflen : ℤ) (m : Memory) : Cursor := Cursor.put ⟨m, buflen, []⟩ [0]

def Cursor.rooted (c : Cursor) : Cursor := if c.mem c.p = 0 then c.put [slash] else c

/-- `memmove(buf, p, buf + buflen - p)`. -/
def Cursor.moved (c : Cursor) (buflen : ℤ) : Cursor :=
  { mem := fun a => if 0 ≤ a ∧ a < buflen - c.p then c.mem (c.p + a) else c.mem a
    p := c.p
    wrote := (0, buflen - c.p) :: c.wrote }

def getRemotePathFromDentry (d : Dentry) (buflen : ℤ) (m : Memory) : Cursor :=
  (climb d (terminated buflen m)).rooted.moved buflen

/-- Decimal digits with an optional sign, and the newline of a write to a file. -/
def kstrtoint (s : Bytes) : Option ℤ :=
  let negative := s.head? = some 45
  let unsigned := if negative ∨ s.head? = some 43 then s.tail else s
  let digits := if unsigned.getLast? = some 10 then unsigned.dropLast else unsigned
  let value : ℤ := digits.foldl (fun n b => 10 * n + (b.toNat - 48)) 0
  let signed := if negative then -value else value
  if digits ≠ [] ∧ (∀ b ∈ digits, 48 ≤ b.toNat ∧ b.toNat ≤ 57) ∧
      -2147483648 ≤ signed ∧ signed ≤ 2147483647 then some signed
  else none

def getNodeIdFromDentry : Dentry → ℤ
  | .root => -1
  | .child dName dParent =>
    if dParent.isRoot then (kstrtoint dName.bytes).getD (-1) else getNodeIdFromDentry dParent

/-- What `strncpy` takes of `path_buf` for a request, whose last byte it leaves. -/
def requestPath (m : Memory) : Bytes :=
  ((List.range 255).map fun (i : ℕ) => m i).takeWhile fun b => b != 0

/-- The other callers begin like this one, each with a request of its own. -/
def mattxfsRemoteUnlink (rpc : ℤ → Bytes → ℤ) (d : Dentry) (stack : Memory) : ℤ :=
  rpc (getNodeIdFromDentry d) (requestPath (getRemotePathFromDentry d 256 stack).mem)

/-! ### What the buffer is to hold -/

/-- The names from the node directory down. -/
def Dentry.components : Dentry → List Name
  | .root => []
  | .child dName dParent => if dParent.isRoot then [] else dParent.components ++ [dName]

def remotePath (d : Dentry) : Bytes := slash :: [slash].intercalate (d.components.map (·.bytes))

/-- From the start of the buffer on there is `s` and its NUL. -/
def Holds (m : Memory) (s : Bytes) : Prop := ∀ i < s.length + 1, (s ++ [0])[i]? = some (m i)

instance (m : Memory) (s : Bytes) : Decidable (Holds m s) :=
  inferInstanceAs (Decidable (∀ i < s.length + 1, (s ++ [0])[i]? = some (m i)))

def Inside (buflen : ℤ) (wrote : List (ℤ × ℤ)) : Prop :=
  ∀ w ∈ wrote, 0 ≤ w.1 ∧ w.1 + w.2 ≤ buflen

instance (buflen : ℤ) (wrote : List (ℤ × ℤ)) : Decidable (Inside buflen wrote) :=
  inferInstanceAs (Decidable (∀ w ∈ wrote, 0 ≤ w.1 ∧ w.1 + w.2 ≤ buflen))

/-- `refused`: whether the callers return an error because of the path. -/
def Right (d : Dentry) (buflen : ℤ) (m : Memory) (refused : Bool) : Prop :=
  Inside buflen (getRemotePathFromDentry d buflen m).wrote ∧
    (Holds (getRemotePathFromDentry d buflen m).mem (remotePath d) ∨ refused = true)

/-- The path and its NUL fit in the buffer. -/
def Fits (d : Dentry) (buflen : ℤ) : Prop := ((remotePath d).length : ℤ) + 1 ≤ buflen

instance (d : Dentry) (buflen : ℤ) : Decidable (Fits d buflen) :=
  inferInstanceAs (Decidable (((remotePath d).length : ℤ) + 1 ≤ buflen))

/-! ### Writing backwards -/

theorem write_get (m : Memory) (start : ℤ) (b : Bytes) (i : ℕ) (inside : i < b.length) :
    b[i]? = some (write m start b (start + i)) := by
  have place : (start + i - start).toNat = i := by omega
  rw [write, if_pos (by omega), place, List.getElem?_eq_getElem inside]
  rfl

/-- Two writes, the second one right below the first. -/
theorem write_append (m : Memory) (start : ℤ) (b b' : Bytes) :
    write (write m (start + b.length) b') start b = write m start (b ++ b') := by
  funext a
  simp only [write]
  by_cases low : start ≤ a
  · rw [if_pos low, if_pos low, List.getElem?_append]
    by_cases first : (a - start).toNat < b.length
    · rw [if_pos first, List.getElem?_eq_getElem first]
      rfl
    · have high : start + b.length ≤ a := by omega
      have place : (a - (start + b.length)).toNat = (a - start).toNat - b.length := by omega
      rw [if_neg first, List.getElem?_eq_none (by omega), if_pos high, place]
      rfl
  · rw [if_neg low, if_neg low, if_neg (by omega)]

@[simp] theorem put_mem (c : Cursor) (b : Bytes) :
    (c.put b).mem = write c.mem (c.p - b.length) b := rfl

@[simp] theorem put_p (c : Cursor) (b : Bytes) : (c.put b).p = c.p - b.length := rfl

@[simp] theorem put_wrote (c : Cursor) (b : Bytes) :
    (c.put b).wrote = (c.p - b.length, (b.length : ℤ)) :: c.wrote := rfl

theorem put_put (c : Cursor) (b b' : Bytes) :
    ((c.put b').put b).mem = (c.put (b ++ b')).mem ∧
      ((c.put b').put b).p = (c.put (b ++ b')).p := by
  have back : c.p - ((b ++ b').length : ℤ) = c.p - b'.length - b.length := by
    rw [List.length_append]
    omega
  have up : c.p - (b'.length : ℤ) = c.p - b'.length - b.length + b.length := by omega
  constructor
  · simp only [put_mem, put_p, back]
    rw [← write_append, ← up]
  · exact back.symm

theorem put_same {c c' : Cursor} (mem : c.mem = c'.mem) (p : c.p = c'.p) (b : Bytes) :
    (c.put b).mem = (c'.put b).mem ∧ (c.put b).p = (c'.put b).p := by
  rw [put_mem, put_mem, put_p, put_p, mem, p]
  exact ⟨rfl, rfl⟩

theorem put_nil (c : Cursor) : (c.put []).mem = c.mem ∧ (c.put []).p = c.p := by
  refine ⟨?_, Int.sub_zero c.p⟩
  funext a
  simp [Cursor.put, write]

def joined (d : Dentry) : Bytes := d.components.flatMap fun n => slash :: n.bytes

theorem joined_child (dName : Name) {dParent : Dentry} (deep : dParent.isRoot = false) :
    joined (.child dName dParent) = joined dParent ++ slash :: dName.bytes := by
  rw [joined, Dentry.components, deep, if_neg (by decide), List.flatMap_append]
  simp [joined]

theorem climb_stays (dName : Name) {dParent : Dentry} (top : dParent.isRoot = true) :
    joined (.child dName dParent) = [] := by
  rw [joined, Dentry.components, if_pos top]
  rfl

@[simp] theorem terminated_p (buflen : ℤ) (m : Memory) : (terminated buflen m).p = buflen - 1 :=
  rfl

@[simp] theorem terminated_wrote (buflen : ℤ) (m : Memory) :
    (terminated buflen m).wrote = [(buflen - 1, 1)] := rfl

/-- The loop leaves what one write of all the names would. -/
theorem climb_put (d : Dentry) (c : Cursor) :
    (climb d c).mem = (c.put (joined d)).mem ∧ (climb d c).p = (c.put (joined d)).p := by
  induction d generalizing c with
  | root => exact ⟨(put_nil c).1.symm, (put_nil c).2.symm⟩
  | child dName dParent ih =>
    cases top : dParent.isRoot with
    | true =>
      rw [climb, if_pos top, climb_stays dName top]
      exact ⟨(put_nil c).1.symm, (put_nil c).2.symm⟩
    | false =>
      have step := put_put c [slash] dName.bytes
      have whole := put_put c (joined dParent) (slash :: dName.bytes)
      rw [climb, top, if_neg (by decide), joined_child dName top, (ih _).1, (ih _).2,
        ← whole.1, ← whole.2]
      exact put_same step.1 step.2 _

theorem climb_wrote (d : Dentry) (c : Cursor) :
    ∀ w ∈ (climb d c).wrote, w ∈ c.wrote ∨ (climb d c).p ≤ w.1 ∧ w.1 + w.2 ≤ c.p := by
  induction d generalizing c with
  | root => exact fun w mem => Or.inl mem
  | child dName dParent ih =>
    intro w mem
    rw [climb] at mem ⊢
    cases top : dParent.isRoot with
    | true =>
      rw [top] at mem
      exact Or.inl mem
    | false =>
      rw [top, if_neg (by decide)] at mem
      rw [if_neg (by decide)]
      have low := (climb_put dParent ((c.put dName.bytes).put [slash])).2
      simp only [put_p, List.length_singleton] at low
      rcases ih _ w mem with old | ⟨above, below⟩
      · simp only [put_wrote, put_p, List.length_singleton, List.mem_cons] at old
        rcases old with rfl | rfl | old
        · exact Or.inr ⟨by rw [low]; omega, by omega⟩
        · exact Or.inr ⟨by rw [low]; omega, by omega⟩
        · exact Or.inl old
      · simp only [put_p, List.length_singleton] at below
        exact Or.inr ⟨above, by omega⟩

/-! ### The whole path -/

theorem joined_names (names : List Name) (some_name : names ≠ []) :
    slash :: [slash].intercalate (names.map (·.bytes)) =
      names.flatMap fun n => slash :: n.bytes := by
  induction names with
  | nil => exact absurd rfl some_name
  | cons n names ih =>
    cases names with
    | nil => simp [List.intercalate_singleton]
    | cons n' names =>
      rw [List.map_cons, List.map_cons, List.intercalate_cons_cons, List.flatMap_cons,
        ← ih (by simp)]
      simp

theorem remotePath_eq (d : Dentry) :
    remotePath d = if joined d = [] then [slash] else joined d := by
  rw [remotePath]
  cases names : d.components with
  | nil => simp [joined, names]
  | cons n rest =>
    have none_empty : joined d ≠ [] := by simp [joined, names]
    rw [if_neg none_empty, joined_names _ (List.cons_ne_nil n rest), joined, names]

theorem joined_head {d : Dentry} (some_name : joined d ≠ []) : (joined d)[0]? = some slash := by
  rw [joined] at some_name ⊢
  cases names : d.components with
  | nil => simp [names] at some_name
  | cons n rest => rfl

theorem climbed_eq (d : Dentry) (buflen : ℤ) (m : Memory) :
    (climb d (terminated buflen m)).mem =
        write m (buflen - (joined d).length - 1) (joined d ++ [0]) ∧
      (climb d (terminated buflen m)).p = buflen - (joined d).length - 1 := by
  have climbed := climb_put d (terminated buflen m)
  have whole := put_put ⟨m, buflen, []⟩ (joined d) [0]
  have start : buflen - ((joined d ++ [0]).length : ℤ) = buflen - (joined d).length - 1 := by
    rw [List.length_append, List.length_singleton]
    omega
  rw [climbed.1, climbed.2, terminated, whole.1, whole.2, put_mem, put_p, start]
  exact ⟨rfl, rfl⟩

/-- Before the move: the path and its NUL are the last bytes of the buffer. -/
theorem rooted_eq (d : Dentry) (buflen : ℤ) (m : Memory) :
    (climb d (terminated buflen m)).rooted.mem =
        write m (buflen - (remotePath d).length - 1) (remotePath d ++ [0]) ∧
      (climb d (terminated buflen m)).rooted.p = buflen - (remotePath d).length - 1 := by
  have ⟨mem, p⟩ := climbed_eq d buflen m
  have first := write_get m (buflen - (joined d).length - 1) (joined d ++ [0]) 0 (by simp)
  rw [Int.natCast_zero, Int.add_zero] at first
  by_cases top : joined d = []
  · rw [top] at mem p first
    have nul : (climb d (terminated buflen m)).mem (climb d (terminated buflen m)).p = 0 := by
      rw [mem, p]
      exact (Option.some_inj.mp first).symm
    rw [Cursor.rooted, if_pos nul, put_mem, put_p, mem, p, remotePath_eq, if_pos top]
    have both := write_append m (buflen - 1 - 1) [slash] [0]
    have up : buflen - 1 - 1 + ([slash].length : ℤ) = buflen - 1 := Int.sub_add_cancel ..
    rw [up] at both
    simp only [List.length_nil, List.length_singleton, List.nil_append, Int.natCast_zero,
      Int.natCast_one, Int.sub_zero, and_true]
    exact both
  · rw [List.getElem?_append_left (List.length_pos_iff.mpr top), joined_head top] at first
    have named : (climb d (terminated buflen m)).mem (climb d (terminated buflen m)).p ≠ 0 := by
      rw [mem, p, ← Option.some_inj.mp first]
      decide
    rw [Cursor.rooted, if_neg named, remotePath_eq, if_neg top]
    exact ⟨mem, p⟩

theorem mem_rooted {c : Cursor} {w : ℤ × ℤ} (mem : w ∈ c.rooted.wrote) :
    w ∈ c.wrote ∨ c.rooted.p ≤ w.1 ∧ w.1 + w.2 ≤ c.p := by
  rw [Cursor.rooted] at mem ⊢
  split_ifs at mem ⊢ with nul
  · rcases List.mem_cons.mp mem with rfl | old
    · refine Or.inr ⟨Int.le_refl _, ?_⟩
      rw [List.length_singleton]
      omega
    · exact Or.inl old
  · exact Or.inl mem

theorem remotePath_pos (d : Dentry) : 0 < (remotePath d).length := Nat.zero_lt_succ _

theorem inside_iff (d : Dentry) (buflen : ℤ) (m : Memory) :
    Inside buflen (getRemotePathFromDentry d buflen m).wrote ↔ Fits d buflen := by
  have p := (rooted_eq d buflen m).2
  have some_byte := remotePath_pos d
  rw [getRemotePathFromDentry, Fits]
  constructor
  · intro inside
    -- what is moved is the path with its NUL
    have last := inside _ (List.mem_cons_self ..)
    simp only [p] at last
    omega
  · intro fits w mem
    rcases List.mem_cons.mp mem with rfl | mem
    · simp only [p]
      omega
    · have lowest : (climb d (terminated buflen m)).rooted.p ≤
          (climb d (terminated buflen m)).p := by
        rw [Cursor.rooted]
        split_ifs
        · rw [put_p]
          omega
        · exact Int.le_refl _
      have top := (climbed_eq d buflen m).2
      rcases mem_rooted mem with mem | ⟨above, below⟩
      · rcases climb_wrote d _ w mem with old | ⟨above, below⟩
        · rw [terminated_wrote, List.mem_singleton] at old
          rw [old]
          exact ⟨by omega, by omega⟩
        · rw [terminated_p] at below
          exact ⟨by omega, by omega⟩
      · exact ⟨by omega, by omega⟩

theorem holds_path (d : Dentry) (buflen : ℤ) (m : Memory) :
    Holds (getRemotePathFromDentry d buflen m).mem (remotePath d) := by
  intro i inside
  have ⟨mem, p⟩ := rooted_eq d buflen m
  have here : (0 : ℤ) ≤ i ∧ (i : ℤ) < buflen - (climb d (terminated buflen m)).rooted.p := by
    rw [p]
    omega
  rw [getRemotePathFromDentry, Cursor.moved]
  simp only
  rw [if_pos here, mem, p]
  exact write_get _ _ _ _ (by simpa using inside)

/-- Whatever the callers make of it. -/
theorem path_right_iff (d : Dentry) (buflen : ℤ) (m : Memory) (refused : Bool) :
    Right d buflen m refused ↔ Fits d buflen := by
  rw [Right, inside_iff]
  constructor
  · exact fun right => right.1
  · exact fun fits => ⟨fits, Or.inl (holds_path d buflen m)⟩

theorem no_nul (d : Dentry) : (0 : BitVec 8) ∉ remotePath d := by
  have joined_no_nul : (0 : BitVec 8) ∉ joined d := by
    intro mem
    obtain ⟨n, _, inside⟩ := List.mem_flatMap.mp mem
    rcases List.mem_cons.mp inside with nul | nul
    · exact absurd nul (by decide)
    · exact n.legal.2.2.1 nul
  rw [remotePath_eq]
  split_ifs
  · decide
  · exact joined_no_nul

theorem requestPath_eq {m : Memory} {s : Bytes} (holds : Holds m s) (plain : 0 ∉ s)
    (short : s.length < 256) : requestPath m = s := by
  have path : (List.range s.length).map (fun (i : ℕ) => m i) = s := by
    refine List.ext_getElem (by simp) fun i _ inside => ?_
    have here := holds i (by omega)
    rw [List.getElem?_append_left inside, List.getElem?_eq_getElem inside] at here
    rw [List.getElem_map, List.getElem_range]
    exact (Option.some_inj.mp here).symm
  have named : ∀ b ∈ s, (b != 0) = true := by
    intro b mem
    exact bne_iff_ne.mpr fun nul => plain (nul ▸ mem)
  obtain ⟨left, room⟩ : ∃ left, 255 = s.length + left := ⟨255 - s.length, by omega⟩
  rw [requestPath, room, List.range_add, List.map_append, path,
    List.takeWhile_append_of_pos named]
  cases left with
  | zero => exact List.append_nil s
  | succ left =>
    have nul := holds s.length (Nat.lt_succ_self _)
    rw [List.getElem?_append_right (Nat.le_refl _), Nat.sub_self] at nul
    have ends : m s.length = 0 := (Option.some_inj.mp nul).symm
    rw [List.range_succ_eq_map, List.map_cons, List.map_cons, Nat.add_zero, ends,
      List.takeWhile_cons_of_neg (by decide), List.append_nil]

/-- A path that fits is the one that the other node is asked about. -/
theorem callers_name_path (rpc : ℤ → Bytes → ℤ) {d : Dentry} (stack : Memory)
    (fits : Fits d 256) :
    mattxfsRemoteUnlink rpc d stack = rpc (getNodeIdFromDentry d) (remotePath d) := by
  rw [Fits] at fits
  rw [mattxfsRemoteUnlink, requestPath_eq (holds_path d 256 stack) (no_nul d) (by omega)]

/-- A name of the greatest length. -/
def longName : Name where
  bytes := List.replicate 255 97
  legal := by
    rw [List.length_replicate, List.mem_replicate, List.mem_replicate]
    decide

def nodeOne : Dentry := .child ⟨[49], by decide⟩ .root

/-- One such name is too long for the `path_buf[256]` of the callers. -/
theorem longest_name_overflows :
    ¬∀ d m refused, Right d 256 m refused := by
  intro right
  have inside := (inside_iff _ _ _).mp (right (.child longName nodeOne) (fun _ => 0) true).1
  have length : (remotePath (.child longName nodeOne)).length = 256 := by
    have node : joined nodeOne = [] := rfl
    rw [remotePath_eq, joined_child longName rfl, node, List.nil_append,
      if_neg (List.cons_ne_nil _ _), List.length_cons]
    exact congrArg (· + 1) (List.length_replicate ..)
  rw [Fits, length] at inside
  omega

end MattX.MattxfsPaths
