import MattX.NodeJoin

set_option autoImplicit false

/-!
# When two nodes agree on their connection

There is at most one connection in each direction. How far the two have come
decides what each side has in its map; where both have been registered by the
nodes that made them, the heartbeats cross and no order of them is right.
-/
namespace MattX.NodeJoin
open GuardedRuns

/-- A join finds no link, and where it fails the other side can still start one; memory is there and
the heartbeat is sent; a heartbeat does not replace a link whose own heartbeat is still to come. -/
def Orderly (s : State) : Event → Prop
  | .beacon .. => True
  | .connect a connected => ∀ j ∈ s.join a,
    a < maxNodes ∧ j.peer < maxNodes ∧ s.clusterMap a j.peer = none ∧
      (connected = false → a ∉ s.known j.peer ∨
        ∃ c, c < s.made ∧ (s.conns c).client = j.peer ∧ (s.conns c).server = a)
  | .register _ sent => sent = true
  | .accept _ alloc => alloc = true
  | .heartbeat c => ∀ d ∈ s.clusterMap (s.conns c).server (s.conns c).client,
    d ≠ c → (s.conns d).nodeId ≠ none

instance (s : State) (e : Event) : Decidable (Orderly s e) :=
  match e with
  | .beacon .. => isTrue trivial
  | .connect a connected => inferInstanceAs (Decidable (∀ j ∈ s.join a,
      a < maxNodes ∧ j.peer < maxNodes ∧ s.clusterMap a j.peer = none ∧
        (connected = false → a ∉ s.known j.peer ∨
          ∃ c, c < s.made ∧ (s.conns c).client = j.peer ∧ (s.conns c).server = a)))
  | .register _ sent => inferInstanceAs (Decidable (sent = true))
  | .accept _ alloc => inferInstanceAs (Decidable (alloc = true))
  | .heartbeat c =>
    inferInstanceAs (Decidable (∀ d ∈ s.clusterMap (s.conns c).server (s.conns c).client,
      d ≠ c → (s.conns d).nodeId ≠ none))

/-- How far a connection has come: made, its heartbeat sent, its heartbeat handled. -/
inductive Phase where
  | fresh | sent | heard
  deriving DecidableEq

def Conn.phase (x : Conn) : Phase :=
  if x.nodeId ≠ none then .heard else if x.beat then .sent else .fresh

/-- What the map of `a` has for `b`, given the connections both ways. -/
structure Pair (s : State) (a b : ℕ) : Prop where
  empty : s.clusterMap a b = none ↔ (∀ c, Own s a b c → (s.conns c).phase = .fresh) ∧
    ∀ d, Own s b a d → (s.conns d).phase ≠ .heard
  range : ∀ c, s.clusterMap a b = some c → Own s a b c ∨ Own s b a c
  own : ∀ c, Own s a b c → s.clusterMap a b = some c → (s.conns c).phase ≠ .fresh ∧
    ((s.conns c).phase = .heard → ∀ d, Own s b a d → (s.conns d).phase = .heard →
      s.clusterMap b a = some c)
  other : ∀ d, Own s b a d → s.clusterMap a b = some d → (s.conns d).phase = .heard ∧
    ∀ c, Own s a b c → (s.conns c).phase ≠ .fresh →
      s.clusterMap b a = some d ∧ (s.conns c).phase = .heard
  client : ∀ c, Own s a b c → s.clusterMap a b = some c → (s.conns c).clientOpen = true
  server : ∀ d, Own s b a d → s.clusterMap a b = some d → (s.conns d).serverOpen = true

structure Sound (s : State) : Prop where
  pair : ∀ a b, a ≠ b → Pair s a b
  single : ∀ a b c d, Own s a b c → Own s a b d → c = d
  joining : ∀ a b c, s.join a = some ⟨b, some c⟩ → Own s a b c ∧ (s.conns c).phase = .fresh ∧
    (s.conns c).clientOpen = true
  unregistered : ∀ a b c, Own s a b c → (s.conns c).phase = .fresh →
    s.join a = some ⟨b, some c⟩
  apart : ∀ a b l, s.join a = some ⟨b, l⟩ → b ≠ a
  ids : ∀ a b c, Own s a b c → a ≠ b ∧ a < maxNodes
  known : ∀ a b, b ∈ s.known a → a ∈ s.known b → (∃ c, Own s a b c) ∨ ∃ c, Own s b a c
  whole : s.torn = false

theorem sound_start : Sound start where
  pair a b _ := by constructor <;> simp [start, Own]
  single := by simp [start, Own]
  joining := by simp [start]
  unregistered := by simp [start, Own]
  apart := by simp [start]
  ids := by simp [start, Own]
  known := by simp [start]
  whole := rfl

/-! ### Where it is quiet -/

theorem Quiet.symm {s : State} {a b : ℕ} (h : Quiet s a b) : Quiet s b a :=
  ⟨h.joinBack, h.join, fun c own => h.heard c own.symm⟩

/-- What happens to other connections and other entries of the maps does not matter. -/
theorem Pair.congr {s s' : State} {a b : ℕ} (h : Pair s a b)
    (own : ∀ c, Own s' a b c ↔ Own s a b c) (back : ∀ c, Own s' b a c ↔ Own s b a c)
    (map : s'.clusterMap a b = s.clusterMap a b) (map' : s'.clusterMap b a = s.clusterMap b a)
    (conns : ∀ c, Own s a b c ∨ Own s b a c → (s'.conns c).phase = (s.conns c).phase ∧
      (s'.conns c).clientOpen = (s.conns c).clientOpen ∧
      (s'.conns c).serverOpen = (s.conns c).serverOpen) : Pair s' a b := by
  have mine := fun c is => conns c (Or.inl is)
  have theirs := fun c is => conns c (Or.inr is)
  constructor
  case empty =>
    rw [map, h.empty]
    simp only [own, back]
    constructor
    · intro both
      exact ⟨fun c is => (mine c is).1.trans (both.1 c is),
        fun d is => by rw [(theirs d is).1]; exact both.2 d is⟩
    · intro both
      exact ⟨fun c is => (mine c is).1.symm.trans (both.1 c is),
        fun d is => by rw [← (theirs d is).1]; exact both.2 d is⟩
  case range =>
    intro c is
    rw [map] at is
    rw [own, back]
    exact h.range c is
  case own =>
    intro c is at'
    rw [own] at is
    rw [map] at at'
    have was := h.own c is at'
    rw [(mine c is).1, map']
    refine ⟨was.1, fun heard d other heard' => ?_⟩
    rw [back] at other
    rw [(theirs d other).1] at heard'
    exact was.2 heard d other heard'
  case other =>
    intro d is at'
    rw [back] at is
    rw [map] at at'
    have was := h.other d is at'
    rw [(theirs d is).1, map']
    refine ⟨was.1, fun c is' fresh => ?_⟩
    rw [own] at is'
    rw [(mine c is').1] at fresh ⊢
    exact was.2 c is' fresh
  case client =>
    intro c is at'
    rw [own] at is
    rw [map] at at'
    rw [(mine c is).2.1]
    exact h.client c is at'
  case server =>
    intro d is at'
    rw [back] at is
    rw [map] at at'
    rw [(theirs d is).2.2]
    exact h.server d is at'

theorem sound_beacon {s : State} (h : Sound s) {a b : ℕ} (other : b ≠ a) (idle : s.join a = none)
    (sent : Bool) : Sound (triggerKernelJoin s a b sent) := by
  unfold triggerKernelJoin
  split_ifs
  · exact h
  · have join : ∀ x, x ≠ a → (setJoin s a (some ⟨b, none⟩)).join x = s.join x :=
      fun x ne => Function.update_of_ne ne _ _
    have now : (setJoin s a (some ⟨b, none⟩)).join a = some ⟨b, none⟩ := Function.update_self _ _ _
    constructor
    case pair =>
      intro x y ne
      exact (h.pair x y ne).congr (fun _ => Iff.rfl) (fun _ => Iff.rfl) rfl rfl
        fun _ _ => ⟨rfl, rfl, rfl⟩
    case single => exact h.single
    case joining =>
      intro x y c is
      by_cases same : x = a
      · rw [same, now] at is
        exact absurd is (by simp)
      · rw [join x same] at is
        exact h.joining x y c is
    case unregistered =>
      intro x y c own fresh
      have was := h.unregistered x y c own fresh
      by_cases same : x = a
      · rw [same, idle] at was
        exact absurd was (by simp)
      · rw [join x same]
        exact was
    case apart =>
      intro x y l is
      by_cases same : x = a
      · rw [same, now] at is
        have peer : b = y := congrArg Join.peer (Option.some.inj is)
        rw [same, ← peer]
        exact other
      · rw [join x same] at is
        exact h.apart x y l is
    case ids => exact h.ids
    case known => exact h.known
    case whole => exact h.whole
  · exact h

/-- What a join leaves behind: it is over and remembered. -/
theorem remember_join (s : State) (a b x : ℕ) :
    (remember s a b).join x = if x = a then none else s.join x := by
  by_cases same : x = a
  · simp [remember, same]
  · simp [remember, same]

theorem mem_remember {s : State} {a b x y : ℕ} (mem : y ∈ (remember s a b).known x) :
    y ∈ s.known x ∨ x = a ∧ y = b := by
  by_cases same : x = a
  · subst x
    simp only [remember, Function.update_self] at mem
    split_ifs at mem
    · rcases List.mem_append.mp mem with was | new
      · exact Or.inl was
      · exact Or.inr ⟨rfl, List.mem_singleton.mp new⟩
    · exact Or.inl mem
  · simp only [remember, Function.update_of_ne same] at mem
    exact Or.inl mem

/-- A join ends for a node that has no connection of its own making left unregistered, and the two
still have a connection or a way to get one. -/
theorem Sound.remember {s : State} (pair : ∀ a b, a ≠ b → Pair s a b)
    (single : ∀ a b c d, Own s a b c → Own s a b d → c = d) {a b : ℕ}
    (joining : ∀ x y c, x ≠ a → s.join x = some ⟨y, some c⟩ → Own s x y c ∧
      (s.conns c).phase = .fresh ∧ (s.conns c).clientOpen = true)
    (unregistered : ∀ x y c, Own s x y c → (s.conns c).phase = .fresh →
      x ≠ a ∧ s.join x = some ⟨y, some c⟩)
    (apart : ∀ x y l, s.join x = some ⟨y, l⟩ → y ≠ x)
    (ids : ∀ x y c, Own s x y c → x ≠ y ∧ x < maxNodes)
    (known : ∀ x y, y ∈ s.known x → x ∈ s.known y → (∃ c, Own s x y c) ∨ ∃ c, Own s y x c)
    (now : a ∉ s.known b ∨ (∃ c, Own s a b c) ∨ ∃ c, Own s b a c) (ne : b ≠ a)
    (whole : s.torn = false) : Sound (remember s a b) := by
  have known' : ∀ x y, y ∈ (NodeJoin.remember s a b).known x →
      x ∈ (NodeJoin.remember s a b).known y →
      (∃ c, Own s x y c) ∨ ∃ c, Own s y x c := by
    intro x y there back
    cases mem_remember there with
    | inl was =>
      cases mem_remember back with
      | inl was' => exact known x y was was'
      | inr new =>
        rw [new.1, new.2] at was ⊢
        cases now with
        | inl no => exact absurd was no
        | inr some => exact some.symm
    | inr new =>
      cases mem_remember back with
      | inl was' =>
        rw [new.1, new.2] at was' ⊢
        cases now with
        | inl no => exact absurd was' no
        | inr some => exact some
      | inr new' => exact absurd (new.2.symm.trans new'.1) ne
  constructor
  case pair =>
    intro x y apart
    exact (pair x y apart).congr (fun _ => Iff.rfl) (fun _ => Iff.rfl) rfl rfl
      fun _ _ => ⟨rfl, rfl, rfl⟩
  case single => exact single
  case joining =>
    intro x y c is
    rw [remember_join] at is
    split_ifs at is with same
    exact joining x y c same is
  case unregistered =>
    intro x y c own fresh
    have was := unregistered x y c own fresh
    rw [remember_join, if_neg was.1]
    exact was.2
  case apart =>
    intro x y l is
    rw [remember_join] at is
    split_ifs at is
    exact apart x y l is
  case ids => exact ids
  case known => exact known'
  case whole => exact whole

section Open
variable (s : State) (a b : ℕ)

theorem openConn_old {c : ℕ} (lt : c < s.made) : (openConn s a b).conns c = s.conns c :=
  Function.update_of_ne (Nat.ne_of_lt lt) _ _

theorem openConn_new :
    (openConn s a b).conns s.made = ⟨a, b, true, true, false, none, false⟩ :=
  Function.update_self _ _ _

theorem own_openConn (x y c : ℕ) :
    Own (openConn s a b) x y c ↔ Own s x y c ∨ x = a ∧ y = b ∧ c = s.made := by
  constructor
  · intro own
    by_cases new : c = s.made
    · subst c
      have is := own.2
      rw [openConn_new] at is
      exact Or.inr ⟨is.1.symm, is.2.symm, rfl⟩
    · have lt : c < s.made := by
        have le := own.1
        change c < s.made + 1 at le
        omega
      have is := own.2
      rw [openConn_old s a b lt] at is
      exact Or.inl ⟨lt, is⟩
  · intro is
    cases is with
    | inl own =>
      refine ⟨Nat.lt_succ_of_lt own.1, ?_⟩
      rw [openConn_old s a b own.1]
      exact own.2
    | inr new =>
      obtain ⟨rfl, rfl, rfl⟩ := new
      refine ⟨Nat.lt_succ_self _, ?_⟩
      rw [openConn_new]
      exact ⟨rfl, rfl⟩

end Open

theorem Sound.noOwn {s : State} (h : Sound s) {a b : ℕ} {l : Option ℕ} (ne : a ≠ b)
    (asked : s.join a = some ⟨b, l⟩) (waits : l = none) (empty : s.clusterMap a b = none) (c : ℕ) :
    ¬Own s a b c := by
  intro own
  have fresh := ((h.pair a b ne).empty.mp empty).1 c own
  have was := h.unregistered a b c own fresh
  rw [asked, waits] at was
  exact absurd was (by simp)

theorem sound_openConn {s : State} (h : Sound s) {a b : ℕ} (asked : s.join a = some ⟨b, none⟩)
    (small : a < maxNodes) (empty : s.clusterMap a b = none) : Sound (openConn s a b) := by
  have ne : a ≠ b := (h.apart a b none asked).symm
  have noOwn := h.noOwn ne asked rfl empty
  have old : ∀ x y c, Own s x y c → (openConn s a b).conns c = s.conns c :=
    fun x y c own => openConn_old s a b own.1
  have new := openConn_new s a b
  have own := own_openConn s a b
  have fresh : ((openConn s a b).conns s.made).phase = .fresh := by
    rw [new]
    rfl
  have join : ∀ x, x ≠ a → (openConn s a b).join x = s.join x :=
    fun x other => Function.update_of_ne other _ _
  have now : (openConn s a b).join a = some ⟨b, some s.made⟩ := Function.update_self _ _ _
  constructor
  case pair =>
    intro x y apart
    have was := h.pair x y apart
    by_cases mine : x = a ∧ y = b
    · obtain ⟨rfl, rfl⟩ := mine
      have back : ∀ d, Own (openConn s x y) y x d → Own s y x d := by
        intro d is
        exact ((own y x d).mp is).resolve_right fun is => apart is.1.symm
      constructor
      case empty =>
        refine iff_of_true empty ⟨fun c is => ?_, fun d is => ?_⟩
        · cases (own x y c).mp is with
          | inl earlier => exact absurd earlier (noOwn c)
          | inr is => rw [is.2.2]; exact fresh
        · rw [old y x d (back d is)]
          exact (was.empty.mp empty).2 d (back d is)
      case range => exact fun c at' => absurd (empty.symm.trans at') (by simp)
      case own => exact fun c _ at' => absurd (empty.symm.trans at') (by simp)
      case other => exact fun c _ at' => absurd (empty.symm.trans at') (by simp)
      case client => exact fun c _ at' => absurd (empty.symm.trans at') (by simp)
      case server => exact fun c _ at' => absurd (empty.symm.trans at') (by simp)
    · by_cases theirs : x = b ∧ y = a
      · obtain ⟨rfl, rfl⟩ := theirs
        have same : ∀ c, Own (openConn s y x) x y c ↔ Own s x y c := by
          intro c
          rw [own]
          exact or_iff_left fun is => apart is.1
        have only : ∀ d, Own (openConn s y x) y x d → d = s.made := by
          intro d is
          exact (((own y x d).mp is).resolve_left (noOwn d)).2.2
        constructor
        case empty =>
          change s.clusterMap x y = none ↔ _
          rw [was.empty]
          constructor
          · intro both
            refine ⟨fun c is => ?_, fun d is => ?_⟩
            · rw [old x y c ((same c).mp is)]
              exact both.1 c ((same c).mp is)
            · rw [only d is, fresh]
              simp
          · intro both
            refine ⟨fun c is => ?_, fun d is => absurd is (noOwn d)⟩
            have still := both.1 c ((same c).mpr is)
            rw [old x y c is] at still
            exact still
        case range =>
          intro c at'
          rw [own, own]
          exact (was.range c at').imp Or.inl Or.inl
        case own =>
          intro c is at'
          have before := (same c).mp is
          rw [old x y c before]
          refine ⟨(was.own c before at').1, fun _ d other heard => ?_⟩
          rw [only d other, fresh] at heard
          exact absurd heard (by simp)
        case other =>
          intro d is at'
          have range := was.range d at'
          rw [only d is] at range
          have lt : s.made < s.made := range.elim And.left And.left
          exact absurd lt (Nat.lt_irrefl _)
        case client =>
          intro c is at'
          have before := (same c).mp is
          rw [old x y c before]
          exact was.client c before at'
        case server =>
          intro d is at'
          have range := was.range d at'
          rw [only d is] at range
          have lt : s.made < s.made := range.elim And.left And.left
          exact absurd lt (Nat.lt_irrefl _)
      · refine was.congr (fun c => ?_) (fun c => ?_) rfl rfl fun c is => ?_
        · rw [own]
          exact or_iff_left fun is => mine ⟨is.1, is.2.1⟩
        · rw [own]
          exact or_iff_left fun is => theirs ⟨is.2.1, is.1⟩
        · rw [openConn_old s a b (is.elim And.left And.left)]
          exact ⟨rfl, rfl, rfl⟩
  case single =>
    intro x y c d hc hd
    cases (own x y c).mp hc with
    | inl was =>
      cases (own x y d).mp hd with
      | inl was' => exact h.single x y c d was was'
      | inr is => exact absurd (is.1 ▸ is.2.1 ▸ was) (noOwn c)
    | inr is =>
      cases (own x y d).mp hd with
      | inl was => exact absurd (is.1 ▸ is.2.1 ▸ was) (noOwn d)
      | inr is' => exact is.2.2.trans is'.2.2.symm
  case joining =>
    intro x y c is
    by_cases same : x = a
    · rw [same, now] at is
      injection is with is
      injection is with peer link
      injection link with link
      rw [same, ← peer, ← link]
      exact ⟨(own a b s.made).mpr (Or.inr ⟨rfl, rfl, rfl⟩), fresh, by rw [new]⟩
    · rw [join x same] at is
      obtain ⟨was, phase, live⟩ := h.joining x y c is
      rw [old x y c was]
      exact ⟨(own x y c).mpr (Or.inl was), phase, live⟩
  case unregistered =>
    intro x y c is phase
    cases (own x y c).mp is with
    | inl was =>
      rw [old x y c was] at phase
      have joined := h.unregistered x y c was phase
      by_cases same : x = a
      · rw [same, asked] at joined
        exact absurd joined (by simp)
      · rw [join x same]
        exact joined
    | inr is => rw [is.1, is.2.1, is.2.2, now]
  case apart =>
    intro x y l is
    by_cases same : x = a
    · rw [same, now] at is
      have peer : b = y := congrArg Join.peer (Option.some.inj is)
      rw [same, ← peer]
      exact ne.symm
    · rw [join x same] at is
      exact h.apart x y l is
  case ids =>
    intro x y c is
    cases (own x y c).mp is with
    | inl was => exact h.ids x y c was
    | inr is => rw [is.1, is.2.1]; exact ⟨ne, small⟩
  case known =>
    intro x y there back
    have some := h.known x y there back
    simp only [own]
    exact some.imp (fun is => is.imp fun _ => Or.inl) (fun is => is.imp fun _ => Or.inl)
  case whole => exact h.whole

theorem sound_connect {s : State} (h : Sound s) {a b : ℕ} {connected : Bool}
    (asked : s.join a = some ⟨b, none⟩) (ok : Orderly s (.connect a connected)) :
    Sound (nodeJoin s a b connected) := by
  obtain ⟨small, small', empty, back⟩ := ok _ asked
  have ne : a ≠ b := (h.apart a b none asked).symm
  have same : disconnect { s with torn := s.torn || bothConnected s a b } a b = s := by
    cases s
    simp_all [disconnect, bothConnected]
  have is : nodeJoin s a b connected = if connected then openConn s a b else remember s a b := by
    unfold nodeJoin
    rw [if_neg (Nat.not_le.mpr small'), same]
  rw [is]
  cases connected with
  | true => exact sound_openConn h asked small empty
  | false =>
    refine Sound.remember h.pair h.single (fun x y c _ => h.joining x y c)
      (fun x y c own fresh => ?_) h.apart h.ids h.known ((back rfl).imp_right Or.inr) ne.symm
      h.whole
    have was := h.unregistered x y c own fresh
    refine ⟨fun same => ?_, was⟩
    rw [same, asked] at was
    exact absurd was (by simp)

theorem setMap_same (s : State) (a b : ℕ) (c : Option ℕ) : (setMap s a b c).clusterMap a b = c := by
  simp [setMap]

theorem setMap_other (s : State) {a b x y : ℕ} (c : Option ℕ) (other : ¬(x = a ∧ y = b)) :
    (setMap s a b c).clusterMap x y = s.clusterMap x y := by
  by_cases same : x = a
  · subst x
    have apart : y ≠ b := fun is => other ⟨rfl, is⟩
    simp [setMap, apart]
  · simp [setMap, same]

theorem sound_register {s : State} (h : Sound s) {a b c : ℕ}
    (joined : s.join a = some ⟨b, some c⟩) :
    Sound (registerJoined s a b c true) := by
  have ne : a ≠ b := (h.apart a b _ joined).symm
  obtain ⟨mine, fresh, live⟩ := h.joining a b c joined
  let s' := setMap (setConn s c { s.conns c with beat := true }) a b (some c)
  change Sound (remember s' a b)
  have conn : ∀ d, d ≠ c → s'.conns d = s.conns d := fun d ne => Function.update_of_ne ne _ _
  have now : s'.conns c = { s.conns c with beat := true } := Function.update_self _ _ _
  have own : ∀ x y d, Own s' x y d ↔ Own s x y d := by
    intro x y d
    by_cases is : d = c
    · subst d
      simp only [Own, now]
      exact Iff.rfl
    · simp only [Own, conn d is]
      exact Iff.rfl
  have sent : (s'.conns c).phase = .sent := by
    have named : (s.conns c).nodeId = none := by
      by_contra no
      unfold Conn.phase at fresh
      rw [if_pos no] at fresh
      exact absurd fresh (by simp)
    rw [now]
    simp [Conn.phase, named]
  have map : s'.clusterMap a b = some c := setMap_same _ _ _ _
  have maps : ∀ x y, ¬(x = a ∧ y = b) → s'.clusterMap x y = s.clusterMap x y :=
    fun x y other => setMap_other _ _ other
  have notBack : ∀ d, Own s b a d → d ≠ c := by
    intro d is same
    rw [same] at is
    exact ne (mine.2.1.symm.trans is.2.1)
  -- the other side does not have the connection yet
  have unheard : s.clusterMap b a ≠ some c := by
    intro is
    have heard := ((h.pair b a ne.symm).other c mine is).1
    exact absurd (fresh.symm.trans heard) (by simp)
  have pair : ∀ x y, x ≠ y → Pair s' x y := by
    intro x y apart
    have was := h.pair x y apart
    by_cases forth : x = a ∧ y = b
    · obtain ⟨rfl, rfl⟩ := forth
      constructor
      case empty =>
        refine iff_of_false (by simp [map]) fun both => ?_
        exact absurd (sent.symm.trans (both.1 c ((own x y c).mpr mine))) (by simp)
      case range =>
        intro d at'
        obtain rfl := Option.some.inj (map.symm.trans at')
        exact Or.inl ((own x y c).mpr mine)
      case own =>
        intro d _ at'
        obtain rfl := Option.some.inj (map.symm.trans at')
        rw [sent]
        exact ⟨by simp, fun heard => absurd heard (by simp)⟩
      case other =>
        intro d is at'
        exact absurd (Option.some.inj (map.symm.trans at')).symm (notBack d ((own y x d).mp is))
      case client =>
        intro d _ at'
        obtain rfl := Option.some.inj (map.symm.trans at')
        rw [now]
        exact live
      case server =>
        intro d is at'
        exact absurd (Option.some.inj (map.symm.trans at')).symm (notBack d ((own y x d).mp is))
    · have map' := maps x y forth
      by_cases back : x = b ∧ y = a
      · obtain ⟨rfl, rfl⟩ := back
        have only : ∀ d, Own s' y x d → d = c :=
          fun d is => h.single y x d c ((own y x d).mp is) mine
        constructor
        case empty =>
          rw [map', was.empty]
          constructor
          · intro both
            refine ⟨fun d is => ?_, fun d is => ?_⟩
            · have before := (own x y d).mp is
              rw [conn d (notBack d before)]
              exact both.1 d before
            · rw [only d is, sent]
              simp
          · intro both
            refine ⟨fun d is => ?_, fun d is => ?_⟩
            · have still := both.1 d ((own x y d).mpr is)
              rw [conn d (notBack d is)] at still
              exact still
            · rw [h.single y x d c is mine, fresh]
              simp
        case range =>
          intro d at'
          rw [own, own]
          exact was.range d (map'.symm.trans at')
        case own =>
          intro d is at'
          have before := (own x y d).mp is
          rw [conn d (notBack d before)]
          refine ⟨(was.own d before (map'.symm.trans at')).1, fun _ e is' heard => ?_⟩
          rw [only e is', sent] at heard
          exact absurd heard (by simp)
        case other =>
          intro d is at'
          rw [only d is] at at'
          exact absurd (map'.symm.trans at') unheard
        case client =>
          intro d is at'
          have before := (own x y d).mp is
          rw [conn d (notBack d before)]
          exact was.client d before (map'.symm.trans at')
        case server =>
          intro d is at'
          rw [only d is] at at'
          exact absurd (map'.symm.trans at') unheard
      · refine was.congr (own x y) (own y x) map' (maps y x fun is => back ⟨is.2, is.1⟩)
          fun d is => ?_
        have other : d ≠ c := by
          intro same
          rw [same] at is
          cases is with
          | inl is => exact forth ⟨is.2.1.symm.trans mine.2.1, is.2.2.symm.trans mine.2.2⟩
          | inr is => exact back ⟨is.2.2.symm.trans mine.2.2, is.2.1.symm.trans mine.2.1⟩
        rw [conn d other]
        exact ⟨rfl, rfl, rfl⟩
  apply Sound.remember pair
  case single =>
    intro x y d e hd he
    exact h.single x y d e ((own x y d).mp hd) ((own x y e).mp he)
  case joining =>
    intro x y d other is
    obtain ⟨was, phase, alive⟩ := h.joining x y d is
    have ne' : d ≠ c := by
      intro same
      rw [same] at was
      exact other (was.2.1.symm.trans mine.2.1)
    rw [conn d ne']
    exact ⟨(own x y d).mpr was, phase, alive⟩
  case unregistered =>
    intro x y d is phase
    have ne' : d ≠ c := by
      intro same
      rw [same, sent] at phase
      exact absurd phase (by simp)
    rw [conn d ne'] at phase
    have was := h.unregistered x y d ((own x y d).mp is) phase
    refine ⟨fun same => ?_, was⟩
    rw [same, joined] at was
    injection was with was
    injection was with _ link
    injection link with link
    exact ne' link.symm
  case apart => exact h.apart
  case ids => exact fun x y d is => h.ids x y d ((own x y d).mp is)
  case known =>
    intro x y there back
    simp only [own]
    exact h.known x y there back
  case now => exact Or.inr (Or.inl ⟨c, (own a b c).mpr mine⟩)
  case ne => exact ne.symm
  case whole => exact h.whole

/-- A change of a connection that is neither of its ends nor of how far it has come. -/
theorem Sound.setConn {s : State} (h : Sound s) (c : ℕ) {x : Conn}
    (client : x.client = (s.conns c).client) (server : x.server = (s.conns c).server)
    (phase : x.phase = (s.conns c).phase) (clientOpen : x.clientOpen = (s.conns c).clientOpen)
    (serverOpen : x.serverOpen = (s.conns c).serverOpen) : Sound (setConn s c x) := by
  have conn : ∀ d, ((NodeJoin.setConn s c x).conns d).client = (s.conns d).client ∧
      ((NodeJoin.setConn s c x).conns d).server = (s.conns d).server ∧
      ((NodeJoin.setConn s c x).conns d).phase = (s.conns d).phase ∧
      ((NodeJoin.setConn s c x).conns d).clientOpen = (s.conns d).clientOpen ∧
      ((NodeJoin.setConn s c x).conns d).serverOpen = (s.conns d).serverOpen := by
    intro d
    by_cases is : d = c
    · subst d
      simp only [NodeJoin.setConn, Function.update_self]
      exact ⟨client, server, phase, clientOpen, serverOpen⟩
    · simp only [NodeJoin.setConn, Function.update_of_ne is, and_self]
  have own : ∀ a b d, Own (NodeJoin.setConn s c x) a b d ↔ Own s a b d := by
    intro a b d
    simp only [Own, (conn d).1, (conn d).2.1]
    exact Iff.rfl
  constructor
  case pair =>
    intro a b apart
    exact (h.pair a b apart).congr (own a b) (own b a) rfl rfl fun d _ => (conn d).2.2
  case single =>
    intro a b d e hd he
    exact h.single a b d e ((own a b d).mp hd) ((own a b e).mp he)
  case joining =>
    intro a b d is
    rw [own, (conn d).2.2.1, (conn d).2.2.2.1]
    exact h.joining a b d is
  case unregistered =>
    intro a b d is fresh
    rw [own] at is
    rw [(conn d).2.2.1] at fresh
    exact h.unregistered a b d is fresh
  case apart => exact h.apart
  case ids => exact fun a b d is => h.ids a b d ((own a b d).mp is)
  case known =>
    intro a b there back
    simp only [own]
    exact h.known a b there back
  case whole => exact h.whole

theorem sound_accept {s : State} (h : Sound s) {c : ℕ} (live : (s.conns c).serverOpen = true) :
    Sound (acceptLink s c true) :=
  h.setConn c rfl rfl rfl rfl live.symm

/-- What the first heartbeat on `c` changes: the link that the server had, if any, loses the end of
its client, who is the server here. -/
structure Heard (s s' : State) (a b c : ℕ) : Prop where
  own : ∀ x y d, Own s' x y d ↔ Own s x y d
  now : (s'.conns c).phase = .heard
  phase : ∀ d, d ≠ c → (s'.conns d).phase = (s.conns d).phase
  client : ∀ d, s.clusterMap b a ≠ some d → (s'.conns d).clientOpen = (s.conns d).clientOpen
  server : ∀ d, s.clusterMap b a ≠ some d → (s'.conns d).serverOpen = (s.conns d).serverOpen
  map : s'.clusterMap b a = some c
  maps : ∀ x y, ¬(x = b ∧ y = a) → s'.clusterMap x y = s.clusterMap x y
  rest : s'.join = s.join ∧ s'.known = s.known ∧ s'.torn = s.torn

theorem disconnect_conns (s : State) (a b d : ℕ) :
    (disconnect s a b).conns d =
      if s.clusterMap a b = some d then (s.conns d).closeEnd a else s.conns d := by
  unfold disconnect
  cases is : s.clusterMap a b with
  | none => simp
  | some c =>
    by_cases same : d = c
    · subst d
      simp [setMap, setConn]
    · have ne : c ≠ d := Ne.symm same
      simp [setMap, setConn, same, ne]

theorem disconnect_map (s : State) {a b x y : ℕ} (other : ¬(x = a ∧ y = b)) :
    (disconnect s a b).clusterMap x y = s.clusterMap x y := by
  unfold disconnect
  cases s.clusterMap a b with
  | none => rfl
  | some c => exact setMap_other _ _ other

theorem disconnect_rest (s : State) (a b : ℕ) :
    (disconnect s a b).made = s.made ∧ (disconnect s a b).join = s.join ∧
      (disconnect s a b).known = s.known ∧ (disconnect s a b).torn = s.torn := by
  unfold disconnect
  cases s.clusterMap a b <;> exact ⟨rfl, rfl, rfl, rfl⟩

theorem heard_of {s : State} {a b c : ℕ} (mine : Own s a b c) (small : a < maxNodes)
    (first : (s.conns c).nodeId = none) (other : s.clusterMap b a ≠ some c) :
    Heard s (handleHeartbeat s c) a b c := by
  obtain ⟨lt, rfl, rfl⟩ := mine
  let s₁ := setConn s c { s.conns c with beat := false }
  let s₂ := disconnect s₁ (s.conns c).server (s.conns c).client
  have is : handleHeartbeat s c = setMap (setConn s₂ c { s₂.conns c with
      nodeId := some (s.conns c).client }) (s.conns c).server (s.conns c).client (some c) := by
    unfold handleHeartbeat
    dsimp only
    rw [if_pos ⟨first, small⟩, if_neg other]
  have rest := disconnect_rest s₁ (s.conns c).server (s.conns c).client
  have cut := disconnect_conns s₁ (s.conns c).server (s.conns c).client
  have map₁ : s₁.clusterMap = s.clusterMap := rfl
  rw [map₁] at cut
  have self : s₂.conns c = { s.conns c with beat := false } := by
    have same := cut c
    rw [if_neg other] at same
    exact same.trans (Function.update_self _ _ _)
  have now : (handleHeartbeat s c).conns c =
      { s.conns c with beat := false, nodeId := some (s.conns c).client } := by
    rw [is]
    simp only [setMap, setConn, Function.update_self]
    rw [self]
  have conn : ∀ d, d ≠ c → (handleHeartbeat s c).conns d =
      if s.clusterMap (s.conns c).server (s.conns c).client = some d then
        (s.conns d).closeEnd (s.conns c).server
      else s.conns d := by
    intro d ne
    have same := cut d
    rw [show s₁.conns d = s.conns d from Function.update_of_ne ne _ _] at same
    rw [is, ← same]
    exact Function.update_of_ne ne _ _
  constructor
  case own =>
    intro x y d
    have made : (handleHeartbeat s c).made = s.made := by
      rw [is]
      exact rest.1
    by_cases same : d = c
    · subst d
      simp only [Own, now, made]
    · simp only [Own, conn d same, made]
      split_ifs <;> exact Iff.rfl
  case now =>
    rw [now]
    rfl
  case phase =>
    intro d ne
    rw [conn d ne]
    split_ifs <;> rfl
  case client =>
    intro d unmapped
    by_cases same : d = c
    · subst d
      rw [now]
    · rw [conn d same, if_neg unmapped]
  case server =>
    intro d unmapped
    by_cases same : d = c
    · subst d
      rw [now]
    · rw [conn d same, if_neg unmapped]
  case map =>
    rw [is]
    exact setMap_same _ _ _ _
  case maps =>
    intro x y ne
    rw [is, setMap_other _ _ ne]
    exact disconnect_map s₁ ne
  case rest =>
    rw [is]
    exact rest.2

theorem Sound.heard {s s' : State} (h : Sound s) {a b c : ℕ} (mine : Own s a b c)
    (sent : (s.conns c).phase = .sent) (live : (s.conns c).serverOpen = true)
    (ok : ∀ d ∈ s.clusterMap b a, d ≠ c → (s.conns d).phase = .heard) (e : Heard s s' a b c) :
    Sound s' := by
  have ne : a ≠ b := (h.ids a b c mine).1
  have p := h.pair a b ne
  have q := h.pair b a ne.symm
  have notBack : ∀ d, Own s b a d → d ≠ c := by
    intro d is same
    rw [same] at is
    exact ne (mine.2.1.symm.trans is.2.1)
  -- the server has not registered it before
  have unheard : s.clusterMap b a ≠ some c := by
    intro is
    exact absurd (sent.symm.trans (q.other c mine is).1) (by simp)
  -- the client has
  have registered : s.clusterMap a b = some c := by
    cases is : s.clusterMap a b with
    | none => exact absurd (sent.symm.trans ((p.empty.mp is).1 c mine)) (by simp)
    | some d =>
      cases p.range d is with
      | inl same => rw [h.single a b d c same mine]
      | inr back =>
        have heard := ((p.other d back is).2 c mine (by rw [sent]; simp)).2
        exact absurd (sent.symm.trans heard) (by simp)
  have before : ∀ d, Own s b a d → (s.conns d).phase ≠ .fresh → (s.conns d).phase = .heard := by
    intro d back fresh
    cases is : s.clusterMap b a with
    | none => exact absurd ((q.empty.mp is).1 d back) fresh
    | some f =>
      cases q.range f is with
      | inl same =>
        rw [h.single b a f d same back] at is
        exact ok d is (notBack d back)
      | inr own =>
        rw [h.single a b f c own mine] at is
        exact absurd is unheard
  have pair : ∀ x y, x ≠ y → Pair s' x y := by
    intro x y apart
    have was := h.pair x y apart
    by_cases back : x = b ∧ y = a
    · obtain ⟨rfl, rfl⟩ := back
      constructor
      case empty =>
        refine iff_of_false (by simp [e.map]) fun both => ?_
        exact both.2 c ((e.own y x c).mpr mine) e.now
      case range =>
        intro d at'
        obtain rfl := Option.some.inj (e.map.symm.trans at')
        exact Or.inr ((e.own y x c).mpr mine)
      case own =>
        intro d is at'
        exact absurd (Option.some.inj (e.map.symm.trans at')).symm (notBack d ((e.own x y d).mp is))
      case other =>
        intro d is at'
        obtain rfl := Option.some.inj (e.map.symm.trans at')
        refine ⟨e.now, fun f is' fresh => ?_⟩
        have theirs := (e.own x y f).mp is'
        rw [e.phase f (notBack f theirs)] at fresh ⊢
        exact ⟨(e.maps y x fun is => apart is.1.symm).trans registered, before f theirs fresh⟩
      case client =>
        intro d is at'
        exact absurd (Option.some.inj (e.map.symm.trans at')).symm (notBack d ((e.own x y d).mp is))
      case server =>
        intro d _ at'
        obtain rfl := Option.some.inj (e.map.symm.trans at')
        rw [e.server c unheard]
        exact live
    · have map' := e.maps x y back
      by_cases forth : x = a ∧ y = b
      · obtain ⟨rfl, rfl⟩ := forth
        constructor
        case empty =>
          refine iff_of_false (by simp [map', registered]) fun both => ?_
          exact absurd (e.now.symm.trans (both.1 c ((e.own x y c).mpr mine))) (by simp)
        case range =>
          intro d at'
          rw [e.own, e.own]
          exact was.range d (map'.symm.trans at')
        case own =>
          intro d is at'
          obtain rfl := h.single x y d c ((e.own x y d).mp is) mine
          rw [e.now]
          exact ⟨by simp, fun _ _ _ _ => e.map⟩
        case other =>
          intro d is at'
          have same := Option.some.inj (registered.symm.trans (map'.symm.trans at'))
          exact absurd same.symm (notBack d ((e.own y x d).mp is))
        case client =>
          intro d is at'
          have own := (e.own x y d).mp is
          obtain rfl := h.single x y d c own mine
          rw [e.client d unheard]
          exact was.client d own registered
        case server =>
          intro d is at'
          have same := Option.some.inj (registered.symm.trans (map'.symm.trans at'))
          exact absurd same.symm (notBack d ((e.own y x d).mp is))
      · refine was.congr (e.own x y) (e.own y x) map' (e.maps y x fun is => forth ⟨is.2, is.1⟩)
          fun d is => ?_
        have elsewhere : ∀ f, Own s a b f ∨ Own s b a f → d ≠ f := by
          intro f own same
          rw [same] at is
          rcases own with own | own <;> rcases is with is | is
          · exact forth ⟨is.2.1.symm.trans own.2.1, is.2.2.symm.trans own.2.2⟩
          · exact back ⟨is.2.2.symm.trans own.2.2, is.2.1.symm.trans own.2.1⟩
          · exact back ⟨is.2.1.symm.trans own.2.1, is.2.2.symm.trans own.2.2⟩
          · exact forth ⟨is.2.2.symm.trans own.2.2, is.2.1.symm.trans own.2.1⟩
        have unmapped : s.clusterMap b a ≠ some d := fun at' =>
          elsewhere d (q.range d at').symm rfl
        exact ⟨e.phase d (elsewhere c (Or.inl mine)), e.client d unmapped, e.server d unmapped⟩
  constructor
  case pair => exact pair
  case single =>
    intro x y d f hd hf
    exact h.single x y d f ((e.own x y d).mp hd) ((e.own x y f).mp hf)
  case joining =>
    intro x y d is
    rw [e.rest.1] at is
    obtain ⟨was, fresh, alive⟩ := h.joining x y d is
    have other : d ≠ c := by
      intro same
      rw [same, sent] at fresh
      exact absurd fresh (by simp)
    have unmapped : s.clusterMap b a ≠ some d := by
      intro at'
      exact absurd (fresh.symm.trans (ok d at' other)) (by simp)
    rw [e.own, e.phase d other, e.client d unmapped]
    exact ⟨was, fresh, alive⟩
  case unregistered =>
    intro x y d is fresh
    have other : d ≠ c := by
      intro same
      rw [same, e.now] at fresh
      exact absurd fresh (by simp)
    rw [e.phase d other] at fresh
    rw [e.rest.1]
    exact h.unregistered x y d ((e.own x y d).mp is) fresh
  case apart =>
    intro x y l is
    rw [e.rest.1] at is
    exact h.apart x y l is
  case ids => exact fun x y d is => h.ids x y d ((e.own x y d).mp is)
  case known =>
    intro x y there back
    rw [e.rest.2.1] at there back
    simp only [e.own]
    exact h.known x y there back
  case whole => exact e.rest.2.2.trans h.whole

theorem sound_heartbeat {s : State} (h : Sound s) {c : ℕ} (en : enabled s (.heartbeat c))
    (ok : Orderly s (.heartbeat c)) : Sound (handleHeartbeat s c) := by
  obtain ⟨lt, -, live, beat⟩ := en
  have mine : Own s (s.conns c).client (s.conns c).server c := ⟨lt, rfl, rfl⟩
  by_cases first : (s.conns c).nodeId = none
  · have sent : (s.conns c).phase = .sent := by simp [Conn.phase, first, beat]
    have ids := h.ids _ _ c mine
    have unheard : s.clusterMap (s.conns c).server (s.conns c).client ≠ some c := by
      intro is
      have heard := ((h.pair _ _ ids.1.symm).other c mine is).1
      exact absurd (sent.symm.trans heard) (by simp)
    refine h.heard mine sent live (fun d is ne => ?_) (heard_of mine ids.2 first unheard)
    exact if_pos (ok d is ne)
  · have is : handleHeartbeat s c = setConn s c { s.conns c with beat := false } := by
      unfold handleHeartbeat
      dsimp only
      rw [if_neg fun is => first is.1]
    rw [is]
    refine h.setConn c rfl rfl ?_ rfl rfl
    simp [Conn.phase, first]

theorem sound_next {s : State} (h : Sound s) (e : Event) (en : enabled s e) (ok : Orderly s e) :
    Sound (next s e) := by
  cases e with
  | beacon a b sent => exact sound_beacon h en.1 (Option.isNone_iff_eq_none.mp en.2) sent
  | connect a connected =>
    obtain ⟨⟨b, l⟩, joined, waits⟩ := en
    obtain rfl : l = none := waits
    have asked : s.join a = some ⟨b, none⟩ := joined
    simp only [next, asked]
    exact sound_connect h asked ok
  | register a sent =>
    obtain ⟨⟨b, l⟩, joined, there⟩ := en
    cases l with
    | none => exact absurd rfl there
    | some c =>
      have asked : s.join a = some ⟨b, some c⟩ := joined
      obtain rfl : sent = true := ok
      simp only [next, asked]
      exact sound_register h asked
  | accept c alloc =>
    obtain rfl : alloc = true := ok
    exact sound_accept h en.2.2
  | heartbeat c => exact sound_heartbeat h en ok

end MattX.NodeJoin
