import MattX.DsmTypes
import MattX.GuardedRuns

set_option autoImplicit false

/-!
# How two nodes get connected

A daemon that hears a beacon of a node it does not know tells its kernel to
join it. The kernel connects and names itself with a heartbeat; only then does
the other side know whose connection it has accepted.
-/
namespace MattX.NodeJoin
open GuardedRuns

/-- A TCP connection between `client` and `server`, with the state of both ends. `accepted` and
`nodeId` are the link on the server's side, `none` being -1; `beat` is a heartbeat under way. -/
structure Conn where
  client : ℕ
  server : ℕ
  clientOpen : Bool
  serverOpen : Bool
  accepted : Bool
  nodeId : Option ℕ
  beat : Bool

/-- A NODE_JOIN command that the daemon waits for, and the connection once there is one. -/
structure Join where
  peer : ℕ
  link : Option ℕ

/-- `clusterMap a b` is `cluster_map[b]` on node a, `known a` what the daemon of a remembers. `torn`
says that a join has disconnected a link that both sides had. -/
structure State where
  clusterMap : ℕ → ℕ → Option ℕ
  conns : ℕ → Conn
  made : ℕ
  join : ℕ → Option Join
  known : ℕ → List ℕ
  torn : Bool

def start : State where
  clusterMap _ _ := none
  conns _ := ⟨0, 0, false, false, false, none, false⟩
  made := 0
  join _ := none
  known _ := []
  torn := false

def Conn.closeEnd (c : Conn) (a : ℕ) : Conn :=
  { c with
    clientOpen := c.clientOpen && c.client != a
    serverOpen := c.serverOpen && c.server != a }

def setMap (s : State) (a b : ℕ) (c : Option ℕ) : State :=
  { s with clusterMap := Function.update s.clusterMap a (Function.update (s.clusterMap a) b c) }

def setConn (s : State) (c : ℕ) (x : Conn) : State :=
  { s with conns := Function.update s.conns c x }

def setJoin (s : State) (a : ℕ) (j : Option Join) : State :=
  { s with join := Function.update s.join a j }

/-- `mattx_comm_disconnect`; stopping the receiver gets it out of its read. -/
def disconnect (s : State) (a b : ℕ) : State :=
  match s.clusterMap a b with
  | none => s
  | some c => setMap (setConn s c ((s.conns c).closeEnd a)) a b none

/-- `known_nodes` has 64 places. The result of the command is not looked at. -/
def remember (s : State) (a b : ℕ) : State :=
  { s with
    join := Function.update s.join a none
    known := Function.update s.known a
      (if (s.known a).length < 64 then s.known a ++ [b] else s.known a) }

/-- `trigger_kernel_join` up to the command. -/
def triggerKernelJoin (s : State) (a b : ℕ) (sent : Bool) : State :=
  if b ∈ s.known a then s else if sent then setJoin s a (some ⟨b, none⟩) else s

def bothConnected (s : State) (a b : ℕ) : Bool :=
  match s.clusterMap a b with
  | none => false
  | some c => s.clusterMap b a == some c

/-- A connection in the backlog of the server's listener. -/
def openConn (s : State) (a b : ℕ) : State :=
  { setConn s s.made ⟨a, b, true, true, false, none, false⟩ with
    made := s.made + 1
    join := Function.update s.join a (some ⟨b, some s.made⟩) }

/-- `mattx_nl_cmd_node_join` up to the result of `mattx_comm_connect`. -/
def nodeJoin (s : State) (a b : ℕ) (connected : Bool) : State :=
  if maxNodes ≤ b then remember s a b
  else
    let s' := disconnect { s with torn := s.torn || bothConnected s a b } a b
    if connected then openConn s' a b else remember s' a b

/-- The rest of it: the link is registered, replacing what has come there meanwhile, and the
heartbeat sent. -/
def registerJoined (s : State) (a b c : ℕ) (sent : Bool) : State :=
  remember (setMap (setConn s c { s.conns c with beat := sent }) a b (some c)) a b

/-- `mattx_listener_loop` takes a connection; without memory for the link it is closed. -/
def acceptLink (s : State) (c : ℕ) (alloc : Bool) : State :=
  setConn s c { s.conns c with accepted := true, serverOpen := alloc }

/-- `handle_heartbeat` on the server's side of `c`. -/
def handleHeartbeat (s : State) (c : ℕ) : State :=
  let x := s.conns c
  let s' := setConn s c { x with beat := false }
  if x.nodeId = none ∧ x.client < maxNodes then
    let s'' := if s.clusterMap x.server x.client = some c then s'
      else disconnect s' x.server x.client
    setMap (setConn s'' c { s''.conns c with nodeId := some x.client }) x.server x.client (some c)
  else s'

inductive Event where
  | beacon (a b : ℕ) (sent : Bool)
  | connect (a : ℕ) (connected : Bool)
  | register (a : ℕ) (sent : Bool)
  | accept (c : ℕ) (alloc : Bool)
  | heartbeat (c : ℕ)

/-- A daemon has one command at a time and takes no notice of its own beacons. -/
def enabled (s : State) : Event → Prop
  | .beacon a b _ => b ≠ a ∧ (s.join a).isNone = true
  | .connect a _ => ∃ j ∈ s.join a, j.link = none
  | .register a _ => ∃ j ∈ s.join a, j.link ≠ none
  | .accept c _ => c < s.made ∧ (s.conns c).accepted = false ∧ (s.conns c).serverOpen = true
  | .heartbeat c =>
    c < s.made ∧ (s.conns c).accepted = true ∧ (s.conns c).serverOpen = true ∧
      (s.conns c).beat = true

instance (s : State) (e : Event) : Decidable (enabled s e) :=
  match e with
  | .beacon a b _ => inferInstanceAs (Decidable (b ≠ a ∧ (s.join a).isNone = true))
  | .connect a _ => inferInstanceAs (Decidable (∃ j ∈ s.join a, j.link = none))
  | .register a _ => inferInstanceAs (Decidable (∃ j ∈ s.join a, j.link ≠ none))
  | .accept c _ =>
    inferInstanceAs (Decidable (c < s.made ∧ (s.conns c).accepted = false ∧
      (s.conns c).serverOpen = true))
  | .heartbeat c =>
    inferInstanceAs (Decidable (c < s.made ∧ (s.conns c).accepted = true ∧
      (s.conns c).serverOpen = true ∧ (s.conns c).beat = true))

def next (s : State) : Event → State
  | .beacon a b sent => triggerKernelJoin s a b sent
  | .connect a connected =>
    match s.join a with
    | some ⟨b, none⟩ => nodeJoin s a b connected
    | _ => s
  | .register a sent =>
    match s.join a with
    | some ⟨b, some c⟩ => registerJoined s a b c sent
    | _ => s
  | .accept c alloc => acceptLink s c alloc
  | .heartbeat c => handleHeartbeat s c

def machine : Machine State Event := ⟨enabled, next⟩

instance (s : State) (e : Event) : Decidable (machine.enabled s e) :=
  inferInstanceAs (Decidable (enabled s e))

/-! ### Agreement -/

/-- A connection from `a` to `b`. -/
def Own (s : State) (a b c : ℕ) : Prop :=
  c < s.made ∧ (s.conns c).client = a ∧ (s.conns c).server = b

/-- No join, connection or heartbeat between the two is pending. -/
structure Quiet (s : State) (a b : ℕ) : Prop where
  join : ∀ j ∈ s.join a, j.peer ≠ b
  joinBack : ∀ j ∈ s.join b, j.peer ≠ a
  heard : ∀ c, Own s a b c ∨ Own s b a c → (s.conns c).accepted = true ∧ (s.conns c).beat = false

end MattX.NodeJoin
