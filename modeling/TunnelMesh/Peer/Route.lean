-- SUMMARY: MeshNode.ensurePeerRoute: up to five ListPeers calls with a doubling backoff, the route, cache entry and SSH key for the first entry of the peer, and the fallback to the cache.
import TunnelMesh.Go.Basic

/-!
# Routes for incoming connections

`MeshNode.ensurePeerRoute(peerName)` from `internal/peer/ssh.go`. With a
coordination client it asks `ListPeers` up to five times, sleeping
500 ms, 1 s, 2 s and 4 s after the first four failures. The first call that
succeeds ends the loop: if its list names the peer, the first such entry gives
the route, the cache entry and, when the transport can take it, an authorized
SSH key; otherwise the loop stops without retrying. When no call found the
peer, or there is no client, the cached mesh IP gives the route, if there is
one.

The node's collaborators are explicit: the outcomes of `ListPeers` are a
sequence indexed by the call number, so every result holds for every sequence
of failures and peer lists. The cache of mesh IPs, whose methods are not under
`src/`, is the small LRU cache the spec describes (`PeerCache`): at most `capacity`
entries, one per peer, newest first; `cachePeerMeshIP` makes the peer's entry the newest
and evicts the oldest when the cache is full, and a hit of `getCachedPeerMeshIP` makes
its entry the newest.

The accept loops of `HandleIncomingSSH` and `HandleIncomingUDP`, which hand
each connection to `handleIncomingConnection`, differ only in their label:
both are `acceptLoop`, and `acceptLoop_eq` says which connections they hand
on and when they return.

`ensurePeerRoute_eq_ref` shows that the function is its retry-and-fallback
reference `ensurePeerRouteRef`, stated from the documented behaviour: the index
of the first successful call (`firstSuccess`), the backoffs before it, and the
route taken from the list or from the cache. `ensurePeerRoute_effects` bounds
what one call does to the node, for every sequence of outcomes: at most five
calls and 7.5 s of sleep, at most one route, to the IP it returns, and a cache of
the same capacity that then holds that IP for the peer and holds no mesh IP for
another peer that it did not hold before.
-/

namespace TunnelMesh.Peer

/-- `time.Millisecond`, in nanoseconds. -/
def millisecond : Int := 1000000

/-- A peer as `ListPeers` returns it: the fields `ensurePeerRoute` reads. -/
structure PeerInfo where
  name : String
  meshIP : String
  publicKey : String
  deriving DecidableEq

/-- Modelled from the spec: the cache of `MeshNode.CachePeerMeshIP` and
`GetCachedPeerMeshIP` is not under `src/`; the spec calls it a small LRU cache from
peer names to their last known mesh IP. Entries are kept newest first, one per peer,
at most `capacity` of them. -/
structure PeerCache where
  capacity : Nat
  entries : List (String × String)
  capacity_pos : 0 < capacity
  length_le : entries.length ≤ capacity
  nodup : (entries.map Prod.fst).Nodup

namespace PeerCache

/-- The mesh IP the cache holds for `name`. -/
def find (c : PeerCache) (name : String) : Option String := c.entries.lookup name

/-- The entry for `name`, made the newest; the oldest entry is evicted when the cache
is full. -/
def put (c : PeerCache) (name meshIP : String) : PeerCache where
  capacity := c.capacity
  entries := ((name, meshIP) :: c.entries.filter (·.1 != name)).take c.capacity
  capacity_pos := c.capacity_pos
  length_le := List.length_take_le _ _
  nodup := by
    refine ((List.take_sublist _ _).map Prod.fst).nodup (List.nodup_cons.2 ⟨?_, ?_⟩)
    · simp
    · exact c.nodup.sublist ((List.filter_sublist _).map _)

/-- A lookup; a hit makes its entry the newest. -/
def get (c : PeerCache) (name : String) : Option String × PeerCache :=
  match c.find name with
  | some ip => (some ip, c.put name ip)
  | none => (none, c)

theorem find_put_self (c : PeerCache) (name meshIP : String) :
    (c.put name meshIP).find name = some meshIP := by
  obtain ⟨k, hk⟩ : ∃ k, c.capacity = k + 1 := ⟨c.capacity - 1, by have := c.capacity_pos; omega⟩
  simp [find, put, hk, List.take_succ_cons]

theorem lookup_filter_ne {l : List (String × String)} {n name : String} (h : n ≠ name) :
    (l.filter (·.1 != name)).lookup n = l.lookup n := by
  induction l with
  | nil => rfl
  | cons e l ih =>
    rcases e with ⟨k, v⟩
    by_cases hk : k = name
    · subst hk; simp [List.filter_cons, ih, List.lookup_cons, beq_eq_false_iff_ne.2 h]
    · simp [List.filter_cons, hk, List.lookup_cons, ih]

theorem lookup_of_lookup_take {l : List (String × String)} {n v : String} (k : Nat)
    (h : (l.take k).lookup n = some v) : l.lookup n = some v := by
  rw [← List.take_append_drop k l, List.lookup_append, h]; rfl

/-- A put invents no entry for another peer: eviction only forgets. -/
theorem find_of_find_put {c : PeerCache} {name meshIP n v : String} (hn : n ≠ name)
    (h : (c.put name meshIP).find n = some v) : c.find n = some v := by
  have h' := lookup_of_lookup_take _ h
  simpa [List.lookup_cons, beq_eq_false_iff_ne.2 hn, lookup_filter_ne hn] using h'

/-- After a lookup the cache holds what the lookup returned. -/
theorem find_get (c : PeerCache) (name : String) : (c.get name).2.find name = (c.get name).1 := by
  unfold get
  split
  · exact find_put_self _ _ _
  · next h => exact h

/-- A lookup invents no entry. -/
theorem find_of_find_get {c : PeerCache} {name n v : String} (h : (c.get name).2.find n = some v) :
    c.find n = some v := by
  unfold get at h
  split at h
  · next ip hip =>
    by_cases hn : n = name
    · subst hn; rwa [find_put_self, ← hip] at h
    · exact find_of_find_put hn h
  · exact h

theorem capacity_get (c : PeerCache) (name : String) : (c.get name).2.capacity = c.capacity := by
  unfold get; split <;> rfl

end PeerCache

/-- The part of a `MeshNode` that `ensurePeerRoute` reads and writes. Routes,
sleeps and authorized keys are logs of the calls, in order. -/
structure MeshNode where
  /-- `m.client != nil`. -/
  hasClient : Bool
  /-- The outcome of the `n`-th call of `m.client.ListPeers()`. -/
  listPeers : Nat → Except String (List PeerInfo)
  /-- The number of `ListPeers` calls made so far. -/
  calls : Nat
  /-- The cache of mesh IPs. -/
  cache : PeerCache
  /-- `m.router.AddRoute(meshIP, name)`, as `(meshIP, name)`. -/
  routes : List (String × String)
  /-- `time.Sleep(d)`, in nanoseconds. -/
  slept : List Int
  /-- `m.SSHTransport != nil`. -/
  hasSSHTransport : Bool
  /-- `config.DecodePublicKey`. -/
  decodePublicKey : String → Except String String
  /-- `m.SSHTransport.AddAuthorizedKey(key)`. -/
  authorizedKeys : List String

/-- The node's goroutine: state passing over the node, with no panic. -/
abbrev NodeM := StateM MeshNode

/-- `m.client.ListPeers()`: the outcome of the next call. -/
def listPeers : NodeM (Except String (List PeerInfo)) := fun m =>
  (m.listPeers m.calls, { m with calls := m.calls + 1 })

/-- `time.Sleep(d)`. -/
def sleep (d : Int) : NodeM Unit := fun m => ((), { m with slept := m.slept ++ [d] })

/-- `m.router.AddRoute(meshIP, name)`. -/
def addRoute (meshIP name : String) : NodeM Unit := fun m =>
  ((), { m with routes := m.routes ++ [(meshIP, name)] })

/-- Modelled from the spec: `MeshNode.GetCachedPeerMeshIP` is not under `src/`; a
lookup in the LRU cache. -/
def getCachedPeerMeshIP (name : String) : NodeM (Option String) := fun m =>
  ((m.cache.get name).1, { m with cache := (m.cache.get name).2 })

/-- Modelled from the spec: `MeshNode.CachePeerMeshIP` is not under `src/`; it
records the peer's mesh IP in the LRU cache. -/
def cachePeerMeshIP (name meshIP : String) : NodeM Unit := fun m =>
  ((), { m with cache := m.cache.put name meshIP })

/-- The authorized-key step for a peer found in the list: only for a non-empty
key and an SSH transport, and only when the key decodes. -/
def addAuthorizedKey (peer : PeerInfo) : NodeM Unit := fun m =>
  if peer.publicKey ≠ "" ∧ m.hasSSHTransport then
    match m.decodePublicKey peer.publicKey with
    | .ok key => ((), { m with authorizedKeys := m.authorizedKeys ++ [key] })
    | .error _ => ((), m)
  else ((), m)

/-- `maxRetries`. -/
def maxRetries : Nat := 5

/-- What the loop does with the peer it found: route, cache entry, key. -/
def routePeer (peer : PeerInfo) : NodeM String := do
  addRoute peer.meshIP peer.name
  cachePeerMeshIP peer.name peer.meshIP
  addAuthorizedKey peer
  pure peer.meshIP

/-- The scan of a successful list: the first entry named `peerName` is routed;
without one the loop breaks. -/
def scanPeers (peerName : String) (peers : List PeerInfo) : NodeM (Option String) :=
  match peers.find? (·.name == peerName) with
  | some peer => some <$> routePeer peer
  | none => pure none

/-- The retry loop, with `n` attempts left, at attempt `attempt` and with the
next backoff `backoff`: the peer's mesh IP when a call found it, `none` when
the loop ended without it (every attempt failed, or the list lacked the name). -/
def retryLoop (peerName : String) : Nat → Nat → Int → NodeM (Option String)
  | 0, _, _ => pure none
  | n + 1, attempt, backoff => do
    match ← listPeers with
    | .error _ =>
      if attempt < maxRetries then sleep backoff
      retryLoop peerName n (attempt + 1) (backoff * 2)
    | .ok peers => scanPeers peerName peers

/-- The cache branch, taken with no client and after the loop: a route from
the cached mesh IP, or `""`. -/
def routeFromCache (peerName : String) : NodeM String := do
  match ← getCachedPeerMeshIP peerName with
  | some meshIP => do
    addRoute meshIP peerName
    pure meshIP
  | none => pure ""

/-- `m.ensurePeerRoute(peerName)`. -/
def ensurePeerRoute (peerName : String) : NodeM String := do
  if !(← get).hasClient then
    return ← routeFromCache peerName
  match ← retryLoop peerName maxRetries 1 (500 * millisecond) with
  | some meshIP => pure meshIP
  | none => routeFromCache peerName

-- ---------------------------------------------------------------------------
-- One lemma per step
-- ---------------------------------------------------------------------------

theorem routeFromCache_eq (peerName : String) (m : MeshNode) :
    routeFromCache peerName m = match m.cache.get peerName with
      | (some meshIP, c) => (meshIP, { m with cache := c, routes := m.routes ++ [(meshIP, peerName)] })
      | (none, c) => ("", { m with cache := c }) := by
  simp only [routeFromCache, getCachedPeerMeshIP, addRoute, bind, StateT.bind, pure, StateT.pure]
  rcases m.cache.get peerName with ⟨_ | ip, c⟩ <;> rfl

/-- The keys that the authorized-key step adds: the decoded key, when the peer
has one and the transport can take it. -/
def newKeys (m : MeshNode) (peer : PeerInfo) : List String :=
  if peer.publicKey ≠ "" ∧ m.hasSSHTransport then (m.decodePublicKey peer.publicKey).toOption.toList
  else []

theorem routePeer_eq (peer : PeerInfo) (m : MeshNode) :
    routePeer peer m = (peer.meshIP,
      { m with routes := m.routes ++ [(peer.meshIP, peer.name)],
               cache := m.cache.put peer.name peer.meshIP,
               authorizedKeys := m.authorizedKeys ++ newKeys m peer }) := by
  simp only [routePeer, addRoute, cachePeerMeshIP, addAuthorizedKey, newKeys, bind, StateT.bind,
    pure, StateT.pure]
  split_ifs
  · cases m.decodePublicKey peer.publicKey <;> simp [Except.toOption]
  · simp

-- ---------------------------------------------------------------------------
-- The retry-and-fallback reference
-- ---------------------------------------------------------------------------

/-- Among `n` calls from call number `start` on, the first that succeeds: how
many failed before it, and its list. -/
def firstSuccess (outcomes : Nat → Except String (List PeerInfo)) (start : Nat) :
    Nat → Option (Nat × List PeerInfo)
  | 0 => none
  | n + 1 =>
    match outcomes start with
    | .ok peers => some (0, peers)
    | .error _ => (firstSuccess outcomes (start + 1) n).map fun (i, peers) => (i + 1, peers)

/-- The backoffs slept after the first `k` failures: `b`, `2b`, `4b`, and so on. -/
def backoffs (b : Int) (k : Nat) : List Int := (List.range k).map fun i => b * 2 ^ i

theorem backoffs_succ (b : Int) (k : Nat) : backoffs b (k + 1) = b :: backoffs (b * 2) k := by
  simp [backoffs, List.range_succ_eq_map, Function.comp_def, pow_succ, mul_comm, mul_left_comm, mul_assoc]

/-- The loop from attempt `attempt` with `n` attempts left, `attempt + n = 6`:
the calls up to the first success, a backoff after each failure but the fifth,
and the scan of the successful list. -/
theorem retryLoop_eq (peerName : String) : ∀ (n attempt : Nat) (b : Int) (m : MeshNode),
    attempt + n = maxRetries + 1 →
    retryLoop peerName n attempt b m =
      match firstSuccess m.listPeers m.calls n with
      | none => (none, { m with calls := m.calls + n, slept := m.slept ++ backoffs b (n - 1) })
      | some (i, peers) =>
        scanPeers peerName peers { m with calls := m.calls + i + 1, slept := m.slept ++ backoffs b i }
  | 0, _, _, m, _ => by simp [retryLoop, firstSuccess, backoffs, pure, StateT.pure]
  | n + 1, attempt, b, m, ha => by
    simp only [retryLoop, firstSuccess]
    cases hout : m.listPeers m.calls with
    | ok peers => simp [bind, StateT.bind, listPeers, hout, backoffs]
    | error e =>
      have ih := retryLoop_eq peerName n (attempt + 1) (b * 2)
        { m with calls := m.calls + 1, slept := m.slept ++ [b] } (by omega)
      cases n with
      | zero =>
        obtain rfl : attempt = maxRetries := by omega
        simp [bind, StateT.bind, listPeers, hout, retryLoop, firstSuccess, backoffs, pure, StateT.pure]
      | succ k =>
        have hlt : attempt < maxRetries := by simp only [maxRetries] at ha ⊢; omega
        simp only [bind, StateT.bind, listPeers, hout, if_pos hlt, sleep, ih]
        rcases firstSuccess m.listPeers (m.calls + 1) (k + 1) with _ | ⟨i, peers⟩
        all_goals simp [backoffs_succ, add_assoc, add_comm, add_left_comm]

/-- The retry-and-fallback reference, from the documented behaviour. Without a
client: the cache branch. With one: at most five calls of `ListPeers`, ending at
the first that succeeds, with `500 ms · 2^(i-1)` slept after the `i`-th
failure when `i < 5`. If that list names the peer, its first such entry gives
the route to the peer, the cache entry and, if available, the authorized key,
and its mesh IP is returned. Otherwise the cache branch: a route from the
cached mesh IP, which is returned, or `""` and no route. -/
def ensurePeerRouteRef (peerName : String) (m : MeshNode) : String × MeshNode :=
  let fromCache (m' : MeshNode) : String × MeshNode :=
    match m'.cache.get peerName with
    | (some meshIP, c) => (meshIP, { m' with cache := c, routes := m'.routes ++ [(meshIP, peerName)] })
    | (none, c) => ("", { m' with cache := c })
  if !m.hasClient then fromCache m
  else match firstSuccess m.listPeers m.calls maxRetries with
    | none =>
      fromCache { m with
        calls := m.calls + maxRetries
        slept := m.slept ++ backoffs (500 * millisecond) (maxRetries - 1) }
    | some (i, peers) =>
      let m' := { m with calls := m.calls + i + 1, slept := m.slept ++ backoffs (500 * millisecond) i }
      match peers.find? (·.name == peerName) with
      | some peer => (peer.meshIP, { m' with
          routes := m'.routes ++ [(peer.meshIP, peerName)]
          cache := m'.cache.put peerName peer.meshIP
          authorizedKeys := m'.authorizedKeys ++ newKeys m' peer })
      | none => fromCache m'

theorem ensurePeerRoute_eq_ref (peerName : String) (m : MeshNode) :
    (ensurePeerRoute peerName).run m = ensurePeerRouteRef peerName m := by
  simp only [ensurePeerRoute, ensurePeerRouteRef, StateT.run, bind, StateT.bind, get, getThe,
    MonadStateOf.get, StateT.get, pure, StateT.pure]
  split_ifs with hc
  · simp only [StateT.bind, StateT.pure, routeFromCache_eq]
    rcases m.cache.get peerName with ⟨_ | _, _⟩ <;> rfl
  · simp only [StateT.bind, StateT.pure, Id.pure_eq, Id.bind_eq,
      retryLoop_eq peerName maxRetries 1 (500 * millisecond) m rfl]
    rcases firstSuccess m.listPeers m.calls maxRetries with _ | ⟨i, peers⟩
    · simp only [routeFromCache_eq]
      rfl
    · simp only [scanPeers]
      rcases hf : peers.find? (·.name == peerName) with _ | peer
      · simp only [hf, pure, StateT.pure, routeFromCache_eq]
        rfl
      · have hname : peer.name = peerName := by simpa using List.find?_some hf
        simp only [hf, Functor.map, StateT.map, routePeer_eq, hname, StateT.pure]
        rfl

/-- The first successful call is among the `n` made, at its index. -/
theorem firstSuccess_lt {outcomes : Nat → Except String (List PeerInfo)} :
    ∀ {start n i : Nat} {peers : List PeerInfo}, firstSuccess outcomes start n = some (i, peers) →
      i < n ∧ outcomes (start + i) = .ok peers
  | _, 0, _, _, h => nomatch h
  | start, n + 1, i, peers, h => by
    unfold firstSuccess at h
    split at h
    · next hok =>
      cases h
      exact ⟨Nat.succ_pos n, hok⟩
    · obtain ⟨⟨j, q⟩, hj, hq⟩ := Option.map_eq_some'.1 h
      cases hq
      obtain ⟨hlt, hout⟩ := firstSuccess_lt hj
      exact ⟨by omega, by rw [← hout]; congr 1; omega⟩

/-- What the cache branch does: a route from the cached mesh IP, and nothing else. -/
theorem routeFromCache_spec (peerName : String) (m : MeshNode) :
    ∃ ip m', routeFromCache peerName m = (ip, m') ∧ m'.calls = m.calls ∧ m'.slept = m.slept ∧
      m'.cache.capacity = m.cache.capacity ∧ (∀ n v, m'.cache.find n = some v → m.cache.find n = some v) ∧
      (m'.routes = m.routes ++ [(ip, peerName)] ∧ m'.cache.find peerName = some ip ∨
        ip = "" ∧ m'.routes = m.routes) := by
  rw [routeFromCache_eq]
  have hfind := PeerCache.find_get m.cache peerName
  have hcap := PeerCache.capacity_get m.cache peerName
  have hsub : ∀ n v, (m.cache.get peerName).2.find n = some v → m.cache.find n = some v :=
    fun _ _ => PeerCache.find_of_find_get
  generalize m.cache.get peerName = g at hfind hcap hsub ⊢
  rcases g with ⟨_ | ip, c⟩
  · exact ⟨"", _, rfl, rfl, rfl, hcap, hsub, .inr ⟨rfl, rfl⟩⟩
  · exact ⟨ip, _, rfl, rfl, rfl, hcap, hsub, .inl ⟨rfl, hfind⟩⟩

/-- What a call of `ensurePeerRoute` from node `m` may do, ending with `ip` and `m'`: at
most five `ListPeers` calls; the first `k < 5` backoffs slept (500 ms, 1 s, 2 s, 4 s: at
most 7.5 s in all); a cache of the same capacity that holds no mesh IP for another peer
that it did not hold before; and either one route, to `ip`, which the cache then holds
for the peer, or `ip = ""` and no route. -/
def RouteEffects (peerName : String) (m : MeshNode) (ip : String) (m' : MeshNode) : Prop :=
  m'.calls ≤ m.calls + maxRetries ∧
  (∃ k < maxRetries, m'.slept = m.slept ++ backoffs (500 * millisecond) k) ∧
  m'.cache.capacity = m.cache.capacity ∧
  (∀ name v, name ≠ peerName → m'.cache.find name = some v → m.cache.find name = some v) ∧
  (m'.routes = m.routes ++ [(ip, peerName)] ∧ m'.cache.find peerName = some ip ∨ ip = "" ∧ m'.routes = m.routes)

/-- Whatever `ListPeers` answers on each call, `ensurePeerRoute` makes at most five calls,
sleeps exactly the first `k < 5` backoffs (at most 7.5 s in all), keeps the capacity of
its LRU cache, which then holds no mesh IP for another peer that it did not hold before,
and either adds one route, to the mesh IP it returns, which the cache then holds for the
peer, or returns `""` and adds no route. -/
theorem ensurePeerRoute_effects (peerName : String) (m : MeshNode) :
    ∃ ip m', (ensurePeerRoute peerName).run m = (ip, m') ∧ RouteEffects peerName m ip m' := by
  -- the cache branch, from a node `m₁` that the loop left
  have hcache : ∀ m₁ : MeshNode, m₁.calls ≤ m.calls + maxRetries →
      (∃ k < maxRetries, m₁.slept = m.slept ++ backoffs (500 * millisecond) k) → m₁.cache = m.cache →
      m₁.routes = m.routes → ∃ ip m', routeFromCache peerName m₁ = (ip, m') ∧ RouteEffects peerName m ip m' := by
    intro m₁ hc hs hca hr
    obtain ⟨ip, m', h, hc', hs', hcap, hsub, hr'⟩ := routeFromCache_spec peerName m₁
    rw [hca] at hcap hsub
    rw [hr] at hr'
    exact ⟨ip, m', h, hc' ▸ hc, hs' ▸ hs, hcap, fun n v _ => hsub n v, hr'⟩
  simp only [ensurePeerRoute, StateT.run, bind, StateT.bind, get, getThe, MonadStateOf.get, StateT.get, pure,
    StateT.pure]
  split_ifs with hc
  · obtain ⟨ip, m', h, h'⟩ := hcache m (by omega) ⟨0, by decide, by simp [backoffs]⟩ rfl rfl
    exact ⟨ip, m', by simp only [StateT.bind, StateT.pure, h]; rfl, h'⟩
  · simp only [StateT.bind, StateT.pure, Id.pure_eq, Id.bind_eq,
      retryLoop_eq peerName maxRetries 1 (500 * millisecond) m rfl]
    rcases hfs : firstSuccess m.listPeers m.calls maxRetries with _ | ⟨i, peers⟩
    · obtain ⟨ip, m', h, h'⟩ := hcache
        { m with calls := m.calls + maxRetries, slept := m.slept ++ backoffs (500 * millisecond) (maxRetries - 1) }
        le_rfl ⟨maxRetries - 1, by decide, rfl⟩ rfl rfl
      exact ⟨ip, m', by simp only [h], h'⟩
    · have hi := (firstSuccess_lt hfs).1
      dsimp only
      simp only [scanPeers]
      rcases hf : peers.find? (·.name == peerName) with _ | peer
      · obtain ⟨ip, m', h, h'⟩ := hcache
          { m with calls := m.calls + i + 1, slept := m.slept ++ backoffs (500 * millisecond) i }
          (by dsimp only; omega) ⟨i, hi, rfl⟩ rfl rfl
        exact ⟨ip, m', by simp only [hf, pure, StateT.pure, h], h'⟩
      · have hname : peer.name = peerName := by simpa using List.find?_some hf
        simp only [hf, Functor.map, StateT.map, routePeer_eq, Id.pure_eq, Id.bind_eq, StateT.pure]
        refine ⟨_, _, rfl, by dsimp only; omega, ⟨i, hi, rfl⟩, rfl, fun n v hn => ?_, .inl ⟨by rw [hname], ?_⟩⟩
        · exact PeerCache.find_of_find_put (hname ▸ hn)
        · exact hname ▸ PeerCache.find_put_self _ _ _

-- ---------------------------------------------------------------------------
-- Accepting connections
-- ---------------------------------------------------------------------------

/-- What one `listener.Accept(ctx)` call gives: a connection, or an error together with
whether `ctx.Err()` was set at the check that follows. -/
inductive Accepted (Conn : Type)
  | conn (c : Conn)
  | error (cancelled : Bool)

/-- The outcome that ends the loop: an error with the context done. -/
def Accepted.stops {Conn : Type} : Accepted Conn → Bool
  | .error true => true
  | _ => false

/-- The connection of an outcome, if any. -/
def Accepted.conn? {Conn : Type} : Accepted Conn → Option Conn
  | .conn c => some c
  | .error _ => none

/-- The accept loop of `HandleIncomingSSH` and `HandleIncomingUDP` over the outcomes of
its `Accept` calls: the connections it hands to `go m.handleIncomingConnection(ctx, conn,
label)`, in order, and whether it returned. An error with a live context is logged and
the loop goes on. -/
def acceptLoop {Conn : Type} (label : String) : List (Accepted Conn) → List (Conn × String) × Bool
  | [] => ([], false)
  | .conn c :: outcomes =>
    let rest := acceptLoop label outcomes
    ((c, label) :: rest.1, rest.2)
  | .error cancelled :: outcomes => if cancelled then ([], true) else acceptLoop label outcomes

/-- `m.HandleIncomingSSH(ctx, listener)`. -/
def handleIncomingSSH {Conn : Type} : List (Accepted Conn) → List (Conn × String) × Bool :=
  acceptLoop "SSH"

/-- `m.HandleIncomingUDP(ctx, listener)`. -/
def handleIncomingUDP {Conn : Type} : List (Accepted Conn) → List (Conn × String) × Bool :=
  acceptLoop "UDP"

/-- The loop returns exactly when some `Accept` error finds the context done, and hands
on, with its label, every connection accepted before the first such error. -/
theorem acceptLoop_eq {Conn : Type} (label : String) (outcomes : List (Accepted Conn)) :
    acceptLoop label outcomes =
      (((outcomes.takeWhile (!·.stops)).filterMap Accepted.conn?).map (·, label),
        outcomes.any Accepted.stops) := by
  induction outcomes with
  | nil => rfl
  | cons o outcomes ih =>
    cases o with
    | conn c => simp [acceptLoop, ih, Accepted.stops, Accepted.conn?]
    | error cancelled =>
      cases cancelled <;> simp [acceptLoop, ih, Accepted.stops, Accepted.conn?]

end TunnelMesh.Peer
