-- SUMMARY: Server.handleAdminOverview: one row per entry of the peer map in any iteration order, the online count, and sort.Slice under the mesh-IP comparator; with parseable, distinct mesh IPs the table is strictly ascending and the same for every order.
import TunnelMesh.Benchmark.Config

/-!
# The admin overview

`Server.handleAdminOverview` from `internal/coord/admin.go`. Under the read
lock it walks the peer map, in the order Go's map iteration picks, building
one `AdminPeerInfo` per entry and counting the peers seen within two minutes;
then it sorts the rows with `sort.Slice` by mesh IP, comparing the 16-byte
forms of the addresses and falling back to the strings when one does not
parse.

The collaborators are explicit. The iteration order is a list that carries its
proof of being a permutation of the map's entries (`IterationOrder`), so every
result holds for every order. `net.ParseIP` is a parameter, and `sort.Slice`
is any function that keeps the promise of its documentation (`SortSlice`): it
permutes the slice, and sorts it when `less` orders the elements strictly. The
types of the coordination server that are not under `src/` (`peerInfo`,
`proto.Peer`, `proto.PeerStats`, the hole-punch endpoints) are given by the
fields the handler reads.

`handleAdminOverview_sorted` shows that when every mesh IP parses and the
addresses are pairwise distinct, a GET answers one overview for every
iteration order, and that overview meets `IsSortedOverview`: its rows are the
map's records sorted strictly ascending by their 16-byte addresses, with the
peer count and the online count as stated. The proof rests on `bytes.Compare`
being a strict total order (`bytesCompare_trans`, `bytesCompare_total`) and on
the uniqueness of a strictly sorted permutation (`SortSlice.sort_eq_of_perm`).
`mergeSortSlice` keeps the promise of `SortSlice`, so the results are not about
an empty class of sorts.
-/

namespace TunnelMesh.Coord

open Benchmark (second)

/-- `time.Minute`, in nanoseconds. -/
def minute : Int := 60 * second

/-- The ends of `time.Duration`, an `int64` of nanoseconds. -/
def minDuration : Int := -2 ^ 63
def maxDuration : Int := 2 ^ 63 - 1

/-- `t.Sub(u)`: the difference, saturated to the range of `time.Duration`. -/
def timeSub (t u : Int) : Int := max minDuration (min maxDuration (t - u))

/-- `d.Round(m)`: the multiple of `m` nearest to `d`, halves away from zero,
saturated at the ends of the range. -/
def roundDuration (d m : Int) : Int :=
  if m ≤ 0 then d
  else if d < 0 then
    let r := -d.tmod m
    if 2 * r < m then d + r
    else if minDuration ≤ d - m + r then d - m + r else minDuration
  else
    let r := d.tmod m
    if 2 * r < m then d - r
    else if d + m - r ≤ maxDuration then d + m - r else maxDuration

/-- `proto.PeerStats`: the counters a heartbeat carries. -/
structure PeerStats where
  bytesSent : UInt64
  bytesReceived : UInt64
  packetsSent : UInt64
  packetsReceived : UInt64
  deriving DecidableEq

/-- `proto.Peer`: the fields the handler reads. Instants are nanoseconds. -/
structure Peer where
  name : String
  meshIP : String
  publicIPs : List String
  privateIPs : List String
  sshPort : Int
  udpPort : Int
  lastSeen : Int
  connectable : Bool
  behindNAT : Bool
  version : String
  deriving DecidableEq

/-- The server's `peerInfo` for a registered peer; `lastStatsTime` is `none`
for the zero `time.Time`. -/
structure PeerRecord where
  peer : Peer
  registeredAt : Int
  heartbeatCount : UInt64
  stats : Option PeerStats
  prevStats : Option PeerStats
  lastStatsTime : Option Int
  deriving DecidableEq

/-- A hole-punch endpoint: the external UDP addresses seen for a peer. -/
structure Endpoint where
  externalAddr4 : String
  externalAddr6 : String
  deriving DecidableEq

/-- Go's `map[string]*peerInfo`: entries with distinct keys. -/
structure PeerMap where
  entries : List (String × PeerRecord)
  nodup : (entries.map Prod.fst).Nodup

/-- An order in which `range` may walk the map: any permutation of its entries. -/
structure IterationOrder (m : PeerMap) where
  order : List (String × PeerRecord)
  perm : order.Perm m.entries

/-- The parts of `Server` the handler reads. -/
structure Server where
  peers : PeerMap
  startTime : Int
  totalHeartbeats : UInt64
  version : String
  meshCIDR : String
  domainSuffix : String
  /-- `s.holePunch.GetEndpoint(name)`, when `s.holePunch != nil`. -/
  holePunch : Option (String → Option Endpoint)

/-- `AdminPeerInfo`. The rates are exact rationals. -/
structure AdminPeerInfo where
  name : String
  meshIP : String
  publicIPs : List String
  privateIPs : List String
  sshPort : Int
  udpPort : Int
  udpExternalAddr4 : String
  udpExternalAddr6 : String
  lastSeen : Int
  online : Bool
  connectable : Bool
  behindNAT : Bool
  registeredAt : Int
  heartbeatCount : UInt64
  stats : Option PeerStats
  bytesSentRate : ℚ
  bytesReceivedRate : ℚ
  packetsSentRate : ℚ
  packetsReceivedRate : ℚ
  version : String
  deriving DecidableEq

/-- `AdminOverview`; `serverUptime` is the rounded `time.Duration` that the
handler formats with `String()`. -/
structure AdminOverview where
  serverUptime : Int
  serverVersion : String
  totalPeers : Nat
  onlinePeers : Nat
  totalHeartbeats : UInt64
  meshCIDR : String
  domainSuffix : String
  peers : List AdminPeerInfo
  deriving DecidableEq

/-- `onlineThreshold`. -/
def onlineThreshold : Int := 2 * minute

/-- `float64(a - b) / 30.0`, the `uint64` difference read exactly. -/
def rate (a b : UInt64) : ℚ := ((a - b).toNat : ℚ) / 30

/-- The row for one entry of the map, as the loop body builds it. -/
def adminPeerInfo (s : Server) (now : Int) (info : PeerRecord) : AdminPeerInfo :=
  let ep := s.holePunch.bind fun getEndpoint => getEndpoint info.peer.name
  let row : AdminPeerInfo :=
    { name := info.peer.name, meshIP := info.peer.meshIP, publicIPs := info.peer.publicIPs,
      privateIPs := info.peer.privateIPs, sshPort := info.peer.sshPort, udpPort := info.peer.udpPort,
      udpExternalAddr4 := (ep.map (·.externalAddr4)).getD "",
      udpExternalAddr6 := (ep.map (·.externalAddr6)).getD "",
      lastSeen := info.peer.lastSeen, online := decide (timeSub now info.peer.lastSeen < onlineThreshold),
      connectable := info.peer.connectable, behindNAT := info.peer.behindNAT,
      registeredAt := info.registeredAt, heartbeatCount := info.heartbeatCount, stats := info.stats,
      bytesSentRate := 0, bytesReceivedRate := 0, packetsSentRate := 0, packetsReceivedRate := 0,
      version := info.peer.version }
  match info.prevStats, info.stats, info.lastStatsTime with
  | some prev, some st, some _ =>
    { row with
      bytesSentRate := rate st.bytesSent prev.bytesSent
      bytesReceivedRate := rate st.bytesReceived prev.bytesReceived
      packetsSentRate := rate st.packetsSent prev.packetsSent
      packetsReceivedRate := rate st.packetsReceived prev.packetsReceived }
  | _, _, _ => row

/-- One pass of the loop over the map: append the entry's row, and count it
when it is online. -/
def collectStep (s : Server) (now : Int) (acc : Nat × List AdminPeerInfo) (e : String × PeerRecord) :
    Nat × List AdminPeerInfo :=
  let row := adminPeerInfo s now e.2
  (if row.online then acc.1 + 1 else acc.1, acc.2 ++ [row])

/-- The loop over the map: the online count and the rows, in iteration order. -/
def collectPeers (s : Server) (now : Int) (order : List (String × PeerRecord)) : Nat × List AdminPeerInfo :=
  order.foldl (collectStep s now) (0, [])

/-- `bytes.Compare(a, b)`: lexicographic, a proper prefix first. -/
def bytesCompare : List UInt8 → List UInt8 → Int
  | [], [] => 0
  | [], _ :: _ => -1
  | _ :: _, [] => 1
  | a :: as, b :: bs => if a < b then -1 else if b < a then 1 else bytesCompare as bs

/-- `ip.To16()`: an IPv4 address in its IPv4-mapped form, a 16-byte one as it
is, anything else `nil`. -/
def to16 (ip : List UInt8) : List UInt8 :=
  if ip.length = 4 then [0, 0, 0, 0, 0, 0, 0, 0, 0, 0, 0xff, 0xff] ++ ip
  else if ip.length = 16 then ip else []

/-- The comparator given to `sort.Slice`: by 16-byte address when both mesh IPs
parse, by string otherwise. -/
def meshIPLess (parseIP : String → Option (List UInt8)) (a b : AdminPeerInfo) : Bool :=
  match parseIP a.meshIP, parseIP b.meshIP with
  | some ipI, some ipJ => decide (bytesCompare (to16 ipI) (to16 ipJ) < 0)
  | _, _ => decide (a.meshIP < b.meshIP)

/-- `less` orders the elements of `xs` strictly: irreflexive, transitive, and
total on distinct elements. -/
structure StrictTotalOn {α : Type} (less : α → α → Bool) (xs : List α) : Prop where
  irrefl : ∀ a ∈ xs, less a a = false
  trans : ∀ a ∈ xs, ∀ b ∈ xs, ∀ c ∈ xs, less a b → less b c → less a c
  total : ∀ a ∈ xs, ∀ b ∈ xs, a ≠ b → less a b ∨ less b a

/-- `sort.Slice` as its documentation promises: the result is a permutation of
the slice, sorted by `less` when `less` orders the slice's elements strictly.
Go's algorithm is not modelled: every result holds for every sort that keeps
this promise. -/
structure SortSlice where
  sort : {α : Type} → (α → α → Bool) → List α → List α
  perm : ∀ {α : Type} (less : α → α → Bool) (xs : List α), (sort less xs).Perm xs
  sorted : ∀ {α : Type} (less : α → α → Bool) (xs : List α), StrictTotalOn less xs →
    (sort less xs).Pairwise fun a b => less b a = false

/-- `s.handleAdminOverview(w, r)` for a request with method `method`, at the
instant `now`, walking the map in the order `order`: the overview it encodes,
or the error text and status of `jsonError`. -/
def handleAdminOverview (sortSlice : SortSlice) (parseIP : String → Option (List UInt8)) (s : Server)
    (method : String) (order : IterationOrder s.peers) (now : Int) : Except (String × Nat) AdminOverview :=
  if method ≠ "GET" then .error ("method not allowed", 405)
  else
    let (online, rows) := collectPeers s now order.order
    .ok { serverUptime := roundDuration (timeSub now s.startTime) second
          serverVersion := s.version
          totalPeers := s.peers.entries.length
          onlinePeers := online
          totalHeartbeats := s.totalHeartbeats
          meshCIDR := s.meshCIDR
          domainSuffix := s.domainSuffix
          peers := sortSlice.sort (meshIPLess parseIP) rows }

/-! ## The order of addresses -/

theorem uint8_eq_iff {a b : UInt8} : a = b ↔ a.toNat = b.toNat :=
  ⟨congrArg _, fun h => UInt8.eq_of_val_eq (Fin.ext h)⟩

/-- The byte comparison at the head, read on the numeric values. -/
theorem bytesCompare_cons (x y : UInt8) (xs ys : List UInt8) :
    bytesCompare (x :: xs) (y :: ys) =
      if x.toNat < y.toNat then -1 else if y.toNat < x.toNat then 1 else bytesCompare xs ys := rfl

/-- Nothing is before the empty slice. -/
theorem bytesCompare_nil_right (a : List UInt8) : 0 ≤ bytesCompare a [] := by
  cases a <;> simp [bytesCompare]

/-- `bytes.Compare` is antisymmetric. -/
theorem bytesCompare_swap : ∀ a b : List UInt8, bytesCompare b a = -bytesCompare a b
  | [], [] | [], _ :: _ | _ :: _, [] => rfl
  | x :: xs, y :: ys => by
    simp only [bytesCompare_cons, bytesCompare_swap xs ys]
    split_ifs <;> omega

@[simp] theorem bytesCompare_self (a : List UInt8) : bytesCompare a a = 0 := by
  have := bytesCompare_swap a a
  omega

theorem eq_of_bytesCompare_eq_zero : ∀ {a b : List UInt8}, bytesCompare a b = 0 → a = b
  | [], [], _ => rfl
  | x :: xs, y :: ys, h => by
    simp only [bytesCompare_cons] at h
    split_ifs at h <;> try omega
    rw [uint8_eq_iff.2 (show x.toNat = y.toNat by omega), eq_of_bytesCompare_eq_zero h]

/-- Distinct byte strings compare one way or the other. -/
theorem bytesCompare_total {a b : List UInt8} (h : a ≠ b) : bytesCompare a b < 0 ∨ bytesCompare b a < 0 := by
  have := mt eq_of_bytesCompare_eq_zero h
  rw [bytesCompare_swap a b]
  omega

/-- Below at the head, or equal there and below in the tails. -/
theorem bytesCompare_cons_lt_zero (x y : UInt8) (xs ys : List UInt8) :
    bytesCompare (x :: xs) (y :: ys) < 0 ↔ x.toNat < y.toNat ∨ x.toNat = y.toNat ∧ bytesCompare xs ys < 0 := by
  rw [bytesCompare_cons]
  split_ifs <;> omega

/-- `bytes.Compare` is transitive. -/
theorem bytesCompare_trans : ∀ {a b c : List UInt8},
    bytesCompare a b < 0 → bytesCompare b c < 0 → bytesCompare a c < 0
  | _, [], _, hab, _ => absurd hab (not_lt.2 (bytesCompare_nil_right _))
  | _, _, [], _, hbc => absurd hbc (not_lt.2 (bytesCompare_nil_right _))
  | [], _ :: _, _ :: _, _, _ => by simp [bytesCompare]
  | x :: xs, y :: ys, z :: zs, hab, hbc => by
    rw [bytesCompare_cons_lt_zero] at *
    rcases hab with hab | ⟨hxy, hab⟩ <;> rcases hbc with hbc | ⟨hyz, hbc⟩ <;> try omega
    -- equal heads on both sides: the tails decide
    exact .inr ⟨hxy.trans hyz, bytesCompare_trans hab hbc⟩

/-- The addresses order 10.99.0.9 before 10.99.0.10. -/
example : bytesCompare (to16 [10, 99, 0, 9]) (to16 [10, 99, 0, 10]) < 0 := by decide

/-! ## The loop over the map -/

/-- The loop from any accumulator: it adds the online rows to the count and
appends one row per entry. -/
theorem foldl_collectStep (s : Server) (now : Int) :
    ∀ (order : List (String × PeerRecord)) (acc : Nat × List AdminPeerInfo),
      order.foldl (collectStep s now) acc =
        (acc.1 + (order.map (adminPeerInfo s now ·.2)).countP (·.online),
          acc.2 ++ order.map (adminPeerInfo s now ·.2))
  | [], acc => by simp
  | e :: es, acc => by
    rw [List.foldl_cons, foldl_collectStep s now es]
    simp only [collectStep, List.map_cons, List.countP_cons, List.append_assoc, List.singleton_append,
      Prod.mk.injEq, and_true]
    split_ifs <;> omega

/-- The loop yields one row per entry, in iteration order, and counts the
online ones. -/
theorem collectPeers_eq (s : Server) (now : Int) (order : List (String × PeerRecord)) :
    collectPeers s now order =
      ((order.map (adminPeerInfo s now ·.2)).countP (·.online), order.map (adminPeerInfo s now ·.2)) := by
  simp [collectPeers, foldl_collectStep]

@[simp] theorem adminPeerInfo_meshIP (s : Server) (now : Int) (info : PeerRecord) :
    (adminPeerInfo s now info).meshIP = info.peer.meshIP := by
  unfold adminPeerInfo; split <;> rfl

@[simp] theorem adminPeerInfo_lastSeen (s : Server) (now : Int) (info : PeerRecord) :
    (adminPeerInfo s now info).lastSeen = info.peer.lastSeen := by
  unfold adminPeerInfo; split <;> rfl

@[simp] theorem adminPeerInfo_online (s : Server) (now : Int) (info : PeerRecord) :
    (adminPeerInfo s now info).online = decide (timeSub now info.peer.lastSeen < onlineThreshold) := by
  unfold adminPeerInfo; split <;> rfl

/-- The saturation of `Sub` never moves a difference across the threshold. -/
theorem timeSub_lt_onlineThreshold (t u : Int) : timeSub t u < onlineThreshold ↔ t - u < 2 * minute := by
  simp only [timeSub, onlineThreshold, minute, minDuration, maxDuration, Benchmark.second]
  omega

/-! ## Strict orders and `sort.Slice` -/

/-- A strict order is asymmetric. -/
theorem StrictTotalOn.asymm {α : Type} {less : α → α → Bool} {xs : List α} (h : StrictTotalOn less xs)
    {a b : α} (ha : a ∈ xs) (hb : b ∈ xs) (hab : less a b) : less b a = false := by
  cases hba : less b a
  · rfl
  · simpa [h.irrefl a ha] using h.trans a ha b hb a ha hab hba

/-- Being ordered strictly depends only on the elements, not on their order. -/
theorem StrictTotalOn.of_perm {α : Type} {less : α → α → Bool} {xs ys : List α} (h : StrictTotalOn less xs)
    (hp : ys.Perm xs) : StrictTotalOn less ys where
  irrefl a ha := h.irrefl a (hp.subset ha)
  trans a ha b hb c hc := h.trans a (hp.subset ha) b (hp.subset hb) c (hp.subset hc)
  total a ha b hb := h.total a (hp.subset ha) b (hp.subset hb)

/-- On distinct elements ordered strictly, `sort.Slice` sorts strictly. -/
theorem SortSlice.pairwise_less (sortSlice : SortSlice) {α : Type} {less : α → α → Bool} {xs : List α}
    (h : StrictTotalOn less xs) (hnd : xs.Nodup) : (sortSlice.sort less xs).Pairwise fun a b => less a b := by
  have hp := sortSlice.perm less xs
  refine ((sortSlice.sorted less xs h).and (hp.nodup_iff.2 hnd)).imp_of_mem fun ha hb ⟨hba, hne⟩ => ?_
  simpa [hba] using h.total _ (hp.subset ha) _ (hp.subset hb) hne

/-- The strictly sorted permutation is unique: `sort.Slice` gives the same
list for every order of its input. -/
theorem SortSlice.sort_eq_of_perm (sortSlice : SortSlice) {α : Type} {less : α → α → Bool} {xs ys : List α}
    (h : StrictTotalOn less xs) (hnd : xs.Nodup) (hp : ys.Perm xs) :
    sortSlice.sort less ys = sortSlice.sort less xs := by
  have hx := sortSlice.perm less xs
  have hy := (sortSlice.perm less ys).trans hp
  refine List.Perm.eq_of_sorted (fun a b ha _ hab hba => ?_) (sortSlice.pairwise_less (h.of_perm hp) (hp.nodup_iff.2 hnd))
    (sortSlice.pairwise_less h hnd) (hy.trans hx.symm)
  simp [h.asymm (hy.subset ha) (hx.subset ‹_›) hab] at hba

/-- `sort.Slice`'s promise is kept by a merge sort: the contract is not void. -/
def mergeSortSlice : SortSlice where
  sort less xs := (xs.attach.mergeSort fun a b => !less b.1 a.1).map Subtype.val
  perm less xs := by
    simpa only [List.attach_map_subtype_val] using (List.mergeSort_perm xs.attach _).map Subtype.val
  sorted less xs h := by
    refine List.pairwise_map.2 ((List.sorted_mergeSort ?_ ?_ xs.attach).imp fun hab => by simpa using hab)
    · intro ⟨a, ha⟩ ⟨b, hb⟩ ⟨c, hc⟩ hab hbc
      simp only [Bool.not_eq_true', Bool.not_eq_eq_eq_not, Bool.not_true] at hab hbc ⊢
      cases hca : less c a
      · rfl
      by_cases hcb : c = b
      · subst hcb; simp_all
      rcases h.total c hc b hb hcb with h' | h'
      · simp_all
      · simpa [hab] using h.trans b hb c hc a ha h' hca
    · intro ⟨a, ha⟩ ⟨b, hb⟩
      cases hba : less b a
      · simp
      · simp [h.asymm hb ha hba]

/-! ## The comparator -/

/-- When both mesh IPs parse, the comparator compares the 16-byte forms. -/
theorem meshIPLess_of_parse {parseIP : String → Option (List UInt8)} {a b : AdminPeerInfo} {x y : List UInt8}
    (ha : parseIP a.meshIP = some x) (hb : parseIP b.meshIP = some y) :
    meshIPLess parseIP a b = decide (bytesCompare (to16 x) (to16 y) < 0) := by
  simp [meshIPLess, ha, hb]

/-- When every mesh IP parses and the addresses are distinct, the comparator
orders the rows strictly. -/
theorem strictTotalOn_meshIPLess {parseIP : String → Option (List UInt8)} {rows : List AdminPeerInfo}
    (hparse : ∀ r ∈ rows, ∃ ip, parseIP r.meshIP = some ip)
    (hdistinct : (rows.map fun r => (parseIP r.meshIP).map to16).Nodup) :
    StrictTotalOn (meshIPLess parseIP) rows where
  irrefl a ha := by
    obtain ⟨x, hx⟩ := hparse a ha
    simp [meshIPLess_of_parse hx hx]
  trans a ha b hb c hc := by
    obtain ⟨x, hx⟩ := hparse a ha
    obtain ⟨y, hy⟩ := hparse b hb
    obtain ⟨z, hz⟩ := hparse c hc
    simp only [meshIPLess_of_parse hx hy, meshIPLess_of_parse hy hz, meshIPLess_of_parse hx hz,
      decide_eq_true_eq]
    exact bytesCompare_trans
  total a ha b hb hne := by
    obtain ⟨x, hx⟩ := hparse a ha
    obtain ⟨y, hy⟩ := hparse b hb
    have hxy : to16 x ≠ to16 y := fun h =>
      hne (List.inj_on_of_nodup_map hdistinct ha hb (by simp [hx, hy, h]))
    simpa [meshIPLess_of_parse hx hy, meshIPLess_of_parse hy hx] using bytesCompare_total hxy

/-! ## The overview -/

/-- What a GET of the overview should answer: the records' rows sorted strictly
ascending by the 16-byte forms of their mesh IPs, the peer count, and the
online count, a row being online when its peer was seen within two minutes. -/
def IsSortedOverview (parseIP : String → Option (List UInt8)) (s : Server) (now : Int)
    (ov : AdminOverview) : Prop :=
  ov.peers.Perm (s.peers.entries.map (adminPeerInfo s now ·.2)) ∧
  ov.peers.Pairwise (fun a b => ∃ x y, parseIP a.meshIP = some x ∧ parseIP b.meshIP = some y ∧
    bytesCompare (to16 x) (to16 y) < 0) ∧
  ov.totalPeers = ov.peers.length ∧
  ov.onlinePeers = ov.peers.countP (·.online) ∧
  ∀ r ∈ ov.peers, r.online = true ↔ now - r.lastSeen < 2 * minute

/-- Once the comparator orders the rows strictly, the iteration order does not
show in the answer. -/
theorem handleAdminOverview_order_eq (sortSlice : SortSlice) (parseIP : String → Option (List UInt8))
    (s : Server) (method : String) (now : Int)
    (hstrict : StrictTotalOn (meshIPLess parseIP) (s.peers.entries.map (adminPeerInfo s now ·.2)))
    (hnd : (s.peers.entries.map (adminPeerInfo s now ·.2)).Nodup) (order order' : IterationOrder s.peers) :
    handleAdminOverview sortSlice parseIP s method order now =
      handleAdminOverview sortSlice parseIP s method order' now := by
  have hp (o : IterationOrder s.peers) := o.perm.map (adminPeerInfo s now ·.2)
  simp only [handleAdminOverview, collectPeers_eq, sortSlice.sort_eq_of_perm hstrict hnd (hp order),
    sortSlice.sort_eq_of_perm hstrict hnd (hp order'), (hp order).countP_eq, (hp order').countP_eq]

/-- For every map whose mesh IPs parse to pairwise distinct addresses, and every
instant, a GET answers the sorted overview, the same for every iteration order. -/
theorem handleAdminOverview_sorted (sortSlice : SortSlice) (parseIP : String → Option (List UInt8))
    (s : Server) (now : Int)
    (hparse : ∀ e ∈ s.peers.entries, ∃ ip, parseIP e.2.peer.meshIP = some ip)
    (hdistinct : (s.peers.entries.map fun e => (parseIP e.2.peer.meshIP).map to16).Nodup) :
    ∃ ov, IsSortedOverview parseIP s now ov ∧
      ∀ order : IterationOrder s.peers, handleAdminOverview sortSlice parseIP s "GET" order now = .ok ov := by
  have hparse' : ∀ r ∈ s.peers.entries.map (adminPeerInfo s now ·.2), ∃ ip, parseIP r.meshIP = some ip := by
    simpa only [List.forall_mem_map, adminPeerInfo_meshIP] using hparse
  have hdistinct' : ((s.peers.entries.map (adminPeerInfo s now ·.2)).map
      fun r => (parseIP r.meshIP).map to16).Nodup := by
    simpa [Function.comp_def] using hdistinct
  have hstrict := strictTotalOn_meshIPLess hparse' hdistinct'
  have hnd := hdistinct'.of_map _
  let canonical : IterationOrder s.peers := ⟨s.peers.entries, List.Perm.refl _⟩
  refine ⟨_, ?_, fun order => (handleAdminOverview_order_eq sortSlice parseIP s "GET" now hstrict hnd order
    canonical).trans (by simp only [handleAdminOverview]; rfl)⟩
  rw [collectPeers_eq]
  have hp := sortSlice.perm (meshIPLess parseIP) (s.peers.entries.map (adminPeerInfo s now ·.2))
  refine ⟨hp, ?_, by simp [hp.length_eq], (hp.countP_eq _).symm, fun r hr => ?_⟩
  · refine (sortSlice.pairwise_less hstrict hnd).imp_of_mem fun ha hb hab => ?_
    obtain ⟨x, hx⟩ := hparse' _ (hp.subset ha)
    obtain ⟨y, hy⟩ := hparse' _ (hp.subset hb)
    exact ⟨x, y, hx, hy, by simpa [meshIPLess_of_parse hx hy] using hab⟩
  · obtain ⟨e, -, rfl⟩ := List.mem_map.1 (hp.subset hr)
    simp [timeSub_lt_onlineThreshold]

/-- Two peers, listed with 10.99.0.10 first, meet the hypotheses. -/
theorem handleAdminOverview_sorted_two_peers :
    let parseIP : String → Option (List UInt8) := fun ip =>
      if ip = "10.99.0.9" then some [10, 99, 0, 9] else if ip = "10.99.0.10" then some [10, 99, 0, 10] else none
    let record : String → String → PeerRecord := fun name ip =>
      ⟨⟨name, ip, [], [], 2222, 51820, 0, true, false, ""⟩, 0, 0, none, none, none⟩
    let s : Server := ⟨⟨[("b", record "b" "10.99.0.10"), ("a", record "a" "10.99.0.9")], by decide⟩,
      0, 0, "", "10.99.0.0/16", "tunnelmesh", none⟩
    (∀ e ∈ s.peers.entries, ∃ ip, parseIP e.2.peer.meshIP = some ip) ∧
    (s.peers.entries.map fun e => (parseIP e.2.peer.meshIP).map to16).Nodup ∧
    ∃ ov, IsSortedOverview parseIP s 0 ov ∧
      ∀ order : IterationOrder s.peers, handleAdminOverview mergeSortSlice parseIP s "GET" order 0 = .ok ov := by
  intro parseIP record s
  have hparse : ∀ e ∈ s.peers.entries, ∃ ip, parseIP e.2.peer.meshIP = some ip := by
    simp [s, record, parseIP]
  have hdistinct : (s.peers.entries.map fun e => (parseIP e.2.peer.meshIP).map to16).Nodup := by
    decide
  exact ⟨hparse, hdistinct, handleAdminOverview_sorted mergeSortSlice parseIP s 0 hparse hdistinct⟩

end TunnelMesh.Coord
