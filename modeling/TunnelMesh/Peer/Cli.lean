-- SUMMARY: The peer daemon's command line (cmd/tunnelmesh): loadConfig's search for a config file, the flag overrides and checks of runJoin, the record map of syncDNS and the lookup of runResolve; the CLI's resolve and the mesh resolver agree on a name exactly when its first and last records agree.
import Mathlib.Logic.Function.Basic
import TunnelMesh.Config.Load

/-!
# The peer daemon's command line

`cmd/tunnelmesh`. `loadConfig` reads the file of `--config`, or else the first
of three default paths that exists, or else falls back to a built-in config.
`runJoin` overrides the loaded config with its flags and needs a server, a
token and a name. `syncDNS` turns the server's DNS records into the map it
hands to the mesh resolver, and `tunnelmesh resolve` looks a name up in the
same records.

The collaborators are explicit: `os.Stat`, `filepath.Join`, the collaborators
of `LoadPeerConfig`, and the answer of `client.GetDNSRecords()`.

The two DNS consumers read the records differently. The loop of `syncDNS`
writes each record into a Go map, so a later record of a name overwrites an
earlier one (`recordMap_eq`); the loop of `runResolve` returns at the first
record of the name (`findRecord_eq`). `runResolve_agrees_syncDNS_iff` says
exactly when they give the same answer: when the first and the last record of
the name carry the same mesh IP, in particular when names are unique.
-/

namespace TunnelMesh.Cli

open TunnelMesh.Benchmark (ascii)
open TunnelMesh.Config

/-! ## Loading the config -/

/-- The config `loadConfig` falls back to when no file is found. -/
def fallbackConfig (homeDir : Bytes) (join : List Bytes → Bytes) : PeerConfig where
  name := []
  server := []
  authToken := []
  sshPort := 2222
  privateKey := join [homeDir, ascii ".tunnelmesh", ascii "id_ed25519"]
  tun := ⟨ascii "tun-mesh0", 1400⟩
  dns := ⟨true, ascii "127.0.0.53:5353", 300⟩

/-- `loadConfig()`. `cfgFile` is the `--config` flag, `stat` says whether `os.Stat`
finds a path, `join` is `filepath.Join`; `readFile`, `unmarshal` and `home` are the
collaborators of `LoadPeerConfig`. An error of `os.UserHomeDir` is dropped and leaves
the home directory empty. -/
def loadConfig (cfgFile : Bytes) (stat : Bytes → Bool) (readFile : Bytes → Except Bytes Bytes)
    (unmarshal : Bytes → Except Bytes PeerConfig) (home : Except Bytes Bytes)
    (join : List Bytes → Bytes) : Except Bytes PeerConfig :=
  let load := loadPeerConfig readFile unmarshal home fun a b => join [a, b]
  if cfgFile ≠ [] then load cfgFile
  else
    let homeDir := match home with
      | .ok h => h
      | .error _ => []
    match [join [homeDir, ascii ".tunnelmesh", ascii "config.yaml"], ascii "tunnelmesh.yaml",
        ascii "peer.yaml"].find? stat with
    | some path => load path
    | none => .ok (fallbackConfig homeDir join)

/-- The empty config file: every field at its zero value. -/
def PeerConfig.zero : PeerConfig := ⟨[], [], [], 0, [], ⟨[], 0⟩, ⟨false, [], 0⟩⟩

/-- The built-in config is what `LoadPeerConfig` makes of an empty file, with the key
under `~/.tunnelmesh`: the two sets of defaults agree. -/
theorem fallbackConfig_eq (homeDir : Bytes) (join : List Bytes → Bytes) :
    fallbackConfig homeDir join =
      { PeerConfig.zero.applyDefaults with
        privateKey := join [homeDir, ascii ".tunnelmesh", ascii "id_ed25519"] } := by
  rfl

/-- The config stage of `runJoin(cmd, args)`: the flags `--server`, `--token` and
`--name` override the loaded config, and the three must then be set. -/
def joinConfig (serverURL authToken nodeName : Bytes) (loaded : Except Bytes PeerConfig) :
    Except Bytes PeerConfig :=
  match loaded with
  | .error e => .error e
  | .ok cfg =>
    let cfg := { cfg with
      server := if serverURL ≠ [] then serverURL else cfg.server
      authToken := if authToken ≠ [] then authToken else cfg.authToken
      name := if nodeName ≠ [] then nodeName else cfg.name }
    if cfg.server = [] ∨ cfg.authToken = [] ∨ cfg.name = [] then
      .error (ascii "server, token, and name are required")
    else .ok cfg

/-! ## DNS records -/

/-- An entry of `client.GetDNSRecords()`, with the fields the daemon reads. -/
structure DNSRecord where
  hostname : Bytes
  meshIP : Bytes
  deriving DecidableEq

/-- One pass of the loop of `syncDNS`: `recordMap[r.Hostname] = r.MeshIP`. -/
def writeRecord (m : Bytes → Option Bytes) (r : DNSRecord) : Bytes → Option Bytes :=
  Function.update m r.hostname (some r.meshIP)

/-- The loop of `syncDNS` that fills `recordMap`, from the empty map. -/
def recordMap (records : List DNSRecord) : Bytes → Option Bytes :=
  records.foldl writeRecord fun _ => none

/-- `syncDNS(client, resolver)`: the map it hands to `resolver.UpdateRecords`, or the
error of `GetDNSRecords`. -/
def syncDNS (getDNSRecords : Except Bytes (List DNSRecord)) : Except Bytes (Bytes → Option Bytes) :=
  match getDNSRecords with
  | .error e => .error e
  | .ok records => .ok (recordMap records)

/-- The loop of `runResolve`: the mesh IP of the first record of `hostname`. -/
def findRecord (hostname : Bytes) : List DNSRecord → Option Bytes
  | [] => none
  | r :: records => if r.hostname = hostname then some r.meshIP else findRecord hostname records

/-- The line `runResolve` prints for a hostname and its IP. -/
def resolveLine (hostname ip : Bytes) : Bytes := hostname ++ ascii " -> " ++ ip ++ ascii "\n"

/-- `runResolve(cmd, args)` with `args[0] = hostname`: the line it prints, or its error. -/
def runResolve (getDNSRecords : Except Bytes (List DNSRecord)) (hostname : Bytes) : Except Bytes Bytes :=
  match getDNSRecords with
  | .error e => .error (ascii "get DNS records: " ++ e)
  | .ok records =>
    match findRecord hostname records with
    | some ip => .ok (resolveLine hostname ip)
    | none => .error (ascii "hostname not found: " ++ hostname)

/-- The records of a name, in the server's order. -/
def recordsOf (hostname : Bytes) (records : List DNSRecord) : List DNSRecord :=
  records.filter fun r => r.hostname = hostname

/-- `runResolve` answers with the first record of the name. -/
theorem findRecord_eq (hostname : Bytes) (records : List DNSRecord) :
    findRecord hostname records = ((recordsOf hostname records).head?).map (·.meshIP) := by
  induction records with
  | nil => rfl
  | cons r records ih =>
    unfold findRecord recordsOf
    by_cases h : r.hostname = hostname
    · simp [h]
    · simp [h, ih, recordsOf]

/-- Writing the records one after the other into a map: a name takes the IP of its last
record, and keeps its old value when no record of it comes. -/
theorem foldl_writeRecord_apply (hostname : Bytes) (m : Bytes → Option Bytes) (records : List DNSRecord) :
    records.foldl writeRecord m hostname =
      (((recordsOf hostname records).getLast?).map (·.meshIP)).or (m hostname) := by
  induction records using List.reverseRecOn with
  | nil => rfl
  | append_singleton records r ih =>
    rw [List.foldl_append, List.foldl_cons, List.foldl_nil, writeRecord, recordsOf, List.filter_append]
    by_cases h : r.hostname = hostname
    · subst h
      simp
    · rw [Function.update_noteq (Ne.symm h), ih]
      simp [h, recordsOf]

/-- The resolver's map holds, for each name, the IP of its last record. -/
theorem recordMap_eq (records : List DNSRecord) (hostname : Bytes) :
    recordMap records hostname = ((recordsOf hostname records).getLast?).map (·.meshIP) := by
  rw [recordMap, foldl_writeRecord_apply, Option.or_none]

theorem resolveLine_inj {hostname ip ip' : Bytes} (h : resolveLine hostname ip = resolveLine hostname ip') :
    ip = ip' :=
  List.append_cancel_left (List.append_cancel_right h)

/-- `runResolve` prints the line of an IP exactly when that IP is the first record's. -/
theorem runResolve_eq_ok_iff (records : List DNSRecord) (hostname ip : Bytes) :
    runResolve (.ok records) hostname = .ok (resolveLine hostname ip) ↔
      findRecord hostname records = some ip := by
  unfold runResolve
  dsimp only
  cases findRecord hostname records with
  | none => simp
  | some ip' => exact ⟨fun h => by rw [resolveLine_inj (Except.ok.inj h)], fun h => by cases h; rfl⟩

/-- Given the same records, `tunnelmesh resolve` prints, for a name, the IP that the
mesh resolver holds for it, for every IP, exactly when the name's first and last
records carry the same IP (both absent included): the CLI reads the first record,
while the map `syncDNS` builds keeps the last. -/
theorem runResolve_agrees_syncDNS_iff (records : List DNSRecord) (hostname : Bytes) :
    (∀ ip, runResolve (.ok records) hostname = .ok (resolveLine hostname ip) ↔
        ∃ m, syncDNS (.ok records) = .ok m ∧ m hostname = some ip) ↔
      ((recordsOf hostname records).head?).map (·.meshIP) =
        ((recordsOf hostname records).getLast?).map (·.meshIP) := by
  have hsync : ∀ ip, (∃ m, syncDNS (.ok records) = .ok m ∧ m hostname = some ip) ↔
      recordMap records hostname = some ip := fun ip =>
    ⟨fun ⟨_, hm, h⟩ => by cases hm; exact h, fun h => ⟨_, rfl, h⟩⟩
  simp only [runResolve_eq_ok_iff, hsync, ← findRecord_eq, ← recordMap_eq]
  exact ⟨Option.ext, fun h _ => by rw [h]⟩

/-- With unique names, the two always agree. -/
theorem runResolve_agrees_syncDNS_of_nodup {records : List DNSRecord}
    (h : (records.map (·.hostname)).Nodup) (hostname : Bytes) :
    findRecord hostname records = recordMap records hostname := by
  -- the names of the records of `hostname` are all `hostname`, and distinct
  have hle : (recordsOf hostname records).length ≤ 1 := by
    have hrep : (recordsOf hostname records).map (·.hostname) =
        List.replicate (recordsOf hostname records).length hostname := by
      rw [List.eq_replicate_iff, List.length_map]
      refine ⟨rfl, ?_⟩
      simp only [List.mem_map, recordsOf, List.mem_filter, decide_eq_true_eq]
      rintro _ ⟨x, ⟨-, hx⟩, rfl⟩
      exact hx
    have hnd : ((recordsOf hostname records).map (·.hostname)).Nodup :=
      ((List.filter_sublist records).map _).nodup h
    rw [hrep] at hnd
    exact List.nodup_replicate.1 hnd
  rw [findRecord_eq, recordMap_eq]
  match recordsOf hostname records, hle with
  | [], _ => rfl
  | [_], _ => rfl
  | _ :: _ :: _, h => simp at h

end TunnelMesh.Cli
