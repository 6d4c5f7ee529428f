-- SUMMARY: The SD generator: generateTargets over a file system whose writes and renames may fail, and main's polling loop; the targets are the online peers with a mesh IP, and the output file only ever holds a whole document written from some poll.
import Mathlib.Logic.Function.Basic
import TunnelMesh.Benchmark.Config
import TunnelMesh.Go.World

/-!
# The Prometheus service discovery generator

The SD generator polls the coordination server for its peers and writes a
`file_sd` targets file for Prometheus. `generateTargets` asks for
`/api/v1/peers`, keeps the peers that are online and have a mesh IP, one
target `meshIP:port` labelled with the peer's name each, marshals the list,
writes it to `outputFile + ".tmp"` and renames that file over the output file.
`main` calls it at start and at every tick, printing each error and going on.

The collaborators are explicit. The URL check of `http.NewRequest`, the JSON
decoder of the answer and the JSON encoder of the targets are parameters;
`Poll` holds what one call meets: the server's answer, and the outcome of
`os.WriteFile` and of `os.Rename`. A failed write may leave anything at its
path; a rename moves the file at once or fails and changes nothing. The files
are a map from paths to contents.

`peerTargets_eq` says which peers become targets. `mainLoop_output` says what
a reader of the output file can find after any number of polls, whatever
fails: what the file held at the start, or the whole document of the targets
of a peer list that the server sent in one of the polls. The temporary file is
never the output file (`tmpFile_ne`), so a failed write never reaches it.
-/

namespace TunnelMesh.SD

open TunnelMesh.Benchmark (ascii)

/-- `Peer` of the server's answer. -/
structure Peer where
  name : Bytes
  meshIP : Bytes
  online : Bool
  deriving DecidableEq

/-- `Target`: the addresses to scrape and the labels, the map with the one key `peer`. -/
structure Target where
  targets : List Bytes
  labels : List (Bytes × Bytes)
  deriving DecidableEq

/-- The settings `main` reads from the environment and passes to `generateTargets`. -/
structure Setup where
  coordURL : Bytes
  authToken : Bytes
  outputFile : Bytes
  metricsPort : Bytes

/-- `getEnv(key, defaultValue)`; `env` is `os.Getenv`, empty for an unset key. -/
def getEnv (env : Bytes → Bytes) (key defaultValue : Bytes) : Bytes :=
  if env key ≠ [] then env key else defaultValue

/-- The settings of `main`. -/
def setupFromEnv (env : Bytes → Bytes) : Setup where
  coordURL := getEnv env (ascii "COORD_SERVER_URL") (ascii "https://localhost:443")
  authToken := getEnv env (ascii "AUTH_TOKEN") []
  outputFile := getEnv env (ascii "OUTPUT_FILE") (ascii "/targets/peers.json")
  metricsPort := getEnv env (ascii "METRICS_PORT") (ascii "9443")

/-! ## The targets -/

/-- The target of one peer. -/
def Peer.target (metricsPort : Bytes) (peer : Peer) : Target :=
  ⟨[peer.meshIP ++ ascii ":" ++ metricsPort], [(ascii "peer", peer.name)]⟩

/-- The loop of `generateTargets` over the peers: offline peers and peers without a mesh
IP are skipped. -/
def peerTargets (metricsPort : Bytes) : List Peer → List Target
  | [] => []
  | peer :: peers =>
    if !peer.online || peer.meshIP = [] then peerTargets metricsPort peers
    else peer.target metricsPort :: peerTargets metricsPort peers

/-- The targets are the online peers with a mesh IP, in the server's order. -/
theorem peerTargets_eq (metricsPort : Bytes) (peers : List Peer) :
    peerTargets metricsPort peers =
      (peers.filter fun p => p.online && p.meshIP ≠ []).map (Peer.target metricsPort) := by
  induction peers with
  | nil => rfl
  | cons peer peers ih =>
    unfold peerTargets
    by_cases h : peer.online = true ∧ peer.meshIP ≠ [] <;>
      simp_all [List.filter_cons, Bool.not_eq_true']

/-! ## The files -/

/-- The file system: the contents at each path. -/
abbrev Files := Bytes → Option Bytes

/-- The generator over the file system: errors are Go's returned errors, and the files
keep what was done before one. -/
abbrev FileM := EStateM Bytes Files

/-- What one call of `generateTargets` meets: the server's answer, and the outcomes of
the write and of the rename. -/
structure Poll where
  client : Request → Except Bytes Response
  /-- `none` when `os.WriteFile` succeeds; else its error, and what the failed write
  left at the path. -/
  writeFails : Option (Bytes × Option Bytes)
  /-- The error of `os.Rename`, if any. -/
  renameFails : Option Bytes

/-- `os.WriteFile(path, data, 0644)`: its error, if any. -/
def writeFile (poll : Poll) (path data : Bytes) : FileM (Option Bytes) := fun files =>
  match poll.writeFails with
  | none => .ok none (Function.update files path (some data))
  | some (e, left) => .ok (some e) (Function.update files path left)

/-- `os.Rename(src, dst)`: its error, if any; the file at `src` moves to `dst` at once. -/
def rename (poll : Poll) (src dst : Bytes) : FileM (Option Bytes) := fun files =>
  match poll.renameFails with
  | none => .ok none (Function.update (Function.update files dst (files src)) src none)
  | some e => .ok (some e) files

/-- The temporary file of `generateTargets`. -/
def tmpFile (setup : Setup) : Bytes := setup.outputFile ++ ascii ".tmp"

theorem tmpFile_ne (setup : Setup) : tmpFile setup ≠ setup.outputFile := fun h => by
  simpa [tmpFile, ascii] using congrArg List.length h

/-! ## One poll and the loop -/

section Generator

variable (requestError : Bytes → Option Bytes) (decodePeers : Bytes → Except Bytes (List Peer))
  (marshal : List Target → Bytes) (setup : Setup)

/-- The request of `generateTargets`: a bearer token only when one is set. -/
def peersRequest : Request :=
  ⟨ascii "GET", setup.coordURL ++ ascii "/api/v1/peers",
    if setup.authToken ≠ [] then some (ascii "Bearer " ++ setup.authToken) else none⟩

/-- `generateTargets(client, coordURL, authToken, outputFile, metricsPort)`;
`requestError` is the error of `http.NewRequest` for a URL, if any. -/
def generateTargets (poll : Poll) : FileM Unit :=
  match requestError (peersRequest setup).url with
  | some e => throw (ascii "create request: " ++ e)
  | none =>
  match poll.client (peersRequest setup) with
  | .error e => throw (ascii "fetch peers: " ++ e)
  | .ok resp =>
  if resp.statusCode ≠ 200 then
    throw (ascii "API error " ++ ascii (toString resp.statusCode) ++ ascii ": " ++ resp.body)
  else match decodePeers resp.body with
  | .error e => throw (ascii "decode response: " ++ e)
  | .ok peers => do
    match ← writeFile poll (tmpFile setup) (marshal (peerTargets setup.metricsPort peers)) with
    | some e => throw (ascii "write temp file: " ++ e)
    | none =>
      match ← rename poll (tmpFile setup) setup.outputFile with
      | some e => throw (ascii "rename temp file: " ++ e)
      | none => pure ()

/-- `main` once it has its settings: a call at start and one at every tick; an error is
printed, and the files stay as the call left them. -/
def mainLoop : List Poll → Files → Files
  | [], files => files
  | poll :: polls, files =>
    mainLoop polls (stateAfter (generateTargets requestError decodePeers marshal setup poll files))

/-- The output file holds the document of the targets of a peer list that the server
sent in `poll`. -/
def WrittenBy (poll : Poll) (contents : Option Bytes) : Prop :=
  ∃ resp peers, poll.client (peersRequest setup) = .ok resp ∧ resp.statusCode = 200 ∧
    decodePeers resp.body = .ok peers ∧ contents = some (marshal (peerTargets setup.metricsPort peers))

/-- One poll leaves the output file as it was, or writes it whole from this poll's
answer: the write goes to the temporary file, and the rename moves it. -/
theorem generateTargets_output (poll : Poll) (files : Files) :
    let files' := stateAfter (generateTargets requestError decodePeers marshal setup poll files)
    files' setup.outputFile = files setup.outputFile ∨
      WrittenBy decodePeers marshal setup poll (files' setup.outputFile) := by
  intro files'
  have hne := tmpFile_ne setup
  simp only [files', generateTargets]
  rcases requestError (peersRequest setup).url with _ | e
  swap
  · exact .inl rfl
  rcases hc : poll.client (peersRequest setup) with e | resp
  · exact .inl rfl
  dsimp only
  split
  · exact .inl rfl
  next hs =>
  rcases hd : decodePeers resp.body with e | peers
  · exact .inl rfl
  dsimp only
  unfold writeFile rename
  rcases poll.writeFails with _ | ⟨e, left⟩
  swap
  · -- the failed write touches the temporary file only
    exact .inl (Function.update_noteq hne.symm _ _)
  rcases poll.renameFails with _ | e
  swap
  · exact .inl (Function.update_noteq hne.symm _ _)
  · -- the rename moves the whole document
    refine .inr ⟨resp, peers, hc, not_not.1 hs, hd, ?_⟩
    let written := Function.update files (tmpFile setup) (some (marshal (peerTargets setup.metricsPort peers)))
    show Function.update (Function.update written setup.outputFile (written (tmpFile setup)))
      (tmpFile setup) none setup.outputFile = _
    rw [Function.update_noteq hne.symm, Function.update_same]
    exact Function.update_same _ _ _

/-- Whatever the server answers and whatever writes and renames fail, the output file
only ever holds what it held at the start, or the whole document of the targets of a
peer list that the server sent in one of the polls. -/
theorem mainLoop_output : ∀ (polls : List Poll) (files : Files),
    mainLoop requestError decodePeers marshal setup polls files setup.outputFile =
        files setup.outputFile ∨
      ∃ poll ∈ polls, WrittenBy decodePeers marshal setup poll
        (mainLoop requestError decodePeers marshal setup polls files setup.outputFile)
  | [], _ => .inl rfl
  | poll :: polls, files => by
    rcases mainLoop_output polls
        (stateAfter (generateTargets requestError decodePeers marshal setup poll files)) with h | h
    · rcases generateTargets_output requestError decodePeers marshal setup poll files with h₁ | h₁
      · exact .inl (h.trans h₁)
      · exact .inr ⟨poll, .head _, by rw [mainLoop, h]; exact h₁⟩
    · obtain ⟨p, hp, hw⟩ := h
      exact .inr ⟨p, .tail _ hp, hw⟩

end Generator

end TunnelMesh.SD
