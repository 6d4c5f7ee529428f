-- SUMMARY: LoadServerConfig, LoadPeerConfig and the two Validate methods: the defaults of a loaded peer config pass their own checks, and DNS stays enabled unless the file moves its listen address.
import TunnelMesh.Benchmark.Config

/-!
# Loading and checking the configs

`internal/config/config.go`. `LoadServerConfig` and `LoadPeerConfig` read a
YAML file into a zero config, fill the fields left at their zero values with
defaults, and, for a peer, expand `~/` in the private key path; `Validate`
checks the fields in order and returns the first error.

Reading the file, the YAML decoder, `os.UserHomeDir`, `filepath.Join` and
`net.ParseCIDR` are parameters; their errors are the texts the code wraps.

`loadPeerConfig_eq_ok` says that a loaded config is the parsed file with its
defaults and the home expansion. `validate_applyDefaults_iff` says which
parsed files give a config that `Validate` accepts: a name and a server, and a
port and an MTU either unset or in range, since each default passes its own
check. `dns_disabled_applyDefaults_iff` says when the DNS resolver ends up
disabled: only when the file disables it and also moves its listen address
away from the default; `enabled: false` alone does not turn it off.
-/

namespace TunnelMesh.Config

open TunnelMesh.Benchmark (ascii)

/-- `ServerConfig`. -/
structure ServerConfig where
  listen : Bytes
  authToken : Bytes
  meshCIDR : Bytes
  domainSuffix : Bytes
  deriving DecidableEq

/-- `TUNConfig`. -/
structure TUNConfig where
  name : Bytes
  mtu : Int
  deriving DecidableEq

/-- `DNSConfig`. -/
structure DNSConfig where
  enabled : Bool
  listen : Bytes
  cacheTTL : Int
  deriving DecidableEq

/-- `PeerConfig`. -/
structure PeerConfig where
  name : Bytes
  server : Bytes
  authToken : Bytes
  sshPort : Int
  privateKey : Bytes
  tun : TUNConfig
  dns : DNSConfig
  deriving DecidableEq

/-! ## Loading -/

/-- The defaults `LoadServerConfig` applies. -/
def ServerConfig.applyDefaults (cfg : ServerConfig) : ServerConfig :=
  let cfg := if cfg.meshCIDR = [] then { cfg with meshCIDR := ascii "10.99.0.0/16" } else cfg
  if cfg.domainSuffix = [] then { cfg with domainSuffix := ascii ".mesh" } else cfg

/-- `LoadServerConfig(path)`: `readFile` is `os.ReadFile`, `unmarshal` the YAML decoder
into a zero `ServerConfig`. -/
def loadServerConfig (readFile : Bytes → Except Bytes Bytes) (unmarshal : Bytes → Except Bytes ServerConfig)
    (path : Bytes) : Except Bytes ServerConfig := do
  let data ← (readFile path).mapError (ascii "read config file: " ++ ·)
  let cfg ← (unmarshal data).mapError (ascii "parse config file: " ++ ·)
  pure cfg.applyDefaults

/-- The defaults `LoadPeerConfig` applies, each to a field left at its zero value; the
DNS check reads the listen address after its default. -/
def PeerConfig.applyDefaults (cfg : PeerConfig) : PeerConfig :=
  let listen := if cfg.dns.listen = [] then ascii "127.0.0.53:5353" else cfg.dns.listen
  { cfg with
    sshPort := if cfg.sshPort = 0 then 2222 else cfg.sshPort
    tun := { name := if cfg.tun.name = [] then ascii "tun-mesh0" else cfg.tun.name
             mtu := if cfg.tun.mtu = 0 then 1400 else cfg.tun.mtu }
    dns := { enabled := if !cfg.dns.enabled && listen = ascii "127.0.0.53:5353" then true
                        else cfg.dns.enabled
             listen
             cacheTTL := if cfg.dns.cacheTTL = 0 then 300 else cfg.dns.cacheTTL } }

/-- The expansion of `~/` in the private key path: `home` is `os.UserHomeDir()`, `join`
is `filepath.Join`; on an error of `home` the path stays as it is. -/
def PeerConfig.expandHome (home : Except Bytes Bytes) (join : Bytes → Bytes → Bytes)
    (cfg : PeerConfig) : PeerConfig :=
  if (ascii "~/").isPrefixOf cfg.privateKey then
    match home with
    | .ok homeDir => { cfg with privateKey := join homeDir (cfg.privateKey.drop 2) }
    | .error _ => cfg
  else cfg

/-- `LoadPeerConfig(path)`. -/
def loadPeerConfig (readFile : Bytes → Except Bytes Bytes) (unmarshal : Bytes → Except Bytes PeerConfig)
    (home : Except Bytes Bytes) (join : Bytes → Bytes → Bytes) (path : Bytes) :
    Except Bytes PeerConfig := do
  let data ← (readFile path).mapError (ascii "read config file: " ++ ·)
  let cfg ← (unmarshal data).mapError (ascii "parse config file: " ++ ·)
  pure (cfg.applyDefaults.expandHome home join)

/-! ## Checking -/

/-- `c.Validate()` for a server; `cidrError` is the error of `net.ParseCIDR`, if any. -/
def ServerConfig.validate (cidrError : Bytes → Option Bytes) (c : ServerConfig) : Option Bytes :=
  if c.listen = [] then some (ascii "listen address is required")
  else if c.authToken = [] then some (ascii "auth_token is required")
  else if c.meshCIDR ≠ [] then (cidrError c.meshCIDR).map (ascii "invalid mesh_cidr: " ++ ·)
  else none

/-- `c.Validate()` for a peer. -/
def PeerConfig.validate (c : PeerConfig) : Option Bytes :=
  if c.name = [] then some (ascii "name is required")
  else if c.server = [] then some (ascii "server is required")
  else if c.sshPort ≤ 0 ∨ c.sshPort > 65535 then some (ascii "ssh_port must be between 1 and 65535")
  else if c.tun.mtu < 576 ∨ c.tun.mtu > 65535 then some (ascii "tun.mtu must be between 576 and 65535")
  else none

/-! ## What the defaults give -/

section Defaults

variable (cfg : PeerConfig)

@[simp] theorem applyDefaults_name : cfg.applyDefaults.name = cfg.name := rfl

@[simp] theorem applyDefaults_server : cfg.applyDefaults.server = cfg.server := rfl

@[simp] theorem applyDefaults_sshPort :
    cfg.applyDefaults.sshPort = if cfg.sshPort = 0 then 2222 else cfg.sshPort := rfl

@[simp] theorem applyDefaults_mtu :
    cfg.applyDefaults.tun.mtu = if cfg.tun.mtu = 0 then 1400 else cfg.tun.mtu := rfl

@[simp] theorem applyDefaults_dns_listen :
    cfg.applyDefaults.dns.listen =
      if cfg.dns.listen = [] then ascii "127.0.0.53:5353" else cfg.dns.listen := rfl

end Defaults

/-- The home expansion changes the private key path and nothing else. -/
theorem expandHome_eq (home : Except Bytes Bytes) (join : Bytes → Bytes → Bytes) (cfg : PeerConfig) :
    ∃ key, cfg.expandHome home join = { cfg with privateKey := key } := by
  unfold PeerConfig.expandHome
  split
  · split
    · exact ⟨_, rfl⟩
    · exact ⟨cfg.privateKey, rfl⟩
  · exact ⟨cfg.privateKey, rfl⟩

/-- What `LoadPeerConfig` returns: the parsed file with its defaults and the home
expansion. -/
theorem loadPeerConfig_eq_ok {readFile : Bytes → Except Bytes Bytes}
    {unmarshal : Bytes → Except Bytes PeerConfig} {home : Except Bytes Bytes}
    {join : Bytes → Bytes → Bytes} {path : Bytes} {cfg : PeerConfig}
    (h : loadPeerConfig readFile unmarshal home join path = .ok cfg) :
    ∃ data parsed, readFile path = .ok data ∧ unmarshal data = .ok parsed ∧
      cfg = parsed.applyDefaults.expandHome home join := by
  unfold loadPeerConfig at h
  rcases hr : readFile path with e | data
  · simp [hr, Except.mapError, bind, Except.bind] at h
  rcases hu : unmarshal data with e | parsed
  · simp [hr, hu, Except.mapError, bind, Except.bind] at h
  · simp only [hr, hu, Except.mapError, bind, Except.bind, pure, Except.pure, Except.ok.injEq] at h
    exact ⟨data, parsed, rfl, hu, h.symm⟩

/-- `Validate` accepts a name, a server, a port in `1..65535` and an MTU in `576..65535`. -/
theorem validate_eq_none_iff (c : PeerConfig) :
    c.validate = none ↔ c.name ≠ [] ∧ c.server ≠ [] ∧ (0 < c.sshPort ∧ c.sshPort ≤ 65535) ∧
      (576 ≤ c.tun.mtu ∧ c.tun.mtu ≤ 65535) := by
  unfold PeerConfig.validate
  split_ifs with h₁ h₂ h₃ h₄
  · simp [h₁]
  · simp [h₂]
  · simp only [reduceCtorEq, false_iff]
    rintro ⟨-, -, ⟨_, _⟩, -⟩
    omega
  · simp only [reduceCtorEq, false_iff]
    rintro ⟨-, -, -, ⟨_, _⟩⟩
    omega
  · exact iff_of_true rfl ⟨h₁, h₂, by omega, by omega⟩

/-- The config `LoadPeerConfig` returns for a parsed file (`loadPeerConfig_eq_ok`) passes
`Validate` exactly when the file names the peer and the server, and leaves the SSH port
and the MTU unset or sets them in range: the defaults 2222 and 1400 pass their own
checks. -/
theorem validate_applyDefaults_iff (home : Except Bytes Bytes) (join : Bytes → Bytes → Bytes)
    (parsed : PeerConfig) :
    (parsed.applyDefaults.expandHome home join).validate = none ↔
      parsed.name ≠ [] ∧ parsed.server ≠ [] ∧
        (parsed.sshPort = 0 ∨ 0 < parsed.sshPort ∧ parsed.sshPort ≤ 65535) ∧
        (parsed.tun.mtu = 0 ∨ 576 ≤ parsed.tun.mtu ∧ parsed.tun.mtu ≤ 65535) := by
  obtain ⟨key, hkey⟩ := expandHome_eq home join parsed.applyDefaults
  have hport : (0 < parsed.applyDefaults.sshPort ∧ parsed.applyDefaults.sshPort ≤ 65535) ↔
      (parsed.sshPort = 0 ∨ 0 < parsed.sshPort ∧ parsed.sshPort ≤ 65535) := by
    rw [applyDefaults_sshPort]; split_ifs <;> omega
  have hmtu : (576 ≤ parsed.applyDefaults.tun.mtu ∧ parsed.applyDefaults.tun.mtu ≤ 65535) ↔
      (parsed.tun.mtu = 0 ∨ 576 ≤ parsed.tun.mtu ∧ parsed.tun.mtu ≤ 65535) := by
    rw [applyDefaults_mtu]; split_ifs <;> omega
  rw [hkey, validate_eq_none_iff, ← hport, ← hmtu]
  rfl

/-- The config `LoadPeerConfig` returns for a parsed file has DNS disabled exactly when
the file disables it and sets a listen address other than the default: `enabled: false`
with the default address, given or left out, still gives an enabled resolver. -/
theorem dns_disabled_applyDefaults_iff (home : Except Bytes Bytes) (join : Bytes → Bytes → Bytes)
    (parsed : PeerConfig) :
    (parsed.applyDefaults.expandHome home join).dns.enabled = false ↔
      parsed.dns.enabled = false ∧ parsed.dns.listen ≠ [] ∧
        parsed.dns.listen ≠ ascii "127.0.0.53:5353" := by
  obtain ⟨key, hkey⟩ := expandHome_eq home join parsed.applyDefaults
  rw [hkey]
  simp only [PeerConfig.applyDefaults]
  by_cases hl : parsed.dns.listen = [] <;> cases parsed.dns.enabled <;> simp [hl]

end TunnelMesh.Config
