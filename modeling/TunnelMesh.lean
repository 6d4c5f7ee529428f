import TunnelMesh.Go.Basic
import TunnelMesh.Go.World
import TunnelMesh.Benchmark.Messages
import TunnelMesh.Benchmark.Framing
import TunnelMesh.Benchmark.Config
import TunnelMesh.Chaos.TokenBucket
import TunnelMesh.Chaos.Stats
import TunnelMesh.Chaos.Writer
import TunnelMesh.Chaos.Channel
import TunnelMesh.Chaos.Bandwidth
import TunnelMesh.Benchmark.Client
import TunnelMesh.Benchmark.Download
import TunnelMesh.Benchmark.Upload
import TunnelMesh.Benchmark.Safety
import TunnelMesh.Benchmark.Wire
import TunnelMesh.Benchmark.Latency
import TunnelMesh.Benchmark.Report
import TunnelMesh.Benchmarker.Shuffle
import TunnelMesh.Benchmarker.Round
import TunnelMesh.Config.Load
import TunnelMesh.SD.Generator
import TunnelMesh.Coord.Auth
import TunnelMesh.Peer.Route
import TunnelMesh.Coord.Admin
import TunnelMesh.Peer.Cli
