import AgentSystemsBenchmark.Runtime.Namespace

/-!
# Sandbox launches and the tokens that attest them

A launch request is a validated specification, process limits and an exclusive
CPU lease. Before it is launched the runtime attests it: the token holds a digest
of the request, and the factory accepts a request only with a token of the same
digest. The replay path hashes the debug text of the whole specification; the
live path hashes a list of its own.
-/

namespace AgentSystemsBenchmark.Runtime

open Effects Framing Numerals DebugText

structure ReplayRelayHandoff where
  socketPath : OsPath
  childEndpoint : OsPath
  generation : String
  deriving DecidableEq

structure SandboxLaunchInput where
  spec : SandboxSpec
  limits : ProcessLimits
  replayHandoff : Option ReplayRelayHandoff
  liveProvider : Option (LiveProviderNamespaceHandoff × NamespaceIdentity)
  deriving DecidableEq

inductive LeaseClass where
  | benchmark | ci
  deriving DecidableEq

/-- A reservation of CPUs below a lease root, one exclusive file for each. -/
structure ResourceLease where
  root : OsPath
  leaseClass : LeaseClass
  cpus : List Nat
  deriving DecidableEq

def ResourceLease.files (lease : ResourceLease) : List OsPath :=
  lease.cpus.map fun cpu => lease.root ++ OsPath.ofText ("/cpu-" ++ cpu.repr ++ ".lease")

/-! ## Debug texts of a launch -/

def cpuSetText (cpus : List Nat) : List Char := "CpuSet(".toList ++ (numbersText cpus ++ [')'])

def LeaseClass.text : LeaseClass → String
  | .benchmark => "Benchmark"
  | .ci => "Ci"

end AgentSystemsBenchmark.Runtime
