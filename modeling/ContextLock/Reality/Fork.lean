/-
  Subject:   A fork, as its provider describes it.
-/
import ContextLock.Reality.Shadow

namespace ContextLock.Reality

open Network

/-! ## 1. Descriptors -/

inductive ForkState where
  | CREATING
  | VERIFYING_ANCHOR
  | READY
  | ANCHOR_MISMATCH
  | FAILED
  | DESTROYED
  deriving DecidableEq

/-- `ForkDescriptor`; the fork's own chain id is always 31337. -/
structure ForkDescriptor where
  forkId : String
  /-- The chain the fork copies. -/
  sourceChainId : Int
  forkBlock : String
  forkBlockHash : String
  sourceProviderId : String
  anvilVersion : String
  endpoint : String
  createdAtMs : Int
  expiresAtMs : Int
  state : ForkState

def forkNetworkRef (fork : ForkDescriptor) : NetworkRef :=
  ⟨31337, .LOCAL_FORK, some fork.sourceChainId, some fork.forkBlock⟩

end ContextLock.Reality
