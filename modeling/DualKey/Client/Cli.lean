import DualKey.Client.Submit

/-!
# The command line

`Command` lists the subcommands that build transactions, with their flags as they are parsed (a
policy is given by its name, see `AuthorizationPolicy.fromName`), and `Command.run` is the
dispatch.
-/

namespace DualKey

open Hex (Codec)
open Session

/-- A subcommand with its flags. -/
inductive Command where
  | init (params : InitParams)
  | transfer (params : TransferParams)
  | changePolicy (params : LifecycleParams) (policy : AuthorizationPolicy) (threshold : UInt64)
  | rotateEd25519 (params : LifecycleParams) (newOwner : String)
  | recoverEnable (params : LifecycleParams)
  | recoverDisable (params : LifecycleParams)
  | recoverRotateEd25519 (params : LifecycleParams) (newOwner : String)
  | transferSpl (params : TransferSplParams)
  | rotateFalcon (params : LifecycleParams) (newFalconKeys : PathBuf)
  | socialSetConfig (params : LifecycleParams) (guardian : String) (delaySlots : UInt64)
  | socialInitiate (params : InitiateParams)
  | socialFinalize (params : FinalizeParams)
  | socialCancel (params : LifecycleParams)

namespace Command

variable {Coins : Type} (P : Platform) (crypto : Crypto Coins) (hex : Codec) (sdk : Sdk)

def run : Command → Session Coins Built
  | init params => DualKey.init P crypto hex sdk params
  | transfer params => DualKey.transfer crypto hex sdk params
  | changePolicy params policy threshold =>
    DualKey.changePolicy crypto hex sdk params policy threshold
  | rotateEd25519 params newOwner => DualKey.rotateEd25519 P crypto hex sdk params newOwner
  | recoverEnable params => DualKey.recoverEnable crypto hex sdk params
  | recoverDisable params => DualKey.recoverDisable crypto hex sdk params
  | recoverRotateEd25519 params newOwner =>
    DualKey.recoverRotateEd25519 P crypto hex sdk params newOwner
  | transferSpl params => DualKey.transferSpl crypto hex sdk params
  | rotateFalcon params newFalconKeys => DualKey.rotateFalcon crypto hex sdk params newFalconKeys
  | socialSetConfig params guardian delaySlots =>
    DualKey.socialSetConfig P crypto hex sdk params guardian delaySlots
  | socialInitiate params => DualKey.socialInitiate P crypto hex sdk params
  | socialFinalize params => DualKey.socialFinalize P crypto hex sdk params
  | socialCancel params => DualKey.socialCancel P crypto hex sdk params

/-- The broadcast flags of a command. -/
def broadcast : Command → BroadcastOpts
  | init params => params.broadcast
  | transfer params => params.broadcast
  | changePolicy params _ _ => params.broadcast
  | rotateEd25519 params _ => params.broadcast
  | recoverEnable params => params.broadcast
  | recoverDisable params => params.broadcast
  | recoverRotateEd25519 params _ => params.broadcast
  | transferSpl params => params.broadcast
  | rotateFalcon params _ => params.broadcast
  | socialSetConfig params _ _ => params.broadcast
  | socialInitiate params => params.broadcast
  | socialFinalize params => params.broadcast
  | socialCancel params => params.broadcast

/-- Where the command writes its artifact. -/
def out : Command → Option PathBuf
  | init params => params.out
  | transfer params => params.out
  | changePolicy params _ _ => params.out
  | rotateEd25519 params _ => params.out
  | recoverEnable params => params.out
  | recoverDisable params => params.out
  | recoverRotateEd25519 params _ => params.out
  | transferSpl params => params.out
  | rotateFalcon params _ => params.out
  | socialSetConfig params _ _ => params.out
  | socialInitiate params => params.out
  | socialFinalize params => params.out
  | socialCancel params => params.out

end Command

end DualKey
