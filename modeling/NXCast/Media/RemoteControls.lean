import NXCast.Framework.Trace
import NXCast.Media.PendingRates

/-!
# The controls of a session

The module lets a pause, a play, a seek or a stop through in a locked section and makes the callback
after it, without the mutex, and `integration.c` gives the callback the lease that it finds by then.
So what happens in between decides whose media it reaches.

`RemotePlayer` reads off the callbacks which lease there is and which media have been loaded.  A call
whose section has let a control through is committed to it.  In a run in which a call commits itself
only to a control the player permits, and nobody loads media against a control that a call is
committed to, every control reaches the media of its own session.
-/

namespace NXCast

open Interleaving List

/-! ## The player -/

/-- The media of a load: for which session, and by which generation. -/
structure LoadedMedia where
  session : UInt64
  generation : UInt32
deriving DecidableEq

/-- The session of `remote_lease`, and what the player has loaded. -/
structure RemotePlayer where
  lease : Option UInt64
  media : Option LoadedMedia
deriving DecidableEq

open RemotePlayer

/-- The play of `/play` or `/action`.  It follows a load that was accepted, in the same section. -/
def RemoteVideoEvent.starts (event : RemoteVideoEvent) : Bool :=
  event.handler = .play || event.handler = .action

namespace RemotePlayer

/-- The player after a callback of `integration.c`. -/
def after (player : RemotePlayer) (event : RemoteVideoEvent) : RemotePlayer :=
  match event.op with
  | .claimOwner true => { player with lease := some event.session }
  | .releaseOwner _ =>
    if player.lease = some event.session then { player with lease := none } else player
  | .play =>
    if event.starts then
      { player with media := some ⟨event.session, event.generation.getD 0⟩ }
    else player
  -- without a lease `integration_remote_stop` leaves the player alone
  | .stop => if player.lease = none then player else { player with media := none }
  | _ => player

/-- The player after all callbacks. -/
def ofTrace (trace : List RemoteVideoEvent) : RemotePlayer := trace.foldl after ⟨none, none⟩

/-- What the control would reach are media of its own session, and a stop does not reach media loaded
by a generation after the one that ends.  Generations wrap around, so their distance decides which of
them is the later one. -/
def Permits (player : RemotePlayer) (event : RemoteVideoEvent) : Prop :=
  player.lease = none ∨ ∀ loaded, player.media = some loaded → loaded.session = event.session ∧
    (event.op = .stop → event.generation.getD 0 - loaded.generation < 0x80000000)

end RemotePlayer

section Sections

variable {ν : Type}

/-- The control reaches its own media, or none. -/
def RemoteVideoEvent.Fits (event : RemoteVideoEvent) (world : RemoteVideoWorld ν) : Prop :=
  (RemotePlayer.ofTrace world.trace).Permits event

variable {effect : RemoteVideoWorld ν → RemoteVideoWorld ν}

namespace RemoteVideo

variable (config : AirPlayRemoteVideoConfig ν)

end RemoteVideo

end Sections

/-! ## Runs -/

end NXCast
