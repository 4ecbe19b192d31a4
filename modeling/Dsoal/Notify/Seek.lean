import Dsoal.Notify.Passes
import Dsoal.Playback.Methods

/-!
# Seeking between two polls

`SetCurrentPosition` moves `mLastPos` along with the source and signals nothing, so that no
later poll signals what has been played since the last one.  A source that has just ended
stays where it is: the poll that finds it so signals everything from the new position to the
end, which has not been played.
-/

namespace Dsoal

open Laps

namespace Buffer

variable {b : Buffer} {sb : SharedBuffer} {src : Source} {prev cur : ℕ} {q : Poll}
  {polls : List Poll}

variable {dataSize pos : ℕ} {notifies : List (PositionNotify EventHandle)}
  {e : PositionNotify EventHandle}

end Buffer

end Dsoal
