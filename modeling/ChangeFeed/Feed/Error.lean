import ChangeFeed.Config.Error
import ChangeFeed.Pipeline

/-!
# States and errors of a feed

A feed goes through its states in one direction only. Every error but a call in the wrong state is
fatal to the feed.
-/

namespace ChangeFeed

/-- The states of a feed (`TaskState`). A stopped feed cannot be started again. -/
inductive FeedState where
  | new
  | starting
  | running
  | stopping
  | stopped
deriving Repr, DecidableEq

/-- The name of a state (`TaskState.fmt`). -/
def FeedState.name : FeedState → String
  | new => "new"
  | starting => "starting"
  | running => "running"
  | stopping => "stopping"
  | stopped => "stopped"

/-- Why a call of a feed failed (`Error`). -/
inductive FeedError where
  | config (error : ConfigError)
  | offsets (error : OffsetError)
  | readerStart (cause : String)
  | pipeline (error : PipelineError)
  | fatal (fault : String)
  | release (error : ReleaseError)
  | notRunning (state : FeedState)
  | alreadyStarted (state : FeedState)

namespace FeedError

/-- The wording of each cause. -/
def message : FeedError → String
  | config e => "couldn't start source task due to configuration error: " ++ e.message
  | offsets e => "couldn't read saved source offsets: " ++ e.message
  | readerStart cause => "couldn't start change stream reader: " ++ cause
  | pipeline e => e.message
  | fatal fault => "change stream reader failed: " ++ fault
  | release e => e.message
  | notRunning state => "source task is not running (state: " ++ state.name ++ ")"
  | alreadyStarted state => "source task can't be started again (state: " ++ state.name ++ ")"

/-- Whether the feed must fail (`Error.is_fatal`). -/
def isFatal : FeedError → Bool
  | notRunning _ | alreadyStarted _ => false
  | _ => true

end FeedError

end ChangeFeed
