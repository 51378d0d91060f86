import ChangeFeed.Proofs.Feed.Path
import ChangeFeed.Proofs.Hub.Queue

/-!
# Histories

A world is a hub with the feed that works on it, or with no feed: the feed was let go of, or the
bridge never had one. Its history is a list of calls, in any order and of any number, made by the
owner of the feed, between which other threads make any moves; what they do during a call is the
schedule of the hub. Between two calls nobody has a message in hand.
-/

namespace ChangeFeed

/-- What works on a hub. -/
inductive Place (ρ : Type) where
  | feed (f : Feed ρ)
  | bridge (h : Hub)

/-- A place, with the events that its feed was given to convert. -/
structure World (ρ : Type) where
  place : Place ρ
  converted : List Event

/-- What the owner of a feed, or of a bridge without a feed, may do; and what other threads do
between two calls. -/
inductive Call where
  | start (properties : Properties)
  | poll
  | convert (event : Event)
  | stop
  | signal
  | others (moves : List Move)
  | letGo

namespace World

variable {ρ : Type}

/-- The hub of a place. -/
def hub (w : World ρ) : Hub :=
  match w.place with
  | .feed f => f.hub
  | .bridge h => h

/-- Makes a call. A feed that is gone cannot be called. -/
def step [Reader ρ] (w : World ρ) (c : Call) : World ρ :=
  match w.place, c with
  | .feed f, .start properties => { w with place := .feed (f.start properties).2 }
  | .feed f, .poll => { w with place := .feed f.poll.2 }
  | .feed f, .convert e => ⟨.feed (f.convert e).2, e :: w.converted⟩
  | .feed f, .stop => { w with place := .feed f.stop.2 }
  | .feed f, .signal => { w with place := .feed f.signal }
  | .feed f, .others ms => { w with place := .feed (f.withHub (Hub.moves ms)) }
  | .feed f, .letGo => { w with place := .bridge f.release }
  | .bridge h, .others ms => { w with place := .bridge (Hub.moves ms h) }
  | .bridge h, .letGo => { w with place := .bridge h.closeBridge }
  | .bridge _, _ => w

/-- Makes calls in order. -/
def run [Reader ρ] : List Call → World ρ → World ρ
  | [], w => w
  | c :: rest, w => run rest (w.step c)

/-- A world at the beginning: a feed that was not started yet, or an open bridge without a feed.
Nothing happened yet, and other threads may be about to do anything. -/
inductive Fresh : World ρ → Prop where
  | feed {context h} :
    h.bridge = none →
    h.handedBack = [] →
    h.journal = [] →
    Fresh ⟨.feed (.new context h), []⟩
  | bridge {h} :
    h.bridge = some .empty →
    h.handedBack = [] →
    h.journal = [] →
    Fresh ⟨.bridge h, []⟩

/-- The messages that reached the hub or its feed so far. -/
def received (w : World ρ) : Multiset Message :=
  messages (offered w.hub.journal) + messages w.converted

/-- The point of a run between two calls. -/
def point (w : World ρ) : Point :=
  ⟨w.hub, 0, messages w.converted⟩

/-- A feed that was not started yet has no bridge. -/
def Unopened (w : World ρ) : Prop :=
  ∀ f, w.place = .feed f → f.state = .new → f.hub.bridge = none

end World

namespace Feed

variable {ρ : Type}

/-- A feed that is being started is not new any more when that is over. -/
lemma state_launch_ne_new (f : Feed ρ) (context : ReaderContext) (a : Assembler)
    (hs : f.state ≠ .new) : (f.launch context a).2.state ≠ .new := by
  unfold launch
  dsimp only
  split
  · exact hs
  · simp

/-- A start leaves no feed new. -/
lemma state_start_ne_new (f : Feed ρ) (properties : Properties) :
    (f.start properties).2.state ≠ .new := by
  unfold start
  split
  · rename_i hn
    exact hn
  · dsimp only
    split
    · simp
    · rename_i config _
      unfold select
      split
      · simp [withHub]
      · split
        · simp [withHub]
        · unfold resume
          dsimp only
          split
          · simp [withHub]
          · exact state_launch_ne_new _ _ _ (by simp [withHub])

/-- A poll leaves the state. -/
lemma state_poll (f : Feed ρ) : f.poll.2.state = f.state := by
  unfold poll
  split <;> rfl

/-- A conversion leaves the state. -/
lemma state_convert (f : Feed ρ) (e : Event) : (f.convert e).2.state = f.state := by
  unfold convert
  split <;> rfl

/-- A stop leaves a feed stopped. -/
lemma state_stop [Reader ρ] (f : Feed ρ) : f.stop.2.state = .stopped := by
  rw [stop_eq]

/-- A poll opens no bridge. -/
lemma bridge_poll_eq_none {f : Feed ρ} (hb : f.hub.bridge = none) : f.poll.2.hub.bridge = none := by
  unfold poll
  split
  · exact hb
  · exact (Assembler.reaches_poll (s := 0) (g := 0) _).bridge_eq_none hb

/-- A conversion opens no bridge. -/
lemma bridge_convert_eq_none {f : Feed ρ} (e : Event) (hb : f.hub.bridge = none) :
    (f.convert e).2.hub.bridge = none := by
  unfold convert
  split
  · exact (Hub.reaches_drop (s := 0) (g := 0) e.message).serves.bridge_eq_none hb
  · exact (Assembler.reaches_process (s := 0) (g := 0) _ e).serves.bridge_eq_none hb

end Feed

namespace World

variable {ρ : Type} {w : World ρ}

/-- A world whose life begins has no open bridge. -/
lemma Fresh.unopened (hw : w.Fresh) : w.Unopened := by
  intro f hf _
  cases hw with
  | feed hb _ _ =>
    cases hf
    exact hb
  | bridge _ _ _ => cases hf

/-- A call leaves a feed that was not started yet unopened. -/
lemma unopened_step [Reader ρ] (hw : w.Unopened) (c : Call) : (w.step c).Unopened := by
  intro f' hf' hs
  obtain ⟨place, converted⟩ := w
  cases place with
  | bridge h => cases c <;> cases hf'
  | feed f =>
    have hn : f.state = .new → f.hub.bridge = none := hw f rfl
    -- a start and a stop leave no feed new, and no other call opens a bridge
    cases c with
    | start properties =>
      cases hf'
      exact absurd hs (f.state_start_ne_new properties)
    | poll =>
      cases hf'
      exact Feed.bridge_poll_eq_none (hn (f.state_poll ▸ hs))
    | convert e =>
      cases hf'
      exact Feed.bridge_convert_eq_none e (hn (f.state_convert e ▸ hs))
    | stop =>
      cases hf'
      exact absurd (f.state_stop ▸ hs) (by simp)
    | signal =>
      cases hf'
      exact hn hs
    | others ms =>
      cases hf'
      exact (Hub.reaches_moves (s := 0) (g := 0) ms).serves.bridge_eq_none (hn hs)
    | letGo => cases hf'

/-- A call is a run of steps from one moment between calls to the next. -/
lemma reaches_step [Reader ρ] (hw : w.Unopened) (c : Call) :
    Reaches Act.any w.point (w.step c).point := by
  obtain ⟨place, converted⟩ := w
  cases place with
  | bridge h =>
    cases c with
    | others ms => exact (Hub.reaches_moves ms).any
    | letGo => exact Hub.reaches_closeBridge
    | _ => exact .refl
  | feed f =>
    cases c with
    | start properties => exact f.reaches_start properties (hw f rfl)
    | poll => exact f.reaches_poll
    | convert e => exact f.reaches_convert e
    | stop => exact f.reaches_stop
    | signal => exact .step .setRunning rfl
    | others ms => exact (Hub.reaches_moves ms).any
    | letGo => exact Hub.reaches_closeBridge

/-- Calls are a run. -/
lemma reaches_run [Reader ρ] (hw : w.Unopened) (calls : List Call) :
    Reaches Act.any w.point (w.run calls).point := by
  induction calls generalizing w with
  | nil => exact .refl
  | cons c rest ih => exact (reaches_step hw c).trans (ih (unopened_step hw c))

/-- Calls after calls. -/
lemma run_append [Reader ρ] (as bs : List Call) (w : World ρ) :
    w.run (as ++ bs) = (w.run as).run bs := by
  induction as generalizing w with
  | nil => rfl
  | cons c rest ih => exact ih (w.step c)

/-- Once a feed, or a bridge without a feed, was let go of, its bridge is closed, and it stays so
whatever other threads do. -/
lemma bridge_letGo_eq_none [Reader ρ] (w : World ρ) (ms : List Move) :
    (w.run [.letGo, .others ms]).hub.bridge = none := by
  have hm (h : Hub) : (Hub.moves ms h.closeBridge).bridge = none :=
    (Hub.reaches_moves (s := 0) (g := 0) ms).serves.bridge_eq_none h.bridge_closeBridge
  obtain ⟨place, converted⟩ := w
  cases place with
  | feed f => exact hm f.hub
  | bridge h => exact hm h

end World

end ChangeFeed
