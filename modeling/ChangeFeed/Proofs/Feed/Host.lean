import ChangeFeed.Proofs.Feed.Report
import ChangeFeed.Proofs.Feed.Stage
import ChangeFeed.Proofs.Reader.Thread

/-!
# No failed release goes unreported or is reported twice

A host calls its feed, and it may hold events of its own: it makes them or takes them over from a
producer, hands them to the bridge or to a conversion, releases them, which tells it of a failure,
and lets go of them. Whatever it does and in whatever order, the buffers that could not be released
are those of which a warning was logged together with those of whose release the host was told.
-/

namespace ChangeFeed

open Hub (Reports)

/-- The host of a feed: the world that it calls, the events that it holds, and the errors of
releases that it was told of, in order. -/
structure Host (ρ : Type) where
  world : World ρ
  held : List Event
  told : List ReleaseError

/-- What a host may do. The events that it holds are named by their places. -/
inductive Deed where
  | call (c : Call)
  | make (event : Event)
  /-- Takes over an event that a closed bridge handed back to a producer. -/
  | reclaim (index : Nat)
  | enqueue (index : Nat)
  | convert (index : Nat)
  | release (index : Nat)
  | drop (index : Nat)

namespace World

variable {ρ : Type}

/-- Changes the hub of a world. -/
def withHub (w : World ρ) (g : Hub → Hub) : World ρ :=
  match w.place with
  | .feed f => { w with place := .feed (f.withHub g) }
  | .bridge h => { w with place := .bridge (g h) }

/-- The release errors that a call returns because an event could not be released after it was
converted. The error that a stop returns was logged before. -/
def errors (w : World ρ) (c : Call) : List ReleaseError :=
  match w.place, c with
  | .feed f, .poll => f.poll.1.releaseErrors
  | .feed f, .convert e => releaseErrors (f.convert e).1
  | _, _ => []

/-- Whether there is a feed that can be called. -/
def hasFeed (w : World ρ) : Bool :=
  match w.place with
  | .feed _ => true
  | .bridge _ => false

end World

namespace Host

variable {ρ : Type}

/-- A host that holds nothing. -/
def new (w : World ρ) : Host ρ :=
  ⟨w, [], []⟩

/-- Makes a call. -/
def call [Reader ρ] (c : Call) (t : Host ρ) : Host ρ :=
  { t with world := t.world.step c, told := t.told ++ t.world.errors c }

/-- Hands an event to the bridge, and has it back if the bridge is closed. -/
def enqueue (index : Nat) (e : Event) (t : Host ρ) : Host ρ :=
  let (accepted, hub) := t.world.hub.enqueue .producer e
  { t with
    world := t.world.withHub fun _ => hub
    held := if accepted then t.held.eraseIdx index else t.held }

/-- Releases an event, which stays with the host. -/
def release (index : Nat) (e : Event) (t : Host ρ) : Host ρ :=
  let (result, hub) := t.world.hub.release e.message
  { world := t.world.withHub fun _ => hub
    held := t.held.set index { e with message := e.message.withoutBuffer }
    told := t.told ++ Hub.failure result }

/-- Lets go of an event. -/
def drop (index : Nat) (e : Event) (t : Host ρ) : Host ρ :=
  { t with
    world := t.world.withHub (·.drop e.message)
    held := t.held.eraseIdx index }

/-- Takes an event over from a producer. -/
def reclaim (index : Nat) (e : Event) (t : Host ρ) : Host ρ :=
  { t with
    world := t.world.withHub fun h => { h with handedBack := h.handedBack.eraseIdx index }
    held := t.held ++ [e] }

/-- Gives an event to the feed to convert, if there still is one. -/
def convert [Reader ρ] (index : Nat) (e : Event) (t : Host ρ) : Host ρ :=
  if t.world.hasFeed then { t.call (.convert e) with held := t.held.eraseIdx index } else t

/-- Does something with an event, if it is there. -/
def handle (event : Option Event) (act : Event → Host ρ → Host ρ) (t : Host ρ) : Host ρ :=
  match event with
  | none => t
  | some e => act e t

/-- Does a deed. -/
def perform [Reader ρ] (t : Host ρ) : Deed → Host ρ
  | .call c => t.call c
  | .make e => { t with held := t.held ++ [e] }
  | .reclaim i => t.handle t.world.hub.handedBack[i]? (reclaim i)
  | .enqueue i => t.handle t.held[i]? (enqueue i)
  | .convert i => t.handle t.held[i]? (convert i)
  | .release i => t.handle t.held[i]? (release i)
  | .drop i => t.handle t.held[i]? (drop i)

/-- Does deeds in order. -/
def run [Reader ρ] : List Deed → Host ρ → Host ρ
  | [], t => t
  | d :: rest, t => run rest (t.perform d)

/-- What happened so far. -/
def journal (t : Host ρ) : List Entry :=
  t.world.hub.journal

end Host

/-- Whether other threads log nothing during the call that reads like a warning of a failed
release. -/
def Call.isQuiet : Call → Bool
  | others ms => ms.all Move.isQuiet
  | _ => true

/-- Whether other threads log nothing during the deed that reads like such a warning. -/
def Deed.isQuiet : Deed → Bool
  | call c => c.isQuiet
  | _ => true

namespace World

variable {ρ : Type} {w : World ρ}

/-- Other threads log nothing that reads like a warning of a failed release, nor does a reader that
is being started. -/
structure Quiet (w : World ρ) : Prop where
  hub : w.hub.Quiet
  factory : ∀ f, w.place = .feed f → f.context.factory.Quiet

/-- The hub of a world is changed as it is told. -/
@[simp] lemma hub_withHub (w : World ρ) (g : Hub → Hub) : (w.withHub g).hub = g w.hub := by
  obtain ⟨place, converted⟩ := w
  cases place <;> rfl

/-- A change of the hub leaves the factory. -/
lemma factory_withHub {g : Hub → Hub}
    (hf : ∀ f, w.place = .feed f → f.context.factory.Quiet) (f : Feed ρ)
    (hg : (w.withHub g).place = .feed f) : f.context.factory.Quiet := by
  obtain ⟨place, converted⟩ := w
  cases place with
  | feed k =>
    cases hg
    exact hf k rfl
  | bridge h => cases hg

/-- What the host provides to a feed stays as it is. -/
lemma context_step [Reader ρ] {c : Call} {g : Feed ρ} (hg : (w.step c).place = .feed g) :
    ∃ f, w.place = .feed f ∧ g.context = f.context := by
  obtain ⟨place, converted⟩ := w
  cases place with
  | bridge h => cases c <;> cases hg
  | feed f =>
    refine ⟨f, rfl, ?_⟩
    cases c with
    | start properties =>
      cases hg
      exact f.context_start properties
    | poll =>
      cases hg
      exact f.context_poll
    | convert e =>
      cases hg
      exact f.context_convert e
    | stop =>
      cases hg
      exact f.context_stop
    | signal | others ms =>
      cases hg
      rfl
    | letGo => cases hg

/-- A call reports every release that fails meanwhile, or returns its error. -/
lemma reports_step [Reader ρ] (hr : QuietReaders ρ)
    (hf : ∀ f, w.place = .feed f → f.context.factory.Quiet) {c : Call} (hc : c.isQuiet) :
    Reports LogLine.TellsOf (w.errors c) w.hub (w.step c).hub := by
  obtain ⟨place, converted⟩ := w
  have hm {ms : List Move} (h : Hub) (hc : (Call.others ms).isQuiet) :
      Reports LogLine.TellsOf [] h (Hub.moves ms h) :=
    (Hub.reports_moves (List.all_eq_true.1 hc) h).all
  cases place with
  | bridge h =>
    cases c with
    | others ms => exact hm h hc
    | letGo => exact (Hub.reports_closeBridge h).all
    | _ => exact .refl
  | feed f =>
    cases c with
    | start properties => exact (Feed.reports_start (hf f rfl) properties).all
    | poll => exact f.reports_poll
    | convert e => exact f.reports_convert e
    | stop => exact Feed.reports_stop hr f
    | signal => exact Hub.reports_setRunning false f.hub
    | others ms => exact hm f.hub hc
    | letGo => exact (Hub.reports_closeBridge f.hub).all

end World

namespace Host

variable {ρ : Type} {t : Host ρ}

/-- Of every release that failed so far a warning was logged or the host was told, and not both. -/
structure Informed (t : Host ρ) : Prop where
  quiet : t.world.Quiet
  reported : Reported LogLine.TellsOf t.journal t.told

namespace Informed

/-- A host that was told of nothing knows of every failure, for there was none. -/
lemma new {w : World ρ} (hw : w.Fresh) (hq : w.Quiet) : (Host.new w).Informed := by
  refine ⟨hq, ?_⟩
  rw [journal, Host.new, hw.journal]
  exact .nil

/-- What reports the releases that fail, with the errors that the host is told of, leaves it
informed. -/
lemma step {u : Host ρ} {errors : List ReleaseError} (ht : t.Informed)
    (hr : Reports LogLine.TellsOf errors t.world.hub u.world.hub)
    (hf : ∀ f, u.world.place = .feed f → f.context.factory.Quiet)
    (hu : u.told = t.told ++ errors) : u.Informed := by
  obtain ⟨hq, new, hj, hn⟩ := hr ht.quiet.hub
  refine ⟨⟨hq, hf⟩, ?_⟩
  rw [journal, hj, hu]
  exact ht.reported.append hn

/-- A change of the hub alone. -/
lemma withHub {u : Host ρ} {g : Hub → Hub} {errors : List ReleaseError} (ht : t.Informed)
    (hr : Reports LogLine.TellsOf errors t.world.hub (g t.world.hub))
    (hw : u.world = t.world.withHub g) (hu : u.told = t.told ++ errors) : u.Informed := by
  have hk : Reports LogLine.TellsOf errors t.world.hub u.world.hub := by
    rw [hw, World.hub_withHub]
    exact hr
  refine ht.step hk ?_ hu
  rw [hw]
  exact World.factory_withHub ht.quiet.factory

/-- A host that handles an event of its own goes on knowing of every failure. -/
lemma handle {event : Option Event} {act : Event → Host ρ → Host ρ} (ht : t.Informed)
    (ha : ∀ e, (act e t).Informed) : (t.handle event act).Informed := by
  cases event with
  | none => exact ht
  | some e => exact ha e

/-- A call tells the host of every failure. -/
lemma call [Reader ρ] (ht : t.Informed) (hr : QuietReaders ρ) {c : Call} (hc : c.isQuiet) :
    (t.call c).Informed := by
  refine ht.step (World.reports_step hr ht.quiet.factory hc) ?_ rfl
  intro g hg
  obtain ⟨f, hf, hk⟩ := World.context_step hg
  rw [hk]
  exact ht.quiet.factory f hf

/-- A deed of the host leaves it knowing of every failure. -/
lemma perform [Reader ρ] (ht : t.Informed) (hr : QuietReaders ρ) {d : Deed} (hd : d.isQuiet) :
    (t.perform d).Informed := by
  cases d with
  | call c => exact ht.call hr hd
  | make e => exact ⟨ht.quiet, ht.reported⟩
  | reclaim i =>
    refine ht.handle fun e => ?_
    exact ht.withHub (.same rfl rfl) rfl (List.append_nil _).symm
  | enqueue i =>
    refine ht.handle fun e => ?_
    exact ht.withHub (Hub.reports_enqueue .producer e _) rfl (List.append_nil _).symm
  | convert i =>
    refine ht.handle fun e => ?_
    unfold Host.convert
    split
    · obtain ⟨hq, hj⟩ := ht.call hr (show (Call.convert e).isQuiet from rfl)
      exact ⟨hq, hj⟩
    · exact ht
  | release i =>
    refine ht.handle fun e => ?_
    exact ht.withHub (Hub.reports_release e.message _) rfl rfl
  | drop i =>
    refine ht.handle fun e => ?_
    exact ht.withHub (Hub.reports_drop e.message _).all rfl (List.append_nil _).symm

/-- Deeds of the host leave it knowing of every failure. -/
lemma run [Reader ρ] (ht : t.Informed) (hr : QuietReaders ρ) {deeds : List Deed}
    (hd : ∀ d ∈ deeds, d.isQuiet) : (Host.run deeds t).Informed := by
  induction deeds generalizing t with
  | nil => exact ht
  | cons d rest ih =>
    have hp := ht.perform hr (hd d List.mem_cons_self)
    exact ih hp fun x hx => hd x (List.mem_cons_of_mem _ hx)

end Informed

/-- The buffers that could not be released are those of the messages that the warnings tell of,
warning by warning, together with those of the messages whose release errors were returned to the
host, error by error. A stop that could release every event which it drained warns of none of them
and succeeds; otherwise it warns of each that it could not release, and fails with the error of the
first warning. If an event can neither be converted nor released the error of its conversion is
returned, and the last that is noted is the warning; and letting go of an event that was processed
releases nothing again. -/
theorem failures_reported_once [Reader ρ] (hr : QuietReaders ρ) {w : World ρ} (hw : w.Fresh)
    (hq : w.Quiet) {deeds : List Deed} (hd : ∀ d ∈ deeds, d.isQuiet) :
    (∃ warned returned : List Message,
      (failures ((new w).run deeds).journal).Perm (warned ++ returned) ∧
      List.Forall₂ (fun line m => ∃ e, m.releaseError? = some e ∧ line.TellsOf m e)
        (warnings ((new w).run deeds).journal) warned ∧
      List.Forall₂ (fun e m => m.releaseError? = some e) ((new w).run deeds).told returned) ∧
    (failures ((new w).run deeds).journal).length =
      (warnings ((new w).run deeds).journal).length + ((new w).run deeds).told.length ∧
    (∀ f, ((new w).run deeds).world.place = .feed f → ∃ own,
      f.stop.2.hub.journal = f.hub.journal ++ own ∧
      List.Forall₂ LogLine.TellsOfLeftover (drainWarnings own) (unreleasable f.ended.drain.1) ∧
      (drainWarnings own = [] ∧ f.stop.1 = .ok () ∨
        ∃ level m e rest, m.releaseError? = some e ∧
          drainWarnings own = .leftoverFailure level m e :: rest ∧
          f.stop.1 = .error (.release e))) ∧
    (∀ (a : Assembler) e h cause, a.pipeline.result e = .error cause →
      (a.process e h).1 = .error (.pipeline cause) ∧
        ∀ failure, e.message.releaseError? = some failure →
          ∃ new level, (a.process e h).2.journal = h.journal ++ new ++
            [.released e.message, .logged (.abandonedFailure level e.message failure)]) ∧
    ∀ (a : Assembler) e h, a.processGuarded e h = a.process e h := by
  have ht := (Informed.new hw hq).run hr hd
  obtain ⟨warned, returned, hp, hwarned, hreturned⟩ := ht.reported.accounts
  refine ⟨⟨warned, returned, hp, hwarned, hreturned⟩, ?_, ?_, ?_, ?_⟩
  · rw [hp.length_eq, List.length_append, hwarned.length_eq, hreturned.length_eq]
  · intro f hf
    have hfq : f.hub.Quiet := by
      have hh := ht.quiet.hub
      rw [World.hub, hf] at hh
      exact hh
    obtain ⟨hstop, own, hj, hown⟩ := Feed.stop_drain hr hfq
    refine ⟨own, hj, hown, ?_⟩
    rw [hstop]
    -- the first event that could not be released belongs to the first warning
    generalize drainWarnings own = lines, unreleasable f.ended.drain.1 = events at hown
    cases hown with
    | nil => exact .inl ⟨rfl, rfl⟩
    | @cons line e lines events hl _ =>
      obtain ⟨level, cause, he, rfl⟩ := hl
      refine .inr ⟨level, e.message, cause, lines, he, rfl, ?_⟩
      rw [List.head?_cons, Option.bind_some, he]
      rfl
  · intro a e h cause hc
    exact a.process_failed e h hc
  · intro a e h
    exact a.processGuarded_eq e h

open Doubles World

/-- A history in which a buffer cannot be released in a poll, twice with the host, of which one time
it was released before, and in a stop. -/
def careless : List Deed :=
  [.call (.start (properties [])), .call (.others [.enqueue (failingMutation 0 1)]), .call .poll,
    .make (failingMutation 0 2), .release 0, .release 0, .drop 0, .make (failingMutation 0 3),
    .drop 0, .call (.others [.enqueue (failingMutation 0 4)]), .call .stop]

/-- The poll and the release return two of the four failures, and the other two are logged. -/
theorem failures_reported_once_careless :
    QuietReaders StandIn ∧ idle.Fresh ∧ idle.Quiet ∧ (∀ d ∈ careless, d.isQuiet) ∧
      (warnings ((new idle).run careless).journal).length = 2 ∧
      ((new idle).run careless).told.length = 2 ∧
      (failures ((new idle).run careless).journal).length = 4 := by
  have hw : idle.Fresh := .feed rfl rfl rfl
  have hq : idle.Quiet := by
    refine ⟨?_, ?_⟩
    · intro batch hb
      cases hb
    · intro f hf context m hm
      cases hf
      cases hm
  have hd : ∀ d ∈ careless, d.isQuiet := by decide
  have hlogged : (warnings ((new idle).run careless).journal).length = 2 := by decide +kernel
  have htold : ((new idle).run careless).told.length = 2 := by decide +kernel
  refine ⟨quietReaders_standIn, hw, hq, hd, hlogged, htold, ?_⟩
  rw [(failures_reported_once quietReaders_standIn hw hq hd).2.1, hlogged, htold]

end Host

end ChangeFeed
