import ChangeFeed.Proofs.Batch.Trace

/-!
# When events are acknowledged

The journal of a poll falls into one block for each event that it took, in the order in which it
took them, and the effects of an event are nowhere but in its block. An event is acknowledged in its
block, once, exactly if neither the filter nor the source handler failed on it, and never after its
message was released there.
-/

namespace ChangeFeed

namespace Entry

/-- The event that was acknowledged. -/
def acknowledged? : Entry → Option Event
  | acknowledged e => some e
  | _ => none

/-- What a poll adds to the journal between two events. -/
def isBetween : Entry → Bool
  | waited | faultTaken _ | flagRead _ | logged _ => true
  | _ => false

/-- An effect of processing takes no event. -/
lemma taken?_of_isEffect {x : Entry} (hx : x.isEffect) : x.taken? = none := by
  cases x <;> first | rfl | cases hx

/-- No other thread takes an event. -/
lemma ByHolder.taken? {held : List Event} {x : Entry} (hx : x.ByHolder held) :
    x.taken? = none := by
  cases x <;> first | rfl | cases hx

/-- No other thread acknowledges an event. -/
lemma ByHolder.acknowledged? {held : List Event} {x : Entry} (hx : x.ByHolder held) :
    x.acknowledged? = none := by
  cases x <;> first | rfl | cases hx

/-- Clearing up acknowledges no event. -/
lemma acknowledged?_of_isClearing {x : Entry} (hx : x.isClearing) : x.acknowledged? = none := by
  cases x <;> first | rfl | cases hx

/-- What is done between events acknowledges none. -/
lemma acknowledged?_of_isBetween {x : Entry} (hx : x.isBetween) : x.acknowledged? = none := by
  cases x <;> first | rfl | cases hx

end Entry

/-- The events that were acknowledged, in order. -/
def acknowledged (journal : List Entry) : List Event := journal.filterMap Entry.acknowledged?

/-- What was acknowledged was acknowledged first or later. -/
@[simp] lemma acknowledged_append (as bs : List Entry) :
    acknowledged (as ++ bs) = acknowledged as ++ acknowledged bs :=
  List.filterMap_append

/-- Where there is only clearing up nothing is acknowledged. -/
lemma acknowledged_of_isClearing {own : List Entry} (h : ∀ x ∈ own, x.isClearing) :
    acknowledged own = [] :=
  List.filterMap_eq_nil_iff.2 fun x hx => Entry.acknowledged?_of_isClearing (h x hx)

/-- What was acknowledged is among what a thread adds itself. -/
lemma acknowledged_since {h k : Hub} {own : List Entry} (ha : Hub.Adds own h k) :
    acknowledged (h.since k) = acknowledged own :=
  ha.filterMap_since fun _ _ hx => hx.acknowledged?

/-- What was taken is among what a thread adds itself. -/
lemma taken_since {h k : Hub} {own : List Entry} (ha : Hub.Adds own h k) :
    taken (h.since k) = taken own :=
  ha.filterMap_since fun _ _ hx => hx.taken?

/-- A release acknowledges nothing. -/
lemma acknowledged_releases (m : Message) : acknowledged m.releases = [] := by
  apply acknowledged_of_isClearing
  intro x hx
  obtain rfl := Message.eq_of_mem_releases hx
  rfl

/-- Parting with a message acknowledges nothing. -/
lemma acknowledged_parting (line : Message → ReleaseError → LogLine) (m : Message) :
    acknowledged (m.parting line) = [] :=
  acknowledged_of_isClearing fun _ => Message.isClearing_of_mem_parting

/-- What an acknowledgement sets off acknowledges nothing. -/
lemma Hook.Traces.acknowledged_eq {isOpen : Bool} {hooks : List (Hook Event)} {own : List Entry}
    (ht : Hook.Traces isOpen hooks own) : acknowledged own = [] := by
  induction ht with
  | nil => rfl
  | cons hown _ ih =>
    rw [acknowledged_append, ih, List.append_nil]
    cases hown with
    | stop | report | accepted _ => rfl
    | refused _ => exact acknowledged_parting _ _

/-- Asking the filter and the source handler acknowledges nothing. -/
lemma Pipeline.acknowledged_inquiries (p : Pipeline) (e : Event) :
    acknowledged (p.inquiries e) = [] := by
  unfold inquiries
  cases p.filter <;> split <;> rfl

/-- Each acknowledgement of an event whose message has a buffer is followed by its release. -/
def Followed : List Entry → Prop
  | [] => True
  | x :: rest =>
    (∀ e, x = .acknowledged e → e.message.buffer.isSome → e.message ∈ released rest) ∧ Followed rest

namespace Followed

variable {as bs : List Entry}

/-- What follows in two parts of a journal follows in the whole. -/
lemma append (ha : Followed as) (hb : Followed bs) : Followed (as ++ bs) := by
  induction as with
  | nil => exact hb
  | cons x rest ih =>
    obtain ⟨hx, hrest⟩ := ha
    refine ⟨?_, ih hrest⟩
    intro e he hm
    show e.message ∈ released (rest ++ bs)
    rw [released_append]
    exact List.mem_append_left _ (hx e he hm)

/-- Where nothing is acknowledged nothing need follow. -/
lemma of_acknowledged_eq_nil (h : acknowledged as = []) : Followed as := by
  induction as with
  | nil => trivial
  | cons x rest ih =>
    rw [acknowledged, List.filterMap_eq_nil_iff] at h
    refine ⟨?_, ih (List.filterMap_eq_nil_iff.2 fun y hy => h y (List.mem_cons_of_mem _ hy))⟩
    rintro e rfl
    cases h _ List.mem_cons_self

/-- What comes after an acknowledgement includes the release. -/
lemma mem_released {before after : List Entry} {e : Event}
    (hf : Followed (before ++ .acknowledged e :: after)) (hm : e.message.buffer.isSome) :
    e.message ∈ released after := by
  induction before with
  | nil => exact hf.1 e rfl hm
  | cons x rest ih => exact ih hf.2

end Followed

/-- Nobody else acknowledges anything. -/
lemma Woven.followed {held : List Event} {own all : List Entry}
    (hw : Woven (Entry.ByHolder held) own all) (ho : Followed own) : Followed all := by
  induction hw with
  | nil => trivial
  | own hw ih =>
    obtain ⟨hx, hrest⟩ := ho
    refine ⟨?_, ih hrest⟩
    intro e he hm
    obtain ⟨y, hy, hyr⟩ := List.mem_filterMap.1 (hx e he hm)
    exact List.mem_filterMap.2 ⟨y, hw.subset hy, hyr⟩
  | other hx _ ih =>
    refine ⟨?_, ih ho⟩
    rintro e rfl
    cases hx

namespace Assembler

variable {a : Assembler} {isOpen idle : Bool} {remaining left : Nat}
  {records middle : List FeedRecord} {own : List Entry} {e : Event}

/-- Neither the filter nor the source handler fails on an event, the source handler being asked only
if the filter lets the message through. -/
def Converts (a : Assembler) (e : Event) : Bool :=
  match a.pipeline.passes e.message with
  | .error _ => false
  | .ok false => true
  | .ok true => (a.pipeline.handler.handle (e.document a.pipeline.bucket) a.pipeline.topic).isOk

/-- An event is converted if neither the filter nor the source handler fails on it. -/
lemma converts_eq (a : Assembler) (e : Event) : a.Converts e = (a.pipeline.result e).isOk := by
  unfold Converts Pipeline.result
  cases a.pipeline.passes e.message with
  | error cause => rfl
  | ok passed =>
    cases passed with
    | false => rfl
    | true =>
      show _ = (a.pipeline.convert e).isOk
      unfold Pipeline.convert
      cases a.pipeline.handler.handle (e.document a.pipeline.bucket) a.pipeline.topic <;> rfl

/-- What a poll adds to the journal: a block for each of the events that it takes, and between them
waits, looks at the flag and the fault slot, and log lines. -/
inductive Blocks (a : Assembler) (isOpen : Bool) : List Event → List Entry → Prop where
  | nil : Blocks a isOpen [] []
  | between {x events own} :
    x.isBetween →
    Blocks a isOpen events own →
    Blocks a isOpen events (x :: own)
  | event {e block events own} :
    a.Block isOpen e block →
    Blocks a isOpen events own →
    Blocks a isOpen (e :: events) (.dequeued e :: block ++ own)

/-- Processing an event takes no other. -/
lemma Block.taken_eq (hb : a.Block isOpen e own) : taken own = [] :=
  List.filterMap_eq_nil_iff.2 fun _ hx => Entry.taken?_of_isEffect (hb.isEffect hx)

/-- In its block an event is acknowledged exactly if it is converted. -/
lemma Block.acknowledged_eq (hb : a.Block isOpen e own) :
    acknowledged own = [e].filter a.Converts := by
  cases hb with
  | failed hr =>
    have hc : a.Converts e = false := by
      rw [a.converts_eq, hr]
      rfl
    rw [acknowledged_append, a.pipeline.acknowledged_inquiries, acknowledged_parting,
      List.filter_cons_of_neg (by simp [hc])]
    rfl
  | @converted converted hooks hr ht =>
    have hc : a.Converts e = true := by
      rw [a.converts_eq, hr]
      rfl
    rw [acknowledged_append, acknowledged_releases, List.append_nil, acknowledged_append,
      a.pipeline.acknowledged_inquiries, List.filter_cons_of_pos hc]
    show e :: acknowledged hooks = [e]
    rw [ht.acknowledged_eq]

/-- The release of an acknowledged event follows when it is processed. -/
lemma Block.followed (hb : a.Block isOpen e own) : Followed own := by
  cases hb with
  | failed _ =>
    apply Followed.of_acknowledged_eq_nil
    rw [acknowledged_append, a.pipeline.acknowledged_inquiries, acknowledged_parting]
    rfl
  | @converted converted hooks _ ht =>
    rw [List.append_assoc]
    apply Followed.append
    · exact .of_acknowledged_eq_nil (a.pipeline.acknowledged_inquiries e)
    · refine ⟨?_, ?_⟩
      · intro f hf hm
        obtain rfl := Entry.acknowledged.inj hf
        show e.message ∈ released (hooks ++ e.message.releases)
        rw [released_append, Message.releases, if_pos hm]
        exact List.mem_append_right _ List.mem_cons_self
      · apply Followed.of_acknowledged_eq_nil
        show acknowledged (hooks ++ e.message.releases) = []
        rw [acknowledged_append, ht.acknowledged_eq, acknowledged_releases]
        rfl

namespace Blocks

variable {events more : List Event} {as bs : List Entry}

/-- Events processed one after the other are processed as a whole. -/
lemma append (ha : a.Blocks isOpen events as) (hb : a.Blocks isOpen more bs) :
    a.Blocks isOpen (events ++ more) (as ++ bs) := by
  induction ha with
  | nil => exact hb
  | between hx _ ih => exact .between hx ih
  | event hblock _ ih =>
    rw [List.append_assoc]
    exact .event hblock ih

/-- The events that were taken are those that were processed. -/
lemma taken_eq (hb : a.Blocks isOpen events own) : taken own = events := by
  induction hb with
  | nil => rfl
  | @between x events own hx _ ih =>
    have ht : x.taken? = none := by
      cases x <;> first | rfl | cases hx
    rw [taken, List.filterMap_cons, ht]
    exact ih
  | @event e block events own hblock _ ih =>
    show e :: taken (block ++ own) = e :: events
    rw [taken_append, hblock.taken_eq, ih]
    rfl

/-- Of the events that a poll takes, those are acknowledged that are converted, in order. -/
lemma acknowledged_eq (hb : a.Blocks isOpen events own) :
    acknowledged own = events.filter a.Converts := by
  induction hb with
  | nil => rfl
  | @between x events own hx _ ih =>
    rw [acknowledged, List.filterMap_cons, Entry.acknowledged?_of_isBetween hx]
    exact ih
  | @event e block events own hblock _ ih =>
    show acknowledged (block ++ own) = ([e] ++ events).filter a.Converts
    rw [acknowledged_append, hblock.acknowledged_eq, ih, List.filter_append]

/-- The release of every acknowledged event follows. -/
lemma followed (hb : a.Blocks isOpen events own) : Followed own := by
  induction hb with
  | nil => trivial
  | @between x events own hx _ ih =>
    refine ⟨?_, ih⟩
    rintro e rfl
    cases hx
  | @event e block events own hblock _ ih =>
    refine ⟨nofun, ?_⟩
    exact hblock.followed.append ih

end Blocks

/-- Taking an event and processing it is a block. -/
lemma Block.blocks (hb : a.Block isOpen e own) : a.Blocks isOpen [e] (.dequeued e :: own) := by
  have h : a.Blocks isOpen [e] (.dequeued e :: own ++ []) := .event hb .nil
  rwa [List.append_nil] at h

/-- An intake is made of blocks. -/
lemma Intake.blocks (hi : a.Intake isOpen remaining records own idle left middle) :
    ∃ events, a.Blocks isOpen events own := by
  cases hi with
  | event hb _ => exact ⟨_, hb.blocks⟩
  | idle => exact ⟨[], .between rfl .nil⟩

/-- A round is made of blocks. -/
lemma RoundTrace.blocks {round : Round} (hr : a.RoundTrace isOpen remaining records own round) :
    ∃ events, a.Blocks isOpen events own := by
  cases hr with
  | failed hb _ => exact ⟨_, hb.blocks⟩
  | returns hi _ =>
    obtain ⟨events, hb⟩ := hi.blocks
    exact ⟨_, hb.append (.between rfl .nil)⟩
  | fault hi _ =>
    obtain ⟨events, hb⟩ := hi.blocks
    exact ⟨_, hb.append (.between rfl .nil)⟩
  | waits hi _ => exact hi.blocks
  | goesOn hi _ => exact hi.blocks

/-- A poll adds a block for each event that it takes. -/
lemma PollTrace.blocks {poll : Poll} (ht : a.PollTrace isOpen remaining records own poll) :
    a.Blocks isOpen (taken own) own := by
  suffices h : ∃ events, a.Blocks isOpen events own by
    obtain ⟨events, hb⟩ := h
    rw [hb.taken_eq]
    exact hb
  induction ht with
  | stopped => exact ⟨[], .between rfl .nil⟩
  | ends hr =>
    obtain ⟨events, hb⟩ := hr.blocks
    exact ⟨events, .between rfl hb⟩
  | goesOn hr _ ih =>
    obtain ⟨events, hb⟩ := hr.blocks
    obtain ⟨more, hm⟩ := ih
    exact ⟨events ++ more, .between rfl (hb.append hm)⟩

/-- What a poll adds to the journal, whatever others add to it meanwhile, are the blocks of the
events that it takes. -/
lemma blocks_poll (a : Assembler) (h : Hub) :
    ∃ own, Woven (Entry.ByHolder (h.handedBack ++ kept (h.since (a.poll h).2))) own
        (h.since (a.poll h).2) ∧
      a.Blocks h.bridge.isSome (taken (h.since (a.poll h).2)) own := by
  obtain ⟨own, ht, ha⟩ := a.adds_poll h
  have hown : taken (h.since (a.poll h).2) = taken own :=
    ha.filterMap_since fun _ _ hx => hx.taken?
  exact ⟨own, ha.woven.2, hown ▸ ht.blocks⟩

end Assembler

end ChangeFeed
