import ChangeFeed.Proofs.Batch.Path
import ChangeFeed.Proofs.Hub.Twin
import ChangeFeed.Registry

/-!
# Polls of events that differ in user data only

The built-in filters look at the kind of a message and at nothing else, and the built-in source
handlers make a record of every event. So they treat twins alike: whether an event is passed,
whether it has a record, and whether it fails does not hang on user data. Then neither does how many
records a batch has, nor when a poll is over, and processing, rounds and polls leave hubs that are
twins twins.
-/

namespace ChangeFeed

variable {R : Bytes → Bytes → Prop}

/-- Neither fails, and both or neither give something; or both fail, for the same reason. -/
inductive SameShape {ε α : Type} : Except ε (Option α) → Except ε (Option α) → Prop where
  | failed {cause} : SameShape (.error cause) (.error cause)
  | ended {x y} :
    x.isSome = y.isSome →
    SameShape (.ok x) (.ok y)

namespace Pipeline

/-- The filter, if there is one, and the source handler are built-in ones. -/
structure Builtin (p : Pipeline) : Prop where
  filter : p.filter = none ∨ p.filter = some .allPass ∨ p.filter = some .ignoreDeletes
  handler : p.handler = .rawJson ∨ p.handler = .rawJsonWithMetadata

variable {p : Pipeline} {m n : Message} {a b : Event} {h k : Hub}

/-- Twins are passed alike. -/
lemma Builtin.passes_eq (hp : p.Builtin) (hm : m.Twin R n) : p.passes m = p.passes n := by
  obtain hf | hf | hf := hp.filter
  · simp only [passes, hf]
  · simp only [passes, hf, Filter.allPass]
  · simp only [passes, hf, Filter.ignoreDeletes, hm.kind_eq]

/-- A record is made of every event that is passed. -/
lemma Builtin.sameShape_convert (hp : p.Builtin) (a b : Event) :
    SameShape (p.convert a) (p.convert b) := by
  obtain hh | hh := hp.handler
  · simp only [convert, hh, Handler.rawJson]
    exact .ended rfl
  · simp only [convert, hh, Handler.rawJsonWithMetadata]
    exact .ended rfl

section

variable (hR : Alike R)

include hR

/-- Asking the filter leaves twins. -/
lemma twin_recordFilter (p : Pipeline) (m n : Message) (hh : h.Twin R k) :
    (p.recordFilter m h).Twin R (p.recordFilter n k) := by
  unfold recordFilter
  cases p.filter with
  | none => exact hh
  | some f => exact (hh.yield hR).record rfl

/-- Running a built-in pipeline on events that are twins leaves twins, and converts both
or neither. -/
lemma Builtin.twin_run (hp : p.Builtin) (he : a.Twin R b) (hh : h.Twin R k) :
    ∃ r r' h' k', p.run a h = (r, h') ∧ p.run b k = (r', k') ∧ SameShape r r' ∧ h'.Twin R k' := by
  have hf := twin_recordFilter hR p a.message b.message hh
  simp only [run, hp.passes_eq he.message]
  cases p.passes b.message with
  | error cause => exact ⟨_, _, _, _, rfl, rfl, .failed, hf⟩
  | ok pass =>
    cases pass with
    | false => exact ⟨_, _, _, _, rfl, rfl, .ended rfl, hf⟩
    | true =>
      exact ⟨_, _, _, _, rfl, rfl, hp.sameShape_convert a b, (hf.yield hR).record rfl⟩

end

end Pipeline

namespace Assembler

/-- Rounds that end both, or that both go on with as many records and as many events to take. -/
inductive Round.SameShape : Round → Round → Prop where
  | ends {poll poll'} : SameShape (.ends poll) (.ends poll')
  | goesOn {remaining records records'} :
    records.length = records'.length →
    SameShape (.goesOn remaining records) (.goesOn remaining records')

variable {a : Assembler} {x y : Event} {h k : Hub} {records records' : List FeedRecord}

/-- As many records are told of. -/
lemma twin_finish (hh : h.Twin R k) (hl : records.length = records'.length) :
    (finish records h).2.Twin R (finish records' k).2 := by
  unfold finish
  rw [hl]
  exact hh.log rfl

/-- One record is added to both batches, or to none. -/
lemma length_toList {x y : Option FeedRecord} (hs : x.isSome = y.isSome) :
    x.toList.length = y.toList.length := by
  rw [Option.length_toList, Option.length_toList, hs]

section

variable (hR : Alike R) (ha : a.pipeline.Builtin)

include hR ha

/-- Processing events that are twins leaves twins, and gives a record of both or of neither. -/
lemma twin_process (he : x.Twin R y) (hh : h.Twin R k) :
    ∃ r r' h' k', a.process x h = (r, h') ∧ a.process y k = (r', k') ∧ SameShape r r' ∧
      h'.Twin R k' := by
  obtain ⟨r, r', h', k', hp, hq, hr, hrun⟩ := ha.twin_run hR he hh
  simp only [process, hp, hq]
  cases hr with
  | failed =>
    exact ⟨_, _, _, _, rfl, rfl, .failed,
      (hrun.yield hR).releaseOrLog (tagging_abandonedFailure hR) he.message⟩
  | ended hs =>
    obtain ⟨result, l, l', hl, hl', hrel⟩ := ((hrun.acknowledge hR he).yield hR).release he.message
    dsimp only
    rw [hl, hl']
    cases result with
    | error cause => exact ⟨_, _, _, _, rfl, rfl, .failed, hrel⟩
    | ok _ =>
      refine ⟨_, _, _, _, rfl, rfl, .ended ?_, hrel⟩
      rw [Option.isSome_map, Option.isSome_map, hs]

/-- A round looks at how many records there are, and at nothing else of them. -/
lemma twin_round (remaining : Nat) (hl : records.length = records'.length) (hh : h.Twin R k) :
    ∃ r r' h' k', a.round remaining records h = (r, h') ∧ a.round remaining records' k = (r', k') ∧
      Round.SameShape r r' ∧ h'.Twin R k' := by
  unfold round
  obtain ⟨h1, k1, hd, hd', hh1⟩ | ⟨x, y, h1, k1, hd, hd', he, hh1⟩ := hh.dequeue hR
  · rw [hd, hd']
    dsimp only
    rw [isEmpty_eq_isEmpty hl]
    split
    · exact ⟨_, _, _, _, rfl, rfl, .ends, twin_finish hh1 hl⟩
    · obtain ⟨fault, h2, k2, ht, ht', hh2⟩ := hh1.takeFault hR
      rw [ht, ht']
      cases fault with
      | some fault => exact ⟨_, _, _, _, rfl, rfl, .ends, hh2⟩
      | none =>
        dsimp only
        rw [isEmpty_eq_isEmpty hh2.schedule.length_eq]
        split
        · exact ⟨_, _, _, _, rfl, rfl, .ends, hh2⟩
        · exact ⟨_, _, _, _, rfl, rfl, .goesOn hl, hh2⟩
  · obtain ⟨r, r', h2, k2, hp, hp', hr, hh2⟩ := twin_process hR ha he hh1
    rw [hd, hd']
    dsimp only
    rw [hp, hp']
    cases hr with
    | failed => exact ⟨_, _, _, _, rfl, rfl, .ends, hh2⟩
    | @ended record record' hs =>
      have hl' : (records ++ record.toList).length = (records' ++ record'.toList).length := by
        rw [List.length_append, List.length_append, hl, length_toList hs]
      dsimp only
      rw [isEmpty_eq_isEmpty hl']
      split
      · exact ⟨_, _, _, _, rfl, rfl, .ends, twin_finish hh2 hl'⟩
      · obtain ⟨fault, h3, k3, ht, ht', hh3⟩ := hh2.takeFault hR
        rw [ht, ht']
        cases fault with
        | some fault => exact ⟨_, _, _, _, rfl, rfl, .ends, hh3⟩
        | none => exact ⟨_, _, _, _, rfl, rfl, .goesOn hl', hh3⟩

/-- The rounds of one poll are followed; the other poll has as many. -/
lemma twin_pollFrom (remaining : Nat) (hl : records.length = records'.length) (hh : h.Twin R k) :
    (a.pollFrom remaining records h).2.Twin R (a.pollFrom remaining records' k).2 := by
  fun_induction pollFrom a remaining records h generalizing records' k with
  | case1 remaining records h h' hf =>
    obtain ⟨running, l, l', hp, hp', hh'⟩ := hh.readFlag hR
    obtain ⟨rfl, rfl⟩ := Prod.mk.inj (hf.symm.trans hp)
    rw [pollFrom_of_clear hp']
    exact hh'
  | case2 remaining records h h' hf poll h'' hr =>
    obtain ⟨running, l, l', hp, hp', hh'⟩ := hh.readFlag hR
    obtain ⟨rfl, rfl⟩ := Prod.mk.inj (hf.symm.trans hp)
    obtain ⟨r, r', m, m', hq, hq', hs, hh''⟩ := twin_round hR ha remaining hl hh'
    obtain ⟨rfl, rfl⟩ := Prod.mk.inj (hr.symm.trans hq)
    cases hs with
    | ends =>
      rw [pollFrom_of_ends hp' hq']
      exact hh''
  | case3 remaining records h h' hf left middle h'' hr ih =>
    obtain ⟨running, l, l', hp, hp', hh'⟩ := hh.readFlag hR
    obtain ⟨rfl, rfl⟩ := Prod.mk.inj (hf.symm.trans hp)
    obtain ⟨r, r', m, m', hq, hq', hs, hh''⟩ := twin_round hR ha remaining hl hh'
    obtain ⟨rfl, rfl⟩ := Prod.mk.inj (hr.symm.trans hq)
    cases hs with
    | goesOn hl' =>
      rw [pollFrom_of_goesOn hp' hq']
      exact ih hl' hh''

/-- A poll leaves twins. -/
lemma twin_poll (hh : h.Twin R k) : (a.poll h).2.Twin R (a.poll k).2 :=
  twin_pollFrom hR ha a.limit.1 rfl hh

end

end Assembler

end ChangeFeed
