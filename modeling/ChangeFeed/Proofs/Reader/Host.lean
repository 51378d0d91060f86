import ChangeFeed.Reader.Host
import Mathlib.Data.List.Basic

/-!
# Waiting for a reader thread

A thread may be joined any number of times, asked to end any number of times, and it may end at any
time, also while a join waits for it. `Hosting.Run` is such a course of things, deed by deed. What
one deed does is one of the `Effect`s. Each of them keeps the `Stance` of the host, which says where
the handle of the thread is and what the joins have reported by then; and `Follows` says what a run
shows of the deeds that it is made of.
-/

namespace ChangeFeed

namespace JoinReport

/-- The time of the join was over first. -/
def stillRunning : JoinReport := ⟨.stillRunning, []⟩

/-- The join found the thread gone. -/
def found (how : Exit) : JoinReport := ⟨.finished, how.lines⟩

/-- The thread had been joined before. -/
def again : JoinReport := ⟨.finished, []⟩

end JoinReport

/-- The senders that a thread holds: one, until it comes to its end. -/
def Course.senders : Course → Nat
  | running => 1
  | ending _ | gone _ => 0

/-- The thread holds no end of its channel unless it runs. -/
lemma Course.senders_eq_zero_iff {c : Course} : c.senders = 0 ↔ c ≠ .running := by
  cases c <;> simp [senders]

/-- The thread can be joined unless it runs. -/
lemma Course.exit?_isSome_iff {c : Course} : (∃ how, c.exit? = some how) ↔ c ≠ .running := by
  cases c <;> simp [exit?]

/-- The handle with which a join waits. -/
def Wait.handle : Wait → Handle
  | channel handle _ | thread handle => handle

namespace Hosting

/-- Whether a join begins. -/
def Deed.isJoin : Deed → Bool
  | join _ => true
  | _ => false

/-- Whether it may be that nothing comes of the deed. -/
def Deed.mayIdle : Deed → Bool
  | elapse _ | look | vanish => true
  | _ => false

/-- Permitted deeds, one after the other. -/
inductive Run : Hosting → List Deed → Hosting → Prop where
  | nil {s} : Run s [] s
  | cons {s d deeds u} :
    s.permits d →
    Run (s.deed d) deeds u →
    Run s (d :: deeds) u

/-- Where the handle of the thread is, and what the joins have reported by then. -/
inductive Stance (name : String) (s : Hosting) : Prop where
  | ready (still : Nat) :
    s.wait = none →
    s.host.handle = some ⟨name⟩ →
    s.reports = List.replicate still .stillRunning →
    Stance name s
  | atChannel (still : Nat) (left : Span) :
    s.wait = some (.channel ⟨name⟩ left) →
    s.host.handle = none →
    s.reports = List.replicate still .stillRunning →
    Stance name s
  | atThread (still : Nat) :
    s.wait = some (.thread ⟨name⟩) →
    s.host.handle = none →
    s.course ≠ .running →
    s.reports = List.replicate still .stillRunning →
    Stance name s
  | joined (still again : Nat) (how : Exit) :
    s.wait = none →
    s.host.handle = none →
    s.course = .gone how →
    s.reports = List.replicate still .stillRunning ++ .found how :: List.replicate again .again →
    Stance name s

/-- Nothing waits in the channel, of which the thread has the sender, and the handle is where it
should be. -/
structure Sound (name : String) (s : Hosting) : Prop where
  channel : s.host.done = ⟨some 0, [], s.course.senders, 1⟩
  stance : Stance name s

/-- All that a deed may come to. -/
inductive Effect (s : Hosting) : Deed → Hosting → Prop where
  | cancels {d} :
    d = .shutDown ∨ d = .cancel →
    Effect s d { s with host := s.host.shutDown }
  | reads :
    Effect s .read { s with reads := s.reads ++ [s.host.cancelled] }
  | begins {handle span} :
    s.wait = none →
    s.host.handle = some handle →
    Effect s (.join span)
      { s with host := { s.host with handle := none }, wait := some (.channel handle span) }
  | repeats {span} :
    s.wait = none →
    s.host.handle = none →
    Effect s (.join span) (s.report .finished [])
  | elapses {handle left span} :
    s.wait = some (.channel handle left) →
    Effect s (.elapse span) { s with wait := some (.channel handle (left.minus span)) }
  | timesOut {handle left} :
    s.wait = some (.channel handle left) →
    left.isZero →
    s.course = .running →
    Effect s .look ({ s with host := s.host.putHandle handle }.report .stillRunning [])
  | learns {handle left} :
    s.wait = some (.channel handle left) →
    s.course ≠ .running →
    Effect s .look { s with wait := some (.thread handle) }
  | finds {handle how} :
    s.wait = some (.thread handle) →
    s.course = .gone how →
    Effect s .look (s.report .finished how.lines)
  | leaves {how} :
    s.course = .running →
    Effect s (.leave how) (s.leave how)
  | vanishes {how} :
    s.course = .ending how →
    Effect s .vanish { s with course := .gone how }
  | stays {d} :
    d.mayIdle →
    Effect s d s

variable {name : String} {s u v : Hosting} {d : Deed} {deeds more : List Deed}
  {handle : Handle} {left : Span}

/-- Deeds after deeds. -/
lemma Run.append (h : Run s deeds u) (k : Run u more v) : Run s (deeds ++ more) v := by
  induction h with
  | nil => exact k
  | cons hp _ ih => exact .cons hp (ih k)

/-- Deeds that lead somewhere lead there through what the first of them lead to. -/
lemma Run.split (h : Run s (deeds ++ more) v) : ∃ u, Run s deeds u ∧ Run u more v := by
  induction deeds generalizing s with
  | nil => exact ⟨s, .nil, h⟩
  | cons d deeds ih =>
    cases h with
    | cons hp hr =>
      obtain ⟨u, hu, hv⟩ := ih hr
      exact ⟨u, .cons hp hu, hv⟩

/-- Without a join nobody looks. -/
lemma look_of_none (hw : s.wait = none) : s.look = s := by
  rw [look, hw]

/-- Who waits for the thread itself does so until it is gone. -/
lemma look_thread (hw : s.wait = some (.thread handle)) :
    (∃ how, s.course = .gone how ∧ s.look = s.report .finished how.lines) ∨
      (∀ how, s.course ≠ .gone how) ∧ s.look = s := by
  rw [look, hw]
  cases s.course with
  | gone how => exact .inl ⟨how, rfl, rfl⟩
  | running => exact .inr ⟨nofun, rfl⟩
  | ending how => exact .inr ⟨nofun, rfl⟩

/-- A thread that is gone is found to have ended. -/
lemma look_gone {how : Exit} (hw : s.wait = some (.thread handle)) (hc : s.course = .gone how) :
    s.look = s.report .finished how.lines := by
  rw [look, hw, hc]

/-- A join takes the handle, if it is there, and waits at the channel. -/
lemma join_ready (hh : s.host.handle = some handle) (span : Span) :
    s.join span =
      { s with host := { s.host with handle := none }, wait := some (.channel handle span) } := by
  rw [join, ReaderHost.takeHandle, hh]

/-- A join without a handle says at once that the thread ended. -/
lemma join_joined (hh : s.host.handle = none) (span : Span) :
    s.join span = s.report .finished [] := by
  rw [join, ReaderHost.takeHandle, hh]
  show report _ _ { s with host := { s.host with handle := none } } = _
  rw [← hh]

/-- While a join waits at the channel, time passes. -/
lemma elapse_channel (hw : s.wait = some (.channel handle left)) (span : Span) :
    s.elapse span = { s with wait := some (.channel handle (left.minus span)) } := by
  rw [elapse, hw]

/-- Deeds that may be done at any time can be done. -/
lemma run_perform (hd : ∀ d ∈ deeds, d.mayIdle) : Run s deeds (s.perform deeds) := by
  induction deeds generalizing s with
  | nil => exact .nil
  | cons d deeds ih =>
    have hp : s.permits d = true := by
      have hi := hd d (List.mem_cons_self ..)
      cases d <;> first | rfl | cases hi
    exact .cons hp (ih fun e he => hd e (List.mem_cons_of_mem _ he))

/-- At the outset all is as it should be. -/
lemma sound_spawn (name : String) : Sound name (spawn name) :=
  ⟨rfl, .ready 0 rfl rfl rfl⟩

namespace Stance

/-- The stance stays as it is when only the thread goes on. -/
lemma transfer (hs : s.Stance name) (hw : u.wait = s.wait) (hh : u.host.handle = s.host.handle)
    (hr : u.reports = s.reports) (hc : s.course ≠ .running → u.course ≠ .running)
    (hg : ∀ how, s.course = .gone how → u.course = .gone how) : u.Stance name := by
  cases hs with
  | ready still hwait hhandle hreports =>
    exact .ready still (hw.trans hwait) (hh.trans hhandle) (hr.trans hreports)
  | atChannel still left hwait hhandle hreports =>
    exact .atChannel still left (hw.trans hwait) (hh.trans hhandle) (hr.trans hreports)
  | atThread still hwait hhandle hcourse hreports =>
    exact .atThread still (hw.trans hwait) (hh.trans hhandle) (hc hcourse) (hr.trans hreports)
  | joined still again how hwait hhandle hcourse hreports =>
    exact .joined still again how (hw.trans hwait) (hh.trans hhandle) (hg how hcourse)
      (hr.trans hreports)

/-- When nobody waits and the handle is there, it is the thread's, and no join found the thread
ended. -/
lemma ready_of (hs : s.Stance name) (hw : s.wait = none) (hh : s.host.handle = some handle) :
    handle = ⟨name⟩ ∧ ∃ still, s.reports = List.replicate still .stillRunning := by
  cases hs with
  | ready still hwait hhandle hreports =>
    exact ⟨Option.some.inj (hh.symm.trans hhandle), still, hreports⟩
  | atChannel still left hwait => cases hwait.symm.trans hw
  | atThread still hwait => cases hwait.symm.trans hw
  | joined still again how hwait hhandle => cases hhandle.symm.trans hh

/-- When nobody waits and the handle is gone, the thread was found to have ended, once. -/
lemma joined_of (hs : s.Stance name) (hw : s.wait = none) (hh : s.host.handle = none) :
    ∃ still again how, s.course = .gone how ∧ s.reports =
      List.replicate still .stillRunning ++ .found how :: List.replicate again .again := by
  cases hs with
  | ready still hwait hhandle => cases hhandle.symm.trans hh
  | atChannel still left hwait => cases hwait.symm.trans hw
  | atThread still hwait => cases hwait.symm.trans hw
  | joined still again how hwait hhandle hcourse hreports =>
    exact ⟨still, again, how, hcourse, hreports⟩

/-- While a join waits at the channel it has the handle, and no join found the thread ended. -/
lemma atChannel_of (hs : s.Stance name) (hw : s.wait = some (.channel handle left)) :
    handle = ⟨name⟩ ∧ s.host.handle = none ∧
      ∃ still, s.reports = List.replicate still .stillRunning := by
  cases hs with
  | ready still hwait => cases hwait.symm.trans hw
  | atChannel still other hwait hhandle hreports =>
    cases hw.symm.trans hwait
    exact ⟨rfl, hhandle, still, hreports⟩
  | atThread still hwait => cases hwait.symm.trans hw
  | joined still again how hwait => cases hwait.symm.trans hw

/-- While a join waits for the thread it has the handle, and the thread is about to end. -/
lemma atThread_of (hs : s.Stance name) (hw : s.wait = some (.thread handle)) :
    s.host.handle = none ∧ s.course ≠ .running ∧
      ∃ still, s.reports = List.replicate still .stillRunning := by
  cases hs with
  | ready still hwait => cases hwait.symm.trans hw
  | atChannel still other hwait => cases hwait.symm.trans hw
  | atThread still hwait hhandle hcourse hreports => exact ⟨hhandle, hcourse, still, hreports⟩
  | joined still again how hwait => cases hwait.symm.trans hw

end Stance

namespace Sound

/-- The channel tells whether the thread has come to its end. -/
lemma receive_eq (hs : s.Sound name) :
    s.host.receive = (if s.course = .running then .empty else .disconnected, s.host) := by
  have hd : s.host.done.receive =
      (if s.course.senders = 0 then .disconnected else .empty, s.host.done) := by
    rw [hs.channel]
    rfl
  rw [ReaderHost.receive, hd]
  by_cases hc : s.course = .running
  · simp [hc, Course.senders]
  · simp [hc, Course.senders_eq_zero_iff.2 hc]

/-- Who looks at the channel goes on waiting only while the thread runs and time is left. -/
lemma look_channel (hs : s.Sound name) (hw : s.wait = some (.channel handle left)) :
    s.look = if s.course = .running then
        if left.isZero then
          { s with host := s.host.putHandle handle }.report .stillRunning []
        else s
      else { s with wait := some (.thread handle) } := by
  rw [look, hw]
  dsimp only
  rw [hs.receive_eq]
  by_cases hc : s.course = .running
  · rw [if_pos hc, if_pos hc, ← hw]
  · rw [if_neg hc, if_neg hc]

/-- A permitted deed has one of the effects that there are. -/
lemma effect (hs : s.Sound name) (hp : s.permits d) : s.Effect d (s.deed d) := by
  cases d with
  | shutDown => exact .cancels (.inl rfl)
  | cancel => exact .cancels (.inr rfl)
  | read => exact .reads
  | join span =>
    have hw : s.wait = none := Option.isNone_iff_eq_none.1 hp
    rw [Hosting.deed]
    cases hh : s.host.handle with
    | none => exact join_joined hh span ▸ .repeats hw hh
    | some handle => exact join_ready hh span ▸ .begins hw hh
  | elapse span =>
    rw [Hosting.deed, elapse]
    cases hw : s.wait with
    | none => exact .stays rfl
    | some w =>
      cases w with
      | channel handle left => exact .elapses hw
      | thread handle => exact .stays rfl
  | look =>
    rw [Hosting.deed]
    cases hw : s.wait with
    | none => exact (look_of_none hw).symm ▸ .stays rfl
    | some w =>
      cases w with
      | channel handle left =>
        rw [hs.look_channel hw]
        split
        · rename_i hc
          split
          · rename_i hz
            exact .timesOut hw hz hc
          · exact .stays rfl
        · rename_i hc
          exact .learns hw hc
      | thread handle =>
        obtain ⟨how, hg, hl⟩ | ⟨-, hl⟩ := look_thread hw
        · exact hl.symm ▸ .finds hw hg
        · exact hl.symm ▸ .stays rfl
  | leave how => exact .leaves (of_decide_eq_true hp)
  | vanish =>
    rw [Hosting.deed, vanish]
    cases hc : s.course with
    | ending how => exact .vanishes hc
    | running | gone how => exact .stays rfl

end Sound

/-- Whatever effect a deed has keeps the host sound. -/
lemma Effect.sound (he : s.Effect d u) (hs : s.Sound name) : u.Sound name := by
  obtain ⟨hd, hst⟩ := hs
  cases he with
  | cancels _ => exact ⟨hd, hst.transfer rfl rfl rfl id fun _ => id⟩
  | reads => exact ⟨hd, hst.transfer rfl rfl rfl id fun _ => id⟩
  | stays _ => exact ⟨hd, hst⟩
  | begins hw hh =>
    obtain ⟨rfl, still, hr⟩ := hst.ready_of hw hh
    exact ⟨hd, .atChannel still _ rfl rfl hr⟩
  | repeats hw hh =>
    obtain ⟨still, again, how, hc, hr⟩ := hst.joined_of hw hh
    refine ⟨hd, .joined still (again + 1) how rfl hh hc ?_⟩
    rw [report, hr, List.replicate_succ', List.append_assoc]
    rfl
  | elapses hw =>
    obtain ⟨rfl, hh, still, hr⟩ := hst.atChannel_of hw
    exact ⟨hd, .atChannel still _ rfl hh hr⟩
  | timesOut hw _ _ =>
    obtain ⟨rfl, hh, still, hr⟩ := hst.atChannel_of hw
    refine ⟨hd, .ready (still + 1) rfl rfl ?_⟩
    rw [report, hr, List.replicate_succ']
    rfl
  | learns hw hc =>
    obtain ⟨rfl, hh, still, hr⟩ := hst.atChannel_of hw
    exact ⟨hd, .atThread still rfl hh hc hr⟩
  | finds hw hc =>
    -- the handle stays out, for there is nothing left to join
    obtain ⟨hh, -, still, hr⟩ := hst.atThread_of hw
    refine ⟨hd, .joined still 0 _ rfl hh hc ?_⟩
    rw [report, hr]
    rfl
  | leaves hc =>
    -- the sender that the thread lets go of was the last one
    refine ⟨?_, hst.transfer rfl rfl rfl (fun _ => nofun) fun how hg => ?_⟩
    · rw [leave, hd, hc]
      rfl
    · cases hg.symm.trans hc
  | vanishes hc =>
    refine ⟨?_, hst.transfer rfl rfl rfl (fun _ => nofun) fun how hg => ?_⟩
    · rw [hd, hc]
      rfl
    · cases hg.symm.trans hc

/-- A deed leaves all as it should be. -/
lemma Sound.deed (hs : s.Sound name) (hp : s.permits d) : (s.deed d).Sound name :=
  (hs.effect hp).sound hs

/-- Deeds leave all as it should be. -/
lemma Sound.run (hs : s.Sound name) (hr : Run s deeds u) : u.Sound name := by
  induction hr with
  | nil => exact hs
  | cons hp _ ih => exact ih (hs.deed hp)

/-- What was done between two hosts shows in the second: whether the token is cancelled and how the
thread came to its end, what was read, and what the joins reported. -/
structure Follows (s : Hosting) (deeds : List Deed) (u : Hosting) : Prop where
  cancelled : u.host.cancelled = true ↔
    s.host.cancelled = true ∨ .shutDown ∈ deeds ∨ .cancel ∈ deeds
  exit : ∀ how, u.course.exit? = some how ↔ s.course.exit? = some how ∨ .leave how ∈ deeds
  reads : ∃ more, u.reads = s.reads ++ more ∧ more.length = deeds.count .read
  reports : ∃ more, u.reports = s.reports ++ more ∧
    more.length + u.wait.toList.length = s.wait.toList.length + deeds.countP Deed.isJoin ∧
    (s.course ≠ .running → ∀ r ∈ more, r.status = .finished)

namespace Follows

/-- Without a deed nothing follows. -/
lemma refl : s.Follows [] s :=
  ⟨by simp, by simp, ⟨[], by simp, rfl⟩, ⟨[], by simp, by simp, fun _ => nofun⟩⟩

/-- A thread that has come to its end does not run again. -/
lemma ne_running (hf : s.Follows deeds u) (hc : s.course ≠ .running) : u.course ≠ .running := by
  obtain ⟨how, he⟩ := Course.exit?_isSome_iff.2 hc
  exact Course.exit?_isSome_iff.1 ⟨how, (hf.exit how).2 (.inl he)⟩

/-- A thread that runs later ran before. -/
lemma running (hf : s.Follows deeds u) (hc : u.course = .running) : s.course = .running := by
  by_contra hn
  exact hf.ne_running hn hc

/-- What follows from deeds and from more deeds follows from all of them. -/
lemma trans (hu : s.Follows deeds u) (hv : u.Follows more v) : s.Follows (deeds ++ more) v := by
  obtain ⟨reads, hur, hul⟩ := hu.reads
  obtain ⟨reads', hvr, hvl⟩ := hv.reads
  obtain ⟨reports, hus, hun, huf⟩ := hu.reports
  obtain ⟨reports', hvs, hvn, hvf⟩ := hv.reports
  refine ⟨?_, ?_, ⟨reads ++ reads', ?_, ?_⟩, ⟨reports ++ reports', ?_, ?_, ?_⟩⟩
  · rw [hv.cancelled, hu.cancelled]
    simp only [List.mem_append]
    tauto
  · intro how
    rw [hv.exit, hu.exit, List.mem_append, or_assoc]
  · rw [hvr, hur, List.append_assoc]
  · rw [List.length_append, List.count_append, hul, hvl]
  · rw [hvs, hus, List.append_assoc]
  · rw [List.length_append, List.countP_append]
    omega
  · -- what comes later is reported of a thread that does not run either
    intro hc r hr
    obtain hr | hr := List.mem_append.1 hr
    · exact huf hc r hr
    · exact hvf (hu.ne_running hc) r hr

end Follows

/-- What changes nothing but how far a join or the thread has got. -/
lemma Follows.quiet (hd : d.mayIdle) (hc : u.host.cancelled = s.host.cancelled)
    (he : u.course.exit? = s.course.exit?) (hr : u.reads = s.reads) (hp : u.reports = s.reports)
    (hw : u.wait.toList.length = s.wait.toList.length) : s.Follows [d] u := by
  refine ⟨?_, ?_, ⟨[], by simp [hr], ?_⟩, ⟨[], by simp [hp], ?_, fun _ => nofun⟩⟩
  all_goals cases d <;> simp_all [Deed.mayIdle, Deed.isJoin]

/-- What ends the join that waits, or the one that begins. -/
lemma Follows.reported {status : JoinStatus} {lines : List LogLine} {host : ReaderHost}
    (hd : d = .look ∨ d.isJoin) (hw : s.wait.toList.length + [d].countP Deed.isJoin = 1)
    (hc : host.cancelled = s.host.cancelled) (hf : s.course ≠ .running → status = .finished) :
    s.Follows [d] ({ s with host }.report status lines) := by
  refine ⟨?_, ?_, ⟨[], by simp [report], ?_⟩, ⟨[⟨status, lines⟩], rfl, hw.symm, ?_⟩⟩
  · cases d <;> simp_all [report, Deed.isJoin]
  · cases d <;> simp_all [report, Deed.isJoin]
  · cases d <;> simp_all [Deed.isJoin]
  · intro hn r hr
    rw [List.mem_singleton.1 hr]
    exact hf hn

/-- What one deed shows. -/
lemma Effect.follows (he : s.Effect d u) : s.Follows [d] u := by
  cases he with
  | cancels hd =>
    obtain rfl | rfl := hd <;>
      exact ⟨by simp [ReaderHost.shutDown], by simp, ⟨[], by simp, rfl⟩,
        ⟨[], by simp, by simp [Deed.isJoin], fun _ => nofun⟩⟩
  | reads =>
    exact ⟨by simp, by simp, ⟨[s.host.cancelled], rfl, rfl⟩,
      ⟨[], by simp, by simp [Deed.isJoin], fun _ => nofun⟩⟩
  | begins hw hh =>
    exact ⟨by simp, by simp, ⟨[], by simp, by simp⟩,
      ⟨[], by simp, by simp [hw, Deed.isJoin], fun _ => nofun⟩⟩
  | repeats hw hh => exact .reported (.inr rfl) (by rw [hw]; rfl) rfl fun _ => rfl
  | elapses hw => exact .quiet rfl rfl rfl rfl rfl (by rw [hw]; rfl)
  | timesOut hw hz hc => exact .reported (.inl rfl) (by rw [hw]; rfl) rfl fun hn => absurd hc hn
  | learns hw hc => exact .quiet rfl rfl rfl rfl rfl (by rw [hw]; rfl)
  | finds hw hc => exact .reported (.inl rfl) (by rw [hw]; rfl) rfl fun _ => rfl
  | leaves hc =>
    exact ⟨by simp [leave], by simp [leave, hc, Course.exit?, eq_comm],
      ⟨[], by simp [leave], by simp⟩,
      ⟨[], by simp [leave], by simp [leave, Deed.isJoin], fun _ => nofun⟩⟩
  | vanishes hc => exact .quiet rfl rfl (by rw [hc]; rfl) rfl rfl rfl
  | stays hd => exact .quiet hd rfl rfl rfl rfl rfl

/-- What follows from each deed follows from a run of them. -/
lemma Sound.follows (hs : s.Sound name) (hr : Run s deeds u) : s.Follows deeds u := by
  induction hr with
  | nil => exact .refl
  | cons hp _ ih => exact (hs.effect hp).follows.trans (ih (hs.deed hp))

namespace Sound

/-- Joins either found the thread running, or one of them found it gone. -/
lemma reports_cases (hs : s.Sound name) :
    (∃ still, s.reports = List.replicate still .stillRunning ∧
      ((s.wait = none ∧ s.host.handle = some ⟨name⟩) ∨ ∃ w, s.wait = some w ∧ w.handle = ⟨name⟩)) ∨
    ∃ still again how, s.wait = none ∧ s.host.handle = none ∧ s.course = .gone how ∧ s.reports =
      List.replicate still .stillRunning ++ .found how :: List.replicate again .again := by
  cases hs.stance with
  | ready still hwait hhandle hreports => exact .inl ⟨still, hreports, .inl ⟨hwait, hhandle⟩⟩
  | atChannel still left hwait _ hreports => exact .inl ⟨still, hreports, .inr ⟨_, hwait, rfl⟩⟩
  | atThread still hwait _ _ hreports => exact .inl ⟨still, hreports, .inr ⟨_, hwait, rfl⟩⟩
  | joined still again how hwait hhandle hcourse hreports =>
    exact .inr ⟨still, again, how, hwait, hhandle, hcourse, hreports⟩

end Sound

/-- What is read from the token at any time is whether it was cancelled before. -/
lemma reads_run {before after : List Deed} (hs : s.Sound name)
    (hr : Run s (before ++ .read :: after) u) (hn : s.reads = []) (hc : s.host.cancelled = false) :
    u.reads[before.count .read]? = some (decide (.shutDown ∈ before ∨ .cancel ∈ before)) := by
  obtain ⟨mid, hm, hu⟩ := hr.split
  have hf := hs.follows hm
  obtain ⟨reads, hreads, hcount⟩ := hf.reads
  cases hu with
  | cons hp hu =>
    obtain ⟨later, hlater, -⟩ := (((hs.run hm).deed hp).follows hu).reads
    have hcancelled : mid.host.cancelled = decide (.shutDown ∈ before ∨ .cancel ∈ before) := by
      rw [Bool.eq_iff_iff, hf.cancelled, hc]
      simp
    rw [hn, List.nil_append] at hreads
    rw [hlater, ← hcount, ← hreads, ← hcancelled]
    show (mid.reads ++ [mid.host.cancelled] ++ later)[mid.reads.length]? = _
    simp

end Hosting

end ChangeFeed
