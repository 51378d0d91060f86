import ChangeFeed.Proofs.Reader.Wait

/-!
# What the joins of a reader thread come to

Whatever is done with a host in whatever order, it keeps its `Promises`: the joins report that the
thread is still running until one of them finds it gone, which alone tells of a panic, and then that
it has ended; and the token is cancelled once the end was asked for. A reader thread that runs a
program goes on as far as it can whenever it is waited for. Whatever is demanded of it, there is a
host to which the same is done (`Hosts.serveAll`), so it keeps the promises too.
-/

namespace ChangeFeed

/-- The line that a move logs. -/
def Move.line? : Move → Option LogLine
  | log line => some line
  | _ => none

/-- What may be demanded of a reader thread: that it end, that it no longer wait to be released,
that it go on as far as it can, or that it be joined. -/
inductive Demand where
  | shutDown
  | release
  | goOn (slotFree : Bool)
  | join (span : Span) (slotFree : Bool)

/-- Of a thread that is gone nothing is logged but how it ended. -/
lemma Exit.filterMap_lines (how : Exit) :
    (how.lines.map .log).filterMap Move.line? = how.lines := by
  cases how <;> rfl

namespace ReaderThread

/-- Meets a demand, which is reported if it is a join. -/
def serve (t : ReaderThread) : Demand → List JoinReport × ReaderThread
  | .shutDown => ([], t.cancel)
  | .release => ([], t.release)
  | .goOn slotFree => ([], (t.run slotFree).2)
  | .join span slotFree =>
    match t.join span slotFree with
    | (status, moves, t) => ([⟨status, moves.filterMap Move.line?⟩], t)

/-- Meets one demand after the other. -/
def serveAll (t : ReaderThread) : List Demand → List JoinReport × ReaderThread
  | [] => ([], t)
  | d :: rest =>
    let (reports, t) := t.serve d
    let (more, t) := serveAll t rest
    (reports ++ more, t)

variable {t : ReaderThread}

/-- A program logs nothing. -/
lemma lines_advance (cancelled letGo slotFree : Bool) (program : List Action) :
    (advance cancelled letGo slotFree program).1.filterMap Move.line? = [] := by
  induction program generalizing slotFree with
  | nil => rfl
  | cons action rest ih =>
    cases action with
    | enqueue e => exact ih slotFree
    | report text =>
      cases slotFree with
      | true => exact ih false
      | false => rfl
    | awaitShutdown =>
      cases cancelled with
      | true => exact ih slotFree
      | false => rfl
    | awaitRelease =>
      cases letGo with
      | true => exact ih slotFree
      | false => rfl
    | panic => rfl

/-- A thread that goes on logs nothing, and one that has ended stays as it is. -/
lemma run_cases (t : ReaderThread) (slotFree : Bool) :
    (t.run slotFree).1.filterMap Move.line? = [] ∧
      (t.run slotFree).2.cancelled = t.cancelled ∧ (t.run slotFree).2.joined = t.joined ∧
      (t.exit = none ∨ (t.run slotFree).2.exit = t.exit) := by
  rw [run]
  cases he : t.exit with
  | none => exact ⟨lines_advance _ _ _ _, rfl, rfl, .inl rfl⟩
  | some how => exact ⟨rfl, rfl, rfl, .inr he⟩

/-- A thread that was joined before has nothing left to do; else it goes on, and is joined if that
was the end of it. -/
lemma join_cases (t : ReaderThread) (span : Span) (slotFree : Bool) :
    (t.joined = true ∧ t.join span slotFree = (.finished, [], t)) ∨
    (t.joined = false ∧ (t.run slotFree).2.exit = none ∧
      t.join span slotFree = (.stillRunning, (t.run slotFree).1, (t.run slotFree).2)) ∨
    ∃ how, t.joined = false ∧ (t.run slotFree).2.exit = some how ∧
      t.join span slotFree = (.finished, (t.run slotFree).1 ++ how.lines.map .log,
        { (t.run slotFree).2 with joined := true }) := by
  rw [join]
  obtain hj | hj := Bool.eq_false_or_eq_true t.joined
  · exact .inl ⟨hj, by rw [if_pos hj]⟩
  · rw [if_neg (by simp [hj])]
    cases he : (t.run slotFree).2.exit with
    | none => exact .inr (.inl ⟨hj, rfl, by simp [he]⟩)
    | some how =>
      refine .inr (.inr ⟨how, hj, rfl, ?_⟩)
      cases how <;> simp [he, Exit.lines]

end ReaderThread

namespace Hosting

variable {name : String} {s u : Hosting} {t : ReaderThread} {exit : Option Exit} {deeds : List Deed}

/-- What a host promises at any point. -/
structure Promises (name : String) (deeds : List Deed) (s : Hosting) : Prop where
  /-- The joins report that the thread is still running, any number of times, and from then on that
  it has ended, which it has. The first of these tells of a panic, if it was one, and nothing else
  is logged. -/
  reports : ∃ still, s.reports = List.replicate still .stillRunning ∨
    ∃ again how, s.course = .gone how ∧ s.reports =
      List.replicate still .stillRunning ++ .found how :: List.replicate again .again
  exit : ∀ how, s.course.exit? = some how ↔ .leave how ∈ deeds
  /-- So a panic is logged once, as soon as it was found. -/
  panics : s.reports.flatMap JoinReport.lines =
    if (∃ r ∈ s.reports, r.status = .finished) ∧ .leave .panicked ∈ deeds
    then [ReaderThread.panicLine] else []
  /-- Each join reports once; the last one may still have to. -/
  calls : s.reports.length + s.wait.toList.length = deeds.countP Deed.isJoin
  /-- Until the thread was found gone its handle is kept for the next join, or the join that waits
  has it. -/
  joinable : (∀ r ∈ s.reports, r.status = .stillRunning) →
    (s.wait = none → s.host.handle = some ⟨name⟩) ∧ ∀ w, s.wait = some w → w.handle = ⟨name⟩
  begins : ∀ span handle, s.host.handle = some handle → s.deed (.join span) =
    { s with host := { s.host with handle := none }, wait := some (.channel handle span) }
  repeats : ∀ span, (∃ r ∈ s.reports, r.status = .finished) →
    s.deed (.join span) = s.report .finished []
  /-- A join gives up only while the thread runs, and only when its time is over. Then the handle is
  put back. -/
  looks : ∀ handle left, s.wait = some (.channel handle left) → s.deed .look =
    if s.course = .running then
      if left.isZero then { s with host := s.host.putHandle handle }.report .stillRunning []
      else s
    else { s with wait := some (.thread handle) }
  /-- A join that waits is never stuck: for it to be over it takes no more than that its time
  passes, or that the thread which came to its end is gone. -/
  answered : ∃ more u, Run s more u ∧ u.wait = none ∧ ∀ d ∈ more, d.mayIdle
  /-- Once the thread has come to its end, no join reports that it is still running. -/
  ended : s.course ≠ .running → ∀ more u, Run s more u → ∃ later, u.reports = s.reports ++ later ∧
    ∀ r ∈ later, r.status = .finished
  /-- While it runs, a join that looks has reported by then just if its time has passed. -/
  patient : ∀ handle left, s.wait = some (.channel handle left) → ∀ more u,
    Run s (more ++ [.look]) u → u.course = .running →
      (s.reports.length < u.reports.length ↔ left.nanoseconds ≤ passed more)
  /-- And once it is gone, a join that begins reports that it has ended when it has looked twice,
  whatever else is done and whatever time it has. -/
  prompt : ∀ how, s.course = .gone how → ∀ span more u, Run s (.join span :: more) u →
    2 ≤ more.count .look → ∃ r later, u.reports = s.reports ++ r :: later ∧ r.status = .finished
  /-- The token is cancelled once the end was asked for, by the owner or by somebody else who has
  the token, and by nothing else that is done. -/
  token : s.host.cancelled = true ↔ .shutDown ∈ deeds ∨ .cancel ∈ deeds
  reads : ∀ before after, deeds = before ++ .read :: after →
    s.reads[before.count .read]? = some (decide (.shutDown ∈ before ∨ .cancel ∈ before))

/-- Reports without lines have no lines. -/
lemma flatMap_lines_replicate (n : Nat) {r : JoinReport} (hr : r.lines = []) :
    (List.replicate n r).flatMap JoinReport.lines = [] := by
  rw [List.flatMap_eq_nil_iff]
  intro x hx
  rw [List.eq_of_mem_replicate hx, hr]

/-- Nothing is logged but how the thread ended that was found gone. -/
lemma Sound.panics (hs : s.Sound name)
    (he : ∀ how, s.course.exit? = some how ↔ .leave how ∈ deeds) :
    s.reports.flatMap JoinReport.lines =
      if (∃ r ∈ s.reports, r.status = .finished) ∧ .leave .panicked ∈ deeds
      then [ReaderThread.panicLine] else [] := by
  obtain ⟨still, hreports, -⟩ | ⟨still, again, how, -, -, hc, hreports⟩ := hs.reports_cases
  · rw [if_neg, hreports, flatMap_lines_replicate still rfl]
    rintro ⟨⟨r, hr, hstatus⟩, -⟩
    rw [hreports] at hr
    rw [List.eq_of_mem_replicate hr] at hstatus
    cases hstatus
  · have hf : ∃ r ∈ s.reports, r.status = .finished := ⟨.found how, by simp [hreports], rfl⟩
    have hl : s.reports.flatMap JoinReport.lines = how.lines := by
      rw [hreports, List.flatMap_append, List.flatMap_cons, flatMap_lines_replicate still rfl,
        flatMap_lines_replicate again rfl, List.append_nil]
      rfl
    rw [hl]
    cases how with
    | panicked => exact (if_pos ⟨hf, (he .panicked).1 (by rw [hc]; rfl)⟩).symm
    | returned =>
      refine (if_neg fun hp => ?_).symm
      have hexit := (he .panicked).2 hp.2
      rw [hc] at hexit
      cases hexit

/-- A host keeps its promises, whatever is done in whatever order. -/
lemma promises (hr : Run (spawn name) deeds s) : Promises name deeds s := by
  have hs := (sound_spawn name).run hr
  have hf := (sound_spawn name).follows hr
  have hexit : ∀ how, s.course.exit? = some how ↔ .leave how ∈ deeds := by
    intro how
    rw [hf.exit]
    exact or_iff_right nofun
  refine
    { reports := ?_, exit := hexit, panics := hs.panics hexit, calls := ?_, joinable := ?_
      begins := fun span handle hh => join_ready hh span, repeats := ?_
      looks := fun handle left hw => hs.look_channel hw, answered := ?_, ended := ?_
      patient := fun handle left hw more u hu hc => hs.patient hw hu hc
      prompt := fun how hc span more u hu hl => hs.prompt hc hu hl, token := ?_, reads := ?_ }
  · obtain ⟨still, hreports, -⟩ | ⟨still, again, how, -, -, hc, hreports⟩ := hs.reports_cases
    · exact ⟨still, .inl hreports⟩
    · exact ⟨still, .inr ⟨again, how, hc, hreports⟩⟩
  · obtain ⟨more, hreports, hn, -⟩ := hf.reports
    rw [hreports]
    exact hn.trans (Nat.zero_add _)
  · intro hall
    obtain ⟨-, -, ⟨hw, hh⟩ | ⟨w, hw, hh⟩⟩ | ⟨still, again, how, -, -, -, hreports⟩ :=
      hs.reports_cases
    · refine ⟨fun _ => hh, fun w hw' => ?_⟩
      cases hw.symm.trans hw'
    · refine ⟨fun hn => ?_, fun w' hw' => ?_⟩
      · cases hw.symm.trans hn
      · rwa [← Option.some.inj (hw.symm.trans hw')]
    · cases hall (.found how) (by simp [hreports])
  · rintro span ⟨r, hr, hstatus⟩
    obtain ⟨still, hreports, -⟩ | ⟨still, again, how, -, hh, -, -⟩ := hs.reports_cases
    · rw [hreports] at hr
      rw [List.eq_of_mem_replicate hr] at hstatus
      cases hstatus
    · exact join_joined hh span
  · obtain ⟨more, hw, hd⟩ := hs.answered
    exact ⟨more, _, run_perform hd, hw, hd⟩
  · intro hc more u hu
    obtain ⟨later, hreports, -, hl⟩ := (hs.follows hu).reports
    exact ⟨later, hreports, hl hc⟩
  · rw [hf.cancelled]
    exact or_iff_right nofun
  · rintro before after rfl
    exact reads_run (sound_spawn name) hr rfl rfl

/-- The host of a reader thread: no join waits, and there is nothing left to join once the thread
was joined. -/
structure Hosts (s : Hosting) (t : ReaderThread) : Prop where
  cancelled : s.host.cancelled = t.cancelled
  course : s.course = t.exit.elim .running .gone
  wait : s.wait = none
  handle : s.host.handle = none ↔ t.joined = true

/-- What becomes of a host whose thread may have ended meanwhile. -/
structure Parts (s : Hosting) (exit : Option Exit) (u : Hosting) : Prop where
  course : u.course = exit.elim .running .gone
  wait : u.wait = s.wait
  reports : u.reports = s.reports
  cancelled : u.host.cancelled = s.host.cancelled
  handle : u.host.handle = s.host.handle

/-- The thread ends if it is to end, and nothing else becomes of the host. -/
lemma parts (hc : s.course = .running ∨ s.course = exit.elim .running .gone) :
    Run s (s.parting exit) (s.perform (s.parting exit)) ∧
      s.Parts exit (s.perform (s.parting exit)) := by
  cases exit with
  | none => exact ⟨.nil, ⟨hc.elim id id, rfl, rfl, rfl, rfl⟩⟩
  | some how =>
    rw [parting]
    by_cases hr : s.course = .running
    · rw [if_pos hr]
      exact ⟨.cons (decide_eq_true hr) (.cons rfl .nil), ⟨rfl, rfl, rfl, rfl, rfl⟩⟩
    · rw [if_neg hr]
      exact ⟨.nil, ⟨hc.resolve_left hr, rfl, rfl, rfl, rfl⟩⟩

/-- Where the thread stands is nothing to a join that begins. -/
lemma course_join (s : Hosting) (span : Span) : (s.join span).course = s.course := by
  rw [join]
  split <;> rfl

/-- Beginning to join does not matter to what the thread does then. -/
lemma parting_join (s : Hosting) (span : Span) (exit : Option Exit) :
    (s.join span).parting exit = s.parting exit := by
  cases exit with
  | none => rfl
  | some how => rw [parting, parting, course_join]

/-- A join that takes its time begins, the thread may end meanwhile, and the time passes. -/
lemma run_call (hw : s.wait = none) (span : Span)
    (hc : s.course = .running ∨ s.course = exit.elim .running .gone) :
    ∃ u, (s.join span).Parts exit u ∧ Run s (.join span :: s.parting exit) u ∧
      Run s (s.call span exit) (u.elapse span).look.look := by
  rw [← course_join s span] at hc
  obtain ⟨hr, hu⟩ := parts hc
  rw [parting_join] at hr hu
  have hj : s.permits (.join span) = true := by simp [permits, hw]
  have ht : Run ((s.join span).perform (s.parting exit)) [.elapse span, .look, .look]
      ((((s.join span).perform (s.parting exit)).elapse span).look).look :=
    run_perform (by simp [Deed.mayIdle])
  exact ⟨_, hu, .cons hj hr, .cons hj (hr.append ht)⟩

/-- The reports of a join in the course of which the thread may end. -/
lemma Sound.call (hs : s.Sound name) (hw : s.wait = none) (span : Span)
    (hc : s.course = .running ∨ s.course = exit.elim .running .gone) :
    ∃ u, Run s (s.call span exit) u ∧ u.course = exit.elim .running .gone ∧ u.wait = none ∧
      u.host.cancelled = s.host.cancelled ∧
      (s.host.handle = none → u.host.handle = none ∧ u.reports = s.reports ++ [.again]) ∧
      (s.host.handle ≠ none → exit = none →
        u.host.handle ≠ none ∧ u.reports = s.reports ++ [.stillRunning]) ∧
      ∀ how, s.host.handle ≠ none → exit = some how →
        u.host.handle = none ∧ u.reports = s.reports ++ [.found how] := by
  obtain ⟨u, hu, hr, hcall⟩ := run_call hw span hc
  have hsu := hs.run hr
  refine ⟨_, hcall, ?_⟩
  cases hh : s.host.handle with
  | none =>
    rw [join_joined hh] at hu
    have he : u.elapse span = u := by rw [elapse, hu.wait]; rfl
    rw [he, look_of_none hu.wait, look_of_none hu.wait]
    refine ⟨hu.course, hu.wait, hu.cancelled, fun _ => ⟨hu.handle.trans hh, hu.reports⟩, ?_, ?_⟩
    · exact fun hn => absurd rfl hn
    · exact fun _ hn => absurd rfl hn
  | some handle =>
    have hsome : some handle ≠ none := Option.some_ne_none handle
    rw [join_ready hh] at hu
    cases exit with
    | none =>
      -- the time is over first, and the handle is put back
      rw [hsu.look_elapse hu.wait hu.course, look_of_none rfl]
      refine ⟨hu.course, rfl, hu.cancelled, fun hn => absurd hn hsome, fun _ _ => ⟨hsome, ?_⟩, ?_⟩
      · rw [report, hu.reports]
        rfl
      · exact fun how _ hn => absurd hn.symm (Option.some_ne_none how)
    | some how =>
      -- the thread is gone by the time that the join looks
      rw [hsu.look_look_elapse hu.wait hu.course]
      refine ⟨hu.course, rfl, hu.cancelled, fun hn => absurd hn hsome, ?_, fun other _ ho => ?_⟩
      · exact fun _ hn => absurd hn (Option.some_ne_none how)
      · obtain rfl := Option.some.inj ho
        refine ⟨hu.handle, ?_⟩
        rw [report, hu.reports]
        rfl

/-- What a thread does that comes to its end has nothing to do with its token. -/
lemma not_mem_parting {d : Deed} (hd : d = .shutDown ∨ d = .cancel) (s : Hosting)
    (exit : Option Exit) : d ∉ s.parting exit := by
  obtain rfl | rfl := hd <;> cases exit <;> simp only [parting] <;> (try split) <;> simp

/-- A join neither tells the reader to end nor cancels it. -/
lemma not_mem_call {d : Deed} (hd : d = .shutDown ∨ d = .cancel) (s : Hosting) (span : Span)
    (exit : Option Exit) : d ∉ s.call span exit := by
  have hp := not_mem_parting hd s exit
  obtain rfl | rfl := hd <;> simpa [call] using hp

/-- What was demanded of the thread is done at the host, and reported alike. -/
structure Meets (s : Hosting) (t : ReaderThread) (demands : List Demand) (deeds : List Deed)
    (u : Hosting) : Prop where
  run : Run s deeds u
  hosts : u.Hosts (t.serveAll demands).2
  reports : u.reports = s.reports ++ (t.serveAll demands).1
  shutDown : .shutDown ∈ deeds ↔ .shutDown ∈ demands
  cancel : .cancel ∉ deeds

/-- At the outset the machine hosts the program. -/
lemma hosts_spawn (name : String) (program : List Action) :
    (spawn name).Hosts (.ofProgram program) :=
  ⟨rfl, rfl, rfl, by simp [spawn, ReaderHost.spawn, ReaderThread.ofProgram]⟩

/-- A demand to join is met by a join. -/
lemma Meets.of_join {span : Span} {slotFree : Bool} {status : JoinStatus} {moves : List Move}
    {t' : ReaderThread} (hr : Run s (s.call span exit) u)
    (hj : t.join span slotFree = (status, moves, t')) (hu : u.Hosts t')
    (hreports : u.reports = s.reports ++ [⟨status, moves.filterMap Move.line?⟩]) :
    s.Meets t [.join span slotFree] (s.call span exit) u := by
  have hserve : t.serveAll [.join span slotFree] =
      ([⟨status, moves.filterMap Move.line?⟩], t') := by
    simp [ReaderThread.serveAll, ReaderThread.serve, hj]
  refine ⟨hr, by rwa [hserve], by rwa [hserve], ?_, not_mem_call (.inr rfl) _ _ _⟩
  exact iff_of_false (not_mem_call (.inl rfl) _ _ _) (by simp)

namespace Hosts

/-- The handle is there unless the reader was joined. -/
lemma handle_ne_none (hh : s.Hosts t) (hj : t.joined = false) : s.host.handle ≠ none := by
  rw [Ne, hh.handle, hj]
  nofun

/-- A thread that goes on may come to its end, if it had not before. -/
lemma course_run (hh : s.Hosts t) (slotFree : Bool) :
    s.course = .running ∨ s.course = (t.run slotFree).2.exit.elim .running .gone := by
  obtain ⟨-, -, -, he | he⟩ := t.run_cases slotFree
  · exact .inl (by rw [hh.course, he]; rfl)
  · exact .inr (by rw [hh.course, he])

/-- A thread that was joined before had ended. -/
lemma exit_run (hs : s.Sound name) (hh : s.Hosts t) (hj : t.joined = true) (slotFree : Bool) :
    (t.run slotFree).2.exit = t.exit := by
  obtain ⟨-, -, how, hc, -⟩ := hs.stance.joined_of hh.wait (hh.handle.2 hj)
  obtain ⟨-, -, -, he | he⟩ := t.run_cases slotFree
  · rw [hh.course, he] at hc
    cases hc
  · exact he

/-- A join of the thread is a join at the host in the course of which the thread ends, if it can. -/
lemma join (hs : s.Sound name) (hh : s.Hosts t) (span : Span) (slotFree : Bool) :
    ∃ deeds u, s.Meets t [.join span slotFree] deeds u := by
  obtain ⟨hlines, hcancelled, hjoined, -⟩ := t.run_cases slotFree
  obtain ⟨u, hr, hc, hw, hk, hagain, hstill, hfound⟩ :=
    hs.call hh.wait span (hh.course_run slotFree)
  have hk' : u.host.cancelled = t.cancelled := hk.trans hh.cancelled
  refine ⟨s.call span (t.run slotFree).2.exit, u, ?_⟩
  obtain ⟨hj, hjoin⟩ | ⟨hj, he, hjoin⟩ | ⟨how, hj, he, hjoin⟩ := t.join_cases span slotFree
  · -- joined before
    obtain ⟨hu, hreports⟩ := hagain (hh.handle.2 hj)
    rw [hh.exit_run hs hj] at hc
    exact .of_join hr hjoin ⟨hk', hc, hw, iff_of_true hu hj⟩ hreports
  · -- still running
    obtain ⟨hu, hreports⟩ := hstill (hh.handle_ne_none hj) he
    refine .of_join hr hjoin ⟨hk'.trans hcancelled.symm, hc, hw, ?_⟩ ?_
    · exact iff_of_false hu (by simp [hjoined, hj])
    · rw [hreports, hlines]
      rfl
  · -- ended by now
    obtain ⟨hu, hreports⟩ := hfound how (hh.handle_ne_none hj) he
    refine .of_join hr hjoin ⟨hk'.trans hcancelled.symm, hc, hw, iff_of_true hu rfl⟩ ?_
    rw [hreports, List.filterMap_append, hlines, how.filterMap_lines]
    rfl

/-- Whatever is demanded of the thread. -/
lemma serve (hs : s.Sound name) (hh : s.Hosts t) (d : Demand) :
    ∃ deeds u, s.Meets t [d] deeds u := by
  cases d with
  | shutDown =>
    refine ⟨[.shutDown], s.deed .shutDown, .cons rfl .nil, ?_, (List.append_nil _).symm,
      by simp, by simp⟩
    exact ⟨rfl, hh.course, hh.wait, hh.handle⟩
  | release =>
    refine ⟨[], s, .nil, ?_, (List.append_nil _).symm, by simp, by simp⟩
    exact ⟨hh.cancelled, hh.course, hh.wait, hh.handle⟩
  | goOn slotFree =>
    obtain ⟨-, hcancelled, hjoined, -⟩ := t.run_cases slotFree
    obtain ⟨hr, hp⟩ := parts (hh.course_run slotFree)
    refine ⟨_, _, hr, ⟨?_, hp.course, hp.wait.trans hh.wait, ?_⟩, ?_, ?_,
      not_mem_parting (.inr rfl) _ _⟩
    · exact hp.cancelled.trans (hh.cancelled.trans hcancelled.symm)
    · rw [hp.handle, hh.handle, ← hjoined]
      rfl
    · exact hp.reports.trans (List.append_nil _).symm
    · exact iff_of_false (not_mem_parting (.inl rfl) _ _) (by simp)
  | join span slotFree => exact hh.join hs span slotFree

/-- Demands are met one after the other. -/
lemma serveAll (hs : s.Sound name) (hh : s.Hosts t) (demands : List Demand) :
    ∃ deeds u, s.Meets t demands deeds u := by
  induction demands generalizing s t with
  | nil => exact ⟨[], s, .nil, hh, (List.append_nil _).symm, by simp, by simp⟩
  | cons d rest ih =>
    obtain ⟨deeds, u, hd⟩ := hh.serve hs d
    obtain ⟨more, v, hm⟩ := ih (hs.run hd.run) hd.hosts
    refine ⟨deeds ++ more, v, hd.run.append hm.run, hm.hosts, ?_, ?_, ?_⟩
    · rw [hm.reports, hd.reports, List.append_assoc]
      simp [ReaderThread.serveAll]
    · rw [List.mem_append, hd.shutDown, hm.shutDown, List.mem_singleton, List.mem_cons]
    · rw [List.mem_append, not_or]
      exact ⟨hd.cancel, hm.cancel⟩

end Hosts

/-- Whatever is done with a host in whatever order, it keeps its promises; and a thread that runs a
program, of which whatever is demanded, is one to which the same may be done at a host. -/
theorem joined_once_gone (name : String) :
    (∀ deeds s, Run (spawn name) deeds s → Promises name deeds s) ∧
      ∀ program demands, ∃ deeds s,
        (spawn name).Meets (ReaderThread.ofProgram program) demands deeds s := by
  constructor
  · intro deeds s hr
    exact promises hr
  · intro program demands
    exact (hosts_spawn name program).serveAll (sound_spawn name) demands

/-- A join gives up, and in the course of the next the thread panics, which is joined once more. -/
def racing : List Deed :=
  [.read, .join (.ofMillis 5), .shutDown, .elapse (.ofMillis 3), .look, .read,
    .elapse (.ofMillis 2), .look, .join (.ofMillis 1), .leave .panicked, .elapse (.ofMillis 1),
    .look, .look, .shutDown, .vanish, .look, .join (.ofMillis 0), .read]

/-- The thread that panics is found gone by the second join, and so is a thread with a program that
is released between two joins. -/
theorem joined_once_gone_racing :
    (∃ s, Run (spawn "r") racing s ∧ s.reports = [.stillRunning, .found .panicked, .again] ∧
      s.reads = [false, true, true] ∧ s.host.cancelled = true) ∧
    ∃ deeds s, Run (spawn "r") deeds s ∧
      s.reports = [.stillRunning, .found .panicked, .again] ∧ s.host.cancelled = false := by
  obtain ⟨hpromises, hmeets⟩ := joined_once_gone "r"
  have hr : Run (spawn "r") racing ((spawn "r").perform racing) := by
    repeat' constructor
  have hp := hpromises racing _ hr
  obtain ⟨deeds, s, hm⟩ := hmeets [.awaitRelease, .panic]
    [.join (.ofMillis 5) true, .release, .join (.ofMillis 0) true, .join (.ofMillis 0) true]
  refine ⟨⟨_, hr, rfl, rfl, hp.token.2 (.inl (by decide))⟩, deeds, s, hm.run, hm.reports, ?_⟩
  exact hm.hosts.cancelled

end Hosting

end ChangeFeed
