import ChangeFeed.Proofs.Reader.Host

/-!
# How long a join waits

A join that waits has so much time. While the thread runs it waits for as long as that and no
longer; once the thread is gone it takes two looks at most, whatever else is done meanwhile.
-/

namespace ChangeFeed

/-- How often a join has to look until it is over, once the thread is gone. -/
def Wait.looks : Wait → Nat
  | channel _ _ => 2
  | thread _ => 1

/-- A wait looks at least once. -/
lemma Wait.looks_pos (w : Wait) : 0 < w.looks := by
  cases w <;> exact Nat.succ_pos _

namespace Hosting

/-- The time that passes with a deed. -/
def Deed.nanoseconds : Deed → Nat
  | elapse span => span.nanoseconds
  | _ => 0

/-- The time that passes in the course of deeds. -/
def passed : List Deed → Nat
  | [] => 0
  | d :: deeds => d.nanoseconds + passed deeds

variable {name : String} {s u : Hosting} {d : Deed} {deeds : List Deed}
  {handle : Handle} {left : Span} {w : Wait} {how : Exit}

/-- A report is one more. -/
lemma lt_report (s : Hosting) (status : JoinStatus) (lines : List LogLine) :
    s.reports.length < (s.report status lines).reports.length := by
  rw [report, List.length_append]
  exact Nat.lt_succ_self _

/-- Nothing that was reported is taken back. -/
lemma Sound.reports_le (hs : s.Sound name) (hr : Run s deeds u) :
    s.reports.length ≤ u.reports.length := by
  obtain ⟨more, hreports, -⟩ := (hs.follows hr).reports
  rw [hreports, List.length_append]
  exact Nat.le_add_right ..

/-- No other join begins while one waits. -/
lemma isJoin_of_permits (hw : s.wait = some w) (hp : s.permits d) : d.isJoin = false := by
  cases d with
  | join span =>
    rw [permits, hw] at hp
    cases hp
  | shutDown | cancel | read | elapse _ | look | leave _ | vanish => rfl

namespace Sound

/-- A join whose time passes while the thread runs puts the handle back. -/
lemma look_elapse (hs : s.Sound name) (hw : s.wait = some (.channel handle left))
    (hc : s.course = .running) : (s.elapse left).look =
      { s with host := s.host.putHandle handle }.report .stillRunning [] := by
  have hz : (left.minus left).isZero = true := by simp [Span.minus, Span.isZero]
  have ht : (s.elapse left).Sound name := hs.deed (d := .elapse left) rfl
  rw [elapse_channel hw] at ht ⊢
  rw [ht.look_channel rfl, if_pos hc, if_pos hz]
  rfl

/-- Who waits for a thread that has come to its end is told as soon as it is gone. -/
lemma answered_thread (hw : s.wait = some (.thread handle))
    (hc : s.course ≠ .running) : (s.perform [.vanish, .look]).wait = none := by
  show s.vanish.look.wait = none
  have hv : s.vanish.wait = some (.thread handle) ∧ ∃ how, s.vanish.course = .gone how := by
    rw [vanish]
    cases hcourse : s.course with
    | running => exact absurd hcourse hc
    | ending how => exact ⟨hw, how, rfl⟩
    | gone how => exact ⟨hw, how, hcourse⟩
  obtain ⟨hw, how, hg⟩ := hv
  rw [look_gone hw hg]
  rfl

/-- A join that waits is over when its time is, or else when the thread is gone. -/
lemma answered (hs : s.Sound name) : ∃ more, (s.perform more).wait = none ∧
    ∀ d ∈ more, d.mayIdle := by
  cases hw : s.wait with
  | none => exact ⟨[], hw, nofun⟩
  | some w =>
    cases w with
    | thread handle =>
      obtain ⟨-, hc, -⟩ := hs.stance.atThread_of hw
      exact ⟨_, answered_thread hw hc, by simp [Deed.mayIdle]⟩
    | channel handle left =>
      have hl := hs.look_channel hw
      by_cases hc : s.course = .running
      · refine ⟨[.elapse left, .look], ?_, by simp [Deed.mayIdle]⟩
        show (s.elapse left).look.wait = none
        rw [hs.look_elapse hw hc]
        rfl
      · rw [if_neg hc] at hl
        refine ⟨[.look, .vanish, .look], ?_, by simp [Deed.mayIdle]⟩
        show (s.look.perform [.vanish, .look]).wait = none
        rw [hl]
        exact answered_thread rfl hc

/-- Who waits at the channel while the thread is gone finds that out by looking twice. -/
lemma look_look {how : Exit} (hs : s.Sound name) (hw : s.wait = some (.channel handle left))
    (hc : s.course = .gone how) : s.look.look = s.report .finished how.lines := by
  have hn : s.course ≠ .running := by
    rw [hc]
    nofun
  rw [hs.look_channel hw, if_neg hn]
  exact look_gone (s := { s with wait := some (.thread handle) }) rfl hc

/-- It makes no difference that the time of the join passes besides. -/
lemma look_look_elapse {how : Exit} (hs : s.Sound name)
    (hw : s.wait = some (.channel handle left)) (hc : s.course = .gone how) :
    (s.elapse left).look.look = s.report .finished how.lines := by
  have ht : (s.elapse left).Sound name := hs.deed (d := .elapse left) rfl
  rw [elapse_channel hw] at ht ⊢
  exact ht.look_look rfl hc

/-- While the thread runs, a join that waits goes on with the time that is left to it, and reports
when it looks and none is left. -/
lemma waits (hs : s.Sound name) (hw : s.wait = some (.channel handle left)) (hp : s.permits d)
    (hc : (s.deed d).course = .running) :
    ((s.deed d).wait = some (.channel handle ⟨left.nanoseconds - d.nanoseconds⟩) ∧
      (s.deed d).reports = s.reports) ∨
    (left.nanoseconds = 0 ∧ s.reports.length < (s.deed d).reports.length) := by
  have hj := isJoin_of_permits hw hp
  cases d with
  | join span => cases hj
  | shutDown | cancel | read => exact .inl ⟨hw, rfl⟩
  | elapse span =>
    rw [Hosting.deed, elapse_channel hw]
    exact .inl ⟨rfl, rfl⟩
  | leave how => cases hc
  | vanish =>
    rw [Hosting.deed, vanish]
    cases hcourse : s.course with
    | running | gone how => exact .inl ⟨hw, rfl⟩
    | ending how =>
      rw [Hosting.deed, vanish, hcourse] at hc
      cases hc
  | look =>
    have hn : s.course = .running := (hs.effect hp).follows.running hc
    rw [Hosting.deed, hs.look_channel hw, if_pos hn]
    by_cases hz : left.isZero
    · rw [if_pos hz]
      exact .inr ⟨by simpa [Span.isZero] using hz, lt_report ..⟩
    · rw [if_neg hz]
      exact .inl ⟨hw, rfl⟩

/-- So it goes on until its time has passed, which is before it reports. -/
lemma waits_run (hs : s.Sound name) (hr : Run s deeds u)
    (hw : s.wait = some (.channel handle left)) (hc : u.course = .running) :
    (u.wait = some (.channel handle ⟨left.nanoseconds - passed deeds⟩) ∧ u.reports = s.reports) ∨
      (left.nanoseconds ≤ passed deeds ∧ s.reports.length < u.reports.length) := by
  induction hr generalizing left with
  | nil => exact .inl ⟨hw, rfl⟩
  | @cons s d deeds u hp hr ih =>
    have hs' := hs.deed hp
    have hc' : (s.deed d).course = .running := (hs'.follows hr).running hc
    rw [passed]
    obtain ⟨hw', hreports⟩ | ⟨hz, hlt⟩ := hs.waits hw hp hc'
    · rw [← hreports, ← Nat.sub_sub]
      obtain h | ⟨hle, hlt⟩ := ih hs' hw' hc
      · exact .inl h
      · exact .inr ⟨Nat.sub_le_iff_le_add'.1 hle, hlt⟩
    · exact .inr ⟨hz ▸ Nat.zero_le _, Nat.lt_of_lt_of_le hlt (hs'.reports_le hr)⟩

/-- While the thread runs, a join that looks has reported by then just if its time has passed. -/
lemma patient (hs : s.Sound name) (hw : s.wait = some (.channel handle left))
    (hr : Run s (deeds ++ [.look]) u) (hc : u.course = .running) :
    s.reports.length < u.reports.length ↔ left.nanoseconds ≤ passed deeds := by
  obtain ⟨mid, hm, hu⟩ := hr.split
  have hsm := hs.run hm
  have hn : mid.course = .running := (hsm.follows hu).running hc
  obtain ⟨hw', hreports⟩ | ⟨hle, hlt⟩ := hs.waits_run hm hw hn
  · cases hu with
    | cons hp hu =>
      cases hu
      rw [Hosting.deed, hsm.look_channel hw', if_pos hn]
      by_cases hle : left.nanoseconds ≤ passed deeds
      · rw [if_pos (by simpa [Span.isZero, Nat.sub_eq_zero_iff_le] using hle)]
        rw [← hreports]
        exact iff_of_true (lt_report ..) hle
      · rw [if_neg (by simpa [Span.isZero, Nat.sub_eq_zero_iff_le] using hle), hreports]
        exact iff_of_false (Nat.lt_irrefl _) hle
  · exact iff_of_true (Nat.lt_of_lt_of_le hlt (hsm.reports_le hu)) hle

/-- Once the thread is gone, a join that looks gets on. -/
lemma nears (hs : s.Sound name) (hc : s.course = .gone how) (hw : s.wait = some w)
    (hp : s.permits d) : s.reports.length < (s.deed d).reports.length ∨
      ((s.deed d).course = .gone how ∧
        ∃ w', (s.deed d).wait = some w' ∧ w'.looks + [d].count .look ≤ w.looks) := by
  have hj := isJoin_of_permits hw hp
  cases d with
  | join span => cases hj
  | shutDown | cancel | read => exact .inr ⟨hc, w, hw, Nat.le_refl _⟩
  | elapse span =>
    rw [Hosting.deed]
    cases w with
    | channel handle left =>
      rw [elapse_channel hw]
      exact .inr ⟨hc, _, rfl, Nat.le_refl _⟩
    | thread handle =>
      rw [elapse, hw]
      exact .inr ⟨hc, _, hw, Nat.le_refl _⟩
  | leave how => cases hc.symm.trans (of_decide_eq_true hp)
  | vanish =>
    rw [Hosting.deed, vanish, hc]
    exact .inr ⟨hc, w, hw, Nat.le_refl _⟩
  | look =>
    rw [Hosting.deed]
    cases w with
    | channel handle left =>
      have hn : s.course ≠ .running := fun hn => by cases hc.symm.trans hn
      rw [hs.look_channel hw, if_neg hn]
      exact .inr ⟨hc, _, rfl, Nat.le_refl _⟩
    | thread handle =>
      rw [look_gone hw hc]
      exact .inl (lt_report ..)

/-- So it has reported after as many looks as it takes. -/
lemma told (hs : s.Sound name) (hr : Run s deeds u) (hc : s.course = .gone how)
    (hw : s.wait = some w) (hl : w.looks ≤ deeds.count .look) :
    s.reports.length < u.reports.length := by
  induction hr generalizing w with
  | nil => exact absurd w.looks_pos (Nat.not_lt.2 hl)
  | @cons s d deeds u hp hr ih =>
    have hs' := hs.deed hp
    obtain hlt | ⟨hc', w', hw', hlooks⟩ := hs.nears hc hw hp
    · exact Nat.lt_of_lt_of_le hlt (hs'.reports_le hr)
    · rw [← List.singleton_append, List.count_append] at hl
      have hlt := ih hs' hc' hw' (by omega)
      exact Nat.lt_of_le_of_lt (hs.reports_le (.cons hp .nil)) hlt

/-- A join that begins when the thread is gone finds it so when it has looked twice. -/
lemma prompt (hs : s.Sound name) (hc : s.course = .gone how) {span : Span}
    (hr : Run s (.join span :: deeds) u) (hl : 2 ≤ deeds.count .look) :
    ∃ r later, u.reports = s.reports ++ r :: later ∧ r.status = .finished := by
  have hn : s.course ≠ .running := by
    rw [hc]
    nofun
  obtain ⟨later, hreports, -, hfinished⟩ := (hs.follows hr).reports
  have hlt : s.reports.length < u.reports.length := by
    cases hr with
    | cons hp hr =>
      have hs' := hs.deed hp
      have hw : s.wait = none := Option.isNone_iff_eq_none.1 hp
      rw [Hosting.deed] at hr hs'
      cases hh : s.host.handle with
      | none =>
        rw [join_joined hh] at hr hs'
        exact Nat.lt_of_lt_of_le (lt_report ..) (hs'.reports_le hr)
      | some handle =>
        rw [join_ready hh] at hr hs'
        exact hs'.told hr hc rfl hl
  cases later with
  | nil => simp [hreports] at hlt
  | cons r later => exact ⟨r, later, hreports, hfinished hn r (List.mem_cons_self ..)⟩

end Sound

end Hosting

end ChangeFeed
