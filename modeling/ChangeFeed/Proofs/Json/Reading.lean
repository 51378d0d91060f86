import ChangeFeed.Proofs.Json.RoundTrip
import Mathlib.Data.String.Basic

/-!
# What the reader returns

A value that was read is nested no deeper than the reader goes, its objects are in order, and its
integers fit 64 bits: if no number in it is a double, it is exact. The readers of values, of items
and of members call each other with less fuel, so the three are followed together by induction on
the fuel. A reader that goes deeper reads the same; `Nested` says how deep a reader must go.
-/

namespace ChangeFeed.Json

/-- The value is nested at most so deep, and it is exact if no number in it is a double. -/
structure Sound (depth : Nat) (v : Json) : Prop where
  depth_le : v.depth ≤ depth
  exact_of_integral : v.integral → Exact v

variable {v : Json} {n fuel depth value : Nat} {cs rest : List Char} {items : List Json}
  {members : List (String × Json)}

/-- Items are as deep as the deepest of them. -/
lemma depthItems_le (h : ∀ v ∈ items, v.depth ≤ n) : depthItems items ≤ n := by
  induction items with
  | nil => exact Nat.zero_le n
  | cons v more ih =>
    rw [depthItems]
    exact Nat.max_le.2 ⟨h v List.mem_cons_self, ih fun x hx => h x (List.mem_cons_of_mem _ hx)⟩

/-- Members are as deep as the deepest of them. -/
lemma depthMembers_le (h : ∀ m ∈ members, m.2.depth ≤ n) : depthMembers members ≤ n := by
  induction members with
  | nil => exact Nat.zero_le n
  | cons m more ih =>
    obtain ⟨k, v⟩ := m
    rw [depthMembers]
    exact Nat.max_le.2 ⟨h (k, v) List.mem_cons_self, ih fun x hx => h x (List.mem_cons_of_mem _ hx)⟩

/-- The items of an integral list are integral. -/
lemma integral_of_mem_items (h : integralItems items) (hv : v ∈ items) : v.integral := by
  induction items with
  | nil => cases hv
  | cons w more ih =>
    rw [integralItems, Bool.and_eq_true] at h
    rcases List.mem_cons.1 hv with rfl | hv
    · exact h.1
    · exact ih h.2 hv

/-- The members of an integral object are integral. -/
lemma integral_of_mem_members (h : integralMembers members) {m : String × Json}
    (hm : m ∈ members) : m.2.integral := by
  induction members with
  | nil => cases hm
  | cons w more ih =>
    rw [integralMembers, Bool.and_eq_true] at h
    rcases List.mem_cons.1 hm with rfl | hm
    · exact h.1
    · exact ih h.2 hm

/-- A list of sound values is sound one level higher. -/
lemma sound_arr (h : ∀ v ∈ items, Sound depth v) : Sound (depth + 1) (.arr items) where
  depth_le := Nat.succ_le_succ (depthItems_le fun v hv => (h v hv).depth_le)
  exact_of_integral hi :=
    .arr fun v hv => (h v hv).exact_of_integral (integral_of_mem_items hi hv)

/-- Members that are replaced by later ones need not be looked at. -/
lemma sound_obj (h : ∀ m ∈ members, Sound depth m.2) :
    Sound (depth + 1) (.obj (Dictionary.ofList members)) where
  depth_le := Nat.succ_le_succ (depthMembers_le fun m hm =>
    (h m (Dictionary.mem_of_mem_ofList hm)).depth_le)
  exact_of_integral hi := by
    refine .obj ?_ ?_
    · exact Dictionary.pairwise_keys_ofList String.lt_trans
        (fun hne hlt => lt_of_le_of_ne (not_lt.1 hlt) hne.symm) members
    · intro m hm
      exact (h m (Dictionary.mem_of_mem_ofList hm)).exact_of_integral
        (integral_of_mem_members hi hm)

/-- A significand does not grow beyond the largest one. -/
lemma significand_le (h : value ≤ maxSignificand) : (significand value cs).1 ≤ maxSignificand := by
  induction cs generalizing value with
  | nil => exact h
  | cons c more ih =>
    rw [significand]
    split
    · exact h
    · rename_i hn
      exact ih (Nat.not_lt.1 hn)

/-- A number is a double, or an integer that fits 64 bits. -/
lemma sound_of_value {t : NumberText} (h : t.value = some v) : Sound depth v := by
  unfold NumberText.value at h
  split at h
  · rename_i z _ _ hs
    have hz : z ≤ 18446744073709551615 := by
      have hle : (significand 0 t.whole).1 ≤ maxSignificand := significand_le (Nat.zero_le _)
      rw [hs] at hle
      exact hle
    split at h
    · obtain rfl := Option.some.inj h
      exact ⟨Nat.zero_le _, fun _ => .int (by omega) (by omega)⟩
    · split at h
      · obtain rfl := Option.some.inj h
        exact ⟨Nat.zero_le _, fun hi => absurd hi Bool.false_ne_true⟩
      · rename_i hn
        obtain rfl := Option.some.inj h
        have hm : ¬ 9223372036854775808 < z := fun h => hn (.inr h)
        exact ⟨Nat.zero_le _, fun _ => .int (by omega) (by omega)⟩
  · obtain ⟨x, -, rfl⟩ := Option.map_eq_some_iff.1 h
    exact ⟨Nat.zero_le _, fun hi => absurd hi Bool.false_ne_true⟩

/-- A number that is read is sound. -/
lemma sound_of_readNumber (h : readNumber cs = some (v, rest)) : Sound depth v := by
  simp only [readNumber, Option.bind_eq_bind, Option.bind_eq_some_iff] at h
  obtain ⟨⟨t, more⟩, -, w, hw, he⟩ := h
  obtain ⟨rfl, -⟩ := Prod.mk.inj (Option.some.inj he)
  exact sound_of_value hw

/-- Whatever is read is sound. -/
lemma sound_of_read (fuel : Nat) :
    (∀ depth cs v rest, readValue fuel depth cs = some (v, rest) → Sound depth v) ∧
    (∀ depth cs items rest, readItems fuel depth cs = some (items, rest) →
      ∀ v ∈ items, Sound depth v) ∧
    (∀ depth cs members rest, readMembers fuel depth cs = some (members, rest) →
      ∀ m ∈ members, Sound depth m.2) := by
  induction fuel with
  | zero =>
    refine ⟨?_, ?_, ?_⟩
    · intro depth cs v rest h
      exact absurd h (by simp [readValue])
    · intro depth cs items rest h
      exact absurd h (by simp [readItems])
    · intro depth cs members rest h
      exact absurd h (by simp [readMembers])
  | succ fuel ih =>
    obtain ⟨hvalue, hitems, hmembers⟩ := ih
    have hscalar {d : Nat} {w : Json} (hd : w.depth = 0) (he : Exact w) : Sound d w :=
      ⟨hd ▸ Nat.zero_le d, fun _ => he⟩
    refine ⟨?_, ?_, ?_⟩
    · intro depth cs v rest h
      rw [readValue] at h
      split at h
      · obtain ⟨rfl, -⟩ := Prod.mk.inj (Option.some.inj h)
        exact hscalar rfl .null
      · obtain ⟨rfl, -⟩ := Prod.mk.inj (Option.some.inj h)
        exact hscalar rfl (.bool true)
      · obtain ⟨rfl, -⟩ := Prod.mk.inj (Option.some.inj h)
        exact hscalar rfl (.bool false)
      · obtain ⟨r, -, hr⟩ := Option.map_eq_some_iff.1 h
        obtain ⟨rfl, -⟩ := Prod.mk.inj hr
        exact hscalar rfl (.str _)
      · split at h
        · cases h
        · split at h
          · obtain ⟨rfl, -⟩ := Prod.mk.inj (Option.some.inj h)
            exact sound_arr fun v hv => by cases hv
          · obtain ⟨r, hr, he⟩ := Option.map_eq_some_iff.1 h
            obtain ⟨rfl, -⟩ := Prod.mk.inj he
            exact sound_arr (hitems _ _ _ _ hr)
      · split at h
        · cases h
        · split at h
          · obtain ⟨rfl, -⟩ := Prod.mk.inj (Option.some.inj h)
            show Sound _ (.obj (Dictionary.ofList []))
            exact sound_obj fun m hm => by cases hm
          · obtain ⟨r, hr, he⟩ := Option.map_eq_some_iff.1 h
            obtain ⟨rfl, -⟩ := Prod.mk.inj he
            exact sound_obj (hmembers _ _ _ _ hr)
      · exact sound_of_readNumber h
    · intro depth cs items rest h
      rw [readItems] at h
      split at h
      · cases h
      · rename_i v more hv
        have hs := hvalue _ _ _ _ hv
        split at h
        · obtain ⟨r, hr, he⟩ := Option.map_eq_some_iff.1 h
          obtain ⟨rfl, -⟩ := Prod.mk.inj he
          exact List.forall_mem_cons.2 ⟨hs, hitems _ _ _ _ hr⟩
        · obtain ⟨rfl, -⟩ := Prod.mk.inj (Option.some.inj h)
          exact List.forall_mem_singleton.2 hs
        · cases h
    · intro depth cs members rest h
      rw [readMembers] at h
      split at h
      · split at h
        · cases h
        · split at h
          · split at h
            · cases h
            · rename_i v more hv
              have hs := hvalue _ _ _ _ hv
              split at h
              · obtain ⟨r, hr, he⟩ := Option.map_eq_some_iff.1 h
                obtain ⟨rfl, -⟩ := Prod.mk.inj he
                exact List.forall_mem_cons.2 ⟨hs, hmembers _ _ _ _ hr⟩
              · obtain ⟨rfl, -⟩ := Prod.mk.inj (Option.some.inj h)
                exact List.forall_mem_singleton.2 hs
              · cases h
          · cases h
      · cases h

/-- A reader that goes deeper reads the same. -/
lemma read_succ_depth (fuel : Nat) :
    (∀ depth cs r, readValue fuel depth cs = some r → readValue fuel (depth + 1) cs = some r) ∧
    (∀ depth cs r, readItems fuel depth cs = some r → readItems fuel (depth + 1) cs = some r) ∧
    (∀ depth cs r, readMembers fuel depth cs = some r →
      readMembers fuel (depth + 1) cs = some r) := by
  induction fuel with
  | zero => simp [readValue, readItems, readMembers]
  | succ fuel ih =>
    obtain ⟨hvalue, hitems, hmembers⟩ := ih
    refine ⟨?_, ?_, ?_⟩
    · intro depth cs r h
      rw [readValue] at h ⊢
      split at h
      case h_5 =>
        cases depth with
        | zero => cases h
        | succ depth =>
          simp only at h ⊢
          split at h
          · exact h
          · obtain ⟨x, hx, rfl⟩ := Option.map_eq_some_iff.1 h
            rw [hitems _ _ _ hx, Option.map_some]
      case h_6 =>
        cases depth with
        | zero => cases h
        | succ depth =>
          simp only at h ⊢
          split at h
          · exact h
          · obtain ⟨x, hx, rfl⟩ := Option.map_eq_some_iff.1 h
            rw [hmembers _ _ _ hx, Option.map_some]
      all_goals exact h
    · intro depth cs r h
      rw [readItems] at h ⊢
      split at h
      · cases h
      · rename_i v rest hv
        rw [hvalue _ _ _ hv]
        simp only
        split at h
        · obtain ⟨x, hx, rfl⟩ := Option.map_eq_some_iff.1 h
          rw [hitems _ _ _ hx, Option.map_some]
        · exact h
        · cases h
    · intro depth cs r h
      rw [readMembers] at h ⊢
      split at h
      · split at h
        · cases h
        · split at h
          · split at h
            · cases h
            · rename_i v rest hv
              simp only [hvalue _ _ _ hv]
              split at h
              · obtain ⟨x, hx, rfl⟩ := Option.map_eq_some_iff.1 h
                simp only [hmembers _ _ _ hx, Option.map_some]
              · exact h
              · cases h
          · cases h
      · cases h

/-- A value that is parsed is sound. -/
lemma sound_of_parseWithin (h : parseWithin depth cs = some v) : Sound depth v := by
  rw [parseWithin] at h
  split at h
  · rename_i w more hw
    split at h
    · obtain rfl := Option.some.inj h
      exact (sound_of_read _).1 _ _ _ _ hw
    · cases h
  · cases h

/-- What is parsed at some depth is parsed at every greater one. -/
lemma parseWithin_of_le (hn : depth ≤ n) (h : parseWithin depth cs = some v) :
    parseWithin n cs = some v := by
  induction hn with
  | refl => exact h
  | step _ ih =>
    rw [parseWithin] at ih ⊢
    split at ih
    · rename_i w more hw
      simp only [(read_succ_depth _).1 _ _ _ hw]
      exact ih
    · cases ih

/-- The octets hold JSON in which so many arrays and objects lie inside one another: readers that go
so deep accept them, others do not. -/
def Nested (n : Nat) (bs : Bytes) : Prop :=
  ∃ s, Utf8.decode? bs = some s ∧ (parseWithin n s.toList).isSome ∧
    ∀ m < n, parseWithin m s.toList = none

/-- The value that octets hold is nested at most 127 deep, and exact if no number in it is a
double. -/
theorem sound_of_ofBytes? {bs : Bytes} (h : ofBytes? bs = some v) : Sound maxDepth v := by
  obtain ⟨s, -, hs⟩ := Option.bind_eq_some_iff.1 h
  exact sound_of_parseWithin hs

/-- A value is nested as deep as can be only if the octets that hold it are. -/
theorem nested_of_depth_eq {bs : Bytes} (h : ofBytes? bs = some v) (hd : v.depth = maxDepth) :
    Nested maxDepth bs := by
  obtain ⟨s, hdecode, hs⟩ := Option.bind_eq_some_iff.1 h
  refine ⟨s, hdecode, Option.isSome_of_eq_some hs, ?_⟩
  intro m hm
  cases hw : parseWithin m s.toList with
  | none => rfl
  | some w =>
    have he : some w = some v := (parseWithin_of_le (Nat.le_of_lt hm) hw).symm.trans hs
    obtain rfl := Option.some.inj he
    have := (sound_of_parseWithin hw).depth_le
    omega

/-- Arrays around an empty one, so that `n + 1` of them lie inside one another. -/
def nest : Nat → Json
  | 0 => .arr []
  | n + 1 => .arr [nest n]

/-- Nested lists are read back as they are written. -/
lemma exact_nest (n : Nat) : Exact (nest n) := by
  induction n with
  | zero => exact .arr fun v hv => by cases hv
  | succ n ih => exact .arr (List.forall_mem_singleton.2 ih)

/-- Nested lists are as deep as they are nested. -/
lemma depth_nest (n : Nat) : (nest n).depth = n + 1 := by
  induction n with
  | zero => rfl
  | succ n ih => rw [nest, Json.depth, depthItems, depthItems, ih, Nat.max_zero]

/-- Nested lists are written as brackets. -/
lemma write_nest (n : Nat) :
    write (nest n) = List.replicate (n + 1) '[' ++ List.replicate (n + 1) ']' := by
  induction n with
  | zero => rfl
  | succ n ih =>
    have hopen : List.replicate (n + 2) '[' = '[' :: List.replicate (n + 1) '[' := rfl
    have hclose : List.replicate (n + 2) ']' = List.replicate (n + 1) ']' ++ [']'] :=
      List.replicate_succ'
    rw [nest, write, writeItems, ih, hopen, hclose]
    simp only [List.cons_append, List.append_assoc]

end ChangeFeed.Json
