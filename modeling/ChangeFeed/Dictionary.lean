/-!
# Dictionaries in key order

Association lists whose keys ascend, so that two dictionaries with the same entries are equal and
an entry has one place. `insert` puts an entry in its place or over the entry of the same key;
`find?_insert` says what a look-up then answers, and `pairwise_keys_insert` that the order is kept.
-/

namespace ChangeFeed

/-- Entries in ascending order of their keys. -/
abbrev Dictionary (κ α : Type) := List (κ × α)

namespace Dictionary

variable {κ α β : Type} [DecidableEq κ] [LT κ] [DecidableLT κ]

/-- The value of a key. -/
def find? (k : κ) : Dictionary κ α → Option α
  | [] => none
  | (l, v) :: rest => if k = l then some v else find? k rest

/-- Puts an entry in its place; an entry of the same key is replaced. -/
def insert (k : κ) (v : α) : Dictionary κ α → Dictionary κ α
  | [] => [(k, v)]
  | (l, w) :: rest =>
    if k = l then (k, v) :: rest
    else if k < l then (k, v) :: (l, w) :: rest
    else (l, w) :: insert k v rest

/-- The dictionary of a list of entries, in which a later entry replaces an earlier one. -/
def ofList (entries : List (κ × α)) : Dictionary κ α :=
  entries.foldl (fun d e => insert e.1 e.2 d) []

/-- The keys, in ascending order. -/
def keys (d : Dictionary κ α) : List κ :=
  d.map Prod.fst

/-- A look-up answers the value inserted last under the key. -/
theorem find?_insert (k l : κ) (v : α) (d : Dictionary κ α) :
    find? l (insert k v d) = if l = k then some v else find? l d := by
  induction d with
  | nil => simp [insert, find?]
  | cons e rest ih =>
    obtain ⟨m, w⟩ := e
    by_cases hk : k = m
    · subst hk
      by_cases hl : l = k <;> simp [insert, find?, hl]
    · by_cases hlt : k < m
      · simp [insert, find?, hk, hlt]
      · by_cases hl : l = m
        · subst hl
          simp [insert, find?, hk, hlt, Ne.symm hk]
        · simp [insert, find?, hk, hlt, hl, ih]

/-- Inserting adds the key and no other. -/
theorem mem_keys_insert {k l : κ} {v : α} {d : Dictionary κ α} :
    l ∈ keys (insert k v d) ↔ l = k ∨ l ∈ keys d := by
  induction d with
  | nil => simp [insert, keys]
  | cons e rest ih =>
    obtain ⟨m, w⟩ := e
    by_cases hk : k = m
    · subst hk
      simp [insert, keys]
    · by_cases hlt : k < m
      · simp [insert, keys, hk, hlt]
      · simp only [keys] at ih
        simp only [insert, hk, hlt, if_false, keys, List.map_cons, List.mem_cons, ih]
        grind

/-- Inserting keeps the keys in strictly ascending order. -/
theorem pairwise_keys_insert (htrans : ∀ {a b c : κ}, a < b → b < c → a < c)
    (htotal : ∀ {a b : κ}, a ≠ b → ¬ a < b → b < a) {k : κ} {v : α} {d : Dictionary κ α}
    (h : (keys d).Pairwise (· < ·)) : (keys (insert k v d)).Pairwise (· < ·) := by
  induction d with
  | nil => simp [insert, keys]
  | cons e rest ih =>
    obtain ⟨m, w⟩ := e
    have hm : ∀ x ∈ keys rest, m < x := (List.pairwise_cons.1 h).1
    have hr : (keys rest).Pairwise (· < ·) := (List.pairwise_cons.1 h).2
    by_cases hk : k = m
    · subst hk
      simpa [insert, keys] using h
    · by_cases hlt : k < m
      · have : ∀ x ∈ keys ((m, w) :: rest), k < x := by
          intro x hx
          rcases List.mem_cons.1 hx with rfl | hx
          · exact hlt
          · exact htrans hlt (hm x hx)
        simp only [insert, hk, hlt, if_false, if_true]
        exact List.pairwise_cons.2 ⟨this, h⟩
      · simp only [insert, hk, hlt, if_false]
        refine List.pairwise_cons.2 ⟨fun x hx => ?_, ih hr⟩
        rcases mem_keys_insert.1 hx with rfl | hx
        · exact htotal hk hlt
        · exact hm x hx

/-- What is in a dictionary after an insertion was inserted or was there before. -/
theorem mem_of_mem_insert {k : κ} {v : α} {e : κ × α} {d : Dictionary κ α}
    (h : e ∈ insert k v d) : e = (k, v) ∨ e ∈ d := by
  induction d with
  | nil => simpa [insert] using h
  | cons x rest ih =>
    obtain ⟨m, w⟩ := x
    rw [insert] at h
    split at h
    · grind
    · split at h <;> grind

/-- Nothing gets into a dictionary that was not put there. -/
theorem mem_of_mem_ofList {e : κ × α} {entries : List (κ × α)} (h : e ∈ ofList entries) :
    e ∈ entries := by
  have hf : ∀ (l : List (κ × α)) (d : Dictionary κ α),
      e ∈ l.foldl (fun d x => insert x.1 x.2 d) d → e ∈ d ∨ e ∈ l := by
    intro l
    induction l with
    | nil => exact fun d h => .inl h
    | cons x rest ih =>
      intro d h
      rcases ih _ h with h | h
      · rcases mem_of_mem_insert h with rfl | h
        · exact .inr List.mem_cons_self
        · exact .inl h
      · exact .inr (List.mem_cons_of_mem _ h)
  rcases hf entries [] h with h | h
  · cases h
  · exact h

/-- The keys of a dictionary that is made of entries are in order. -/
theorem pairwise_keys_ofList (htrans : ∀ {a b c : κ}, a < b → b < c → a < c)
    (htotal : ∀ {a b : κ}, a ≠ b → ¬ a < b → b < a) (entries : List (κ × α)) :
    (keys (ofList entries)).Pairwise (· < ·) := by
  have hf : ∀ (l : List (κ × α)) (d : Dictionary κ α), (keys d).Pairwise (· < ·) →
      (keys (l.foldl (fun d x => insert x.1 x.2 d) d)).Pairwise (· < ·) := by
    intro l
    induction l with
    | nil => exact fun d h => h
    | cons x rest ih => exact fun d h => ih _ (pairwise_keys_insert htrans htotal h)
  exact hf entries [] .nil

/-- A key above all others is inserted at the end. -/
theorem insert_eq_append (hasymm : ∀ {a b : κ}, a < b → ¬ b < a) {k : κ} {v : α}
    {d : Dictionary κ α} (h : ∀ l ∈ keys d, l < k) : insert k v d = d ++ [(k, v)] := by
  induction d with
  | nil => rfl
  | cons e rest ih =>
    obtain ⟨m, w⟩ := e
    have hm : m < k := h m (by simp [keys])
    have hne : k ≠ m := by
      rintro rfl
      exact hasymm hm hm
    rw [insert, if_neg hne, if_neg (hasymm hm), ih fun l hl => h l (List.mem_cons_of_mem _ hl),
      List.cons_append]

/-- Entries that ascend already are a dictionary as they are. -/
theorem ofList_of_pairwise (hasymm : ∀ {a b : κ}, a < b → ¬ b < a) {d : Dictionary κ α}
    (h : (keys d).Pairwise (· < ·)) : ofList d = d := by
  have hf : ∀ (l d : Dictionary κ α), (keys (d ++ l)).Pairwise (· < ·) →
      l.foldl (fun d x => insert x.1 x.2 d) d = d ++ l := by
    intro l
    induction l with
    | nil => exact fun d _ => (List.append_nil d).symm
    | cons x rest ih =>
      intro d h
      have hx : ∀ l ∈ keys d, l < x.1 := by
        intro l hl
        simp only [keys, List.map_append, List.map_cons, List.pairwise_append] at h
        exact h.2.2 l hl x.1 List.mem_cons_self
      have he : d ++ x :: rest = d ++ [x] ++ rest := by simp
      rw [List.foldl_cons, insert_eq_append hasymm hx, he]
      exact ih (d ++ [x]) (he ▸ h)
  exact hf d [] h

end Dictionary

end ChangeFeed
