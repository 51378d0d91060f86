import ChangeFeed.Text.Utf8
import Mathlib.Tactic.Common

/-!
# Text survives its encoding

What `encode` makes of a text is well formed, and reading it gives the text back. The scan is
followed octet by octet: `lead_two`, `lead_three` and `lead_four` say what the first octet of a
character opens, `scan_tail` takes in one further octet, and `scan_utf8EncodeChar` puts the octets
of one character together.
-/

namespace ChangeFeed.Utf8

variable {n value missing : Nat} {low high : UInt8} {rest : Bytes}

/-- The lead of a character of two octets. -/
lemma lead_two (hlow : 2 ≤ n) (hhigh : n < 32) :
    lead (UInt8.ofNat (n + 192)) = .opens ⟨1, 0x80, 0xBF, n⟩ := by
  have h : ∀ m < 32, 2 ≤ m → lead (UInt8.ofNat (m + 192)) = .opens ⟨1, 0x80, 0xBF, m⟩ := by decide
  exact h n hhigh hlow

/-- The bounds of the second octet keep overlong forms and surrogates out. -/
lemma lead_three (hn : n < 16) :
    lead (UInt8.ofNat (n + 224)) =
      .opens ⟨2, if n = 0 then 0xA0 else 0x80, if n = 13 then 0x9F else 0xBF, n⟩ := by
  have h : ∀ m < 16, lead (UInt8.ofNat (m + 224)) =
      .opens ⟨2, if m = 0 then 0xA0 else 0x80, if m = 13 then 0x9F else 0xBF, m⟩ := by decide
  exact h n hn

/-- The bounds of the second octet keep overlong forms and values past U+10FFFF out. -/
lemma lead_four (hn : n < 5) :
    lead (UInt8.ofNat (n + 240)) =
      .opens ⟨3, if n = 0 then 0x90 else 0x80, if n = 4 then 0x8F else 0xBF, n⟩ := by
  have h : ∀ m < 5, lead (UInt8.ofNat (m + 240)) =
      .opens ⟨3, if m = 0 then 0x90 else 0x80, if m = 4 then 0x8F else 0xBF, m⟩ := by decide
  exact h n hn

/-- An octet within the bounds adds six bits to the open character. -/
lemma scan_tail (hn : n < 64) (hlow : low.toNat ≤ n + 128) (hhigh : n + 128 ≤ high.toNat) :
    scan (some ⟨missing, low, high, value⟩) (UInt8.ofNat (n + 128) :: rest) =
      if missing ≤ 1 then some (Char.ofNat (value * 64 + n)) :: scan none rest
      else scan (some ⟨missing - 1, 0x80, 0xBF, value * 64 + n⟩) rest := by
  have hb : (UInt8.ofNat (n + 128)).toNat = n + 128 :=
    UInt8.toNat_ofNat_of_lt' (by show n + 128 < 256; omega)
  have hr : low ≤ UInt8.ofNat (n + 128) ∧ UInt8.ofNat (n + 128) ≤ high := by
    rw [UInt8.le_iff_toNat_le, UInt8.le_iff_toNat_le, hb]
    exact ⟨hlow, hhigh⟩
  rw [scan, if_pos hr, hb, Nat.add_sub_cancel]

/-- An octet after the second one has no bounds of its own. -/
lemma scan_later_tail (hn : n < 64) :
    scan (some ⟨missing, 0x80, 0xBF, value⟩) (UInt8.ofNat (n + 128) :: rest) =
      if missing ≤ 1 then some (Char.ofNat (value * 64 + n)) :: scan none rest
      else scan (some ⟨missing - 1, 0x80, 0xBF, value * 64 + n⟩) rest :=
  scan_tail hn (by show 128 ≤ _; omega) (by show _ ≤ 191; omega)

/-- The octets of a character are scanned as that character. -/
lemma scan_utf8EncodeChar (c : Char) :
    scan none (String.utf8EncodeChar c ++ rest) = some c :: scan none rest := by
  have hc : Char.ofNat c.toNat = c := Char.ofNat_toNat c
  have hv : c.toNat < 0xD800 ∨ 0xDFFF < c.toNat ∧ c.toNat < 0x110000 := c.valid
  obtain ⟨n, hn⟩ : ∃ n, n = c.toNat := ⟨_, rfl⟩
  have he : c.val.toNat = n := hn.symm
  rw [← hn] at hc hv
  unfold String.utf8EncodeChar
  simp only [he]
  split
  · rename_i h
    have hb : (UInt8.ofNat n).toNat = n := UInt8.toNat_ofNat_of_lt' (by show n < 256; omega)
    have hl : lead (UInt8.ofNat n) = .ascii c := by
      rw [lead, if_pos (by rw [UInt8.lt_iff_toNat_lt, hb]; show n < 128; omega), hb, hc]
    rw [List.singleton_append, scan, hl]
  split
  · have hs : n / 64 * 64 + n % 64 = n := by omega
    rw [Nat.mod_eq_of_lt (show n / 64 < 32 by omega), List.cons_append, scan,
      lead_two (by omega) (by omega), List.singleton_append]
    simp only
    rw [scan_later_tail (by omega), if_pos (by omega), hs, hc]
  split
  · have hs : (n / 4096 * 64 + n / 64 % 64) * 64 + n % 64 = n := by omega
    rw [Nat.mod_eq_of_lt (show n / 4096 < 16 by omega), List.cons_append, scan,
      lead_three (by omega), List.cons_append, List.singleton_append]
    simp only
    rw [scan_tail (by omega) (by split <;> [show 160 ≤ _; show 128 ≤ _] <;> omega)
        (by split <;> [show _ ≤ 159; show _ ≤ 191] <;> omega), if_neg (by omega),
      scan_later_tail (by omega), if_pos (by omega), hs, hc]
  · have hs : ((n / 262144 * 64 + n / 4096 % 64) * 64 + n / 64 % 64) * 64 + n % 64 = n := by omega
    rw [Nat.mod_eq_of_lt (show n / 262144 < 8 by omega), List.cons_append, scan,
      lead_four (by omega), List.cons_append, List.cons_append, List.singleton_append]
    simp only
    rw [scan_tail (by omega) (by split <;> [show 144 ≤ _; show 128 ≤ _] <;> omega)
        (by split <;> [show _ ≤ 143; show _ ≤ 191] <;> omega), if_neg (by omega),
      scan_later_tail (by omega), if_neg (by omega),
      scan_later_tail (by omega), if_pos (by omega), hs, hc]

/-- An encoded text is well formed and reads as the text. -/
theorem decode?_encode (s : String) : decode? (encode s) = some s := by
  rw [decode?_eq_some_iff, encode]
  induction s.toList with
  | nil => rfl
  | cons c rest ih => rw [List.flatMap_cons, scan_utf8EncodeChar, ih, List.map_cons]

end ChangeFeed.Utf8
