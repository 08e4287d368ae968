import Mathlib.Data.String.Basic

/-!
# The order of texts

Texts are compared character by character.  In UTF-8 a greater character has as many bytes or more
of them, and its bytes are the greater ones (`encode_append_lt`).  So the order of texts is that of
their bytes (`lt_iff_bytes_lt`).
-/

namespace Roster.Text

/-- The bytes of a text in UTF-8. -/
def bytes (s : String) : List UInt8 := s.toByteArray.data.toList

theorem bytes_eq (s : String) : bytes s = s.toList.flatMap String.utf8EncodeChar := by
  rw [bytes, ← String.utf8Encode_toList, List.utf8Encode, List.toList_data_toByteArray]

/-- Bytes are compared as numbers, and what follows decides if they are equal. -/
theorem ofNat_cons_lt {a b : Nat} {u v : List UInt8} (hb : b < 256) (h : a ≤ b)
    (hrest : a = b → u < v) : UInt8.ofNat a :: u < UInt8.ofNat b :: v := by
  rw [List.cons_lt_cons_iff]
  rcases Nat.lt_or_eq_of_le h with hlt | heq
  · left
    rw [UInt8.lt_iff_toNat_lt, UInt8.toNat_ofNat', UInt8.toNat_ofNat']
    omega
  · exact Or.inr ⟨congrArg UInt8.ofNat heq, hrest heq⟩

/-- A character has up to four bytes, with six of its bits in each but the first. -/
theorem encode_cases (c : Char) :
    let n := c.val.toNat
    (n ≤ 127 ∧ String.utf8EncodeChar c = [.ofNat n])
    ∨ (127 < n ∧ n ≤ 2047 ∧
        String.utf8EncodeChar c = [.ofNat (n / 64 % 32 + 192), .ofNat (n % 64 + 128)])
    ∨ (2047 < n ∧ n ≤ 65535 ∧ String.utf8EncodeChar c =
        [.ofNat (n / 4096 % 16 + 224), .ofNat (n / 64 % 64 + 128), .ofNat (n % 64 + 128)])
    ∨ (65535 < n ∧ n < 1114112 ∧ String.utf8EncodeChar c =
        [.ofNat (n / 262144 % 8 + 240), .ofNat (n / 4096 % 64 + 128),
          .ofNat (n / 64 % 64 + 128), .ofNat (n % 64 + 128)]) := by
  intro n
  have hn : n < 1114112 := by
    rcases c.valid with hlow | hhigh
    · exact Nat.lt_trans hlow (by decide)
    · exact hhigh.2
  rw [String.utf8EncodeChar]
  rcases Nat.lt_or_ge 127 n with h1 | h1
  · rcases Nat.lt_or_ge 2047 n with h2 | h2
    · rcases Nat.lt_or_ge 65535 n with h3 | h3
      · refine .inr (.inr (.inr ⟨h3, hn, ?_⟩))
        rw [if_neg (Nat.not_le.2 h1), if_neg (Nat.not_le.2 h2), if_neg (Nat.not_le.2 h3)]
      · refine .inr (.inr (.inl ⟨h2, h3, ?_⟩))
        rw [if_neg (Nat.not_le.2 h1), if_neg (Nat.not_le.2 h2), if_pos h3]
    · refine .inr (.inl ⟨h1, h2, ?_⟩)
      rw [if_neg (Nat.not_le.2 h1), if_pos h2]
  · exact .inl ⟨h1, if_pos h1⟩

/-- The bytes of a character come before those of a greater one, whatever follows. -/
theorem encode_append_lt {c d : Char} (h : c < d) (u v : List UInt8) :
    String.utf8EncodeChar c ++ u < String.utf8EncodeChar d ++ v := by
  have hlt : c.val.toNat < d.val.toNat := h
  -- the first byte tells the length, and is the smaller one if the character has fewer bytes
  rcases encode_cases c with ⟨hc1, hc⟩ | ⟨hc1, hc2, hc⟩ | ⟨hc1, hc2, hc⟩ | ⟨hc1, hc2, hc⟩
  · rcases encode_cases d with ⟨hd1, hd⟩ | ⟨hd1, hd2, hd⟩ | ⟨hd1, hd2, hd⟩ | ⟨hd1, hd2, hd⟩
    all_goals
      rw [hc, hd]
      exact ofNat_cons_lt (by omega) (by omega) fun _ => by omega
  · rcases encode_cases d with ⟨hd1, -⟩ | ⟨-, hd2, hd⟩ | ⟨hd1, hd2, hd⟩ | ⟨hd1, hd2, hd⟩
    · omega
    · rw [hc, hd]
      refine ofNat_cons_lt (by omega) (by omega) fun h1 => ?_
      exact ofNat_cons_lt (by omega) (by omega) fun _ => by omega
    all_goals
      rw [hc, hd]
      exact ofNat_cons_lt (by omega) (by omega) fun _ => by omega
  · rcases encode_cases d with ⟨hd1, -⟩ | ⟨-, hd2, -⟩ | ⟨-, hd2, hd⟩ | ⟨hd1, hd2, hd⟩
    · omega
    · omega
    · rw [hc, hd]
      refine ofNat_cons_lt (by omega) (by omega) fun h1 => ?_
      refine ofNat_cons_lt (by omega) (by omega) fun h2 => ?_
      exact ofNat_cons_lt (by omega) (by omega) fun _ => by omega
    · rw [hc, hd]
      exact ofNat_cons_lt (by omega) (by omega) fun _ => by omega
  · rcases encode_cases d with ⟨hd1, -⟩ | ⟨-, hd2, -⟩ | ⟨-, hd2, -⟩ | ⟨-, hd2, hd⟩
    · omega
    · omega
    · omega
    · rw [hc, hd]
      refine ofNat_cons_lt (by omega) (by omega) fun h1 => ?_
      refine ofNat_cons_lt (by omega) (by omega) fun h2 => ?_
      refine ofNat_cons_lt (by omega) (by omega) fun h3 => ?_
      exact ofNat_cons_lt (by omega) (by omega) fun _ => by omega

theorem encode_lt {l m : List Char} (h : l < m) :
    l.flatMap String.utf8EncodeChar < m.flatMap String.utf8EncodeChar := by
  induction l generalizing m with
  | nil =>
      cases m with
      | nil => exact absurd h (List.lt_irrefl [])
      | cons d rest =>
          rw [List.flatMap_cons]
          cases hd : String.utf8EncodeChar d with
          | nil => exact absurd hd String.utf8EncodeChar_ne_nil
          | cons b bs => exact List.nil_lt_cons ..
  | cons c rest ih =>
      cases m with
      | nil => exact absurd h (List.not_lt_nil _)
      | cons d rest' =>
          rw [List.flatMap_cons, List.flatMap_cons]
          rcases List.cons_lt_cons_iff.1 h with hcd | ⟨rfl, hrest⟩
          · exact encode_append_lt hcd ..
          · exact List.append_left_lt (ih hrest)

/-- The order of texts is that of their bytes. -/
theorem lt_iff_bytes_lt {a b : String} : a < b ↔ bytes a < bytes b := by
  have hmono : ∀ {s t : String}, s < t → bytes s < bytes t := by
    intro s t h
    rw [bytes_eq, bytes_eq]
    exact encode_lt (String.lt_iff_toList_lt.1 h)
  refine ⟨hmono, fun h => ?_⟩
  by_contra hab
  rcases eq_or_gt_of_not_lt hab with rfl | hba
  · exact List.lt_irrefl _ h
  · exact List.lt_asymm h (hmono hba)

theorem compare_eq_lt_iff {a b : String} : compare a b = .lt ↔ bytes a < bytes b :=
  compare_lt_iff_lt.trans lt_iff_bytes_lt

end Roster.Text
