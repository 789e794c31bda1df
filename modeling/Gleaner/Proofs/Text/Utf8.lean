import Gleaner.Proofs.Disk.Content
import Gleaner.Text.Utf8

/-! The octets of a text are read as this text. -/

namespace Gleaner.Text

open String (utf8EncodeChar)

theorem octetsOf_ofList (cs : List Char) :
    octetsOf (String.ofList cs) = cs.flatMap utf8EncodeChar := by
  induction cs with
  | nil => exact octetsOf_empty
  | cons c cs ih =>
    have hsingle : octetsOf (String.ofList [c]) = utf8EncodeChar c := by
      simp [octetsOf, ByteArray.toList, toList_loop, List.utf8Encode_singleton]
    rw [List.flatMap_cons, ← ih, ← hsingle, ← octetsOf_append]
    simp

namespace Utf8

variable {b : UInt8} {bs : Octets} {o : Open} {i : Nat}

/-- An octet that goes on with a character that is open. -/
theorem piecesFrom_more (hlow : o.low ≤ b.toNat) (hhigh : b.toNat ≤ o.high) (howed : 1 < o.owed) :
    piecesFrom (some o) i (b :: bs) =
      piecesFrom (some ⟨o.owed - 1, 0x80, 0xBF, o.bits * 64 + b.toNat % 64, o.seen + 1, o.first⟩)
        (i + 1) bs := by
  rw [piecesFrom]
  simp [hlow, hhigh, howed]

theorem piecesFrom_last (hlow : o.low ≤ b.toNat) (hhigh : b.toNat ≤ o.high) (howed : o.owed ≤ 1) :
    piecesFrom (some o) i (b :: bs) =
      .char (Char.ofNat (o.bits * 64 + b.toNat % 64)) :: piecesFrom none (i + 1) bs := by
  rw [piecesFrom]
  simp [hlow, hhigh, howed]

theorem piecesFrom_begin (h : begin? b = .more o) :
    piecesFrom none i (b :: bs) = piecesFrom (some o) (i + 1) bs := by
  simp [piecesFrom, h]

theorem toNat_ofNat {n : Nat} (h : n < 256) : (UInt8.ofNat n).toNat = n := by
  simp
  omega

theorem begin?_two {a : Nat} (hb : b.toNat = 0xC0 + a) (hlow : 2 ≤ a) (hhigh : a < 32) :
    begin? b = .more ⟨1, 0x80, 0xBF, a, 1, b⟩ := by
  interval_cases a <;> simp [begin?, hb]

theorem begin?_three {a : Nat} (hb : b.toNat = 0xE0 + a) (ha : a < 16) :
    begin? b = .more
      ⟨2, if a = 0 then 0xA0 else 0x80, if a = 13 then 0x9F else 0xBF, a, 1, b⟩ := by
  interval_cases a <;> simp [begin?, hb]

theorem begin?_four {a : Nat} (hb : b.toNat = 0xF0 + a) (ha : a < 5) :
    begin? b = .more
      ⟨3, if a = 0 then 0x90 else 0x80, if a = 4 then 0x8F else 0xBF, a, 1, b⟩ := by
  interval_cases a <;> simp [begin?, hb]

section Sizes

variable {n : Nat}

theorem piecesFrom_one (h : n ≤ 0x7F) (i : Nat) (bs : Octets) :
    piecesFrom none i (UInt8.ofNat n :: bs) =
      .char (Char.ofNat n) :: piecesFrom none (i + 1) bs := by
  have hb := toNat_ofNat (n := n) (by omega)
  have hbegin : begin? (UInt8.ofNat n) = .whole (Char.ofNat n) := by
    simp only [begin?, hb]
    rw [if_pos (by omega)]
  simp [piecesFrom, hbegin]

theorem piecesFrom_two (hlow : 0x7F < n) (hhigh : n ≤ 0x7FF) (i : Nat) (bs : Octets) :
    piecesFrom none i (UInt8.ofNat (n / 64 % 32 + 192) :: UInt8.ofNat (n % 64 + 128) :: bs) =
      .char (Char.ofNat n) :: piecesFrom none (i + 1 + 1) bs := by
  have hb := toNat_ofNat (n := n / 64 % 32 + 192) (by omega)
  have hc := toNat_ofNat (n := n % 64 + 128) (by omega)
  have hbits : n / 64 % 32 * 64 + (n % 64 + 128) % 64 = n := by omega
  rw [piecesFrom_begin (begin?_two (a := n / 64 % 32) (by omega) (by omega) (by omega)),
    piecesFrom_last (by simp only [hc]; omega) (by simp only [hc]; omega) (by simp)]
  simp only [hc, hbits]

/-- Three octets never stand for a surrogate, so these numbers are left out. -/
theorem piecesFrom_three (hlow : 0x7FF < n) (hhigh : n ≤ 0xFFFF)
    (hvalid : n < 0xD800 ∨ 0xDFFF < n) (i : Nat) (bs : Octets) :
    piecesFrom none i (UInt8.ofNat (n / 4096 % 16 + 224) :: UInt8.ofNat (n / 64 % 64 + 128) ::
        UInt8.ofNat (n % 64 + 128) :: bs) =
      .char (Char.ofNat n) :: piecesFrom none (i + 1 + 1 + 1) bs := by
  have hb := toNat_ofNat (n := n / 4096 % 16 + 224) (by omega)
  have hc := toNat_ofNat (n := n / 64 % 64 + 128) (by omega)
  have hd := toNat_ofNat (n := n % 64 + 128) (by omega)
  have hbits :
      (n / 4096 % 16 * 64 + (n / 64 % 64 + 128) % 64) * 64 + (n % 64 + 128) % 64 = n := by omega
  rw [piecesFrom_begin (begin?_three (a := n / 4096 % 16) (by omega) (by omega)),
    piecesFrom_more (by simp only [hc]; split <;> omega) (by simp only [hc]; split <;> omega)
      (by simp),
    piecesFrom_last (by simp only [hd]; omega) (by simp only [hd]; omega) (by simp)]
  simp only [hc, hd, hbits]

theorem piecesFrom_four (hlow : 0xFFFF < n) (hhigh : n < 0x110000) (i : Nat) (bs : Octets) :
    piecesFrom none i (UInt8.ofNat (n / 262144 % 8 + 240) :: UInt8.ofNat (n / 4096 % 64 + 128) ::
        UInt8.ofNat (n / 64 % 64 + 128) :: UInt8.ofNat (n % 64 + 128) :: bs) =
      .char (Char.ofNat n) :: piecesFrom none (i + 1 + 1 + 1 + 1) bs := by
  have hb := toNat_ofNat (n := n / 262144 % 8 + 240) (by omega)
  have hc := toNat_ofNat (n := n / 4096 % 64 + 128) (by omega)
  have hd := toNat_ofNat (n := n / 64 % 64 + 128) (by omega)
  have he := toNat_ofNat (n := n % 64 + 128) (by omega)
  have hbits : ((n / 262144 % 8 * 64 + (n / 4096 % 64 + 128) % 64) * 64 +
      (n / 64 % 64 + 128) % 64) * 64 + (n % 64 + 128) % 64 = n := by
    omega
  rw [piecesFrom_begin (begin?_four (a := n / 262144 % 8) (by omega) (by omega)),
    piecesFrom_more (by simp only [hc]; split <;> omega) (by simp only [hc]; split <;> omega)
      (by simp),
    piecesFrom_more (by simp only [hd]; omega) (by simp only [hd]; omega) (by simp),
    piecesFrom_last (by simp only [he]; omega) (by simp only [he]; omega) (by simp)]
  simp only [hc, hd, he, hbits]

end Sizes

/-- The octets of a character are read as the character. -/
theorem piecesFrom_utf8EncodeChar (c : Char) (i : Nat) (bs : Octets) :
    ∃ j, piecesFrom none i (utf8EncodeChar c ++ bs) = .char c :: piecesFrom none j bs := by
  have hvalid : c.toNat < 0xD800 ∨ 0xDFFF < c.toNat ∧ c.toNat < 0x110000 := c.valid
  have hself : Char.ofNat c.toNat = c := Char.ofNat_toNat c
  obtain ⟨n, hn⟩ : ∃ n, c.toNat = n := ⟨_, rfl⟩
  have hval : c.val.toNat = n := hn
  rw [hn] at hvalid hself
  simp only [utf8EncodeChar, hval]
  -- the four sizes of a character
  split
  next h1 => exact ⟨_, hself ▸ piecesFrom_one h1 i bs⟩
  split
  next h1 h2 => exact ⟨_, hself ▸ piecesFrom_two (by omega) h2 i bs⟩
  split
  next h1 h2 h3 => exact ⟨_, hself ▸ piecesFrom_three (by omega) h3 (by omega) i bs⟩
  next h1 h2 h3 => exact ⟨_, hself ▸ piecesFrom_four (by omega) (by omega) i bs⟩

theorem piecesFrom_flatMap (cs : List Char) (i : Nat) :
    piecesFrom none i (cs.flatMap utf8EncodeChar) = cs.map .char := by
  induction cs generalizing i with
  | nil => rfl
  | cons c cs ih =>
    obtain ⟨j, hj⟩ := piecesFrom_utf8EncodeChar c i (cs.flatMap utf8EncodeChar)
    rw [List.flatMap_cons, hj, ih j, List.map_cons]

/-- A text is read back from its octets. -/
theorem decode_octetsOf (s : String) : decode (octetsOf s) = .ok s := by
  have hpieces : pieces (octetsOf s) = s.toList.map .char := by
    rw [← String.ofList_toList (s := s), octetsOf_ofList, String.toList_ofList]
    exact piecesFrom_flatMap s.toList 0
  have hgap : ∀ cs : List Char, firstGap? (cs.map .char) = none := by
    intro cs
    induction cs with
    | nil => rfl
    | cons c cs ih => exact ih
  have hshown : (s.toList.map Piece.char).map Piece.shown = s.toList := by
    rw [List.map_map]
    exact List.map_id' s.toList
  rw [decode, hpieces, hgap, decodeLossy, hpieces, hshown, String.ofList_toList]

end Utf8

/-- A text without carriage returns has its lines as they are to be. -/
theorem unifyLines_of_notMem {cs : List Char} (h : '\r' ∉ cs) : unifyLines cs = cs := by
  induction cs with
  | nil => rfl
  | cons c cs ih =>
    obtain ⟨hc, hcs⟩ := not_or.mp (mt List.mem_cons.mpr h)
    rw [unifyLines, ih hcs]
    · rintro _ rfl
      exact absurd rfl hc
    · rintro rfl
      exact absurd rfl hc

end Gleaner.Text
