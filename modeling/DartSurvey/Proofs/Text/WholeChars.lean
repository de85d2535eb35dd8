import DartSurvey.Proofs.Text.Utf8

/-!
# Whole characters in a range of bytes

The bytes of a character are read as that character, whatever follows them (`decodeWhole_encodeChar`),
so a text is read back from its bytes (`decodeWhole_encode_append`), without a fault (`decode_encode`). Of a
range of these bytes, which may cut a character in two at either end, just the characters are read that lie in
it as a whole (`decodeWhole_range`).
-/

namespace DartSurvey.Text.Utf8

/-! ## Bytes as numbers -/

theorem toNat_toUInt8 {n : Nat} (h : n < 256) : n.toUInt8.toNat = n := by
  rw [Nat.toUInt8, UInt8.toNat_ofNat']
  exact Nat.mod_eq_of_lt h

theorem isContinuation_iff (b : UInt8) : isContinuation b = true ↔ 0x80 ≤ b.toNat ∧ b.toNat < 0xc0 := by
  simp [isContinuation, UInt8.le_iff_toNat_le, UInt8.lt_iff_toNat_lt]

theorem fitsLead_iff (lead b : UInt8) :
    fitsLead lead b = true ↔ (0x80 ≤ b.toNat ∧ b.toNat < 0xc0) ∧
      (lead.toNat = 0xe0 → 0xa0 ≤ b.toNat) ∧ (lead.toNat = 0xed → b.toNat < 0xa0) ∧
      (lead.toNat = 0xf0 → 0x90 ≤ b.toNat) ∧ (lead.toNat = 0xf4 → b.toNat < 0x90) := by
  simp [fitsLead, isContinuation_iff, UInt8.le_iff_toNat_le, UInt8.lt_iff_toNat_lt, ← UInt8.toNat_inj,
    Decidable.imp_iff_not_or, and_assoc]

/-! ## One character -/

/-- That bytes are those of a character: a first byte, from which on they are read as the character
whatever follows, and as none if the last of them are missing, and others that carry it on. -/
structure Spells (c : Char) (lead : UInt8) (rest : List UInt8) : Prop where
  lead_clean : isContinuation lead = false
  carries : ∀ b ∈ rest, isContinuation b = true
  whole : ∀ more, next lead (rest ++ more) = .char c (rest.length + 1)
  cut : ∀ k < rest.length, (next lead (rest.take k)).char? = none

section Spells

variable {lead b c d : UInt8}

theorem not_isContinuation (h : lead.toNat < 0x80 ∨ 0xc0 ≤ lead.toNat) : isContinuation lead = false := by
  rw [← Bool.not_eq_true, isContinuation_iff]
  omega

theorem spells_one (h : lead.toNat < 0x80) : Spells (Char.ofNat lead.toNat) lead [] where
  lead_clean := not_isContinuation (Or.inl h)
  carries := by simp
  whole := by
    intro more
    simp [next, UInt8.lt_iff_toNat_lt, h]
  cut := by
    intro k hk
    cases hk

theorem spells_two (h : 0xc2 ≤ lead.toNat) (h' : lead.toNat < 0xe0) (hb : isContinuation b = true) :
    Spells (Char.ofNat (lead.toNat % 32 * 64 + low b)) lead [b] := by
  have hlow : ¬lead.toNat < 0x80 ∧ ¬lead.toNat < 0xc2 := by omega
  refine ⟨not_isContinuation (Or.inr (by omega)), by simpa using hb, ?_, ?_⟩
  · intro more
    simp [next, UInt8.lt_iff_toNat_lt, hlow, h', hb]
  · intro k hk
    obtain rfl : k = 0 := Nat.lt_one_iff.mp hk
    simp [next, UInt8.lt_iff_toNat_lt, hlow, h', Item.char?]

theorem spells_three (h : 0xe0 ≤ lead.toNat) (h' : lead.toNat < 0xf0) (hb : fitsLead lead b = true)
    (hc : isContinuation c = true) :
    Spells (Char.ofNat ((lead.toNat % 16 * 64 + low b) * 64 + low c)) lead [b, c] := by
  have hlow : ¬lead.toNat < 0x80 ∧ ¬lead.toNat < 0xc2 ∧ ¬lead.toNat < 0xe0 := by omega
  refine ⟨not_isContinuation (Or.inr (by omega)), ?_, ?_, ?_⟩
  · simp [isContinuation_iff, ((fitsLead_iff lead b).mp hb).1, (isContinuation_iff c).mp hc]
  · intro more
    simp [next, UInt8.lt_iff_toNat_lt, hlow, h', hb, hc]
  · intro k hk
    have hk' : k < 2 := hk
    obtain rfl | rfl : k = 0 ∨ k = 1 := by omega
    · simp [next, UInt8.lt_iff_toNat_lt, hlow, h', Item.char?]
    · simp [next, UInt8.lt_iff_toNat_lt, hlow, h', hb, Item.char?]

theorem spells_four (h : 0xf0 ≤ lead.toNat) (h' : lead.toNat < 0xf5) (hb : fitsLead lead b = true)
    (hc : isContinuation c = true) (hd : isContinuation d = true) :
    Spells (Char.ofNat (((lead.toNat % 8 * 64 + low b) * 64 + low c) * 64 + low d)) lead [b, c, d] := by
  have hlow : ¬lead.toNat < 0x80 ∧ ¬lead.toNat < 0xc2 ∧ ¬lead.toNat < 0xe0 ∧ ¬lead.toNat < 0xf0 := by omega
  refine ⟨not_isContinuation (Or.inr (by omega)), ?_, ?_, ?_⟩
  · simp [isContinuation_iff, ((fitsLead_iff lead b).mp hb).1, (isContinuation_iff c).mp hc,
      (isContinuation_iff d).mp hd]
  · intro more
    simp [next, UInt8.lt_iff_toNat_lt, hlow, h', hb, hc, hd]
  · intro k hk
    have hk' : k < 3 := hk
    obtain rfl | rfl | rfl : k = 0 ∨ k = 1 ∨ k = 2 := by omega
    · simp [next, UInt8.lt_iff_toNat_lt, hlow, h', Item.char?]
    · simp [next, UInt8.lt_iff_toNat_lt, hlow, h', hb, Item.char?]
    · simp [next, UInt8.lt_iff_toNat_lt, hlow, h', hb, hc, Item.char?]

end Spells

/-- The bytes that are written for a character spell it. -/
theorem spells_encodeChar (ch : Char) : ∃ lead rest, encodeChar ch = lead :: rest ∧ Spells ch lead rest := by
  have hofNat : ∀ n, n = ch.toNat → Char.ofNat n = ch := by
    rintro n rfl
    exact Char.ofNat_toNat ch
  have hvalid : ch.toNat < 0xd800 ∨ 0xdfff < ch.toNat ∧ ch.toNat < 0x110000 := ch.valid
  have hcarry : ∀ m, isContinuation (0x80 + m % 64).toUInt8 = true ∧
      low (0x80 + m % 64).toUInt8 = m % 64 := by
    intro m
    have hm := toNat_toUInt8 (show 0x80 + m % 64 < 256 by omega)
    rw [isContinuation_iff, low, hm]
    omega
  unfold encodeChar
  by_cases h1 : ch.toNat < 0x80
  · have hlead := toNat_toUInt8 (show ch.toNat < 256 by omega)
    have hspells := spells_one (show ch.toNat.toUInt8.toNat < 0x80 by omega)
    rw [hofNat _ hlead] at hspells
    exact ⟨_, _, if_pos h1, hspells⟩
  by_cases h2 : ch.toNat < 0x800
  · have hlead := toNat_toUInt8 (show 0xc0 + ch.toNat / 64 < 256 by omega)
    have hspells := spells_two (show 0xc2 ≤ (0xc0 + ch.toNat / 64).toUInt8.toNat by omega) (by omega)
      (hcarry ch.toNat).1
    rw [(hcarry _).2, hofNat _ (by omega)] at hspells
    exact ⟨_, _, by rw [if_neg h1, if_pos h2], hspells⟩
  by_cases h3 : ch.toNat < 0x10000
  · have hlead := toNat_toUInt8 (show 0xe0 + ch.toNat / 4096 < 256 by omega)
    have hsecond := toNat_toUInt8 (show 0x80 + ch.toNat / 64 % 64 < 256 by omega)
    have hspells := spells_three (show 0xe0 ≤ (0xe0 + ch.toNat / 4096).toUInt8.toNat by omega) (by omega)
      ((fitsLead_iff _ (0x80 + ch.toNat / 64 % 64).toUInt8).mpr (by omega)) (hcarry ch.toNat).1
    rw [(hcarry _).2, (hcarry _).2, hofNat _ (by omega)] at hspells
    exact ⟨_, _, by rw [if_neg h1, if_neg h2, if_pos h3], hspells⟩
  · have hlead := toNat_toUInt8 (show 0xf0 + ch.toNat / 262144 < 256 by omega)
    have hsecond := toNat_toUInt8 (show 0x80 + ch.toNat / 4096 % 64 < 256 by omega)
    have hspells := spells_four (show 0xf0 ≤ (0xf0 + ch.toNat / 262144).toUInt8.toNat by omega) (by omega)
      ((fitsLead_iff _ (0x80 + ch.toNat / 4096 % 64).toUInt8).mpr (by omega))
      (hcarry (ch.toNat / 64)).1 (hcarry ch.toNat).1
    rw [(hcarry _).2, (hcarry _).2, (hcarry _).2, hofNat _ (by omega)] at hspells
    exact ⟨_, _, by rw [if_neg h1, if_neg h2, if_neg h3], hspells⟩

theorem decodeWhole_nil : decodeWhole [] = [] := by
  simp [decodeWhole, items, itemsFrom]

/-- The bytes of a character are read as that character, whatever follows them. -/
theorem decodeWhole_encodeChar (c : Char) (more : List UInt8) :
    decodeWhole (encodeChar c ++ more) = c :: decodeWhole more := by
  obtain ⟨lead, rest, hbytes, hspells⟩ := spells_encodeChar c
  rw [hbytes, List.cons_append, decodeWhole_cons, hspells.whole]
  simp [Item.char?, Item.size]

/-- Bytes that carry a character on are skipped at the start. -/
theorem decodeWhole_carry {bytes : List UInt8} (h : ∀ b ∈ bytes, isContinuation b = true)
    (more : List UInt8) : decodeWhole (bytes ++ more) = decodeWhole more := by
  induction bytes with
  | nil => rfl
  | cons b bytes ih =>
    have hb := (isContinuation_iff b).mp (h b List.mem_cons_self)
    have hnext : next b (bytes ++ more) = .fault ⟨1, .start⟩ := by
      simp [next, UInt8.lt_iff_toNat_lt, show ¬b.toNat < 0x80 by omega, show b.toNat < 0xc2 by omega]
    rw [List.cons_append, decodeWhole_cons, hnext]
    exact ih fun x hx => h x (List.mem_cons_of_mem b hx)

/-- Of a character whose last bytes are missing nothing is read. -/
theorem decodeWhole_cut (c : Char) {n : Nat} (h : n < (encodeChar c).length) :
    decodeWhole ((encodeChar c).take n) = [] := by
  obtain ⟨lead, rest, hbytes, hspells⟩ := spells_encodeChar c
  rw [hbytes] at h ⊢
  cases n with
  | zero => exact decodeWhole_nil
  | succ k =>
    have hcarries : ∀ b ∈ (rest.take k).drop ((next lead (rest.take k)).size - 1),
        isContinuation b = true :=
      fun b hb => hspells.carries b (List.mem_of_mem_take (List.mem_of_mem_drop hb))
    have hrest := decodeWhole_carry hcarries []
    rw [List.append_nil, decodeWhole_nil] at hrest
    rw [List.take_succ_cons, decodeWhole_cons, hspells.cut k (Nat.lt_of_succ_lt_succ h), hrest]
    rfl

/-! ## Texts -/

theorem encode_append (x y : List Char) : encode (x ++ y) = encode x ++ encode y := List.flatMap_append

theorem size_append (x y : List Char) : size (x ++ y) = size x + size y := by
  rw [size, encode_append, List.length_append]
  rfl

theorem encode_cons (c : Char) (cs : List Char) : encode (c :: cs) = encodeChar c ++ encode cs :=
  List.flatMap_cons

theorem size_cons (c : Char) (cs : List Char) : size (c :: cs) = (encodeChar c).length + size cs := by
  rw [size, encode_cons, List.length_append]
  rfl

/-- The bytes of a part of a text stand at the offset of that part. -/
theorem encode_prefix_drop {cs left part right : List Char} (h : cs = left ++ (part ++ right)) :
    encode part <+: (encode cs).drop (size left) := by
  rw [h, encode_append, size, List.drop_left, encode_append]
  exact List.prefix_append _ _

theorem size_pos {cs : List Char} (h : cs ≠ []) : 0 < size cs := by
  obtain ⟨c, cs, rfl⟩ := List.exists_cons_of_ne_nil h
  obtain ⟨lead, rest, hbytes, -⟩ := spells_encodeChar c
  rw [size_cons, hbytes, List.length_cons]
  omega

/-- A text is read back from its bytes. -/
theorem decodeWhole_encode_append (cs : List Char) (more : List UInt8) :
    decodeWhole (encode cs ++ more) = cs ++ decodeWhole more := by
  induction cs with
  | nil => rfl
  | cons c cs ih => rw [encode_cons, List.append_assoc, decodeWhole_encodeChar, ih, List.cons_append]

/-- The bytes of a text have no fault. -/
theorem decode_encode (cs : List Char) : decode (encode cs) = .ok cs := by
  have hgo : ∀ (bytes : List UInt8) (offset : Nat), decode.go bytes (itemsFrom offset (encode cs)) = .ok cs := by
    intro bytes
    induction cs with
    | nil =>
      intro offset
      simp [encode, itemsFrom, decode.go]
    | cons c cs ih =>
      intro offset
      obtain ⟨lead, rest, hbytes, hspells⟩ := spells_encodeChar c
      have hbehind : (rest ++ encode cs).drop (rest.length + 1 - 1) = encode cs := by simp
      rw [encode_cons, hbytes, List.cons_append, itemsFrom_cons, hspells.whole, decode.go, Item.size, hbehind, ih]
      rfl
  exact hgo (encode cs) 0

/-- No character reaches into a text from before. -/
theorem startsClean_encode (cs : List Char) : StartsClean (encode cs) := by
  intro b hb
  cases cs with
  | nil => cases hb
  | cons c cs =>
    obtain ⟨lead, rest, hbytes, hspells⟩ := spells_encodeChar c
    rw [encode_cons, hbytes] at hb
    cases hb
    exact hspells.lead_clean

/-- Of the first bytes of a text, its first characters are read, as far as all their bytes are there. -/
theorem decodeWhole_take (cs : List Char) (n : Nat) :
    ∃ kept lost, cs = kept ++ lost ∧ decodeWhole ((encode cs).take n) = kept ∧ size kept ≤ n := by
  induction cs generalizing n with
  | nil =>
    refine ⟨[], [], rfl, ?_, Nat.zero_le n⟩
    rw [encode, List.flatMap_nil, List.take_nil, decodeWhole_nil]
  | cons c cs ih =>
    rw [encode_cons, List.take_append]
    by_cases hn : n < (encodeChar c).length
    · refine ⟨[], c :: cs, rfl, ?_, Nat.zero_le n⟩
      rw [Nat.sub_eq_zero_of_le (Nat.le_of_lt hn), List.take_zero, List.append_nil, decodeWhole_cut c hn]
    · obtain ⟨kept, lost, rfl, hkept, hsize⟩ := ih (n - (encodeChar c).length)
      refine ⟨c :: kept, lost, rfl, ?_, ?_⟩
      · rw [List.take_of_length_le (Nat.le_of_not_lt hn), decodeWhole_encodeChar, hkept]
      · rw [size_cons]
        omega

/-- From any offset on, the bytes of a text are the last ones of a character, and those of the
characters behind it. -/
theorem drop_encode {cs : List Char} {a : Nat} (h : a ≤ size cs) :
    ∃ front back bytes, cs = front ++ back ∧ (encode cs).drop a = bytes ++ encode back ∧
      (∀ b ∈ bytes, isContinuation b = true) ∧ a + bytes.length = size front := by
  induction cs generalizing a with
  | nil =>
    obtain rfl : a = 0 := Nat.le_zero.mp h
    exact ⟨[], [], [], rfl, rfl, by simp, rfl⟩
  | cons c cs ih =>
    rw [size_cons] at h
    rw [encode_cons, List.drop_append]
    by_cases hc : (encodeChar c).length ≤ a
    · obtain ⟨front, back, bytes, rfl, hdrop, hcarries, hsize⟩ :=
        ih (show a - (encodeChar c).length ≤ size cs by omega)
      refine ⟨c :: front, back, bytes, rfl, ?_, hcarries, ?_⟩
      · rw [List.drop_eq_nil_of_le hc, List.nil_append, hdrop]
      · rw [size_cons]
        omega
    · rw [Nat.sub_eq_zero_of_le (by omega), List.drop_zero]
      cases a with
      | zero => exact ⟨[], c :: cs, [], rfl, rfl, by simp, rfl⟩
      | succ k =>
        refine ⟨[c], cs, (encodeChar c).drop (k + 1), rfl, rfl, ?_, ?_⟩
        · obtain ⟨lead, rest, hbytes, hspells⟩ := spells_encodeChar c
          rw [hbytes, List.drop_succ_cons]
          exact fun b hb => hspells.carries b (List.mem_of_mem_drop hb)
        · have hone : size [c] = (encodeChar c).length := size_cons c []
          rw [List.length_drop, hone]
          omega

/-- **A range of the bytes of a text.** What is read of a range is a part of the text that lies in it,
also where the range cuts a character in two. -/
theorem decodeWhole_range (cs : List Char) (a b : Nat) :
    ∃ front text back, cs = front ++ (text ++ back) ∧
      decodeWhole (((encode cs).drop a).take (b - a)) = text ∧
      (text ≠ [] → a ≤ size front ∧ size front + size text ≤ b) := by
  by_cases ha : a ≤ size cs
  · obtain ⟨front, back, bytes, rfl, hdrop, hcarries, hsize⟩ := drop_encode ha
    obtain ⟨kept, lost, rfl, hkept, hkeptSize⟩ := decodeWhole_take back (b - a - bytes.length)
    refine ⟨front, kept, lost, rfl, ?_, ?_⟩
    · rw [hdrop, List.take_append, decodeWhole_carry fun x hx => hcarries x (List.mem_of_mem_take hx), hkept]
    · intro hne
      have hpos := size_pos hne
      omega
  · refine ⟨cs, [], [], (List.append_nil _).symm, ?_, fun hne => absurd rfl hne⟩
    rw [List.drop_eq_nil_of_le (Nat.le_of_not_le ha), List.take_nil, decodeWhole_nil]

end DartSurvey.Text.Utf8
