import DartSurvey.Text.Utf8

/-!
# Cutting bytes between characters

Bytes can be decoded in two parts, if the second part does not start with a byte that carries a
character on (`decodeWhole_append`). What stands at the start of the first part is then the same
with and without the second (`next_append`); a character that is cut off is a fault of the same size
in both cases. ASCII characters are decoded byte by byte (`decodeWhole_ascii`).
-/

namespace DartSurvey.Text.Utf8

/-- The character of an item, if it is one. -/
def Item.char? : Item → Option Char
  | .char c _ => some c
  | .fault _ => none

/-- The number of bytes of an item. -/
def Item.size : Item → Nat
  | .char _ n => n
  | .fault f => f.size

/-- That no character reaches into bytes from before. -/
def StartsClean (bytes : List UInt8) : Prop := ∀ b ∈ bytes.head?, isContinuation b = false

theorem itemsFrom_cons (offset : Nat) (lead : UInt8) (rest : List UInt8) :
    itemsFrom offset (lead :: rest) = (offset, next lead rest) ::
      itemsFrom (offset + (next lead rest).size) (rest.drop ((next lead rest).size - 1)) := by
  rw [itemsFrom]
  cases next lead rest <;> rfl

theorem map_itemsFrom (bytes : List UInt8) (offset offset' : Nat) :
    (itemsFrom offset bytes).map Prod.snd = (itemsFrom offset' bytes).map Prod.snd := by
  induction h : bytes.length using Nat.strongRecOn generalizing bytes offset offset' with
  | _ n ih =>
    cases bytes with
    | nil => simp [itemsFrom]
    | cons lead rest =>
      have hlt : (rest.drop ((next lead rest).size - 1)).length < n := by
        rw [← h, List.length_drop, List.length_cons]
        omega
      rw [itemsFrom_cons, itemsFrom_cons, List.map_cons, List.map_cons, ih _ hlt _ _ _ rfl]

theorem decodeWhole_eq (bytes : List UInt8) (offset : Nat) :
    decodeWhole bytes = ((itemsFrom offset bytes).map Prod.snd).filterMap Item.char? := by
  rw [map_itemsFrom bytes offset 0, List.filterMap_map, decodeWhole, items]
  congr 1
  funext ⟨_, item⟩
  cases item <;> rfl

/-- Bytes are decoded item by item. -/
theorem decodeWhole_cons (lead : UInt8) (rest : List UInt8) :
    decodeWhole (lead :: rest) =
      (next lead rest).char?.toList ++ decodeWhole (rest.drop ((next lead rest).size - 1)) := by
  rw [decodeWhole_eq _ 0, itemsFrom_cons, decodeWhole_eq _ (0 + (next lead rest).size), List.map_cons,
    List.filterMap_cons]
  cases (next lead rest).char? <;> rfl

theorem fitsLead_of_not {lead b : UInt8} (h : isContinuation b = false) : fitsLead lead b = false := by
  simp [fitsLead, h]

/-- The item at the start of bytes is the same, whatever follows them in a clean way. -/
theorem next_append (lead : UInt8) (rest : List UInt8) {more : List UInt8} (h : StartsClean more) :
    (next lead (rest ++ more)).char? = (next lead rest).char? ∧
      (next lead (rest ++ more)).size = (next lead rest).size ∧
      (next lead rest).size ≤ rest.length + 1 := by
  have hmore : ∀ b tail, more = b :: tail → isContinuation b = false := by
    rintro b tail rfl
    exact h b rfl
  unfold next
  by_cases h1 : lead < 0x80
  · simp only [h1, ↓reduceIte, Item.char?, Item.size]
    simp
  by_cases h2 : lead < 0xc2
  · simp only [h1, h2, ↓reduceIte, Item.char?, Item.size]
    simp
  by_cases h3 : lead < 0xe0
  · simp only [h1, h2, h3, ↓reduceIte]
    cases rest with
    | nil =>
      cases more with
      | nil => exact ⟨rfl, rfl, Nat.le_refl 1⟩
      | cons b tail => simp [hmore b tail rfl, Item.char?, Item.size]
    | cons b rest => by_cases hb : isContinuation b = true <;> simp [hb, Item.char?, Item.size]
  by_cases h4 : lead < 0xf0
  · simp only [h1, h2, h3, h4, ↓reduceIte]
    cases rest with
    | nil =>
      cases more with
      | nil => exact ⟨rfl, rfl, Nat.le_refl 1⟩
      | cons b tail => simp [fitsLead_of_not (hmore b tail rfl), Item.char?, Item.size]
    | cons b rest =>
      by_cases hb : fitsLead lead b = true
      · cases rest with
        | nil =>
          cases more with
          | nil => simp [hb, Item.char?, Item.size]
          | cons c tail => simp [hb, hmore c tail rfl, Item.char?, Item.size]
        | cons c rest => by_cases hc : isContinuation c = true <;> simp [hb, hc, Item.char?, Item.size]
      · simp [hb, Item.char?, Item.size]
  by_cases h5 : lead < 0xf5
  · simp only [h1, h2, h3, h4, h5, ↓reduceIte]
    cases rest with
    | nil =>
      cases more with
      | nil => exact ⟨rfl, rfl, Nat.le_refl 1⟩
      | cons b tail => simp [fitsLead_of_not (hmore b tail rfl), Item.char?, Item.size]
    | cons b rest =>
      by_cases hb : fitsLead lead b = true
      · cases rest with
        | nil =>
          cases more with
          | nil => simp [hb, Item.char?, Item.size]
          | cons c tail => simp [hb, hmore c tail rfl, Item.char?, Item.size]
        | cons c rest =>
          by_cases hc : isContinuation c = true
          · cases rest with
            | nil =>
              cases more with
              | nil => simp [hb, hc, Item.char?, Item.size]
              | cons d tail => simp [hb, hc, hmore d tail rfl, Item.char?, Item.size]
            | cons d rest =>
              by_cases hd : isContinuation d = true <;> simp [hb, hc, hd, Item.char?, Item.size]
          · simp [hb, hc, Item.char?, Item.size]
      · simp [hb, Item.char?, Item.size]
  · simp only [h1, h2, h3, h4, h5, ↓reduceIte, Item.char?, Item.size]
    simp

/-- Bytes can be decoded in two parts, if no character reaches from the first into the second. -/
theorem decodeWhole_append (bytes : List UInt8) {more : List UInt8} (h : StartsClean more) :
    decodeWhole (bytes ++ more) = decodeWhole bytes ++ decodeWhole more := by
  induction hlen : bytes.length using Nat.strongRecOn generalizing bytes with
  | _ n ih =>
    cases bytes with
    | nil => simp [decodeWhole, items, itemsFrom]
    | cons lead rest =>
      obtain ⟨hchar, hsize, hle⟩ := next_append lead rest h
      have hlt : (rest.drop ((next lead rest).size - 1)).length < n := by
        rw [← hlen, List.length_drop, List.length_cons]
        omega
      rw [List.cons_append, decodeWhole_cons, hchar, hsize, List.drop_append_of_le_length (by omega),
        ih _ hlt _ rfl, ← List.append_assoc, ← decodeWhole_cons]

/-- Bytes of ASCII characters are decoded one by one. -/
theorem decodeWhole_ascii {bytes : List UInt8} (h : (bytes.all fun b => b < 0x80) = true) :
    decodeWhole bytes = bytes.map fun b => Char.ofNat b.toNat := by
  induction bytes with
  | nil => simp [decodeWhole, items, itemsFrom]
  | cons b bytes ih =>
    rw [List.all_cons, Bool.and_eq_true, decide_eq_true_eq] at h
    have hnext : next b bytes = .char (Char.ofNat b.toNat) 1 := by
      unfold next
      rw [if_pos h.1]
    rw [decodeWhole_cons, hnext, List.map_cons, ← ih h.2]
    rfl

end DartSurvey.Text.Utf8
