/-
# UTF-8 read and written

Reading and writing are inverse to each other: the bytes of a text are read as that
text (`decode_encode`), and bytes that are read as a text are the bytes of it
(`encode_of_decode`).  So a payload that is the UTF-8 form of no text is a fault, and
no other payload is (`isValidUTF8_iff`).  Texts stand in the order of their bytes
(`encode_lt_iff`).

Both directions go character by character.  The table `lead` has a row for each range
of first bytes that calls for something special of the second; here the rows of one
length are drawn together (`lead_three`, `lead_four`), with the special cases as
conditions on the bounds, which leaves one case for each length.

The writer is the one of the standard library (`encodeChar_eq`), so that UTF-8 means
here what it means there.
-/
import EnvSync.Text.Utf8

namespace EnvSync.Text.Utf8

/-! ## The writer -/

theorem isScalar (c : Char) : c.toNat < 0xD800 ∨ 0xDFFF < c.toNat ∧ c.toNat < 0x110000 :=
  c.valid

theorem encodeChar_eq (c : Char) : encodeChar c = String.utf8EncodeChar c := by
  have hv : c.val.toNat = c.toNat := rfl
  have hlt := isScalar c
  have h1 : (c.toNat ≤ 0x7f) = (c.toNat < 0x80) := propext (by omega)
  have h2 : (c.toNat ≤ 0x7ff) = (c.toNat < 0x800) := propext (by omega)
  have h3 : (c.toNat ≤ 0xffff) = (c.toNat < 0x10000) := propext (by omega)
  have htail : ∀ n, 0x80 + n % 0x40 = n % 0x40 + 0x80 := fun n => Nat.add_comm _ _
  simp only [encodeChar, String.utf8EncodeChar, hv, h1, h2, h3, htail]
  split
  · rfl
  · split
    · have hlead : 0xC0 + c.toNat / 0x40 = c.toNat / 0x40 % 0x20 + 0xC0 := by omega
      rw [hlead]
    · split
      · have hlead : 0xE0 + c.toNat / 0x1000 = c.toNat / 0x1000 % 0x10 + 0xE0 := by omega
        rw [hlead]
      · have hlead : 0xF0 + c.toNat / 0x40000 = c.toNat / 0x40000 % 0x8 + 0xF0 := by omega
        rw [hlead]

theorem encodeChar_ne_nil (c : Char) : encodeChar c ≠ [] := by
  simp only [encodeChar]
  repeat' split
  all_goals exact List.cons_ne_nil _ _

/-- The bytes of a text are those that the standard library keeps of it. -/
theorem toByteArray_encode (s : String) : (encode s).toByteArray = s.toUTF8 := by
  have h : encode s = s.toList.flatMap String.utf8EncodeChar := by
    rw [encode]
    exact congrArg (fun f => s.toList.flatMap f) (funext encodeChar_eq)
  rw [h]
  exact String.utf8Encode_toList

/-! ## The table -/

theorem lead_one {b : UInt8} (h : b.toNat < 0x80) : lead b = some (b.toNat, []) := by
  simp only [lead, if_pos h]

theorem lead_two {b : UInt8} (h : 0xC2 ≤ b.toNat) (h' : b.toNat < 0xE0) :
    lead b = some (b.toNat - 0xC0, [(0x80, 0xBF)]) := by
  simp only [lead]
  rw [if_neg (by omega), if_neg (by omega), if_pos h']

theorem lead_three {b : UInt8} (h : 0xE0 ≤ b.toNat) (h' : b.toNat < 0xF0) :
    lead b = some (b.toNat - 0xE0, [(if b.toNat = 0xE0 then 0xA0 else 0x80,
      if b.toNat = 0xED then 0x9F else 0xBF), (0x80, 0xBF)]) := by
  simp only [lead]
  rw [if_neg (by omega), if_neg (by omega), if_neg (by omega)]
  split
  · next he => rw [he]; rfl
  · split
    · next he => rw [he]
    · rfl

theorem lead_four {b : UInt8} (h : 0xF0 ≤ b.toNat) (h' : b.toNat < 0xF5) :
    lead b = some (b.toNat - 0xF0, [(if b.toNat = 0xF0 then 0x90 else 0x80,
      if b.toNat = 0xF4 then 0x8F else 0xBF), (0x80, 0xBF), (0x80, 0xBF)]) := by
  simp only [lead]
  rw [if_neg (by omega), if_neg (by omega), if_neg (by omega), if_neg (by omega), if_neg (by omega),
    if_neg (by omega)]
  split
  · next he => rw [he]; rfl
  · split
    · next he => rw [if_neg (by omega)]
    · next he => rw [if_pos (by omega), if_pos (by omega), show b.toNat - 0xF0 = 4 by omega]

theorem lead_eq_none {b : UInt8} (h : 0x80 ≤ b.toNat ∧ b.toNat < 0xC2 ∨ 0xF5 ≤ b.toNat) :
    lead b = none := by
  simp only [lead]
  rw [if_neg (by omega)]
  split
  · rfl
  · rw [if_neg (by omega), if_neg (by omega), if_neg (by omega), if_neg (by omega), if_neg (by omega),
      if_neg (by omega), if_neg (by omega)]

/-! ## One byte at a time

What one byte does to a character that is being read: it is the first one, one of those
between, or the last, which gives the character and starts the next. -/

variable {i j bits lo hi : Nat} {due : Due} {b : UInt8} {bytes : List UInt8} {cs : List Char}

theorem decodeFrom_first {d : Nat × Nat} (h : lead b = some (bits, d :: due)) :
    decodeFrom i i 0 [] (b :: bytes) = decodeFrom i (i + 1) bits (d :: due) bytes := by
  simp only [decodeFrom, advance, h]

theorem decodeFrom_only (h : lead b = some (bits, [])) :
    decodeFrom i i 0 [] (b :: bytes) =
      (decodeFrom (i + 1) (i + 1) 0 [] bytes).map (Char.ofNat bits :: ·) := by
  simp only [decodeFrom, advance, h]

theorem decodeFrom_next {d : Nat × Nat} (h : lo ≤ b.toNat ∧ b.toNat ≤ hi) :
    decodeFrom i j bits ((lo, hi) :: d :: due) (b :: bytes) =
      decodeFrom i (j + 1) (bits * 0x40 + (b.toNat - 0x80)) (d :: due) bytes := by
  simp only [decodeFrom, advance, if_pos h]

theorem decodeFrom_last (h : lo ≤ b.toNat ∧ b.toNat ≤ hi) :
    decodeFrom i j bits [(lo, hi)] (b :: bytes) =
      (decodeFrom (j + 1) (j + 1) 0 [] bytes).map
        (Char.ofNat (bits * 0x40 + (b.toNat - 0x80)) :: ·) := by
  simp only [decodeFrom, advance, if_pos h]

/-- Where a byte is due and all is well, there is one, in the range. -/
theorem exists_of_due (h : decodeFrom i j bits ((lo, hi) :: due) bytes = .ok cs) :
    ∃ b rest, bytes = b :: rest ∧ lo ≤ b.toNat ∧ b.toNat ≤ hi := by
  cases bytes with
  | nil => simp [decodeFrom] at h
  | cons b rest =>
      by_cases hb : lo ≤ b.toNat ∧ b.toNat ≤ hi
      · exact ⟨b, rest, rfl, hb.1, hb.2⟩
      · simp [decodeFrom, advance, if_neg hb] at h

theorem exists_of_map {f : Except Fault (List Char)} {c : Char}
    (h : f.map (c :: ·) = .ok cs) : ∃ cs', cs = c :: cs' ∧ f = .ok cs' := by
  cases f with
  | error e => cases h
  | ok cs' => cases h; exact ⟨cs', rfl, rfl⟩

/-! ## One character at a time -/

theorem toNat_ofNat (n : Nat) (h : n < 0x100) : (UInt8.ofNat n).toNat = n := by
  rw [UInt8.toNat_ofNat']
  exact Nat.mod_eq_of_lt h

theorem decodeFrom_encodeChar (c : Char) (i : Nat) (bytes : List UInt8) :
    ∃ j, decodeFrom i i 0 [] (encodeChar c ++ bytes) =
      (decodeFrom j j 0 [] bytes).map (c :: ·) := by
  have hc := isScalar c
  have hv : ∀ v, v = c.toNat → Char.ofNat v = c := fun v hv => hv ▸ Char.ofNat_toNat c
  simp only [encodeChar]
  split
  · next h =>
    refine ⟨i + 1, ?_⟩
    have hb := toNat_ofNat c.toNat (by omega)
    rw [List.cons_append, decodeFrom_only (lead_one (by omega)), hv _ hb]
    rfl
  · split
    · next h h' =>
      refine ⟨i + 1 + 1, ?_⟩
      have h1 := toNat_ofNat (0xC0 + c.toNat / 0x40) (by omega)
      have h2 := toNat_ofNat (0x80 + c.toNat % 0x40) (by omega)
      rw [List.cons_append, decodeFrom_first (lead_two (by omega) (by omega)), List.cons_append,
        decodeFrom_last (by omega), hv _ (by omega)]
      rfl
    · split
      · next h h' h'' =>
        refine ⟨i + 1 + 1 + 1, ?_⟩
        have h1 := toNat_ofNat (0xE0 + c.toNat / 0x1000) (by omega)
        have h2 := toNat_ofNat (0x80 + c.toNat / 0x40 % 0x40) (by omega)
        have h3 := toNat_ofNat (0x80 + c.toNat % 0x40) (by omega)
        rw [List.cons_append, decodeFrom_first (lead_three (by omega) (by omega)), List.cons_append,
          decodeFrom_next (by split <;> split <;> omega), List.cons_append,
          decodeFrom_last (by omega), hv _ (by omega)]
        rfl
      · next h h' h'' =>
        refine ⟨i + 1 + 1 + 1 + 1, ?_⟩
        have h1 := toNat_ofNat (0xF0 + c.toNat / 0x40000) (by omega)
        have h2 := toNat_ofNat (0x80 + c.toNat / 0x1000 % 0x40) (by omega)
        have h3 := toNat_ofNat (0x80 + c.toNat / 0x40 % 0x40) (by omega)
        have h4 := toNat_ofNat (0x80 + c.toNat % 0x40) (by omega)
        rw [List.cons_append, decodeFrom_first (lead_four (by omega) (by omega)), List.cons_append,
          decodeFrom_next (by split <;> split <;> omega), List.cons_append,
          decodeFrom_next (by omega), List.cons_append, decodeFrom_last (by omega),
          hv _ (by omega)]
        rfl

theorem decodeFrom_flatMap_encodeChar (s : List Char) (i : Nat) :
    decodeFrom i i 0 [] (s.flatMap encodeChar) = .ok s := by
  induction s generalizing i with
  | nil => rfl
  | cons c s ih =>
      obtain ⟨j, hj⟩ := decodeFrom_encodeChar c i (s.flatMap encodeChar)
      rw [List.flatMap_cons, hj, ih]
      rfl

theorem decode_encode (s : String) : decode (encode s) = .ok s := by
  rw [decode, encode, decodeFrom_flatMap_encodeChar]
  exact congrArg Except.ok (String.ofList_toList)

/-! ## Back from the character to its bytes -/

theorem ofNat_eq {n : Nat} (h : n = b.toNat) : UInt8.ofNat n = b := by
  rw [h]
  exact UInt8.ofNat_toNat

theorem toNat_charOfNat {n : Nat} (h : n < 0xD800 ∨ 0xDFFF < n ∧ n < 0x110000) :
    (Char.ofNat n).toNat = n := by
  have hn : n.isValidChar := h
  rw [Char.ofNat, dif_pos hn]
  rfl

theorem encodeChar_one (h : b.toNat < 0x80) : encodeChar (.ofNat b.toNat) = [b] := by
  rw [encodeChar, toNat_charOfNat (by omega)]
  rw [if_pos h, ofNat_eq rfl]

theorem encodeChar_two {b₂ : UInt8} (h : 0xC2 ≤ b.toNat ∧ b.toNat < 0xE0)
    (h₂ : 0x80 ≤ b₂.toNat ∧ b₂.toNat ≤ 0xBF) :
    encodeChar (.ofNat ((b.toNat - 0xC0) * 0x40 + (b₂.toNat - 0x80))) = [b, b₂] := by
  rw [encodeChar, toNat_charOfNat (by omega)]
  rw [if_neg (by omega), if_pos (by omega), ofNat_eq (b := b) (by omega),
    ofNat_eq (b := b₂) (by omega)]

theorem encodeChar_three {b₂ b₃ : UInt8} (h : 0xE0 ≤ b.toNat ∧ b.toNat < 0xF0)
    (h₂ : (if b.toNat = 0xE0 then 0xA0 else 0x80) ≤ b₂.toNat ∧
      b₂.toNat ≤ if b.toNat = 0xED then 0x9F else 0xBF)
    (h₃ : 0x80 ≤ b₃.toNat ∧ b₃.toNat ≤ 0xBF) :
    encodeChar (.ofNat (((b.toNat - 0xE0) * 0x40 + (b₂.toNat - 0x80)) * 0x40 +
      (b₃.toNat - 0x80))) = [b, b₂, b₃] := by
  have hlo : 0x80 ≤ b₂.toNat ∧ (b.toNat = 0xE0 → 0xA0 ≤ b₂.toNat) := by
    have := h₂.1; split at this <;> omega
  have hhi : b₂.toNat ≤ 0xBF ∧ (b.toNat = 0xED → b₂.toNat ≤ 0x9F) := by
    have := h₂.2; split at this <;> omega
  rw [encodeChar, toNat_charOfNat (by omega)]
  rw [if_neg (by omega), if_neg (by omega), if_pos (by omega), ofNat_eq (b := b) (by omega),
    ofNat_eq (b := b₂) (by omega), ofNat_eq (b := b₃) (by omega)]

theorem encodeChar_four {b₂ b₃ b₄ : UInt8} (h : 0xF0 ≤ b.toNat ∧ b.toNat < 0xF5)
    (h₂ : (if b.toNat = 0xF0 then 0x90 else 0x80) ≤ b₂.toNat ∧
      b₂.toNat ≤ if b.toNat = 0xF4 then 0x8F else 0xBF)
    (h₃ : 0x80 ≤ b₃.toNat ∧ b₃.toNat ≤ 0xBF) (h₄ : 0x80 ≤ b₄.toNat ∧ b₄.toNat ≤ 0xBF) :
    encodeChar (.ofNat ((((b.toNat - 0xF0) * 0x40 + (b₂.toNat - 0x80)) * 0x40 +
      (b₃.toNat - 0x80)) * 0x40 + (b₄.toNat - 0x80))) = [b, b₂, b₃, b₄] := by
  have hlo : 0x80 ≤ b₂.toNat ∧ (b.toNat = 0xF0 → 0x90 ≤ b₂.toNat) := by
    have := h₂.1; split at this <;> omega
  have hhi : b₂.toNat ≤ 0xBF ∧ (b.toNat = 0xF4 → b₂.toNat ≤ 0x8F) := by
    have := h₂.2; split at this <;> omega
  rw [encodeChar, toNat_charOfNat (by omega)]
  rw [if_neg (by omega), if_neg (by omega), if_neg (by omega), ofNat_eq (b := b) (by omega),
    ofNat_eq (b := b₂) (by omega), ofNat_eq (b := b₃) (by omega), ofNat_eq (b := b₄) (by omega)]

theorem exists_of_decodeFrom (h : decodeFrom i i 0 [] (b :: bytes) = .ok cs) :
    ∃ c rest cs' j, b :: bytes = encodeChar c ++ rest ∧ cs = c :: cs' ∧
      decodeFrom j j 0 [] rest = .ok cs' := by
  have hb : b.toNat < 0x100 := b.toNat_lt
  -- The first byte says how many follow; each of them has to be there and in its range.
  rcases Nat.lt_or_ge b.toNat 0x80 with h1 | h1
  · rw [decodeFrom_only (lead_one h1)] at h
    obtain ⟨cs', rfl, hr⟩ := exists_of_map h
    exact ⟨_, bytes, cs', _, by rw [encodeChar_one h1]; rfl, rfl, hr⟩
  rcases Nat.lt_or_ge b.toNat 0xC2 with h2 | h2
  · simp [decodeFrom, advance, lead_eq_none (.inl ⟨h1, h2⟩)] at h
  rcases Nat.lt_or_ge b.toNat 0xE0 with h3 | h3
  · rw [decodeFrom_first (lead_two h2 h3)] at h
    obtain ⟨b₂, r₂, rfl, hb₂⟩ := exists_of_due h
    rw [decodeFrom_last hb₂] at h
    obtain ⟨cs', rfl, hr⟩ := exists_of_map h
    exact ⟨_, r₂, cs', _, by rw [encodeChar_two ⟨h2, h3⟩ hb₂]; rfl, rfl, hr⟩
  rcases Nat.lt_or_ge b.toNat 0xF0 with h4 | h4
  · rw [decodeFrom_first (lead_three h3 h4)] at h
    obtain ⟨b₂, r₂, rfl, hb₂⟩ := exists_of_due h
    rw [decodeFrom_next hb₂] at h
    obtain ⟨b₃, r₃, rfl, hb₃⟩ := exists_of_due h
    rw [decodeFrom_last hb₃] at h
    obtain ⟨cs', rfl, hr⟩ := exists_of_map h
    exact ⟨_, r₃, cs', _, by rw [encodeChar_three ⟨h3, h4⟩ hb₂ hb₃]; rfl, rfl, hr⟩
  rcases Nat.lt_or_ge b.toNat 0xF5 with h5 | h5
  · rw [decodeFrom_first (lead_four h4 h5)] at h
    obtain ⟨b₂, r₂, rfl, hb₂⟩ := exists_of_due h
    rw [decodeFrom_next hb₂] at h
    obtain ⟨b₃, r₃, rfl, hb₃⟩ := exists_of_due h
    rw [decodeFrom_next hb₃] at h
    obtain ⟨b₄, r₄, rfl, hb₄⟩ := exists_of_due h
    rw [decodeFrom_last hb₄] at h
    obtain ⟨cs', rfl, hr⟩ := exists_of_map h
    exact ⟨_, r₄, cs', _, by rw [encodeChar_four ⟨h4, h5⟩ hb₂ hb₃ hb₄]; rfl, rfl, hr⟩
  · simp [decodeFrom, advance, lead_eq_none (.inr h5)] at h

theorem flatMap_encodeChar_of_decodeFrom (h : decodeFrom i i 0 [] bytes = .ok cs) :
    bytes = cs.flatMap encodeChar := by
  induction hn : bytes.length using Nat.strongRecOn generalizing bytes cs i with
  | ind n ih =>
      cases bytes with
      | nil => cases h; rfl
      | cons b bytes =>
          obtain ⟨c, rest, cs', j, hsplit, rfl, hr⟩ := exists_of_decodeFrom h
          have hlen : rest.length < n := by
            have hpos := List.length_pos_iff.2 (encodeChar_ne_nil c)
            rw [← hn, hsplit, List.length_append]
            omega
          rw [hsplit, ih rest.length hlen hr rfl, List.flatMap_cons]

theorem encode_of_decode {s : String} (h : decode bytes = .ok s) : bytes = encode s := by
  rw [decode] at h
  cases hd : decodeFrom 0 0 0 [] bytes with
  | error e => rw [hd] at h; cases h
  | ok cs =>
      rw [hd] at h
      cases h
      rw [encode, String.toList_ofList]
      exact flatMap_encodeChar_of_decodeFrom hd

theorem toByteArray_eq_iff {s : String} : bytes.toByteArray = s.toUTF8 ↔ bytes = encode s := by
  rw [← toByteArray_encode, List.toByteArray_inj]

theorem decode_eq_ok_iff {s : String} : decode bytes = .ok s ↔ bytes.toByteArray = s.toUTF8 := by
  rw [toByteArray_eq_iff]
  constructor
  · exact encode_of_decode
  · rintro rfl
    exact decode_encode s

/-- What is not read as a text is no UTF-8. -/
theorem isValidUTF8_iff : bytes.toByteArray.IsValidUTF8 ↔ ∃ s, decode bytes = .ok s := by
  constructor
  · rintro ⟨s, hs⟩
    exact ⟨.ofList s, decode_eq_ok_iff.2 hs⟩
  · rintro ⟨s, hs⟩
    rw [decode_eq_ok_iff.1 hs]
    exact s.isValidUTF8

/-! ## Texts one after the other

Bytes can be cut between two characters: what follows the bytes of a text is read on its own. -/

theorem encode_append (s t : String) : encode (s ++ t) = encode s ++ encode t := by
  rw [encode, String.toList_append, List.flatMap_append]
  rfl

theorem exists_decodeFrom_append (s : List Char) (i : Nat) (bytes : List UInt8) :
    ∃ j, decodeFrom i i 0 [] (s.flatMap encodeChar ++ bytes) =
      (decodeFrom j j 0 [] bytes).map (s ++ ·) := by
  induction s generalizing i with
  | nil =>
      refine ⟨i, ?_⟩
      rw [List.flatMap_nil, List.nil_append]
      cases decodeFrom i i 0 [] bytes <;> rfl
  | cons c s ih =>
      obtain ⟨k, hk⟩ := decodeFrom_encodeChar c i (s.flatMap encodeChar ++ bytes)
      obtain ⟨j, hj⟩ := ih k
      refine ⟨j, ?_⟩
      rw [List.flatMap_cons, List.append_assoc, hk, hj]
      cases decodeFrom j j 0 [] bytes <;> rfl

/-- What follows the bytes of a text in those of another is the bytes of a text itself. -/
theorem exists_of_encode_append {s u : String} (h : encode s ++ bytes = encode u) :
    ∃ v, bytes = encode v ∧ u = s ++ v := by
  obtain ⟨j, hj⟩ := exists_decodeFrom_append s.toList 0 bytes
  have hu : decodeFrom 0 0 0 [] (s.toList.flatMap encodeChar ++ bytes) = .ok u.toList :=
    (congrArg (decodeFrom 0 0 0 []) h).trans (decodeFrom_flatMap_encodeChar u.toList 0)
  cases hd : decodeFrom j j 0 [] bytes with
  | error e =>
      rw [hj, hd] at hu
      cases hu
  | ok cs =>
      rw [hj, hd] at hu
      have hcs : s.toList ++ cs = u.toList := Except.ok.inj hu
      refine ⟨.ofList cs, ?_, ?_⟩
      · rw [encode, String.toList_ofList]
        exact flatMap_encodeChar_of_decodeFrom hd
      · rw [← String.toList_inj, String.toList_append, String.toList_ofList, hcs]

/-! ## Order

The order of texts, which is that of the code points of their characters, is the order
of their bytes. -/

theorem ofNat_cons_lt {n m : Nat} {x y : List UInt8} (hn : n < 0x100) (hm : m < 0x100) :
    UInt8.ofNat n :: x < UInt8.ofNat m :: y ↔ n < m ∨ n = m ∧ x < y := by
  rw [List.cons_lt_cons_iff, UInt8.lt_iff_toNat_lt, ← UInt8.toNat_inj, toNat_ofNat n hn,
    toNat_ofNat m hm]

/-- The bytes of a character come before those of a greater one, whatever follows. -/
theorem encodeChar_append_lt {c d : Char} (h : c < d) (x y : List UInt8) :
    encodeChar c ++ x < encodeChar d ++ y := by
  have hlt : c.toNat < d.toNat := h
  have hc := isScalar c
  have hd := isScalar d
  simp only [encodeChar]
  repeat' split
  -- Of two forms of different length the first bytes decide, of equal length the first
  -- place at which the values differ to the base of 64.
  all_goals simp (disch := omega) only [List.cons_append, ofNat_cons_lt]
  all_goals omega

theorem flatMap_encodeChar_lt {s t : List Char} (h : s < t) :
    s.flatMap encodeChar < t.flatMap encodeChar := by
  induction s generalizing t with
  | nil =>
      cases t with
      | nil => exact absurd h (List.lt_irrefl _)
      | cons d t =>
          obtain ⟨b, bs, hb⟩ := List.exists_cons_of_ne_nil (encodeChar_ne_nil d)
          rw [List.flatMap_nil, List.flatMap_cons, hb]
          exact List.nil_lt_cons b _
  | cons c s ih =>
      cases t with
      | nil => exact absurd h (List.not_lt_nil _)
      | cons d t =>
          rw [List.flatMap_cons, List.flatMap_cons]
          rcases List.cons_lt_cons_iff.1 h with hcd | ⟨rfl, hst⟩
          · exact encodeChar_append_lt hcd _ _
          · exact List.append_left_lt (ih hst)

theorem encode_lt_iff {s t : String} : encode s < encode t ↔ s < t := by
  constructor
  · intro h
    rw [← String.not_le]
    intro hle
    by_cases he : t = s
    · rw [he] at h
      exact List.lt_irrefl _ h
    · have hlt : t < s := Std.lt_of_le_of_ne hle he
      exact List.lt_asymm h (flatMap_encodeChar_lt hlt)
  · intro h
    exact flatMap_encodeChar_lt h

end EnvSync.Text.Utf8
