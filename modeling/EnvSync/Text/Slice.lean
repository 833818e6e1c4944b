/-
# Slices by bytes

Places in a text are counted here in bytes of its UTF-8 form.  A place inside a
character is none at which a text can be cut, and neither is one behind its end;
`slice?_append` says that every other place is.
-/
namespace EnvSync.Text

def byteSize : List Char → Nat
  | [] => 0
  | c :: s => c.utf8Size + byteSize s

/-- The text behind its first `n` bytes. -/
def dropBytes? : Nat → List Char → Option (List Char)
  | 0, s => some s
  | _ + 1, [] => none
  | n + 1, c :: s => if c.utf8Size ≤ n + 1 then dropBytes? (n + 1 - c.utf8Size) s else none

/-- The first `n` bytes of a text. -/
def takeBytes? : Nat → List Char → Option (List Char)
  | 0, _ => some []
  | _ + 1, [] => none
  | n + 1, c :: s =>
    if c.utf8Size ≤ n + 1 then (takeBytes? (n + 1 - c.utf8Size) s).map (c :: ·) else none

/-- The `size` bytes from `start` on. -/
def slice? (s : List Char) (start size : Nat) : Option (List Char) :=
  (dropBytes? start s).bind (takeBytes? size)

theorem dropBytes?_append (a b : List Char) : dropBytes? (byteSize a) (a ++ b) = some b := by
  induction a with
  | nil => rw [byteSize, dropBytes?, List.nil_append]
  | cons c a ih =>
    obtain ⟨n, hn⟩ := Nat.exists_eq_succ_of_ne_zero (Nat.ne_of_gt c.utf8Size_pos)
    have hs : byteSize (c :: a) = n + byteSize a + 1 := by rw [byteSize, hn, Nat.succ_add]
    have hd : n + byteSize a + 1 - c.utf8Size = byteSize a := by omega
    rw [hs, List.cons_append, dropBytes?, if_pos (by omega), hd, ih]

theorem takeBytes?_append (a b : List Char) : takeBytes? (byteSize a) (a ++ b) = some a := by
  induction a with
  | nil => rw [byteSize, takeBytes?]
  | cons c a ih =>
    obtain ⟨n, hn⟩ := Nat.exists_eq_succ_of_ne_zero (Nat.ne_of_gt c.utf8Size_pos)
    have hs : byteSize (c :: a) = n + byteSize a + 1 := by rw [byteSize, hn, Nat.succ_add]
    have hd : n + byteSize a + 1 - c.utf8Size = byteSize a := by omega
    rw [hs, List.cons_append, takeBytes?, if_pos (by omega), hd, ih, Option.map_some]

theorem slice?_append (a b c : List Char) :
    slice? (a ++ b ++ c) (byteSize a) (byteSize b) = some b := by
  rw [slice?, List.append_assoc, dropBytes?_append, Option.bind_some, takeBytes?_append]

end EnvSync.Text
