/-
# Well-formed env files

What a well-formed env file looks like, and that it is read as what it says.

A file is a list of items with a line break between each two: blank lines, comment
lines, lines that assign nothing, and assignments.  The well-formedness of an item is
part of its type, so that every value of type `Item` is one that a file may contain.
`Item.text` is how an item is written and `Item.setting?` the setting that it makes;
neither knows of the reader.  `parse_document` says that the reader and they agree on
every list of items.

An item ends in a line break and the reader looks past line breaks, so what is read of
an item depends on what comes next.  It does so in two ways only:

* behind `NAME=` alone a quote on a later line would open the value;
* behind a word alone `=` on a later line would make it a name.

No item starts with a quote or with `=`, which is the one thing that has to be known of
the items that follow (`NextItem`).  A third case turns out well by itself: behind
`export` alone the assignment on a later line is read as exported, which changes
nothing about it.
-/
import EnvSync.Proofs.Dotenv.Parts
import EnvSync.Proofs.OrderedMap
import EnvSync.Proofs.Text.Join

namespace EnvSync.Dotenv

open Text

/-! ## Parts of a line -/

/-- White space within a line. -/
def IsGap (s : List Char) : Prop := ∀ c ∈ s, isBlank c = true ∧ c ≠ '\n' ∧ c ≠ '\r'

/-- Text within a line. -/
def IsInline (s : List Char) : Prop := ∀ c ∈ s, c ≠ '\n' ∧ c ≠ '\r'

structure Gap where
  chars : List Char
  isGap : IsGap chars

/-- A comment without its mark. -/
structure Remark where
  chars : List Char
  isInline : IsInline chars

/-- What stands between a name and its value. -/
inductive Separator where
  | equals (before after : Gap)
  | colon (after : Gap) (ne : after.chars ≠ [])

/-- A value without quotes, possibly empty. -/
structure IsBare (s : List Char) : Prop where
  inline : IsInline s
  no_comment : '#' ∉ s
  no_quote : ∀ c, s.head? = some c → isQuote c = false
  tight : Tight s

/-- The body of a value in `q` quotes, over any number of lines. -/
structure IsBody (q : Char) (s : List Char) : Prop where
  quote : isQuote q = true
  no_return : '\r' ∉ s
  escaped : Escaped q s
  closed : s.getLast? ≠ some '\\'

inductive Value where
  | bare (text : List Char) (h : IsBare text)
  | quoted (q : Char) (body : List Char) (h : IsBody q body)

/-- A line that assigns nothing, or what is left of one. -/
structure IsOther (s : List Char) : Prop where
  inline : IsInline s
  no_equals : '=' ∉ s
  no_colon : ':' ∉ s
  no_quote : ∀ c, (s.dropWhile isBlank).head? = some c → isQuote c = false

/-! ## Items -/

/-- An assignment, with everything that may stand around its name and value. -/
structure Entry where
  indent : Gap
  /-- The blanks behind the word `export`, where that is there. -/
  exported : Option { g : Gap // g.chars ≠ [] }
  name : { n : List Char // IsName n }
  separator : Separator
  value : Value
  gap : Gap
  remark : Option Remark

inductive Item where
  | blank (gap : Gap)
  | comment (indent : Gap) (remark : Remark)
  | other (text : List Char) (h : IsOther text)
  | entry (e : Entry)

def Separator.text : Separator → List Char
  | equals before after => before.chars ++ '=' :: after.chars
  | colon after _ => ':' :: after.chars

def Value.text : Value → List Char
  | bare text _ => text
  | quoted q body _ => q :: (body ++ [q])

/-- What a value stands for.  Only between double quotes are there escapes. -/
def Value.meaning : Value → List Char
  | bare text _ => text
  | quoted q body _ => if q = '"' then expandReturns (expandNewlines body) else body

def Entry.exportText (e : Entry) : List Char :=
  match e.exported with
  | none => []
  | some g => exportWord ++ g.1.chars

def Entry.tailText (e : Entry) : List Char :=
  e.gap.chars ++ commentText (e.remark.map Remark.chars)

def Entry.text (e : Entry) : List Char :=
  e.indent.chars ++ (e.exportText ++ (e.name.1 ++ (e.separator.text ++ (e.value.text ++ e.tailText))))

def Item.text : Item → List Char
  | blank gap => gap.chars
  | comment indent remark => indent.chars ++ '#' :: remark.chars
  | other text _ => text
  | entry e => e.text

def Item.setting? : Item → Option (String × String)
  | entry e => some (.ofList e.name.1, .ofList e.value.meaning)
  | _ => none

/-- The text of a file: its items, with or without a line break at the end. -/
def document (items : List Item) (final : Bool) : List Char :=
  join '\n' (items.map Item.text) ++ if final then ['\n'] else []

/-! ## What comes next -/

/-- The first character that is not blank is no quote and no `=`. -/
def NextItem (s : List Char) : Prop :=
  ∀ c, (s.dropWhile isBlank).head? = some c → isQuote c = false ∧ c ≠ '='

theorem IsGap.blanks {s : List Char} (h : IsGap s) : Blanks s := fun c hc => (h c hc).1

theorem IsGap.isInline {s : List Char} (h : IsGap s) : IsInline s := fun c hc => (h c hc).2

theorem IsInline.newline_notMem {s : List Char} (h : IsInline s) : '\n' ∉ s :=
  fun hm => (h _ hm).1 rfl

theorem nextItem_blanks_append {w : List Char} (hw : Blanks w) {s : List Char} (hs : NextItem s) :
    NextItem (w ++ s) := by
  intro c hc
  rw [List.dropWhile_append_of_pos hw] at hc
  exact hs c hc

theorem nextItem_cons {c : Char} (hb : isBlank c = false) (hq : isQuote c = false) (he : c ≠ '=')
    (s : List Char) : NextItem (c :: s) := by
  intro d hd
  rw [List.dropWhile_cons_of_neg (by simp [hb])] at hd
  obtain rfl : c = d := Option.some.inj hd
  exact ⟨hq, he⟩

theorem nextItem_name {n : List Char} (hn : IsName n) (s : List Char) : NextItem (n ++ s) := by
  obtain ⟨c, u, rfl⟩ := List.exists_cons_of_ne_nil hn.ne_nil
  have hc : isNameChar c = true := hn.chars c List.mem_cons_self
  refine nextItem_cons (isBlank_of_isNameChar hc) ?_ ?_ (u ++ s)
  · cases hq : isQuote c with
    | false => rfl
    | true => rcases isQuote_cases hq with rfl | rfl | rfl <;> exact absurd hc (by decide)
  · rintro rfl
    exact absurd hc (by decide)

theorem Entry.nextItem (e : Entry) (s : List Char) : NextItem (e.text ++ s) := by
  rw [Entry.text, List.append_assoc]
  refine nextItem_blanks_append e.indent.isGap.blanks ?_
  rw [List.append_assoc, List.append_assoc]
  cases hx : e.exported with
  | none =>
      rw [Entry.exportText, hx]
      exact nextItem_name e.name.2 _
  | some g =>
      rw [Entry.exportText, hx, List.append_assoc]
      exact nextItem_name isName_exportWord _

/-- No item starts with a quote or with `=`, and blank ones let the next one be seen. -/
theorem Item.nextItem (i : Item) {s : List Char} (hs : NextItem s) : NextItem (i.text ++ s) := by
  cases i with
  | blank gap => exact nextItem_blanks_append gap.isGap.blanks hs
  | comment indent remark =>
      rw [Item.text, List.append_assoc]
      exact nextItem_blanks_append indent.isGap.blanks
        (nextItem_cons (by decide) (by decide) (by decide) _)
  | other text h =>
      obtain ⟨w, t, rfl, hw, ht⟩ := exists_blanks_append text
      rw [Item.text, List.append_assoc]
      refine nextItem_blanks_append hw ?_
      cases t with
      | nil => exact hs
      | cons c t =>
          have hc : isBlank c = false := ht c rfl
          have hq : isQuote c = false := h.no_quote c (by
            rw [dropWhile_append_of_stops hw ht]
            rfl)
          refine nextItem_cons hc hq ?_ (t ++ s)
          rintro rfl
          exact h.no_equals (List.mem_append_right w List.mem_cons_self)
  | entry e => exact e.nextItem s

theorem nextItem_nil : NextItem [] := by
  intro c h
  cases h

theorem nextItem_join (items : List Item) {r : List Char} (hr : NextItem r) :
    NextItem (join '\n' (items.map Item.text) ++ r) := by
  induction items with
  | nil => exact hr
  | cons i items ih =>
      cases items with
      | nil => exact i.nextItem hr
      | cons j items =>
          rw [List.map_cons, join_cons _ _ (by simp), List.append_assoc]
          exact i.nextItem (nextItem_blanks_append blanks_newline ih)

/-! ## Lines that hold no assignment -/

theorem AtLineEnd.endsName {r : List Char} (h : AtLineEnd r) : EndsName r :=
  fun c hc => h c hc ▸ by decide

theorem AtLineEnd.assignments {r : List Char} (h : AtLineEnd r) :
    assignments r = assignments (dropLine r) := by
  cases r with
  | nil => rfl
  | cons c s =>
      have hc : c = '\n' := h c rfl
      subst hc
      exact assignments_blanks_append blanks_newline s

theorem assignments_gap {w r : List Char} (hw : Blanks w) (hr : AtLineEnd r) :
    assignments (w ++ r) = assignments (dropLine r) := by
  rw [assignments_blanks_append hw, hr.assignments]

/-- No name with a separator behind it starts at the front of a line that has neither `=`
nor `:`, even where the line ends behind the name. -/
theorem takeTarget_other {u r : List Char} (he : '=' ∉ u) (hc : ':' ∉ u) (hr : AtLineEnd r)
    (hnext : NextItem r) : takeTarget (u ++ r) = none := by
  have hsplit : u.takeWhile isNameChar ++ u.dropWhile isNameChar = u :=
    List.takeWhile_append_dropWhile
  have hchars : ∀ c ∈ u.takeWhile isNameChar, isNameChar c = true := by
    intro c h
    exact List.all_eq_true.1 List.all_takeWhile c h
  have hends : EndsName (u.dropWhile isNameChar ++ r) := by
    cases hv : u.dropWhile isNameChar with
    | nil => exact hr.endsName
    | cons d v =>
        intro c h
        exact stops_dropWhile isNameChar u c (by rw [hv]; exact h)
  generalize u.takeWhile isNameChar = n at hsplit hchars
  generalize u.dropWhile isNameChar = v at hsplit hends
  subst hsplit
  rw [List.append_assoc]
  by_cases hn : n = []
  · subst hn
    cases hv : v ++ r with
    | nil => rfl
    | cons c s => exact takeTarget_eq_none (hends c (by rw [hv]; rfl)) s
  · have hequals : ((v ++ r).dropWhile isBlank).head? ≠ some '=' := by
      obtain ⟨w, t, rfl, hw, ht⟩ := exists_blanks_append v
      rw [List.append_assoc, List.dropWhile_append_of_pos hw]
      intro h
      cases t with
      | nil => exact (hnext '=' h).2 rfl
      | cons c t =>
          rw [List.cons_append, List.dropWhile_cons_of_neg (by simp [ht c rfl])] at h
          obtain rfl : c = '=' := Option.some.inj h
          exact he (List.mem_append_right n (List.mem_append_right w List.mem_cons_self))
    have hcolon : (v ++ r).head? ≠ some ':' := by
      intro h
      cases v with
      | nil => exact absurd (hr ':' h) (by decide)
      | cons c v =>
          obtain rfl : c = ':' := Option.some.inj h
          exact hc (List.mem_append_right n List.mem_cons_self)
    rw [takeTarget, takeName_append ⟨hn, hchars⟩ hends]
    simp only [dropSeparator_eq_none hequals hcolon, Option.map_none]

/-- What the word `export` at the front of a line leaves: the rest of the line, or where the
line ends behind the word, what comes first on the lines below. -/
theorem dropExport_line {u r t : List Char} (hr : AtLineEnd r) (h : dropExport (u ++ r) = some t) :
    (∃ v w, u = w ++ v ∧ t = v ++ r) ∨ t = r.dropWhile isBlank := by
  obtain ⟨w, -, hw, hur, ht⟩ := dropExport_eq_some h
  have hu : ∃ v, u = exportWord ++ v ∧ v ++ r = w ++ t := by
    rcases List.append_eq_append_iff.1 hur with ⟨a, hx, hra⟩ | ⟨v, hv, hvr⟩
    · cases a with
      | nil => exact ⟨[], by rw [hx, List.append_nil, List.append_nil], hra⟩
      | cons c a =>
          have hc : c = '\n' := hr c (by rw [hra]; rfl)
          have hmem : c ∈ exportWord := hx ▸ List.mem_append_right u List.mem_cons_self
          rw [hc] at hmem
          exact absurd hmem (by decide)
    · exact ⟨v, hv, hvr.symm⟩
  obtain ⟨v, rfl, hvr⟩ := hu
  have htd : t = (v ++ r).dropWhile isBlank := by
    rw [hvr, dropWhile_append_of_stops hw ht]
  obtain ⟨b, d, rfl, hb, hd⟩ := exists_blanks_append v
  rw [List.append_assoc, List.dropWhile_append_of_pos hb] at htd
  cases d with
  | nil => exact .inr htd
  | cons c d =>
      refine .inl ⟨c :: d, exportWord ++ b, (List.append_assoc _ _ _).symm, ?_⟩
      rwa [List.cons_append, List.dropWhile_cons_of_neg (by simp [hd c rfl])] at htd

/-- A line that assigns nothing is skipped.  Where it is the word `export` alone, the
assignment below it is found from here already, and it is the same one. -/
theorem assignments_other {u r : List Char} (hu : ∀ c, u.head? = some c → isBlank c = false)
    (hne : u ≠ []) (hn : '\n' ∉ u) (he : '=' ∉ u) (hc : ':' ∉ u) (hr : AtLineEnd r)
    (hnext : NextItem r) : assignments (u ++ r) = assignments (dropLine r) := by
  have hstart : (u ++ r).dropWhile isBlank = u ++ r := by
    refine dropWhile_of_stops ?_
    intro c h
    obtain ⟨d, v, rfl⟩ := List.exists_cons_of_ne_nil hne
    exact hu c h
  have htarget : takeTarget (u ++ r) = none := takeTarget_other he hc hr hnext
  have hskip : takeHead (u ++ r) = none → assignments (u ++ r) = assignments (dropLine r) := by
    intro h
    have hnone : takeAssignment (u ++ r) = none := by rw [takeAssignment, hstart, h, Option.map_none]
    rw [assignments_of_none hnone, hstart, dropLine_append hn]
  cases hx : dropExport (u ++ r) with
  | none => exact hskip (by rw [takeHead, hx, Option.bind_none, htarget])
  | some t =>
      cases ht : takeTarget t with
      | none => exact hskip (by rw [takeHead, hx, Option.bind_some, ht, htarget])
      | some h =>
          rcases dropExport_line hr hx with ⟨v, w, rfl, rfl⟩ | rfl
          · have he' : '=' ∉ v := by
              intro h
              exact he (List.mem_append_right w h)
            have hc' : ':' ∉ v := by
              intro h
              exact hc (List.mem_append_right w h)
            have hnone := takeTarget_other he' hc' hr hnext
            rw [hnone] at ht
            cases ht
          · have hhead : takeHead (u ++ r) = takeHead (r.dropWhile isBlank) := by
              rw [takeHead_of_takeTarget ht, takeHead, hx, Option.bind_some, ht]
            have hsame : takeAssignment (u ++ r) = takeAssignment r := by
              rw [takeAssignment, hstart, hhead, takeAssignment]
            have hsome : takeAssignment r ≠ none := by
              rw [takeAssignment, takeHead_of_takeTarget ht]
              exact Option.some_ne_none _
            rw [assignments_congr hsame fun h => absurd h hsome, hr.assignments]

/-! ## Assignments -/

theorem Separator.dropSeparator (sep : Separator) :
    ∃ w, IsGap w ∧ ∀ s, dropSeparator (sep.text ++ s) = some (w ++ s) := by
  cases sep with
  | equals before after =>
      refine ⟨after.chars, after.isGap, ?_⟩
      intro s
      rw [Separator.text, List.append_assoc]
      exact dropSeparator_equals before.isGap.blanks (after.chars ++ s)
  | colon after ne =>
      obtain ⟨c, w, hcw⟩ := List.exists_cons_of_ne_nil ne
      have hgap : IsGap (c :: w) := hcw ▸ after.isGap
      have hw : IsGap w := by
        intro d hd
        exact hgap d (List.mem_cons_of_mem c hd)
      refine ⟨w, hw, ?_⟩
      intro s
      rw [Separator.text, hcw]
      exact dropSeparator_colon (hgap c List.mem_cons_self).1 (w ++ s)

theorem Separator.endsName (sep : Separator) (s : List Char) : EndsName (sep.text ++ s) := by
  cases sep with
  | equals before after =>
      rw [Separator.text, List.append_assoc]
      exact endsName_of_blanks before.isGap.blanks fun c h => Option.some.inj h ▸ by decide
  | colon after ne =>
      intro c h
      cases h
      rfl

/-- The name of an entry is found, with or without the word `export`, and its value begins
behind the separator. -/
theorem Entry.takeHead (e : Entry) :
    ∃ w, IsGap w ∧ ∀ s, takeHead (e.exportText ++ (e.name.1 ++ (e.separator.text ++ s))) =
      some (e.name.1, w ++ s) := by
  obtain ⟨w, hw, hsep⟩ := e.separator.dropSeparator
  have htarget : ∀ s, takeTarget (e.name.1 ++ (e.separator.text ++ s)) = some (e.name.1, w ++ s) :=
    fun s => takeTarget_append e.name.2 (e.separator.endsName s) (hsep s)
  refine ⟨w, hw, ?_⟩
  intro s
  cases hx : e.exported with
  | none =>
      rw [Entry.exportText, hx, List.nil_append]
      exact takeHead_of_takeTarget (htarget s)
  | some g =>
      have hstart : ∀ c, (e.name.1 ++ (e.separator.text ++ s)).head? = some c → isBlank c = false := by
        obtain ⟨c, u, hcu⟩ := List.exists_cons_of_ne_nil e.name.2.ne_nil
        intro d hd
        rw [hcu] at hd
        exact Option.some.inj hd ▸
          isBlank_of_isNameChar (e.name.2.chars c (hcu ▸ List.mem_cons_self))
      rw [Entry.exportText, hx, List.append_assoc]
      exact takeHead_export g.2 g.1.isGap.blanks hstart (htarget s)

theorem Entry.takeLineEnd (e : Entry) {w r : List Char} (hw : Blanks w) (hr : AtLineEnd r) :
    ∃ rest, takeLineEnd (w ++ commentText (e.remark.map Remark.chars) ++ r) = some rest ∧
      assignments (dropLine rest) = assignments (dropLine r) := by
  refine exists_takeLineEnd hw ?_ hr
  intro t ht
  obtain ⟨remark, -, rfl⟩ := Option.map_eq_some_iff.1 ht
  exact remark.isInline.newline_notMem

theorem IsInline.isBareChar {s : List Char} (h : IsInline s) (hc : '#' ∉ s) :
    ∀ c ∈ s, isBareChar c = true := by
  intro c hm
  have hn : c ≠ '\n' := (h c hm).1
  have hh : c ≠ '#' := by
    rintro rfl
    exact hc hm
  simp [Dotenv.isBareChar, hn, hh]

theorem IsGap.isBareChar {w : List Char} (h : IsGap w) : ∀ c ∈ w, isBareChar c = true :=
  h.isInline.isBareChar fun hm => absurd (h _ hm).1 (by decide)

theorem IsBody.takeBody {q : Char} {body s rest : List Char} (h : IsBody q body)
    (hend : Dotenv.takeLineEnd s = some rest) :
    takeBody q false (body ++ q :: s) = some (body, rest) := by
  have hq : q ≠ '\\' := ne_backslash_of_isQuote h.quote
  have hopen : (q :: body).getLast? = some '\\' → Dotenv.takeBody q false s = none := by
    intro hl
    cases body with
    | nil => exact absurd (Option.some.inj hl) hq
    | cons c body => exact absurd (List.getLast?_cons_cons.symm.trans hl) h.closed
  have hbody := takeBody_append hq h.escaped.after hend hopen
  rwa [decide_eq_false hq] at hbody

/-- A comment, or else the end of the line, stops a bare value. -/
theorem head?_commentText {remark : Option Remark} {r : List Char} {c : Char} (hr : AtLineEnd r)
    (hc : (commentText (remark.map Remark.chars) ++ r).head? = some c) : c = '#' ∨ c = '\n' := by
  cases remark with
  | none => exact .inr (hr c hc)
  | some m => exact .inl (Option.some.inj hc).symm

/-- Behind blanks a bare value is not taken for one in quotes: if it is empty, a comment
comes next, or the next item. -/
theorem IsBare.head? {text w gap r : List Char} {remark : Option Remark} (h : IsBare text)
    (hw : Blanks w) (hg : Blanks gap) (hnext : NextItem r) {c : Char}
    (hc : ((w ++ text ++ gap ++ (commentText (remark.map Remark.chars) ++ r)).dropWhile
      isBlank).head? = some c) : isQuote c = false := by
  rw [List.append_assoc, List.append_assoc, List.dropWhile_append_of_pos hw] at hc
  cases text with
  | cons d t =>
      rw [List.cons_append, List.dropWhile_cons_of_neg (by simp [h.tight.head d rfl])] at hc
      exact h.no_quote c hc
  | nil =>
      rw [List.nil_append, List.dropWhile_append_of_pos hg] at hc
      cases remark with
      | none => exact (hnext c hc).1
      | some m => exact Option.some.inj hc ▸ by decide

/-- Behind the blanks of a separator the value of an entry is taken as it is written, and
what is taken stands for what it means. -/
theorem Entry.takeValue (e : Entry) {w r : List Char} (hw : IsGap w) (hr : AtLineEnd r)
    (hnext : NextItem r) :
    ∃ written rest, takeValue (w ++ (e.value.text ++ (e.tailText ++ r))) = (written, rest) ∧
      Assignment.value ⟨e.name.1, written⟩ = e.value.meaning ∧
      assignments (dropLine rest) = assignments (dropLine r) := by
  cases e.value with
  | quoted q body h =>
      obtain ⟨rest, hend, hrest⟩ := e.takeLineEnd e.gap.isGap.blanks hr
      refine ⟨_, rest, ?_, value_quoted h.quote hw.blanks _ _, hrest⟩
      have := takeValue_quoted h.quote hw.blanks (h.takeBody hend)
      simpa [Value.text, Entry.tailText] using this
  | bare text h =>
      obtain ⟨rest, hend, hrest⟩ := e.takeLineEnd blanks_nil hr
      have hassoc : w ++ (text ++ (e.tailText ++ r)) =
          (w ++ text ++ e.gap.chars) ++ (commentText (e.remark.map Remark.chars) ++ r) := by
        simp [Entry.tailText]
      have hchars : ∀ c ∈ w ++ text ++ e.gap.chars, isBareChar c = true := by
        intro c hm
        rcases List.mem_append.1 hm with hm | hm
        · rcases List.mem_append.1 hm with hm | hm
          · exact hw.isBareChar c hm
          · exact h.inline.isBareChar h.no_comment c hm
        · exact e.gap.isGap.isBareChar c hm
      have hstop : ∀ c, (commentText (e.remark.map Remark.chars) ++ r).head? = some c →
          isBareChar c = false := by
        intro c hc
        rcases head?_commentText hr hc with rfl | rfl <;> decide
      refine ⟨_, rest, ?_, value_bare hw.blanks h.tight e.gap.isGap.blanks h.no_quote _, hrest⟩
      rw [Value.text, hassoc]
      refine takeValue_bare hchars hstop hend ?_
      intro c hc
      exact h.head? hw.blanks e.gap.isGap.blanks hnext hc

/-- An entry is taken as an assignment to its name. -/
theorem Entry.takeAssignment (e : Entry) {r : List Char} (hr : AtLineEnd r) (hnext : NextItem r) :
    ∃ written rest, takeAssignment (e.text ++ r) = some (⟨e.name.1, written⟩, rest) ∧
      Assignment.value ⟨e.name.1, written⟩ = e.value.meaning ∧
      assignments (dropLine rest) = assignments (dropLine r) := by
  obtain ⟨w, hw, hhead⟩ := e.takeHead
  obtain ⟨written, rest, hvalue, hmeaning, hrest⟩ := e.takeValue hw hr hnext
  have hassoc : e.text ++ r = e.indent.chars ++ (e.exportText ++ (e.name.1 ++
      (e.separator.text ++ (e.value.text ++ (e.tailText ++ r))))) := by
    simp [Entry.text]
  refine ⟨written, rest, ?_, hmeaning, hrest⟩
  have hstart := stops_of_takeHead (hhead (e.value.text ++ (e.tailText ++ r)))
  rw [hassoc, takeAssignment_blanks_append e.indent.isGap.blanks, Dotenv.takeAssignment,
    dropWhile_of_stops hstart, hhead, Option.map_some, hvalue]

/-! ## Items -/

/-- The settings that the assignments of a text make. -/
def settingsIn (s : List Char) : List (String × String) :=
  (assignments s).map fun a => (.ofList a.name, .ofList a.value)

theorem Entry.settingsIn (e : Entry) {r : List Char} (hr : AtLineEnd r) (hnext : NextItem r) :
    settingsIn (e.text ++ r) =
      (.ofList e.name.1, .ofList e.value.meaning) :: settingsIn (dropLine r) := by
  obtain ⟨written, rest, htake, hmeaning, hrest⟩ := e.takeAssignment hr hnext
  rw [Dotenv.settingsIn, assignments_of_some htake, List.map_cons, hmeaning, hrest]
  rfl

/-- One item: reading makes its setting, if it has one, and goes on behind its line. -/
theorem Item.settingsIn (i : Item) {r : List Char} (hr : AtLineEnd r) (hnext : NextItem r) :
    settingsIn (i.text ++ r) = i.setting?.toList ++ settingsIn (dropLine r) := by
  cases i with
  | blank gap =>
      exact congrArg (List.map _) (assignments_gap gap.isGap.blanks hr)
  | comment indent remark =>
      refine congrArg (List.map _) ?_
      rw [Item.text, List.append_assoc, assignments_blanks_append indent.isGap.blanks,
        List.cons_append, assignments_hash, dropLine_append remark.isInline.newline_notMem]
  | other text h =>
      obtain ⟨w, u, rfl, hw, hu⟩ := exists_blanks_append text
      refine congrArg (List.map _) ?_
      rw [Item.text, List.append_assoc, assignments_blanks_append hw]
      by_cases hne : u = []
      · subst hne
        exact assignments_gap blanks_nil hr
      · exact assignments_other hu hne
          (fun hm => h.inline.newline_notMem (List.mem_append_right w hm))
          (fun hm => h.no_equals (List.mem_append_right w hm))
          (fun hm => h.no_colon (List.mem_append_right w hm)) hr hnext
  | entry e => exact e.settingsIn hr hnext

/-- All items: the induction is on the list, and what is known of the rest at each item
is that it starts a line and begins as an item does. -/
theorem settingsIn_join (items : List Item) {r : List Char} (hr : AtLineEnd r)
    (hnext : NextItem r) (hempty : settingsIn (dropLine r) = []) :
    settingsIn (join '\n' (items.map Item.text) ++ r) = items.filterMap Item.setting? := by
  induction items with
  | nil => exact (congrArg (List.map _) hr.assignments).trans hempty
  | cons i items ih =>
      have hcons : (i :: items).filterMap Item.setting? =
          i.setting?.toList ++ items.filterMap Item.setting? := by
        rw [List.filterMap_cons]
        cases i.setting? with
        | none => rfl
        | some p => rfl
      cases items with
      | nil =>
          rw [hcons]
          exact (i.settingsIn hr hnext).trans (by rw [hempty]; rfl)
      | cons j items =>
          have hrest : NextItem ('\n' :: (join '\n' ((j :: items).map Item.text) ++ r)) :=
            nextItem_blanks_append blanks_newline (nextItem_join (j :: items) hnext)
          have hassoc : join '\n' ((i :: j :: items).map Item.text) ++ r =
              i.text ++ '\n' :: (join '\n' ((j :: items).map Item.text) ++ r) := by
            rw [List.map_cons, join_cons _ _ (by simp), List.append_assoc, List.cons_append]
          rw [hcons, hassoc, i.settingsIn (atLineEnd_cons _) hrest, dropLine_newline, ih]

/-! ## Carriage returns -/

theorem IsInline.return_notMem {s : List Char} (h : IsInline s) : '\r' ∉ s := by
  intro hm
  exact (h _ hm).2 rfl

theorem Gap.return_notMem (g : Gap) : '\r' ∉ g.chars := g.isGap.isInline.return_notMem

theorem IsName.return_notMem {n : List Char} (h : IsName n) : '\r' ∉ n := by
  intro hm
  exact absurd (h.chars _ hm) (by decide)

theorem Entry.return_notMem (e : Entry) : '\r' ∉ e.text := by
  have hexport : '\r' ∉ e.exportText := by
    cases hx : e.exported with
    | none => simp [Entry.exportText, hx]
    | some g => simp [Entry.exportText, hx, exportWord, g.1.return_notMem]
  have hsep : '\r' ∉ e.separator.text := by
    cases e.separator with
    | equals before after => simp [Separator.text, before.return_notMem, after.return_notMem]
    | colon after ne => simp [Separator.text, after.return_notMem]
  have hvalue : '\r' ∉ e.value.text := by
    cases e.value with
    | bare text h => exact h.inline.return_notMem
    | quoted q body h =>
        have hq : '\r' ≠ q := by
          rcases isQuote_cases h.quote with rfl | rfl | rfl <;> decide
        simp [Value.text, h.no_return, hq]
  have htail : '\r' ∉ e.tailText := by
    cases hm : e.remark with
    | none => simp [Entry.tailText, hm, commentText, e.gap.return_notMem]
    | some m =>
        simp [Entry.tailText, hm, commentText, e.gap.return_notMem, m.isInline.return_notMem]
  simp [Entry.text, e.indent.return_notMem, hexport, e.name.2.return_notMem, hsep, hvalue, htail]

theorem Item.return_notMem (i : Item) : '\r' ∉ i.text := by
  cases i with
  | blank gap => exact gap.return_notMem
  | comment indent remark =>
      simp [Item.text, indent.return_notMem, remark.isInline.return_notMem]
  | other text h => exact h.inline.return_notMem
  | entry e => exact e.return_notMem

/-! ## The whole file -/

/-- A well-formed file is read as what it says: the settings of its assignments, a name that
is assigned twice at its first place and with its last value. -/
theorem parse_document (items : List Item) (final : Bool) :
    parse (.ofList (document items final)) = .ofList (items.filterMap Item.setting?) := by
  have hreturn : '\r' ∉ document items final := by
    have hjoin : '\r' ∉ join '\n' (items.map Item.text) := by
      refine notMem_join (by decide) ?_
      intro p hp
      obtain ⟨i, -, rfl⟩ := List.mem_map.1 hp
      exact i.return_notMem
    cases final with
    | false => simpa [document] using hjoin
    | true => simpa [document] using hjoin
  have hsettings : settingsIn (document items final) = items.filterMap Item.setting? := by
    cases final with
    | false => exact settingsIn_join items atLineEnd_nil nextItem_nil (by simp [settingsIn])
    | true =>
        exact settingsIn_join items (atLineEnd_cons [])
          (nextItem_blanks_append blanks_newline nextItem_nil) (by simp [settingsIn])
  rw [parse, String.toList_ofList, unifyLineBreaks_of_no_return hreturn]
  exact congrArg OrderedMap.ofList hsettings

end EnvSync.Dotenv
