/-
# Options in any order

Arguments that are accepted are a row of groups: each is an option, in one argument or in two.
In which order the groups stand makes no difference, nor which spelling a value has that may
have both, and an option gives its own setting just its value (`options_in_any_order`).

The reader takes a group off the front and goes on with the others (`ofArguments_append_iff`).
From this follows what all of them come to (`ofArguments_written_iff`): they are accepted if each
is fit and no two are the same option, and then each has given what it gives.  In neither does
their order occur, nor the spelling of a value but for the one condition that an argument with
nothing but a value must not look like an option.

That the groups of a row are found where they were put is due to the names: none has an equals
sign in it, so the first one in an argument is where the value begins.
-/
import EnvSync.CommandLine.Run
import EnvSync.Proofs.CommandLine.Arguments
import EnvSync.Proofs.OrderedMap
import EnvSync.Proofs.Text.Front
import Mathlib

namespace EnvSync.CommandLine

open OrderedMap (valueIn_eq_none_iff valueIn_eq_some_iff)

variable {a v : String} {args : List String} {s : Setting} {g g' : Given}

/-! ## One argument -/

theorem equals_notMem_name (s : Setting) : '=' ∉ s.name.toList := by
  cases s <;> decide

theorem settingOf?_eq_some_iff {name : List Char} :
    settingOf? name = some s ↔ s.name.toList = name := by
  constructor
  · intro h
    simpa using List.find?_some h
  · rintro rfl
    cases s <;> rfl

theorem valuePart_eq_some_iff {t value : List Char} :
    valuePart t = some value ↔ t = t.takeWhile (· ≠ '=') ++ '=' :: value := by
  have happend : t.takeWhile (· ≠ '=') ++ t.dropWhile (· ≠ '=') = t :=
    List.takeWhile_append_dropWhile
  constructor
  · intro h
    unfold valuePart at h
    split at h
    · cases h
    · next c rest hrest =>
      cases h
      have hc := Text.stops_dropWhile (· ≠ '=') t c (by rw [hrest]; rfl)
      obtain rfl : c = '=' := of_not_not (of_decide_eq_false hc)
      rw [hrest] at happend
      exact happend.symm
  · intro h
    have hdrop : t.dropWhile (· ≠ '=') = '=' :: value := List.append_cancel_left (happend.trans h)
    rw [valuePart, hdrop]

theorem longOption_eq_assigned_iff {name : List Char} {value : Option (List Char)} :
    longOption name value = .assigned s v ↔ settingOf? name = some s ∧ value = some v.toList := by
  constructor
  · intro h
    unfold longOption at h
    split at h
    · split at h
      · next hs =>
        cases h
        exact ⟨hs, by rw [String.toList_ofList]⟩
      · cases h
    · repeat' split at h
      all_goals cases h
  · rintro ⟨hs, rfl⟩
    simp only [longOption, hs, String.ofList_toList]

theorem longOption_eq_opening_iff {name : List Char} {value : Option (List Char)} :
    longOption name value = .opening s ↔ settingOf? name = some s ∧ value = none := by
  constructor
  · intro h
    unfold longOption at h
    repeat' split at h
    all_goals cases h
    exact ⟨‹_›, rfl⟩
  · rintro ⟨hs, rfl⟩
    obtain rfl := settingOf?_eq_some_iff.1 hs
    cases s <;> rfl

theorem ofText_eq_assigned_iff :
    Argument.ofText a = .assigned s v ↔ a = "--" ++ s.name ++ "=" ++ v := by
  have htext : ("--" ++ s.name ++ "=" ++ v).toList =
      '-' :: '-' :: (s.name.toList ++ '=' :: v.toList) := by simp
  constructor
  · intro h
    obtain ⟨t, ht, hlong⟩ := exists_long_of_ofText h nofun nofun
    obtain ⟨hname, hvalue⟩ := longOption_eq_assigned_iff.1 hlong
    have hsplit := valuePart_eq_some_iff.1 hvalue
    rw [← settingOf?_eq_some_iff.1 hname] at hsplit
    rw [← String.toList_inj, ht, htext, ← hsplit]
  · rintro rfl
    have hname : (s.name.toList ++ '=' :: v.toList).takeWhile (· ≠ '=') = s.name.toList := by
      refine Text.takeWhile_append_of_stops ?_ ?_
      · intro c hc
        exact decide_eq_true (ne_of_mem_of_not_mem hc (equals_notMem_name s))
      · rintro c ⟨⟩
        rfl
    simp only [Argument.ofText, htext]
    refine longOption_eq_assigned_iff.2 ⟨?_, ?_⟩
    · rw [hname]
      exact settingOf?_eq_some_iff.2 rfl
    · rw [valuePart_eq_some_iff, hname]

theorem ofText_eq_opening_iff : Argument.ofText a = .opening s ↔ a = "--" ++ s.name := by
  have htext : ("--" ++ s.name).toList = '-' :: '-' :: s.name.toList := by simp
  constructor
  · intro h
    obtain ⟨t, ht, hlong⟩ := exists_long_of_ofText h nofun nofun
    obtain ⟨hname, hvalue⟩ := longOption_eq_opening_iff.1 hlong
    rw [← String.toList_inj, ht, htext, settingOf?_eq_some_iff.1 hname,
      takeWhile_of_valuePart hvalue]
  · rintro rfl
    cases s <;> rfl

/-- Behind two dashes alone there is nothing but operands. -/
theorem eq_of_ofText_eq_terminator (h : Argument.ofText a = .terminator) : a = "--" := by
  obtain ⟨t, ht, hlong⟩ := exists_long_of_ofText h nofun nofun
  unfold longOption at hlong
  split at hlong
  · split at hlong <;> cases hlong
  · next hvalue =>
    split at hlong
    · next hname =>
      rw [takeWhile_of_valuePart hvalue] at hname
      rw [← String.toList_inj, ht, hname]
      rfl
    · repeat' split at hlong
      all_goals cases hlong

/-! ## One group -/

/-- An option as it is written. -/
inductive Group where
  | dryRun
  /-- The value is behind an equals sign. -/
  | joined (setting : Setting) (value : String)
  /-- The value is in an argument of its own. -/
  | apart (setting : Setting) (value : String)
deriving DecidableEq, Repr

namespace Group

def arguments : Group → List String
  | dryRun => ["--dry-run"]
  | joined s v => ["--" ++ s.name ++ "=" ++ v]
  | apart s v => ["--" ++ s.name, v]

/-- The value that a group gives, with its setting.  A dry run has none. -/
def assignment? : Group → Option (Setting × String)
  | dryRun => none
  | joined s v | apart s v => some (s, v)

/-- The setting of a group, and none for a dry run. -/
def setting? (x : Group) : Option Setting := x.assignment?.map Prod.fst

/-- A group that is accepted where nothing is given yet. -/
inductive Fits : Group → Prop where
  | dryRun : Fits dryRun
  | joined {s : Setting} {v : String} : s.admits v = true → Fits (joined s v)
  | apart {s : Setting} {v : String} : isValue v = true → s.admits v = true → Fits (apart s v)

theorem fits_joined_iff {s : Setting} {v : String} : (joined s v).Fits ↔ s.admits v = true := by
  constructor
  · intro h
    cases h with
    | joined hs => exact hs
  · exact .joined

theorem fits_apart_iff {s : Setting} {v : String} :
    (apart s v).Fits ↔ isValue v = true ∧ s.admits v = true := by
  constructor
  · intro h
    cases h with
    | apart hv hs => exact ⟨hv, hs⟩
  · rintro ⟨hv, hs⟩
    exact .apart hv hs

instance (x : Group) : Decidable x.Fits :=
  match x with
  | dryRun => isTrue .dryRun
  | joined _ _ => decidable_of_iff _ fits_joined_iff.symm
  | apart _ _ => decidable_of_iff _ fits_apart_iff.symm

end Group

def Given.Has (g : Given) : Option Setting → Prop
  | Option.none => g.dryRun = true
  | some s => s ∈ g.values.map Prod.fst

def Given.add (g : Given) (x : Group) : Given :=
  match x.assignment? with
  | Option.none => { g with dryRun := true }
  | some e => { g with values := g.values ++ [e] }

theorem has_add {x : Group} {o : Option Setting} :
    (g.add x).Has o ↔ g.Has o ∨ o = x.setting? := by
  cases x <;> cases o <;> simp [Given.add, Given.Has, Group.setting?, Group.assignment?]

theorem give_eq_some_iff :
    g.give s v = some g' ↔ s.admits v = true ∧ ¬ g.Has (some s) ∧ g' = g.add (.joined s v) := by
  have hnone : (g.value? s).isNone = true ↔ ¬ g.Has (some s) :=
    Option.isNone_iff_eq_none.trans valueIn_eq_none_iff
  rw [Given.give]
  split
  · next h =>
    obtain ⟨hs, hv⟩ := Bool.and_eq_true_iff.1 h
    constructor
    · rintro ⟨⟩
      exact ⟨hv, hnone.1 hs, rfl⟩
    · rintro ⟨-, -, rfl⟩
      rfl
  · next h =>
    constructor
    · intro hg
      cases hg
    · rintro ⟨hv, hs, -⟩
      exact absurd (Bool.and_eq_true_iff.2 ⟨hnone.2 hs, hv⟩) h

theorem give_then_iff {k : Given → Reading} :
    (match g.give s v with
      | Option.none => Reading.rejected
      | some g => k g) = .accepted g' ↔
      s.admits v = true ∧ ¬ g.Has (some s) ∧ k (g.add (.joined s v)) = .accepted g' := by
  cases hg : g.give s v with
  | none =>
      constructor
      · intro h
        cases h
      · rintro ⟨hv, hs, -⟩
        cases hg.symm.trans (give_eq_some_iff.2 ⟨hv, hs, rfl⟩)
  | some g₁ =>
      obtain ⟨hv, hs, rfl⟩ := give_eq_some_iff.1 hg
      exact ⟨fun h => ⟨hv, hs, h⟩, fun h => h.2.2⟩

/-- A group is taken off the front if it fits and its option has not been given. -/
theorem ofArguments_append_iff {x : Group} {rest : List String} :
    Reading.ofArguments g (x.arguments ++ rest) = .accepted g' ↔
      x.Fits ∧ ¬ g.Has x.setting? ∧ Reading.ofArguments (g.add x) rest = .accepted g' := by
  cases x with
  | dryRun =>
      have hlook : Argument.ofText "--dry-run" = .dryRun := ofText_eq_dryRun_iff.2 rfl
      simp only [Group.arguments, List.cons_append, List.nil_append, Reading.ofArguments, hlook]
      split
      · next hdry =>
        constructor
        · intro h
          cases h
        · rintro ⟨-, hnew, -⟩
          exact absurd hdry hnew
      · next hdry => exact ⟨fun h => ⟨.dryRun, hdry, h⟩, fun h => h.2.2⟩
  | joined s v =>
      have hlook : Argument.ofText ("--" ++ s.name ++ "=" ++ v) = .assigned s v :=
        ofText_eq_assigned_iff.2 rfl
      simp only [Group.arguments, List.cons_append, List.nil_append, Reading.ofArguments, hlook]
      rw [Group.fits_joined_iff]
      exact give_then_iff
  | apart s v =>
      have hlook : Argument.ofText ("--" ++ s.name) = .opening s := ofText_eq_opening_iff.2 rfl
      simp only [Group.arguments, List.cons_append, List.nil_append, Reading.ofArguments, hlook]
      split
      · next hv =>
        rw [Group.fits_apart_iff, and_iff_right hv]
        exact give_then_iff
      · next hv =>
        constructor
        · intro h
          cases h
        · rintro ⟨hfits, -⟩
          exact absurd (Group.fits_apart_iff.1 hfits).1 hv

/-! ## A row of groups -/

variable {gs gs' : List Group}

def written (gs : List Group) : List String := gs.flatMap Group.arguments

theorem written_cons (x : Group) (gs : List Group) :
    written (x :: gs) = x.arguments ++ written gs := List.flatMap_cons

/-- A row is accepted if every group fits and no two are the same option, nor one that was given
before. -/
theorem ofArguments_written_iff :
    Reading.ofArguments g (written gs) = .accepted g' ↔
      (∀ x ∈ gs, x.Fits ∧ ¬ g.Has x.setting?) ∧ (gs.map Group.setting?).Nodup ∧
        g' = gs.foldl Given.add g := by
  induction gs generalizing g with
  | nil =>
      constructor
      · rintro ⟨⟩
        exact ⟨nofun, .nil, rfl⟩
      · rintro ⟨-, -, rfl⟩
        rfl
  | cons x gs ih =>
      rw [written_cons, ofArguments_append_iff, ih, List.map_cons, List.nodup_cons,
        List.forall_mem_cons]
      constructor
      · rintro ⟨hx, hgx, hgs, hnodup, rfl⟩
        refine ⟨⟨⟨hx, hgx⟩, ?_⟩, ⟨?_, hnodup⟩, rfl⟩
        · intro y hy
          exact ⟨(hgs y hy).1, fun h => (hgs y hy).2 (has_add.2 (.inl h))⟩
        · intro hmem
          obtain ⟨y, hy, he⟩ := List.mem_map.1 hmem
          exact (hgs y hy).2 (has_add.2 (.inr he))
      · rintro ⟨⟨⟨hx, hgx⟩, hgs⟩, ⟨hnew, hnodup⟩, rfl⟩
        refine ⟨hx, hgx, ?_, hnodup, rfl⟩
        intro y hy
        refine ⟨(hgs y hy).1, fun h => ?_⟩
        rcases has_add.1 h with h | he
        · exact (hgs y hy).2 h
        · exact hnew (List.mem_map.2 ⟨y, hy, he⟩)

/-- Accepted arguments are a row of groups, if no operands are announced. -/
theorem exists_written (h : Reading.ofArguments g args = .accepted g') (operands : "--" ∉ args) :
    ∃ gs, written gs = args := by
  fun_induction Reading.ofArguments g args with
  | case1 => exact ⟨[], rfl⟩
  | case2 | case3 => cases h
  | case4 g a ha =>
      obtain rfl := eq_of_ofText_eq_terminator ha
      exact absurd List.mem_cons_self operands
  | case5 | case6 => cases h
  | case7 g a rest ha _ ih =>
      obtain rfl := ofText_eq_dryRun_iff.1 ha
      obtain ⟨gs, rfl⟩ := ih h fun hmem => operands (List.mem_cons_of_mem _ hmem)
      exact ⟨.dryRun :: gs, rfl⟩
  | case8 => cases h
  | case9 g a rest s v ha g₁ hg ih =>
      obtain rfl := ofText_eq_assigned_iff.1 ha
      obtain ⟨gs, rfl⟩ := ih h fun hmem => operands (List.mem_cons_of_mem _ hmem)
      exact ⟨.joined s v :: gs, rfl⟩
  | case10 | case11 => cases h
  | case12 g a s ha v rest hv g₁ hg ih =>
      obtain rfl := ofText_eq_opening_iff.1 ha
      obtain ⟨gs, rfl⟩ := ih h fun hmem =>
        operands (List.mem_cons_of_mem _ (List.mem_cons_of_mem _ hmem))
      exact ⟨.apart s v :: gs, rfl⟩
  | case13 => cases h

/-! ## What a row gives -/

/-- Every group fits, and no option is there twice. -/
structure Acceptable (gs : List Group) : Prop where
  fits : ∀ x ∈ gs, x.Fits
  once : (gs.map Group.setting?).Nodup

def Given.ofGroups (gs : List Group) : Given := gs.foldl Given.add Given.none

theorem accepted_iff :
    Reading.ofArguments Given.none (written gs) = .accepted g ↔
      Acceptable gs ∧ g = Given.ofGroups gs := by
  have hnew : ∀ o, ¬ Given.none.Has o := by
    rintro (_ | s)
    · exact Bool.false_ne_true
    · exact List.not_mem_nil
  rw [ofArguments_written_iff]
  constructor
  · rintro ⟨hfits, honce, hg⟩
    exact ⟨⟨fun x hx => (hfits x hx).1, honce⟩, hg⟩
  · rintro ⟨⟨hfits, honce⟩, hg⟩
    exact ⟨fun x hx => ⟨hfits x hx, hnew _⟩, honce, hg⟩

theorem values_foldl_add (gs : List Group) (g : Given) :
    (gs.foldl Given.add g).values = g.values ++ gs.filterMap Group.assignment? := by
  induction gs generalizing g with
  | nil => simp
  | cons x gs ih =>
      rw [List.foldl_cons, ih, List.filterMap_cons, Given.add]
      cases x.assignment? <;> simp

theorem dryRun_foldl_add (gs : List Group) (g : Given) :
    (gs.foldl Given.add g).dryRun = true ↔ g.dryRun = true ∨ none ∈ gs.map Group.assignment? := by
  induction gs generalizing g with
  | nil => simp
  | cons x gs ih =>
      rw [List.foldl_cons, ih, List.map_cons, List.mem_cons, Given.add]
      cases x.assignment? <;> simp

theorem dryRun_ofGroups : (Given.ofGroups gs).dryRun = true ↔ none ∈ gs.map Group.assignment? := by
  rw [Given.ofGroups, dryRun_foldl_add]
  exact or_iff_right Bool.false_ne_true

theorem value?_ofGroups (once : (gs.map Group.setting?).Nodup) :
    (Given.ofGroups gs).value? s = some v ↔ some (s, v) ∈ gs.map Group.assignment? := by
  have hvalues : (Given.ofGroups gs).values = gs.filterMap Group.assignment? :=
    values_foldl_add gs Given.none
  have hkeys : ((gs.filterMap Group.assignment?).map Prod.fst).Nodup := by
    have hsettings : (gs.filterMap Group.assignment?).map Prod.fst =
        (gs.map Group.setting?).filterMap id := by
      rw [List.map_filterMap, List.filterMap_map]
      rfl
    rw [hsettings]
    refine once.filterMap ?_
    rintro _ _ s rfl ⟨⟩
    rfl
  rw [← hvalues] at hkeys
  refine (valueIn_eq_some_iff hkeys).trans ?_
  rw [hvalues, List.mem_filterMap, List.mem_map]

/-- What is asked for depends on the values that the settings have, and on whether the run is dry. -/
theorem invocation_congr (values : ∀ s, g.value? s = g'.value? s) (dryRun : g.dryRun = g'.dryRun) :
    g.invocation = g'.invocation := by
  simp only [Given.invocation, Given.valueOf, values, dryRun]

/-! ## Other orders and spellings -/

/-- The same option with the same value.  The value may change between the two spellings if it
does not look like an option. -/
inductive Respelled : Group → Group → Prop where
  | same (x : Group) : Respelled x x
  | parted {s : Setting} {v : String} : isValue v = true → Respelled (.joined s v) (.apart s v)
  | joined {s : Setting} {v : String} : isValue v = true → Respelled (.apart s v) (.joined s v)

/-- The same options in some order, each in some spelling. -/
def Rearranged (gs gs' : List Group) : Prop :=
  ∃ hs, gs.Perm hs ∧ List.Forall₂ Respelled hs gs'

theorem Respelled.assignment?_eq {x y : Group} (h : Respelled x y) :
    x.assignment? = y.assignment? := by
  cases h <;> rfl

theorem Respelled.fits {x y : Group} (h : Respelled x y) (hx : x.Fits) : y.Fits := by
  cases h with
  | same => exact hx
  | parted hv => exact .apart hv (Group.fits_joined_iff.1 hx)
  | joined _ => exact .joined (Group.fits_apart_iff.1 hx).2

theorem assignments_of_respelled (h : List.Forall₂ Respelled gs gs') :
    gs.map Group.assignment? = gs'.map Group.assignment? := by
  induction h with
  | nil => rfl
  | cons hx _ ih => rw [List.map_cons, List.map_cons, hx.assignment?_eq, ih]

theorem fits_of_respelled (h : List.Forall₂ Respelled gs gs') (hgs : ∀ x ∈ gs, x.Fits) :
    ∀ x ∈ gs', x.Fits := by
  induction h with
  | nil => exact hgs
  | cons hx _ ih =>
      rw [List.forall_mem_cons] at hgs ⊢
      exact ⟨hx.fits hgs.1, ih hgs.2⟩

theorem Rearranged.assignments (h : Rearranged gs gs') :
    (gs.map Group.assignment?).Perm (gs'.map Group.assignment?) := by
  obtain ⟨hs, hperm, hrespelled⟩ := h
  rw [← assignments_of_respelled hrespelled]
  exact hperm.map _

theorem map_setting? (gs : List Group) :
    gs.map Group.setting? = (gs.map Group.assignment?).map (Option.map Prod.fst) := by
  rw [List.map_map]
  rfl

theorem Rearranged.acceptable (h : Rearranged gs gs') (hgs : Acceptable gs) : Acceptable gs' := by
  refine ⟨?_, ?_⟩
  · obtain ⟨hs, hperm, hrespelled⟩ := h
    exact fits_of_respelled hrespelled fun x hx => hgs.fits x (hperm.mem_iff.2 hx)
  · have honce := hgs.once
    rw [map_setting?] at honce ⊢
    exact (h.assignments.map _).nodup honce

/-- Rearranged options are accepted too, and ask for the same. -/
theorem exists_accepted_of_rearranged (h : Rearranged gs gs')
    (accepted : Reading.ofArguments Given.none (written gs) = .accepted g) :
    ∃ g', Reading.ofArguments Given.none (written gs') = .accepted g' ∧
      g'.invocation = g.invocation := by
  obtain ⟨hgs, rfl⟩ := accepted_iff.1 accepted
  have hgs' := h.acceptable hgs
  refine ⟨_, accepted_iff.2 ⟨hgs', rfl⟩, invocation_congr ?_ ?_⟩
  · intro s
    refine Option.ext fun v => ?_
    rw [value?_ofGroups hgs'.once, value?_ofGroups hgs.once, h.assignments.mem_iff]
  · rw [Bool.eq_iff_iff, dryRun_ofGroups, dryRun_ofGroups, h.assignments.mem_iff]

theorem run_of_rearranged (h : Rearranged gs gs')
    (accepted : Reading.ofArguments Given.none (written gs) = .accepted g)
    (around : Surroundings) : around.run (written gs') = around.run (written gs) := by
  obtain ⟨g', accepted', hinvocation⟩ := exists_accepted_of_rearranged h accepted
  simp only [Surroundings.run, accepted, accepted', hinvocation]

/-! ## The settings of a run -/

def Invocation.text? (i : Invocation) : Setting → Option String
  | .project => some i.options.secret.project
  | .secret => some i.options.secret.secret
  | .version => some i.options.secret.version
  | .envFile => some i.options.envFile
  | .keyField => some i.options.keyField
  | .provider => some i.provider.name
  | .region => i.region

theorem name_of_ofName? {p : Provider} (h : Provider.ofName? false v = some p) : p.name = v := by
  simpa using List.find?_some h

theorem text?_invocation (admitted : ∀ v, g.value? .provider = some v →
    Setting.provider.admits v = true) (s : Setting) :
    g.invocation.text? s = (g.value? s).or s.default? := by
  cases s with
  | provider =>
      cases hv : g.value? .provider with
      | none =>
          simp only [Invocation.text?, Given.invocation, Given.valueOf, hv]
          decide
      | some v =>
          obtain ⟨p, hp⟩ := Option.isSome_iff_exists.1 (admitted v hv)
          simp [Invocation.text?, Given.invocation, Given.valueOf, hv, hp, name_of_ofName? hp]
  | region => simp [Invocation.text?, Given.invocation, Setting.default?]
  | project | secret | version | envFile | keyField =>
      simp only [Invocation.text?, Given.invocation, Given.valueOf]
      cases g.value? _ <;> rfl

theorem mem_assignments {e : Setting × String} :
    some e ∈ gs.map Group.assignment? ↔ .joined e.1 e.2 ∈ gs ∨ .apart e.1 e.2 ∈ gs := by
  rw [List.mem_map]
  constructor
  · rintro ⟨x, hx, he⟩
    cases x with
    | dryRun => cases he
    | joined s v =>
        cases he
        exact .inl hx
    | apart s v =>
        cases he
        exact .inr hx
  · rintro (hx | hx)
    · exact ⟨_, hx, rfl⟩
    · exact ⟨_, hx, rfl⟩

theorem none_mem_assignments : none ∈ gs.map Group.assignment? ↔ .dryRun ∈ gs := by
  rw [List.mem_map]
  constructor
  · rintro ⟨x, hx, he⟩
    cases x with
    | dryRun => exact hx
    | joined _ _ | apart _ _ => cases he
  · intro hx
    exact ⟨_, hx, rfl⟩

theorem admits_of_mem (hgs : Acceptable gs) (h : some (s, v) ∈ gs.map Group.assignment?) :
    s.admits v = true := by
  rcases mem_assignments.1 h with h | h
  · exact Group.fits_joined_iff.1 (hgs.fits _ h)
  · exact (Group.fits_apart_iff.1 (hgs.fits _ h)).2

/-- Accepted arguments are a row of options.  The same options in another order and other spellings
are accepted and ask for the same: each sets its setting to its value, and what is not set has its
default. -/
theorem options_in_any_order (accepted : Reading.ofArguments Given.none args = .accepted g)
    (operands : "--" ∉ args) :
    (∃ gs, written gs = args) ∧
    ∀ gs, written gs = args →
      (∀ gs', Rearranged gs gs' → ∃ g',
        Reading.ofArguments Given.none (written gs') = .accepted g' ∧
        g'.invocation = g.invocation) ∧
      (∀ s v, .joined s v ∈ gs ∨ .apart s v ∈ gs → g.invocation.text? s = some v) ∧
      (∀ s, (∀ v, .joined s v ∉ gs ∧ .apart s v ∉ gs) → g.invocation.text? s = s.default?) ∧
      (g.invocation.options.dryRun = true ↔ .dryRun ∈ gs) := by
  refine ⟨exists_written accepted operands, ?_⟩
  rintro gs rfl
  obtain ⟨hgs, hg⟩ := accepted_iff.1 accepted
  have hvalue : ∀ s v, g.value? s = some v ↔ .joined s v ∈ gs ∨ .apart s v ∈ gs := by
    intro s v
    rw [hg, value?_ofGroups hgs.once, mem_assignments]
  have htext : ∀ s, g.invocation.text? s = (g.value? s).or s.default? := by
    refine text?_invocation fun v hv => admits_of_mem hgs (mem_assignments.2 ?_)
    exact (hvalue _ v).1 hv
  refine ⟨?_, ?_, ?_, ?_⟩
  · intro gs' h
    exact exists_accepted_of_rearranged h accepted
  · intro s v h
    rw [htext, (hvalue s v).2 h, Option.some_or]
  · intro s h
    have hnone : g.value? s = none := by
      rw [Option.eq_none_iff_forall_ne_some]
      intro v hv
      rcases (hvalue s v).1 hv with hv | hv
      · exact (h v).1 hv
      · exact (h v).2 hv
    rw [htext, hnone, Option.none_or]
  · rw [← none_mem_assignments, ← dryRun_ofGroups, ← hg]
    rfl

/-- Values that hold equals signs, blanks and dashes, and a lone dash. -/
theorem options_in_any_order_of_odd_values :
    let args := ["--secret=a=b --c", "--region", "-", "--dry-run", "--env-file=--x"]
    let args' := ["--dry-run", "--env-file=--x", "--region=-", "--secret", "a=b --c"]
    ∃ g g', Reading.ofArguments Given.none args = .accepted g ∧
      Reading.ofArguments Given.none args' = .accepted g' ∧ g'.invocation = g.invocation ∧
      g.invocation.text? .secret = some "a=b --c" ∧ g.invocation.text? .region = some "-" ∧
      g.invocation.text? .project = Setting.project.default? := by
  intro args args'
  let gs : List Group :=
    [.joined .secret "a=b --c", .apart .region "-", .dryRun, .joined .envFile "--x"]
  let hs : List Group :=
    [.dryRun, .joined .envFile "--x", .apart .region "-", .joined .secret "a=b --c"]
  let gs' : List Group :=
    [.dryRun, .joined .envFile "--x", .joined .region "-", .apart .secret "a=b --c"]
  have acceptable : Acceptable gs := ⟨by decide, by decide⟩
  have hargs : written gs = args := rfl
  have accepted : Reading.ofArguments Given.none args = .accepted (Given.ofGroups gs) :=
    hargs ▸ accepted_iff.2 ⟨acceptable, rfl⟩
  have hrearranged : Rearranged gs gs' := by
    refine ⟨hs, by decide, ?_⟩
    exact .cons (.same _) (.cons (.same _) (.cons (.joined rfl) (.cons (.parted rfl) .nil)))
  obtain ⟨-, h⟩ := options_in_any_order accepted (by decide)
  obtain ⟨horder, hset, hdefault, -⟩ := h gs hargs
  obtain ⟨g', haccepted', hinvocation⟩ := horder gs' hrearranged
  refine ⟨_, g', accepted, haccepted', hinvocation, ?_, ?_, ?_⟩
  · exact hset .secret "a=b --c" (.inl (by decide))
  · exact hset .region "-" (.inr (by decide))
  · refine hdefault .project fun v => ?_
    simp [gs]

end EnvSync.CommandLine
