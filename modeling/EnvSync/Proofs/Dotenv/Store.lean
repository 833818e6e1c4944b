/-
# Loading and saving

`Holds t path m` says that the env file at `path` is a regular file or nothing, and that
`m` is what it amounts to.  Of such a file there is nothing else to load (`Holds.eq_of_load`), and
saving a text makes it a file with that text (`lookUp_of_save`).

The loads that cannot succeed are told apart by what the path names, each with its own
failure.  Where there is nothing but the env file, loading and saving cannot fail
(`load_alone`, `save_alone`), nor can saving where not even that is there (`save_vacant`).
-/
import EnvSync.Dotenv.Store
import EnvSync.Proofs.Dotenv.Reload
import EnvSync.Proofs.FileTree.Course
import EnvSync.Proofs.Text.Utf8

namespace EnvSync.Dotenv

open FileTree

variable {t t' : FileTree} {path text : String} {content : List UInt8} {mode : Nat}

/-! ## What cannot be loaded -/

theorem load_of_unreachable {fault : Fault} (h : t.lookUp path = .error fault)
    (hf : fault ≠ .notFound) : load t path = .error ⟨.check, path⟩ := by
  rw [load, readText, h]
  cases fault with
  | notFound => exact absurd rfl hf
  | _ => rfl

theorem load_of_directory {closed : Bool} (h : t.lookUp path = .ok (.directory closed)) :
    load t path = .error ⟨.read, path⟩ := by
  simp only [load, readText, FileTree.read, h]

theorem load_of_notUtf8 {fault : Text.Utf8.Fault} (h : t.lookUp path = .ok (.file content mode))
    (hd : Text.Utf8.decode content = .error fault) : load t path = .error ⟨.read, path⟩ := by
  by_cases hm : ownerReads mode = true
  · simp only [load, readText, FileTree.read, h, if_pos hm, hd]
  · simp only [load, readText, FileTree.read, h, if_neg hm]

/-! ## What can be loaded -/

theorem load_of_absent (h : t.lookUp path = .error .notFound) : load t path = .ok .empty := by
  rw [load, readText, h]

theorem load_of_file (h : t.lookUp path = .ok (.file content mode)) (hm : ownerReads mode = true)
    (hd : Text.Utf8.decode content = .ok text) : load t path = .ok (parse text) := by
  simp only [load, readText, FileTree.read, h, if_pos hm, hd]

/-- What a label keeps is read with a line feed behind it. -/
theorem load_of_label (h : t.lookUp path = .ok (.device (.label content)))
    (hd : Text.Utf8.decode (content ++ [0x0A]) = .ok text) : load t path = .ok (parse text) := by
  simp only [load, readText, FileTree.read, h, hd]

/-- The env file at a path is a regular file or nothing, and amounts to these settings.
Nothing has to be there even when the directories on the way are: a path that leads
through a missing one and back out of it must not end at a device. -/
inductive Holds (t : FileTree) (path : String) : Settings → Prop
  | absent (missing : t.lookUp path = .error .notFound)
      (device : ∀ d, t.entry? (t.destination path) ≠ some (.device d)) : Holds t path .empty
  | file {content : List UInt8} {mode : Nat} {text : String}
      (found : t.lookUp path = .ok (.file content mode))
      (decodes : Text.Utf8.decode content = .ok text) : Holds t path (parse text)

/-- Where the env file is a regular file or nothing, its path leads to no device. -/
theorem Holds.not_device {m : Settings} (h : Holds t path m) (d : Device) :
    t.entry? (t.destination path) ≠ some (.device d) := by
  cases h with
  | absent _ device => exact device d
  | file found _ =>
      obtain ⟨l, hl, he⟩ := lookUp_eq_ok_iff.1 found
      rw [← eq_destination hl, he]
      simp

theorem Holds.named {m : Settings} (h : Holds t path m) : Named m := by
  cases h with
  | absent => exact fun _ hk => nomatch hk
  | file => exact named_parse _

theorem Holds.eq_of_load {m m' : Settings} (h : Holds t path m) (hl : load t path = .ok m') :
    m' = m := by
  cases h with
  | absent missing _ => exact (Except.ok.inj ((load_of_absent missing).symm.trans hl)).symm
  | @file content mode text found decodes =>
      by_cases hm : ownerReads mode = true
      · exact (Except.ok.inj ((load_of_file found hm decodes).symm.trans hl)).symm
      · simp only [load, readText, FileTree.read, found, if_neg hm] at hl
        cases hl

theorem Holds.load_eq {m : Settings} (h : Holds t path m)
    (readable : ∀ content mode, t.lookUp path = .ok (.file content mode) → ownerReads mode = true) :
    load t path = .ok m := by
  cases h with
  | absent missing _ => exact load_of_absent missing
  | file found decodes => exact load_of_file found (readable _ _ found) decodes

/-- Where settings can be loaded and the path leads to no device, there is a file that holds
them, or nothing. -/
theorem holds_of_load {m : Settings}
    (device : ∀ d, t.entry? (t.destination path) ≠ some (.device d))
    (h : load t path = .ok m) : Holds t path m := by
  cases hl : t.lookUp path with
  | error fault =>
      by_cases hf : fault = .notFound
      · subst hf
        obtain rfl := Except.ok.inj ((load_of_absent hl).symm.trans h)
        exact .absent hl device
      · exact nomatch (load_of_unreachable hl hf).symm.trans h
  | ok e =>
      cases e with
      | directory closed => exact nomatch (load_of_directory hl).symm.trans h
      | device d =>
          obtain ⟨l, hloc, he⟩ := lookUp_eq_ok_iff.1 hl
          exact absurd (eq_destination hloc ▸ he) (device d)
      | file content mode =>
          cases hd : Text.Utf8.decode content with
          | error fault => exact nomatch (load_of_notUtf8 hl hd).symm.trans h
          | ok text =>
              have held : Holds t path (parse text) := .file hl hd
              obtain rfl := held.eq_of_load h
              exact held

/-! ## Saving -/

/-- Where saving ends: with all steps done, or with the one cut short that failed. -/
theorem course_of_save {failed : Option Failure} (h : save t path text = (t', failed)) :
    ∃ done cut, (replacement path text).Course t done cut t' ∧
      failed = cut.map (fun s => ⟨.replace s, path⟩) ∧ (cut = none → done = Step.all) := by
  rw [save] at h
  cases hrun : (replacement path text).run t Step.all with
  | mk u cut =>
      rw [hrun] at h
      cases h
      obtain ⟨done, hcourse, hall⟩ := Replacement.course_of_run hrun
      exact ⟨done, cut, hcourse, rfl, hall⟩

theorem lookUp_of_save (device : ∀ d, t.entry? (t.destination path) ≠ some (.device d))
    (h : save t path text = (t', none)) :
    t'.lookUp path = .ok (.file (Text.Utf8.encode text) ownerOnly) := by
  obtain ⟨done, cut, hcourse, hcut, hall⟩ := course_of_save h
  cases cut with
  | some step => cases hcut
  | none =>
      obtain rfl := hall rfl
      exact Replacement.Course.lookUp_all (r := replacement path text) device hcourse

theorem holds_of_lookUp (h : t.lookUp path = .ok (.file (Text.Utf8.encode text) mode)) :
    Holds t path (parse text) :=
  .file h (Text.Utf8.decode_encode text)

theorem load_of_lookUp (h : t.lookUp path = .ok (.file (Text.Utf8.encode text) ownerOnly)) :
    load t path = .ok (parse text) :=
  load_of_file h (by decide) (Text.Utf8.decode_encode text)

/-! ## A directory with nothing else -/

/-- A working directory with an env file in it and nothing else. -/
def alone (content : List UInt8) (mode : Nat) : FileTree :=
  ⟨.ofList [(["w"], .directory false), (["w", ".env"], .file content mode)], ["w"]⟩

theorem locate_alone (content : List UInt8) (mode : Nat) :
    (alone content mode).locate ".env" = .ok ["w", ".env"] := by
  rfl

theorem entry?_alone (content : List UInt8) (mode : Nat) :
    entry? (alone content mode) ["w", ".env"] = some (.file content mode) := by
  rfl

theorem set_alone (content content' : List UInt8) (mode mode' : Nat) :
    (alone content mode).set ["w", ".env"] (.file content' mode') = alone content' mode' := by
  rfl

theorem lookUp_alone (content : List UInt8) (mode : Nat) :
    (alone content mode).lookUp ".env" = .ok (.file content mode) := by
  rw [lookUp, locate_alone]
  dsimp only
  rw [entry?_alone]

theorem entry?_destination_alone :
    entry? (alone content mode) (destination (alone content mode) ".env") =
      some (.file content mode) := by
  rw [← eq_destination (locate_alone content mode), entry?_alone]

theorem not_device_alone (d : Device) :
    entry? (alone content mode) (destination (alone content mode) ".env") ≠ some (.device d) := by
  rw [entry?_destination_alone]
  exact nofun

/-! Each step of saving there does what it is for. -/

theorem perform_createParents_here (t : FileTree) (text : String) :
    (replacement ".env" text).perform t .createParents = (t, none) := by
  have hparent : parent? ".env" = some "" := by rfl
  simp only [Replacement.perform, Replacement.missingParent?, replacement, hparent, true_or,
    if_true]

theorem perform_openFile_alone (h : ownerWrites mode = true) (content : List UInt8)
    (text : String) :
    (replacement ".env" text).perform (alone content mode) .openFile = (alone [] mode, none) := by
  simp only [Replacement.perform, Replacement.atFile, replacement, locate_alone, openAt,
    entry?_alone, if_pos h, set_alone]

theorem perform_writeContent_alone (mode : Nat) (text : String) :
    (replacement ".env" text).perform (alone [] mode) .writeContent =
      (alone (Text.Utf8.encode text) mode, none) := by
  simp only [Replacement.perform, Replacement.atFile, replacement, locate_alone, append,
    entry?_alone, set_alone, List.nil_append]
  split_ifs with hempty
  · rw [hempty]
  · rfl

theorem perform_restrict_alone (content : List UInt8) (mode : Nat) (text : String) :
    (replacement ".env" text).perform (alone content mode) .restrict =
      (alone content ownerOnly, none) := by
  simp only [Replacement.perform, Replacement.atFile, replacement, locate_alone, changeMode,
    entry?_alone, set_alone]

theorem save_alone (h : ownerWrites mode = true) (text : String) :
    save (alone content mode) ".env" text = (alone (Text.Utf8.encode text) ownerOnly, none) := by
  simp only [save, Step.all, Replacement.run, perform_createParents_here,
    perform_openFile_alone h, perform_writeContent_alone, perform_restrict_alone, Option.map_none]

theorem course_openFile_alone (h : ownerWrites mode = true) (content : List UInt8)
    (text : String) : (replacement ".env" text).Course (alone content mode)
      [.createParents, .openFile] none (alone [] mode) :=
  .step (s := .openFile) (.step (s := .createParents) .nil (perform_createParents_here _ _))
    (perform_openFile_alone h _ _)

theorem course_writeContent_alone (h : ownerWrites mode = true) (content : List UInt8)
    (text : String) : (replacement ".env" text).Course (alone content mode)
      [.createParents, .openFile, .writeContent] none (alone (Text.Utf8.encode text) mode) :=
  .step (s := .writeContent) (course_openFile_alone h _ _) (perform_writeContent_alone _ _)

theorem load_alone (h : ownerReads mode = true) (text : String) :
    load (alone (Text.Utf8.encode text) mode) ".env" = .ok (parse text) :=
  load_of_file (lookUp_alone _ _) h (Text.Utf8.decode_encode text)

theorem holds_alone (text : String) (mode : Nat) :
    Holds (alone (Text.Utf8.encode text) mode) ".env" (parse text) :=
  holds_of_lookUp (lookUp_alone _ _)

/-- The same working directory without the env file. -/
def vacant : FileTree := ⟨.ofList [(["w"], .directory false)], ["w"]⟩

theorem lookUp_vacant : vacant.lookUp ".env" = .error .notFound := by
  rfl

theorem not_device_vacant (d : Device) :
    entry? vacant (destination vacant ".env") ≠ some (.device d) := by
  have hnone : entry? vacant (destination vacant ".env") = none := by rfl
  rw [hnone]
  exact nofun

/-- Saving there makes the file, and what saving does to a file after that is the same. -/
theorem save_vacant (text : String) :
    save vacant ".env" text = (alone (Text.Utf8.encode text) ownerOnly, none) := by
  have located : vacant.locate ".env" = .ok ["w", ".env"] := by rfl
  have opens : vacant.openAt ["w", ".env"] ownerOnly = .ok (alone [] ownerOnly) := by rfl
  have opened : (replacement ".env" text).perform vacant .openFile = (alone [] ownerOnly, none) := by
    simp only [Replacement.perform, Replacement.atFile, replacement, located, opens]
  simp only [save, Step.all, Replacement.run, perform_createParents_here, opened,
    perform_writeContent_alone, perform_restrict_alone, Option.map_none]

end EnvSync.Dotenv
