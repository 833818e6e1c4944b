/-
# Values do not show

Two runs with the same options can differ in the values of the bundle and in those of the env
file, and in nothing else.  Then neither their results nor anything that they log tells them
apart, and the trees that they leave differ in contents only (`alike_run`): a value goes into
the text that is saved, and of that text a tree shows at most whether it is empty.

Of a payload that is no bundle a run tells the kind of what is wrong with it, and the name of
the field that it was to have, which is one of its options (`message_of_decode`).
-/
import EnvSync.Proofs.FileTree.Alike
import EnvSync.Proofs.Sync.Run

namespace EnvSync

/-! ## Env files with the same names -/

namespace Dotenv

open FileTree

variable {t₁ t₂ : FileTree} {path : String} {content₁ content₂ : List UInt8} {m : Settings}

/-- Both contents can be read, and have the same names in the same order. -/
def SameNames (content₁ content₂ : List UInt8) : Prop :=
  ∃ text₁ text₂, Text.Utf8.decode content₁ = .ok text₁ ∧ Text.Utf8.decode content₂ = .ok text₂ ∧
    (parse text₁).keys = (parse text₂).keys

/-- The trees are the same, except that an env file may have other values. -/
structure SameButValues (t₁ t₂ : FileTree) (path : String) : Prop where
  elsewhere : SameBut (t₁.destination path) t₁ t₂
  envFile : t₁.entry? (t₁.destination path) = t₂.entry? (t₁.destination path) ∨
    ∃ content₁ content₂ mode, SameNames content₁ content₂ ∧
      t₁.entry? (t₁.destination path) = some (.file content₁ mode) ∧
      t₂.entry? (t₁.destination path) = some (.file content₂ mode)

theorem sameButValues_alone {text₁ text₂ : String} (mode : Nat)
    (keys : (parse text₁).keys = (parse text₂).keys) :
    SameButValues (alone (Text.Utf8.encode text₁) mode) (alone (Text.Utf8.encode text₂) mode)
      ".env" where
  elsewhere := by
    rw [← eq_destination (locate_alone (Text.Utf8.encode text₁) mode),
      ← set_alone (Text.Utf8.encode text₁) (Text.Utf8.encode text₂) mode mode]
    exact sameBut_set _ _ _
  envFile := by
    rw [← eq_destination (locate_alone (Text.Utf8.encode text₁) mode)]
    have names : SameNames (Text.Utf8.encode text₁) (Text.Utf8.encode text₂) :=
      ⟨text₁, text₂, Text.Utf8.decode_encode text₁, Text.Utf8.decode_encode text₂, keys⟩
    exact .inr ⟨_, _, mode, names, entry?_alone _ _, entry?_alone _ _⟩

theorem SameButValues.alike (h : SameButValues t₁ t₂ path) : Alike t₁ t₂ := by
  refine ⟨h.elsewhere.start.symm, fun l => ?_⟩
  by_cases hl : l = t₁.destination path
  · subst hl
    rcases h.envFile with he | ⟨content₁, content₂, mode, -, h₁, h₂⟩
    · exact .inl he
    · exact .inr (.inl ⟨content₁, content₂, mode, h₁, h₂⟩)
  · exact .inl (h.elsewhere.entry l hl).symm

theorem SameButValues.lookUp (h : SameButValues t₁ t₂ path) :
    t₁.lookUp path = t₂.lookUp path ∨
      ∃ content₁ content₂ mode, SameNames content₁ content₂ ∧
        t₁.lookUp path = .ok (.file content₁ mode) ∧
        t₂.lookUp path = .ok (.file content₂ mode) := by
  have hlocate := h.alike.locate path
  cases hl : t₂.locate path with
  | error fault =>
      left
      rw [FileTree.lookUp, FileTree.lookUp, hlocate, hl]
  | ok l =>
      rw [hl] at hlocate
      have hdest := eq_destination hlocate
      subst hdest
      rcases h.envFile with he | ⟨content₁, content₂, mode, hnames, h₁, h₂⟩
      · left
        rw [FileTree.lookUp, FileTree.lookUp, hlocate, hl]
        dsimp only
        rw [he]
      · exact .inr ⟨content₁, content₂, mode, hnames, lookUp_eq_ok_iff.2 ⟨_, hlocate, h₁⟩,
          lookUp_eq_ok_iff.2 ⟨_, hl, h₂⟩⟩

theorem loadEvents_eq (h : SameButValues t₁ t₂ path) : loadEvents t₁ path = loadEvents t₂ path := by
  rcases h.lookUp with he | ⟨_, _, _, -, h₁, h₂⟩
  · rw [loadEvents, loadEvents, he]
  · rw [loadEvents, loadEvents, h₁, h₂]

theorem load_alike (h : SameButValues t₁ t₂ path) :
    (∃ f, load t₁ path = .error f ∧ load t₂ path = .error f) ∨
      ∃ e₁ e₂, load t₁ path = .ok e₁ ∧ load t₂ path = .ok e₂ ∧ e₁.keys = e₂.keys := by
  rcases h.lookUp with he | ⟨_, _, mode, ⟨text₁, text₂, hd₁, hd₂, hkeys⟩, h₁, h₂⟩
  · have hload : load t₁ path = load t₂ path := by simp only [load, readText, FileTree.read, he]
    cases hl : load t₂ path with
    | error f => exact .inl ⟨f, hload.trans hl, rfl⟩
    | ok e => exact .inr ⟨e, e, hload.trans hl, rfl, rfl⟩
  · by_cases hm : ownerReads mode = true
    · exact .inr ⟨_, _, load_of_file h₁ hm hd₁, load_of_file h₂ hm hd₂, hkeys⟩
    · refine .inl ⟨⟨.read, path⟩, ?_, ?_⟩
      · simp only [load, readText, FileTree.read, h₁, if_neg hm]
      · simp only [load, readText, FileTree.read, h₂, if_neg hm]

theorem encode_render_eq_nil_iff : Text.Utf8.encode (render m) = [] ↔ m.keys = [] := by
  have hencode : Text.Utf8.encode (render m) = [] ↔ (render m).toList = [] := by
    constructor
    · intro h
      have hdecode := Text.Utf8.decode_encode (render m)
      rw [h] at hdecode
      rw [← Except.ok.inj hdecode]
      rfl
    · intro h
      rw [String.toList_eq_nil_iff.1 h]
      rfl
  rw [hencode, toList_render, OrderedMap.keys]
  cases m.entries with
  | nil => exact ⟨fun _ => rfl, fun _ => rfl⟩
  | cons e es =>
      refine ⟨fun h => ?_, fun h => absurd h (List.cons_ne_nil _ _)⟩
      cases es with
      | nil => simp [Text.join, entryChars] at h
      | cons f es =>
          rw [List.map_cons, List.map_cons, Text.join_cons _ _ (by simp)] at h
          simp at h

theorem alike_save {m₁ m₂ : Settings} (h : Alike t₁ t₂) (keys : m₁.keys = m₂.keys) (path : String) :
    AlikeOutcomes (save t₁ path (render m₁)) (save t₂ path (render m₂)) := by
  have empty : (replacement path (render m₁)).content = [] ↔
      (replacement path (render m₂)).content = [] := by
    rw [replacement, replacement, encode_render_eq_nil_iff, encode_render_eq_nil_iff, keys]
  have place : (replacement path (render m₁)).path = (replacement path (render m₂)).path := rfl
  obtain ⟨htree, hfailure⟩ := h.run place empty Step.all
  exact ⟨htree, congrArg (Option.map _) hfailure⟩

theorem saveEvents_eq (h : Alike t₁ t₂) (path text₁ text₂ : String) :
    saveEvents t₁ path text₁ = saveEvents t₂ path text₂ := by
  rw [saveEvents, saveEvents, h.missingParent? rfl]
  rfl

end Dotenv

/-! ## Payloads that are no bundles -/

namespace Secret

variable {field : String} {payload : List UInt8} {cause₁ cause₂ cause : Cause}

/-- Causes of the same kind. -/
inductive Cause.SameKind : Cause → Cause → Prop
  | backend (detail₁ detail₂ : String) : SameKind (.backend detail₁) (.backend detail₂)
  | notUtf8 (fault₁ fault₂ : Text.Utf8.Fault) : SameKind (.notUtf8 fault₁) (.notUtf8 fault₂)
  | notJson : SameKind .notJson .notJson
  | notObject : SameKind .notObject .notObject
  | missingField (field₁ field₂ : String) : SameKind (.missingField field₁) (.missingField field₂)

/-- A payload that is there can be wrong in four ways. -/
theorem cases_of_decode (h : decode field payload = .error cause) :
    (∃ fault, cause = .notUtf8 fault) ∨ cause = .notJson ∨ cause = .notObject ∨
      cause = .missingField field := by
  rw [decode, readPayload] at h
  split at h
  · next hread =>
    cases h
    split at hread
    · cases hread
      exact .inl ⟨_, rfl⟩
    · split at hread
      · cases hread
        exact .inr (.inl rfl)
      · cases hread
        exact .inr (.inr (.inl rfl))
      · cases hread
  · rw [restoreField] at h
    split at h
    · cases h
      exact .inr (.inr (.inr rfl))
    · cases h

theorem message_of_decode {payload₁ payload₂ : List UInt8}
    (h₁ : decode field payload₁ = .error cause₁) (h₂ : decode field payload₂ = .error cause₂)
    (kind : cause₁.SameKind cause₂) : cause₁.message = cause₂.message := by
  cases kind with
  | backend => rcases cases_of_decode h₁ with ⟨_, h⟩ | h | h | h <;> cases h
  | notUtf8 => rfl
  | notJson => rfl
  | notObject => rfl
  | missingField =>
      have hfield : ∀ {p f}, decode field p = .error (.missingField f) → f = field := by
        intro p f h
        rcases cases_of_decode h with ⟨_, h⟩ | h | h | h <;> cases h
        rfl
      rw [hfield h₁, hfield h₂]

end Secret

/-! ## Runs -/

namespace Sync

open FileTree (Alike)

variable {b₁ b₂ : Backend} {o : Options} {t₁ t₂ : FileTree} {s₁ s₂ e₁ e₂ : Settings}

/-- What two runs show is the same. -/
structure AlikeRuns (x₁ x₂ : Outcome Report) : Prop where
  result : x₁.result = x₂.result
  actions : x₁.actions = x₂.actions
  tree : Alike x₁.tree x₂.tree

theorem report_congr (he : e₁.keys = e₂.keys) (hs : s₁.keys = s₂.keys) (o : Options) :
    Change.report ⟨e₁, s₁⟩ o = Change.report ⟨e₂, s₂⟩ o := by
  have hsize : (e₁.merge s₁).size = (e₂.merge s₂).size := by
    rw [OrderedMap.size_eq_length_keys, OrderedMap.size_eq_length_keys,
      OrderedMap.keys_merge_congr he hs]
  simp only [Change.report, Change.merged, Settings.classify, OrderedMap.mem_congr he, hs, hsize]

theorem alike_apply (h : Alike t₁ t₂) (he : e₁.keys = e₂.keys) (hs : s₁.keys = s₂.keys)
    (o : Options) : AlikeRuns (apply o ⟨e₁, s₁⟩ t₁) (apply o ⟨e₂, s₂⟩ t₂) := by
  have hreport := report_congr he hs o
  rw [apply, apply, hreport]
  split
  · exact ⟨rfl, rfl, h⟩
  · have hsave := Dotenv.alike_save h (OrderedMap.keys_merge_congr he hs) o.envFile
    have hevents := Dotenv.saveEvents_eq h o.envFile (Dotenv.render (e₁.merge s₁))
      (Dotenv.render (e₂.merge s₂))
    dsimp only [Change.merged]
    rw [hevents]
    generalize Dotenv.save t₁ o.envFile (Dotenv.render (e₁.merge s₁)) = x₁ at hsave ⊢
    generalize Dotenv.save t₂ o.envFile (Dotenv.render (e₂.merge s₂)) = x₂ at hsave ⊢
    obtain ⟨u₁, f₁⟩ := x₁
    obtain ⟨u₂, f₂⟩ := x₂
    obtain ⟨hu, rfl⟩ := hsave
    cases f₁ with
    | some f => exact ⟨rfl, rfl, hu⟩
    | none => exact ⟨rfl, rfl, hu⟩

theorem alike_overlay (h : Dotenv.SameButValues t₁ t₂ o.envFile) (hs : s₁.keys = s₂.keys) :
    AlikeRuns (overlay o s₁ t₁) (overlay o s₂ t₂) := by
  have hevents := Dotenv.loadEvents_eq h
  rcases Dotenv.load_alike h with ⟨f, h₁, h₂⟩ | ⟨e₁, e₂, h₁, h₂, he⟩
  · rw [overlay_of_unloaded h₁, overlay_of_unloaded h₂, hevents]
    exact ⟨rfl, rfl, h.alike⟩
  · rw [overlay_of_loaded h₁, overlay_of_loaded h₂, hevents]
    obtain ⟨hresult, hactions, htree⟩ := alike_apply h.alike he hs o
    exact ⟨hresult, congrArg (_ ++ ·) hactions, htree⟩

theorem message_of_undecoded {field : String} {payload₁ payload₂ : List UInt8}
    {cause₁ cause₂ : Secret.Cause} (secret : String)
    (wrong₁ : Secret.decode field payload₁ = .error cause₁)
    (wrong₂ : Secret.decode field payload₂ = .error cause₂) (kind : cause₁.SameKind cause₂) :
    (Failure.secret ⟨secret, cause₁⟩).message = (Failure.secret ⟨secret, cause₂⟩).message := by
  have hcause := Secret.message_of_decode wrong₁ wrong₂ kind
  unfold Failure.message Secret.Failure.message
  dsimp only
  rw [hcause]

/-- Runs with the same names do the same, down to the failure if they fail. -/
theorem alike_run (ask : askActions b₁ o.secret = askActions b₂ o.secret)
    (h₁ : bundleOf b₁ o = .ok s₁) (h₂ : bundleOf b₂ o = .ok s₂) (names : s₁.keys = s₂.keys)
    (trees : Dotenv.SameButValues t₁ t₂ o.envFile) : AlikeRuns (run b₁ o t₁) (run b₂ o t₂) := by
  rw [run_of_bundle h₁, run_of_bundle h₂, ask]
  obtain ⟨hresult, hactions, htree⟩ := alike_overlay trees names
  exact ⟨hresult, congrArg (_ ++ ·) hactions, htree⟩

end Sync
end EnvSync
