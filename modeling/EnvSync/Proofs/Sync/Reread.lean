/-
# What is read after a run

A real run leaves a text from which its settings need not come back: the values of a
bundle may hold carriage returns and escapes, and reading changes those.  But as long as
entries are told apart, names and places do come back (`parse_render_merge`), and then
two things follow.

* A second run with the same bundle puts the values back that reading changed, and so
  leaves the file as the first one did (`run_again`).
* A setting that the bundle lacks is changed just when its value is one that reading
  changes (`local_setting_kept_iff`).  Such a value can be there: between single quotes
  backslash and `n` are two characters, between the double quotes that a run writes they
  are a line break (`local_setting_changed`).
-/
import EnvSync.Proofs.Dotenv.Reload
import EnvSync.Proofs.Sync.Run

namespace EnvSync.Sync

open Dotenv (Escaped IsName Keeps Settled reread)

variable {b b' : Backend} {o : Options} {t : FileTree} {payload : List UInt8} {e s : Settings}
  {r r' : Report}

theorem bundleOf_of_payload (fetched : (b.reply o.secret).payload = .ok payload)
    (decoded : Secret.bundle o.secret.secret o.keyField payload = .ok s) : bundleOf b o = .ok s :=
  (bundleOf_of_ok fetched).trans decoded

/-- A real run leaves the names and the places of its settings, with values as they are read
again. -/
theorem parse_render_merge (held : Dotenv.Holds t o.envFile e)
    (named : ∀ k ∈ s.keys, IsName k.toList)
    (escaped : ∀ x ∈ (e.merge s).entries, Escaped '"' x.2.toList)
    (chain : (e.merge s).entries.IsChain fun x y => Keeps x.2 y.2) :
    Dotenv.parse (Dotenv.render (e.merge s)) = (e.merge s).mapValues fun _ => reread :=
  Dotenv.parse_render_eq_mapValues (held.named.merge named) escaped chain

/-! ## The same run again -/

theorem classify_of_forall_mem {m s : Settings} (h : ∀ k ∈ s, k ∈ m) :
    m.classify s = ([], s.keys) := by
  have hadded : s.keys.filter (· ∉ m) = [] :=
    List.filter_eq_nil_iff.2 fun k hk => by simpa using h k hk
  have hupdated : s.keys.filter (· ∈ m) = s.keys :=
    List.filter_eq_self.2 fun k hk => by simpa using h k hk
  rw [Settings.classify, hadded, hupdated]

/-- A second run with the same payload leaves the file byte for byte as the first one did,
and reports every name of the bundle as updated and none as added.  The bundle's own
values may hold anything that leaves entries apart. -/
theorem run_again (held : Dotenv.Holds t o.envFile e) (real : o.dryRun = false)
    (fetched : (b.reply o.secret).payload = .ok payload)
    (fetched' : (b'.reply o.secret).payload = .ok payload)
    (decoded : Secret.bundle o.secret.secret o.keyField payload = .ok s)
    (named : ∀ k ∈ s.keys, IsName k.toList)
    (escaped : ∀ x ∈ (e.merge s).entries, Escaped '"' x.2.toList)
    (last : ∀ x ∈ (e.merge s).entries, x.2.toList.getLast? ≠ some '\\')
    (settled : ∀ x ∈ (e.merge s).entries, x.1 ∉ s → Settled x.2.toList)
    (first : (run b o t).result = .ok r)
    (second : (run b' o (run b o t).tree).result = .ok r') :
    ∃ content, (run b o t).tree.lookUp o.envFile = .ok (.file content FileTree.ownerOnly) ∧
      (run b' o (run b o t).tree).tree.lookUp o.envFile =
        .ok (.file content FileTree.ownerOnly) ∧
      r'.added = [] ∧ r'.updated = s.keys ∧ r'.total = r.total := by
  have hs := bundleOf_of_payload fetched decoded
  have hs' := bundleOf_of_payload fetched' decoded
  obtain ⟨hreport, hfile⟩ := lookUp_of_run held real hs first
  have hparse := parse_render_merge held named escaped (Dotenv.isChain_keeps last)
  have held' := Dotenv.holds_of_lookUp hfile
  rw [hparse] at held'
  obtain ⟨hreport', hfile'⟩ := lookUp_of_run held' real hs' second
  -- What the second run reads differs from what the first one wrote only under names of the
  -- bundle, and there the bundle's values take its place.
  have hmerge : OrderedMap.merge ((e.merge s).mapValues fun _ => reread) s = e.merge s := by
    refine OrderedMap.mapValues_merge (fun k hk => OrderedMap.get?_merge_of_mem hk) ?_
    intro k v hk hv
    exact Dotenv.reread_eq_self_iff.2 (settled (k, v) (OrderedMap.get?_eq_some_iff.1 hv) hk)
  have hmem : ∀ k ∈ s, k ∈ (e.merge s).mapValues fun _ => reread := by
    intro k hk
    rw [OrderedMap.mem_iff_mem_keys, OrderedMap.keys_mapValues]
    exact OrderedMap.mem_merge.2 (.inr hk)
  have hclassify := classify_of_forall_mem hmem
  rw [hmerge] at hfile'
  refine ⟨_, hfile, hfile', ?_, ?_, ?_⟩
  · rw [hreport', Change.report, hclassify]
  · rw [hreport', Change.report, hclassify]
  · rw [hreport', hreport, Change.report, Change.report, Change.merged, Change.merged, hmerge]

/-- The bundle's value for `P` is read back with line breaks, and restored by the second run. -/
theorem run_again_of_unsettled_bundle :
    let text := "A=`l`\nP=old"
    let o : Options := ⟨Secret.Id.default, ".env", "K", false⟩
    let b := Backend.fixed "b" (.ok (Text.Utf8.encode "\x7b\"K\":\"k\",\"P\":\"a\\\\nb\\rc\"\x7d"))
    let s : Settings := ⟨[("K", "k"), ("P", "a\\nb\rc")], by decide⟩
    let t := Dotenv.alone (Text.Utf8.encode text) 0o644
    let t₁ := (run b o t).tree
    let t₂ := (run b o t₁).tree
    bundleOf b o = .ok s ∧
      (∃ m, Dotenv.load t₁ ".env" = .ok m ∧ m.get? "P" = some "a\nb\nc") ∧
      (∃ content, t₁.lookUp ".env" = .ok (.file content FileTree.ownerOnly) ∧
        t₂.lookUp ".env" = .ok (.file content FileTree.ownerOnly)) ∧
      ∃ r, (run b o t₁).result = .ok r ∧ r.added = [] ∧ r.updated = ["K", "P"] ∧ r.total = 3 := by
  intro text o b s t t₁ t₂
  have hparse : Dotenv.parse text = ⟨[("A", "l"), ("P", "old")], by decide⟩ := by cbv
  have decoded : Secret.bundle o.secret.secret o.keyField
      (Text.Utf8.encode "\x7b\"K\":\"k\",\"P\":\"a\\\\nb\\rc\"\x7d") = .ok s := by cbv
  have hs : bundleOf b o = .ok s := bundleOf_of_payload rfl decoded
  have hmerge : ((Dotenv.parse text).merge s).entries =
      [("A", "l"), ("P", "a\\nb\rc"), ("K", "k")] := by
    rw [hparse]
    rfl
  obtain ⟨first, htree⟩ := run_alone 0o644 rfl rfl rfl rfl hs text
  obtain ⟨second, -⟩ := run_alone FileTree.ownerOnly rfl rfl rfl rfl hs
    (Dotenv.render ((Dotenv.parse text).merge s))
  rw [← htree] at second
  have names : ∀ k ∈ s.keys, IsName k.toList := by
    simp only [s, List.forall_mem_cons, OrderedMap.keys, List.map_cons, List.map_nil,
      String.reduceToList]
    decide
  have values : ∀ x ∈ ((Dotenv.parse text).merge s).entries, Escaped '"' x.2.toList ∧
      x.2.toList.getLast? ≠ some '\\' ∧ (x.1 ∉ s → Settled x.2.toList) := by
    rw [hmerge]
    simp only [List.forall_mem_cons, String.reduceToList]
    decide
  obtain ⟨content, hfile, hfile', hadded, hupdated, htotal⟩ :=
    run_again (Dotenv.holds_alone text 0o644) rfl rfl rfl decoded names
      (fun x hx => (values x hx).1) (fun x hx => (values x hx).2.1)
      (fun x hx => (values x hx).2.2) first second
  refine ⟨hs, ?_, ⟨content, hfile, hfile'⟩, _, second, hadded, hupdated, ?_⟩
  · refine ⟨_, Dotenv.load_of_lookUp (htree ▸ Dotenv.lookUp_alone _ _), ?_⟩
    have hread := parse_render_merge (o := o) (Dotenv.holds_alone text 0o644) names
      (fun x hx => (values x hx).1) (Dotenv.isChain_keeps fun x hx => (values x hx).2.1)
    rw [hread, OrderedMap.get?_mapValues, OrderedMap.get?_merge_of_mem (by decide)]
    cbv
  · rw [htotal, Change.report, Change.merged, hparse]
    rfl

/-! ## Settings that the bundle lacks -/

theorem escaped_of_notMem {q : Char} {v : List Char} (h : q ∉ v) : Escaped q v := by
  rintro a b' rfl
  exact absurd (List.mem_append_right a List.mem_cons_self) h

/-- Where no value has a double quote and entries are told apart, a real run keeps a setting
that its bundle lacks if, and only if, its value has no carriage return and no escape. -/
theorem local_setting_kept_iff (held : Dotenv.Holds t o.envFile e) (real : o.dryRun = false)
    (fetched : (b.reply o.secret).payload = .ok payload)
    (decoded : Secret.bundle o.secret.secret o.keyField payload = .ok s)
    (named : ∀ k ∈ s.keys, IsName k.toList)
    (unquoted : ∀ x ∈ e.entries, '"' ∉ x.2.toList)
    (unquoted' : ∀ x ∈ s.entries, '"' ∉ x.2.toList)
    (apart : (e.merge s).entries.IsChain fun x y => Keeps x.2 y.2)
    (success : (run b o t).result = .ok r) :
    ∃ m, Dotenv.load (run b o t).tree o.envFile = .ok m ∧
      ∀ k, k ∉ s → (m.get? k = e.get? k ↔ ∀ v, e.get? k = some v → Settled v.toList) := by
  obtain ⟨-, hfile⟩ := lookUp_of_run held real (bundleOf_of_payload fetched decoded) success
  have hload := Dotenv.load_of_lookUp hfile
  have escaped : ∀ x ∈ (e.merge s).entries, Escaped '"' x.2.toList := by
    intro x hx
    rcases OrderedMap.mem_entries_merge hx with h | ⟨h, -⟩
    · exact escaped_of_notMem (unquoted' x h)
    · exact escaped_of_notMem (unquoted x h)
  rw [parse_render_merge held named escaped apart] at hload
  refine ⟨_, hload, fun k hk => ?_⟩
  rw [OrderedMap.get?_mapValues, OrderedMap.get?_merge_of_notMem hk]
  cases he : e.get? k with
  | none =>
      exact ⟨fun _ _ hv => (nomatch hv), fun _ => rfl⟩
  | some v =>
      rw [Option.map_some, Option.some.injEq, Dotenv.reread_eq_self_iff]
      constructor
      · rintro h _ ⟨⟩
        exact h
      · intro h
        exact h v rfl

/-- Of two settings between single quotes the one with an escape is changed. -/
theorem local_setting_kept_iff_of_two_settings :
    let text := "A='x'\nB='x\\ny'"
    let o : Options := ⟨Secret.Id.default, ".env", "K", false⟩
    let b := Backend.fixed "b" (.ok (Text.Utf8.encode "\x7b\"K\":\"k\"\x7d"))
    let t := Dotenv.alone (Text.Utf8.encode text) 0o644
    ∃ m, Dotenv.load (run b o t).tree ".env" = .ok m ∧ m.get? "A" = some "x" ∧
      m.get? "B" ≠ some "x\\ny" := by
  intro text o b t
  have hparse : Dotenv.parse text = ⟨[("A", "x"), ("B", "x\\ny")], by decide⟩ := by cbv
  have decoded : Secret.bundle o.secret.secret o.keyField
      (Text.Utf8.encode "\x7b\"K\":\"k\"\x7d") = .ok ⟨[("K", "k")], by decide⟩ := by cbv
  have hs : bundleOf b o = .ok _ := bundleOf_of_payload rfl decoded
  obtain ⟨success, -⟩ := run_alone 0o644 rfl rfl rfl rfl hs text
  have held := Dotenv.holds_alone text 0o644
  rw [hparse] at held
  obtain ⟨m, hload, hm⟩ := local_setting_kept_iff (o := o) held rfl rfl decoded
    (by decide) (by decide) (by decide) (by decide) success
  refine ⟨m, hload, ?_, ?_⟩
  · refine (hm "A" (by decide)).2 ?_
    rintro _ ⟨⟩
    decide
  · intro kept
    exact absurd ((hm "B" (by decide)).1 kept _ rfl) (by decide)

/-- Backslash and `n` between single quotes come back as a line break, although neither the file
nor the bundle has a double quote and the bundle lacks the setting. -/
theorem local_setting_changed :
    let text := "A='x\\ny'\n"
    let o : Options := ⟨Secret.Id.default, ".env", "K", false⟩
    let b := Backend.fixed "b" (.ok (Text.Utf8.encode "\x7b\"K\":\"k\"\x7d"))
    let t := Dotenv.alone (Text.Utf8.encode text) 0o644
    ∃ e s r m, Dotenv.load t ".env" = .ok e ∧ bundleOf b o = .ok s ∧
      (run b o t).result = .ok r ∧ Dotenv.load (run b o t).tree ".env" = .ok m ∧
      (∀ x ∈ e.entries ++ s.entries, '"' ∉ x.2.toList) ∧ (∀ k ∈ s.keys, IsName k.toList) ∧
      "A" ∉ s ∧ e.get? "A" = some "x\\ny" ∧ m.get? "A" = some "x\ny" := by
  intro text o b t
  have hparse : Dotenv.parse text = ⟨[("A", "x\\ny")], by decide⟩ := by cbv
  have hbundle : bundleOf b o = .ok ⟨[("K", "k")], by decide⟩ := by cbv
  obtain ⟨success, htree⟩ := run_alone 0o644 rfl rfl rfl rfl hbundle text
  rw [hparse] at htree
  have hload : Dotenv.load t ".env" = .ok ⟨[("A", "x\\ny")], by decide⟩ :=
    hparse ▸ Dotenv.load_alone rfl text
  have hreload : Dotenv.load (run b o t).tree ".env" =
      .ok ⟨[("A", "x\ny"), ("K", "k")], by decide⟩ := by
    rw [htree, Dotenv.load_alone rfl]
    cbv
  exact ⟨_, _, _, _, hload, hbundle, success, hreload, by decide, by decide, by decide, rfl, rfl⟩

end EnvSync.Sync
