import RecordSchema.Proofs.Settings.Accounting
import RecordSchema.Proofs.Settings.Precedence

/-! # The warnings of a load

Merging copies notices from draft to draft and logs nothing as a warning, so what a load logs as
warnings are the notices of the settings that it yields, each once and in their order.
-/
namespace RecordSchema
variable {ε α β : Type}

theorem Logged.warnings_write {level : Int} (h : level < Log.warning) (message : String) :
    (Logged.write level message : Logged ε Unit).warnings = [] := by
  have hl : ¬ Log.warning ≤ level := Int.not_le.mpr h
  simp [warnings, write, hl]

/-- A computation after another one gives no warning if neither of them does. -/
theorem Logged.warnings_bind_eq_nil {x : Logged ε α} {f : α → Logged ε β} (hx : x.warnings = [])
    (hf : ∀ a, (f a).warnings = []) : (x >>= f).warnings = [] := by
  cases h : x.result with
  | error e =>
    rw [bind_of_error h]
    exact hx
  | ok a => rw [warnings_bind h, hx, hf, List.append_nil]

namespace Settings
variable {tree : FileTree} {r : Request}

theorem addAll_warnings (ns more : List Notice) :
    (Notice.addAll ns more : Logged ε (List Notice)).warnings = [] := by
  induction more generalizing ns with
  | nil => rfl
  | cons n more ih => exact Logged.warnings_bind_eq_nil rfl ih

theorem merge_warnings (a b : Draft) : (a.merge b : Logged ε Draft).warnings = [] :=
  Logged.warnings_bind_eq_nil (addAll_warnings a.notices b.notices) fun _ => rfl

theorem defaultLayer_remarks : defaultLayer.remarks = [] := by decide

theorem defaults_warnings : Draft.defaults.warnings = [] := by
  have ht : (Draft.ofTable defaultTable defaultSource).warnings = [] := by
    rw [ofTable_warnings defaultTable_tellable]
    exact congrArg (List.map Notice.logged) defaultLayer_remarks
  exact Logged.warnings_bind_eq_nil (Logged.warnings_write (by decide) _) fun _ => ht

/-- A file is worth the remarks about its settings table, if it has one. -/
theorem ofFile_warnings {p : Path} (h : Readable tree p) :
    (Draft.ofFile tree p).warnings =
      ((source? tree p).toList.flatMap Source.remarks).map Notice.logged := by
  obtain ⟨entries, h, htell⟩ := h
  rw [source?_of_ok h]
  cases ht : tableOf? entries p with
  | none =>
    rw [Draft.ofFile, Logged.warnings_bind h, ht, Logged.warnings, readFile_log h]
    exact Logged.warnings_bind_eq_nil (Logged.warnings_write (by decide) _) fun _ => rfl
  | some t =>
    have hd : ¬ Log.warning ≤ Log.debug := by decide
    have hw := ofTable_warnings (htell t ht) p.text
    rw [Logged.warnings] at hw
    rw [ofFile_of_table h ht, Logged.warnings, List.filter_cons_of_neg (by simpa using hd), hw]
    simp

theorem mergeFiles_warnings {ps : List Path} (h : ∀ p ∈ ps, Readable tree p) (ls : List Source) :
    (mergeFiles tree (stacked ls) ps).warnings =
      ((ps.filterMap (source? tree)).flatMap Source.remarks).map Notice.logged := by
  induction ps generalizing ls with
  | nil => rfl
  | cons p ps ih =>
    obtain ⟨hp, hps⟩ := List.forall_mem_cons.mp h
    rw [mergeFiles, Logged.warnings_bind (ofFile_result hp), ofFile_warnings hp]
    cases hs : source? tree p with
    | none =>
      rw [List.filterMap_cons_none hs]
      exact ih hps ls
    | some l =>
      rw [List.filterMap_cons_some hs, Option.map_some,
        Logged.warnings_bind (merge_stacked ls [l]), merge_warnings, ih hps]
      simp

/-- Neither overrides nor freezing touch the notices. -/
theorem finish_notices {d : Draft} {t : Table} {s : Settings} (h : finish d t = .ok s) :
    s.notices = d.notices := by
  unfold finish at h
  split at h
  · cases h
  · rename_i d' ho
    have hn : d'.notices = d.notices := by
      rw [← Draft.override_notices d t, ho]
    unfold Draft.freeze at h
    split at h
    · cases h
      exact hn
    · cases h

theorem remarks_level {l : Source} {n : Notice} (h : n ∈ l.remarks) : n.level = .warning := by
  rw [Source.remarks, List.mem_append, unknownRemarks, List.mem_map, List.mem_filterMap] at h
  rcases h with ⟨e, -, rfl⟩ | ⟨k, -, hk⟩
  · rfl
  · obtain ⟨v, -, hv⟩ := Option.bind_eq_some_iff.mp hk
    obtain ⟨shown, -, rfl⟩ := Option.map_eq_some_iff.mp hv
    rfl

theorem load_notices_level {s : Settings} (h : (load tree r).result = .ok s) :
    ∀ n ∈ s.notices, n.level = .warning := by
  intro n hn
  rw [finish_notices ((load_of_loads (loads_of_ok h)).symm.trans h)] at hn
  obtain ⟨l, -, hn⟩ := List.mem_flatMap.mp hn
  exact remarks_level hn

/-- What a load logs as warnings are the notices of the settings. -/
theorem load_warnings {s : Settings} (h : (load tree r).result = .ok s) :
    (load tree r).warnings = s.notices.map Notice.logged := by
  have hl := loads_of_ok h
  obtain ⟨⟨files, hf⟩, hr⟩ := id hl
  have hn := finish_notices ((load_of_loads hl).symm.trans h)
  obtain rfl := files_eq hf
  have ho : (Logged.of (r.files tree)).result = .ok (r.discovered tree ++ r.extra) := hf
  rw [load, Logged.warnings_bind defaults_result, defaults_warnings, Logged.warnings_bind ho,
    Logged.warnings_bind (mergeFiles_of_readable hr [defaultLayer]), mergeFiles_warnings hr, hn]
  simp [Logged.of, Logged.warnings, stacked, Request.layers, defaultLayer_remarks]

end Settings

end RecordSchema
