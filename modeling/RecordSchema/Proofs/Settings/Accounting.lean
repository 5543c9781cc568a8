import Mathlib
import RecordSchema.Proofs.Settings.Layers
import RecordSchema.Proofs.Settings.Remarks
import RecordSchema.Proofs.Text.Strip

/-! # Every entry of a settings table is accounted for

The remarks about a table stand in its draft, unknown keys first, and are logged as warnings in the
same order. In which of the two kinds of settings files the table stands is of no account. Only a
known key with a number that is too long to be shown is not accounted for: it ends the reading.
-/
namespace RecordSchema

/-- What a computation logs as warnings or worse. -/
def Logged.warnings {ε α : Type} (x : Logged ε α) : List Log.Record :=
  x.log.filter fun r => decide (Log.warning ≤ r.level)

/-- The record that a warning leaves in the log. -/
def Notice.logged (n : Notice) : Log.Record := ⟨Log.warning, n.message⟩

theorem Logged.warnings_bind {ε α β : Type} {x : Logged ε α} {a : α} (h : x.result = .ok a)
    (f : α → Logged ε β) : (x >>= f).warnings = x.warnings ++ (f a).warnings := by
  rw [warnings, bind_of_ok h, List.filter_append]
  rfl

namespace Settings
variable {ε : Type} {t : Table} {source : String}

/-- A draft accounts for a table: each entry sets its value or is worth its one remark. -/
structure Draft.Accounts (d : Draft) (t : Table) (source : String) : Prop where
  sources : d.sources = [source]
  used : ∀ k text, (Key.name k, .text text) ∈ t → Text.strip text ≠ "" →
    d.get k = some (Text.strip text) ∧ entryRemark? source (k.name, .text text) = none
  ignored : ∀ k v, (Key.name k, v) ∈ t → (∀ text, v = .text text → Text.strip text = "") →
    d.get k = none ∧ ∃ shown, v.shown = .ok shown ∧
      entryRemark? source (k.name, v) = some (.warning (ignoredMessage source k.name shown))
  unknown : ∀ e ∈ t, (∀ k, e.1 ≠ Key.name k) →
    entryRemark? source e = some (.warning (unknownMessage source e.1))
  absent : ∀ k, Key.name k ∉ t.keys → d.get k = none
  stripped : ∀ k text, d.get k = some text → text ≠ "" ∧ Text.strip text = text
  ordered : d.notices = unknownRemarks source t ++ Key.all.filterMap (ignoredRemark? source t)
  once : d.notices.Perm (t.filterMap (entryRemark? source))
  counted : t.length = (Key.all.filter fun k => (d.get k).isSome).length + d.notices.length

/-! ## The log -/

theorem warn_warnings (ns : List Notice) (m : String) :
    (warn ns m : Logged ε (List Notice)).warnings = [(Notice.warning m).logged] := rfl

theorem warnUnknown_warnings (source : String) (ns : List Notice) (t : Table) :
    (warnUnknown source ns t : Logged ε (List Notice)).warnings =
      (unknownRemarks source t).map Notice.logged := by
  induction t generalizing ns with
  | nil => rfl
  | cons e t ih =>
    simp only [warnUnknown]
    cases hk : Key.isKnown e.1 with
    | true =>
      rw [if_pos rfl, ih]
      simp [unknownRemarks, hk]
    | false =>
      rw [if_neg (by decide), Logged.warnings_bind (warn_result ns _), warn_warnings, ih]
      simp [unknownRemarks, hk]

theorem textAt_warnings {k : Key} (h : ¬ Untold t k) (source : String) (ns : List Notice) :
    (textAt t k.name source ns).warnings =
      (ignoredRemark? source t k).toList.map Notice.logged := by
  unfold textAt ignoredRemark?
  cases ht : t.get? k.name with
  | none => rfl
  | some v =>
    cases hv : usableText? v with
    | some s => simp [hv, Logged.warnings]
    | none =>
      cases hs : v.shown with
      | error e => exact absurd ⟨v, ht, Value.shown_eq_error_iff.mp hs⟩ h
      | ok shown =>
        have hr : (Logged.of (Except.mapError Error.unwritten (.ok shown))).result = .ok shown :=
          rfl
        have hw : (warn ns (ignoredMessage source k.name shown) >>= fun ns => pure (none, ns) :
            Logged Error (Option String × List Notice)).warnings =
              [(Notice.warning (ignoredMessage source k.name shown)).logged] :=
          Logged.warnings_bind (warn_result ns _) _
        have hb := Logged.warnings_bind hr fun shown =>
          (warn ns (ignoredMessage source k.name shown) >>= fun ns => pure (none, ns) :
            Logged Error (Option String × List Notice))
        simpa [hv, hs, Option.filter_some, Except.toOption] using hb.trans hw

theorem readKeys_warnings (h : Tellable t) (source : String) (d : Draft) (ks : List Key) :
    (Draft.readKeys t source d ks).warnings =
      (ks.filterMap (ignoredRemark? source t)).map Notice.logged := by
  induction ks generalizing d with
  | nil => rfl
  | cons k ks ih =>
    rw [Draft.readKeys, Logged.warnings_bind (textAt_result (h k) source d.notices),
      textAt_warnings (h k), ih, ← List.map_append, List.filterMap_eq_flatMap_toList,
      List.filterMap_eq_flatMap_toList, List.flatMap_cons]

/-- The remarks about a table are logged as warnings. -/
theorem ofTable_warnings (h : Tellable t) (source : String) :
    (Draft.ofTable t source).warnings = (Source.remarks ⟨source, t⟩).map Notice.logged := by
  rw [Draft.ofTable, Logged.warnings_bind (warnUnknown_result source [] t), warnUnknown_warnings,
    readKeys_warnings h, Source.remarks, List.map_append]

/-! ## The two kinds of settings files -/

theorem readFile_log {tree : FileTree} {p : Path} {entries : Table}
    (h : (readFile tree p).result = .ok entries) : (readFile tree p).log = [] := by
  unfold readFile at h ⊢
  cases hr : tree.read p with
  | error e =>
    rw [hr] at h
    cases h
  | ok content =>
    rw [hr] at h
    cases hd : content.decode with
    | error f =>
      simp only [hd] at h
      cases h
    | ok s =>
      simp only [hd] at h ⊢
      split at h
      · rfl
      all_goals cases h

/-- A file whose settings table is found adds one line to the log and nothing else. -/
theorem ofFile_of_table {tree : FileTree} {p : Path} {entries : Table}
    (h : (readFile tree p).result = .ok entries) (ht : tableOf? entries p = some t) :
    Draft.ofFile tree p = ⟨⟨Log.debug, "Loaded settings from " ++ p.text⟩ ::
      (Draft.ofTable t p.text).log, (Draft.ofTable t p.text).result.map some⟩ := by
  rw [Draft.ofFile, Logged.bind_of_ok h, readFile_log h, ht]
  simp only [Logged.bind_of_ok (Logged.result_write ..)]
  cases hd : (Draft.ofTable t p.text).result with
  | error e => simp [Logged.bind_of_error hd, Logged.write, Except.map]
  | ok d => simp [Logged.bind_of_ok hd, Logged.write, Except.map]

/-! ## The whole table -/

theorem usableText?_eq_none_iff {v : Value} :
    usableText? v = none ↔ ∀ text, v = .text text → Text.strip text = "" := by
  rw [Option.eq_none_iff_forall_ne_some]
  constructor
  · rintro h text rfl
    by_contra hs
    exact h _ (usableText?_eq_some_iff.mpr ⟨text, rfl, hs, rfl⟩)
  · intro h text hv
    obtain ⟨s, rfl, hs, -⟩ := usableText?_eq_some_iff.mp hv
    exact hs (h s rfl)

theorem stacked_single_get (source : String) (t : Table) (k : Key) :
    (stacked [⟨source, t⟩]).get k = setting? t k := by
  rw [stacked_get]
  simp [lastSetting?, Source.setting?]

theorem stacked_single_notices (source : String) (t : Table) :
    (stacked [⟨source, t⟩]).notices = Source.remarks ⟨source, t⟩ := by
  simp [stacked]

theorem accounts_stacked (hn : t.keys.Nodup) (h : Tellable t) (source : String) :
    (stacked [⟨source, t⟩]).Accounts t source where
  sources := rfl
  used k text he hs := by
    have hg : setting? t k = some (Text.strip text) :=
      setting?_eq_some_iff.mpr ⟨text, (Table.get?_eq_some_iff hn).mpr he, hs, rfl⟩
    have hu : usableText? (.text text) = some (Text.strip text) :=
      usableText?_eq_some_iff.mpr ⟨text, rfl, hs, rfl⟩
    refine ⟨by rw [stacked_single_get, hg], ?_⟩
    rw [entryRemark?, if_pos (Key.isKnown_name k), hu]
    rfl
  ignored k v he hv := by
    have hu := usableText?_eq_none_iff.mpr hv
    have ht : t.get? k.name = some v := (Table.get?_eq_some_iff hn).mpr he
    have hg : setting? t k = none := by
      rw [setting?, ht]
      exact hu
    refine ⟨by rw [stacked_single_get, hg], ?_⟩
    cases hs : v.shown with
    | error e => exact absurd ⟨v, ht, Value.shown_eq_error_iff.mp hs⟩ (h k)
    | ok shown =>
      refine ⟨shown, rfl, ?_⟩
      rw [entryRemark?, if_pos (Key.isKnown_name k), hu, hs]
      rfl
  unknown e he hk := by
    have hu : ¬ Key.isKnown e.1 := by
      rw [Key.isKnown_iff]
      rintro ⟨k, h⟩
      exact hk k h
    rw [entryRemark?, if_neg hu]
  absent k hk := by
    rw [stacked_single_get, setting?, Table.get?_eq_none hk]
    rfl
  stripped k text hv := by
    rw [stacked_single_get] at hv
    obtain ⟨s, -, hs, rfl⟩ := setting?_eq_some_iff.mp hv
    exact ⟨hs, Text.strip_strip s⟩
  ordered := stacked_single_notices source t
  once := by
    rw [stacked_single_notices]
    exact remarks_perm hn h source
  counted := by
    simp only [stacked_single_notices, stacked_single_get]
    exact length_eq_add_remarks hn h source

theorem untold_iff (hn : t.keys.Nodup) {k : Key} :
    Untold t k ↔ ∃ v, (k.name, v) ∈ t ∧ v.HoldsLong := by
  simp only [Untold, Table.get?_eq_some_iff hn]

/-- Every entry of a table sets its value or is worth one remark, which is logged as a warning,
unless a known key has a number in its value that is too long, which ends the reading. The name of
the source shows in the remarks and in nothing else, so that it is of no account in which of the two
kinds of files the table stands. -/
theorem ofTable_accounts (t : Table) (hn : t.keys.Nodup) :
    ((∀ k v, (Key.name k, v) ∈ t → ¬ v.HoldsLong) →
      ∃ (value : Key → Option String) (remarks : List String), ∀ source, ∃ d : Draft,
        (Draft.ofTable t source).result = .ok d ∧ d.Accounts t source ∧
        (Draft.ofTable t source).warnings = d.notices.map Notice.logged ∧
        (∀ k, d.get k = value k) ∧ d.notices = remarks.map fun m => .warning (source ++ m)) ∧
    (∀ source e, (Draft.ofTable t source).result = .error e ↔
      e = .unwritten .tooManyDigits ∧ ∃ k v, (Key.name k, v) ∈ t ∧ v.HoldsLong) ∧
    ∀ tree p entries, (readFile tree p).result = .ok entries →
      (p.name ≠ sharedFileName ∧ entries = t ∨
        p.name = sharedFileName ∧ ∃ tool : Table, entries.get? "tool" = some (.table tool) ∧
          tool.get? "confql" = some (.table t)) →
      Draft.ofFile tree p = ⟨⟨Log.debug, "Loaded settings from " ++ p.text⟩ ::
        (Draft.ofTable t p.text).log, (Draft.ofTable t p.text).result.map some⟩ := by
  refine ⟨fun hl => ?_, fun source e => ?_, ?_⟩
  · have h : Tellable t := by
      intro k hk
      obtain ⟨v, hv, hlong⟩ := (untold_iff hn).mp hk
      exact hl k v hv hlong
    refine ⟨setting? t, (Source.remarks ⟨"", t⟩).map (·.message),
      fun source => ⟨stacked [⟨source, t⟩], ofTable_eq_stacked h source,
        accounts_stacked hn h source, ?_, stacked_single_get source t, ?_⟩⟩
    · rw [ofTable_warnings h, stacked_single_notices]
    · rw [stacked_single_notices, remarks_eq_map]
  · simp only [Draft.ofTable_eq_error_iff, untold_iff hn]
  · intro tree p entries h hp
    apply ofFile_of_table h
    rcases hp with ⟨hp, rfl⟩ | ⟨hp, tool, ht, hc⟩
    · rw [tableOf?, if_neg hp]
    · rw [tableOf?, if_pos hp, subtable?, ht, Option.bind_some, subtable?, hc]

/-- A table with an unknown key, a value that is no text and a text with blanks around it. -/
def mixedTable (n : Int) : Table :=
  [("hue", .int 3), ("tag_key", .int n), ("record", .text " a:B ")]

/-- Such a table in a file of its own and in the shared one. -/
def twoShapes : FileTree where
  files := [(["confql.toml"], .text "hue=3\ntag_key=3\nrecord=' a:B '"),
    (["pyproject.toml"], .text "[tool.confql]\nhue=3\ntag_key=3\nrecord=' a:B '")]
  directories := []
  work := []

theorem mixedTable_accounts :
    (mixedTable 3).keys.Nodup ∧
    (∃ d : Draft, (Draft.ofTable (mixedTable 3) "s").result = .ok d ∧
      d.Accounts (mixedTable 3) "s" ∧ d.get .record = some "a:B" ∧
      d.notices = unknownRemarks "s" (mixedTable 3) ++
        Key.all.filterMap (ignoredRemark? "s" (mixedTable 3))) ∧
    (∀ name ∈ [sharedFileName, ownFileName],
      Draft.ofFile twoShapes ⟨"", [name]⟩ = ⟨⟨Log.debug, "Loaded settings from " ++ name⟩ ::
        (Draft.ofTable (mixedTable 3) name).log,
        (Draft.ofTable (mixedTable 3) name).result.map some⟩) ∧
    (Draft.ofTable (mixedTable Text.leastLong) "s").result =
      .error (.unwritten .tooManyDigits) := by
  have hn : (mixedTable 3).keys.Nodup := by decide
  obtain ⟨ha, -, hf⟩ := ofTable_accounts (mixedTable 3) hn
  refine ⟨hn, ?_, ?_, ?_⟩
  · have hl : ∀ k v, (Key.name k, v) ∈ mixedTable 3 → ¬ v.HoldsLong := by
      intro k v hv
      have ht : ∀ entry ∈ mixedTable 3, entry.2.HasText := by decide
      exact fun hlong => Value.not_hasText_iff.mpr hlong (ht _ hv)
    obtain ⟨value, remarks, h⟩ := ha hl
    obtain ⟨d, hd, ha, -⟩ := h "s"
    have hm : (Key.record.name, .text " a:B ") ∈ mixedTable 3 :=
      List.mem_cons_of_mem _ (List.mem_cons_of_mem _ List.mem_cons_self)
    exact ⟨d, hd, ha, (ha.used .record " a:B " hm (by decide)).1, ha.ordered⟩
  · have hs : (readFile twoShapes ⟨"", [sharedFileName]⟩).result =
        .ok [("tool", .table [("confql", .table (mixedTable 3))])] := by cbv
    have ho : (readFile twoShapes ⟨"", [ownFileName]⟩).result = .ok (mixedTable 3) := by cbv
    intro name hm
    rcases List.mem_cons.mp hm with rfl | hm
    · exact hf twoShapes ⟨"", [sharedFileName]⟩ _ hs (.inr ⟨rfl, _, rfl, rfl⟩)
    · obtain rfl := List.mem_singleton.mp hm
      exact hf twoShapes ⟨"", [ownFileName]⟩ _ ho (.inl ⟨by decide, rfl⟩)
  · generalize hk : (Text.leastLong : Int) = n
    have hl : Value.HoldsLong (.int n) := .int (hk ▸ Text.isTooLong_leastLong)
    have hm : (Key.tagKey.name, Value.int n) ∈ mixedTable n :=
      List.mem_cons_of_mem _ List.mem_cons_self
    have hn : (mixedTable n).keys.Nodup := by
      show ["hue", "tag_key", "record"].Nodup
      decide
    exact ((ofTable_accounts (mixedTable n) hn).2.1 "s" _).mpr ⟨rfl, .tagKey, _, hm, hl⟩

end Settings

end RecordSchema
