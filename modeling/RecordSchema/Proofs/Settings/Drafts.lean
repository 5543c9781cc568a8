import RecordSchema.Proofs.Settings.Source
import RecordSchema.Settings.Draft

/-! # Drafts as layers

Merging lays one draft over another: what the upper one sets counts, and the sources and notices of
both are kept in order. Laying over is associative, and the empty draft changes nothing on either
side. A draft is frozen by reading its four values, and fails if one of them is open.
-/
namespace RecordSchema.Settings
variable {ε : Type} {d : Draft} {s : Settings} {e : Error} {k : Key}

namespace Draft

/-- The second draft laid over the first. -/
def overlay (a b : Draft) : Draft where
  record := b.record <|> a.record
  tagKey := b.tagKey <|> a.tagKey
  outputType := b.outputType <|> a.outputType
  inputType := b.inputType <|> a.inputType
  sources := a.sources ++ b.sources
  notices := a.notices ++ b.notices

theorem merge_result (a b : Draft) :
    (a.merge b : Logged ε Draft).result = .ok (a.overlay b) := by
  rw [merge, Logged.result_bind, Notice.addAll_result, ok_bind, Logged.result_pure]
  rfl

/-- A draft is made of its four values, its sources and its notices. -/
theorem ext_get {a b : Draft} (hg : ∀ k, a.get k = b.get k) (hs : a.sources = b.sources)
    (hn : a.notices = b.notices) : a = b := by
  have hr : a.record = b.record := hg .record
  have ht : a.tagKey = b.tagKey := hg .tagKey
  have ho : a.outputType = b.outputType := hg .outputType
  have hi : a.inputType = b.inputType := hg .inputType
  cases a
  cases b
  simp only [mk.injEq]
  exact ⟨hr, ht, ho, hi, hs, hn⟩

@[simp] theorem overlay_get (a b : Draft) (k : Key) :
    (a.overlay b).get k = (b.get k).or (a.get k) := by
  cases k <;> exact Option.orElse_eq_or

theorem overlay_assoc (a b c : Draft) :
    a.overlay (b.overlay c) = (a.overlay b).overlay c := by
  refine ext_get (fun k => ?_) (List.append_assoc ..).symm (List.append_assoc ..).symm
  simp only [overlay_get, Option.or_assoc]

theorem empty_overlay (d : Draft) : ({} : Draft).overlay d = d := by
  refine ext_get (fun k => ?_) rfl rfl
  have hk : ({} : Draft).get k = none := by cases k <;> rfl
  rw [overlay_get, hk, Option.or_none]

theorem overlay_empty (d : Draft) : d.overlay {} = d := by
  refine ext_get (fun k => ?_) (List.append_nil _) (List.append_nil _)
  have hk : ({} : Draft).get k = none := by cases k <;> rfl
  rw [overlay_get, hk, Option.none_or]

/-! ## Freezing -/

theorem mem_missingKeys : k ∈ d.missingKeys ↔ d.get k = none := by
  simp [missingKeys, Key.mem_all]

theorem freeze_of_missing (h : d.get k = none) :
    d.freeze = .error (.missing (d.missingKeys.map Key.name)) := by
  unfold freeze
  split
  · rename_i hr ht ho hi
    cases k <;> simp_all [get]
  · rfl

theorem freeze_of_set {value : Key → String} (h : ∀ k, d.get k = some (value k)) :
    d.freeze = .ok ⟨value .record, value .tagKey, value .outputType, value .inputType, d.sources,
      d.notices⟩ := by
  have hr : d.record = some (value .record) := h .record
  have ht : d.tagKey = some (value .tagKey) := h .tagKey
  have ho : d.outputType = some (value .outputType) := h .outputType
  have hi : d.inputType = some (value .inputType) := h .inputType
  rw [freeze, hr, ht, ho, hi]

theorem freeze_eq_ok_iff : d.freeze = .ok s ↔
    (∀ k, d.get k = some (s.get k)) ∧ s.sources = d.sources ∧ s.notices = d.notices := by
  constructor
  · intro h
    have hs : ∀ k, ∃ v, d.get k = some v := by
      intro k
      rw [← Option.ne_none_iff_exists']
      intro hk
      rw [freeze_of_missing hk] at h
      cases h
    choose value hv using hs
    rw [freeze_of_set hv] at h
    cases h
    refine ⟨fun k => ?_, rfl, rfl⟩
    rw [hv]
    cases k <;> rfl
  · rintro ⟨hg, hs, hn⟩
    rw [freeze_of_set hg, ← hs, ← hn]
    rfl

theorem freeze_eq_error_iff : d.freeze = .error e ↔
    (∃ k, d.get k = none) ∧ e = .missing (d.missingKeys.map Key.name) := by
  constructor
  · intro h
    by_cases hk : ∃ k, d.get k = none
    · obtain ⟨k, hn⟩ := id hk
      rw [freeze_of_missing hn] at h
      cases h
      exact ⟨hk, rfl⟩
    · choose value hv using fun k => Option.ne_none_iff_exists'.mp (not_exists.mp hk k)
      rw [freeze_of_set hv] at h
      cases h
  · rintro ⟨⟨k, hk⟩, rfl⟩
    exact freeze_of_missing hk

end Draft

@[simp] theorem thaw_get (s : Settings) (k : Key) : s.thaw.get k = some (s.get k) := by
  cases k <;> rfl

theorem freeze_thaw (s : Settings) : s.thaw.freeze = .ok s :=
  Draft.freeze_eq_ok_iff.mpr ⟨thaw_get s, rfl, rfl⟩

/-- What a draft sets counts before the settings that it is laid over. -/
theorem freeze_overlay_thaw (s : Settings) (d : Draft) :
    ∃ f, (s.thaw.overlay d).freeze = .ok f ∧
      (∀ k, f.get k = (d.get k).getD (s.get k)) ∧
      f.sources = s.sources ++ d.sources ∧ f.notices = s.notices ++ d.notices := by
  have hv : ∀ k, (s.thaw.overlay d).get k = some ((d.get k).getD (s.get k)) := by
    intro k
    rw [Draft.overlay_get, thaw_get, Option.or_some]
  refine ⟨_, Draft.freeze_of_set hv, fun k => ?_, rfl, rfl⟩
  cases k <;> rfl

/-- Drafts are layers: merging is associative and has the empty draft as its unit. Freezing fails
if and only if a value is open, names the open ones in the order of the keys, and is undone by
thawing; a draft merged into thawed settings wins where it sets a value. -/
theorem drafts_are_layers :
    (∀ a b c : Draft, ∃ d, (b.merge c >>= a.merge : Logged ε Draft).result = .ok d ∧
      (a.merge b >>= fun ab => ab.merge c : Logged ε Draft).result = .ok d) ∧
    (∀ d : Draft, (({} : Draft).merge d : Logged ε Draft).result = .ok d ∧
      (d.merge {} : Logged ε Draft).result = .ok d) ∧
    (∀ d : Draft, ((∃ e, d.freeze = .error e) ↔ ∃ k, d.get k = none) ∧
      (∀ e, d.freeze = .error e → e.isConfig = true ∧
        ∃ ks : List Key, ks.Sublist [.record, .tagKey, .outputType, .inputType] ∧
          (∀ k, k ∈ ks ↔ d.get k = none) ∧
          e.message = "Missing settings value(s): " ++ ", ".intercalate (ks.map Key.name)) ∧
      ∀ s, d.freeze = .ok s ↔ (∀ k, d.get k = some (s.get k)) ∧ s.sources = d.sources ∧
        s.notices = d.notices) ∧
    (∀ s : Settings, s.thaw.freeze = .ok s) ∧
    ∀ (s : Settings) (d : Draft), ∃ m f, (s.thaw.merge d : Logged ε Draft).result = .ok m ∧
      m.freeze = .ok f ∧ (∀ k, f.get k = (d.get k).getD (s.get k)) ∧
      f.sources = s.sources ++ d.sources ∧ f.notices = s.notices ++ d.notices := by
  refine ⟨fun a b c => ?_, fun d => ?_, fun d => ⟨?_, ?_, ?_⟩, freeze_thaw, fun s d => ?_⟩
  · refine ⟨a.overlay (b.overlay c), ?_, ?_⟩
    · rw [Logged.result_bind, Draft.merge_result, ok_bind, Draft.merge_result]
    · rw [Logged.result_bind, Draft.merge_result, ok_bind, Draft.merge_result,
        Draft.overlay_assoc]
  · exact ⟨by rw [Draft.merge_result, Draft.empty_overlay],
      by rw [Draft.merge_result, Draft.overlay_empty]⟩
  · simp only [Draft.freeze_eq_error_iff, exists_and_left, exists_eq, and_true]
  · intro e he
    obtain ⟨-, rfl⟩ := Draft.freeze_eq_error_iff.mp he
    exact ⟨rfl, d.missingKeys, List.filter_sublist, fun k => Draft.mem_missingKeys, rfl⟩
  · exact fun s => Draft.freeze_eq_ok_iff
  · obtain ⟨f, hf, hl⟩ := freeze_overlay_thaw s d
    exact ⟨_, f, Draft.merge_result _ _, hf, hl⟩

/-- A draft in which one value is set. -/
def sketch : Draft :=
  { tagKey := some "json", sources := ["sketch"], notices := [.warning "rough"] }

def framed : Settings := ⟨"m:R", "yaml", "Query", "Change", ["frame"], []⟩

theorem sketch_framed :
    (∃ e, sketch.freeze = .error e ∧
      e.message = "Missing settings value(s): record, output_type, input_type" ∧
      ∃ ks : List Key, ks.Sublist [.record, .tagKey, .outputType, .inputType] ∧
        (∀ k, k ∈ ks ↔ sketch.get k = none) ∧
        e.message = "Missing settings value(s): " ++ ", ".intercalate (ks.map Key.name)) ∧
    ∃ m f, (framed.thaw.merge sketch : Logged Error Draft).result = .ok m ∧ m.freeze = .ok f ∧
      f.get .record = "m:R" ∧ f.get .tagKey = "json" ∧ f.sources = ["frame", "sketch"] := by
  obtain ⟨-, -, hf, -, hm⟩ := drafts_are_layers
  obtain ⟨-, he, -⟩ := hf sketch
  obtain ⟨-, hk⟩ := he _ rfl
  obtain ⟨m, f, hr, hz, hg, hs, -⟩ := hm framed sketch
  exact ⟨⟨_, rfl, by decide, hk⟩, m, f, hr, hz, hg .record, hg .tagKey, hs⟩

end RecordSchema.Settings
