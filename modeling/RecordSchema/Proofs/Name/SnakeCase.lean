import RecordSchema.Proofs.Name.CamelCase
import RecordSchema.Proofs.Schema.Fields
import RecordSchema.Record.Bundled

/-! # Names in snake case

A tag in snake case is a row of words in small letters with other characters between them. Camel
case drops what stands between the words, and only the capitals tell where a word begins. This is
enough to find the words again, as long as each of them but the first begins with a letter.
-/
namespace RecordSchema.Name
variable {c : Char} {cs rest sep w : List Char} {inside : Bool}

/-- No letters and no digits. -/
def Apart (s : String) : Prop := ∀ c ∈ s.toList, c.isAlphanum = false

instance (s : String) : Decidable (Apart s) := List.decidableBAll _ _

/-- A small letter, then small letters and digits. -/
def OpensSmall (w : List Char) : Prop := ∃ c cs, w = c :: cs ∧ c.isLower ∧ ∀ d ∈ cs, isSmall d

/-- A text of words in small letters, each but the first behind the separator that it is paired
with. -/
structure SnakeCase where
  before : String := ""
  first : String
  more : List (String × String) := []
  behind : String := ""
  before_apart : Apart before
  first_ne : first ≠ ""
  first_small : ∀ c ∈ first.toList, isSmall c
  separator_ne : ∀ p ∈ more, p.1 ≠ ""
  separator_apart : ∀ p ∈ more, Apart p.1
  more_small : ∀ p ∈ more, OpensSmall p.2.toList
  behind_apart : Apart behind

namespace SnakeCase

def text (t : SnakeCase) : String :=
  t.before ++ t.first ++ String.join (t.more.map fun p => p.1 ++ p.2) ++ t.behind

def words (t : SnakeCase) : List String := t.first :: t.more.map Prod.snd

/-- Single underscores between the words and nothing around them. -/
structure IsCanonical (t : SnakeCase) : Prop where
  before_eq : t.before = ""
  behind_eq : t.behind = ""
  separator_eq : ∀ p ∈ t.more, p.1 = "_"

end SnakeCase

/-! ## Words of a text -/

theorem scan_apart_append (h : ∀ d ∈ sep, d.isAlphanum = false) :
    scan false (sep ++ rest) = scan false rest := by
  induction sep with
  | nil => rfl
  | cons c sep ih =>
    obtain ⟨hc, h⟩ := List.forall_mem_cons.mp h
    have hs := scan_append_separator hc false [] (sep ++ rest)
    rw [scan, List.nil_append, List.nil_append] at hs
    rw [List.cons_append, hs, ih h]

theorem scan_append_apart (h : ∀ d ∈ sep, d.isAlphanum = false) :
    scan inside (cs ++ sep) = scan inside cs := by
  cases sep with
  | nil => rw [List.append_nil]
  | cons c sep =>
    obtain ⟨hc, h⟩ := List.forall_mem_cons.mp h
    have hs : scan false sep = [] := by
      have hs : scan false (sep ++ []) = scan false [] := scan_apart_append h
      rwa [List.append_nil, scan] at hs
    rw [scan_append_separator hc, hs, List.append_nil]

theorem scan_between (h : ∀ d ∈ sep, d.isAlphanum = false) (hne : sep ≠ []) :
    scan inside (cs ++ (sep ++ rest)) = scan inside cs ++ scan false rest := by
  obtain ⟨c, sep, rfl⟩ := List.exists_cons_of_ne_nil hne
  obtain ⟨hc, h⟩ := List.forall_mem_cons.mp h
  rw [List.cons_append, scan_append_separator hc, scan_apart_append h]

/-- A word ends before the next capital. -/
theorem scan_word_append (hc : isSmall c ∨ isCapital c ∧ inside = true)
    (hs : ∀ d ∈ cs, isSmall d) (hr : ∀ d ∈ rest.head?, isCapital d) :
    scan inside (c :: cs ++ rest) = (c :: cs) :: scan true rest := by
  have hstop : rest.takeWhile isSmall = [] ∧ rest.dropWhile isSmall = rest := by
    cases rest with
    | nil => exact ⟨rfl, rfl⟩
    | cons d rest =>
      have hd : ¬ isSmall d := fun hd => by
        have hcap : isCapital d := hr d rfl
        rw [isCapital_eq_false hd] at hcap
        cases hcap
      exact ⟨List.takeWhile_cons_of_neg hd, List.dropWhile_cons_of_neg hd⟩
  have htake : (cs ++ rest).takeWhile isSmall = cs := by
    rw [List.takeWhile_append_of_pos hs, hstop.1, List.append_nil]
  have hdrop : (cs ++ rest).dropWhile isSmall = rest := by
    rw [List.dropWhile_append_of_pos hs, hstop.2]
  rw [List.cons_append, scan]
  rcases hc with hc | ⟨hc, hi⟩
  · have hcap : ¬ isCapital c := by simp [isCapital_eq_false hc]
    rw [if_neg hcap, if_pos hc, htake, hdrop]
  · rw [if_pos hc]
    simp only [hi, true_or, if_true, htake, hdrop]

theorem scan_small (hne : w ≠ []) (h : ∀ d ∈ w, isSmall d) : scan inside w = [w] := by
  obtain ⟨c, cs, rfl⟩ := List.exists_cons_of_ne_nil hne
  obtain ⟨hc, hs⟩ := List.forall_mem_cons.mp h
  have hw : scan inside (c :: cs ++ []) = (c :: cs) :: scan true [] :=
    scan_word_append (.inl hc) hs (by simp)
  rwa [List.append_nil, scan] at hw

theorem OpensSmall.small (h : OpensSmall w) : ∀ d ∈ w, isSmall d := by
  obtain ⟨c, cs, rfl, hc, hs⟩ := h
  exact List.forall_mem_cons.mpr ⟨by simp [isSmall, hc], hs⟩

theorem OpensSmall.ne_nil (h : OpensSmall w) : w ≠ [] := by
  obtain ⟨c, cs, rfl, -⟩ := h
  exact List.cons_ne_nil c cs

/-- Written with a capital, a word that begins with a letter is cut off again. -/
theorem OpensSmall.scan_capitalize (h : OpensSmall w) (hr : ∀ d ∈ rest.head?, isCapital d) :
    scan true (capitalize w ++ rest) = capitalize w :: scan true rest := by
  obtain ⟨c, cs, rfl, hc, hs⟩ := h
  have ha : c.isAlpha := by simp [Char.isAlpha, hc]
  have hcap : isCapital c.toUpper := by rwa [isCapital, Char.isUpper_toUpper_eq_isAlpha]
  rw [capitalize, map_toLower_of_small hs]
  exact scan_word_append (.inr ⟨hcap, rfl⟩) hs hr

theorem OpensSmall.head?_capitalize (h : OpensSmall w) (rest : List Char) :
    ∀ d ∈ (capitalize w ++ rest).head?, isCapital d := by
  obtain ⟨c, cs, rfl, hc, -⟩ := h
  have ha : c.isAlpha := by simp [Char.isAlpha, hc]
  intro d hd
  have hd : c.toUpper = d := Option.some_inj.mp hd
  rw [← hd, isCapital, Char.isUpper_toUpper_eq_isAlpha, ha]

theorem scan_capitalized {ws : List (List Char)} (h : ∀ w ∈ ws, OpensSmall w) :
    scan true (ws.flatMap capitalize) = ws.map capitalize ∧
      ∀ d ∈ (ws.flatMap capitalize).head?, isCapital d := by
  induction ws with
  | nil =>
    refine ⟨?_, by simp⟩
    rw [List.flatMap_nil, scan]
    rfl
  | cons w ws ih =>
    obtain ⟨hw, h⟩ := List.forall_mem_cons.mp h
    obtain ⟨hs, hh⟩ := ih h
    rw [List.flatMap_cons, hw.scan_capitalize hh, hs]
    exact ⟨rfl, hw.head?_capitalize _⟩

/-- A row of words is cut at the separators. -/
theorem scan_row {first : List Char} {more : List (String × String)} (hne : first ≠ [])
    (hs : ∀ d ∈ first, isSmall d) (hn : ∀ p ∈ more, p.1 ≠ "") (ha : ∀ p ∈ more, Apart p.1)
    (hm : ∀ p ∈ more, OpensSmall p.2.toList) :
    scan false (first ++ more.flatMap fun p => p.1.toList ++ p.2.toList) =
      first :: more.map fun p => p.2.toList := by
  induction more generalizing first with
  | nil =>
    rw [List.flatMap_nil, List.append_nil]
    exact scan_small hne hs
  | cons p more ih =>
    obtain ⟨hn1, hn⟩ := List.forall_mem_cons.mp hn
    obtain ⟨ha1, ha⟩ := List.forall_mem_cons.mp ha
    obtain ⟨hm1, hm⟩ := List.forall_mem_cons.mp hm
    have hsep : p.1.toList ≠ [] := by simpa using hn1
    rw [List.flatMap_cons, List.append_assoc, scan_between ha1 hsep, scan_small hne hs,
      ih hm1.ne_nil hm1.small hn ha hm]
    rfl

namespace SnakeCase
variable (t : SnakeCase)

theorem text_toList : t.text.toList = t.before.toList ++ (t.first.toList ++
    t.more.flatMap (fun p => p.1.toList ++ p.2.toList) ++ t.behind.toList) := by
  simp [text, String.toList_join, List.flatMap_map]

/-- The words of a text in snake case are those it is made of. -/
theorem scan_text : scan false t.text.toList = t.words.map String.toList := by
  have hne : t.first.toList ≠ [] := by simpa using t.first_ne
  rw [text_toList, scan_apart_append t.before_apart, scan_append_apart t.behind_apart,
    scan_row hne t.first_small t.separator_ne t.separator_apart t.more_small]
  simp [words]

/-- Behind the first word, the words of the name are those of the text with capitals. -/
theorem lowerCamel_toList : (lowerCamel t.text).toList =
    t.first.toList ++ (t.more.map fun p => p.2.toList).flatMap capitalize := by
  have hw : scan false t.text.toList = t.first.toList :: t.more.map fun p => p.2.toList := by
    rw [scan_text]
    simp [words]
  rw [lowerCamel, String.toList_ofList, hw, camelChars, map_toLower_of_small t.first_small]

theorem scan_lowerCamel : scan false (lowerCamel t.text).toList =
    t.first.toList :: (t.more.map fun p => p.2.toList).map capitalize := by
  have hm : ∀ w ∈ t.more.map fun p => p.2.toList, OpensSmall w := by
    intro w hw
    obtain ⟨p, hp, rfl⟩ := List.mem_map.mp hw
    exact t.more_small p hp
  obtain ⟨hs, hh⟩ := scan_capitalized hm
  obtain ⟨c, cs, hf⟩ : ∃ c cs, t.first.toList = c :: cs :=
    List.exists_cons_of_ne_nil (by simpa using t.first_ne)
  have hsmall := t.first_small
  rw [hf] at hsmall
  obtain ⟨hc, hcs⟩ := List.forall_mem_cons.mp hsmall
  rw [lowerCamel_toList, hf, scan_word_append (.inl hc) hcs hh, hs]

/-- Camel case keeps the words of a text in snake case. -/
theorem words_lowerCamel : (Name.words (lowerCamel t.text)).map Text.lower = t.words := by
  have hm : ∀ p ∈ t.more, Text.lower (String.ofList (capitalize p.2.toList)) = p.2 := by
    intro p hp
    rw [Text.lower, String.toList_ofList, capitalize_map_toLower,
      map_toLower_of_small (t.more_small p hp).small, String.ofList_toList]
  have hf : Text.lower (String.ofList t.first.toList) = t.first := by
    rw [Text.lower, String.toList_ofList, map_toLower_of_small t.first_small, String.ofList_toList]
  rw [Name.words, scan_lowerCamel]
  simp only [List.map_cons, List.map_map, hf, words]
  exact congrArg (t.first :: ·) (List.map_congr_left hm)

theorem lowerCamel_eq_iff (t u : SnakeCase) :
    lowerCamel t.text = lowerCamel u.text ↔ t.words = u.words := by
  constructor
  · intro h
    rw [← t.words_lowerCamel, h, u.words_lowerCamel]
  · intro h
    rw [lowerCamel, lowerCamel, t.scan_text, u.scan_text, h]

theorem IsCanonical.text_eq {t : SnakeCase} (h : t.IsCanonical) :
    t.text = t.first ++ String.join (t.words.tail.map ("_" ++ ·)) := by
  have hm : (t.more.map fun p => p.1 ++ p.2) = t.words.tail.map ("_" ++ ·) := by
    simp only [words, List.tail_cons, List.map_map]
    exact List.map_congr_left fun p hp => by simp [h.separator_eq p hp]
  rw [text, h.before_eq, h.behind_eq, hm, String.empty_append, String.append_empty]

theorem IsCanonical.text_inj {t u : SnakeCase} (ht : t.IsCanonical) (hu : u.IsCanonical)
    (h : lowerCamel t.text = lowerCamel u.text) : t.text = u.text := by
  have hw := (lowerCamel_eq_iff t u).mp h
  have hf : t.first = u.first := (List.cons.inj hw).1
  rw [ht.text_eq, hu.text_eq, hw, hf]

end SnakeCase

/-! ## Tags of a record -/

/-- Fields with different tags of this kind have different names. -/
theorem nodup_externalName {s : Subject} {tagKey : String} {c : RecordClass}
    {ms : List MappedField} {ns : List Notice} (hc : s.record? = some c)
    (hm : (s.mapped tagKey).result = .ok (ms, ns))
    (ht : ∀ f ∈ c.fields, ∃ t : SnakeCase, t.IsCanonical ∧ f.tag? tagKey = some t.text)
    (hn : (c.fields.map (·.tag? tagKey)).Nodup) :
    (ms.map (·.descriptor.externalName)).Nodup := by
  obtain ⟨c', hints, ds, hc', -, hd, -, -, rfl, -⟩ := mapped_eq_ok_iff.mp hm
  cases hc.symm.trans hc'
  have htags : ds.map (fun d => some d.tag) = c.fields.map (·.tag? tagKey) := by
    rw [← List.forall₂_eq_eq_eq, List.forall₂_map_left_iff, List.forall₂_map_right_iff]
    exact hd.flip.imp fun _ _ h => h.tag_eq.symm
  rw [← htags] at hn
  have hcanonical : ∀ d ∈ ds, ∃ t : SnakeCase, t.IsCanonical ∧ t.text = d.tag := by
    intro d hmem
    obtain ⟨f, hf, hfd⟩ := exists_mem_left hd hmem
    obtain ⟨t, htc, htt⟩ := ht f hf
    exact ⟨t, htc, Option.some_inj.mp (htt.symm.trans hfd.tag_eq)⟩
  rw [List.map_map]
  refine List.Nodup.map_on ?_ hn.of_map
  intro d hd d' hd' he
  obtain ⟨t, htc, htt⟩ := hcanonical d hd
  obtain ⟨u, huc, hut⟩ := hcanonical d' hd'
  have hname : lowerCamel t.text = lowerCamel u.text := by
    rw [htt, hut]
    exact he
  have htag : d.tag = d'.tag := by
    rw [← htt, ← hut]
    exact htc.text_inj huc hname
  exact List.inj_on_of_nodup_map hn hd hd' (congrArg some htag)

/-- The words of a text in snake case can be read off its name, so that two such texts have one name
only if they have the same words. Different tags with single underscores between their words never
meet in a schema. -/
theorem snakeCase_survives (t u : SnakeCase) :
    (words (lowerCamel t.text)).map Text.lower = t.words ∧
    (lowerCamel t.text = lowerCamel u.text ↔ t.words = u.words) ∧
    (t.IsCanonical → u.IsCanonical → t.text ≠ u.text → lowerCamel t.text ≠ lowerCamel u.text) ∧
    ∀ (s : Subject) (tagKey : String) (c : RecordClass) (ms : List MappedField)
      (ns : List Notice), s.record? = some c → (s.mapped tagKey).result = .ok (ms, ns) →
      (∀ f ∈ c.fields, ∃ v : SnakeCase, v.IsCanonical ∧ f.tag? tagKey = some v.text) →
      (c.fields.map (·.tag? tagKey)).Nodup → (ms.map (·.descriptor.externalName)).Nodup := by
  refine ⟨t.words_lowerCamel, t.lowerCamel_eq_iff u, ?_, ?_⟩
  · intro ht hu hne he
    exact hne (ht.text_inj hu he)
  · intro s tagKey c ms ns hc hm ht hn
    exact nodup_externalName hc hm ht hn

/-- Two words, the first of which ends in a digit. -/
def parted : SnakeCase where
  first := "log2"
  more := [("_", "level")]
  before_apart := by decide
  first_ne := by decide
  first_small := List.all_eq_true.mp (by decide)
  separator_ne := by decide
  separator_apart := by decide
  more_small := by
    intro p hp
    cases List.mem_singleton.mp hp
    exact ⟨'l', ['e', 'v', 'e', 'l'], rfl, by decide, List.all_eq_true.mp (by decide)⟩
  behind_apart := by decide

/-- The same letters and digit as one word. -/
def joined : SnakeCase where
  first := "log2level"
  before_apart := by decide
  first_ne := by decide
  first_small := List.all_eq_true.mp (by decide)
  separator_ne := by simp
  separator_apart := by simp
  more_small := by simp
  behind_apart := by decide

def loggers : RecordClass :=
  ⟨recordLayer ⟨"meters", "Loggers"⟩ false
    [taggedField parted.text .intType (.int 1), taggedField joined.text .intType (.int 2)],
    [], ⟨"meters", TypeExpr.known, []⟩⟩

theorem parted_survives :
    parted.IsCanonical ∧ joined.IsCanonical ∧ parted.text ≠ joined.text ∧
    (words (lowerCamel parted.text)).map Text.lower = ["log2", "level"] ∧
    lowerCamel parted.text ≠ lowerCamel joined.text ∧
    ∃ ms ns, ((Subject.cls loggers).mapped defaultTagKey).result = .ok (ms, ns) ∧
      (ms.map (·.descriptor.externalName)).Nodup := by
  have hp : parted.IsCanonical := ⟨rfl, rfl, by decide⟩
  have hj : joined.IsCanonical := ⟨rfl, rfl, by decide⟩
  have hne : parted.text ≠ joined.text := by decide
  obtain ⟨hw, -, hn, hs⟩ := snakeCase_survives parted joined
  have hf : ∀ f ∈ loggers.fields, ∃ v : SnakeCase, v.IsCanonical ∧
      f.tag? defaultTagKey = some v.text := by
    intro f hf
    rcases List.mem_pair.mp hf with rfl | rfl
    · exact ⟨parted, hp, by decide⟩
    · exact ⟨joined, hj, by decide⟩
  have hm : ∃ ms ns, ((Subject.cls loggers).mapped defaultTagKey).result = .ok (ms, ns) :=
    ⟨_, _, rfl⟩
  obtain ⟨ms, ns, hm⟩ := hm
  exact ⟨hp, hj, hne, hw, hn hp hj hne, ms, ns, hm,
    hs (.cls loggers) defaultTagKey loggers ms ns rfl hm hf (by decide)⟩

/-- A word that begins with a digit has no capital and is not found again. -/
example : lowerCamel "log_2" = lowerCamel "log2" := by decide +kernel

end RecordSchema.Name
