import Mathlib.Data.List.Nodup
import PatchReview.CommandLine.Options

/-!
# Arguments that name what to review

Settings written out as a flag and its values, one word each, are read back as
they are (`parse_words`), and their order does not matter as long as none is
given twice (`parse_of_perm`). No value may begin with a dash, since it would
be read as an option.
-/

namespace PatchReview.CommandLine

def IsPlain (word : String) : Prop := word.toList.head? ≠ some '-'

instance (word : String) : Decidable (IsPlain word) := inferInstanceAs (Decidable (_ ≠ _))

inductive Setting where
  | files (first : String) (others : List String)
  | provider (name : String)
  | model (name : String)
  | output (path : String)
  deriving DecidableEq

namespace Setting

def flag : Setting → Flag
  | files .. => .files
  | provider _ => .provider
  | model _ => .model
  | output _ => .output

def values : Setting → List String
  | files first others => first :: others
  | provider text | model text | output text => [text]

def words (setting : Setting) : List String := setting.flag.spelling :: setting.values

def set (options : Options) : Setting → Options
  | files first others => { options with files := first :: others }
  | provider name => { options with provider := some name }
  | model name => { options with model := some name }
  | output path => { options with output := some path }

theorem set_comm (h : a.flag ≠ b.flag) (options : Options) :
    set (set options a) b = set (set options b) a := by
  cases a <;> cases b <;> first | rfl | exact absurd rfl h

end Setting

-- ---------------------------------------------------------------------------
-- Words
-- ---------------------------------------------------------------------------

theorem classify_of_isPlain (plain : IsPlain word) : classify word = .ok (.value word) := by
  unfold IsPlain at plain
  unfold classify
  split
  case h_6 => rfl
  all_goals next start => exact absurd (by rw [start]; rfl) plain

theorem ne_separator_of_isPlain (plain : IsPlain word) : word ≠ "--" := by
  rintro rfl
  exact plain rfl

theorem classify_spelling (flag : Flag) :
    classify flag.spelling = .ok (.option flag.spelling (some flag) none) := by
  cases flag <;> decide +kernel

theorem spelling_ne_separator (flag : Flag) : flag.spelling ≠ "--" := by
  cases flag <;> decide

theorem classifyAll_cons (other : text ≠ "--") (first : classify text = .ok word)
    (rest : classifyAll texts = .ok words) : classifyAll (text :: texts) = .ok (word :: words) := by
  rw [classifyAll, if_neg other, first, rest]
  rfl

theorem classifyAll_append_of_isPlain {values : List String} (plain : ∀ v ∈ values, IsPlain v)
    (rest : classifyAll texts = .ok words) :
    classifyAll (values ++ texts) = .ok (values.map .value ++ words) := by
  induction values with
  | nil => exact rest
  | cons value values ih =>
    obtain ⟨first, others⟩ := List.forall_mem_cons.mp plain
    exact classifyAll_cons (ne_separator_of_isPlain first) (classify_of_isPlain first) (ih others)

theorem group_values_append (values : List String) (words : List Word) :
    group (values.map .value ++ words) =
      { group words with leading := values ++ (group words).leading } := by
  induction values with
  | nil => rfl
  | cons value values ih =>
    unfold group at ih ⊢
    rw [List.map_cons, List.cons_append, List.foldr_cons, ih]
    rfl

-- ---------------------------------------------------------------------------
-- Settings
-- ---------------------------------------------------------------------------

namespace Setting

def classified (setting : Setting) : List Word :=
  .option setting.flag.spelling (some setting.flag) none :: setting.values.map .value

def group (setting : Setting) : Group :=
  ⟨setting.flag.spelling, some setting.flag, none, setting.values⟩

def IsReadable (setting : Setting) : Prop := ∀ value ∈ setting.values, IsPlain value

instance (setting : Setting) : Decidable setting.IsReadable :=
  inferInstanceAs (Decidable (∀ value ∈ setting.values, IsPlain value))

variable {settings : List Setting}

theorem classifyAll_words (readable : ∀ setting ∈ settings, setting.IsReadable) :
    classifyAll (settings.flatMap words) = .ok (settings.flatMap classified) := by
  induction settings with
  | nil => rfl
  | cons setting rest ih =>
    obtain ⟨first, others⟩ := List.forall_mem_cons.mp readable
    rw [List.flatMap_cons, List.flatMap_cons]
    exact classifyAll_cons (spelling_ne_separator _) (classify_spelling _)
      (classifyAll_append_of_isPlain first (ih others))

theorem group_classified (settings : List Setting) :
    CommandLine.group (settings.flatMap classified) = ⟨[], settings.map group, []⟩ := by
  induction settings with
  | nil => rfl
  | cons setting rest ih =>
    have values := group_values_append setting.values (rest.flatMap classified)
    rw [ih] at values
    rw [List.flatMap_cons, classified, List.cons_append, CommandLine.group, List.foldr_cons]
    rw [CommandLine.group] at values
    rw [values]
    simp only [Grouped.add, List.append_nil]
    rfl

def OnlyFiles (parsed : Parsed) : Prop := ∀ source ∈ parsed.sources, source = .files

theorem exists_take {parsed : Parsed} (setting : Setting) (noHelp : parsed.options.help = false)
    (onlyFiles : OnlyFiles parsed) :
    ∃ sources, parsed.take setting.group =
        .ok ⟨setting.set parsed.options, sources, parsed.extra⟩ ∧
      ∀ source ∈ sources, source = .files := by
  have noOther : Flag.sources.find?
      (fun other => other != .files && parsed.sources.contains other) = none := by
    refine List.find?_eq_none.mpr fun other _ named => ?_
    obtain ⟨apart, among⟩ := Bool.and_eq_true_iff.mp named
    exact absurd (onlyFiles other (List.contains_iff_mem.mp among)) (by simpa using apart)
  rw [Parsed.take, if_neg (by rw [noHelp]; decide)]
  cases setting with
  | files first others =>
    refine ⟨.files :: parsed.sources, ?_, List.forall_mem_cons.mpr ⟨rfl, onlyFiles⟩⟩
    simp only [group, flag, Flag.arity, values, Parsed.addSource, noOther]
    rfl
  | provider | model | output =>
    refine ⟨parsed.sources, ?_, onlyFiles⟩
    simp only [group, flag, Flag.arity, values, List.append_nil]
    rfl

theorem help_set (setting : Setting) (options : Options) :
    (setting.set options).help = options.help := by
  cases setting <;> rfl

theorem exists_foldlM_take (parsed : Parsed) (settings : List Setting)
    (noHelp : parsed.options.help = false) (onlyFiles : OnlyFiles parsed) :
    ∃ sources, (settings.map group).foldlM Parsed.take parsed =
      .ok ⟨settings.foldl set parsed.options, sources, parsed.extra⟩ := by
  induction settings generalizing parsed with
  | nil => exact ⟨parsed.sources, rfl⟩
  | cons setting rest ih =>
    obtain ⟨sources, takes, still⟩ := exists_take setting noHelp onlyFiles
    rw [List.map_cons, List.foldlM_cons, takes]
    exact ih ⟨set parsed.options setting, sources, parsed.extra⟩
      ((help_set setting _).trans noHelp) still

end Setting

-- ---------------------------------------------------------------------------
-- Arguments
-- ---------------------------------------------------------------------------

open Setting (IsReadable)

theorem parse_words {settings : List Setting}
    (readable : ∀ setting ∈ settings, setting.IsReadable) :
    Options.parse (settings.flatMap Setting.words) = .ok (settings.foldl Setting.set {}) := by
  obtain ⟨sources, taken⟩ := Setting.exists_foldlM_take { extra := [] } settings rfl nofun
  unfold Options.parse
  rw [Setting.classifyAll_words readable]
  dsimp only [bind, Except.bind]
  rw [Setting.group_classified, taken]
  simp only [List.append_nil, List.isEmpty_nil, Bool.or_true, if_true]
  rfl

theorem foldl_set_of_perm {settings others : List Setting} (same : settings.Perm others)
    (once : (settings.map Setting.flag).Nodup) (options : Options) :
    settings.foldl Setting.set options = others.foldl Setting.set options := by
  refine same.foldl_eq' (fun a ha b hb options => ?_) options
  by_cases equal : a = b
  · rw [equal]
  · refine Setting.set_comm (fun flags => equal ?_) options
    exact List.inj_on_of_nodup_map once ha hb flags

theorem parse_of_perm {settings others : List Setting} (same : settings.Perm others)
    (once : (settings.map Setting.flag).Nodup)
    (readable : ∀ setting ∈ settings, setting.IsReadable) :
    Options.parse (others.flatMap Setting.words) = .ok (settings.foldl Setting.set {}) := by
  rw [foldl_set_of_perm same once]
  exact parse_words fun setting among => readable setting (same.mem_iff.mpr among)

end PatchReview.CommandLine
