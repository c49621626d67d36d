import Mathlib.Algebra.Group.Nat.Defs
import TimeTable.CommandLine.Run
import TimeTable.Proofs.Text.Numeral

/-!
# Where settings come from

Each setting is looked for by itself: in its variable, then in the first file that makes sense, and it has
its default otherwise. A variable that is not valid counts as one that is not set, and a file that makes
no sense as one that is not there, so neither touches any other setting.
-/

namespace TimeTable

/-! ### Letter case -/

namespace Text

/-- Only one character that is no ASCII capital has a small letter in ASCII. -/
lemma lower_eq_toLower {c : Char} (h : c ≠ '\u212A') : Text.lower c = c.toLower := by
  rw [Text.lower, if_neg h, Text.lowerAscii]
  by_cases hcapital : c.val ≥ 'A'.val ∧ c.val ≤ 'Z'.val
  -- Adding 32 to a capital of ASCII does not leave the words, so both ways to add agree.
  · have hle : c.toNat ≤ 90 := hcapital.2
    have hsum : c.toNat + 32 = (c.val + 32).toNat := by
      rw [UInt32.toNat_add, Nat.mod_eq_of_lt]
      · rfl
      · show c.toNat + 32 < _
        omega
    have hsmall : c.toLower = ⟨c.val + 32, _⟩ := dif_pos hcapital
    rw [if_pos (by exact hcapital), hsum, hsmall]
    exact Char.ofNat_toNat ⟨c.val + 32, _⟩
  · have hkept : c.toLower = c := dif_neg hcapital
    rw [if_neg (by exact hcapital), hkept]

lemma map_lower_eq_iff {s word : List Char} (hk : 'k' ∉ word)
    (hkelvin : '\u212A' ∉ word) : s.map Text.lower = word ↔ s.map Char.toLower = word := by
  induction s generalizing word with
  | nil => rfl
  | cons c s ih =>
    cases word with
    | nil => simp
    | cons d word =>
      rw [List.mem_cons, not_or] at hk hkelvin
      rw [List.map_cons, List.map_cons, List.cons.injEq, List.cons.injEq, ih hk.2 hkelvin.2]
      -- The two ways to lower differ in one sign, which the words do not have, nor the letter it is lowered
      -- to.
      by_cases hc : c = '\u212A'
      · subst hc
        have hsmall : Text.lower '\u212A' = 'k' := by decide
        have hkept : Char.toLower '\u212A' = '\u212A' := by decide
        rw [hsmall, hkept]
        simp [hk.1, hkelvin.1]
      · rw [lower_eq_toLower hc]

lemma lowered_eq_iff {s : String} {word : String} (hk : 'k' ∉ word.toList)
    (hkelvin : '\u212A' ∉ word.toList) : Text.lowered s = word ↔ s.toLower = word := by
  have hsmall : s.toLower = s.map Char.toLower := rfl
  rw [← String.toList_inj, ← String.toList_inj, Text.lowered, String.toList_ofList, hsmall,
    String.toList_map]
  exact map_lower_eq_iff hk hkelvin

end Text

/-! ### Settings -/

/-- A setting of the program. -/
inductive Setting where
  | parallel
  | minGroups
  | minRows
  | level
  | format
deriving DecidableEq

namespace Setting

def Value : Setting → Type
  | parallel => Bool
  | minGroups | minRows => Nat
  | level | format => String

def get (config : Config) : (s : Setting) → s.Value
  | parallel => config.engine.parallel
  | minGroups => config.engine.minGroups
  | minRows => config.engine.minRows
  | level => config.logging.level
  | format => config.logging.format

/-- The value of a setting that is given nowhere. -/
def default : (s : Setting) → s.Value
  | parallel => true
  | minGroups => (64 : Nat)
  | minRows => (100000 : Nat)
  | level => "warn"
  | format => "pretty"

lemma get_default (s : Setting) : s.get {} = s.default := by cases s <;> rfl

lemma eq_of_get {c d : Config} (h : ∀ s : Setting, s.get c = s.get d) : c = d := by
  obtain ⟨⟨parallel, minGroups, minRows⟩, ⟨level, format⟩⟩ := c
  obtain rfl : parallel = d.engine.parallel := h .parallel
  obtain rfl : minGroups = d.engine.minGroups := h .minGroups
  obtain rfl : minRows = d.engine.minRows := h .minRows
  obtain rfl : level = d.logging.level := h .level
  obtain rfl : format = d.logging.format := h .format
  rfl

/-! ### Variables -/

def variableName : Setting → String
  | parallel => "CHRONOFRAME_PARALLEL"
  | minGroups => "CHRONOFRAME_PARALLEL_MIN_GROUPS"
  | minRows => "CHRONOFRAME_PARALLEL_MIN_ROWS"
  | level => "CHRONOFRAME_LOG_LEVEL"
  | format => "CHRONOFRAME_LOG_FORMAT"

lemma eq_of_variableName_eq {s s' : Setting} (h : s.variableName = s'.variableName) : s = s' := by
  revert h
  cases s <;> cases s' <;> decide

def switchWords : Bool → List String
  | true => ["1", "true", "yes", "on"]
  | false => ["0", "false", "no", "off"]

/-- A text is an unsigned number of 64 bits, perhaps with a plus sign. -/
def IsThreshold (text : String) (n : Nat) : Prop :=
  ∃ digits : List Char, (text.toList = digits ∨ text.toList = '+' :: digits) ∧ digits ≠ [] ∧
    digits.all Numeral.isDigit ∧ n = Numeral.toNat digits ∧ n < 2 ^ 64

/-- A text is valid in the variable of a setting and stands for a value: a switch is a word in any case,
a threshold a number, and any text will do for the others. -/
def Accepts : (s : Setting) → String → s.Value → Prop
  | parallel, text, v => text.toLower ∈ switchWords v
  | minGroups, text, n | minRows, text, n => IsThreshold text n
  | level, text, v | format, text, v => v = text

/-- The value that a text in the variable of a setting stands for. -/
def read? : (s : Setting) → String → Option s.Value
  | parallel => Config.readSwitch?
  | minGroups | minRows => Config.readThreshold?
  | level | format => some

/-- In the words of switches no letter stands that is the small letter of a character beyond ASCII. -/
lemma lowered_mem_switchWords_iff {text : String} {v : Bool} :
    Text.lowered text ∈ switchWords v ↔ text.toLower ∈ switchWords v := by
  have hword : ∀ word ∈ switchWords v, Text.lowered text = word ↔ text.toLower = word := by
    intro word hword
    have hall : (switchWords v).all fun word =>
        !word.toList.contains 'k' && !word.toList.contains '\u212A' := by
      cases v <;> decide
    have hplain := List.all_eq_true.mp hall word hword
    simp only [Bool.and_eq_true, Bool.not_eq_true', List.contains_eq_mem, decide_eq_false_iff_not]
      at hplain
    exact Text.lowered_eq_iff hplain.1 hplain.2
  exact ⟨fun h => (hword _ h).mp rfl ▸ h, fun h => (hword _ h).mpr rfl ▸ h⟩

lemma readSwitch?_eq_some_iff {text : String} {v : Bool} :
    Config.readSwitch? text = some v ↔ text.toLower ∈ switchWords v := by
  rw [← lowered_mem_switchWords_iff, Config.readSwitch?]
  generalize Text.lowered text = word
  constructor
  · intro h
    split at h
    case h_9 => cases h
    all_goals
      obtain rfl := Option.some.inj h
      decide
  · intro h
    cases v with
    | true | false =>
      simp only [switchWords, List.mem_cons, List.not_mem_nil, or_false] at h
      rcases h with rfl | rfl | rfl | rfl <;> rfl

lemma readThreshold?_eq_some_iff {text : String} {n : Nat} :
    Config.readThreshold? text = some n ↔ IsThreshold text n := by
  rw [Config.readThreshold?, Option.filter_eq_some_iff, Numeral.readCount?_eq_some_iff,
    decide_eq_true_eq, IsThreshold, exists_and_right.symm]
  refine exists_congr fun digits => ?_
  simp only [and_assoc]
  rfl

lemma read?_eq_some_iff {s : Setting} {text : String} {value : s.Value} :
    s.read? text = some value ↔ s.Accepts text value := by
  cases s with
  | parallel => exact readSwitch?_eq_some_iff
  | minGroups | minRows => exact readThreshold?_eq_some_iff
  | level | format => exact Option.some_inj.trans eq_comm

/-- Each setting is overridden by its own variable. -/
lemma get_override (s : Setting) (config : Config) (env : Environment) :
    s.get (config.override env) = ((env s.variableName).bind s.read?).getD (s.get config) := by
  cases s with
  | parallel | minGroups | minRows => rfl
  | level | format => exact congrArg (Option.getD · _) (Option.bind_fun_some _).symm

/-! ### Entries of files -/

def group : Setting → String
  | parallel | minGroups | minRows => "engine"
  | level | format => "logging"

/-- The names of the settings of the group of a setting. -/
def names : Setting → List String
  | parallel | minGroups | minRows => ["parallel", "parallel_min_groups", "parallel_min_rows"]
  | level | format => ["level", "format"]

def place : Setting → Nat
  | parallel => 0
  | minGroups => 1
  | minRows => 2
  | level => 0
  | format => 1

/-- The value of a setting that stands in a file, if it is of the type of the setting. -/
def ofToml? : (s : Setting) → Toml → Option s.Value
  | parallel => Config.boolean?
  | minGroups | minRows => Config.count?
  | level | format => Config.text?

/-- The entries of a file give a setting a value: what stands under its name in its group is of its type
and has this value, or nothing stands there and it is the default. -/
def IsGiven (s : Setting) (entries : Toml.Entries) (value : s.Value) : Prop :=
  match Toml.get? entries s.group with
  | none => value = s.default
  | some groupEntries => ∃ values, Config.values? s.names groupEntries = some values ∧
    match values[s.place]? with
    | some (some v) => s.ofToml? v = some value
    | _ => value = s.default

lemma setting?_eq_some_iff {s : Setting} {v : Option (Option Toml)} {value : s.Value} :
    Config.setting? s.ofToml? s.default v = some value ↔
      match v with
      | some (some v) => s.ofToml? v = some value
      | _ => value = s.default := by
  rcases v with - | - | v
  · exact Option.some_inj.trans eq_comm
  · exact Option.some_inj.trans eq_comm
  · exact Iff.rfl

lemma isGiven_of_get? {s : Setting} {entries : Toml.Entries} {v : Toml}
    (h : Toml.get? entries s.group = some v) {value : s.Value} : s.IsGiven entries value ↔
      ∃ values, Config.values? s.names v = some values ∧
        Config.setting? s.ofToml? s.default values[s.place]? = some value := by
  simp only [IsGiven, h, setting?_eq_some_iff]

lemma isGiven_of_get?_eq_none {s : Setting} {entries : Toml.Entries}
    (h : Toml.get? entries s.group = none) {value : s.Value} :
    s.IsGiven entries value ↔ value = s.default := by
  simp only [IsGiven, h]

variable {entries : Toml.Entries} {config : Config}

lemma engine?_eq_some_iff {v : Toml} {engine : EngineConfig} : Config.engine? v = some engine ↔
    ∃ values, Config.values? parallel.names v = some values ∧
      Config.setting? Config.boolean? true values[0]? = some engine.parallel ∧
      Config.setting? Config.count? 64 values[1]? = some engine.minGroups ∧
      Config.setting? Config.count? 100000 values[2]? = some engine.minRows := by
  obtain ⟨switch, groups, rows⟩ := engine
  simp only [Config.engine?, Option.bind_eq_bind, Option.bind_eq_some_iff, Option.some.injEq,
    EngineConfig.mk.injEq]
  simp [names]

lemma logging?_eq_some_iff {v : Toml} {logging : LoggingConfig} :
    Config.logging? v = some logging ↔
      ∃ values, Config.values? level.names v = some values ∧
        Config.setting? Config.text? "warn" values[0]? = some logging.level ∧
        Config.setting? Config.text? "pretty" values[1]? = some logging.format := by
  obtain ⟨logLevel, logFormat⟩ := logging
  simp only [Config.logging?, Option.bind_eq_bind, Option.bind_eq_some_iff, Option.some.injEq,
    LoggingConfig.mk.injEq]
  simp [names]

/-- The settings of the engine are given one by one. -/
lemma engine_isGiven_iff :
    Config.setting? Config.engine? {} (some (Toml.get? entries "engine")) = some config.engine ↔
      parallel.IsGiven entries (parallel.get config) ∧
        minGroups.IsGiven entries (minGroups.get config) ∧
          minRows.IsGiven entries (minRows.get config) := by
  rcases hget : Toml.get? entries "engine" with - | v
  · rw [isGiven_of_get?_eq_none hget, isGiven_of_get?_eq_none hget, isGiven_of_get?_eq_none hget]
    change some _ = some _ ↔ config.engine.parallel = true ∧ config.engine.minGroups = 64 ∧
      config.engine.minRows = 100000
    obtain ⟨⟨switch, groups, rows⟩, logging⟩ := config
    rw [Option.some.injEq, eq_comm, EngineConfig.mk.injEq]
  · rw [isGiven_of_get? hget, isGiven_of_get? hget, isGiven_of_get? hget]
    refine engine?_eq_some_iff.trans ⟨?_, ?_⟩
    · rintro ⟨values, hvalues, hparallel, hgroups, hrows⟩
      exact ⟨⟨values, hvalues, hparallel⟩, ⟨values, hvalues, hgroups⟩, values, hvalues, hrows⟩
    -- The three settings are looked up in one section, so what they find it to be is the same.
    · rintro ⟨⟨values, hvalues, hparallel⟩, ⟨values', hgroups', hgroups⟩, values'', hrows', hrows⟩
      obtain rfl := Option.some.inj (hvalues.symm.trans hgroups')
      obtain rfl := Option.some.inj (hvalues.symm.trans hrows')
      exact ⟨values, hvalues, hparallel, hgroups, hrows⟩

/-- The settings of logging are given one by one. -/
lemma logging_isGiven_iff :
    Config.setting? Config.logging? {} (some (Toml.get? entries "logging")) = some config.logging ↔
      level.IsGiven entries (level.get config) ∧ format.IsGiven entries (format.get config) := by
  rcases hget : Toml.get? entries "logging" with - | v
  · rw [isGiven_of_get?_eq_none hget, isGiven_of_get?_eq_none hget]
    change some _ = some _ ↔ config.logging.level = "warn" ∧ config.logging.format = "pretty"
    obtain ⟨engine, logLevel, logFormat⟩ := config
    rw [Option.some.injEq, eq_comm, LoggingConfig.mk.injEq]
  · rw [isGiven_of_get? hget, isGiven_of_get? hget]
    refine logging?_eq_some_iff.trans ⟨?_, ?_⟩
    · rintro ⟨values, hvalues, hlevel, hformat⟩
      exact ⟨⟨values, hvalues, hlevel⟩, values, hvalues, hformat⟩
    · rintro ⟨⟨values, hvalues, hlevel⟩, values', hvalues', hformat⟩
      obtain rfl := Option.some.inj (hvalues.symm.trans hvalues')
      exact ⟨values, hvalues, hlevel, hformat⟩

/-- The text of a file makes sense if and only if each setting is given a value. -/
lemma parse?_eq_some_iff {text : String} : Config.parse? text = some config ↔
    ∃ entries, Toml.parse? text.toList = some entries ∧
      ∀ s : Setting, s.IsGiven entries (s.get config) := by
  have hgiven : ∀ entries, (∀ s : Setting, s.IsGiven entries (s.get config)) ↔
      Config.setting? Config.engine? {} (some (Toml.get? entries "engine")) = some config.engine ∧
        Config.setting? Config.logging? {} (some (Toml.get? entries "logging")) =
          some config.logging := by
    intro entries
    rw [engine_isGiven_iff, logging_isGiven_iff]
    constructor
    · intro h
      exact ⟨⟨h _, h _, h _⟩, h _, h _⟩
    · rintro ⟨⟨hparallel, hgroups, hrows⟩, hlevel, hformat⟩ s
      cases s
      exacts [hparallel, hgroups, hrows, hlevel, hformat]
  simp only [hgiven, Config.parse?, Option.bind_eq_bind, Option.bind_eq_some_iff]
  obtain ⟨engine, logging⟩ := config
  simp

/-- What stands in a file gives a setting one value only. -/
lemma IsGiven.unique {s : Setting} {value value' : s.Value} (h : s.IsGiven entries value)
    (h' : s.IsGiven entries value') : value = value' := by
  rcases hget : Toml.get? entries s.group with - | v
  · rw [(isGiven_of_get?_eq_none hget).mp h, (isGiven_of_get?_eq_none hget).mp h']
  · obtain ⟨values, hvalues, hvalue⟩ := (isGiven_of_get? hget).mp h
    obtain ⟨values', hvalues', hvalue'⟩ := (isGiven_of_get? hget).mp h'
    obtain rfl := Option.some.inj (hvalues.symm.trans hvalues')
    exact Option.some.inj (hvalue.symm.trans hvalue')

/-! ### Files -/

/-- The text of a file makes sense: it is a document in which each setting is given a value. -/
def MakesSense (text : String) : Prop :=
  ∃ entries, Toml.parse? text.toList = some entries ∧ ∀ s : Setting, ∃ value, s.IsGiven entries value

lemma makesSense_iff {text : String} : MakesSense text ↔ ∃ config, Config.parse? text = some config := by
  simp only [parse?_eq_some_iff]
  constructor
  · rintro ⟨entries, hentries, hgiven⟩
    choose value hvalue using hgiven
    refine ⟨⟨⟨value .parallel, value .minGroups, value .minRows⟩, value .level, value .format⟩,
      entries, hentries, ?_⟩
    intro s
    cases s <;> exact hvalue _
  · rintro ⟨config, entries, hentries, hgiven⟩
    exact ⟨entries, hentries, fun s => ⟨_, hgiven s⟩⟩

/-- A file that is not there, or one whose text makes no sense. -/
def Unreadable (file : Option String) : Prop := ∀ text, file = some text → ¬MakesSense text

lemma unreadable_iff {file : Option String} : Unreadable file ↔ file.bind Config.parse? = none := by
  cases file with
  | none => simp [Unreadable]
  | some text => simp [Unreadable, makesSense_iff, Option.eq_none_iff_forall_ne_some]

/-- Where a setting has its value from: a valid variable, or else the first file that makes sense, or else
nowhere. -/
inductive IsFound (s : Setting) (files : List (Option String)) (env : Environment) :
    s.Value → Prop where
  | inVariable (text : String) (value : s.Value) (hset : env s.variableName = some text)
      (hvalid : s.Accepts text value) : s.IsFound files env value
  | inFile (before : List (Option String)) (text : String) (after : List (Option String))
      (entries : Toml.Entries) (value : s.Value)
      (hvariable : ∀ text value, env s.variableName = some text → ¬s.Accepts text value)
      (hfiles : files = before ++ some text :: after) (hbefore : ∀ file ∈ before, Unreadable file)
      (hsense : MakesSense text) (hentries : Toml.parse? text.toList = some entries)
      (hgiven : s.IsGiven entries value) : s.IsFound files env value
  | nowhere (hvariable : ∀ text value, env s.variableName = some text → ¬s.Accepts text value)
      (hfiles : ∀ file ∈ files, Unreadable file) : s.IsFound files env s.default

variable {files before after : List (Option String)} {env : Environment} {text : String} {s : Setting}

lemma findSome?_of_unreadable (h : ∀ file ∈ files, Unreadable file) :
    files.findSome? (fun file => file.bind Config.parse?) = none :=
  List.findSome?_eq_none_iff.mpr fun file hfile => unreadable_iff.mp (h file hfile)

/-- A file that is not there or makes no sense is passed over. -/
lemma loadDefault_append_unreadable {file : Option String} (h : Unreadable file) :
    Config.loadDefault (before ++ file :: after) env = Config.loadDefault (before ++ after) env := by
  rw [Config.loadDefault, Config.loadDefault, List.findSome?_append, List.findSome?_append,
    List.findSome?_cons, unreadable_iff.mp h]

lemma bind_read?_eq_none_iff : (env s.variableName).bind s.read? = none ↔
    ∀ text value, env s.variableName = some text → ¬s.Accepts text value := by
  simp only [Option.eq_none_iff_forall_ne_some, ne_eq, Option.bind_eq_some_iff, not_exists, not_and,
    read?_eq_some_iff]
  exact ⟨fun h text value => h value text, fun h value text => h text value⟩

/-- The settings of the first file that makes sense, or else the default ones. -/
def ofFiles (files : List (Option String)) : Config :=
  (files.findSome? fun file => file.bind Config.parse?).getD {}

lemma get_loadDefault (s : Setting) (files : List (Option String)) (env : Environment) :
    s.get (Config.loadDefault files env) =
      ((env s.variableName).bind s.read?).getD (s.get (ofFiles files)) :=
  get_override s _ env

lemma ofFiles_of_unreadable (h : ∀ file ∈ files, Unreadable file) : ofFiles files = {} := by
  rw [ofFiles, findSome?_of_unreadable h, Option.getD_none]

lemma ofFiles_of_first (h : ∀ file ∈ before, Unreadable file)
    (hparse : Config.parse? text = some config) : ofFiles (before ++ some text :: after) = config := by
  rw [ofFiles, List.findSome?_append, findSome?_of_unreadable h, Option.none_or, List.findSome?_cons,
    Option.bind_some, hparse]
  rfl

/-- Each setting is found somewhere. -/
lemma isFound_loadDefault (s : Setting) (files : List (Option String)) (env : Environment) :
    s.IsFound files env (s.get (Config.loadDefault files env)) := by
  rw [get_loadDefault]
  rcases hread : (env s.variableName).bind s.read? with - | value
  -- The variable counts first; if it says nothing then the first file that makes sense does.
  · have hvariable := bind_read?_eq_none_iff.mp hread
    rw [Option.getD_none]
    rcases hfiles : files.findSome? (fun file => file.bind Config.parse?) with - | config
    · have hunreadable : ∀ file ∈ files, Unreadable file := fun file hfile =>
        unreadable_iff.mpr (List.findSome?_eq_none_iff.mp hfiles file hfile)
      rw [ofFiles_of_unreadable hunreadable, get_default]
      exact .nowhere hvariable hunreadable
    · obtain ⟨before, file, after, rfl, hparse, hbefore⟩ := List.findSome?_eq_some_iff.mp hfiles
      obtain ⟨text, rfl, hparse⟩ := Option.bind_eq_some_iff.mp hparse
      have hunreadable : ∀ file ∈ before, Unreadable file := fun file hfile =>
        unreadable_iff.mpr (hbefore file hfile)
      obtain ⟨entries, hentries, hgiven⟩ := parse?_eq_some_iff.mp hparse
      rw [ofFiles_of_first hunreadable hparse]
      exact .inFile before text after entries _ hvariable rfl hunreadable
        (makesSense_iff.mpr ⟨config, hparse⟩) hentries (hgiven s)
  · obtain ⟨text, hset, hvalue⟩ := Option.bind_eq_some_iff.mp hread
    exact .inVariable text value hset (read?_eq_some_iff.mp hvalue)

/-- Where a setting is found, there it is taken from. -/
lemma get_loadDefault_of_isFound {value : s.Value} (h : s.IsFound files env value) :
    s.get (Config.loadDefault files env) = value := by
  rw [get_loadDefault]
  cases h with
  | inVariable text value hset hvalid =>
    rw [hset, Option.bind_some, read?_eq_some_iff.mpr hvalid, Option.getD_some]
  | inFile before text after entries value hvariable hfiles hbefore hsense hentries hgiven =>
    obtain ⟨config, hparse⟩ := makesSense_iff.mp hsense
    obtain ⟨entries', hentries', hgiven'⟩ := parse?_eq_some_iff.mp hparse
    obtain rfl := Option.some.inj (hentries.symm.trans hentries')
    rw [bind_read?_eq_none_iff.mpr hvariable, Option.getD_none, hfiles, ofFiles_of_first hbefore hparse]
    exact (hgiven' s).unique hgiven
  | nowhere hvariable hfiles =>
    rw [bind_read?_eq_none_iff.mpr hvariable, Option.getD_none, ofFiles_of_unreadable hfiles,
      get_default]

/-- A setting looks at its own variable only. -/
lemma get_loadDefault_congr {env' : Environment} (h : env' s.variableName = env s.variableName) :
    s.get (Config.loadDefault files env') = s.get (Config.loadDefault files env) := by
  rw [get_loadDefault, get_loadDefault, h]

/-- A variable that is not valid counts as one that is not set. -/
lemma loadDefault_unset (h : ∀ text value, env s.variableName = some text → ¬s.Accepts text value) :
    Config.loadDefault files (fun name => if name = s.variableName then none else env name) =
      Config.loadDefault files env := by
  refine eq_of_get fun s' => ?_
  by_cases hs : s' = s
  · subst hs
    rw [get_loadDefault, get_loadDefault, if_pos rfl, bind_read?_eq_none_iff.mpr h, Option.bind_none]
  · exact get_loadDefault_congr (if_neg (mt eq_of_variableName_eq hs))

end Setting

/-! ### Loading -/

section

variable {ε α β : Type} {m : Type → Type} [Monad m] [LawfulMonad m]

/-- Steps of which none fails give all their results. -/
lemma run_mapM_of_map_ok {f : α → ExceptT ε m β} {g : α → m β}
    (h : ∀ x, (f x).run = Except.ok <$> g x) (xs : List α) :
    (xs.mapM f).run = Except.ok <$> xs.mapM g := by
  induction xs with
  | nil => simp
  | cons x xs ih =>
    rw [List.mapM_cons, List.mapM_cons, ExceptT.run_bind, h]
    simp only [bind_map_left, ExceptT.run_bind, ExceptT.run_pure, ih, map_bind, map_pure]

/-- Without a file that is asked for, those of the user and of the folder are tried in this order, and
loading does not fail. -/
lemma Host.run_loadConfig_none (host : Host m) :
    (host.loadConfig none).run = (fun files => .ok (Config.loadDefault files host.env)) <$>
      (host.env.userConfig?.toList ++ ["./chronoframe.toml"]).mapM fun path =>
        Except.toOption <$> host.readText path := by
  have hread : ∀ path, (do
      let file ← host.readText path
      pure file.toOption : ExceptT Report m (Option String)).run =
        Except.ok <$> (Except.toOption <$> host.readText path) := by
    intro path
    simp only [bind_pure_comp, ExceptT.run_map, ExceptT.run_liftM, Functor.map_map]
    rfl
  rw [Host.loadConfig, ExceptT.run_bind, run_mapM_of_map_ok hread, bind_map_left]
  simp only [ExceptT.run_pure]
  rw [bind_pure_comp]

end

/-- The settings are loaded without a failure from the files of the user and of the folder, tried in this
order. Each setting has the value of its variable if that is set and valid, or else what the first file
that makes sense gives it, or else its default. It looks at no other variable; a variable that is not
valid is like one that is not set, and a file that makes no sense like one that is not there. -/
theorem loadDefault_isFound :
    (∀ {m : Type → Type} [Monad m] [LawfulMonad m] (host : Host m),
      (host.loadConfig none).run = (fun files => .ok (Config.loadDefault files host.env)) <$>
        (host.env.userConfig?.toList ++ ["./chronoframe.toml"]).mapM fun path =>
          Except.toOption <$> host.readText path) ∧
    (∀ files env (s : Setting) value,
      s.get (Config.loadDefault files env) = value ↔ s.IsFound files env value) ∧
    (∀ files env env' (s : Setting), env' s.variableName = env s.variableName →
      s.get (Config.loadDefault files env') = s.get (Config.loadDefault files env)) ∧
    (∀ files env (s : Setting),
      (∀ text value, env s.variableName = some text → ¬s.Accepts text value) →
      Config.loadDefault files (fun name => if name = s.variableName then none else env name) =
        Config.loadDefault files env) ∧
    ∀ before file after env, Setting.Unreadable file →
      Config.loadDefault (before ++ file :: after) env = Config.loadDefault (before ++ after) env := by
  refine ⟨Host.run_loadConfig_none, ?_, ?_, ?_, ?_⟩
  · intro files env s value
    constructor
    · rintro rfl
      exact Setting.isFound_loadDefault s files env
    · exact Setting.get_loadDefault_of_isFound
  · intro files env env' s h
    exact Setting.get_loadDefault_congr h
  · intro files env s h
    exact Setting.loadDefault_unset h
  · intro before file after env h
    exact Setting.loadDefault_append_unreadable h

/-- A switch that is no word, a threshold that is set, a file with an open header, and one that gives a
single setting; and a system without any file. -/
theorem loadDefault_isFound_layers :
    let env : Environment := fun name =>
      if name = "CHRONOFRAME_PARALLEL" then some "maybe"
      else if name = "CHRONOFRAME_PARALLEL_MIN_ROWS" then some "+7"
      else none
    let files := [some "[engine", some "[engine]\nparallel = false\n"]
    let unset : Environment := fun name => if name = "CHRONOFRAME_PARALLEL" then none else env name
    let host : Host Id := ⟨env, fun _ => .error (.unopened "no such file"), fun _ _ => .ok ()⟩
    Setting.Unreadable (some "[engine") ∧
    (∀ text value, env Setting.parallel.variableName = some text →
      ¬Setting.parallel.Accepts text value) ∧
    Setting.parallel.get (Config.loadDefault files env) = false ∧
    Setting.minRows.get (Config.loadDefault files env) = (7 : Nat) ∧
    Setting.level.get (Config.loadDefault files env) = "warn" ∧
    Setting.minRows.get (Config.loadDefault files unset) =
      Setting.minRows.get (Config.loadDefault files env) ∧
    Config.loadDefault files unset = Config.loadDefault files env ∧
    Config.loadDefault files env = Config.loadDefault [some "[engine]\nparallel = false\n"] env ∧
    (host.loadConfig none).run = .ok (Config.loadDefault [none] env) := by
  intro env files unset host
  obtain ⟨hhost, hfound, hown, hunset, hunreadable⟩ := loadDefault_isFound
  have hopen : Setting.Unreadable (some "[engine") := Setting.unreadable_iff.mpr (by decide +kernel)
  have hbefore : ∀ file ∈ [some "[engine"], Setting.Unreadable file := by
    intro file hfile
    exact List.mem_singleton.mp hfile ▸ hopen
  have hparse : Config.parse? "[engine]\nparallel = false\n" =
      some { engine := { parallel := false } } := by decide +kernel
  obtain ⟨entries, hentries, hgiven⟩ := Setting.parse?_eq_some_iff.mp hparse
  have hsense := Setting.makesSense_iff.mpr ⟨_, hparse⟩
  have hswitch : ∀ text value, env Setting.parallel.variableName = some text →
      ¬Setting.parallel.Accepts text value := by
    intro text value htext
    obtain rfl := Option.some.inj htext
    intro haccepts
    have hnone : Config.readSwitch? "maybe" = none := by decide
    rw [Setting.readSwitch?_eq_some_iff.mpr haccepts] at hnone
    cases hnone
  have hlevel : ∀ text value, env Setting.level.variableName = some text →
      ¬Setting.level.Accepts text value := by
    intro text value htext
    cases htext
  refine ⟨hopen, hswitch, (hfound _ _ _ _).mpr ?_, (hfound _ _ _ _).mpr ?_, (hfound _ _ _ _).mpr ?_,
    hown _ _ _ _ rfl, hunset _ _ .parallel hswitch, hunreadable [] _ _ _ hopen, hhost host⟩
  · exact .inFile [_] _ [] entries _ hswitch rfl hbefore hsense hentries (hgiven .parallel)
  · exact .inVariable "+7" _ rfl ⟨['7'], .inr rfl, by decide, by decide, by decide, by decide⟩
  · exact .inFile [_] _ [] entries _ hlevel rfl hbefore hsense hentries (hgiven .level)

end TimeTable
